import MercuryX.ContextPrediction.Contracts
import MercuryX.Foundation.Rounding

/-!
# Scores of predictions

A feature vector says what is known about a candidate, each feature between zero and one. Fixed
weights make a score of it, in which missing evidence counts for nothing. The features that are
high say how far ahead the prediction looks and for which reasons it is made. Whatever the vector
is, its score is one that the contract of scored predictions accepts.
-/

namespace MercuryX
namespace ContextPrediction

open Foundation

/-- The most reason codes of a prediction. -/
def maxReasonCodes : Nat := 16

/-! ## Enumerations -/

/-- The text of a horizon. -/
def ContextPredictionHorizon.value : ContextPredictionHorizon → String
  | nextTurn => "NEXT_TURN"
  | nextTask => "NEXT_TASK"
  | sessionNearTerm => "SESSION_NEAR_TERM"

/-- The bands of confidence. -/
inductive ContextConfidenceBand where
  | low
  | medium
  | high
  deriving DecidableEq, Repr

/-- The text of a band. -/
def ContextConfidenceBand.value : ContextConfidenceBand → String
  | low => "LOW"
  | medium => "MEDIUM"
  | high => "HIGH"

/-- Whether a confidence was fitted to observations. -/
inductive ContextCalibrationStatus where
  | uncalibrated
  | empiricallyCalibrated
  deriving DecidableEq, Repr

/-- The reasons for a prediction. -/
inductive ContextPredictionReasonCode where
  | taskContinuity
  | contextRecurrence
  | dependencyAdjacency
  | sourceLineageOverlap
  | artifactContinuity
  | sessionGlobalAgreement
  | conflictPresent
  | nearTermSessionSignal
  deriving DecidableEq, Repr

/-- The text of a reason. -/
def ContextPredictionReasonCode.value : ContextPredictionReasonCode → String
  | taskContinuity => "TASK_CONTINUITY"
  | contextRecurrence => "CONTEXT_RECURRENCE"
  | dependencyAdjacency => "DEPENDENCY_ADJACENCY"
  | sourceLineageOverlap => "SOURCE_LINEAGE_OVERLAP"
  | artifactContinuity => "ARTIFACT_CONTINUITY"
  | sessionGlobalAgreement => "SESSION_GLOBAL_AGREEMENT"
  | conflictPresent => "CONFLICT_PRESENT"
  | nearTermSessionSignal => "NEAR_TERM_SESSION_SIGNAL"

/-! ## Feature vectors -/

/-- What is known about a candidate. -/
structure ContextPredictionFeatureVector where
  candidateId : String
  recency : Option ℚ := none
  taskContinuity : ℚ
  contextKeyRecurrence : ℚ
  dependencyAdjacency : ℚ
  sourceLineageOverlap : ℚ
  artifactContinuity : ℚ
  sessionGlobalAgreement : ℚ
  lifecycleEligibility : ℚ
  conflictState : ℚ
  horizonCompatibility : ℚ
  /-- The candidate is named. -/
  candidateId_nonblank : Text.Nonblank candidateId
  /-- Features are between zero and one. -/
  within : ∀ value ∈ recency.toList ++ [taskContinuity, contextKeyRecurrence, dependencyAdjacency,
    sourceLineageOverlap, artifactContinuity, sessionGlobalAgreement, lifecycleEligibility,
    conflictState, horizonCompatibility], 0 ≤ value ∧ value ≤ 1

/-! ## Scores -/

/-- The features with their weights, in the order in which they are added up. -/
def weights (features : ContextPredictionFeatureVector) : List (Option ℚ × ℚ) := [
  (features.recency, 10 / 100),
  (features.taskContinuity, 20 / 100),
  (features.contextKeyRecurrence, 10 / 100),
  (features.dependencyAdjacency, 15 / 100),
  (features.sourceLineageOverlap, 10 / 100),
  (features.artifactContinuity, 10 / 100),
  (features.sessionGlobalAgreement, 10 / 100),
  (features.lifecycleEligibility, 5 / 100),
  (features.conflictState, 5 / 100),
  (features.horizonCompatibility, 5 / 100)]

/-- The weighted sum of the features; missing evidence adds nothing. -/
def weightedSum (features : ContextPredictionFeatureVector) : ℚ :=
  (weights features).foldl (fun sum entry => sum + entry.1.getD 0 * entry.2) 0

/-- The confidence of a vector, to twelve places. -/
def confidenceOf (features : ContextPredictionFeatureVector) : ℚ :=
  roundTo 12 (max 0 (min 1 (weightedSum features)))

/-- The band of a confidence. -/
def band (confidence : ℚ) : ContextConfidenceBand :=
  if confidence < 40 / 100 then .low
  else if confidence < 75 / 100 then .medium
  else .high

/-- How far ahead a vector looks. -/
def horizonOf (features : ContextPredictionFeatureVector) : ContextPredictionHorizon :=
  if 75 / 100 ≤ features.taskContinuity then .nextTurn
  else if 75 / 100 ≤ features.dependencyAdjacency ∨ 75 / 100 ≤ features.sourceLineageOverlap then
    .nextTask
  else .sessionNearTerm

/-- Which reasons a vector has. -/
def signals (features : ContextPredictionFeatureVector) :
    List (Bool × ContextPredictionReasonCode) := [
  (75 / 100 ≤ features.taskContinuity, .taskContinuity),
  (0 < features.contextKeyRecurrence, .contextRecurrence),
  (75 / 100 ≤ features.dependencyAdjacency, .dependencyAdjacency),
  (0 < features.sourceLineageOverlap, .sourceLineageOverlap),
  (0 < features.artifactContinuity, .artifactContinuity),
  (0 < features.sessionGlobalAgreement, .sessionGlobalAgreement),
  (features.conflictState < 1, .conflictPresent)]

/-- The reasons of a vector, of which there is always one. -/
def reasonsOf (features : ContextPredictionFeatureVector) : List ContextPredictionReasonCode :=
  let reasons := ((signals features).filter Prod.fst).map Prod.snd
  canonical ContextPredictionReasonCode.value
    (if reasons = [] then [.nearTermSessionSignal] else reasons)

/-- What scoring makes of a vector. -/
structure PredictionScore where
  horizon : ContextPredictionHorizon
  confidence : ℚ
  confidenceBand : ContextConfidenceBand
  reasons : List ContextPredictionReasonCode

/-- The score of a vector. -/
def scoreOf (features : ContextPredictionFeatureVector) : PredictionScore where
  horizon := horizonOf features
  confidence := confidenceOf features
  confidenceBand := band (confidenceOf features)
  reasons := reasonsOf features

/-- Score a vector. -/
def scorePrediction (features : ContextPredictionFeatureVector) : Except Fault PredictionScore := do
  let score := scoreOf features
  require (score.reasons.length ≤ maxReasonCodes) (.value "too many reason codes")
  return score

section Scores

variable (features : ContextPredictionFeatureVector)

theorem confidenceOf_within : 0 ≤ confidenceOf features ∧ confidenceOf features ≤ 1 := by
  refine ⟨roundTo_nonneg (le_max_left _ _), ?_⟩
  have clipped : max 0 (min 1 (weightedSum features)) ≤ ((1 : ℤ) : ℚ) := by simp
  have below : confidenceOf features ≤ ((1 : ℤ) : ℚ) := roundTo_le clipped
  simpa using below

theorem reasonsOf_ne_nil : reasonsOf features ≠ [] := by
  refine canonical_ne_nil _ ?_
  split
  · exact List.cons_ne_nil _ _
  · assumption

theorem length_reasonsOf : (reasonsOf features).length ≤ maxReasonCodes := by
  rw [reasonsOf, canonical, length_sortOn]
  refine (List.dedup_sublist _).length_le.trans ?_
  split
  · decide
  · rw [List.length_map]
    exact (List.length_filter_le _ _).trans (by simp [signals, maxReasonCodes])

theorem canonical_reasonsOf :
    canonical ContextPredictionReasonCode.value (reasonsOf features) = reasonsOf features :=
  canonical_canonical _ _

theorem scorePrediction_eq_ok : scorePrediction features = .ok (scoreOf features) := by
  have few : (scoreOf features).reasons.length ≤ maxReasonCodes := length_reasonsOf features
  simp [scorePrediction, require_of_true few]

end Scores

end ContextPrediction
end MercuryX
