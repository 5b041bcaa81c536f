import MercuryX.ContextPrediction.Scoring
import MercuryX.Foundation.Dict

/-!
# Prediction backends

A backend gives candidates their scores. The default one scores the feature vector of a candidate
by fixed weights and leaves out the candidates of other horizons than the one that is asked for.
Its scores claim no calibration.
-/

namespace MercuryX
namespace ContextPrediction

open Foundation

/-! ## Scored predictions -/

/-- The score of a candidate, as it is given. -/
structure ScoredFields where
  candidateId : String
  predictionHorizon : ContextPredictionHorizon
  rawScore : ℚ
  confidenceBand : ContextConfidenceBand
  reasonCodes : List ContextPredictionReasonCode
  calibrationStatus : ContextCalibrationStatus := .uncalibrated
  calibrationEvidence : List String := []

/-- What the contract asks of the score of a candidate. -/
structure ScoredFields.Valid (given : ScoredFields) : Prop where
  /-- The candidate is named. -/
  candidateId : Text.Nonblank given.candidateId
  /-- The score is between zero and one. -/
  rawScore : 0 ≤ given.rawScore ∧ given.rawScore ≤ 1
  /-- No calibration is claimed. -/
  uncalibrated : given.calibrationStatus = .uncalibrated ∧ given.calibrationEvidence = []
  /-- There are reasons, and not too many. -/
  reasons : given.reasonCodes ≠ [] ∧ given.reasonCodes.length ≤ maxReasonCodes
  /-- Each reason stands once, in the order of the texts. -/
  reasons_canonical :
    given.reasonCodes = canonical ContextPredictionReasonCode.value given.reasonCodes
  /-- The band is that of the score. -/
  confidenceBand : given.confidenceBand = band given.rawScore

/-- The check of the score of a candidate. -/
def ScoredFields.check (given : ScoredFields) : Except Fault Unit := do
  let contract := "ScoredContextPrediction"
  rule contract "candidate_id" (Text.Nonblank given.candidateId) "candidate identity required"
  fieldWithin contract "raw_score" 0 1 given.rawScore
  rule contract ""
    (given.calibrationStatus = .uncalibrated ∧ given.calibrationEvidence = [])
    "baseline backend cannot claim empirical calibration"
  rule contract "" (given.reasonCodes ≠ [] ∧ given.reasonCodes.length ≤ maxReasonCodes)
    "bounded nonempty reasons required"
  rule contract ""
    (given.reasonCodes = canonical ContextPredictionReasonCode.value given.reasonCodes)
    "canonical reasons required"
  rule contract "" (given.confidenceBand = band given.rawScore) "backend confidence band mismatch"

theorem ScoredFields.check_eq_ok {given : ScoredFields} {done : Unit} :
    given.check = .ok done ↔ given.Valid := by
  simp only [check, bind_eq_ok, rule_eq_ok, fieldWithin_eq_ok, exists_and_left, exists_const]
  constructor
  · rintro ⟨candidateId, rawScore, uncalibrated, reasons, reasonsCanonical, confidenceBand⟩
    exact ⟨candidateId, rawScore, uncalibrated, reasons, reasonsCanonical, confidenceBand⟩
  · rintro ⟨candidateId, rawScore, uncalibrated, reasons, reasonsCanonical, confidenceBand⟩
    exact ⟨candidateId, rawScore, uncalibrated, reasons, reasonsCanonical, confidenceBand⟩

/-- The score of a candidate. -/
structure ScoredContextPrediction extends ScoredFields where
  /-- The contract holds. -/
  valid : toScoredFields.Valid

/-- Construct the score of a candidate. -/
def ScoredContextPrediction.construct (given : ScoredFields) :
    Except Fault ScoredContextPrediction :=
  checked ScoredFields.check ScoredFields.check_eq_ok ScoredContextPrediction.mk given

/-! ## Backends -/

variable (digest : Digest)

/-- What gives the candidates of a request their scores, from their feature vectors and the horizon
that is asked for. -/
structure ContextPredictionBackend where
  predict : List ContextPredictionFeatureVector → List (ContextPredictionCandidate digest) →
    Option ContextPredictionHorizon → Except Fault (List ScoredContextPrediction)

/-- The feature vectors by their candidates, the last one of each. -/
def featureById (features : List ContextPredictionFeatureVector) :
    Dict String ContextPredictionFeatureVector :=
  Dict.indexed ContextPredictionFeatureVector.candidateId features

/-- The score that a vector gives to its candidate. -/
def scoredFields (candidateId : String) (score : PredictionScore) : ScoredFields where
  candidateId := candidateId
  predictionHorizon := score.horizon
  rawScore := score.confidence
  confidenceBand := score.confidenceBand
  reasonCodes := score.reasons

/-- Score one candidate, unless its horizon is not asked for. -/
def scoreCandidate (features : List ContextPredictionFeatureVector)
    (horizon : Option ContextPredictionHorizon) (candidateId : String) :
    Except Fault (Option ScoredContextPrediction) :=
  match (featureById features).get? candidateId with
  | none => .error (.missingKey candidateId)
  | some vector => do
      let score ← scorePrediction vector
      if horizon = none ∨ horizon = some score.horizon then
        return some (← ScoredContextPrediction.construct (scoredFields candidateId score))
      else
        return none

/-- The candidate and feature identities are the same, and no vector is given twice. -/
def MatchingIdentities (features : List ContextPredictionFeatureVector)
    (candidateIds : List String) : Prop :=
  (features.map fun vector => vector.candidateId).Nodup ∧
    (features.map fun vector => vector.candidateId).toFinset = candidateIds.toFinset

instance (features : List ContextPredictionFeatureVector) (candidateIds : List String) :
    Decidable (MatchingIdentities features candidateIds) :=
  inferInstanceAs (Decidable (_ ∧ _))

/-- The default backend, with transparent fixed weights. -/
def deterministicWeightedPredictionBackend : ContextPredictionBackend digest where
  predict features candidates horizon := do
    let candidateIds := candidates.map fun candidate => candidate.candidateId
    require (MatchingIdentities features candidateIds)
      (.value "backend candidate/feature identities must match")
    let scores ← candidateIds.mapM (scoreCandidate features horizon)
    return scores.reduceOption

/-! ## What the default backend answers -/

section Answers

variable {digest}

theorem scoredFields_valid (vector : ContextPredictionFeatureVector) :
    (scoredFields vector.candidateId (scoreOf vector)).Valid where
  candidateId := vector.candidateId_nonblank
  rawScore := confidenceOf_within vector
  uncalibrated := ⟨rfl, rfl⟩
  reasons := ⟨reasonsOf_ne_nil vector, length_reasonsOf vector⟩
  reasons_canonical := (canonical_reasonsOf vector).symm
  confidenceBand := rfl

/-- The score of the candidate of a vector. -/
def scored (vector : ContextPredictionFeatureVector) : ScoredContextPrediction :=
  ⟨_, scoredFields_valid vector⟩

/-- The vector looks as far ahead as is asked for. -/
def Asked (horizon : Option ContextPredictionHorizon) (vector : ContextPredictionFeatureVector) :
    Prop :=
  horizon = none ∨ horizon = some (horizonOf vector)

instance (horizon : Option ContextPredictionHorizon) (vector : ContextPredictionFeatureVector) :
    Decidable (Asked horizon vector) :=
  inferInstanceAs (Decidable (_ ∨ _))

/-- The vector of a candidate, if it looks as far ahead as is asked for. -/
def askedVector (features : List ContextPredictionFeatureVector)
    (horizon : Option ContextPredictionHorizon) (candidateId : String) :
    Option ContextPredictionFeatureVector :=
  ((featureById features).get? candidateId).filter fun vector => Asked horizon vector

variable {features : List ContextPredictionFeatureVector}
  {horizon : Option ContextPredictionHorizon} {candidateId : String}

theorem askedVector_eq_some_iff
    (distinct : (features.map fun vector => vector.candidateId).Nodup)
    {vector : ContextPredictionFeatureVector} :
    askedVector features horizon candidateId = some vector ↔
      (vector ∈ features ∧ vector.candidateId = candidateId) ∧ Asked horizon vector := by
  rw [askedVector, Option.filter_eq_some_iff, decide_eq_true_eq, featureById,
    Dict.indexed_get?_eq_some_iff distinct]

theorem askedVector_perm {others : List ContextPredictionFeatureVector}
    (perm : others.Perm features)
    (distinct : (features.map fun vector => vector.candidateId).Nodup) :
    askedVector others horizon candidateId = askedVector features horizon candidateId := by
  ext vector
  rw [askedVector_eq_some_iff distinct,
    askedVector_eq_some_iff ((perm.map _).nodup_iff.mpr distinct), perm.mem_iff]

theorem scoreCandidate_eq_ok (given : candidateId ∈ features.map fun vector => vector.candidateId)
    (distinct : (features.map fun vector => vector.candidateId).Nodup) :
    scoreCandidate features horizon candidateId =
      .ok ((askedVector features horizon candidateId).map scored) := by
  obtain ⟨vector, member, rfl⟩ := List.mem_map.mp given
  have found : (featureById features).get? vector.candidateId = some vector :=
    (Dict.indexed_get?_eq_some_iff distinct).mpr ⟨member, rfl⟩
  have constructed : ScoredContextPrediction.construct
      (scoredFields vector.candidateId (scoreOf vector)) = .ok (scored vector) :=
    checked_eq_ok_iff.mpr ⟨scoredFields_valid vector, rfl⟩
  by_cases asked : Asked horizon vector
  · have selected : askedVector features horizon vector.candidateId = some vector :=
      (askedVector_eq_some_iff distinct).mpr ⟨⟨member, rfl⟩, asked⟩
    have same : horizon = none ∨ horizon = some (scoreOf vector).horizon := asked
    simp only [scoreCandidate, found, scorePrediction_eq_ok, ok_bind, if_pos same, constructed,
      selected, Option.map_some, pure_eq_ok]
  · have unselected : askedVector features horizon vector.candidateId = none := by
      simp [askedVector, found, asked]
    have other : ¬(horizon = none ∨ horizon = some (scoreOf vector).horizon) := asked
    simp only [scoreCandidate, found, scorePrediction_eq_ok, ok_bind, if_neg other, unselected,
      Option.map_none, pure_eq_ok]

/-- The default backend scores every candidate whose vector looks as far ahead as is asked for. -/
theorem weighted_predict_eq_ok {candidates : List (ContextPredictionCandidate digest)}
    (matching : MatchingIdentities features
      (candidates.map fun candidate => candidate.candidateId)) :
    (deterministicWeightedPredictionBackend digest).predict features candidates horizon =
      .ok (candidates.filterMap fun candidate =>
        (askedVector features horizon candidate.candidateId).map scored) := by
  have scores : (candidates.map fun candidate => candidate.candidateId).mapM
      (scoreCandidate features horizon) = .ok (candidates.map fun candidate =>
        (askedVector features horizon candidate.candidateId).map scored) := by
    rw [mapM_eq_ok_iff_forall₂, List.forall₂_map_left_iff, List.forall₂_map_right_iff]
    refine List.forall₂_same.mpr fun candidate member => scoreCandidate_eq_ok ?_ matching.1
    have named := List.mem_toFinset.mpr (List.mem_map_of_mem
      (f := fun candidate : ContextPredictionCandidate digest => candidate.candidateId) member)
    rw [← matching.2, List.mem_toFinset] at named
    exact named
  simp only [deterministicWeightedPredictionBackend, require_of_true matching, ok_bind, scores,
    pure_eq_ok, List.reduceOption, List.filterMap_map]
  rfl

end Answers

end ContextPrediction
end MercuryX
