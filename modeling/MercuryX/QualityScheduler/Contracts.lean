import MercuryX.Contracts

/-!
# Scheduling contracts

What is asked of the scheduler, the features that it ranks by, and its content-addressed decisions.
-/

namespace MercuryX
namespace QualityScheduler

open Foundation

/-! ## Requests and features -/

/-- Whether a request is admitted. -/
inductive AdmissionState where
  | admitted
  | defer
  | reject
  | unknown
  deriving DecidableEq, Repr

/-- The text of an admission state. -/
def AdmissionState.value : AdmissionState → String
  | admitted => "ADMIT"
  | defer => "DEFER"
  | reject => "REJECT"
  | unknown => "UNKNOWN"

/-- How urgent a request is. -/
inductive PriorityClass where
  | critical
  | high
  | normal
  | low
  deriving DecidableEq, Repr

/-- The text of a priority class. -/
def PriorityClass.value : PriorityClass → String
  | critical => "CRITICAL"
  | high => "HIGH"
  | normal => "NORMAL"
  | low => "LOW"

/-- A segment of a workload that waits to be scheduled. -/
structure SchedulingRequest where
  workloadId : String
  segmentId : String
  placementCandidateIds : List String
  reasoningBudgetId : String
  requirementInterfaceId : String
  arrivalGeneration : Int
  queueClass : String := "default"
  fairnessWeight : ℚ := 1
  queueGeneration : Int
  tenantId : String
  workloadClass : String
  requiredQualityFloor : ℚ
  requiredResourceUnits : ℚ
  reasoningBudgetGeneration : Int
  placementGeneration : Int
  provenanceIds : List String
  /-- Identity fields are nonblank. -/
  texts_nonblank : ∀ text ∈ [workloadId, segmentId, reasoningBudgetId, requirementInterfaceId,
    tenantId, workloadClass, queueClass], Text.Nonblank text
  /-- Candidates stand once each, in order. -/
  candidates_canonical : canonical id placementCandidateIds = placementCandidateIds
  /-- There is provenance, in canonical form. -/
  provenance_canonical : CanonicalTexts provenanceIds ∧ provenanceIds ≠ []
  /-- Generations start at one, those of arrivals at zero. -/
  generations_pos : 0 ≤ arrivalGeneration ∧
    ∀ generation ∈ [queueGeneration, reasoningBudgetGeneration, placementGeneration],
      1 ≤ generation
  /-- Weights and resources are positive. -/
  amounts_pos : 0 < fairnessWeight ∧ 0 < requiredResourceUnits
  /-- The quality floor is a share. -/
  floor_bounds : 0 ≤ requiredQualityFloor ∧ requiredQualityFloor ≤ 1

/-- What a request is ranked by. -/
structure SchedulingFeatures where
  deadlinePressure : ℚ
  qualityRisk : ℚ
  verificationPressure : ℚ
  uncertainty : ℚ
  budgetPressure : ℚ
  placementConfidence : ℚ
  logicalAge : Int
  fairnessWeight : ℚ
  resourcePressure : ℚ
  localityScore : ℚ
  fragmentationCost : ℚ
  /-- Pressures, risks and scores are shares. -/
  shares : ∀ share ∈ [deadlinePressure, qualityRisk, verificationPressure, uncertainty,
    budgetPressure, placementConfidence, resourcePressure, localityScore, fragmentationCost],
    0 ≤ share ∧ share ≤ 1
  /-- Ages are not negative. -/
  logicalAge_nonneg : 0 ≤ logicalAge
  /-- Weights are positive. -/
  fairnessWeight_pos : 0 < fairnessWeight

/-! ## Decisions -/

/-- The content of a decision. -/
structure DecisionContent where
  workloadId : String
  admissionState : AdmissionState
  priorityClass : PriorityClass
  rankScore : ℚ
  selectedCandidateIds : List String := []
  reasonCodes : List String := []
  queueGeneration : Int
  decisionGeneration : Int
  previousDecisionId : Option String := none
  requiredQualityFloor : ℚ
  provenanceIds : List String

namespace DecisionContent

/-- The part of a decision that its fingerprint covers. -/
def payload (content : DecisionContent) : Json := .obj [
  ("workload_id", .str content.workloadId),
  ("admission_state", .str content.admissionState.value),
  ("priority_class", .str content.priorityClass.value), ("rank_score", .float content.rankScore),
  ("selected_candidate_ids", Json.strs content.selectedCandidateIds),
  ("queue_generation", .int content.queueGeneration),
  ("decision_generation", .int content.decisionGeneration),
  ("previous_decision_id", Json.optStr content.previousDecisionId),
  ("required_quality_floor", .float content.requiredQualityFloor),
  ("provenance_ids", Json.strs content.provenanceIds)]

/-- The dump of a decision without its identity. -/
def dump (content : DecisionContent) : List (String × Json) := [
  ("workload_id", .str content.workloadId),
  ("admission_state", .str content.admissionState.value),
  ("priority_class", .str content.priorityClass.value), ("rank_score", .float content.rankScore),
  ("selected_candidate_ids", Json.strs content.selectedCandidateIds),
  ("reason_codes", Json.strs content.reasonCodes),
  ("queue_generation", .int content.queueGeneration),
  ("decision_generation", .int content.decisionGeneration),
  ("previous_decision_id", Json.optStr content.previousDecisionId),
  ("required_quality_floor", .float content.requiredQualityFloor),
  ("provenance_ids", Json.strs content.provenanceIds)]

/-- The ranges of the fields of a decision. -/
def InRange (content : DecisionContent) : Prop :=
  1 ≤ content.queueGeneration ∧ 1 ≤ content.decisionGeneration ∧
    0 ≤ content.requiredQualityFloor ∧ content.requiredQualityFloor ≤ 1

end DecisionContent

variable (digest : Digest)

/-- The identity of the decision with a fingerprint. -/
def makeDecisionId (fingerprint : String) : String :=
  addressOf digest "scheduling_decision" fingerprint

/-- A scheduling decision. -/
structure SchedulingDecision extends DecisionContent where
  decisionId : String
  fingerprint : String
  /-- Generations and the quality floor are in range. -/
  in_range : toDecisionContent.InRange
  /-- No candidate is selected twice. -/
  selected_nodup : selectedCandidateIds.Nodup
  /-- The fingerprint covers the content. -/
  fingerprint_verified : fingerprint = digest.hexdigest toDecisionContent.payload
  /-- The identity is that of the fingerprint. -/
  id_verified : decisionId = makeDecisionId digest (digest.hexdigest toDecisionContent.payload)

/-- The failure of the identity check of a decision. -/
def identityMismatch : Fault :=
  .validation "SchedulingDecision" "" "scheduling decision identity mismatch"

/-- The checks of a decision. -/
def validateDecision (content : DecisionContent) (decisionId fingerprint : String) :
    Except Fault Unit := do
  let contract := "SchedulingDecision"
  fieldGe contract "queue_generation" 1 content.queueGeneration
  fieldGe contract "decision_generation" 1 content.decisionGeneration
  fieldWithin contract "required_quality_floor" 0 1 content.requiredQualityFloor
  rule contract "" content.selectedCandidateIds.Nodup "selected candidates contain duplicates"
  require (fingerprint = digest.hexdigest content.payload ∧
    decisionId = makeDecisionId digest (digest.hexdigest content.payload)) identityMismatch

variable {digest}

theorem validateDecision_eq_ok_iff {content : DecisionContent} {decisionId fingerprint : String}
    {done : Unit} : validateDecision digest content decisionId fingerprint = .ok done ↔
      content.InRange ∧ content.selectedCandidateIds.Nodup ∧
      fingerprint = digest.hexdigest content.payload ∧
      decisionId = makeDecisionId digest (digest.hexdigest content.payload) := by
  simp [validateDecision, DecisionContent.InRange, and_assoc]

variable (digest)

/-- Construct a decision from its content, its identity and its fingerprint. -/
def SchedulingDecision.construct (content : DecisionContent) (decisionId fingerprint : String) :
    Except Fault (SchedulingDecision digest) :=
  match checked : validateDecision digest content decisionId fingerprint with
  | .error fault => .error fault
  | .ok _ =>
      have verified := validateDecision_eq_ok_iff.mp checked
      .ok ⟨content, decisionId, fingerprint, verified.1, verified.2.1, verified.2.2.1,
        verified.2.2.2⟩

variable {digest}

/-- A decision is constructed exactly from content in range, without a candidate selected twice,
under its own fingerprint and identity. -/
theorem SchedulingDecision.construct_eq_ok_iff {content : DecisionContent}
    {decisionId fingerprint : String} {decision : SchedulingDecision digest} :
    SchedulingDecision.construct digest content decisionId fingerprint = .ok decision ↔
      (content.InRange ∧ content.selectedCandidateIds.Nodup ∧
        fingerprint = digest.hexdigest content.payload ∧
        decisionId = makeDecisionId digest (digest.hexdigest content.payload)) ∧
      decision.toDecisionContent = content := by
  unfold SchedulingDecision.construct
  split
  next fault checked =>
    refine iff_of_false (by simp) ?_
    rintro ⟨verified, _⟩
    have passes : validateDecision digest content decisionId fingerprint = .ok () :=
      validateDecision_eq_ok_iff.mpr verified
    rw [passes] at checked
    nomatch checked
  next checked =>
    have verified := validateDecision_eq_ok_iff.mp checked
    obtain ⟨made, madeId, madeFingerprint, _, _, rfl, rfl⟩ := decision
    constructor
    · intro same
      exact ⟨verified, (SchedulingDecision.mk.inj (Except.ok.inj same)).1.symm⟩
    · rintro ⟨_, same⟩
      obtain rfl : made = content := same
      obtain ⟨_, _, rfl, rfl⟩ := verified
      rfl

end QualityScheduler
end MercuryX
