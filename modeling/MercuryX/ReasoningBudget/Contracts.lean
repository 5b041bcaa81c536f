import MercuryX.Contracts

/-!
# Reasoning budget contracts

The request that a budget is made for, the candidate that it is made of, and the content-addressed
budget.
-/

namespace MercuryX
namespace ReasoningBudget

open Foundation

/-! ## Requests and candidates -/

/-- Whether estimates rest on measurements. -/
inductive BudgetCalibrationState where
  | uncalibrated
  | empiricallyCalibrated
  deriving DecidableEq, Repr

/-- The limits that a budget is made under. -/
structure ReasoningBudgetRequest where
  requestId : String
  workloadId : String
  segmentId : String
  requirementInterfaceId : String
  qualityMetricId : String
  qualityFloor : ℚ
  confidenceFloor : ℚ
  maxReasoningSteps : Int
  maxTokens : Int
  maxComputeUnits : ℚ
  maxSpeculativeBranches : Int
  verificationDepthMin : Int
  latencyCeilingMs : Int
  escalationPolicyId : String
  stopPolicyId : String
  provenanceIds : List String
  /-- Identity fields are nonblank. -/
  texts_nonblank : ∀ text ∈ [requestId, workloadId, segmentId, requirementInterfaceId,
    qualityMetricId, escalationPolicyId, stopPolicyId], Text.Nonblank text
  /-- There is provenance, in canonical form. -/
  provenance_canonical : CanonicalTexts provenanceIds ∧ provenanceIds ≠ []
  /-- Floors are shares. -/
  floors : ∀ floor ∈ [qualityFloor, confidenceFloor], 0 ≤ floor ∧ floor ≤ 1
  /-- Ceilings are at least one. -/
  ceilings_pos : ∀ ceiling ∈ [maxReasoningSteps, maxTokens, maxSpeculativeBranches,
    latencyCeilingMs], 1 ≤ ceiling
  /-- The compute ceiling is positive. -/
  compute_pos : 0 < maxComputeUnits
  /-- The verification floor is not negative. -/
  verification_nonneg : 0 ≤ verificationDepthMin

/-- A way to reason, with what it costs and what is expected of it. -/
structure ReasoningBudgetCandidate where
  candidateId : String
  reasoningSteps : Int
  maxTokens : Int
  computeUnits : ℚ
  verificationDepth : Int
  speculationWidth : Int
  expectedQualityLow : Option ℚ := none
  expectedQualityHigh : Option ℚ := none
  expectedLatencyMs : Option Int := none
  uncertainty : ℚ
  calibrationState : BudgetCalibrationState := .uncalibrated
  evidenceIds : List String := []
  /-- Steps, tokens and widths are at least one. -/
  amounts_pos : ∀ amount ∈ [reasoningSteps, maxTokens, speculationWidth], 1 ≤ amount
  /-- Compute is positive. -/
  compute_pos : 0 < computeUnits
  /-- The verification depth is not negative. -/
  verification_nonneg : 0 ≤ verificationDepth
  /-- Qualities and the uncertainty are shares. -/
  shares : ∀ share ∈ expectedQualityLow.toList ++ expectedQualityHigh.toList ++ [uncertainty],
    0 ≤ share ∧ share ≤ 1
  /-- Latencies are at least one. -/
  latency_pos : ∀ latency ∈ expectedLatencyMs, 1 ≤ latency
  /-- The range of qualities is a range. -/
  quality_range : ∀ low ∈ expectedQualityLow, ∀ high ∈ expectedQualityHigh, low ≤ high

/-! ## Budgets -/

/-- How the compute of a budget is divided. -/
structure BudgetAllocation where
  primaryReasoningUnits : ℚ
  verificationUnits : ℚ
  speculationUnits : ℚ
  escalationUnits : ℚ
  aggregationUnits : ℚ
  /-- Units are not negative. -/
  units_nonneg : ∀ units ∈ [primaryReasoningUnits, verificationUnits, speculationUnits,
    escalationUnits, aggregationUnits], 0 ≤ units

/-- The units of an allocation together. -/
def BudgetAllocation.total (allocation : BudgetAllocation) : ℚ :=
  allocation.primaryReasoningUnits + allocation.verificationUnits + allocation.speculationUnits +
    allocation.escalationUnits + allocation.aggregationUnits

/-- The dump of an allocation. -/
def BudgetAllocation.dump (allocation : BudgetAllocation) : Json := .obj [
  ("primary_reasoning_units", .float allocation.primaryReasoningUnits),
  ("verification_units", .float allocation.verificationUnits),
  ("speculation_units", .float allocation.speculationUnits),
  ("escalation_units", .float allocation.escalationUnits),
  ("aggregation_units", .float allocation.aggregationUnits)]

/-- The content of a budget. -/
structure BudgetContent where
  requestId : String
  segmentId : String
  chosenCandidateId : String
  allocation : BudgetAllocation
  qualityFloor : ℚ
  confidenceFloor : ℚ
  verificationDepth : Int
  escalationConditions : List String
  stopConditions : List String
  calibrationState : BudgetCalibrationState
  generation : Int
  evidenceIds : List String := []

variable (digest : Digest)

/-- The identity of the budget of a candidate for a request at a generation. -/
def makeBudgetId (requestId candidateId : String) (generation : Int) : String :=
  digest.hexdigest (.obj [("request_id", .str requestId), ("candidate_id", .str candidateId),
    ("generation", .int generation)])

/-- The part of a budget that its fingerprint covers. -/
def BudgetContent.body (content : BudgetContent) (reasoningBudgetId : String) : Json := .obj [
  ("id", .str reasoningBudgetId), ("request", .str content.requestId),
  ("candidate", .str content.chosenCandidateId), ("generation", .int content.generation),
  ("allocation", content.allocation.dump), ("quality_floor", .float content.qualityFloor),
  ("confidence_floor", .float content.confidenceFloor),
  ("verification_depth", .int content.verificationDepth)]

/-- A reasoning budget. -/
structure Budget extends BudgetContent where
  reasoningBudgetId : String
  fingerprint : String
  /-- Generations start at one. -/
  generation_pos : 1 ≤ generation
  /-- The identity is that of the request, the candidate and the generation. -/
  id_verified : reasoningBudgetId = makeBudgetId digest requestId chosenCandidateId generation
  /-- The fingerprint covers the content. -/
  fingerprint_verified :
    fingerprint = digest.hexdigest (toBudgetContent.body reasoningBudgetId)

/-- The checks of a budget. -/
def validateBudget (content : BudgetContent) (reasoningBudgetId fingerprint : String) :
    Except Fault Unit := do
  let contract := "ReasoningBudget"
  fieldGe contract "generation" 1 content.generation
  rule contract "" (reasoningBudgetId =
      makeBudgetId digest content.requestId content.chosenCandidateId content.generation)
    "reasoning budget identity mismatch"
  rule contract "" (fingerprint = digest.hexdigest (content.body reasoningBudgetId))
    "reasoning budget fingerprint mismatch"

variable {digest}

theorem validateBudget_eq_ok_iff {content : BudgetContent}
    {reasoningBudgetId fingerprint : String} {done : Unit} :
    validateBudget digest content reasoningBudgetId fingerprint = .ok done ↔
      1 ≤ content.generation ∧
      reasoningBudgetId =
        makeBudgetId digest content.requestId content.chosenCandidateId content.generation ∧
      fingerprint = digest.hexdigest (content.body reasoningBudgetId) := by
  simp [validateBudget]

variable (digest)

/-- Construct a budget from its content, its identity and its fingerprint. -/
def Budget.construct (content : BudgetContent) (reasoningBudgetId fingerprint : String) :
    Except Fault (Budget digest) :=
  match checked : validateBudget digest content reasoningBudgetId fingerprint with
  | .error fault => .error fault
  | .ok _ =>
      have verified := validateBudget_eq_ok_iff.mp checked
      .ok ⟨content, reasoningBudgetId, fingerprint, verified.1, verified.2.1, verified.2.2⟩

variable {digest}

theorem Budget.construct_eq_ok_iff {content : BudgetContent}
    {reasoningBudgetId fingerprint : String} {budget : Budget digest} :
    Budget.construct digest content reasoningBudgetId fingerprint = .ok budget ↔
      (1 ≤ content.generation ∧
        reasoningBudgetId =
          makeBudgetId digest content.requestId content.chosenCandidateId content.generation ∧
        fingerprint = digest.hexdigest (content.body reasoningBudgetId)) ∧
      budget.toBudgetContent = content := by
  unfold Budget.construct
  split
  next fault checked =>
    refine iff_of_false (by simp) ?_
    rintro ⟨verified, _⟩
    have passes : validateBudget digest content reasoningBudgetId fingerprint = .ok () :=
      validateBudget_eq_ok_iff.mpr verified
    rw [passes] at checked
    nomatch checked
  next checked =>
    have verified := validateBudget_eq_ok_iff.mp checked
    obtain ⟨made, madeId, madeFingerprint, _, rfl, rfl⟩ := budget
    constructor
    · intro same
      exact ⟨verified, (Budget.mk.inj (Except.ok.inj same)).1.symm⟩
    · rintro ⟨_, same⟩
      obtain rfl : made = content := same
      obtain ⟨_, rfl, rfl⟩ := verified
      rfl

end ReasoningBudget
end MercuryX
