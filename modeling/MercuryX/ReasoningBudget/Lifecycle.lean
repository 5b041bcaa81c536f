import MercuryX.Foundation.Chains
import MercuryX.Foundation.Rounding
import MercuryX.ReasoningBudget.Contracts

/-!
# Building and refreshing budgets

A budget is built from a candidate that passes the checks of its request, and refreshed by building
the next generation. Steps, tokens and speculation are never compared with their ceilings, missing
estimates pass, and a refresh may be for another request: budgets respect the limits exactly where
these things hold anyway.
-/

namespace MercuryX
namespace ReasoningBudget

open Foundation

/-! ## Allocation -/

/-- The units of verification before rounding. -/
def verificationShare (candidate : ReasoningBudgetCandidate) : ℚ :=
  min (candidate.computeUnits * (2 / 10)) (candidate.verificationDepth * (15 / 10))

/-- The units of speculation before rounding. -/
def speculationShare (candidate : ReasoningBudgetCandidate) : ℚ :=
  min (candidate.computeUnits * (2 / 10)) (max 0 (candidate.speculationWidth - 1 : Int) * 2)

theorem verificationShare_nonneg (candidate : ReasoningBudgetCandidate) :
    0 ≤ verificationShare candidate := by
  have compute := candidate.compute_pos
  have depth : (0 : ℚ) ≤ candidate.verificationDepth := by
    exact_mod_cast candidate.verification_nonneg
  exact le_min (by positivity) (by positivity)

theorem speculationShare_nonneg (candidate : ReasoningBudgetCandidate) :
    0 ≤ speculationShare candidate := by
  have compute := candidate.compute_pos
  exact le_min (by positivity) (by positivity)

/-- The division of the compute of a candidate. -/
def allocation (candidate : ReasoningBudgetCandidate) : BudgetAllocation :=
  let total := candidate.computeUnits
  let verification := verificationShare candidate
  let speculation := speculationShare candidate
  let escalation := total * (1 / 10)
  let aggregation := total * (1 / 10)
  let primary := max 0 (total - verification - speculation - escalation - aggregation)
  { primaryReasoningUnits := roundTo 6 primary
    verificationUnits := roundTo 6 verification
    speculationUnits := roundTo 6 speculation
    escalationUnits := roundTo 6 escalation
    aggregationUnits := roundTo 6 aggregation
    units_nonneg := by
      have tenth : 0 ≤ total * (1 / 10) := by
        have := candidate.compute_pos
        positivity
      simp only [List.forall_mem_cons]
      exact ⟨roundTo_nonneg (le_max_left _ _), roundTo_nonneg (verificationShare_nonneg candidate),
        roundTo_nonneg (speculationShare_nonneg candidate), roundTo_nonneg tenth,
        roundTo_nonneg tenth, by simp⟩ }

/-- Divide the compute of a candidate that is within the compute ceiling and verified enough. -/
def allocateBudget (request : ReasoningBudgetRequest) (candidate : ReasoningBudgetCandidate) :
    Except Fault BudgetAllocation := do
  require (candidate.computeUnits ≤ request.maxComputeUnits)
    (.value "candidate exceeds compute ceiling")
  require (request.verificationDepthMin ≤ candidate.verificationDepth)
    (.value "candidate below verification floor")
  return allocation candidate

/-! ## Building -/

/-- The content of the budget of a candidate for a request. -/
def budgetContent (request : ReasoningBudgetRequest) (candidate : ReasoningBudgetCandidate)
    (allocation : BudgetAllocation) (generation : Int) : BudgetContent where
  requestId := request.requestId
  segmentId := request.segmentId
  chosenCandidateId := candidate.candidateId
  allocation := allocation
  qualityFloor := request.qualityFloor
  confidenceFloor := request.confidenceFloor
  verificationDepth := candidate.verificationDepth
  escalationConditions := ["QUALITY_SHORTFALL", "CONFIDENCE_SHORTFALL", "VERIFICATION_FAILED",
    "UNCERTAINTY_TOO_HIGH"]
  stopConditions := ["QUALITY_CONFIDENCE_VERIFICATION_SATISFIED", "NO_CERTIFIED_ESCALATION_PATH"]
  calibrationState := candidate.calibrationState
  generation := generation
  evidenceIds := sortOn id candidate.evidenceIds

variable (digest : Digest)

/-- Build a budget. -/
def buildReasoningBudget (request : ReasoningBudgetRequest) (candidate : ReasoningBudgetCandidate)
    (generation : Int) : Except Fault (Budget digest) := do
  require (∀ low ∈ candidate.expectedQualityLow, request.qualityFloor ≤ low)
    (.value "candidate below hard quality floor")
  require (∀ latency ∈ candidate.expectedLatencyMs, latency ≤ request.latencyCeilingMs)
    (.value "candidate above hard latency ceiling")
  let allocation ← allocateBudget request candidate
  let content := budgetContent request candidate allocation generation
  let budgetId := makeBudgetId digest request.requestId candidate.candidateId generation
  Budget.construct digest content budgetId (digest.hexdigest (content.body budgetId))

variable {digest}

/-- Refresh a budget. -/
def refreshReasoningBudget (old : Budget digest) (request : ReasoningBudgetRequest)
    (candidate : ReasoningBudgetCandidate) : Except Fault (Budget digest) :=
  buildReasoningBudget digest request candidate (old.generation + 1)

/-! ## Limits -/

/-- A candidate is known to be within every limit of a request. -/
structure Respects (request : ReasoningBudgetRequest) (candidate : ReasoningBudgetCandidate) :
    Prop where
  /-- Steps are within their ceiling. -/
  steps : candidate.reasoningSteps ≤ request.maxReasoningSteps
  /-- Tokens are within their ceiling. -/
  tokens : candidate.maxTokens ≤ request.maxTokens
  /-- Compute is within its ceiling. -/
  compute : candidate.computeUnits ≤ request.maxComputeUnits
  /-- Speculation is within its ceiling. -/
  speculation : candidate.speculationWidth ≤ request.maxSpeculativeBranches
  /-- Verification is as deep as asked. -/
  verification : request.verificationDepthMin ≤ candidate.verificationDepth
  /-- The quality is known, and at least the floor. -/
  quality : ∃ low ∈ candidate.expectedQualityLow, request.qualityFloor ≤ low
  /-- The latency is known, and within the ceiling. -/
  latency : ∃ latency ∈ candidate.expectedLatencyMs, latency ≤ request.latencyCeilingMs

/-- What is checked of a candidate. -/
structure Checked (request : ReasoningBudgetRequest) (candidate : ReasoningBudgetCandidate) :
    Prop where
  /-- A known quality is at least the floor. -/
  quality : ∀ low ∈ candidate.expectedQualityLow, request.qualityFloor ≤ low
  /-- A known latency is within the ceiling. -/
  latency : ∀ latency ∈ candidate.expectedLatencyMs, latency ≤ request.latencyCeilingMs
  /-- Compute is within its ceiling. -/
  compute : candidate.computeUnits ≤ request.maxComputeUnits
  /-- Verification is as deep as asked. -/
  verification : request.verificationDepthMin ≤ candidate.verificationDepth

/-- What is not. -/
structure Unchecked (request : ReasoningBudgetRequest) (candidate : ReasoningBudgetCandidate) :
    Prop where
  /-- Steps are within their ceiling. -/
  steps : candidate.reasoningSteps ≤ request.maxReasoningSteps
  /-- Tokens are within their ceiling. -/
  tokens : candidate.maxTokens ≤ request.maxTokens
  /-- Speculation is within its ceiling. -/
  speculation : candidate.speculationWidth ≤ request.maxSpeculativeBranches
  /-- There is an estimate of the quality. -/
  quality : candidate.expectedQualityLow ≠ none
  /-- There is an estimate of the latency. -/
  latency : candidate.expectedLatencyMs ≠ none

variable {request : ReasoningBudgetRequest} {candidate : ReasoningBudgetCandidate}

theorem Respects.checked (respects : Respects request candidate) : Checked request candidate where
  quality low known := by
    obtain ⟨other, same, above⟩ := respects.quality
    obtain rfl := Option.some_inj.mp (same.symm.trans known)
    exact above
  latency latency known := by
    obtain ⟨other, same, below⟩ := respects.latency
    obtain rfl := Option.some_inj.mp (same.symm.trans known)
    exact below
  compute := respects.compute
  verification := respects.verification

theorem Respects.unchecked (respects : Respects request candidate) :
    Unchecked request candidate where
  steps := respects.steps
  tokens := respects.tokens
  speculation := respects.speculation
  quality := by
    obtain ⟨low, known, _⟩ := respects.quality
    exact Option.ne_none_iff_exists'.mpr ⟨low, known⟩
  latency := by
    obtain ⟨latency, known, _⟩ := respects.latency
    exact Option.ne_none_iff_exists'.mpr ⟨latency, known⟩

/-- A checked candidate respects the limits exactly when the rest holds as well. -/
theorem Checked.respects_iff (checked : Checked request candidate) :
    Respects request candidate ↔ Unchecked request candidate := by
  refine ⟨Respects.unchecked, fun unchecked => ?_⟩
  obtain ⟨low, lowKnown⟩ := Option.ne_none_iff_exists'.mp unchecked.quality
  obtain ⟨latency, latencyKnown⟩ := Option.ne_none_iff_exists'.mp unchecked.latency
  exact ⟨unchecked.steps, unchecked.tokens, checked.compute, unchecked.speculation,
    checked.verification, ⟨low, lowKnown, checked.quality low lowKnown⟩,
    ⟨latency, latencyKnown, checked.latency latency latencyKnown⟩⟩

theorem buildReasoningBudget_eq_ok_iff {generation : Int} {budget : Budget digest} :
    buildReasoningBudget digest request candidate generation = .ok budget ↔
      Checked request candidate ∧ 1 ≤ generation ∧ budget.toBudgetContent =
        budgetContent request candidate (allocation candidate) generation := by
  simp only [buildReasoningBudget, allocateBudget, bind_eq_ok, require_eq_ok, pure_eq_ok,
    exists_const, Except.ok.injEq, Budget.construct_eq_ok_iff]
  constructor
  · rintro ⟨quality, latency, _, ⟨compute, verification, rfl⟩, ⟨positive, _⟩, same⟩
    exact ⟨⟨quality, latency, compute, verification⟩, positive, same⟩
  · rintro ⟨checked, positive, same⟩
    exact ⟨checked.quality, checked.latency, _, ⟨checked.compute, checked.verification, rfl⟩,
      ⟨positive, rfl, trivial⟩, same⟩

theorem exists_build {generation : Int} (checked : Checked request candidate)
    (positive : 1 ≤ generation) :
    ∃ budget, buildReasoningBudget digest request candidate generation = .ok budget := by
  let content := budgetContent request candidate (allocation candidate) generation
  let budgetId := makeBudgetId digest request.requestId candidate.candidateId generation
  exact ⟨⟨content, budgetId, digest.hexdigest (content.body budgetId), positive, rfl, rfl⟩,
    buildReasoningBudget_eq_ok_iff.mpr ⟨checked, positive, rfl⟩⟩

/-! ## Chains of budgets -/

/-- What a budget is refreshed with. -/
abbrev RefreshCall := ReasoningBudgetRequest × ReasoningBudgetCandidate

variable (digest) in
/-- A budget that is refreshed again and again. -/
def refreshes : Machine (Budget digest) RefreshCall Unit Fault :=
  .ofFunction fun old call => refreshReasoningBudget old call.1 call.2

/-- What holds along a chain of budgets. -/
structure ChainLaw (first : Budget digest) (calls : List RefreshCall) : Prop where
  /-- Every candidate that is accepted respects the limits of its request. -/
  respects : (refreshes digest).AllSteps (fun old call => ∀ next,
    refreshReasoningBudget old call.1 call.2 = .ok next → Respects call.1 call.2) first calls
  /-- All budgets are for one request. -/
  sameRequest : ((refreshes digest).visited first calls).Pairwise fun old next =>
    next.requestId = old.requestId

/-- A candidate that would be accepted meets the limits that are not checked, and its request is
that of the budget. -/
def Sound (old : Budget digest) (call : RefreshCall) : Prop :=
  Checked call.1 call.2 → Unchecked call.1 call.2 ∧ call.1.requestId = old.requestId

instance : IsTrans (Budget digest) fun old next => next.requestId = old.requestId where
  trans _ _ _ first second := second.trans first

theorem requestId_of_refresh {old next : Budget digest} {call : RefreshCall}
    (refreshed : refreshReasoningBudget old call.1 call.2 = .ok next) :
    next.requestId = call.1.requestId := by
  rw [(buildReasoningBudget_eq_ok_iff.mp refreshed).2.2]
  rfl

theorem exists_refresh (old : Budget digest) {call : RefreshCall}
    (checked : Checked call.1 call.2) :
    ∃ next, refreshReasoningBudget old call.1 call.2 = .ok next := by
  have positive := old.generation_pos
  exact exists_build checked (by omega)

theorem sound_iff {old : Budget digest} {call : RefreshCall} :
    Sound old call ↔
      (∀ next, refreshReasoningBudget old call.1 call.2 = .ok next → Respects call.1 call.2) ∧
      ∀ answer next, (refreshes digest).step old call = (.ok answer, next) →
        next.requestId = old.requestId := by
  constructor
  · intro sound
    constructor
    · intro next refreshed
      have checked := (buildReasoningBudget_eq_ok_iff.mp refreshed).1
      exact checked.respects_iff.mpr (sound checked).1
    · intro answer next step
      have refreshed := Machine.ofFunction_step_ok.mp step
      have checked := (buildReasoningBudget_eq_ok_iff.mp refreshed).1
      exact (requestId_of_refresh refreshed).trans (sound checked).2
  · rintro ⟨respects, sameRequest⟩ checked
    obtain ⟨next, refreshed⟩ := exists_refresh old checked
    have kept := sameRequest () next (Machine.ofFunction_step_ok.mpr refreshed)
    exact ⟨(respects next refreshed).unchecked, (requestId_of_refresh refreshed).symm.trans kept⟩

/-- The first budget and every refreshed one respect the limits of their requests, and all are for
one request, exactly when the limits that are not checked hold of every candidate that passes the
checks and every refresh is for the request of the budget. -/
theorem budgets_respect_iff {generation : Int} {first : Budget digest}
    (built : buildReasoningBudget digest request candidate generation = .ok first)
    (calls : List RefreshCall) :
    (Respects request candidate ∧ ChainLaw first calls) ↔
      Unchecked request candidate ∧ (refreshes digest).AllSteps Sound first calls := by
  have checked := (buildReasoningBudget_eq_ok_iff.mp built).1
  refine and_congr checked.respects_iff ?_
  rw [Machine.allSteps_iff]
  constructor
  · intro law front call back split
    have respects := Machine.allSteps_iff.mp law.respects front call back split
    have sameRequest := Machine.allSteps_iff.mp (Machine.pairwise_visited_iff.mp law.sameRequest)
      front call back split
    exact sound_iff.mpr ⟨respects, sameRequest⟩
  · intro sound
    refine ⟨Machine.allSteps_iff.mpr fun front call back split => ?_,
      Machine.pairwise_visited_iff.mpr (Machine.allSteps_iff.mpr fun front call back split => ?_)⟩
    · exact (sound_iff.mp (sound front call back split)).1
    · exact (sound_iff.mp (sound front call back split)).2

/-! ## A candidate without estimates -/

theorem source_canonical : CanonicalTexts ["source"] ∧ ["source"] ≠ [] := by
  decide

theorem no_verification : (0 : Int) ≤ 0 := le_rfl

theorem unknown_latency : ∀ latency ∈ (none : Option Int), 1 ≤ latency := by
  simp

/-- A request with the least ceilings. -/
def strictRequest : ReasoningBudgetRequest where
  requestId := "request"
  workloadId := "workload"
  segmentId := "segment"
  requirementInterfaceId := "interface"
  qualityMetricId := "metric"
  qualityFloor := 9 / 10
  confidenceFloor := 9 / 10
  maxReasoningSteps := 1
  maxTokens := 1
  maxComputeUnits := 1
  maxSpeculativeBranches := 1
  verificationDepthMin := 0
  latencyCeilingMs := 1
  escalationPolicyId := "escalation"
  stopPolicyId := "stop"
  provenanceIds := ["source"]
  texts_nonblank := by decide
  provenance_canonical := source_canonical
  floors := by norm_num
  ceilings_pos := by decide
  compute_pos := by norm_num
  verification_nonneg := no_verification

/-- A candidate with a count of steps, and estimates of quality and latency. -/
def candidateWith (steps : Int) (positive : 1 ≤ steps) (quality : Option ℚ)
    (share : ∀ low ∈ quality, 0 ≤ low ∧ low ≤ 1) (latency : Option Int)
    (latencyPositive : ∀ known ∈ latency, 1 ≤ known) : ReasoningBudgetCandidate where
  candidateId := "candidate"
  reasoningSteps := steps
  maxTokens := 1
  computeUnits := 1
  verificationDepth := 0
  speculationWidth := 1
  expectedQualityLow := quality
  expectedLatencyMs := latency
  uncertainty := 0
  amounts_pos := by simp [positive]
  compute_pos := by norm_num
  verification_nonneg := no_verification
  shares := by
    simp only [Option.toList_none, List.append_nil, List.forall_mem_append, Option.mem_toList,
      List.forall_mem_singleton]
    exact ⟨share, le_rfl, zero_le_one⟩
  latency_pos := latencyPositive
  quality_range := by simp

/-- A candidate within every limit. -/
def modest : ReasoningBudgetCandidate :=
  candidateWith 1 le_rfl (some 1) (by simp) (some 1) (by simp)

/-- A candidate of two steps without estimates. -/
def unestimated : ReasoningBudgetCandidate :=
  candidateWith 2 (by decide) none (by simp) none unknown_latency

theorem modest_checked : Checked strictRequest modest := by
  constructor <;> norm_num [strictRequest, modest, candidateWith]

theorem modest_unchecked : Unchecked strictRequest modest := by
  constructor <;> simp [strictRequest, modest, candidateWith]

theorem unestimated_checked : Checked strictRequest unestimated := by
  constructor <;> simp [strictRequest, unestimated, candidateWith]

/-- The budget of a checked candidate. -/
def firstBudget (candidate : ReasoningBudgetCandidate) : Budget Digest.sha256 :=
  let content := budgetContent strictRequest candidate (allocation candidate) 1
  let budgetId := makeBudgetId Digest.sha256 strictRequest.requestId candidate.candidateId 1
  ⟨content, budgetId, Digest.sha256.hexdigest (content.body budgetId), le_rfl, rfl, rfl⟩

theorem built_firstBudget {candidate : ReasoningBudgetCandidate}
    (checked : Checked strictRequest candidate) :
    buildReasoningBudget Digest.sha256 strictRequest candidate 1 = .ok (firstBudget candidate) :=
  buildReasoningBudget_eq_ok_iff.mpr ⟨checked, le_rfl, rfl⟩

theorem budgets_respect_modest : Respects strictRequest modest ∧
    ChainLaw (firstBudget modest) [(strictRequest, modest)] :=
  (budgets_respect_iff (built_firstBudget modest_checked) _).mpr
    ⟨modest_unchecked, fun _ => ⟨modest_unchecked, rfl⟩, trivial⟩

/-- A budget is built of a candidate that exceeds the step ceiling and has no estimates. -/
theorem budget_without_estimates :
    ¬ ∀ (request : ReasoningBudgetRequest) (candidate : ReasoningBudgetCandidate)
        (generation : Int) (first : Budget Digest.sha256),
      buildReasoningBudget Digest.sha256 request candidate generation = .ok first →
      Respects request candidate ∧ ∀ calls, ChainLaw first calls := by
  intro lawful
  obtain ⟨respects, _⟩ := lawful _ _ _ _ (built_firstBudget unestimated_checked)
  exact respects.unchecked.quality rfl

end ReasoningBudget
end MercuryX
