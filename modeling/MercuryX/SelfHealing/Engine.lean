import MercuryX.Foundation.Selection
import MercuryX.LiveMigration.Contracts

/-!
# Planning a recovery

The planner keeps the candidates that preserve quality, safety, authorization and privacy and
selects the first of them in an order of preference: reversible ones, then quick ones, then cheap
ones. What it decides is never authorized. The artifacts are sealed as those of a migration are.
-/

namespace MercuryX
namespace SelfHealing

open Foundation
open LiveMigration (Payload FrozenArtifact)

variable {digest : Digest}

/-! ## Contracts -/

/-- Why an execution has to be healed. -/
inductive HealingTrigger where
  | nodeFailure
  | nodeDegradation
  | resourceLoss
  | sloRisk
  | topologyChange
  | executionStall
  deriving DecidableEq, Repr

/-- The text of a trigger. -/
def HealingTrigger.value : HealingTrigger → String
  | nodeFailure => "NODE_FAILURE"
  | nodeDegradation => "NODE_DEGRADATION"
  | resourceLoss => "RESOURCE_LOSS"
  | sloRisk => "SLO_RISK"
  | topologyChange => "TOPOLOGY_CHANGE"
  | executionStall => "EXECUTION_STALL"

/-- What may be done about it. -/
inductive HealingActionKind where
  | retry
  | restart
  | reschedule
  | migrate
  | isolate
  | defer
  | failSafe
  deriving DecidableEq, Repr

/-- The text of an action. -/
def HealingActionKind.value : HealingActionKind → String
  | retry => "RETRY"
  | restart => "RESTART"
  | reschedule => "RESCHEDULE"
  | migrate => "MIGRATE"
  | isolate => "ISOLATE"
  | defer => "DEFER"
  | failSafe => "FAIL_SAFE"

/-- A request to heal a running execution. -/
structure HealingRequest where
  healingRequestId : String
  workloadId : String
  executionId : String
  trigger : HealingTrigger
  detectionGeneration : Nat
  topologyGeneration : Nat
  placementGeneration : Nat
  schedulerGeneration : Nat
  sloId : String
  sloVersion : Nat
  agreementId : String
  agreementGeneration : Nat
  authorizationContextId : String
  authorizationGeneration : Nat
  migrationCapabilityRef : Option String
  provenanceIds : List String
  sloVersion_pos : 1 ≤ sloVersion
  identities_nonblank : ∀ text ∈ [healingRequestId, workloadId, executionId, sloId, agreementId,
    authorizationContextId], Text.Nonblank text
  provenance_valid : provenanceIds ≠ [] ∧ (∀ text ∈ provenanceIds, Text.Nonblank text) ∧
    provenanceIds.Nodup

instance : Payload HealingRequest where
  payload request := .obj [
    ("healing_request_id", .str request.healingRequestId), ("workload_id", .str request.workloadId),
    ("execution_id", .str request.executionId), ("trigger", .str request.trigger.value),
    ("detection_generation", .int request.detectionGeneration),
    ("topology_generation", .int request.topologyGeneration),
    ("placement_generation", .int request.placementGeneration),
    ("scheduler_generation", .int request.schedulerGeneration),
    ("slo_id", .str request.sloId), ("slo_version", .int request.sloVersion),
    ("agreement_id", .str request.agreementId),
    ("agreement_generation", .int request.agreementGeneration),
    ("authorization_context_id", .str request.authorizationContextId),
    ("authorization_generation", .int request.authorizationGeneration),
    ("migration_capability_ref", .optStr request.migrationCapabilityRef),
    ("provenance_ids", .arr (request.provenanceIds.map .str))]

/-- An action that may heal an execution, with what it preserves and what it costs. -/
structure HealingCandidate where
  candidateId : String
  action : HealingActionKind
  preservesQuality : Bool
  preservesSafety : Bool
  preservesAuthorization : Bool
  preservesPrivacy : Bool
  reversible : Bool
  estimatedRecoveryGenerations : Nat
  requiredResources : Nat
  provenanceIds : List String
  deriving DecidableEq, Repr

instance : Payload HealingCandidate where
  payload candidate := .obj [
    ("candidate_id", .str candidate.candidateId), ("action", .str candidate.action.value),
    ("preserves_quality", .bool candidate.preservesQuality),
    ("preserves_safety", .bool candidate.preservesSafety),
    ("preserves_authorization", .bool candidate.preservesAuthorization),
    ("preserves_privacy", .bool candidate.preservesPrivacy),
    ("reversible", .bool candidate.reversible),
    ("estimated_recovery_generations", .int candidate.estimatedRecoveryGenerations),
    ("required_resources", .int candidate.requiredResources),
    ("provenance_ids", .arr (candidate.provenanceIds.map .str))]

/-- The candidate that a request is answered with. -/
structure HealingDecision where
  decisionId : String
  healingRequestId : String
  selectedCandidateId : String
  action : HealingActionKind
  authorized : Bool
  reasonCodes : List String
  decisionGeneration : Int
  deriving DecidableEq, Repr

instance : Payload HealingDecision where
  payload decision := .obj [
    ("decision_id", .str decision.decisionId),
    ("healing_request_id", .str decision.healingRequestId),
    ("selected_candidate_id", .str decision.selectedCandidateId),
    ("action", .str decision.action.value), ("authorized", .bool decision.authorized),
    ("reason_codes", .arr (decision.reasonCodes.map .str)),
    ("decision_generation", .int decision.decisionGeneration)]

/-- Validate the generation of a decision and seal it. -/
def HealingDecision.construct (decision : HealingDecision) :
    Except Fault (FrozenArtifact digest HealingDecision) := do
  fieldGe "HealingDecision" "decision_generation" 0 decision.decisionGeneration
  return .sealed decision

theorem HealingDecision.construct_eq_ok_iff {decision : HealingDecision}
    {made : FrozenArtifact digest HealingDecision} :
    decision.construct = .ok made ↔ 0 ≤ decision.decisionGeneration ∧ .sealed decision = made := by
  simp [construct]

/-! ## The planner -/

/-- A candidate that preserves all that must be preserved. -/
def safe (candidate : FrozenArtifact digest HealingCandidate) : Bool :=
  candidate.body.preservesQuality && candidate.body.preservesSafety &&
    candidate.body.preservesAuthorization && candidate.body.preservesPrivacy

/-- The order of preference: reversible first, then fewer generations, then fewer resources. -/
def preference (candidate : FrozenArtifact digest HealingCandidate) :
    Bool ×ₗ Nat ×ₗ Nat ×ₗ String :=
  toLex (!candidate.body.reversible, toLex (candidate.body.estimatedRecoveryGenerations,
    toLex (candidate.body.requiredResources, candidate.body.candidateId)))

/-- The preferred safe candidate. -/
def chooseHealingCandidate (candidates : List (FrozenArtifact digest HealingCandidate)) :
    Except Fault (FrozenArtifact digest HealingCandidate) :=
  match sortOn preference (candidates.filter safe) with
  | [] => .error (.value "no safe healing candidate")
  | chosen :: _ => .ok chosen

/-- The decision for a candidate. -/
def decisionFor (request : FrozenArtifact digest HealingRequest)
    (selected : FrozenArtifact digest HealingCandidate) (decisionGeneration : Int) :
    HealingDecision where
  decisionId := s!"heal:{request.body.healingRequestId}:{decisionGeneration}"
  healingRequestId := request.body.healingRequestId
  selectedCandidateId := selected.body.candidateId
  action := selected.body.action
  authorized := false
  reasonCodes := ["SAFE_CANDIDATE_SELECTED"]
  decisionGeneration := decisionGeneration

/-- Decide a request. -/
def plan (request : FrozenArtifact digest HealingRequest)
    (candidates : List (FrozenArtifact digest HealingCandidate)) (decisionGeneration : Int) :
    Except Fault (FrozenArtifact digest HealingDecision) := do
  let selected ← chooseHealingCandidate candidates
  (decisionFor request selected decisionGeneration).construct

section Choice

variable {candidates : List (FrozenArtifact digest HealingCandidate)}
  {chosen : FrozenArtifact digest HealingCandidate}

theorem chooseHealingCandidate_eq_ok_iff :
    chooseHealingCandidate candidates = .ok chosen ↔
      Leading preference (candidates.filter safe) chosen := by
  rw [← head?_sortOn_eq_some_iff, chooseHealingCandidate]
  cases sortOn preference (candidates.filter safe) <;> simp

theorem chooseHealingCandidate_of_none (none_safe : ∀ candidate ∈ candidates, ¬ safe candidate) :
    chooseHealingCandidate candidates = .error (.value "no safe healing candidate") := by
  have empty : candidates.filter safe = [] := List.filter_eq_nil_iff.mpr none_safe
  rw [chooseHealingCandidate, empty]
  rfl

theorem exists_choice (some_safe : ∃ candidate ∈ candidates, safe candidate) :
    ∃ chosen, chooseHealingCandidate candidates = .ok chosen := by
  obtain ⟨candidate, member, isSafe⟩ := some_safe
  have kept : candidate ∈ sortOn preference (candidates.filter safe) :=
    (mem_sortOn preference).mpr (List.mem_filter.mpr ⟨member, isSafe⟩)
  rw [chooseHealingCandidate]
  cases outcome : sortOn preference (candidates.filter safe) with
  | nil => exact absurd (outcome ▸ kept) List.not_mem_nil
  | cons chosen rest => exact ⟨chosen, rfl⟩

/-- One more candidate is chosen itself or changes nothing. -/
theorem choose_cons (chose : chooseHealingCandidate candidates = .ok chosen)
    (candidate : FrozenArtifact digest HealingCandidate) :
    chooseHealingCandidate (candidate :: candidates) =
      .ok (if safe candidate ∧ preference candidate ≤ preference chosen then candidate
        else chosen) := by
  rw [chooseHealingCandidate_eq_ok_iff] at chose ⊢
  by_cases isSafe : safe candidate
  · rw [List.filter_cons_of_pos isSafe]
    simpa [isSafe] using chose.cons candidate
  · rw [List.filter_cons_of_neg isSafe]
    simpa [isSafe] using chose

/-- Where distinct safe candidates have distinct ids, their order does not matter. -/
theorem choose_perm {others : List (FrozenArtifact digest HealingCandidate)}
    (apart : Separates (fun candidate => candidate.body.candidateId) (candidates.filter safe))
    (perm : candidates.Perm others) :
    chooseHealingCandidate others = chooseHealingCandidate candidates := by
  have separates : Separates preference (candidates.filter safe) := by
    intro left leftMember right rightMember same
    refine apart left leftMember right rightMember ?_
    exact congrArg (fun key => (ofLex (ofLex (ofLex key).2).2).2) same
  rw [chooseHealingCandidate, chooseHealingCandidate,
    sortOn_eq_of_perm separates (perm.filter safe)]

end Choice

theorem plan_eq_ok_iff {request : FrozenArtifact digest HealingRequest}
    {candidates : List (FrozenArtifact digest HealingCandidate)} {decisionGeneration : Int}
    {decision : FrozenArtifact digest HealingDecision} :
    plan request candidates decisionGeneration = .ok decision ↔
      ∃ selected, chooseHealingCandidate candidates = .ok selected ∧ 0 ≤ decisionGeneration ∧
        .sealed (decisionFor request selected decisionGeneration) = decision := by
  simp [plan, HealingDecision.construct_eq_ok_iff, decisionFor]

/-- What planning does with a request and its candidates. -/
structure PlanLaw (request : FrozenArtifact digest HealingRequest)
    (candidates : List (FrozenArtifact digest HealingCandidate)) (decisionGeneration : Int) :
    Prop where
  /-- It answers exactly when a candidate is safe and the generation is none below zero. -/
  answers : (∃ decision, plan request candidates decisionGeneration = .ok decision) ↔
    (∃ candidate ∈ candidates, safe candidate) ∧ 0 ≤ decisionGeneration
  refuses : (∀ candidate ∈ candidates, ¬ safe candidate) →
    plan request candidates decisionGeneration = .error (.value "no safe healing candidate")
  /-- Its answer names a safe candidate, with the action of that one, and no safe candidate is
  preferred to it; the answer is no authorization. -/
  decides : ∀ decision, plan request candidates decisionGeneration = .ok decision →
    decision.body.authorized = false ∧ ∃ selected ∈ candidates, safe selected ∧
      decision.body.selectedCandidateId = selected.body.candidateId ∧
      decision.body.action = selected.body.action ∧
      ∀ other ∈ candidates, safe other → preference selected ≤ preference other
  /-- The order of the candidates does not matter where distinct safe ones have distinct ids. -/
  reordered : Separates (fun candidate => candidate.body.candidateId) (candidates.filter safe) →
    ∀ others, candidates.Perm others →
      plan request others decisionGeneration = plan request candidates decisionGeneration
  /-- One more candidate is named itself or changes nothing, and one that is unsafe changes
  nothing at all. -/
  extended : ∀ candidate decision decision',
    plan request candidates decisionGeneration = .ok decision →
    plan request (candidate :: candidates) decisionGeneration = .ok decision' →
      decision' = decision ∨ safe candidate ∧
        decision'.body.selectedCandidateId = candidate.body.candidateId
  unsafe_ignored : ∀ candidate, ¬ safe candidate →
    plan request (candidate :: candidates) decisionGeneration =
      plan request candidates decisionGeneration

theorem planLaw (request : FrozenArtifact digest HealingRequest)
    (candidates : List (FrozenArtifact digest HealingCandidate)) (decisionGeneration : Int) :
    PlanLaw request candidates decisionGeneration where
  answers := by
    simp only [plan_eq_ok_iff]
    constructor
    · rintro ⟨decision, selected, chose, generation, -⟩
      have leads := chooseHealingCandidate_eq_ok_iff.mp chose
      obtain ⟨member, isSafe⟩ := List.mem_filter.mp leads.mem
      exact ⟨⟨selected, member, isSafe⟩, generation⟩
    · rintro ⟨some_safe, generation⟩
      obtain ⟨selected, chose⟩ := exists_choice some_safe
      exact ⟨_, selected, chose, generation, rfl⟩
  refuses none_safe := by
    rw [plan, chooseHealingCandidate_of_none none_safe]
    rfl
  decides decision planned := by
    obtain ⟨selected, chose, generation, rfl⟩ := plan_eq_ok_iff.mp planned
    have leads := chooseHealingCandidate_eq_ok_iff.mp chose
    obtain ⟨member, isSafe⟩ := List.mem_filter.mp leads.mem
    refine ⟨rfl, selected, member, isSafe, rfl, rfl, fun other otherMember otherSafe => ?_⟩
    exact leads.le other (List.mem_filter.mpr ⟨otherMember, otherSafe⟩)
  reordered apart others perm := by
    rw [plan, plan, choose_perm apart perm]
  extended candidate decision decision' planned extended := by
    obtain ⟨selected, chose, generation, rfl⟩ := plan_eq_ok_iff.mp planned
    obtain ⟨selected', chose', -, rfl⟩ := plan_eq_ok_iff.mp extended
    obtain rfl : _ = selected' := Except.ok.inj ((choose_cons chose candidate).symm.trans chose')
    split
    case isTrue preferred => exact .inr ⟨preferred.1, rfl⟩
    case isFalse => exact .inl rfl
  unsafe_ignored candidate isUnsafe := by
    have kept : (candidate :: candidates).filter safe = candidates.filter safe :=
      List.filter_cons_of_neg isUnsafe
    rw [plan, plan, chooseHealingCandidate, chooseHealingCandidate, kept]

end SelfHealing
end MercuryX
