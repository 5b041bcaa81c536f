import MercuryX.Speculation.Lifecycle

/-!
# Events of a branch

An event records one transition of a branch under a fingerprint of its fields, and applying it
repeats the transition. Which events are legal, which states follow a state and what a state asks of
a branch are three separate tables. Legal events about verification follow no transition, and
an event carries no result, so that the success of a branch that had none cannot be repeated.
-/

namespace MercuryX
namespace Speculation

open Foundation

variable (digest : Digest)

/-- The text of a state. -/
def SpeculativeBranchState.value : SpeculativeBranchState → String
  | planned => "PLANNED"
  | ready => "READY"
  | running => "RUNNING"
  | succeeded => "SUCCEEDED"
  | failed => "FAILED"
  | cancelled => "CANCELLED"
  | committed => "COMMITTED"
  | discarded => "DISCARDED"

/-- The kinds of event. -/
inductive SpeculativeBranchEventType where
  | planned
  | ready
  | started
  | succeeded
  | failed
  | verificationPassed
  | verificationFailed
  | committed
  | cancelled
  | discarded
  deriving DecidableEq, Repr

/-- The text of a kind of event. -/
def SpeculativeBranchEventType.value : SpeculativeBranchEventType → String
  | planned => "PLANNED"
  | ready => "READY"
  | started => "STARTED"
  | succeeded => "SUCCEEDED"
  | failed => "FAILED"
  | verificationPassed => "VERIFICATION_PASSED"
  | verificationFailed => "VERIFICATION_FAILED"
  | committed => "COMMITTED"
  | cancelled => "CANCELLED"
  | discarded => "DISCARDED"

/-- The transition that a kind of event records, given the state it starts from. -/
def SpeculativeBranchEventType.legal (fromState : SpeculativeBranchState) :
    SpeculativeBranchEventType → Option (SpeculativeBranchState × SpeculativeBranchState)
  | planned => none
  | ready => some (.planned, .ready)
  | started => some (.ready, .running)
  | succeeded => some (.running, .succeeded)
  | failed => some (.running, .failed)
  | verificationPassed => some (.succeeded, .succeeded)
  | verificationFailed => some (.succeeded, .failed)
  | committed => some (.succeeded, .committed)
  | cancelled => some (fromState, .cancelled)
  | discarded => some (fromState, .discarded)

/-- The kind of event that records the transition into a state. -/
def eventByState : SpeculativeBranchState → SpeculativeBranchEventType
  | .planned => .planned
  | .ready => .ready
  | .running => .started
  | .succeeded => .succeeded
  | .failed => .failed
  | .committed => .committed
  | .cancelled => .cancelled
  | .discarded => .discarded

/-- One recorded transition of a branch. -/
structure SpeculativeBranchEvent where
  eventId : String
  speculationPlanId : String
  branchId : String
  candidateId : String
  eventType : SpeculativeBranchEventType
  fromState : SpeculativeBranchState
  toState : SpeculativeBranchState
  generation : Int
  eventSequence : Int
  provenanceIds : List String
  fingerprint : String
  deriving DecidableEq

namespace SpeculativeBranchEvent

/-- The fields that the fingerprint of an event covers. -/
def payload (event : SpeculativeBranchEvent) : Json := .obj [
  ("speculation_plan_id", .str event.speculationPlanId),
  ("branch_id", .str event.branchId),
  ("candidate_id", .str event.candidateId),
  ("event_type", .str event.eventType.value),
  ("from_state", .str event.fromState.value),
  ("to_state", .str event.toState.value),
  ("generation", .int event.generation),
  ("event_sequence", .int event.eventSequence),
  ("provenance_ids", Json.strs event.provenanceIds)]

/-- The id of an event with a fingerprint. -/
def idOf (fingerprint : String) : String :=
  digest.hexdigest (.obj [("branch_event", .str fingerprint)])

/-- The constraints on an event. -/
def validate (event : SpeculativeBranchEvent) : Except Fault Unit := do
  let contract := "SpeculativeBranchEvent"
  fieldGe contract "generation" 1 event.generation
  fieldGe contract "event_sequence" 1 event.eventSequence
  forEach (fun field => nonblank contract field.1 field.2) [
    ("event_id", event.eventId), ("speculation_plan_id", event.speculationPlanId),
    ("branch_id", event.branchId), ("candidate_id", event.candidateId),
    ("fingerprint", event.fingerprint)]
  rule contract ""
    (event.provenanceIds ≠ [] ∧ ∀ item ∈ event.provenanceIds, Text.Nonblank item)
    "branch event requires nonblank provenance"
  rule contract ""
    (sortOn id event.provenanceIds = event.provenanceIds ∧ event.provenanceIds.Nodup)
    "branch event provenance must be canonical"
  let expected := digest.hexdigest event.payload
  rule contract "" (event.fingerprint = expected ∧ event.eventId = idOf digest expected)
    "branch event identity mismatch"
  rule contract ""
    (event.eventType.legal event.fromState = some (event.fromState, event.toState))
    "illegal branch event state combination"

/-- What the validation of an event establishes. -/
structure Valid (event : SpeculativeBranchEvent) : Prop where
  /-- Generations and sequence numbers start at one. -/
  numbers_pos : 1 ≤ event.generation ∧ 1 ≤ event.eventSequence
  /-- The texts are nonblank. -/
  texts_nonblank : ∀ text ∈ [event.eventId, event.speculationPlanId, event.branchId,
    event.candidateId, event.fingerprint], Text.Nonblank text
  /-- There is nonblank provenance. -/
  provenance_nonblank :
    event.provenanceIds ≠ [] ∧ ∀ item ∈ event.provenanceIds, Text.Nonblank item
  /-- Provenance stands once each, in order. -/
  provenance_canonical :
    sortOn id event.provenanceIds = event.provenanceIds ∧ event.provenanceIds.Nodup
  /-- Fingerprint and id are those of the fields. -/
  identity_eq : event.fingerprint = digest.hexdigest event.payload ∧
    event.eventId = idOf digest (digest.hexdigest event.payload)
  /-- The kind of the event allows its transition. -/
  legal : event.eventType.legal event.fromState = some (event.fromState, event.toState)

variable {digest}

theorem validate_eq_ok_iff {event : SpeculativeBranchEvent} {done : Unit} :
    event.validate digest = .ok done ↔ event.Valid digest := by
  simp only [validate, bind_eq_ok, fieldGe_eq_ok, forEach_eq_ok, nonblank_eq_ok, rule_eq_ok,
    exists_and_left, exists_const]
  constructor
  · rintro ⟨generation, sequence, texts, provenance, canonical, identity, legal⟩
    exact ⟨⟨generation, sequence⟩, by simpa using texts, provenance, canonical, identity, legal⟩
  · intro valid
    exact ⟨valid.numbers_pos.1, valid.numbers_pos.2, by simpa using valid.texts_nonblank,
      valid.provenance_nonblank, valid.provenance_canonical, valid.identity_eq, valid.legal⟩

end SpeculativeBranchEvent

/-! ## Making and applying events -/

/-- An event that records a transition of a branch, before its fingerprint is computed. -/
def branchEventDraft (branch : SpeculativeBranch) (speculationPlanId : String)
    (targetState : SpeculativeBranchState) (eventSequence : Int) (provenanceIds : List String) :
    SpeculativeBranchEvent where
  eventId := "pending"
  speculationPlanId := speculationPlanId
  branchId := branch.branchId
  candidateId := branch.placementCandidateId
  eventType := eventByState targetState
  fromState := branch.state
  toState := targetState
  generation := branch.generation
  eventSequence := eventSequence
  provenanceIds := sortOn id provenanceIds
  fingerprint := "pending"

/-- The event under the fingerprint and the id of its fields. -/
def SpeculativeBranchEvent.identified (draft : SpeculativeBranchEvent) : SpeculativeBranchEvent :=
  let fingerprint := digest.hexdigest draft.payload
  { draft with eventId := idOf digest fingerprint, fingerprint := fingerprint }

/-- Record a transition of a branch. -/
def makeBranchEvent (branch : SpeculativeBranch) (targetState : SpeculativeBranchState)
    (eventSequence : Int) (provenanceIds : List String) : Except Fault SpeculativeBranchEvent :=
  match branch.speculationPlanId with
  | none => .error (.value "branch event requires plan provenance")
  | some speculationPlanId => do
      require (targetState ∈ allowedTargets branch.state)
        (.value "illegal branch event transition")
      let draft := branchEventDraft branch speculationPlanId targetState eventSequence provenanceIds
      let event := draft.identified digest
      event.validate digest
      return event

/-- Apply an event to a branch. -/
def applyBranchEvent (branch : SpeculativeBranch) (event : SpeculativeBranchEvent) :
    Except Fault SpeculativeBranch := do
  event.validate digest
  require (event.branchId = branch.branchId ∧ event.candidateId = branch.placementCandidateId)
    (.value "branch event targets a foreign branch")
  require (some event.speculationPlanId = branch.speculationPlanId)
    (.value "branch event targets a foreign plan")
  require (event.generation = branch.generation ∧ event.fromState = branch.state)
    (.value "stale branch event")
  transitionBranch branch event.toState

/-- A branch to which events are applied one after another. -/
def eventMachine : Machine SpeculativeBranch SpeculativeBranchEvent Unit Fault :=
  .ofFunction (applyBranchEvent digest)

variable {digest}

/-- The event is about the branch as it stands. -/
def SpeculativeBranchEvent.Addresses (event : SpeculativeBranchEvent)
    (branch : SpeculativeBranch) : Prop :=
  event.branchId = branch.branchId ∧ event.candidateId = branch.placementCandidateId ∧
    some event.speculationPlanId = branch.speculationPlanId ∧
    event.generation = branch.generation ∧ event.fromState = branch.state

/-- The branch may move where the event says, and has what that state asks for. -/
def Fits (branch : SpeculativeBranch) (event : SpeculativeBranchEvent) : Prop :=
  event.toState ∈ allowedTargets branch.state ∧ branch.CarriesFor event.toState

instance (event : SpeculativeBranchEvent) (branch : SpeculativeBranch) :
    Decidable (event.Addresses branch) :=
  inferInstanceAs (Decidable (_ ∧ _))

instance (branch : SpeculativeBranch) (event : SpeculativeBranchEvent) :
    Decidable (Fits branch event) :=
  inferInstanceAs (Decidable (_ ∧ _))

theorem applyBranchEvent_eq_ok_iff {branch next : SpeculativeBranch} (valid : branch.Valid)
    {event : SpeculativeBranchEvent} : applyBranchEvent digest branch event = .ok next ↔
      event.Valid digest ∧ event.Addresses branch ∧ Fits branch event ∧
        branch.moved event.toState = next := by
  simp only [applyBranchEvent, bind_eq_ok, SpeculativeBranchEvent.validate_eq_ok_iff,
    require_eq_ok, transitionBranch_eq_ok_iff valid, exists_and_left, exists_const,
    SpeculativeBranchEvent.Addresses, Fits, and_assoc]

/-- The kind of event that records an allowed transition allows it. -/
theorem legal_of_allowed {fromState toState : SpeculativeBranchState}
    (allowed : toState ∈ allowedTargets fromState) :
    (eventByState toState).legal fromState = some (fromState, toState) := by
  revert allowed
  cases fromState <;> cases toState <;> decide

/-- Provenance can be recorded: it is nonblank and not repeated. -/
def Recordable (provenanceIds : List String) : Prop :=
  (provenanceIds ≠ [] ∧ ∀ item ∈ provenanceIds, Text.Nonblank item) ∧ provenanceIds.Nodup

theorem recordable_sortOn {provenanceIds : List String} :
    Recordable (sortOn id provenanceIds) ↔ Recordable provenanceIds := by
  have perm := sortOn_perm id provenanceIds
  simp only [Recordable, ne_eq, mem_sortOn, perm.nodup_iff, ← List.length_eq_zero_iff,
    length_sortOn]

theorem identified_valid_iff {branch : SpeculativeBranch} (valid : branch.Valid)
    {speculationPlanId : String} (planned : branch.speculationPlanId = some speculationPlanId)
    {targetState : SpeculativeBranchState} (allowed : targetState ∈ allowedTargets branch.state)
    {eventSequence : Int} {provenanceIds : List String} :
    ((branchEventDraft branch speculationPlanId targetState eventSequence
      provenanceIds).identified digest).Valid digest ↔
      1 ≤ eventSequence ∧ Recordable provenanceIds := by
  rw [← recordable_sortOn]
  constructor
  · intro eventValid
    exact ⟨eventValid.numbers_pos.2, eventValid.provenance_nonblank,
      eventValid.provenance_canonical.2⟩
  · rintro ⟨sequence, nonblank, nodup⟩
    have planText : Text.Nonblank speculationPlanId :=
      valid.given_nonblank _ (by simp [SpeculativeBranch.context, planned])
    exact
      { numbers_pos := ⟨valid.generation_pos, sequence⟩
        texts_nonblank := by
          simp only [List.forall_mem_cons]
          exact ⟨digest.nonblank _, planText, valid.identities_nonblank.1,
            valid.identities_nonblank.2, digest.nonblank _, by simp⟩
        provenance_nonblank := nonblank
        provenance_canonical := ⟨sortOn_eq_self _ (sortOn_pairwise _ _), nodup⟩
        identity_eq := ⟨rfl, rfl⟩
        legal := legal_of_allowed allowed }

/-- An event is made exactly for a transition that the table allows, with a positive sequence number
and nonblank provenance without repetitions. -/
theorem makeBranchEvent_eq_ok_iff {branch : SpeculativeBranch} (valid : branch.Valid)
    {targetState : SpeculativeBranchState} {eventSequence : Int} {provenanceIds : List String}
    {event : SpeculativeBranchEvent} :
    makeBranchEvent digest branch targetState eventSequence provenanceIds = .ok event ↔
      ∃ speculationPlanId, branch.speculationPlanId = some speculationPlanId ∧
        targetState ∈ allowedTargets branch.state ∧ 1 ≤ eventSequence ∧
        Recordable provenanceIds ∧
        (branchEventDraft branch speculationPlanId targetState eventSequence
          provenanceIds).identified digest = event := by
  unfold makeBranchEvent
  split
  · next none => simp [none]
  · next speculationPlanId given =>
      simp only [bind_eq_ok, require_eq_ok, SpeculativeBranchEvent.validate_eq_ok_iff,
        exists_and_left, exists_const, pure_eq_ok, Except.ok.injEq, given, Option.some.injEq,
        exists_eq_left']
      refine and_congr_right fun allowed => ?_
      rw [identified_valid_iff valid given allowed, and_assoc]

theorem makeBranchEvent_spec {branch : SpeculativeBranch} (valid : branch.Valid)
    {targetState : SpeculativeBranchState} {eventSequence : Int} {provenanceIds : List String}
    {event : SpeculativeBranchEvent}
    (made : makeBranchEvent digest branch targetState eventSequence provenanceIds = .ok event) :
    event.Valid digest ∧ event.Addresses branch ∧ event.toState = targetState ∧
      targetState ∈ allowedTargets branch.state := by
  obtain ⟨speculationPlanId, planned, allowed, sequence, recordable, rfl⟩ :=
    (makeBranchEvent_eq_ok_iff valid).mp made
  exact ⟨(identified_valid_iff valid planned allowed).mpr ⟨sequence, recordable⟩,
    ⟨rfl, rfl, planned.symm, rfl, rfl⟩, rfl, allowed⟩

/-! ## Replaying events -/

variable (digest) in
/-- The event leaves a valid branch in the state that it says. -/
def Applies (branch : SpeculativeBranch) (event : SpeculativeBranchEvent) : Prop :=
  ∃ next, applyBranchEvent digest branch event = .ok next ∧ next.Valid ∧
    next.state = event.toState

variable (digest) in
/-- A valid event about the branch as it stands. -/
def Addressed (branch : SpeculativeBranch) (event : SpeculativeBranchEvent) : Prop :=
  event.Valid digest ∧ event.Addresses branch

theorem Addressed.applies_iff {branch : SpeculativeBranch} (valid : branch.Valid)
    {event : SpeculativeBranchEvent} (addressed : Addressed digest branch event) :
    Applies digest branch event ↔ Fits branch event := by
  constructor
  · rintro ⟨next, applied, _⟩
    exact ((applyBranchEvent_eq_ok_iff valid).mp applied).2.2.1
  · intro fits
    exact ⟨branch.moved event.toState,
      (applyBranchEvent_eq_ok_iff valid).mpr ⟨addressed.1, addressed.2, fits, rfl⟩,
      valid.moved_iff.mpr fits.2, rfl⟩

/-- What a branch has to be for an event of a kind to fit it. Events about verification fit none. -/
def Repeatable (branch : SpeculativeBranch) : SpeculativeBranchEventType → Prop
  | .ready | .started | .failed => True
  | .succeeded => branch.resultId ≠ none ∧ branch.resultFingerprint ≠ none
  | .committed => branch.verified = true
  | .cancelled => branch.state ∈ [SpeculativeBranchState.planned, .ready, .running]
  | .discarded => branch.state ∈ [SpeculativeBranchState.succeeded, .failed, .cancelled]
  | .planned | .verificationPassed | .verificationFailed => False

/-- The three tables agree on an event exactly where its kind says so. -/
theorem Addressed.fits_iff {branch : SpeculativeBranch} (valid : branch.Valid)
    {event : SpeculativeBranchEvent} (addressed : Addressed digest branch event) :
    Fits branch event ↔ Repeatable branch event.eventType := by
  obtain ⟨eventValid, _, _, _, _, sameState⟩ := addressed
  have legal := eventValid.legal
  unfold Fits
  cases kind : event.eventType with
  | planned => simp [kind, SpeculativeBranchEventType.legal] at legal
  | cancelled | discarded =>
      simp only [kind, SpeculativeBranchEventType.legal, Option.some.injEq, Prod.mk.injEq,
        true_and] at legal
      rw [← legal]
      cases state : branch.state <;>
        simp [allowedTargets, SpeculativeBranch.CarriesFor, Repeatable, state]
  | committed =>
      simp only [kind, SpeculativeBranchEventType.legal, Option.some.injEq, Prod.mk.injEq,
        sameState] at legal
      have given := valid.result_given (.inl legal.1.symm)
      simp [← legal.1, ← legal.2, allowedTargets, SpeculativeBranch.CarriesFor, Repeatable, given]
  | _ =>
      simp only [kind, SpeculativeBranchEventType.legal, Option.some.injEq, Prod.mk.injEq,
        sameState] at legal
      simp [← legal.1, ← legal.2, allowedTargets, SpeculativeBranch.CarriesFor, Repeatable]

/-- Whatever events are applied to a valid branch, a valid branch is left. -/
theorem run_valid {branch : SpeculativeBranch} (valid : branch.Valid)
    (log : List SpeculativeBranchEvent) : ((eventMachine digest).run branch log).Valid := by
  refine Machine.run_invariant SpeculativeBranch.Valid valid log ?_
  intro state event answer next stateValid step
  obtain ⟨_, _, fits, rfl⟩ :=
    (applyBranchEvent_eq_ok_iff stateValid).mp (Machine.ofFunction_step_ok.mp step)
  exact stateValid.moved_iff.mpr fits.2

/-- A valid event about a valid branch can be applied exactly where the table allows its transition
and the branch has what the new state asks for. For events that were made the latter is enough, and
a log replays exactly where each event fits the branch that the events before it leave. -/
theorem events_apply_iff {branch : SpeculativeBranch} (valid : branch.Valid) :
    (∀ event, Addressed digest branch event → (Applies digest branch event ↔ Fits branch event)) ∧
    (∀ targetState eventSequence provenanceIds event,
      makeBranchEvent digest branch targetState eventSequence provenanceIds = .ok event →
        (Applies digest branch event ↔ branch.CarriesFor targetState)) ∧
    ∀ log, (eventMachine digest).AllSteps
        (fun state event => Addressed digest state event → Applies digest state event) branch log ↔
      (eventMachine digest).AllSteps
        (fun state event => Addressed digest state event → Fits state event) branch log := by
  refine ⟨fun event addressed => addressed.applies_iff valid, ?_, fun log => ?_⟩
  · intro targetState eventSequence provenanceIds event made
    obtain ⟨eventValid, addresses, rfl, allowed⟩ := makeBranchEvent_spec valid made
    rw [Addressed.applies_iff valid ⟨eventValid, addresses⟩]
    exact and_iff_right allowed
  · simp only [Machine.allSteps_iff]
    refine forall₄_congr fun front event back split => ?_
    exact imp_congr_right fun addressed => addressed.applies_iff (run_valid valid front)

/-- A running branch of a plan, with or without a result. -/
def runningBranch (resultId : Option String) : SpeculativeBranch where
  branchId := "branch"
  placementCandidateId := "candidate"
  state := .running
  speculationPlanId := some "plan"
  sourceSegmentId := some "segment"
  planFingerprint := some "plan-fingerprint"
  candidateFingerprint := some "candidate-fingerprint"
  resultId := resultId
  resultFingerprint := resultId

theorem exists_success_event {resultId : Option String} (valid : (runningBranch resultId).Valid) :
    ∃ event, makeBranchEvent digest (runningBranch resultId) .succeeded 1 ["controller"] =
      .ok event :=
  ⟨_, (makeBranchEvent_eq_ok_iff valid).mpr ⟨"plan", rfl, List.mem_cons_self, le_rfl,
    ⟨⟨by decide, by decide⟩, by decide⟩, rfl⟩⟩

/-- The recorded success of a branch with a result can be applied. -/
theorem success_applies_with_result :
    ∃ event, makeBranchEvent .sha256 (runningBranch (some "result")) .succeeded 1 ["controller"] =
      .ok event ∧ Applies .sha256 (runningBranch (some "result")) event := by
  have valid : (runningBranch (some "result")).Valid :=
    SpeculativeBranch.validate_eq_ok_iff.mp (by decide : _ = Except.ok ())
  obtain ⟨event, made⟩ := exists_success_event valid
  exact ⟨event, made, ((events_apply_iff valid).2.1 _ _ _ event made).mpr (by decide)⟩

/-- The recorded success of a branch without a result cannot be applied. -/
theorem success_fails_without_result :
    ¬ ∀ (branch : SpeculativeBranch) (event : SpeculativeBranchEvent), branch.Valid →
      branch.speculationPlanId ≠ none → Addressed .sha256 branch event →
        Applies .sha256 branch event := by
  intro law
  have valid : (runningBranch none).Valid :=
    SpeculativeBranch.validate_eq_ok_iff.mp (by decide : _ = Except.ok ())
  obtain ⟨event, made⟩ := exists_success_event valid
  obtain ⟨eventValid, addresses, target, _⟩ := makeBranchEvent_spec valid made
  have addressed : Addressed .sha256 (runningBranch none) event := ⟨eventValid, addresses⟩
  have fits := (addressed.applies_iff valid).mp (law _ event valid (by decide) addressed)
  rw [Fits, target] at fits
  revert fits
  decide

end Speculation
end MercuryX
