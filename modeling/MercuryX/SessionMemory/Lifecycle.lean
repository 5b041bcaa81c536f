import MercuryX.Foundation.Fallible
import MercuryX.SessionMemory.Retrieval

/-!
# The lifecycle of session memory

A transition makes a further version of a record, of another lifecycle, and keeps the id of the
record. Closing a session expires in place what has not ended in it. The store takes no second
record of an id, so the record that a transition makes cannot be registered where its record is
stored: there is no way to carry a transition into an open session.
-/

namespace MercuryX
namespace SessionMemory

open Foundation

/-! ## Transitions -/

/-- The transitions between lifecycles that are allowed. -/
def allowed : List (SessionMemoryLifecycle × SessionMemoryLifecycle) :=
  [(.active, .compacted), (.active, .expired), (.active, .tombstoned), (.compacted, .expired),
    (.compacted, .tombstoned)]

/-- The record of a transition: the next version under the same id. -/
def SessionMemoryRecord.transitioned (record : SessionMemoryRecord)
    (target : SessionMemoryLifecycle) : SessionMemoryRecord :=
  { record with
    lifecycle := target
    recordVersion := record.recordVersion + 1
    recordVersion_pos := Nat.succ_pos _ }

/-- Make the record of a transition to a lifecycle. -/
def transitionSessionMemoryLifecycle (record : SessionMemoryRecord)
    (target : SessionMemoryLifecycle) (authorizedSessionId : String)
    (store : Option SessionMemoryStore) : Except Fault SessionMemoryLifecycleResult := do
  require (record.sessionId = authorizedSessionId)
    (.value "cross-session lifecycle mutation rejected")
  require (store.all fun store => !store.isSessionClosed authorizedSessionId)
    (.value "closed session lifecycle mutation rejected")
  require ((record.lifecycle, target) ∈ allowed) (.value "invalid lifecycle transition")
  return { status := .ready
           record := some (record.transitioned target)
           reason := some "deterministic allowed lifecycle transition" }

/-- Expire a record. -/
def expireSessionMemory (record : SessionMemoryRecord) (authorizedSessionId : String)
    (store : Option SessionMemoryStore) : Except Fault SessionMemoryLifecycleResult :=
  transitionSessionMemoryLifecycle record .expired authorizedSessionId store

/-- Tombstone a record. -/
def tombstoneSessionMemory (record : SessionMemoryRecord) (authorizedSessionId : String)
    (store : Option SessionMemoryStore) : Except Fault SessionMemoryLifecycleResult :=
  transitionSessionMemoryLifecycle record .tombstoned authorizedSessionId store

/-- What closing a session makes of a record: what has not ended in the session is expired. -/
def closingRecord (store : SessionMemoryStore) (sessionId : String)
    (record : SessionMemoryRecord) : Except Fault SessionMemoryRecord :=
  if record.sessionId = sessionId ∧ record.lifecycle ∈ [.active, .compacted] then do
    let result ← transitionSessionMemoryLifecycle record .expired sessionId (some store)
    -- a transition that answers always has a record
    return result.record.getD record
  else .ok record

/-- Close a session and expire what has not ended in it. -/
def closeSessionMemory (store : SessionMemoryStore)
    (sessionId authorizedSessionId : String) (closureSequence : Int) (policyId : String) :
    Except Fault SessionMemoryStore := do
  require (sessionId = authorizedSessionId) (.value "cross-session closure rejected")
  let records ← store.records.mapM (closingRecord store sessionId)
  { store with records := records }.closeSession sessionId closureSequence policyId

/-- A transition answers exactly when it is allowed, in the session of the record, and the session
is open in the store at hand, if any. -/
theorem transition_eq_ok_iff {record : SessionMemoryRecord} {target : SessionMemoryLifecycle}
    {authorizedSessionId : String} {store : Option SessionMemoryStore}
    {result : SessionMemoryLifecycleResult} :
    transitionSessionMemoryLifecycle record target authorizedSessionId store = .ok result ↔
      (record.sessionId = authorizedSessionId ∧
        (∀ held, store = some held → held.isSessionClosed authorizedSessionId = false) ∧
        (record.lifecycle, target) ∈ allowed) ∧
      (⟨.ready, some (record.transitioned target),
        some "deterministic allowed lifecycle transition"⟩ : SessionMemoryLifecycleResult) =
          result := by
  simp only [transitionSessionMemoryLifecycle, bind_eq_ok, require_eq_ok, pure_eq_ok,
    Except.ok.injEq, exists_and_left, exists_const, Option.all_eq_true, Bool.not_eq_true',
    and_assoc]

/-- What closing a session makes of a record, once it succeeds. -/
def closed (sessionId : String) (record : SessionMemoryRecord) : SessionMemoryRecord :=
  if record.sessionId = sessionId ∧ record.lifecycle ∈ [.active, .compacted] then
    record.transitioned .expired
  else record

theorem closed_of_closingRecord {store : SessionMemoryStore} {sessionId : String}
    {record next : SessionMemoryRecord}
    (outcome : closingRecord store sessionId record = .ok next) :
    next = closed sessionId record := by
  unfold closingRecord at outcome
  unfold closed
  split at outcome
  · next ended =>
      rw [if_pos ended]
      simp only [bind_eq_ok, pure_eq_ok, Except.ok.injEq] at outcome
      obtain ⟨result, made, rfl⟩ := outcome
      obtain ⟨_, rfl⟩ := transition_eq_ok_iff.mp made
      rfl
  · next kept =>
      rw [if_neg kept]
      exact (Except.ok.inj outcome).symm

/-- The record has not ended. -/
def Live (record : SessionMemoryRecord) : Prop := record.lifecycle ∈ [.active, .compacted]

instance (record : SessionMemoryRecord) : Decidable (Live record) :=
  inferInstanceAs (Decidable (record.lifecycle ∈ _))

theorem closingRecord_eq_ok_iff {store : SessionMemoryStore} {sessionId : String}
    {record : SessionMemoryRecord} :
    closingRecord store sessionId record = .ok (closed sessionId record) ↔
      (store.isSessionClosed sessionId = true → record.sessionId = sessionId → ¬ Live record) := by
  unfold closingRecord closed
  split
  · next inSession =>
      have permitted : (record.lifecycle, SessionMemoryLifecycle.expired) ∈ allowed := by
        have live := inSession.2
        simp only [List.mem_cons, List.not_mem_nil, or_false] at live
        rcases live with active | compacted
        · rw [active]
          decide
        · rw [compacted]
          decide
      simp only [bind_eq_ok, pure_eq_ok, Except.ok.injEq, transition_eq_ok_iff, Option.some_inj,
        forall_eq']
      constructor
      · rintro ⟨result, ⟨⟨_, isOpen, _⟩, _⟩, _⟩ isClosed
        rw [isOpen] at isClosed
        contradiction
      · intro ended
        have isOpen : store.isSessionClosed sessionId = false := by
          rw [Bool.eq_false_iff]
          exact fun isClosed => ended isClosed inSession.1 inSession.2
        exact ⟨_, ⟨⟨inSession.1, isOpen, permitted⟩, rfl⟩, rfl⟩
  · next elsewhere =>
      simp only [true_iff]
      exact fun _ inSession live => elsewhere ⟨inSession, live⟩

theorem closed_key (sessionId : String) (record : SessionMemoryRecord) :
    (closed sessionId record).key = record.key ∧
      (closed sessionId record).recordId = record.recordId := by
  unfold closed
  split
  · exact ⟨rfl, rfl⟩
  · exact ⟨rfl, rfl⟩

/-! ## Runs of the store -/

/-- An operation on the store. -/
inductive StoreOp where
  /-- Register a record. -/
  | register (registration : Registration)
  /-- Close a session. -/
  | close (sessionId authorizedSessionId : String) (closureSequence : Int) (policyId : String)

/-- One operation. -/
def SessionMemoryStore.apply (store : SessionMemoryStore) :
    StoreOp → Except Fault SessionMemoryStore
  | .register registration => registerSessionMemoryRecord store registration
  | .close sessionId authorizedSessionId closureSequence policyId =>
      closeSessionMemory store sessionId authorizedSessionId closureSequence policyId

/-- The store as a machine. -/
def machine : Machine SessionMemoryStore StoreOp Unit Fault :=
  .ofFunction SessionMemoryStore.apply

/-- Closing a session succeeds exactly when the caller is authorized, a session that is closed
already has only ended records, and the closure can be entered; what has not ended is expired. -/
theorem closeSessionMemory_eq_ok_iff {store next : SessionMemoryStore}
    {sessionId authorizedSessionId policyId : String} {closureSequence : Int} :
    closeSessionMemory store sessionId authorizedSessionId closureSequence policyId = .ok next ↔
      sessionId = authorizedSessionId ∧
      (∀ record ∈ store.records, store.isSessionClosed sessionId = true →
        record.sessionId = sessionId → ¬ Live record) ∧
      ({ store with records := store.records.map (closed sessionId) } :
        SessionMemoryStore).closeSession sessionId closureSequence policyId = .ok next := by
  simp only [closeSessionMemory, bind_eq_ok, require_eq_ok, exists_and_left, exists_const,
    mapM_eq_ok_iff fun _ _ => closed_of_closingRecord, closingRecord_eq_ok_iff, and_assoc,
    exists_eq_left']

theorem Certified.closed {store : SessionMemoryStore} (certified : Certified store)
    (sessionId : String) :
    Certified { store with records := store.records.map (closed sessionId) } where
  records := certified.records.map fun record => closed_key sessionId record
  bounded := by
    rw [List.length_map]
    exact certified.bounded
  closures := certified.closures

theorem certified_of_reachable {store later : SessionMemoryStore}
    (reach : machine.Reachable store later) (certified : Certified store) : Certified later := by
  refine reach.invariant certified fun state op answer next certified step => ?_
  have outcome : state.apply op = .ok next := Machine.ofFunction_step_ok.mp step
  cases op with
  | register registration => exact certified_of_register certified outcome
  | close sessionId authorizedSessionId closureSequence policyId =>
      obtain ⟨_, _, closing⟩ := closeSessionMemory_eq_ok_iff.mp outcome
      exact certified_of_closeSession (certified.closed sessionId) closing

/-! ## Transitions meet the store -/

/-- A record to try transitions on. -/
def sampleMemory : SessionMemoryRecord where
  sessionId := "s"
  taskId := "t"
  turnId := "u"
  recordId := "r"
  recordVersion := 1
  sourcePhase := "p"
  sourceArtifactId := "a"
  memoryType := .toolResult
  scope := .session
  creationSequence := 1
  lifecycle := .active
  provenance := ["e"]
  texts_nonblank := by decide
  recordVersion_pos := Nat.one_pos
  creationSequence_pos := Nat.one_pos
  provenance_given := by decide
  provenance_canonical := by decide

/-- The store that holds the record. -/
def sampleStore : SessionMemoryStore := ⟨[sampleMemory], []⟩

theorem sampleStore_run :
    machine.run .empty [.register ⟨sampleMemory, "s"⟩] = sampleStore := by
  have registered : SessionMemoryStore.apply .empty (.register ⟨sampleMemory, "s"⟩) =
      .ok sampleStore := by decide
  exact Machine.ofFunction_after registered

theorem sampleExpired_made :
    transitionSessionMemoryLifecycle sampleMemory .expired "s" (some sampleStore) =
      .ok ⟨.ready, some (sampleMemory.transitioned .expired),
        some "deterministic allowed lifecycle transition"⟩ := by decide

/-- The record of a transition takes the place of its record: it is registered, the session no
longer returns the record by default, and all other records stay. -/
def TakesEffect (store : SessionMemoryStore) (record updated : SessionMemoryRecord) : Prop :=
  ∃ next, registerSessionMemoryRecord store ⟨updated, record.sessionId⟩ = .ok next ∧
    (∀ query, query.sessionId = record.sessionId → query.lifecycle = none →
      record ∉ (retrieveSessionMemory query next).records) ∧
    ∀ other ∈ store.records, other ≠ record → other ∈ next.records

/-- A record never keeps its version in a transition. -/
theorem transitioned_ne (record : SessionMemoryRecord) (target : SessionMemoryLifecycle) :
    record.transitioned target ≠ record := by
  intro same
  have versions : record.recordVersion + 1 = record.recordVersion :=
    congrArg SessionMemoryRecord.recordVersion same
  omega

theorem register_transitioned {store : SessionMemoryStore} (certified : Certified store)
    {record : SessionMemoryRecord} (member : record ∈ store.records)
    (isOpen : store.isSessionClosed record.sessionId = false) (target : SessionMemoryLifecycle) :
    registerSessionMemoryRecord store ⟨record.transitioned target, record.sessionId⟩ =
      .error (.value "conflicting duplicate identity") :=
  register_conflict certified member rfl (transitioned_ne record target) isOpen

/-- No transition of a stored record ever takes effect. -/
theorem transition_never_takes_effect {store : SessionMemoryStore}
    {record updated : SessionMemoryRecord} {target : SessionMemoryLifecycle}
    {authorizedSessionId : String} {held : Option SessionMemoryStore}
    {result : SessionMemoryLifecycleResult} (reach : machine.Reachable .empty store)
    (member : record ∈ store.records)
    (outcome : transitionSessionMemoryLifecycle record target authorizedSessionId held = .ok result)
    (made : result.record = some updated) : ¬ TakesEffect store record updated := by
  rintro ⟨next, registered, _⟩
  have certified := certified_of_reachable reach certified_empty
  obtain ⟨_, rfl⟩ := transition_eq_ok_iff.mp outcome
  obtain rfl := Option.some_inj.mp made
  obtain ⟨_, isOpen, _⟩ := (register_eq_ok_iff certified).mp registered
  rw [register_transitioned certified member isOpen target] at registered
  contradiction

/-- Expiring a registered record has no effect. -/
theorem expiry_never_takes_effect :
    ¬ TakesEffect sampleStore sampleMemory (sampleMemory.transitioned .expired) :=
  transition_never_takes_effect ⟨_, sampleStore_run⟩ List.mem_cons_self sampleExpired_made rfl

/-- Every allowed transition of a record that registrations have stored in an open session takes
effect. -/
def TransitionsTakeEffect : Prop :=
  ∀ (registrations : List Registration) (store : SessionMemoryStore)
    (record updated : SessionMemoryRecord) (target : SessionMemoryLifecycle)
    (result : SessionMemoryLifecycleResult),
    machine.run .empty (registrations.map .register) = store → record ∈ store.records →
    store.isSessionClosed record.sessionId = false →
    transitionSessionMemoryLifecycle record target record.sessionId (some store) = .ok result →
    result.record = some updated → TakesEffect store record updated

/-- The expiry of a registered record does not take effect. -/
theorem transitions_do_not_take_effect : ¬ TransitionsTakeEffect := by
  intro effective
  obtain ⟨next, registered, _⟩ := effective [⟨sampleMemory, "s"⟩] sampleStore sampleMemory _
    .expired _ sampleStore_run List.mem_cons_self rfl sampleExpired_made rfl
  have rejected : registerSessionMemoryRecord sampleStore
      ⟨sampleMemory.transitioned .expired, sampleMemory.sessionId⟩ =
        .error (.value "conflicting duplicate identity") := by decide
  rw [rejected] at registered
  contradiction

end SessionMemory
end MercuryX
