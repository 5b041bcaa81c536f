import MercuryX.Foundation.Registry
import MercuryX.SessionMemory.Contracts

/-!
# The session memory store

The store holds the records of all sessions under their ids, in one canonical order and within one
bound, and the closures of the sessions that are closed. A record is only entered into a session
that is open, and never in the place of another record of its id.
-/

namespace MercuryX
namespace SessionMemory

open Foundation

/-! ## The store -/

/-- The closure of a session. -/
structure SessionClosure where
  sessionId : String
  closureSequence : Int
  policyId : String
  deriving DecidableEq

/-- Records are ordered by session, sequence and id. -/
def SessionMemoryRecord.key (record : SessionMemoryRecord) : String ×ₗ Nat ×ₗ String :=
  toLex (record.sessionId, toLex (record.creationSequence, record.recordId))

/-- The records and the closures of all sessions. -/
structure SessionMemoryStore where
  records : List SessionMemoryRecord
  closedSessions : List SessionClosure
  deriving DecidableEq

namespace SessionMemoryStore

/-- The store without records and closures. -/
def empty : SessionMemoryStore := ⟨[], []⟩

/-- Close a session; closing it again in the same way changes nothing. -/
def closeSession (store : SessionMemoryStore) (sessionId : String) (closureSequence : Int)
    (policyId : String) : Except Fault SessionMemoryStore := do
  require (Text.Nonblank sessionId ∧ 0 < closureSequence ∧ Text.Nonblank policyId)
    (.value "malformed closure metadata")
  let values := Dict.indexed SessionClosure.sessionId store.closedSessions
  let existing := values.get? sessionId
  let proposed : SessionClosure := ⟨sessionId, closureSequence, policyId⟩
  require (existing.all fun closure => closure = proposed) (.value "conflicting closure metadata")
  let closures := sortOn SessionClosure.sessionId (values.insert sessionId proposed).values
  return { records := store.records, closedSessions := closures }

/-- Whether a session is closed. -/
def isSessionClosed (store : SessionMemoryStore) (sessionId : String) : Bool :=
  store.closedSessions.any fun closure => closure.sessionId = sessionId

/-- The closure of a session, if it is closed. -/
def getSessionClosureMetadata (store : SessionMemoryStore) (sessionId : String) :
    Option SessionClosure :=
  store.closedSessions.find? fun closure => closure.sessionId = sessionId

/-- The records of a session. -/
def sessionRecords (store : SessionMemoryStore) (sessionId : String) : List SessionMemoryRecord :=
  store.records.filter fun record => record.sessionId = sessionId

/-- The records of a session, which has to be known. -/
def recordsForSession (store : SessionMemoryStore) (sessionId : String) :
    Except Fault (List SessionMemoryRecord) :=
  match store.sessionRecords sessionId with
  | [] => .error (.value "cross-session or unknown session access rejected")
  | values => .ok values

end SessionMemoryStore

/-- A record and the session that is active. -/
structure Registration where
  record : SessionMemoryRecord
  activeSessionId : String

/-- Register a record in the active session. -/
def registerSessionMemoryRecord (store : SessionMemoryStore) (registration : Registration) :
    Except Fault SessionMemoryStore := do
  let record := registration.record
  require (record.sessionId = registration.activeSessionId) (.value "cross-session write rejected")
  require (store.isSessionClosed registration.activeSessionId = false)
    (.value "closed session rejects writes")
  let existing := Dict.indexed SessionMemoryRecord.recordId store.records
  require ((existing.get? record.recordId).all fun other => other = record)
    (.value "conflicting duplicate identity")
  let updated := existing.insert record.recordId record
  require (updated.values.length ≤ maxSessionMemoryRecords)
    (.value "certified record cap exceeded")
  return { records := sortOn SessionMemoryRecord.key updated.values
           closedSessions := store.closedSessions }

/-! ## Certified stores -/

/-- The store keeps both registries canonical and its records within their bound. -/
structure Certified (store : SessionMemoryStore) : Prop where
  /-- Records are registered under their ids. -/
  records : Registry.Registered SessionMemoryRecord.key SessionMemoryRecord.recordId store.records
  /-- The store holds no more than it may. -/
  bounded : store.records.length ≤ maxSessionMemoryRecords
  /-- Closures are registered under their sessions. -/
  closures : Registry.Registered SessionClosure.sessionId SessionClosure.sessionId
    store.closedSessions

theorem certified_empty : Certified SessionMemoryStore.empty where
  records := Registry.registered_nil
  bounded := Nat.zero_le _
  closures := Registry.registered_nil

section Effects

variable {store next : SessionMemoryStore}

/-- A registration succeeds exactly when the session is active and open, no other record has the id
and the store has room; it enters the record. -/
theorem register_eq_ok_iff (certified : Certified store) {registration : Registration} :
    registerSessionMemoryRecord store registration = .ok next ↔
      registration.record.sessionId = registration.activeSessionId ∧
        store.isSessionClosed registration.activeSessionId = false ∧
        Registry.register? SessionMemoryRecord.key SessionMemoryRecord.recordId
          (fun records => records.length ≤ maxSessionMemoryRecords) store.records
          registration.record = some next.records ∧
        next.closedSessions = store.closedSessions := by
  obtain ⟨nextRecords, nextClosed⟩ := next
  simp only [registerSessionMemoryRecord, bind_eq_ok, require_eq_ok, pure_eq_ok, Except.ok.injEq,
    exists_and_left, exists_const, Registry.get?_all_eq_iff certified.records.unique,
    Registry.register?_eq_some_iff, Registry.entered, length_sortOn, SessionMemoryStore.mk.injEq]
  constructor
  · rintro ⟨active, isOpen, free, room, rfl, rfl⟩
    exact ⟨active, isOpen, ⟨⟨free, room⟩, rfl⟩, rfl⟩
  · rintro ⟨active, isOpen, ⟨⟨free, room⟩, rfl⟩, rfl⟩
    exact ⟨active, isOpen, free, room, rfl, rfl⟩

/-- Closing a session succeeds exactly when the arguments are well formed and the session has no
other closure; it enters the closure. -/
theorem closeSession_eq_ok_iff (certified : Certified store) {sessionId policyId : String}
    {closureSequence : Int} :
    store.closeSession sessionId closureSequence policyId = .ok next ↔
      (Text.Nonblank sessionId ∧ 0 < closureSequence ∧ Text.Nonblank policyId) ∧
        Registry.register? SessionClosure.sessionId SessionClosure.sessionId (fun _ => True)
          store.closedSessions ⟨sessionId, closureSequence, policyId⟩ = some next.closedSessions ∧
        next.records = store.records := by
  obtain ⟨nextRecords, nextClosed⟩ := next
  have lookup : ((Dict.indexed SessionClosure.sessionId store.closedSessions).get?
        sessionId).all (fun closure => closure = ⟨sessionId, closureSequence, policyId⟩) = true ↔
      Registry.Free SessionClosure.sessionId store.closedSessions
        ⟨sessionId, closureSequence, policyId⟩ :=
    Registry.get?_all_eq_iff certified.closures.unique
  simp only [SessionMemoryStore.closeSession, bind_eq_ok, require_eq_ok, pure_eq_ok,
    Except.ok.injEq, exists_and_left, exists_const, lookup, Registry.register?_eq_some_iff,
    Registry.entered, and_true, SessionMemoryStore.mk.injEq]
  constructor
  · rintro ⟨valid, free, rfl, rfl⟩
    exact ⟨valid, ⟨free, rfl⟩, rfl⟩
  · rintro ⟨valid, ⟨free, rfl⟩, rfl⟩
    exact ⟨valid, free, rfl, rfl⟩

theorem certified_of_register (certified : Certified store) {registration : Registration}
    (outcome : registerSessionMemoryRecord store registration = .ok next) : Certified next := by
  obtain ⟨_, _, entering, sameClosures⟩ := (register_eq_ok_iff certified).mp outcome
  obtain ⟨⟨free, room⟩, entered⟩ := Registry.register?_eq_some_iff.mp entering
  rw [entered] at room
  refine ⟨?_, room, sameClosures ▸ certified.closures⟩
  exact entered ▸ Registry.registered_entered certified.records.unique free

theorem certified_of_closeSession (certified : Certified store) {sessionId policyId : String}
    {closureSequence : Int}
    (outcome : store.closeSession sessionId closureSequence policyId = .ok next) :
    Certified next := by
  obtain ⟨_, entering, sameRecords⟩ := (closeSession_eq_ok_iff certified).mp outcome
  obtain ⟨⟨free, _⟩, entered⟩ := Registry.register?_eq_some_iff.mp entering
  refine ⟨sameRecords ▸ certified.records, sameRecords ▸ certified.bounded, ?_⟩
  exact entered ▸ Registry.registered_entered certified.closures.unique free

theorem register_conflict (certified : Certified store) {record other : SessionMemoryRecord}
    (member : record ∈ store.records) (same : other.recordId = record.recordId)
    (different : other ≠ record)
    (isOpen : store.isSessionClosed other.sessionId = false) :
    registerSessionMemoryRecord store ⟨other, other.sessionId⟩ =
      .error (.value "conflicting duplicate identity") := by
  have taken : ¬ Registry.Free SessionMemoryRecord.recordId store.records other := fun free =>
    different (free record member same.symm).symm
  rw [← Registry.get?_all_eq_iff certified.records.unique] at taken
  simp [registerSessionMemoryRecord, isOpen, require, taken]

end Effects

end SessionMemory
end MercuryX
