import MercuryX.SessionMemory.Isolation

/-!
# What sessions share

The records of other sessions are never read by a write, but two resources are shared: the ids and
the room of the store. A write succeeds exactly when its own session admits it and neither of the
two stands in its way; what it makes of its session depends on the session alone.
-/

namespace MercuryX
namespace SessionMemory

open Foundation

/-- Two stores agree on a session: on its records and on its closure. -/
structure Agree (sessionId : String) (store other : SessionMemoryStore) : Prop where
  /-- The records of the session are the same. -/
  records : store.sessionRecords sessionId = other.sessionRecords sessionId
  /-- The closure of the session is the same. -/
  closure : store.getSessionClosureMetadata sessionId = other.getSessionClosureMetadata sessionId

/-- What a session by itself requires of a registration. -/
structure Admits (records : List SessionMemoryRecord) (closure : Option SessionClosure)
    (registration : Registration) : Prop where
  /-- The record is of the active session. -/
  active : registration.record.sessionId = registration.activeSessionId
  /-- The session is open. -/
  isOpen : closure = none
  /-- No other record of the session has the id. -/
  free : Registry.Free SessionMemoryRecord.recordId records registration.record

/-- No other session stands in the way of a record: none has its id, and the store has room. -/
structure Unobstructed (store : SessionMemoryStore) (record : SessionMemoryRecord) : Prop where
  /-- No record of another session has the id. -/
  foreign : ∀ other ∈ store.records, other.sessionId ≠ record.sessionId →
    other.recordId ≠ record.recordId
  /-- The record is stored already, or there is room for one more. -/
  room : record ∈ store.records ∨ store.records.length < maxSessionMemoryRecords

theorem mem_sessionRecords {store : SessionMemoryStore} {sessionId : String}
    {record : SessionMemoryRecord} :
    record ∈ store.sessionRecords sessionId ↔
      record ∈ store.records ∧ record.sessionId = sessionId := by
  simp [SessionMemoryStore.sessionRecords]

theorem isOpen_iff {store : SessionMemoryStore} {sessionId : String} :
    store.isSessionClosed sessionId = false ↔
      store.getSessionClosureMetadata sessionId = none := by
  simp [SessionMemoryStore.isSessionClosed, SessionMemoryStore.getSessionClosureMetadata]

theorem free_iff {store : SessionMemoryStore} {record : SessionMemoryRecord} :
    Registry.Free SessionMemoryRecord.recordId store.records record ↔
      Registry.Free SessionMemoryRecord.recordId (store.sessionRecords record.sessionId) record ∧
        ∀ other ∈ store.records, other.sessionId ≠ record.sessionId →
          other.recordId ≠ record.recordId := by
  constructor
  · intro free
    refine ⟨fun other member same => free other (mem_sessionRecords.mp member).1 same, ?_⟩
    intro other member different same
    exact different (congrArg SessionMemoryRecord.sessionId (free other member same))
  · rintro ⟨own, foreign⟩ other member same
    by_cases inSession : other.sessionId = record.sessionId
    · exact own other (mem_sessionRecords.mpr ⟨member, inSession⟩) same
    · exact absurd same (foreign other member inSession)

/-- A registration succeeds exactly when its session admits it and no other session stands in its
way. -/
theorem register_succeeds_iff {store : SessionMemoryStore} (certified : Certified store)
    {registration : Registration} :
    (∃ next, registerSessionMemoryRecord store registration = .ok next) ↔
      Admits (store.sessionRecords registration.activeSessionId)
          (store.getSessionClosureMetadata registration.activeSessionId) registration ∧
        Unobstructed store registration.record := by
  obtain ⟨record, activeSessionId⟩ := registration
  simp only [register_eq_ok_iff_transition certified]
  constructor
  · rintro ⟨next, step⟩
    cases step with
    | register active isOpen free room =>
        obtain rfl : record.sessionId = activeSessionId := active
        obtain ⟨own, foreign⟩ := free_iff.mp free
        have room := (Registry.length_entered_le_iff certified.records.unique free
          certified.bounded).mp room
        exact ⟨⟨rfl, isOpen_iff.mp isOpen, own⟩, ⟨foreign, room⟩⟩
  · rintro ⟨⟨active, isOpen, own⟩, ⟨foreign, room⟩⟩
    obtain rfl : record.sessionId = activeSessionId := active
    have free := free_iff.mpr ⟨own, foreign⟩
    exact ⟨_, .register rfl (isOpen_iff.mpr isOpen) free
      ((Registry.length_entered_le_iff certified.records.unique free certified.bounded).mpr room)⟩

/-- A registration makes of its session what entering the record into the session makes of it. -/
theorem sessionRecords_of_register {store next : SessionMemoryStore}
    (certified : Certified store) {registration : Registration}
    (outcome : registerSessionMemoryRecord store registration = .ok next) :
    next.sessionRecords registration.activeSessionId =
        Registry.entered SessionMemoryRecord.key SessionMemoryRecord.recordId
          (store.sessionRecords registration.activeSessionId) registration.record ∧
      next.closedSessions = store.closedSessions := by
  have step := (register_eq_ok_iff_transition certified).mp outcome
  have nextCertified := step.certified certified
  cases step with
  | register active isOpen free room =>
      refine ⟨?_, rfl⟩
      have own : Registry.Free SessionMemoryRecord.recordId
          (store.sessionRecords registration.activeSessionId) registration.record :=
        fun other member same => free other (mem_sessionRecords.mp member).1 same
      have part : Registry.Registered SessionMemoryRecord.key SessionMemoryRecord.recordId
          (store.sessionRecords registration.activeSessionId) := certified.records.filter _
      refine (nextCertified.records.filter _).ext SessionMemoryRecord.key_apart
        (Registry.registered_entered part.unique own) fun record => ?_
      rw [mem_sessionRecords, Registry.mem_entered certified.records.unique free,
        Registry.mem_entered part.unique own, mem_sessionRecords]
      constructor
      · rintro ⟨rfl | member, inSession⟩
        · exact .inl rfl
        · exact .inr ⟨member, inSession⟩
      · rintro (rfl | ⟨member, inSession⟩)
        · exact ⟨.inl rfl, active⟩
        · exact ⟨.inr member, inSession⟩

/-- What two stores that agree on a session make of a registration in it. -/
structure SharedRoomLaw (store other : SessionMemoryStore) (registration : Registration) :
    Prop where
  /-- Each store decides by the session and by what other sessions put in the way. -/
  decided : ∀ held ∈ [store, other],
    (∃ next, registerSessionMemoryRecord held registration = .ok next) ↔
      Admits (store.sessionRecords registration.activeSessionId)
          (store.getSessionClosureMetadata registration.activeSessionId) registration ∧
        Unobstructed held registration.record
  /-- Where no other session stands in the way, both succeed or neither does. -/
  together : Unobstructed store registration.record → Unobstructed other registration.record →
    ((∃ next, registerSessionMemoryRecord store registration = .ok next) ↔
      ∃ next, registerSessionMemoryRecord other registration = .ok next)
  /-- Where both succeed, they still agree on the session. -/
  same : ∀ next otherNext, registerSessionMemoryRecord store registration = .ok next →
    registerSessionMemoryRecord other registration = .ok otherNext →
      Agree registration.activeSessionId next otherNext

/-- Other sessions affect a write in a session by the ids they hold and the room they take, and in
no other way. -/
theorem sharedRoomLaw {store other : SessionMemoryStore}
    (reach : machine.Reachable .empty store) (otherReach : machine.Reachable .empty other)
    {registration : Registration} (agree : Agree registration.activeSessionId store other) :
    SharedRoomLaw store other registration := by
  have certified := certified_of_reachable reach certified_empty
  have otherCertified := certified_of_reachable otherReach certified_empty
  have decided := @register_succeeds_iff store certified registration
  have otherDecided := @register_succeeds_iff other otherCertified registration
  rw [← agree.records, ← agree.closure] at otherDecided
  refine ⟨?_, ?_, ?_⟩
  · simp only [List.forall_mem_cons, List.not_mem_nil, false_imp_iff, implies_true, and_true]
    exact ⟨decided, otherDecided⟩
  · intro unobstructed otherUnobstructed
    rw [decided, otherDecided, and_iff_left unobstructed, and_iff_left otherUnobstructed]
  · intro next otherNext outcome otherOutcome
    obtain ⟨records, closures⟩ := sessionRecords_of_register certified outcome
    obtain ⟨otherRecords, otherClosures⟩ := sessionRecords_of_register otherCertified otherOutcome
    refine ⟨?_, ?_⟩
    · rw [records, otherRecords, agree.records]
    · rw [SessionMemoryStore.getSessionClosureMetadata, closures,
        SessionMemoryStore.getSessionClosureMetadata, otherClosures]
      exact agree.closure

/-- A record of another session, under the id of the sample record. -/
def sampleStranger : SessionMemoryRecord :=
  { sampleMemory with sessionId := "q", texts_nonblank := by decide }

/-- The empty store and one that holds another session agree on a session that is empty in both. -/
theorem sharedRoomLaw_empty : SharedRoomLaw .empty sampleStore ⟨sampleStranger, "q"⟩ :=
  sharedRoomLaw (.refl _) ⟨_, sampleStore_run⟩ ⟨rfl, rfl⟩

/-- Stores that agree on a session decide alike on every record of it, with the same outcome for
the session. -/
def SessionsDoNotInterfere : Prop :=
  ∀ (store other : SessionMemoryStore) (record : SessionMemoryRecord),
    machine.Reachable .empty store → machine.Reachable .empty other →
    Agree record.sessionId store other →
    ((∃ next, registerSessionMemoryRecord store ⟨record, record.sessionId⟩ = .ok next) ↔
      ∃ next, registerSessionMemoryRecord other ⟨record, record.sessionId⟩ = .ok next) ∧
    ∀ next otherNext, registerSessionMemoryRecord store ⟨record, record.sessionId⟩ = .ok next →
      registerSessionMemoryRecord other ⟨record, record.sessionId⟩ = .ok otherNext →
        next.sessionRecords record.sessionId = otherNext.sessionRecords record.sessionId

/-- A record is rejected because another session has a record of its id. -/
theorem sessions_interfere : ¬ SessionsDoNotInterfere := by
  intro noninterference
  obtain ⟨decided, _⟩ := noninterference .empty sampleStore sampleStranger (.refl _)
    ⟨_, sampleStore_run⟩ ⟨rfl, rfl⟩
  have accepted : registerSessionMemoryRecord .empty ⟨sampleStranger, "q"⟩ =
      .ok ⟨[sampleStranger], []⟩ := by decide
  have rejected : registerSessionMemoryRecord sampleStore ⟨sampleStranger, "q"⟩ =
      .error (.value "conflicting duplicate identity") := by decide
  obtain ⟨next, outcome⟩ := decided.mp ⟨_, accepted⟩
  rw [show sampleStranger.sessionId = "q" from rfl, rejected] at outcome
  contradiction

end SessionMemory
end MercuryX
