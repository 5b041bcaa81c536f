import MercuryX.SessionMemory.Lifecycle

/-!
# Sessions are isolated and closed for good

Registering touches the records of one open session, closing expires what has not ended in one
session and enters its closure. Along every run a closed session therefore keeps its closure and
its records, all of them ended, and no operation on another session is seen in it.
-/

namespace MercuryX
namespace SessionMemory

open Foundation

/-- The session that an operation is about. -/
def StoreOp.session : StoreOp → String
  | .register registration => registration.activeSessionId
  | .close sessionId _ _ _ => sessionId

/-- What one successful operation does to the store. -/
inductive Transition (store : SessionMemoryStore) : StoreOp → SessionMemoryStore → Prop where
  /-- A record is entered into an open session, while the store has room. -/
  | register {registration : Registration}
      (active : registration.record.sessionId = registration.activeSessionId)
      (isOpen : store.isSessionClosed registration.activeSessionId = false)
      (free : Registry.Free SessionMemoryRecord.recordId store.records registration.record)
      (room : (Registry.entered SessionMemoryRecord.key SessionMemoryRecord.recordId store.records
        registration.record).length ≤ maxSessionMemoryRecords) :
      Transition store (.register registration)
        ⟨Registry.entered SessionMemoryRecord.key SessionMemoryRecord.recordId store.records
          registration.record, store.closedSessions⟩
  /-- What has not ended in the session is expired, and the closure of the session is entered. -/
  | close {sessionId policyId : String} {closureSequence : Int}
      (valid : Text.Nonblank sessionId ∧ 0 < closureSequence ∧ Text.Nonblank policyId)
      (ended : ∀ record ∈ store.records, store.isSessionClosed sessionId = true →
        record.sessionId = sessionId → ¬ Live record)
      (free : Registry.Free SessionClosure.sessionId store.closedSessions
        ⟨sessionId, closureSequence, policyId⟩) :
      Transition store (.close sessionId sessionId closureSequence policyId)
        ⟨store.records.map (closed sessionId), Registry.entered SessionClosure.sessionId
          SessionClosure.sessionId store.closedSessions ⟨sessionId, closureSequence, policyId⟩⟩

section Steps

variable {store next : SessionMemoryStore} {op : StoreOp}

theorem apply_eq_ok_iff (certified : Certified store) :
    store.apply op = .ok next ↔ Transition store op next := by
  obtain ⟨nextRecords, nextClosed⟩ := next
  cases op with
  | register registration =>
      rw [SessionMemoryStore.apply, register_eq_ok_iff certified, Registry.register?_eq_some_iff]
      constructor
      · rintro ⟨active, isOpen, ⟨⟨free, room⟩, rfl⟩, rfl⟩
        exact .register active isOpen free room
      · intro step
        cases step with
        | register active isOpen free room =>
            exact ⟨active, isOpen, ⟨⟨free, room⟩, rfl⟩, rfl⟩
  | close sessionId authorizedSessionId closureSequence policyId =>
      rw [SessionMemoryStore.apply, closeSessionMemory_eq_ok_iff,
        closeSession_eq_ok_iff (certified.closed sessionId), Registry.register?_eq_some_iff]
      constructor
      · rintro ⟨rfl, ended, valid, ⟨⟨free, _⟩, rfl⟩, rfl⟩
        exact .close valid ended free
      · intro step
        cases step with
        | close valid ended free => exact ⟨rfl, ended, valid, ⟨⟨free, trivial⟩, rfl⟩, rfl⟩

theorem register_eq_ok_iff_transition (certified : Certified store)
    {registration : Registration} :
    registerSessionMemoryRecord store registration = .ok next ↔
      Transition store (.register registration) next := by
  rw [← apply_eq_ok_iff certified, SessionMemoryStore.apply]

end Steps

/-! ## What an operation changes -/

theorem closed_sessionId (sessionId : String) (record : SessionMemoryRecord) :
    (closed sessionId record).sessionId = record.sessionId := by
  unfold closed
  split
  · rfl
  · rfl

theorem closed_of_ended {sessionId : String} {record : SessionMemoryRecord}
    (ended : record.sessionId = sessionId → ¬ Live record) : closed sessionId record = record :=
  if_neg fun inSession => ended inSession.1 inSession.2

/-- Closing a session leaves nothing in it that has not ended. -/
theorem not_live_closed {sessionId : String} {record : SessionMemoryRecord}
    (inSession : record.sessionId = sessionId) : ¬ Live (closed sessionId record) := by
  by_cases live : Live record
  · rw [closed, if_pos ⟨inSession, live⟩]
    simp [Live, SessionMemoryRecord.transitioned]
  · rwa [closed_of_ended fun _ => live]

theorem isSessionClosed_iff {store : SessionMemoryStore} {sessionId : String} :
    store.isSessionClosed sessionId = true ↔
      ∃ closure ∈ store.closedSessions, closure.sessionId = sessionId := by
  simp [SessionMemoryStore.isSessionClosed]

theorem SessionMemoryRecord.key_apart (left right : SessionMemoryRecord)
    (same : left.key = right.key) : left.recordId = right.recordId := by
  simp only [SessionMemoryRecord.key, toLex_inj, Prod.mk.injEq] at same
  exact same.2.2

/-- The store is certified, its closures are well formed, and what it holds of a closed session has
ended. -/
structure Settled (store : SessionMemoryStore) : Prop where
  /-- Both registries are canonical. -/
  certified : Certified store
  /-- Closures are well formed. -/
  valid : ∀ closure ∈ store.closedSessions, Text.Nonblank closure.sessionId ∧
    0 < closure.closureSequence ∧ Text.Nonblank closure.policyId
  /-- Records of closed sessions have ended. -/
  ended : ∀ record ∈ store.records, store.isSessionClosed record.sessionId = true → ¬ Live record

theorem settled_empty : Settled SessionMemoryStore.empty where
  certified := certified_empty
  valid := by simp [SessionMemoryStore.empty]
  ended := by simp [SessionMemoryStore.empty]

section Changes

variable {store next : SessionMemoryStore} {op : StoreOp}

theorem metadata_eq_some_iff (certified : Certified store) {sessionId : String}
    {closure : SessionClosure} :
    store.getSessionClosureMetadata sessionId = some closure ↔
      closure ∈ store.closedSessions ∧ closure.sessionId = sessionId :=
  Registry.find?_eq_some_iff certified.closures.unique

theorem Transition.certified (step : Transition store op next) (certified : Certified store) :
    Certified next := by
  cases step with
  | register active isOpen free room =>
      exact ⟨Registry.registered_entered certified.records.unique free, room, certified.closures⟩
  | close valid ended free =>
      have mapped := certified.closed
      exact ⟨(mapped _).records, (mapped _).bounded,
        Registry.registered_entered certified.closures.unique free⟩

theorem Transition.settled (step : Transition store op next) (settled : Settled store) :
    Settled next := by
  refine ⟨step.certified settled.certified, ?_, ?_⟩
  · cases step with
    | register active isOpen free room => exact settled.valid
    | close valid ended free =>
        intro closure member
        rcases (Registry.mem_entered settled.certified.closures.unique free).mp member with
          rfl | before
        · exact valid
        · exact settled.valid closure before
  · cases step with
    | register active isOpen free room =>
        intro record member isClosed
        rcases (Registry.mem_entered settled.certified.records.unique free).mp member with
          rfl | before
        · rw [active] at isClosed
          exact absurd (isOpen.symm.trans isClosed) Bool.false_ne_true
        · exact settled.ended record before isClosed
    | @close sessionId policyId closureSequence valid ended free =>
        intro record member isClosed
        obtain ⟨old, before, rfl⟩ := List.mem_map.mp member
        by_cases inSession : old.sessionId = sessionId
        · exact not_live_closed inSession
        · rw [closed_of_ended fun same => absurd same inSession] at isClosed ⊢
          obtain ⟨closure, entered, same⟩ := isSessionClosed_iff.mp isClosed
          rcases (Registry.mem_entered settled.certified.closures.unique free).mp entered with
            rfl | closedBefore
          · exact absurd same.symm inSession
          · exact settled.ended old before (isSessionClosed_iff.mpr ⟨closure, closedBefore, same⟩)

theorem Transition.isolated (step : Transition store op next) (certified : Certified store)
    {sessionId : String} (other : op.session ≠ sessionId) :
    next.sessionRecords sessionId = store.sessionRecords sessionId ∧
      next.getSessionClosureMetadata sessionId = store.getSessionClosureMetadata sessionId := by
  have nextCertified := step.certified certified
  cases step with
  | @register registration active isOpen free room =>
      have outside : decide (registration.record.sessionId = sessionId) = false := by
        simpa [active, StoreOp.session] using other
      exact ⟨Registry.filter_entered SessionMemoryRecord.key_apart certified.records free outside,
        rfl⟩
  | close valid ended free =>
      refine ⟨?_, Option.ext fun closure => ?_⟩
      · refine Registry.filter_map_of_fixed ?_ ?_
        · intro record _
          rw [closed_sessionId]
        · intro record _ inSession
          refine closed_of_ended fun same => absurd ?_ other
          exact same.symm.trans (of_decide_eq_true inSession)
      · rw [metadata_eq_some_iff certified, metadata_eq_some_iff nextCertified,
          Registry.mem_entered certified.closures.unique free]
        constructor
        · rintro ⟨rfl | member, inSession⟩
          · exact absurd inSession other
          · exact ⟨member, inSession⟩
        · rintro ⟨member, inSession⟩
          exact ⟨.inr member, inSession⟩

/-- A closed session keeps its closure and its records. -/
def Seals (earlier later : SessionMemoryStore) : Prop :=
  ∀ sessionId closure, earlier.getSessionClosureMetadata sessionId = some closure →
    later.getSessionClosureMetadata sessionId = some closure ∧
      later.sessionRecords sessionId = earlier.sessionRecords sessionId

theorem Seals.trans {first second third : SessionMemoryStore} (front : Seals first second)
    (back : Seals second third) : Seals first third := by
  intro sessionId closure isClosed
  obtain ⟨stillClosed, sameRecords⟩ := front sessionId closure isClosed
  obtain ⟨finallyClosed, finalRecords⟩ := back sessionId closure stillClosed
  exact ⟨finallyClosed, finalRecords.trans sameRecords⟩

theorem Transition.seals (step : Transition store op next) (settled : Settled store) :
    Seals store next := by
  intro sessionId closure isClosed
  by_cases other : op.session ≠ sessionId
  · obtain ⟨sameRecords, sameClosure⟩ := step.isolated settled.certified other
    exact ⟨sameClosure.trans isClosed, sameRecords⟩
  · obtain rfl := not_not.mp other
    obtain ⟨member, inSession⟩ := (metadata_eq_some_iff settled.certified).mp isClosed
    have closedBefore := isSessionClosed_iff.mpr ⟨closure, member, inSession⟩
    have nextCertified := step.certified settled.certified
    cases step with
    | register active isOpen free room =>
        exact absurd (isOpen.symm.trans closedBefore) Bool.false_ne_true
    | close valid ended free =>
        refine ⟨(metadata_eq_some_iff nextCertified).mpr ⟨?_, inSession⟩, ?_⟩
        · exact (Registry.mem_entered settled.certified.closures.unique free).mpr (.inr member)
        · refine Registry.filter_map_of_fixed ?_ ?_
          · intro record _
            rw [closed_sessionId]
          · exact fun record before _ => closed_of_ended (ended record before closedBefore)

/-- Closing a closed session again in the same way is a transition to the same store. -/
theorem transition_reclose (settled : Settled store) {closure : SessionClosure}
    (isClosed : store.getSessionClosureMetadata closure.sessionId = some closure) :
    Transition store
      (.close closure.sessionId closure.sessionId closure.closureSequence closure.policyId)
      store := by
  obtain ⟨member, _⟩ := (metadata_eq_some_iff settled.certified).mp isClosed
  have closedBefore := isSessionClosed_iff.mpr ⟨closure, member, rfl⟩
  have ended : ∀ record ∈ store.records, store.isSessionClosed closure.sessionId = true →
      record.sessionId = closure.sessionId → ¬ Live record := by
    intro record before _ inSession
    exact settled.ended record before (inSession ▸ closedBefore)
  have sameRecords : store.records.map (closed closure.sessionId) = store.records := by
    conv_rhs => rw [← List.map_id store.records]
    exact List.map_congr_left fun record before =>
      closed_of_ended (ended record before closedBefore)
  have sameClosures : Registry.entered SessionClosure.sessionId SessionClosure.sessionId
      store.closedSessions closure = store.closedSessions :=
    Registry.entered_of_mem settled.certified.closures member
  have free : Registry.Free SessionClosure.sessionId store.closedSessions closure :=
    fun other otherMember same =>
      Registry.eq_of_identity_eq settled.certified.closures.unique otherMember member same
  have step : Transition store
      (.close closure.sessionId closure.sessionId closure.closureSequence closure.policyId)
      ⟨store.records.map (closed closure.sessionId), Registry.entered SessionClosure.sessionId
        SessionClosure.sessionId store.closedSessions closure⟩ :=
    .close (settled.valid closure member) ended free
  rw [sameRecords, sameClosures] at step
  exact step

/-- Closing a closed session in another way is no transition. -/
theorem not_transition_of_conflict (certified : Certified store) {closure : SessionClosure}
    {authorizedSessionId policyId : String} {closureSequence : Int}
    (isClosed : store.getSessionClosureMetadata closure.sessionId = some closure)
    (conflict : closure ≠ ⟨closure.sessionId, closureSequence, policyId⟩) :
    ¬ Transition store (.close closure.sessionId authorizedSessionId closureSequence policyId)
      next := by
  intro step
  obtain ⟨member, _⟩ := (metadata_eq_some_iff certified).mp isClosed
  cases step with
  | close valid ended free => exact conflict (free closure member rfl)

end Changes

/-! ## Runs of the store -/

theorem transition_of_step {store next : SessionMemoryStore} (certified : Certified store)
    {op : StoreOp} {answer : Unit} (step : machine.step store op = (.ok answer, next)) :
    Transition store op next :=
  (apply_eq_ok_iff certified).mp (Machine.ofFunction_step_ok.mp step)

theorem settled_of_reachable {store later : SessionMemoryStore}
    (reach : machine.Reachable store later) (settled : Settled store) : Settled later :=
  reach.invariant settled fun _ _ _ _ settled step =>
    (transition_of_step settled.certified step).settled settled

theorem settled_run (ops : List StoreOp) : Settled (machine.run .empty ops) :=
  settled_of_reachable ⟨ops, rfl⟩ settled_empty

theorem seals_of_reachable {store later : SessionMemoryStore}
    (reach : machine.Reachable store later) (settled : Settled store) : Seals store later := by
  refine reach.relation settled (fun _ _ _ isClosed => ⟨isClosed, rfl⟩) Seals.trans ?_
  intro state op answer next settled step
  have transition := transition_of_step settled.certified step
  exact ⟨transition.settled settled, transition.seals settled⟩

/-- What a run from the empty store guarantees. -/
structure SessionStoreLaw (ops : List StoreOp) : Prop where
  /-- Record ids stay unique. -/
  unique : ((machine.run .empty ops).records.map SessionMemoryRecord.recordId).Nodup
  /-- The store is bounded. -/
  bounded : (machine.run .empty ops).records.length ≤ maxSessionMemoryRecords
  /-- A closed session has no active or compacted record. -/
  ended : ∀ sessionId closure,
    (machine.run .empty ops).getSessionClosureMetadata sessionId = some closure →
      ∀ record ∈ (machine.run .empty ops).sessionRecords sessionId,
        record.lifecycle ≠ .active ∧ record.lifecycle ≠ .compacted
  /-- A closed session keeps its closure and its records, whatever comes after. -/
  sealed : ∀ more sessionId closure,
    (machine.run .empty ops).getSessionClosureMetadata sessionId = some closure →
      (machine.run .empty (ops ++ more)).getSessionClosureMetadata sessionId = some closure ∧
        (machine.run .empty (ops ++ more)).sessionRecords sessionId =
          (machine.run .empty ops).sessionRecords sessionId
  /-- Closing a closed session again in the same way succeeds and changes nothing. -/
  again : ∀ closure,
    (machine.run .empty ops).getSessionClosureMetadata closure.sessionId = some closure →
      closeSessionMemory (machine.run .empty ops) closure.sessionId closure.sessionId
        closure.closureSequence closure.policyId = .ok (machine.run .empty ops)
  /-- Closing a closed session in another way fails. -/
  conflicting : ∀ closure authorizedSessionId closureSequence policyId next,
    (machine.run .empty ops).getSessionClosureMetadata closure.sessionId = some closure →
    closure ≠ ⟨closure.sessionId, closureSequence, policyId⟩ →
      closeSessionMemory (machine.run .empty ops) closure.sessionId authorizedSessionId
        closureSequence policyId ≠ .ok next
  /-- No operation changes another session. -/
  isolated : ∀ op sessionId, op.session ≠ sessionId →
    (machine.run .empty (ops ++ [op])).sessionRecords sessionId =
        (machine.run .empty ops).sessionRecords sessionId ∧
      (machine.run .empty (ops ++ [op])).getSessionClosureMetadata sessionId =
        (machine.run .empty ops).getSessionClosureMetadata sessionId

/-- Every run of registrations and closures keeps the law of the store. -/
theorem sessionStoreLaw (ops : List StoreOp) : SessionStoreLaw ops where
  unique := (settled_run ops).certified.records.unique
  bounded := (settled_run ops).certified.bounded
  ended := by
    intro sessionId closure isClosed record member
    obtain ⟨before, inSession⟩ := List.mem_filter.mp member
    obtain rfl : record.sessionId = sessionId := of_decide_eq_true inSession
    obtain ⟨closedBefore, same⟩ := (metadata_eq_some_iff (settled_run ops).certified).mp isClosed
    have notLive := (settled_run ops).ended record before
      (isSessionClosed_iff.mpr ⟨closure, closedBefore, same⟩)
    simpa [Live] using notLive
  sealed := by
    intro more
    rw [Machine.run_append]
    exact seals_of_reachable ⟨more, rfl⟩ (settled_run ops)
  again := by
    intro closure isClosed
    exact (apply_eq_ok_iff (settled_run ops).certified).mpr
      (transition_reclose (settled_run ops) isClosed)
  conflicting := by
    intro closure authorizedSessionId closureSequence policyId next isClosed conflict outcome
    have certified := (settled_run ops).certified
    exact not_transition_of_conflict certified isClosed conflict
      ((apply_eq_ok_iff certified).mp outcome)
  isolated := by
    intro op sessionId other
    have certified := (settled_run ops).certified
    rw [Machine.run_append, Machine.run_cons, Machine.run_nil]
    refine Machine.after_induction (motive := fun next : SessionMemoryStore =>
      next.sessionRecords sessionId = (machine.run .empty ops).sessionRecords sessionId ∧
        next.getSessionClosureMetadata sessionId =
          (machine.run .empty ops).getSessionClosureMetadata sessionId) ?_ ⟨rfl, rfl⟩
    exact fun _ _ step => (transition_of_step certified step).isolated certified other

end SessionMemory
end MercuryX
