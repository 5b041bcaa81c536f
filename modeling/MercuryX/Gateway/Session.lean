import MercuryX.Contracts

/-!
# Session bindings

The gateway binds a request to a session under an idempotency key. It looks through the bindings
made so far and stops at the first with the key, so what it guarantees rests on what the bindings
of a history have in common: one owner and tenant for each session, one session for each workload,
one record for each key.
-/

namespace MercuryX
namespace Gateway

open Foundation

/-! ## Contracts -/

/-- A session, with its owner and its tenant. -/
structure SessionIdentity where
  sessionId : String
  ownerId : String
  tenantId : String
  /-- Identity fields are nonblank. -/
  texts_nonblank : ∀ text ∈ [sessionId, ownerId, tenantId], Text.Nonblank text

instance : DecidableEq SessionIdentity := fun left right =>
  decidable_of_iff (left.sessionId = right.sessionId ∧ left.ownerId = right.ownerId ∧
    left.tenantId = right.tenantId) (by
      cases left
      cases right
      simp)

/-- The key under which a request is made at most once. -/
structure IdempotencyKey where
  value : String
  /-- Keys are nonblank. -/
  value_nonblank : Text.Nonblank value

instance : DecidableEq IdempotencyKey := fun left right =>
  decidable_of_iff (left.value = right.value) (by
    cases left
    cases right
    simp)

/-- What a key stands for. -/
structure IdempotencyRecord where
  idempotencyKey : IdempotencyKey
  requestId : String
  workloadId : String
  sessionId : String
  requestFingerprint : String
  /-- Record fields are nonblank. -/
  texts_nonblank : ∀ text ∈ [requestId, workloadId, sessionId, requestFingerprint],
    Text.Nonblank text

/-- A request bound to a session. -/
structure SessionRequestBinding where
  bindingId : String
  sessionIdentity : SessionIdentity
  requestId : String
  workloadId : String
  idempotencyRecord : IdempotencyRecord
  /-- Binding fields are nonblank. -/
  texts_nonblank : ∀ text ∈ [bindingId, requestId, workloadId], Text.Nonblank text
  /-- The record is for the same request. -/
  request_linked : requestId = idempotencyRecord.requestId
  /-- The record is for the same workload. -/
  workload_linked : workloadId = idempotencyRecord.workloadId
  /-- The record is for the same session. -/
  session_linked : sessionIdentity.sessionId = idempotencyRecord.sessionId

/-! ## Binding -/

/-- The arguments of a call, apart from the existing bindings. -/
structure BindCall where
  bindingId : String
  sessionIdentity : SessionIdentity
  requestId : String
  workloadId : String
  idempotencyKey : IdempotencyKey
  requestFingerprint : String

namespace BindCall

/-- The texts of a call are nonblank. -/
def Valid (call : BindCall) : Prop :=
  ∀ text ∈ [call.requestId, call.workloadId, call.requestFingerprint, call.bindingId],
    Text.Nonblank text

/-- The checks of a new record and a new binding. -/
def validate (call : BindCall) : Except Fault Unit := do
  forEach (fun field => rule "IdempotencyRecord" field.1 (Text.Nonblank field.2)
      "idempotency record evidence must be non-empty") [("request_id", call.requestId),
    ("workload_id", call.workloadId), ("session_id", call.sessionIdentity.sessionId),
    ("request_fingerprint", call.requestFingerprint)]
  forEach (fun field => rule "SessionRequestBinding" field.1 (Text.Nonblank field.2)
      "session binding evidence must be non-empty") [("binding_id", call.bindingId),
    ("request_id", call.requestId), ("workload_id", call.workloadId)]

theorem validate_eq_ok_iff {call : BindCall} {done : Unit} :
    call.validate = .ok done ↔ call.Valid := by
  have sessionVisible := call.sessionIdentity.texts_nonblank call.sessionIdentity.sessionId
    (by simp)
  simp only [validate, Valid, bind_eq_ok, forEach_eq_ok, rule_eq_ok, List.forall_mem_cons,
    List.not_mem_nil, false_implies, implies_true, and_true, exists_const, sessionVisible]
  constructor
  · rintro ⟨⟨request, workload, _, fingerprint⟩, binding, _, _⟩
    exact ⟨request, workload, fingerprint, binding⟩
  · rintro ⟨request, workload, fingerprint, binding⟩
    exact ⟨⟨request, workload, trivial, fingerprint⟩, binding, request, workload⟩

/-- The record of a call. -/
def record (call : BindCall) (valid : call.Valid) : IdempotencyRecord where
  idempotencyKey := call.idempotencyKey
  requestId := call.requestId
  workloadId := call.workloadId
  sessionId := call.sessionIdentity.sessionId
  requestFingerprint := call.requestFingerprint
  texts_nonblank := by
    have sessionVisible := call.sessionIdentity.texts_nonblank call.sessionIdentity.sessionId
      (by simp)
    simp only [Valid, List.forall_mem_cons] at valid ⊢
    exact ⟨valid.1, valid.2.1, sessionVisible, valid.2.2.1, by simp⟩

/-- The binding of a call. -/
def binding (call : BindCall) (valid : call.Valid) : SessionRequestBinding where
  bindingId := call.bindingId
  sessionIdentity := call.sessionIdentity
  requestId := call.requestId
  workloadId := call.workloadId
  idempotencyRecord := call.record valid
  texts_nonblank := by
    simp only [Valid, List.forall_mem_cons] at valid ⊢
    exact ⟨valid.2.2.2.1, valid.1, valid.2.1, by simp⟩
  request_linked := rfl
  workload_linked := rfl
  session_linked := rfl

/-- Construct the binding of a call. -/
def construct (call : BindCall) : Except Fault SessionRequestBinding :=
  match checked : call.validate with
  | .error fault => .error fault
  | .ok _ => .ok (call.binding (validate_eq_ok_iff.mp checked))

theorem construct_eq_ok_iff {call : BindCall} {result : SessionRequestBinding} :
    call.construct = .ok result ↔ ∃ valid : call.Valid, call.binding valid = result := by
  unfold construct
  split
  next fault checked =>
    refine iff_of_false (by simp) ?_
    rintro ⟨valid, _⟩
    have passes : call.validate = .ok () := validate_eq_ok_iff.mpr valid
    rw [passes] at checked
    nomatch checked
  next checked =>
    simp [validate_eq_ok_iff.mp checked]

end BindCall

/-- Look for the binding of the key of a call, and check the bindings on the way. -/
def scan (call : BindCall) :
    List SessionRequestBinding → Except Fault (Option SessionRequestBinding)
  | [] => .ok none
  | existing :: rest => do
      require (¬ (existing.sessionIdentity.sessionId = call.sessionIdentity.sessionId ∧
          (existing.sessionIdentity.ownerId ≠ call.sessionIdentity.ownerId ∨
            existing.sessionIdentity.tenantId ≠ call.sessionIdentity.tenantId)))
        (.value "session owner/tenant identity cannot change")
      require (¬ (existing.workloadId = call.workloadId ∧
          existing.sessionIdentity.sessionId ≠ call.sessionIdentity.sessionId))
        (.value "workload cannot rebind to another session")
      if existing.idempotencyRecord.idempotencyKey = call.idempotencyKey then do
        require (existing.idempotencyRecord.requestFingerprint = call.requestFingerprint)
          (.value "idempotency key has a different request fingerprint")
        require (¬ (existing.requestId ≠ call.requestId ∨ existing.workloadId ≠ call.workloadId ∨
            existing.sessionIdentity ≠ call.sessionIdentity))
          (.value "idempotency replay identity does not match existing binding")
        return some existing
      else scan call rest

/-- Bind a request to a session. -/
def bindGatewaySession (call : BindCall) (existingBindings : List SessionRequestBinding) :
    Except Fault SessionRequestBinding := do
  match ← scan call existingBindings with
  | some existing => return existing
  | none => call.construct

/-! ## What a scan finds -/

namespace SessionRequestBinding

/-- The key of a binding. -/
def key (existing : SessionRequestBinding) : IdempotencyKey :=
  existing.idempotencyRecord.idempotencyKey

/-- A call may stand beside a binding: it keeps the owner and the tenant of its session, and the
session of its workload. -/
structure Admits (existing : SessionRequestBinding) (call : BindCall) : Prop where
  /-- The session keeps its owner and its tenant. -/
  owner : existing.sessionIdentity.sessionId = call.sessionIdentity.sessionId →
    existing.sessionIdentity = call.sessionIdentity
  /-- The workload keeps its session. -/
  workload : existing.workloadId = call.workloadId →
    existing.sessionIdentity.sessionId = call.sessionIdentity.sessionId

/-- A call repeats the one that made a binding. -/
structure RepeatedBy (existing : SessionRequestBinding) (call : BindCall) : Prop where
  /-- The key is the same. -/
  key : existing.key = call.idempotencyKey
  /-- The fingerprint is the same. -/
  fingerprint : existing.idempotencyRecord.requestFingerprint = call.requestFingerprint
  /-- The request is the same. -/
  request : existing.requestId = call.requestId
  /-- The workload is the same. -/
  workload : existing.workloadId = call.workloadId
  /-- The session is the same. -/
  session : existing.sessionIdentity = call.sessionIdentity

end SessionRequestBinding

open SessionRequestBinding

theorem sessionIdentity_eq_iff {left right : SessionIdentity} :
    left = right ↔ left.sessionId = right.sessionId ∧ left.ownerId = right.ownerId ∧
      left.tenantId = right.tenantId := by
  cases left
  cases right
  simp

theorem admits_iff {existing : SessionRequestBinding} {call : BindCall} :
    existing.Admits call ↔
      ¬ (existing.sessionIdentity.sessionId = call.sessionIdentity.sessionId ∧
        (existing.sessionIdentity.ownerId ≠ call.sessionIdentity.ownerId ∨
          existing.sessionIdentity.tenantId ≠ call.sessionIdentity.tenantId)) ∧
      ¬ (existing.workloadId = call.workloadId ∧
        existing.sessionIdentity.sessionId ≠ call.sessionIdentity.sessionId) := by
  constructor
  · rintro ⟨owner, workload⟩
    rw [sessionIdentity_eq_iff] at owner
    tauto
  · rintro ⟨owner, workload⟩
    constructor
    case owner =>
      rw [sessionIdentity_eq_iff]
      tauto
    case workload => tauto

/-- What a scan makes of the first binding. -/
theorem scan_cons_eq_ok_iff {call : BindCall} {existing : SessionRequestBinding}
    {rest : List SessionRequestBinding} {outcome : Option SessionRequestBinding} :
    scan call (existing :: rest) = .ok outcome ↔ existing.Admits call ∧
      (existing.key = call.idempotencyKey →
        existing.RepeatedBy call ∧ outcome = some existing) ∧
      (existing.key ≠ call.idempotencyKey → scan call rest = .ok outcome) := by
  rw [scan, bind_eq_ok, admits_iff, and_assoc]
  simp only [bind_eq_ok, require_eq_ok, exists_const]
  refine and_congr_right fun _ => and_congr_right fun _ => ?_
  split
  next same =>
    simp only [bind_eq_ok, require_eq_ok, exists_const, pure_eq_ok, Except.ok.injEq, not_or,
      not_not, ne_eq]
    constructor
    · rintro ⟨fingerprint, ⟨request, workload, session⟩, rfl⟩
      exact ⟨fun _ => ⟨⟨same, fingerprint, request, workload, session⟩, rfl⟩,
        fun different => absurd same different⟩
    · rintro ⟨keyed, _⟩
      obtain ⟨repeated, rfl⟩ := keyed same
      exact ⟨repeated.fingerprint, ⟨repeated.request, repeated.workload, repeated.session⟩, rfl⟩
  next different =>
    exact ⟨fun rest => ⟨fun same => absurd same different, fun _ => rest⟩,
      fun outcome => outcome.2 different⟩

/-! ## Consistent bindings -/

/-- What the bindings of a history have in common. -/
structure Consistent (bindings : List SessionRequestBinding) : Prop where
  /-- A session has one owner and one tenant. -/
  one_owner : ∀ left ∈ bindings, ∀ right ∈ bindings,
    left.sessionIdentity.sessionId = right.sessionIdentity.sessionId →
      left.sessionIdentity.ownerId = right.sessionIdentity.ownerId ∧
        left.sessionIdentity.tenantId = right.sessionIdentity.tenantId
  /-- A workload belongs to one session. -/
  one_session : ∀ left ∈ bindings, ∀ right ∈ bindings, left.workloadId = right.workloadId →
    left.sessionIdentity.sessionId = right.sessionIdentity.sessionId
  /-- A key names one binding, hence one record. -/
  one_record : ∀ left ∈ bindings, ∀ right ∈ bindings, left.key = right.key → left = right

theorem RepeatedBy.admits {existing : SessionRequestBinding} {call : BindCall}
    (repeated : existing.RepeatedBy call) : existing.Admits call :=
  ⟨fun _ => repeated.session, fun _ => congrArg SessionIdentity.sessionId repeated.session⟩

theorem Consistent.admits {bindings : List SessionRequestBinding} (consistent : Consistent bindings)
    {call : BindCall} {found existing : SessionRequestBinding} (member : found ∈ bindings)
    (repeated : found.RepeatedBy call) (other : existing ∈ bindings) : existing.Admits call := by
  constructor
  case owner =>
    intro same
    rw [← repeated.session] at same ⊢
    exact sessionIdentity_eq_iff.mpr ⟨same, consistent.one_owner _ other _ member same⟩
  case workload =>
    intro same
    rw [← repeated.session]
    exact consistent.one_session _ other _ member (same.trans repeated.workload.symm)

theorem Consistent.of_subset {bindings others : List SessionRequestBinding}
    (consistent : Consistent bindings) (inside : others ⊆ bindings) : Consistent others where
  one_owner left leftIn right rightIn :=
    consistent.one_owner left (inside leftIn) right (inside rightIn)
  one_session left leftIn right rightIn :=
    consistent.one_session left (inside leftIn) right (inside rightIn)
  one_record left leftIn right rightIn :=
    consistent.one_record left (inside leftIn) right (inside rightIn)

/-- On consistent bindings, a scan finds what their members say, in whatever order they stand. -/
theorem Consistent.scan_eq_ok_iff {bindings : List SessionRequestBinding}
    (consistent : Consistent bindings) {call : BindCall}
    {outcome : Option SessionRequestBinding} : scan call bindings = .ok outcome ↔
      (∀ existing ∈ bindings, existing.Admits call) ∧
      ((∃ found ∈ bindings, found.RepeatedBy call ∧ outcome = some found) ∨
        (∀ existing ∈ bindings, existing.key ≠ call.idempotencyKey) ∧ outcome = none) := by
  induction bindings with
  | nil => simp [scan, eq_comm]
  | cons existing rest induction =>
      have restConsistent := consistent.of_subset (List.subset_cons_self existing rest)
      rw [scan_cons_eq_ok_iff, induction restConsistent]
      constructor
      · rintro ⟨admits, keyed, otherwise⟩
        by_cases same : existing.key = call.idempotencyKey
        · obtain ⟨repeated, rfl⟩ := keyed same
          exact ⟨fun other member => consistent.admits List.mem_cons_self repeated member,
            .inl ⟨existing, List.mem_cons_self, repeated, rfl⟩⟩
        · obtain ⟨restAdmits, ⟨found, member, repeated, rfl⟩ | ⟨fresh, rfl⟩⟩ := otherwise same
          · exact ⟨List.forall_mem_cons.mpr ⟨admits, restAdmits⟩,
              .inl ⟨found, List.mem_cons_of_mem _ member, repeated, rfl⟩⟩
          · exact ⟨List.forall_mem_cons.mpr ⟨admits, restAdmits⟩,
              .inr ⟨List.forall_mem_cons.mpr ⟨same, fresh⟩, rfl⟩⟩
      · rintro ⟨admits, ⟨found, member, repeated, rfl⟩ | ⟨fresh, rfl⟩⟩
        · obtain ⟨first, restAdmits⟩ := List.forall_mem_cons.mp admits
          refine ⟨first, fun same => ?_, fun different => ⟨restAdmits, .inl ⟨found, ?_, repeated,
            rfl⟩⟩⟩
          · obtain rfl := consistent.one_record existing List.mem_cons_self found member
              (same.trans repeated.key.symm)
            exact ⟨repeated, rfl⟩
          · refine (List.mem_cons.mp member).resolve_left fun same => different ?_
            exact same ▸ repeated.key
        · obtain ⟨first, restAdmits⟩ := List.forall_mem_cons.mp admits
          obtain ⟨firstFresh, restFresh⟩ := List.forall_mem_cons.mp fresh
          exact ⟨first, fun same => absurd same firstFresh, fun _ =>
            ⟨restAdmits, .inr ⟨restFresh, rfl⟩⟩⟩

theorem Consistent.bind_eq_ok_iff {bindings : List SessionRequestBinding}
    (consistent : Consistent bindings) {call : BindCall} {result : SessionRequestBinding} :
    bindGatewaySession call bindings = .ok result ↔
      (∀ existing ∈ bindings, existing.Admits call) ∧
      ((result ∈ bindings ∧ result.RepeatedBy call) ∨
        (∀ existing ∈ bindings, existing.key ≠ call.idempotencyKey) ∧
          ∃ valid : call.Valid, call.binding valid = result) := by
  simp only [bindGatewaySession, bind_eq_ok, consistent.scan_eq_ok_iff]
  constructor
  · rintro ⟨outcome, ⟨admits, ⟨found, member, repeated, rfl⟩ | ⟨fresh, rfl⟩⟩, returned⟩
    · obtain rfl : found = result := Except.ok.inj returned
      exact ⟨admits, .inl ⟨member, repeated⟩⟩
    · exact ⟨admits, .inr ⟨fresh, BindCall.construct_eq_ok_iff.mp returned⟩⟩
  · rintro ⟨admits, ⟨member, repeated⟩ | ⟨fresh, made⟩⟩
    · exact ⟨some result, ⟨admits, .inl ⟨result, member, repeated, rfl⟩⟩, rfl⟩
    · exact ⟨none, ⟨admits, .inr ⟨fresh, rfl⟩⟩, BindCall.construct_eq_ok_iff.mpr made⟩

theorem Consistent.repeatedBy_of_bind {bindings : List SessionRequestBinding}
    (consistent : Consistent bindings) {call : BindCall} {result : SessionRequestBinding}
    (bound : bindGatewaySession call bindings = .ok result) : result.RepeatedBy call := by
  obtain ⟨_, ⟨_, repeated⟩ | ⟨_, valid, rfl⟩⟩ := consistent.bind_eq_ok_iff.mp bound
  · exact repeated
  · exact ⟨rfl, rfl, rfl, rfl, rfl⟩

/-- A symmetric relation between any two members of a list extends to one more that it relates to
itself and to each of them. -/
theorem forall_pairs_cons {α : Type} {relation : α → α → Prop} {added : α} {members : List α}
    (symmetric : ∀ left right, relation left right → relation right left)
    (reflexive : relation added added) (related : ∀ member ∈ members, relation member added)
    (old : ∀ left ∈ members, ∀ right ∈ members, relation left right) :
    ∀ left ∈ added :: members, ∀ right ∈ added :: members, relation left right := by
  simp only [List.forall_mem_cons]
  exact ⟨⟨reflexive, fun right member => symmetric _ _ (related right member)⟩,
    fun left member => ⟨related left member, old left member⟩⟩

/-- Adding what a call returns keeps bindings consistent. -/
theorem Consistent.bound {bindings : List SessionRequestBinding} (consistent : Consistent bindings)
    {call : BindCall} {result : SessionRequestBinding}
    (bound : bindGatewaySession call bindings = .ok result) : Consistent (result :: bindings) := by
  have repeated := consistent.repeatedBy_of_bind bound
  obtain ⟨admits, ⟨member, _⟩ | ⟨fresh, _⟩⟩ := consistent.bind_eq_ok_iff.mp bound
  · exact consistent.of_subset (List.cons_subset.mpr ⟨member, List.Subset.refl bindings⟩)
  have owner : ∀ existing ∈ bindings,
      existing.sessionIdentity.sessionId = result.sessionIdentity.sessionId →
        existing.sessionIdentity = result.sessionIdentity := by
    intro existing member same
    rw [repeated.session] at same ⊢
    exact (admits existing member).owner same
  have workload : ∀ existing ∈ bindings, existing.workloadId = result.workloadId →
      existing.sessionIdentity.sessionId = result.sessionIdentity.sessionId := by
    intro existing member same
    rw [repeated.session]
    exact (admits existing member).workload (same.trans repeated.workload)
  have unused : ∀ existing ∈ bindings, existing.key ≠ result.key := fun existing member =>
    repeated.key ▸ fresh existing member
  constructor
  case one_owner =>
    refine forall_pairs_cons (fun _ _ related same => ?_) (fun _ => ⟨rfl, rfl⟩)
      (fun existing member same => ?_) consistent.one_owner
    · exact ⟨(related same.symm).1.symm, (related same.symm).2.symm⟩
    · rw [owner existing member same]
      exact ⟨rfl, rfl⟩
  case one_session =>
    exact forall_pairs_cons (fun _ _ related same => (related same.symm).symm) (fun _ => rfl)
      workload consistent.one_session
  case one_record =>
    exact forall_pairs_cons (fun _ _ related same => (related same.symm).symm) (fun _ => rfl)
      (fun existing member same => absurd same (unused existing member)) consistent.one_record

/-! ## Histories -/

/-- The bindings that one call after another returned, in whatever order they are listed. -/
inductive History : List SessionRequestBinding → Prop where
  | empty : History []
  | bound {existing next : List SessionRequestBinding} {call : BindCall}
      {result : SessionRequestBinding} (history : History existing)
      (bound : bindGatewaySession call existing = .ok result)
      (added : ∀ binding, binding ∈ next ↔ binding = result ∨ binding ∈ existing) : History next

theorem History.consistent {existing : List SessionRequestBinding} (history : History existing) :
    Consistent existing := by
  induction history with
  | empty => constructor <;> simp
  | bound history bound added induction =>
      exact (induction.bound bound).of_subset fun binding member =>
        List.mem_cons.mpr ((added binding).mp member)

/-- A call makes the request of another call again, under the same key. -/
structure BindCall.Repeats (again call : BindCall) : Prop where
  /-- The key is the same. -/
  key : again.idempotencyKey = call.idempotencyKey
  /-- The fingerprint is the same. -/
  fingerprint : again.requestFingerprint = call.requestFingerprint
  /-- The request is the same. -/
  request : again.requestId = call.requestId
  /-- The workload is the same. -/
  workload : again.workloadId = call.workloadId
  /-- The session is the same. -/
  session : again.sessionIdentity = call.sessionIdentity

/-- What holds of the bindings of a history, and of the calls made with them. -/
structure BindingLaw (existing : List SessionRequestBinding) : Prop where
  /-- Sessions keep their owner and tenant, workloads their session, and keys their record. -/
  consistent : Consistent existing
  /-- A call that is repeated later returns the binding already made, which is among those that
  exist by then. -/
  replayed : ∀ call result, bindGatewaySession call existing = .ok result →
    ∀ later, History later → result ∈ later →
      ∀ again : BindCall, again.Repeats call → bindGatewaySession again later = .ok result
  /-- A later call under the same key with another fingerprint or another identity fails. -/
  refused : ∀ call result, bindGatewaySession call existing = .ok result →
    ∀ later, History later → result ∈ later →
      ∀ other : BindCall, other.idempotencyKey = call.idempotencyKey → ¬ other.Repeats call →
        ∃ fault, bindGatewaySession other later = .error fault
  /-- Whether a call succeeds, and with which binding, does not depend on how the existing bindings
  are listed. -/
  unordered : ∀ listed, (∀ binding, binding ∈ listed ↔ binding ∈ existing) →
    ∀ call result, bindGatewaySession call listed = .ok result ↔
      bindGatewaySession call existing = .ok result

/-- In every history sessions, workloads and keys stay what they are, a repeated call returns the
binding already made, a key used for anything else fails, and no call depends on the order of the
existing bindings for what it returns. -/
theorem bindingLaw_of_history {existing : List SessionRequestBinding}
    (history : History existing) : BindingLaw existing where
  consistent := history.consistent
  replayed call result bound later laterHistory member again repeats := by
    have repeated := history.consistent.repeatedBy_of_bind bound
    have repeatedAgain : result.RepeatedBy again :=
      ⟨repeated.key.trans repeats.key.symm, repeated.fingerprint.trans repeats.fingerprint.symm,
        repeated.request.trans repeats.request.symm, repeated.workload.trans repeats.workload.symm,
        repeated.session.trans repeats.session.symm⟩
    exact laterHistory.consistent.bind_eq_ok_iff.mpr ⟨fun existing other =>
      laterHistory.consistent.admits member repeatedAgain other, .inl ⟨member, repeatedAgain⟩⟩
  refused call result bound later laterHistory member other sameKey differs := by
    have repeated := history.consistent.repeatedBy_of_bind bound
    have used : result.key = other.idempotencyKey := repeated.key.trans sameKey.symm
    rcases ok_or_error (bindGatewaySession other later) with ⟨found, returned⟩ | failed
    · obtain ⟨_, ⟨inLater, again⟩ | ⟨fresh, _⟩⟩ :=
        laterHistory.consistent.bind_eq_ok_iff.mp returned
      · obtain rfl := laterHistory.consistent.one_record found inLater result member
          (again.key.trans used.symm)
        exact absurd ⟨sameKey, again.fingerprint.symm.trans repeated.fingerprint,
          again.request.symm.trans repeated.request, again.workload.symm.trans repeated.workload,
          again.session.symm.trans repeated.session⟩ differs
      · exact absurd used (fresh result member)
    · exact failed
  unordered listed same call result := by
    have listedConsistent := history.consistent.of_subset fun binding member =>
      (same binding).mp member
    simp only [listedConsistent.bind_eq_ok_iff, history.consistent.bind_eq_ok_iff, same]

/-! ## Two sessions -/

/-- A call for one of two sessions. -/
def callOf (number session owner workload : String)
    (visible : ∀ text ∈ [session, owner, "tenant"], Text.Nonblank text)
    (keyed : Text.Nonblank number) : BindCall where
  bindingId := number
  sessionIdentity := ⟨session, owner, "tenant", visible⟩
  requestId := number
  workloadId := workload
  idempotencyKey := ⟨number, keyed⟩
  requestFingerprint := number

/-- The call for the first session. -/
def firstCall : BindCall :=
  callOf "1" "session-1" "owner-1" "workload-1" (by decide) (by decide)

/-- The call for the second session. -/
def secondCall : BindCall :=
  callOf "2" "session-2" "owner-2" "workload-2" (by decide) (by decide)

theorem firstCall_valid : firstCall.Valid := by
  unfold BindCall.Valid
  decide

theorem secondCall_valid : secondCall.Valid := by
  unfold BindCall.Valid
  decide

/-- The bindings of the two calls. -/
def twoBindings : List SessionRequestBinding :=
  [firstCall.binding firstCall_valid, secondCall.binding secondCall_valid]

theorem history_first : History [firstCall.binding firstCall_valid] :=
  .bound .empty (History.empty.consistent.bind_eq_ok_iff.mpr
    ⟨by simp, .inr ⟨by simp, firstCall_valid, rfl⟩⟩) (by simp)

theorem history_twoBindings : History twoBindings := by
  have apart : (firstCall.binding firstCall_valid).Admits secondCall :=
    ⟨fun same => absurd same (by decide), fun same => absurd same (by decide)⟩
  refine .bound history_first (history_first.consistent.bind_eq_ok_iff.mpr
    ⟨List.forall_mem_singleton.mpr apart, .inr ⟨?_, secondCall_valid, rfl⟩⟩) ?_
  · exact List.forall_mem_singleton.mpr (by decide)
  · simp [twoBindings, or_comm]

theorem bindingLaw_twoBindings : BindingLaw twoBindings :=
  bindingLaw_of_history history_twoBindings

/-- A call for the first session under the second owner, for the workload of the second session. -/
def clashingCall : BindCall :=
  callOf "3" "session-1" "owner-2" "workload-2" (by decide) (by decide)

/-- Which of two violated rules a call fails with depends on the order of the existing bindings. -/
theorem fault_depends_on_order :
    ¬ ∀ existing, History existing → ∀ listed, listed.Perm existing → ∀ call,
      bindGatewaySession call listed = bindGatewaySession call existing := by
  intro unordered
  have same := unordered twoBindings history_twoBindings twoBindings.reverse
    (List.reverse_perm twoBindings) clashingCall
  have forwards : bindGatewaySession clashingCall twoBindings =
      .error (.value "session owner/tenant identity cannot change") := by rfl
  have backwards : bindGatewaySession clashingCall twoBindings.reverse =
      .error (.value "workload cannot rebind to another session") := by rfl
  rw [forwards, backwards] at same
  exact absurd (Fault.value.inj (Except.error.inj same)) (by decide)

end Gateway
end MercuryX
