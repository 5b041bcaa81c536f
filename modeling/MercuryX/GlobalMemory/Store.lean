import MercuryX.Foundation.Fallible
import MercuryX.Foundation.Registry
import MercuryX.GlobalMemory.Contracts

/-!
# The global context store

The store holds the records of all namespaces in one canonical order, and the closures of the
namespaces that are closed. Records are only ever added, to a namespace that is open and has room;
what a namespace holds when it is closed is final.
-/

namespace MercuryX
namespace GlobalMemory

open Foundation

/-! ## The store -/

/-- The closure of a namespace. -/
structure NamespaceClosureMetadata where
  namespaceType : GlobalMemoryNamespace
  namespaceId : String
  closed : Bool := true
  closureReason : String
  closureSequence : Int
  deriving DecidableEq

/-- The namespace that is closed. -/
def NamespaceClosureMetadata.space (metadata : NamespaceClosureMetadata) :
    GlobalMemoryNamespace × String := (metadata.namespaceType, metadata.namespaceId)

/-- Closures are ordered by namespace, sequence and reason. -/
def NamespaceClosureMetadata.key (metadata : NamespaceClosureMetadata) :
    String ×ₗ String ×ₗ Int ×ₗ String :=
  toLex (metadata.namespaceType.value, toLex (metadata.namespaceId,
    toLex (metadata.closureSequence, metadata.closureReason)))

/-- Records are ordered by namespace, sequence and id. -/
def GlobalContextRecord.key (record : GlobalContextRecord) : String ×ₗ String ×ₗ Nat ×ₗ String :=
  toLex (record.namespaceType.value, toLex (record.namespaceId,
    toLex (record.creationSequence, record.globalRecordId)))

/-- The records and the closures of all namespaces. -/
structure GlobalContextStore where
  records : List GlobalContextRecord
  closedNamespaces : List NamespaceClosureMetadata
  deriving DecidableEq

/-- The check of a namespace identity. -/
def validateNamespaceIdentity (namespaceId : String) : Except Fault Unit :=
  require (Text.Nonblank namespaceId) (.value "namespace id required")

/-- The closure that a call proposes. -/
def proposedClosure (namespaceType : GlobalMemoryNamespace) (namespaceId closureReason : String)
    (closureSequence : Int) : NamespaceClosureMetadata where
  namespaceType := namespaceType
  namespaceId := namespaceId
  closureReason := Text.strip closureReason
  closureSequence := closureSequence

namespace GlobalContextStore

/-- The store without records and closures. -/
def empty : GlobalContextStore := ⟨[], []⟩

/-- The records of a namespace. -/
def spaceRecords (store : GlobalContextStore) (space : GlobalMemoryNamespace × String) :
    List GlobalContextRecord :=
  store.records.filter fun record => record.space = space

/-- The closure of a namespace, if it is closed. -/
def closureOf (store : GlobalContextStore) (space : GlobalMemoryNamespace × String) :
    Option NamespaceClosureMetadata :=
  store.closedNamespaces.find? fun metadata => metadata.space = space

/-- The records of a namespace, which has to be known. -/
def recordsForNamespace (store : GlobalContextStore) (namespaceType : GlobalMemoryNamespace)
    (namespaceId : String) : Except Fault (List GlobalContextRecord) :=
  match store.spaceRecords (namespaceType, namespaceId) with
  | [] => .error (.value "cross-namespace or unknown access rejected")
  | values => .ok values

/-- Whether a namespace is closed. -/
def isNamespaceClosed (store : GlobalContextStore) (namespaceType : GlobalMemoryNamespace)
    (namespaceId : String) : Except Fault Bool := do
  validateNamespaceIdentity namespaceId
  return store.closedNamespaces.any fun metadata => metadata.space = (namespaceType, namespaceId)

/-- The closure of a namespace, which has to be closed. -/
def getNamespaceClosureMetadata (store : GlobalContextStore)
    (namespaceType : GlobalMemoryNamespace) (namespaceId : String) :
    Except Fault NamespaceClosureMetadata := do
  validateNamespaceIdentity namespaceId
  match store.closureOf (namespaceType, namespaceId) with
  | some metadata => return metadata
  | none => .error (.value "namespace is not closed")

/-- Close a namespace; closing it again in the same way changes nothing. -/
def closeNamespace (store : GlobalContextStore) (namespaceType : GlobalMemoryNamespace)
    (namespaceId closureReason : String) (closureSequence : Int) :
    Except Fault GlobalContextStore := do
  validateNamespaceIdentity namespaceId
  require (Text.Nonblank closureReason) (.value "closure reason required")
  require (0 < closureSequence) (.value "positive closure sequence required")
  let proposed := proposedClosure namespaceType namespaceId closureReason closureSequence
  let existing := Dict.indexed NamespaceClosureMetadata.space store.closedNamespaces
  match existing.get? (namespaceType, namespaceId) with
  | some metadata =>
      if metadata = proposed then return store
      else .error (.value "conflicting namespace closure metadata")
  | none =>
      let closures := sortOn NamespaceClosureMetadata.key
        (existing.insert (namespaceType, namespaceId) proposed).values
      return { records := store.records, closedNamespaces := closures }

end GlobalContextStore

/-- The number of records of a namespace. -/
def namespaceCount (records : List GlobalContextRecord)
    (space : GlobalMemoryNamespace × String) : Nat :=
  records.countP fun record => record.space = space

/-- A record and the namespace that the caller is authorized for. -/
structure Registration where
  record : GlobalContextRecord
  authorizedNamespaceType : GlobalMemoryNamespace
  authorizedNamespaceId : String

/-- The namespace of a registration. -/
def Registration.space (registration : Registration) : GlobalMemoryNamespace × String :=
  (registration.authorizedNamespaceType, registration.authorizedNamespaceId)

/-- Register a record in its namespace. -/
def registerGlobalContextRecord (store : GlobalContextStore) (registration : Registration) :
    Except Fault GlobalContextStore := do
  let record := registration.record
  validateNamespaceIdentity registration.authorizedNamespaceId
  require (record.space = registration.space) (.value "namespace authorization mismatch")
  let closed ← store.isNamespaceClosed registration.authorizedNamespaceType
    registration.authorizedNamespaceId
  require (closed = false) (.value "closed namespace rejects writes")
  let existing := Dict.indexed GlobalContextRecord.globalRecordId store.records
  require ((existing.get? record.globalRecordId).all fun other => other = record)
    (.value "conflicting duplicate identity")
  let updated := existing.insert record.globalRecordId record
  require (namespaceCount updated.values record.space ≤ maxGlobalRecordsPerNamespace)
    (.value "namespace cap exceeded")
  return { records := sortOn GlobalContextRecord.key updated.values
           closedNamespaces := store.closedNamespaces }

/-- An operation on the store. -/
inductive StoreOp where
  /-- Register a record. -/
  | register (registration : Registration)
  /-- Close a namespace. -/
  | close (namespaceType : GlobalMemoryNamespace) (namespaceId closureReason : String)
      (closureSequence : Int)

/-- The namespace that an operation is about. -/
def StoreOp.space : StoreOp → GlobalMemoryNamespace × String
  | .register registration => registration.space
  | .close namespaceType namespaceId _ _ => (namespaceType, namespaceId)

/-- One operation. -/
def GlobalContextStore.apply (store : GlobalContextStore) :
    StoreOp → Except Fault GlobalContextStore
  | .register registration => registerGlobalContextRecord store registration
  | .close namespaceType namespaceId closureReason closureSequence =>
      store.closeNamespace namespaceType namespaceId closureReason closureSequence

/-- The store as a machine. -/
def machine : Machine GlobalContextStore StoreOp Unit Fault :=
  .ofFunction GlobalContextStore.apply

/-! ## What an operation changes -/

theorem GlobalContextRecord.key_apart (left right : GlobalContextRecord)
    (same : left.key = right.key) : left.globalRecordId = right.globalRecordId := by
  simp only [GlobalContextRecord.key, toLex_inj, Prod.mk.injEq] at same
  exact same.2.2.2

theorem NamespaceClosureMetadata.key_apart (left right : NamespaceClosureMetadata)
    (same : left.key = right.key) : left.space = right.space := by
  simp only [NamespaceClosureMetadata.key, toLex_inj, Prod.mk.injEq] at same
  exact Prod.ext (GlobalMemoryNamespace.value_injective same.1) same.2.1

/-- No namespace holds more records than it may. -/
def Within (records : List GlobalContextRecord) : Prop :=
  ∀ record ∈ records, namespaceCount records record.space ≤ maxGlobalRecordsPerNamespace

instance (records : List GlobalContextRecord) : Decidable (Within records) :=
  inferInstanceAs (Decidable (∀ record ∈ records, _))

theorem namespaceCount_le {records others : List GlobalContextRecord} (nodup : records.Nodup)
    (inside : records ⊆ others) (space : GlobalMemoryNamespace × String) :
    namespaceCount records space ≤ namespaceCount others space := by
  rw [namespaceCount, namespaceCount, List.countP_eq_length_filter, List.countP_eq_length_filter]
  refine (List.Nodup.subperm (nodup.filter _) fun record member => ?_).length_le
  obtain ⟨present, inSpace⟩ := List.mem_filter.mp member
  exact List.mem_filter.mpr ⟨inside present, inSpace⟩

/-- A namespace within a smaller part of the records holds no more. -/
theorem within_antitone (small large : List GlobalContextRecord) (nodup : small.Nodup)
    (inside : small ⊆ large) (within : Within large) : Within small := by
  intro record member
  calc namespaceCount small record.space
      ≤ namespaceCount large record.space := namespaceCount_le nodup inside _
    _ ≤ maxGlobalRecordsPerNamespace := within record (inside member)

theorem within_of_length_le {records : List GlobalContextRecord}
    (few : records.length ≤ maxGlobalRecordsPerNamespace) : Within records :=
  fun _ _ => List.countP_le_length.trans few

theorem Within.namespaceCount_le {records : List GlobalContextRecord} (within : Within records)
    (space : GlobalMemoryNamespace × String) :
    namespaceCount records space ≤ maxGlobalRecordsPerNamespace := by
  rcases Nat.eq_zero_or_pos (namespaceCount records space) with empty | inhabited
  · omega
  · obtain ⟨record, member, inSpace⟩ := List.countP_pos_iff.mp inhabited
    obtain rfl : record.space = space := by simpa using inSpace
    exact within record member

/-- The store keeps both registries canonical and every namespace within its bound. -/
structure Certified (store : GlobalContextStore) : Prop where
  /-- Records are registered under their ids. -/
  records : Registry.Registered GlobalContextRecord.key GlobalContextRecord.globalRecordId
    store.records
  /-- Namespaces hold no more than they may. -/
  within : Within store.records
  /-- Closures are registered under their namespaces. -/
  closures : Registry.Registered NamespaceClosureMetadata.key NamespaceClosureMetadata.space
    store.closedNamespaces

theorem certified_empty : Certified GlobalContextStore.empty where
  records := Registry.registered_nil
  within := by simp [Within, GlobalContextStore.empty]
  closures := Registry.registered_nil

/-- The caller is authorized for the namespace of the record, which is open. -/
structure Authorized (store : GlobalContextStore) (registration : Registration) : Prop where
  /-- The namespace is named. -/
  named : Text.Nonblank registration.authorizedNamespaceId
  /-- The record is of the namespace. -/
  inSpace : registration.record.space = registration.space
  /-- The namespace is open. -/
  isOpen : store.closureOf registration.space = none

theorem any_closed_iff {store : GlobalContextStore} {space : GlobalMemoryNamespace × String} :
    (store.closedNamespaces.any fun metadata => metadata.space = space) = false ↔
      store.closureOf space = none := by
  simp [GlobalContextStore.closureOf]

section Effects

variable {store next : GlobalContextStore}

/-- Entering a record into a bounded store exceeds no bound exactly when its own namespace stays
within its bound. -/
theorem within_entered_iff {record : GlobalContextRecord} (certified : Certified store)
    (free : Registry.Free GlobalContextRecord.globalRecordId store.records record) :
    Within (Registry.entered GlobalContextRecord.key GlobalContextRecord.globalRecordId
        store.records record) ↔
      namespaceCount ((Dict.indexed GlobalContextRecord.globalRecordId store.records).insert
        record.globalRecordId record).values record.space ≤ maxGlobalRecordsPerNamespace := by
  have sameCount (space : GlobalMemoryNamespace × String) :
      namespaceCount (Registry.entered GlobalContextRecord.key GlobalContextRecord.globalRecordId
        store.records record) space =
      namespaceCount ((Dict.indexed GlobalContextRecord.globalRecordId store.records).insert
        record.globalRecordId record).values space := (sortOn_perm _ _).countP_eq _
  constructor
  · intro within
    rw [← sameCount]
    exact within.namespaceCount_le record.space
  · intro room other member
    by_cases same : other.space = record.space
    · rwa [same, sameCount]
    · have outside : decide (record.space = other.space) = false := by
        simpa using fun equal => same equal.symm
      rw [namespaceCount, List.countP_eq_length_filter,
        Registry.filter_entered GlobalContextRecord.key_apart certified.records free outside,
        ← List.countP_eq_length_filter]
      exact certified.within.namespaceCount_le other.space

/-- A registration succeeds exactly when the caller is authorized, no other record has the id and
the namespace has room. -/
theorem register_eq_ok_iff (certified : Certified store) {registration : Registration} :
    registerGlobalContextRecord store registration = .ok next ↔
      Authorized store registration ∧
        Registry.register? GlobalContextRecord.key GlobalContextRecord.globalRecordId Within
          store.records registration.record = some next.records ∧
        next.closedNamespaces = store.closedNamespaces := by
  obtain ⟨nextRecords, nextClosed⟩ := next
  simp only [registerGlobalContextRecord, validateNamespaceIdentity,
    GlobalContextStore.isNamespaceClosed, bind_eq_ok, require_eq_ok, pure_eq_ok, Except.ok.injEq,
    exists_and_left, exists_const, Registry.get?_all_eq_iff certified.records.unique,
    Registry.register?_eq_some_iff, GlobalContextStore.mk.injEq]
  constructor
  · rintro ⟨named, inSpace, _, ⟨_, rfl⟩, isOpen, free, room, rfl, rfl⟩
    exact ⟨⟨named, inSpace, any_closed_iff.mp isOpen⟩,
      ⟨⟨free, (within_entered_iff certified free).mpr room⟩, rfl⟩, rfl⟩
  · rintro ⟨⟨named, inSpace, isOpen⟩, ⟨⟨free, within⟩, rfl⟩, rfl⟩
    exact ⟨named, inSpace, _, ⟨named, rfl⟩, any_closed_iff.mpr isOpen, free,
      (within_entered_iff certified free).mp within, rfl, rfl⟩

/-- Closing a namespace succeeds exactly when the arguments are well formed and the namespace has
no other closure. -/
theorem closeNamespace_eq_ok_iff (certified : Certified store)
    {namespaceType : GlobalMemoryNamespace} {namespaceId closureReason : String}
    {closureSequence : Int} :
    store.closeNamespace namespaceType namespaceId closureReason closureSequence = .ok next ↔
      (Text.Nonblank namespaceId ∧ Text.Nonblank closureReason ∧ 0 < closureSequence) ∧
        Registry.register? NamespaceClosureMetadata.key NamespaceClosureMetadata.space
          (fun _ => True) store.closedNamespaces
          (proposedClosure namespaceType namespaceId closureReason closureSequence) =
            some next.closedNamespaces ∧
        next.records = store.records := by
  obtain ⟨records, closures⟩ := next
  simp only [GlobalContextStore.closeNamespace, validateNamespaceIdentity, bind_eq_ok,
    require_eq_ok, exists_and_left, exists_const, and_assoc]
  refine and_congr_right fun _ => and_congr_right fun _ => and_congr_right fun _ => ?_
  set proposed := proposedClosure namespaceType namespaceId closureReason closureSequence
  rw [show (namespaceType, namespaceId) = proposed.space from rfl, Registry.register?_eq_some_iff,
    and_true, and_assoc]
  have unique := certified.closures.unique
  cases found : (Dict.indexed NamespaceClosureMetadata.space store.closedNamespaces).get?
      proposed.space with
  | none =>
      have free := Registry.free_of_get?_eq_none unique found
      simp [free, Registry.entered, and_comm, eq_comm]
  | some metadata =>
      rw [Registry.free_iff_of_get?_eq_some unique found]
      obtain ⟨member, -⟩ := (Dict.indexed_get?_eq_some_iff unique).mp found
      by_cases same : metadata = proposed
      · have present : Registry.entered NamespaceClosureMetadata.key NamespaceClosureMetadata.space
          store.closedNamespaces proposed = store.closedNamespaces :=
            Registry.entered_of_mem certified.closures (same ▸ member)
        obtain ⟨storeRecords, storeClosures⟩ := store
        simp [same, present, and_comm, eq_comm]
      · simp [same]

end Effects

/-- What one successful operation does to the store. -/
inductive Transition (store : GlobalContextStore) : StoreOp → GlobalContextStore → Prop where
  /-- A record is entered into an open namespace with room. -/
  | register {registration : Registration} (authorized : Authorized store registration)
      (free : Registry.Free GlobalContextRecord.globalRecordId store.records registration.record)
      (within : Within (Registry.entered GlobalContextRecord.key
        GlobalContextRecord.globalRecordId store.records registration.record)) :
      Transition store (.register registration)
        ⟨Registry.entered GlobalContextRecord.key GlobalContextRecord.globalRecordId store.records
          registration.record, store.closedNamespaces⟩
  /-- The closure of a namespace is entered. -/
  | close {namespaceType : GlobalMemoryNamespace} {namespaceId closureReason : String}
      {closureSequence : Int}
      (valid : Text.Nonblank namespaceId ∧ Text.Nonblank closureReason ∧ 0 < closureSequence)
      (free : Registry.Free NamespaceClosureMetadata.space store.closedNamespaces
        (proposedClosure namespaceType namespaceId closureReason closureSequence)) :
      Transition store (.close namespaceType namespaceId closureReason closureSequence)
        ⟨store.records, Registry.entered NamespaceClosureMetadata.key
          NamespaceClosureMetadata.space store.closedNamespaces
          (proposedClosure namespaceType namespaceId closureReason closureSequence)⟩

section Transitions

variable {store next : GlobalContextStore} {op : StoreOp}

theorem apply_eq_ok_iff (certified : Certified store) :
    store.apply op = .ok next ↔ Transition store op next := by
  obtain ⟨nextRecords, nextClosed⟩ := next
  cases op with
  | register registration =>
      rw [GlobalContextStore.apply, register_eq_ok_iff certified, Registry.register?_eq_some_iff]
      constructor
      · rintro ⟨authorized, ⟨⟨free, within⟩, rfl⟩, rfl⟩
        exact .register authorized free within
      · intro step
        cases step with
        | register authorized free within => exact ⟨authorized, ⟨⟨free, within⟩, rfl⟩, rfl⟩
  | close namespaceType namespaceId closureReason closureSequence =>
      rw [GlobalContextStore.apply, closeNamespace_eq_ok_iff certified,
        Registry.register?_eq_some_iff]
      constructor
      · rintro ⟨valid, ⟨⟨free, _⟩, rfl⟩, rfl⟩
        exact .close valid free
      · intro step
        cases step with
        | close valid free => exact ⟨valid, ⟨⟨free, trivial⟩, rfl⟩, rfl⟩

theorem Transition.certified (step : Transition store op next) (certified : Certified store) :
    Certified next := by
  cases step with
  | register authorized free within =>
      exact ⟨Registry.registered_entered certified.records.unique free, within, certified.closures⟩
  | close valid free =>
      exact ⟨certified.records, certified.within,
        Registry.registered_entered certified.closures.unique free⟩

theorem Transition.mem_records (step : Transition store op next) (certified : Certified store)
    {record : GlobalContextRecord} :
    record ∈ next.records ↔ record ∈ store.records ∨
      ∃ registration, op = .register registration ∧ registration.record = record := by
  cases step with
  | register authorized free within =>
      simp [Registry.mem_entered certified.records.unique free, or_comm, eq_comm]
  | close valid free => simp

theorem Transition.mem_closures (step : Transition store op next) (certified : Certified store)
    {metadata : NamespaceClosureMetadata} :
    metadata ∈ next.closedNamespaces ↔ metadata ∈ store.closedNamespaces ∨
      ∃ namespaceType namespaceId closureReason closureSequence,
        op = .close namespaceType namespaceId closureReason closureSequence ∧
          proposedClosure namespaceType namespaceId closureReason closureSequence = metadata := by
  cases step with
  | register authorized free within => simp
  | close valid free =>
      simp [Registry.mem_entered certified.closures.unique free, or_comm, eq_comm, and_assoc]

theorem closureOf_eq_some_iff (certified : Certified store)
    {space : GlobalMemoryNamespace × String} {metadata : NamespaceClosureMetadata} :
    store.closureOf space = some metadata ↔
      metadata ∈ store.closedNamespaces ∧ metadata.space = space :=
  Registry.find?_eq_some_iff certified.closures.unique

theorem Transition.isolated (step : Transition store op next) (certified : Certified store)
    {space : GlobalMemoryNamespace × String} (other : op.space ≠ space) :
    next.spaceRecords space = store.spaceRecords space ∧
      next.closureOf space = store.closureOf space := by
  have nextCertified := step.certified certified
  cases step with
  | @register registration authorized free within =>
      have outside : decide (registration.record.space = space) = false := by
        simpa [authorized.inSpace, StoreOp.space] using other
      exact ⟨Registry.filter_entered GlobalContextRecord.key_apart certified.records free outside,
        rfl⟩
  | close valid free =>
      refine ⟨rfl, Option.ext fun metadata => ?_⟩
      rw [closureOf_eq_some_iff certified, closureOf_eq_some_iff nextCertified,
        Registry.mem_entered certified.closures.unique free]
      constructor
      · rintro ⟨rfl | member, inSpace⟩
        · exact absurd inSpace other
        · exact ⟨member, inSpace⟩
      · rintro ⟨member, inSpace⟩
        exact ⟨.inr member, inSpace⟩

/-- A later store keeps all records, and keeps closed namespaces as they are. -/
structure Extends (earlier later : GlobalContextStore) : Prop where
  /-- No record is lost. -/
  records : earlier.records ⊆ later.records
  /-- The closure of a namespace is permanent, and so are its records from then on. -/
  sealed : ∀ space metadata, earlier.closureOf space = some metadata →
    later.closureOf space = some metadata ∧
      later.spaceRecords space = earlier.spaceRecords space

theorem Extends.refl (store : GlobalContextStore) : Extends store store :=
  ⟨fun _ member => member, fun _ _ closed => ⟨closed, rfl⟩⟩

theorem Extends.trans {first second third : GlobalContextStore} (front : Extends first second)
    (back : Extends second third) : Extends first third where
  records := fun _ member => back.records (front.records member)
  sealed := by
    intro space metadata closed
    obtain ⟨stillClosed, sameRecords⟩ := front.sealed space metadata closed
    obtain ⟨finallyClosed, finalRecords⟩ := back.sealed space metadata stillClosed
    exact ⟨finallyClosed, finalRecords.trans sameRecords⟩

theorem Transition.extends (step : Transition store op next) (certified : Certified store) :
    Extends store next where
  records := fun record member => (step.mem_records certified).mpr (.inl member)
  sealed := by
    intro space metadata closed
    have nextCertified := step.certified certified
    obtain ⟨member, inSpace⟩ := (closureOf_eq_some_iff certified).mp closed
    refine ⟨(closureOf_eq_some_iff nextCertified).mpr
      ⟨(step.mem_closures certified).mpr (.inl member), inSpace⟩, ?_⟩
    cases step with
    | @register registration authorized free within =>
        have other : registration.space ≠ space := by
          rintro rfl
          rw [authorized.isOpen] at closed
          contradiction
        exact (Transition.isolated (.register authorized free within) certified other).1
    | close valid free => rfl

end Transitions

/-! ## Runs of the store -/

section Runs

variable {store next later : GlobalContextStore}

theorem transition_of_step (certified : Certified store) {op : StoreOp} {answer : Unit}
    (step : machine.step store op = (.ok answer, next)) : Transition store op next :=
  (apply_eq_ok_iff certified).mp (Machine.ofFunction_step_ok.mp step)

theorem certified_of_reachable (reach : machine.Reachable store later)
    (certified : Certified store) : Certified later :=
  reach.invariant certified fun _ _ _ _ certified step =>
    (transition_of_step certified step).certified certified

theorem extends_of_reachable (reach : machine.Reachable store later)
    (certified : Certified store) : Extends store later := by
  refine reach.relation certified Extends.refl Extends.trans ?_
  intro state op answer next certified step
  have transition := transition_of_step certified step
  exact ⟨transition.certified certified, transition.extends certified⟩

/-- The store holds exactly the records and closures of the operations that succeeded. -/
structure Accounts (past : List StoreOp) (store : GlobalContextStore) : Prop where
  /-- Both registries are canonical. -/
  certified : Certified store
  /-- The records are those that were registered. -/
  records : ∀ record, record ∈ store.records ↔
    ∃ registration, .register registration ∈ past ∧ registration.record = record
  /-- The closures are those that were proposed. -/
  closures : ∀ metadata, metadata ∈ store.closedNamespaces ↔
    ∃ namespaceType namespaceId closureReason closureSequence,
      .close namespaceType namespaceId closureReason closureSequence ∈ past ∧
        proposedClosure namespaceType namespaceId closureReason closureSequence = metadata

theorem accounts_empty : Accounts [] GlobalContextStore.empty where
  certified := certified_empty
  records := by simp [GlobalContextStore.empty]
  closures := by simp [GlobalContextStore.empty]

theorem Transition.accounts {past : List StoreOp} {op : StoreOp} (step : Transition store op next)
    (accounts : Accounts past store) : Accounts (past ++ [op]) next where
  certified := step.certified accounts.certified
  records := by
    intro record
    rw [step.mem_records accounts.certified, accounts.records]
    simp only [List.mem_append, List.mem_singleton, or_and_right, exists_or, eq_comm]
  closures := by
    intro metadata
    rw [step.mem_closures accounts.certified, accounts.closures]
    simp only [List.mem_append, List.mem_singleton, or_and_right, exists_or, eq_comm]

theorem accounts_run (ops : List StoreOp) :
    Accounts (machine.succeeded .empty ops) (machine.run .empty ops) :=
  Machine.run_trace Accounts .empty ops accounts_empty fun _ _ _ _ _ accounts step =>
    (transition_of_step accounts.certified step).accounts accounts

/-- Stores that account for the same operations are equal. -/
theorem Accounts.ext {past others : List StoreOp} (accounts : Accounts past store)
    (otherAccounts : Accounts others later) (same : ∀ op, op ∈ past ↔ op ∈ others) :
    store = later := by
  have records : store.records = later.records := by
    refine accounts.certified.records.ext GlobalContextRecord.key_apart
      otherAccounts.certified.records fun record => ?_
    simp only [accounts.records, otherAccounts.records, same]
  have closures : store.closedNamespaces = later.closedNamespaces := by
    refine accounts.certified.closures.ext NamespaceClosureMetadata.key_apart
      otherAccounts.certified.closures fun metadata => ?_
    simp only [accounts.closures, otherAccounts.closures, same]
  obtain ⟨storeRecords, storeClosures⟩ := store
  obtain ⟨laterRecords, laterClosures⟩ := later
  rw [GlobalContextStore.mk.injEq]
  exact ⟨records, closures⟩

theorem authorized_congr {registration : Registration}
    (same : next.closedNamespaces = store.closedNamespaces) :
    Authorized next registration ↔ Authorized store registration := by
  have sameClosure : next.closureOf registration.space = store.closureOf registration.space := by
    rw [GlobalContextStore.closureOf, same, GlobalContextStore.closureOf]
  constructor
  · rintro ⟨named, inSpace, isOpen⟩
    exact ⟨named, inSpace, sameClosure ▸ isOpen⟩
  · rintro ⟨named, inSpace, isOpen⟩
    exact ⟨named, inSpace, sameClosure ▸ isOpen⟩

/-- A list of registrations succeeds throughout exactly when all are authorized and their records
can be registered; the closures stay. -/
theorem registrations_succeed_iff (certified : Certified store)
    {registrations : List Registration} {final : GlobalContextStore} :
    machine.AllSteps machine.Succeeds store (registrations.map .register) ∧
        machine.run store (registrations.map .register) = final ↔
      (∀ registration ∈ registrations, Authorized store registration) ∧
        Registry.registerAll? GlobalContextRecord.key GlobalContextRecord.globalRecordId Within
          store.records (registrations.map fun registration => registration.record) =
            some final.records ∧
        final.closedNamespaces = store.closedNamespaces := by
  induction registrations generalizing store with
  | nil =>
      obtain ⟨finalRecords, finalClosures⟩ := final
      obtain ⟨records, closures⟩ := store
      simp [Machine.AllSteps, Registry.registerAll?, eq_comm]
  | cons registration rest induction =>
      rw [List.map_cons, Machine.AllSteps, Machine.run_cons, List.forall_mem_cons, List.map_cons,
        Registry.registerAll?]
      constructor
      · rintro ⟨⟨succeeds, steps⟩, outcome⟩
        obtain ⟨next, step⟩ := Machine.ofFunction_succeeds_iff.mp succeeds
        have sameNext := Machine.ofFunction_after step
        have nextCertified := ((apply_eq_ok_iff certified).mp step).certified certified
        obtain ⟨authorized, entering, sameClosures⟩ := (register_eq_ok_iff certified).mp step
        obtain ⟨restAuthorized, entered, closures⟩ :=
          (induction nextCertified).mp ⟨sameNext ▸ steps, sameNext ▸ outcome⟩
        refine ⟨⟨authorized, fun other member => ?_⟩, ?_, closures.trans sameClosures⟩
        · exact (authorized_congr sameClosures).mp (restAuthorized other member)
        · rw [entering]
          exact entered
      · rintro ⟨⟨authorized, restAuthorized⟩, entered, closures⟩
        split at entered
        · contradiction
        · next records entering =>
            have step : store.apply (.register registration) =
                .ok ⟨records, store.closedNamespaces⟩ :=
              (register_eq_ok_iff certified).mpr ⟨authorized, entering, rfl⟩
            have sameNext := Machine.ofFunction_after step
            have nextCertified := ((apply_eq_ok_iff certified).mp step).certified certified
            obtain ⟨steps, outcome⟩ := (induction nextCertified).mpr
              ⟨fun other member => ⟨(restAuthorized other member).named,
                (restAuthorized other member).inSpace, (restAuthorized other member).isOpen⟩,
                entered, closures⟩
            refine ⟨⟨Machine.ofFunction_succeeds_iff.mpr ⟨_, step⟩, ?_⟩, ?_⟩
            · exact sameNext.symm ▸ steps
            · exact sameNext.symm ▸ outcome

/-- Registrations that succeed in one order succeed in any, with the same store. -/
theorem registrations_reorder (certified : Certified store)
    {registrations others : List Registration} (perm : registrations.Perm others)
    (steps : machine.AllSteps machine.Succeeds store (registrations.map .register)) :
    machine.AllSteps machine.Succeeds store (others.map .register) ∧
      machine.run store (others.map .register) =
        machine.run store (registrations.map .register) := by
  obtain ⟨authorized, entered, closures⟩ :=
    (registrations_succeed_iff certified).mp ⟨steps, rfl⟩
  refine (registrations_succeed_iff certified).mpr
    ⟨fun registration member => authorized registration (perm.mem_iff.mpr member), ?_, closures⟩
  exact Registry.registerAll?_perm GlobalContextRecord.key_apart within_antitone (perm.map _)
    certified.records certified.within entered

end Runs

/-- What a run from the empty store guarantees. -/
structure StoreLaw (ops : List StoreOp) : Prop where
  /-- Record ids stay unique. -/
  unique : ((machine.run .empty ops).records.map GlobalContextRecord.globalRecordId).Nodup
  /-- Records stay in canonical order. -/
  ordered : (machine.run .empty ops).records.Pairwise fun left right => left.key ≤ right.key
  /-- Every namespace is bounded. -/
  bounded : ∀ space,
    ((machine.run .empty ops).spaceRecords space).length ≤ maxGlobalRecordsPerNamespace
  /-- The closure of a namespace and the records of a closed namespace are permanent. -/
  sealed : ∀ more space metadata, (machine.run .empty ops).closureOf space = some metadata →
    (machine.run .empty (ops ++ more)).closureOf space = some metadata ∧
      (machine.run .empty (ops ++ more)).spaceRecords space =
        (machine.run .empty ops).spaceRecords space
  /-- No operation changes another namespace. -/
  isolated : ∀ op space, op.space ≠ space →
    (machine.run .empty (ops ++ [op])).spaceRecords space =
        (machine.run .empty ops).spaceRecords space ∧
      (machine.run .empty (ops ++ [op])).closureOf space =
        (machine.run .empty ops).closureOf space
  /-- No record is lost. -/
  kept : ∀ more record, record ∈ (machine.run .empty ops).records →
    record ∈ (machine.run .empty (ops ++ more)).records
  /-- A failing operation changes nothing. -/
  atomic : ∀ op, ¬ machine.Succeeds (machine.run .empty ops) op →
    machine.run .empty (ops ++ [op]) = machine.run .empty ops
  /-- Registrations that succeed may be reordered. -/
  reorderable : ∀ registrations others : List Registration, registrations.Perm others →
    machine.AllSteps machine.Succeeds (machine.run .empty ops) (registrations.map .register) →
    machine.AllSteps machine.Succeeds (machine.run .empty ops) (others.map .register) ∧
      machine.run .empty (ops ++ others.map .register) =
        machine.run .empty (ops ++ registrations.map .register)
  /-- Runs in which the same operations succeed, in any order, end in the same store. -/
  determined : ∀ others,
    (∀ op, op ∈ machine.succeeded .empty ops ↔ op ∈ machine.succeeded .empty others) →
      machine.run .empty others = machine.run .empty ops

/-- Every run of registrations and closures keeps the law of the store. -/
theorem storeLaw (ops : List StoreOp) : StoreLaw ops where
  unique := (accounts_run ops).certified.records.unique
  ordered := (accounts_run ops).certified.records.sorted
  bounded := by
    intro space
    rw [GlobalContextStore.spaceRecords, ← List.countP_eq_length_filter]
    exact (accounts_run ops).certified.within.namespaceCount_le space
  sealed := by
    intro more
    rw [Machine.run_append]
    exact (extends_of_reachable ⟨more, rfl⟩ (accounts_run ops).certified).sealed
  isolated := by
    intro op space other
    have certified := (accounts_run ops).certified
    rw [Machine.run_append, Machine.run_cons, Machine.run_nil]
    refine Machine.after_induction (motive := fun next : GlobalContextStore =>
      next.spaceRecords space = (machine.run .empty ops).spaceRecords space ∧
        next.closureOf space = (machine.run .empty ops).closureOf space) ?_ ⟨rfl, rfl⟩
    exact fun _ _ step => (transition_of_step certified step).isolated certified other
  kept := by
    intro more record member
    rw [Machine.run_append]
    exact (extends_of_reachable ⟨more, rfl⟩ (accounts_run ops).certified).records member
  atomic := by
    intro op failing
    rw [Machine.run_append, Machine.run_cons, Machine.run_nil]
    refine Machine.after_induction (motive := fun next => next = machine.run .empty ops) ?_ rfl
    exact fun answer _ step => absurd ⟨answer, congrArg Prod.fst step⟩ failing
  reorderable := by
    intro registrations others perm steps
    rw [Machine.run_append, Machine.run_append]
    exact registrations_reorder (accounts_run ops).certified perm steps
  determined := by
    intro others same
    exact ((accounts_run ops).ext (accounts_run others) same).symm

end GlobalMemory
end MercuryX
