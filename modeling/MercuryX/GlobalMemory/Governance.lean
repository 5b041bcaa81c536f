import MercuryX.GlobalMemory.Consolidation
import MercuryX.GlobalMemory.Store

/-!
# Governance of global context

Expiring, revoking and tombstoning a record each make a further record of the new lifecycle, which
names the record it supersedes. The prior record keeps its own lifecycle, and the store is not
touched: whether the transition has any effect is a matter of registering the record that is made.
-/

namespace MercuryX
namespace GlobalMemory

open Foundation

/-- The arguments of a governance call. -/
structure GovernanceCall where
  authorizedNamespaceType : GlobalMemoryNamespace
  authorizedNamespaceId : String
  reason : String
  store : Option GlobalContextStore := none

/-- The check that the caller is authorized for a namespace. -/
def validateNamespaceAuthorization (space authorized : GlobalMemoryNamespace × String) :
    Except Fault Unit :=
  require (space = authorized) (.value "namespace authorization mismatch")

/-- The lifecycles that a transition may leave. -/
def allowedGovernanceSources : List GlobalMemoryLifecycle := [.active, .superseded]

variable (digest : Digest)

/-- The id of the record that a transition makes. -/
def stableGovernanceId (prior : GlobalContextRecord) (targetLifecycle : GlobalMemoryLifecycle)
    (reason : String) : String :=
  "sha256:" ++ digest.hexdigest (.obj [
    ("prior_record_id", .str prior.globalRecordId),
    ("record_version", .int (prior.recordVersion + 1)),
    ("target_lifecycle", .str targetLifecycle.value),
    ("reason", .str reason)])

/-- The record of a transition: the next version, of the target lifecycle. -/
def GlobalContextRecord.governed (record : GlobalContextRecord)
    (targetLifecycle : GlobalMemoryLifecycle) (reason : String) : GlobalContextRecord :=
  let globalRecordId := stableGovernanceId digest record targetLifecycle reason
  { record.superseded globalRecordId (digestId_nonblank digest _) reason with
    lifecycle := targetLifecycle }

/-- Make the record of a transition to a lifecycle. -/
def transitionGlobalContext (targetLifecycle : GlobalMemoryLifecycle)
    (record : GlobalContextRecord) (call : GovernanceCall) : Except Fault GlobalContextRecord := do
  require (Text.Nonblank call.reason) (.value "governance reason required")
  validateNamespaceAuthorization record.space
    (call.authorizedNamespaceType, call.authorizedNamespaceId)
  let closed ← call.store.elim (.ok false) fun store =>
    store.isNamespaceClosed record.namespaceType record.namespaceId
  require (closed = false) (.value "governance mutation rejected after namespace closure")
  require (record.lifecycle ∈ allowedGovernanceSources) (.value "invalid lifecycle transition")
  let normalizedReason := Text.strip call.reason
  return record.governed digest targetLifecycle normalizedReason

/-- Expire a record. -/
def expireGlobalContext (record : GlobalContextRecord) (call : GovernanceCall) :
    Except Fault GlobalContextRecord :=
  transitionGlobalContext digest .expired record call

/-- Revoke a record. -/
def revokeGlobalContext (record : GlobalContextRecord) (call : GovernanceCall) :
    Except Fault GlobalContextRecord :=
  transitionGlobalContext digest .revoked record call

/-- Tombstone a record. -/
def tombstoneGlobalContext (record : GlobalContextRecord) (call : GovernanceCall) :
    Except Fault GlobalContextRecord :=
  transitionGlobalContext digest .tombstoned record call

variable {digest}

/-- Close a namespace for which the caller is authorized. -/
def closeGlobalNamespace (store : GlobalContextStore) (namespaceType : GlobalMemoryNamespace)
    (namespaceId : String) (authorized : GlobalMemoryNamespace × String) (reason : String)
    (closureSequence : Int) : Except Fault GlobalContextStore := do
  require (Text.Nonblank reason) (.value "governance reason required")
  validateNamespaceAuthorization (namespaceType, namespaceId) authorized
  store.closeNamespace namespaceType namespaceId (Text.strip reason) closureSequence

theorem reachable_of_closeGlobalNamespace {store next : GlobalContextStore}
    {namespaceType : GlobalMemoryNamespace} {namespaceId reason : String}
    {authorized : GlobalMemoryNamespace × String} {closureSequence : Int}
    (outcome : closeGlobalNamespace store namespaceType namespaceId authorized reason
      closureSequence = .ok next) : machine.Reachable store next := by
  simp only [closeGlobalNamespace, validateNamespaceAuthorization, bind_eq_ok, require_eq_ok,
    exists_and_left, exists_const] at outcome
  have step : store.apply
      (.close namespaceType namespaceId (Text.strip reason) closureSequence) = .ok next :=
    outcome.2.2
  exact Machine.ofFunction_reachable step

/-- A record may be put to a transition: a reason is given, the caller is authorized, the record has
not ended, and the store at hand, if any, has not closed its namespace. -/
structure Governable (record : GlobalContextRecord) (call : GovernanceCall) : Prop where
  /-- A reason is given. -/
  reason : Text.Nonblank call.reason
  /-- The caller is authorized. -/
  authorized : record.space = (call.authorizedNamespaceType, call.authorizedNamespaceId)
  /-- The namespace is open. -/
  isOpen : ∀ store, call.store = some store → store.closureOf record.space = none
  /-- The record has not ended. -/
  source : record.lifecycle ∈ allowedGovernanceSources

theorem closed_eq_false_iff {record : GlobalContextRecord} {call : GovernanceCall} :
    (∃ closed, call.store.elim (.ok false) (fun store =>
        store.isNamespaceClosed record.namespaceType record.namespaceId) = .ok closed ∧
      closed = false) ↔
      ∀ store, call.store = some store → store.closureOf record.space = none := by
  have named : Text.Nonblank record.namespaceId := record.texts_nonblank _ (by simp)
  cases call.store with
  | none => simp
  | some store =>
      simp [GlobalContextStore.isNamespaceClosed, validateNamespaceIdentity, named,
        ← any_closed_iff, GlobalContextRecord.space]

theorem transitionGlobalContext_eq_ok_iff {targetLifecycle : GlobalMemoryLifecycle}
    {record next : GlobalContextRecord} {call : GovernanceCall} :
    transitionGlobalContext digest targetLifecycle record call = .ok next ↔
      Governable record call ∧
        record.governed digest targetLifecycle (Text.strip call.reason) = next := by
  simp only [transitionGlobalContext, validateNamespaceAuthorization, bind_eq_ok, require_eq_ok,
    pure_eq_ok, Except.ok.injEq, exists_and_left, exists_const]
  constructor
  · rintro ⟨reason, authorized, closed, outcome, isOpen, source, made⟩
    exact ⟨⟨reason, authorized, closed_eq_false_iff.mp ⟨closed, outcome, isOpen⟩, source⟩, made⟩
  · rintro ⟨⟨reason, authorized, isOpen, source⟩, made⟩
    obtain ⟨closed, outcome, isOpen⟩ := closed_eq_false_iff.mpr isOpen
    exact ⟨reason, authorized, closed, outcome, isOpen, source, made⟩

theorem nextVersion_governed (record : GlobalContextRecord)
    (targetLifecycle : GlobalMemoryLifecycle) (reason : String) :
    NextVersion record (record.governed digest targetLifecycle reason) where
  lineage := ⟨rfl, rfl, rfl⟩
  numbered := ⟨rfl, rfl⟩
  linked := rfl
  traceable := ⟨fun _ => id, fun _ => id, fun _ => id⟩

/-! ## Successors -/

variable (digest) in
/-- The records that the next version or a transition of a record makes. -/
inductive Successor (record : GlobalContextRecord) : GlobalContextRecord → Prop where
  /-- The next version. -/
  | version {next : GlobalContextRecord} (change : RecordChange)
      (outcome : createGlobalRecordVersion digest record change = .ok next) : Successor record next
  /-- The expired record. -/
  | expired {next : GlobalContextRecord} (call : GovernanceCall)
      (outcome : expireGlobalContext digest record call = .ok next) : Successor record next
  /-- The revoked record. -/
  | revoked {next : GlobalContextRecord} (call : GovernanceCall)
      (outcome : revokeGlobalContext digest record call = .ok next) : Successor record next
  /-- The tombstoned record. -/
  | tombstoned {next : GlobalContextRecord} (call : GovernanceCall)
      (outcome : tombstoneGlobalContext digest record call = .ok next) : Successor record next

theorem nextVersion_of_transition {targetLifecycle : GlobalMemoryLifecycle}
    {record next : GlobalContextRecord} {call : GovernanceCall}
    (outcome : transitionGlobalContext digest targetLifecycle record call = .ok next) :
    NextVersion record next := by
  obtain ⟨_, rfl⟩ := transitionGlobalContext_eq_ok_iff.mp outcome
  exact nextVersion_governed record targetLifecycle _

theorem Successor.nextVersion {record next : GlobalContextRecord}
    (successor : Successor digest record next) : NextVersion record next := by
  cases successor with
  | version change outcome => exact (nextVersion_of_createGlobalRecordVersion outcome).1
  | expired call outcome => exact nextVersion_of_transition outcome
  | revoked call outcome => exact nextVersion_of_transition outcome
  | tombstoned call outcome => exact nextVersion_of_transition outcome

variable (digest) in
/-- The records that withdrawing a record makes. -/
inductive Withdrawn (record : GlobalContextRecord) : GlobalContextRecord → Prop where
  /-- The expired record. -/
  | expired {next : GlobalContextRecord} (call : GovernanceCall)
      (outcome : expireGlobalContext digest record call = .ok next) : Withdrawn record next
  /-- The revoked record. -/
  | revoked {next : GlobalContextRecord} (call : GovernanceCall)
      (outcome : revokeGlobalContext digest record call = .ok next) : Withdrawn record next
  /-- The tombstoned record. -/
  | tombstoned {next : GlobalContextRecord} (call : GovernanceCall)
      (outcome : tombstoneGlobalContext digest record call = .ok next) : Withdrawn record next

theorem lifecycle_of_transition {targetLifecycle : GlobalMemoryLifecycle}
    {record next : GlobalContextRecord} {call : GovernanceCall}
    (outcome : transitionGlobalContext digest targetLifecycle record call = .ok next) :
    next.lifecycle = targetLifecycle := by
  obtain ⟨_, rfl⟩ := transitionGlobalContext_eq_ok_iff.mp outcome
  rfl

theorem Withdrawn.not_active {record next : GlobalContextRecord}
    (withdrawn : Withdrawn digest record next) : next.lifecycle ≠ .active := by
  cases withdrawn with
  | expired call outcome => exact lifecycle_of_transition outcome ▸ nofun
  | revoked call outcome => exact lifecycle_of_transition outcome ▸ nofun
  | tombstoned call outcome => exact lifecycle_of_transition outcome ▸ nofun

end GlobalMemory
end MercuryX
