import MercuryX.Contracts

/-!
# Global memory contracts

Namespaced context records, their lifecycle, and the queries over them. A record is immutable:
a change is a further record that names the one it supersedes.
-/

namespace MercuryX
namespace GlobalMemory

open Foundation

/-- The most records that one namespace holds. -/
def maxGlobalRecordsPerNamespace : Nat := 4096

/-! ## Enumerations -/

/-- What a record holds. -/
inductive GlobalMemoryType where
  | projectContext
  | workspaceContext
  | executionKnowledge
  | validatedFact
  | reusableArtifactContext
  | globalSummary
  deriving DecidableEq, Repr

/-- The text of a memory type. -/
def GlobalMemoryType.value : GlobalMemoryType → String
  | projectContext => "PROJECT_CONTEXT"
  | workspaceContext => "WORKSPACE_CONTEXT"
  | executionKnowledge => "EXECUTION_KNOWLEDGE"
  | validatedFact => "VALIDATED_FACT"
  | reusableArtifactContext => "REUSABLE_ARTIFACT_CONTEXT"
  | globalSummary => "GLOBAL_SUMMARY"

/-- The kinds of namespace. -/
inductive GlobalMemoryNamespace where
  | tenant
  | workspace
  | project
  deriving DecidableEq, Repr

/-- The text of a kind of namespace. -/
def GlobalMemoryNamespace.value : GlobalMemoryNamespace → String
  | tenant => "TENANT"
  | workspace => "WORKSPACE"
  | project => "PROJECT"

theorem GlobalMemoryNamespace.value_injective {left right : GlobalMemoryNamespace}
    (same : left.value = right.value) : left = right := by
  revert same
  cases left <;> cases right <;> decide

/-- The lifecycle states of a record. -/
inductive GlobalMemoryLifecycle where
  | active
  | superseded
  | expired
  | revoked
  | tombstoned
  deriving DecidableEq, Repr

/-- The text of a lifecycle state. -/
def GlobalMemoryLifecycle.value : GlobalMemoryLifecycle → String
  | active => "ACTIVE"
  | superseded => "SUPERSEDED"
  | expired => "EXPIRED"
  | revoked => "REVOKED"
  | tombstoned => "TOMBSTONED"

/-- Whether a record conflicts with others. -/
inductive GlobalMemoryConflictState where
  | clear
  | conflicting
  deriving DecidableEq, Repr

/-- The outcome of a memory phase. -/
inductive GlobalMemoryPhaseStatus where
  | ready
  | notApplicable
  | fail
  deriving DecidableEq, Repr

/-! ## Records -/

/-- One immutable version of a namespaced context. -/
structure GlobalContextRecord where
  namespaceType : GlobalMemoryNamespace
  namespaceId : String
  globalRecordId : String
  recordVersion : Nat
  sourceSessionId : String
  sourcePhase8RecordIds : List String
  sourceArtifactIds : List String
  sourcePhase : String
  memoryType : GlobalMemoryType
  contextKey : String
  creationSequence : Nat
  lifecycle : GlobalMemoryLifecycle
  conflictState : GlobalMemoryConflictState
  provenance : List String
  promotionPolicyId : String
  retentionPolicyId : String
  supersedesRecordId : Option String := none
  changeReason : Option String := none
  /-- Identity and policy fields are nonblank. -/
  texts_nonblank : ∀ text ∈ [namespaceId, globalRecordId, sourceSessionId, sourcePhase, contextKey,
    promotionPolicyId, retentionPolicyId], Text.Nonblank text
  /-- Versions start at one. -/
  recordVersion_pos : 0 < recordVersion
  /-- Sequence numbers start at one. -/
  creationSequence_pos : 0 < creationSequence
  deriving DecidableEq

/-- The namespace of a record. -/
def GlobalContextRecord.space (record : GlobalContextRecord) : GlobalMemoryNamespace × String :=
  (record.namespaceType, record.namespaceId)

/-! ## Queries -/

/-- A query over the records of one namespace. -/
structure GlobalMemoryQuery where
  namespaceType : GlobalMemoryNamespace
  namespaceId : String
  authorizedNamespaceType : GlobalMemoryNamespace
  authorizedNamespaceId : String
  memoryTypes : Option (List GlobalMemoryType) := none
  contextKey : Option String := none
  sourceArtifactId : Option String := none
  sourcePhase8RecordIds : Option (List String) := none
  recordVersion : Option Nat := none
  lifecycle : Option GlobalMemoryLifecycle := none
  conflictState : Option GlobalMemoryConflictState := none
  currentOnly : Bool := true
  limit : Nat := 128
  /-- The namespaces named are nonblank. -/
  namespaces_nonblank : Text.Nonblank namespaceId ∧ Text.Nonblank authorizedNamespaceId
  /-- The text filters are nonblank. -/
  filters_nonblank : ∀ filter ∈ contextKey.toList ++ sourceArtifactId.toList ++
    (sourcePhase8RecordIds.getD []), Text.Nonblank filter := by simp
  /-- Memory types stand once each in the order of their texts. -/
  memoryTypes_canonical : ∀ types, memoryTypes = some types →
    canonical GlobalMemoryType.value types = types := by simp
  /-- Source record ids stand once each in order. -/
  sourceIds_canonical : ∀ ids, sourcePhase8RecordIds = some ids → canonical id ids = ids := by simp
  /-- A version filter is positive. -/
  recordVersion_pos : ∀ version, recordVersion = some version → 0 < version := by simp
  /-- The limit is between one and 128. -/
  limit_bounds : 1 ≤ limit ∧ limit ≤ 128 := by decide

/-- What a query returns. -/
structure GlobalMemoryRetrievalResult where
  status : GlobalMemoryPhaseStatus
  records : List GlobalContextRecord
  deriving DecidableEq

end GlobalMemory
end MercuryX
