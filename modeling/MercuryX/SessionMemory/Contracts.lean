import MercuryX.Contracts

/-!
# Session memory contracts

Records of what happened in a session, their lifecycle, and the queries over them. The provenance
of a record is never empty and stands in canonical form.
-/

namespace MercuryX
namespace SessionMemory

open Foundation

/-- The most records that a store holds. -/
def maxSessionMemoryRecords : Nat := 1024

/-! ## Enumerations -/

/-- What a record holds. -/
inductive SessionMemoryType where
  | observation
  | intermediateResult
  | toolResult
  | decisionContext
  | executionState
  | compactedSummary
  deriving DecidableEq, Repr

/-- The text of a memory type. -/
def SessionMemoryType.value : SessionMemoryType → String
  | observation => "OBSERVATION"
  | intermediateResult => "INTERMEDIATE_RESULT"
  | toolResult => "TOOL_RESULT"
  | decisionContext => "DECISION_CONTEXT"
  | executionState => "EXECUTION_STATE"
  | compactedSummary => "COMPACTED_SUMMARY"

/-- The part of a session that a record is about. -/
inductive SessionMemoryScope where
  | turn
  | task
  | session
  deriving DecidableEq, Repr

/-- The lifecycle states of a record. -/
inductive SessionMemoryLifecycle where
  | active
  | compacted
  | expired
  | tombstoned
  deriving DecidableEq, Repr

/-- The outcome of a memory phase. -/
inductive SessionMemoryPhaseStatus where
  | ready
  | notApplicable
  | fail
  deriving DecidableEq, Repr

/-! ## Records -/

/-- One version of a session memory. -/
structure SessionMemoryRecord where
  schemaVersion : String := "mercury.session-memory/v1"
  sessionId : String
  taskId : String
  turnId : String
  recordId : String
  recordVersion : Nat
  sourcePhase : String
  sourceArtifactId : String
  memoryType : SessionMemoryType
  scope : SessionMemoryScope
  creationSequence : Nat
  lifecycle : SessionMemoryLifecycle
  retentionSequence : Option Int := none
  sourceLineageId : Option String := none
  retrievalKey : Option String := none
  provenance : List String
  /-- Identity fields are nonblank. -/
  texts_nonblank : ∀ text ∈ [sessionId, taskId, turnId, recordId, sourcePhase, sourceArtifactId],
    Text.Nonblank text
  /-- Versions start at one. -/
  recordVersion_pos : 0 < recordVersion
  /-- Sequence numbers start at one. -/
  creationSequence_pos : 0 < creationSequence
  /-- There is provenance, and none of it is blank. -/
  provenance_given : provenance ≠ [] ∧ ∀ evidence ∈ provenance, Text.Nonblank evidence
  /-- Each evidence stands once, in order. -/
  provenance_canonical : canonical id provenance = provenance

instance : DecidableEq SessionMemoryRecord := fun left right =>
  decidable_of_iff (left.schemaVersion = right.schemaVersion ∧ left.sessionId = right.sessionId ∧
      left.taskId = right.taskId ∧ left.turnId = right.turnId ∧ left.recordId = right.recordId ∧
      left.recordVersion = right.recordVersion ∧ left.sourcePhase = right.sourcePhase ∧
      left.sourceArtifactId = right.sourceArtifactId ∧ left.memoryType = right.memoryType ∧
      left.scope = right.scope ∧ left.creationSequence = right.creationSequence ∧
      left.lifecycle = right.lifecycle ∧ left.retentionSequence = right.retentionSequence ∧
      left.sourceLineageId = right.sourceLineageId ∧ left.retrievalKey = right.retrievalKey ∧
      left.provenance = right.provenance) (by
    cases left
    cases right
    simp)

/-! ## Queries and results -/

/-- A query over the records of one session. -/
structure SessionMemoryQuery where
  sessionId : String
  limit : Nat := 64
  taskId : Option String := none
  turnIdMin : Option String := none
  turnIdMax : Option String := none
  memoryTypes : List SessionMemoryType := []
  scope : Option SessionMemoryScope := none
  sourceArtifactId : Option String := none
  sourceLineageId : Option String := none
  retrievalKey : Option String := none
  lifecycle : Option SessionMemoryLifecycle := none
  /-- The limit is between one and 64. -/
  limit_bounds : 1 ≤ limit ∧ limit ≤ 64 := by decide
  /-- The text filters are nonblank. -/
  texts_nonblank : ∀ text ∈ [sessionId] ++ taskId.toList ++ turnIdMin.toList ++ turnIdMax.toList ++
    sourceArtifactId.toList ++ sourceLineageId.toList ++ retrievalKey.toList, Text.Nonblank text
  /-- Memory types stand once each in the order of their texts. -/
  memoryTypes_canonical : canonical SessionMemoryType.value memoryTypes = memoryTypes := by rfl
  /-- The turn range is not inverted. -/
  turns_ordered : ∀ lower ∈ turnIdMin, ∀ upper ∈ turnIdMax, lower ≤ upper := by simp

/-- What a query returns. -/
structure SessionMemoryRetrievalResult where
  status : SessionMemoryPhaseStatus
  records : List SessionMemoryRecord
  provenance : List String := []
  deriving DecidableEq

/-- What a lifecycle transition returns. -/
structure SessionMemoryLifecycleResult where
  status : SessionMemoryPhaseStatus
  record : Option SessionMemoryRecord := none
  reason : Option String := none
  deriving DecidableEq

end SessionMemory
end MercuryX
