import MercuryX.GlobalMemory.Contracts

/-!
# Disaggregated execution contracts

Segments of an execution with the segments and the handoffs they wait for, the handoffs between
segments, and the plans that hold both. A segment and a handoff each say what state they are in;
moving to another state makes a further value.
-/

namespace MercuryX
namespace DisaggregatedExecution

open Foundation GlobalMemory

/-- The most segments of a plan. -/
def maxSegmentsPerExecutionPlan : Nat := 256

/-- The most dependencies of a segment. -/
def maxDependenciesPerSegment : Nat := 64

/-- The most handoffs that a segment requires, and that it produces. -/
def maxHandoffsPerSegment : Nat := 64

/-- The most input artifacts of a segment. -/
def maxExecutionArtifactsPerSegment : Nat := 128

/-- The most attempts that a retry policy allows. -/
def maxRetryAttempts : Nat := 8

/-! ## Enumerations -/

/-- What a segment does. -/
inductive ExecutionSegmentType where
  | prefill
  | decode
  | toolExecution
  | retrieval
  | transform
  | aggregation
  deriving DecidableEq, Repr

/-- The text of a segment type. -/
def ExecutionSegmentType.value : ExecutionSegmentType → String
  | prefill => "PREFILL"
  | decode => "DECODE"
  | toolExecution => "TOOL_EXECUTION"
  | retrieval => "RETRIEVAL"
  | transform => "TRANSFORM"
  | aggregation => "AGGREGATION"

/-- How far a segment is. -/
inductive ExecutionSegmentState where
  | planned
  | ready
  | running
  | succeeded
  | failed
  | cancelled
  deriving DecidableEq, Repr

/-- The text of a segment state. -/
def ExecutionSegmentState.value : ExecutionSegmentState → String
  | planned => "PLANNED"
  | ready => "READY"
  | running => "RUNNING"
  | succeeded => "SUCCEEDED"
  | failed => "FAILED"
  | cancelled => "CANCELLED"

/-- What a handoff hands over. -/
inductive ExecutionHandoffKind where
  | artifact
  | context
  | kvReference
  | control
  deriving DecidableEq, Repr

/-- The text of a handoff kind. -/
def ExecutionHandoffKind.value : ExecutionHandoffKind → String
  | artifact => "ARTIFACT"
  | context => "CONTEXT"
  | kvReference => "KV_REFERENCE"
  | control => "CONTROL"

/-- How far a handoff is. -/
inductive ExecutionHandoffState where
  | pending
  | available
  | consumed
  | invalidated
  deriving DecidableEq, Repr

/-- The text of a handoff state. -/
def ExecutionHandoffState.value : ExecutionHandoffState → String
  | pending => "PENDING"
  | available => "AVAILABLE"
  | consumed => "CONSUMED"
  | invalidated => "INVALIDATED"

/-- Why a segment failed. -/
inductive ExecutionFailureCategory where
  | inputFailure
  | handoffFailure
  | compatibilityFailure
  | runtimeFailure
  | verificationFailure
  | cancelledFailure
  deriving DecidableEq, Repr

/-- The text of a failure category. -/
def ExecutionFailureCategory.value : ExecutionFailureCategory → String
  | inputFailure => "INPUT_FAILURE"
  | handoffFailure => "HANDOFF_FAILURE"
  | compatibilityFailure => "COMPATIBILITY_FAILURE"
  | runtimeFailure => "RUNTIME_FAILURE"
  | verificationFailure => "VERIFICATION_FAILURE"
  | cancelledFailure => "CANCELLED_FAILURE"

/-! ## Retry policies -/

/-- How often a segment is attempted, and after which failures. -/
structure ExecutionRetryPolicy where
  retryPolicyId : String
  maxAttempts : Nat
  retryableFailureCategories : List ExecutionFailureCategory := []
  /-- The policy is named. -/
  retryPolicyId_nonblank : Text.Nonblank retryPolicyId
  /-- There is at least one attempt, and there are not too many. -/
  maxAttempts_bounds : 1 ≤ maxAttempts ∧ maxAttempts ≤ maxRetryAttempts
  /-- Categories stand in canonical form. -/
  categories_canonical : retryableFailureCategories.Nodup ∧
    canonical id (retryableFailureCategories.map ExecutionFailureCategory.value) =
      retryableFailureCategories.map ExecutionFailureCategory.value
  deriving DecidableEq

/-! ## Segments -/

/-- A part of an execution. -/
structure ExecutionSegment where
  segmentId : String
  executionPlanId : String
  namespaceType : GlobalMemoryNamespace
  namespaceId : String
  segmentType : ExecutionSegmentType
  inputArtifactIds : List String := []
  outputContractId : String
  modelRequirementId : Option String := none
  contextRequirementId : Option String := none
  kvRequirementId : Option String := none
  dependencySegmentIds : List String := []
  requiredHandoffIds : List String := []
  producedHandoffIds : List String := []
  handoffPolicyId : String
  retryPolicyId : String
  verificationPolicyId : String
  creationSequence : Nat
  executionState : ExecutionSegmentState := .planned
  /-- Required fields are nonblank. -/
  texts_nonblank : ∀ text ∈ [segmentId, executionPlanId, namespaceId, outputContractId,
    handoffPolicyId, retryPolicyId, verificationPolicyId], Text.Nonblank text
  /-- Requirements are nonblank where they are given. -/
  requirements_nonblank : ∀ field ∈ [modelRequirementId, contextRequirementId, kvRequirementId],
    ∀ text ∈ field, Text.Nonblank text
  /-- References stand in canonical form, within their bounds. -/
  references_canonical : ∀ reference ∈ [(inputArtifactIds, maxExecutionArtifactsPerSegment),
    (dependencySegmentIds, maxDependenciesPerSegment), (requiredHandoffIds, maxHandoffsPerSegment),
    (producedHandoffIds, maxHandoffsPerSegment)],
    CanonicalTexts reference.1 ∧ reference.1.length ≤ reference.2
  /-- Sequence numbers start at one. -/
  creationSequence_pos : 1 ≤ creationSequence
  /-- No segment depends on itself. -/
  independent : segmentId ∉ dependencySegmentIds

instance : DecidableEq ExecutionSegment := fun left right =>
  decidable_of_iff (left.segmentId = right.segmentId ∧
      left.executionPlanId = right.executionPlanId ∧ left.namespaceType = right.namespaceType ∧
      left.namespaceId = right.namespaceId ∧ left.segmentType = right.segmentType ∧
      left.inputArtifactIds = right.inputArtifactIds ∧
      left.outputContractId = right.outputContractId ∧
      left.modelRequirementId = right.modelRequirementId ∧
      left.contextRequirementId = right.contextRequirementId ∧
      left.kvRequirementId = right.kvRequirementId ∧
      left.dependencySegmentIds = right.dependencySegmentIds ∧
      left.requiredHandoffIds = right.requiredHandoffIds ∧
      left.producedHandoffIds = right.producedHandoffIds ∧
      left.handoffPolicyId = right.handoffPolicyId ∧ left.retryPolicyId = right.retryPolicyId ∧
      left.verificationPolicyId = right.verificationPolicyId ∧
      left.creationSequence = right.creationSequence ∧
      left.executionState = right.executionState) (by
    cases left
    cases right
    simp)

namespace ExecutionSegment

/-- The namespace of a segment. -/
def space (segment : ExecutionSegment) : GlobalMemoryNamespace × String :=
  (segment.namespaceType, segment.namespaceId)

/-- The same segment in another state. -/
def inState (segment : ExecutionSegment) (state : ExecutionSegmentState) : ExecutionSegment :=
  { segment with executionState := state }

/-- The JSON of a segment. -/
def json (segment : ExecutionSegment) : Json :=
  .obj [("segment_id", .str segment.segmentId),
    ("execution_plan_id", .str segment.executionPlanId),
    ("namespace_type", .str segment.namespaceType.value),
    ("namespace_id", .str segment.namespaceId),
    ("segment_type", .str segment.segmentType.value),
    ("input_artifact_ids", .strs segment.inputArtifactIds),
    ("output_contract_id", .str segment.outputContractId),
    ("model_requirement_id", .optStr segment.modelRequirementId),
    ("context_requirement_id", .optStr segment.contextRequirementId),
    ("kv_requirement_id", .optStr segment.kvRequirementId),
    ("dependency_segment_ids", .strs segment.dependencySegmentIds),
    ("required_handoff_ids", .strs segment.requiredHandoffIds),
    ("produced_handoff_ids", .strs segment.producedHandoffIds),
    ("handoff_policy_id", .str segment.handoffPolicyId),
    ("retry_policy_id", .str segment.retryPolicyId),
    ("verification_policy_id", .str segment.verificationPolicyId),
    ("creation_sequence", .int segment.creationSequence),
    ("execution_state", .str segment.executionState.value)]

end ExecutionSegment

/-! ## Handoffs -/

/-- What one segment hands over to another. -/
structure ExecutionHandoff where
  handoffId : String
  executionPlanId : String
  namespaceType : GlobalMemoryNamespace
  namespaceId : String
  producerSegmentId : String
  consumerSegmentId : String
  handoffKind : ExecutionHandoffKind
  payloadReference : Option String := none
  payloadFingerprint : Option String := none
  authorizationScope : String
  compatibilityContractId : String
  verificationContractId : String
  state : ExecutionHandoffState := .pending
  creationSequence : Nat
  invalidationReason : Option String := none
  /-- Required fields are nonblank. -/
  texts_nonblank : ∀ text ∈ [handoffId, executionPlanId, namespaceId, producerSegmentId,
    consumerSegmentId, authorizationScope, compatibilityContractId, verificationContractId],
    Text.Nonblank text
  /-- Optional fields are nonblank where they are given. -/
  optional_nonblank : ∀ field ∈ [payloadReference, payloadFingerprint, invalidationReason],
    ∀ text ∈ field, Text.Nonblank text
  /-- Sequence numbers start at one. -/
  creationSequence_pos : 1 ≤ creationSequence
  /-- No segment hands over to itself. -/
  endpoints_differ : producerSegmentId ≠ consumerSegmentId
  /-- Exactly the invalidated handoffs have a reason. -/
  invalidation : state = .invalidated ↔ invalidationReason ≠ none

instance : DecidableEq ExecutionHandoff := fun left right =>
  decidable_of_iff (left.handoffId = right.handoffId ∧
      left.executionPlanId = right.executionPlanId ∧ left.namespaceType = right.namespaceType ∧
      left.namespaceId = right.namespaceId ∧ left.producerSegmentId = right.producerSegmentId ∧
      left.consumerSegmentId = right.consumerSegmentId ∧ left.handoffKind = right.handoffKind ∧
      left.payloadReference = right.payloadReference ∧
      left.payloadFingerprint = right.payloadFingerprint ∧
      left.authorizationScope = right.authorizationScope ∧
      left.compatibilityContractId = right.compatibilityContractId ∧
      left.verificationContractId = right.verificationContractId ∧ left.state = right.state ∧
      left.creationSequence = right.creationSequence ∧
      left.invalidationReason = right.invalidationReason) (by
    cases left
    cases right
    simp)

namespace ExecutionHandoff

/-- The namespace of a handoff. -/
def space (handoff : ExecutionHandoff) : GlobalMemoryNamespace × String :=
  (handoff.namespaceType, handoff.namespaceId)

/-- The JSON of a handoff. -/
def json (handoff : ExecutionHandoff) : Json :=
  .obj [("handoff_id", .str handoff.handoffId),
    ("execution_plan_id", .str handoff.executionPlanId),
    ("namespace_type", .str handoff.namespaceType.value),
    ("namespace_id", .str handoff.namespaceId),
    ("producer_segment_id", .str handoff.producerSegmentId),
    ("consumer_segment_id", .str handoff.consumerSegmentId),
    ("handoff_kind", .str handoff.handoffKind.value),
    ("payload_reference", .optStr handoff.payloadReference),
    ("payload_fingerprint", .optStr handoff.payloadFingerprint),
    ("authorization_scope", .str handoff.authorizationScope),
    ("compatibility_contract_id", .str handoff.compatibilityContractId),
    ("verification_contract_id", .str handoff.verificationContractId),
    ("state", .str handoff.state.value),
    ("creation_sequence", .int handoff.creationSequence),
    ("invalidation_reason", .optStr handoff.invalidationReason)]

end ExecutionHandoff

/-! ## Plans -/

/-- The segments and the handoffs of an execution. -/
structure DisaggregatedExecutionPlan where
  executionPlanId : String
  namespaceType : GlobalMemoryNamespace
  namespaceId : String
  sourceExecutionGraphId : String
  segments : List ExecutionSegment
  handoffs : List ExecutionHandoff := []
  entrySegmentIds : List String
  terminalSegmentIds : List String
  creationSequence : Int
  planVersion : String
  planFingerprint : String
  deriving DecidableEq

/-- The validators of a plan. -/
def DisaggregatedExecutionPlan.validate (plan : DisaggregatedExecutionPlan) :
    Except Fault Unit := do
  forEach (fun field => rule "DisaggregatedExecutionPlan" field.1 (Text.Nonblank field.2)
      "plan field must be nonblank")
    [("execution_plan_id", plan.executionPlanId), ("namespace_id", plan.namespaceId),
      ("source_execution_graph_id", plan.sourceExecutionGraphId)]
  forEach (fun field => do
      rule "DisaggregatedExecutionPlan" field.1 (∀ text ∈ field.2, Text.Nonblank text)
        s!"{field.1} must be nonblank"
      rule "DisaggregatedExecutionPlan" field.1 field.2.Nodup s!"{field.1} contains duplicates"
      rule "DisaggregatedExecutionPlan" field.1 (sortOn id field.2 = field.2)
        s!"{field.1} must be canonical")
    [("entry_segment_ids", plan.entrySegmentIds), ("terminal_segment_ids", plan.terminalSegmentIds)]
  fieldGe "DisaggregatedExecutionPlan" "creation_sequence" 1 plan.creationSequence
  forEach (fun field => rule "DisaggregatedExecutionPlan" field.1 (Text.Nonblank field.2)
      "plan field must be nonblank")
    [("plan_version", plan.planVersion), ("plan_fingerprint", plan.planFingerprint)]

end DisaggregatedExecution
end MercuryX
