import MercuryX.Contracts

/-!
# Migration artifacts

The contracts of the live-migration control plane. Every artifact is frozen and content-addressed:
its fingerprint is the digest of its other fields. Generations are natural numbers here because
their fields only accept nonnegative integers.
-/

namespace MercuryX
namespace LiveMigration

open Foundation

/-! ## Frozen artifacts -/

/-- Contracts that can be dumped, without their fingerprint, to a canonical payload. -/
class Payload (α : Type) where
  /-- The fields that the fingerprint covers. -/
  payload : α → Json

/-- A contract instance together with its verified fingerprint. -/
structure FrozenArtifact (digest : Digest) (α : Type) [Payload α] where
  /-- The fields of the artifact. -/
  body : α
  /-- The content address. -/
  fingerprint : String
  /-- The fingerprint is that of the fields. -/
  verified : fingerprint = digest.hexdigest (Payload.payload body)

namespace FrozenArtifact

variable {digest : Digest} {α : Type} [Payload α]

/-- Seal a body whose fingerprint was not given. -/
def sealed (body : α) : FrozenArtifact digest α :=
  ⟨body, digest.hexdigest (Payload.payload body), rfl⟩

/-- Seal a body without a fingerprint, or verify the fingerprint that came with it. -/
def sealOrVerifyFingerprint (body : α) (fingerprint : Option String) :
    Except Fault (FrozenArtifact digest α) :=
  match fingerprint with
  | none => .ok (sealed body)
  | some given =>
      if verified : given = digest.hexdigest (Payload.payload body) then
        .ok ⟨body, given, verified⟩
      else
        .error (.validation "FrozenArtifact" "" "Value error, artifact fingerprint mismatch")

/-- A forged fingerprint is never accepted. -/
theorem sealOrVerifyFingerprint_eq_ok_iff {body : α} {fingerprint : Option String}
    {artifact : FrozenArtifact digest α} :
    sealOrVerifyFingerprint body fingerprint = .ok artifact ↔
      artifact = sealed body ∧
        ∀ given, fingerprint = some given → given = digest.hexdigest (Payload.payload body) := by
  cases fingerprint with
  | none => simp [sealOrVerifyFingerprint, eq_comm]
  | some given =>
      by_cases verified : given = digest.hexdigest (Payload.payload body)
      · subst verified
        simp [sealOrVerifyFingerprint, sealed, eq_comm]
      · simp [sealOrVerifyFingerprint, verified]

end FrozenArtifact

/-! ## Enumerations -/

/-- Why a migration is requested. -/
inductive MigrationTrigger where
  | nodeDegradation
  | overload
  | topologyChange
  | resourceLoss
  | scheduledMaintenance
  | placementReevaluation
  | sloPressure
  | manualRequest
  deriving DecidableEq, Repr

/-- The text of a trigger. -/
def MigrationTrigger.value : MigrationTrigger → String
  | nodeDegradation => "NODE_DEGRADATION"
  | overload => "OVERLOAD"
  | topologyChange => "TOPOLOGY_CHANGE"
  | resourceLoss => "RESOURCE_LOSS"
  | scheduledMaintenance => "SCHEDULED_MAINTENANCE"
  | placementReevaluation => "PLACEMENT_REEVALUATION"
  | sloPressure => "SLO_PRESSURE"
  | manualRequest => "MANUAL_REQUEST"

/-- How a migration is carried out. -/
inductive MigrationMode where
  | cold
  | warm
  | live
  deriving DecidableEq, Repr

/-- The text of a mode. -/
def MigrationMode.value : MigrationMode → String
  | cold => "COLD"
  | warm => "WARM"
  | live => "LIVE"

/-- The lifecycle states of a migration. -/
inductive MigrationLifecycle where
  | requested
  | qualifying
  | checkpointing
  | transferring
  | restoring
  | verifying
  | cutoverReady
  | committed
  | rolledBack
  | aborted
  | failed
  | stale
  | unknown
  deriving DecidableEq, Repr

/-- The text of a lifecycle state. -/
def MigrationLifecycle.value : MigrationLifecycle → String
  | requested => "REQUESTED"
  | qualifying => "QUALIFYING"
  | checkpointing => "CHECKPOINTING"
  | transferring => "TRANSFERRING"
  | restoring => "RESTORING"
  | verifying => "VERIFYING"
  | cutoverReady => "CUTOVER_READY"
  | committed => "COMMITTED"
  | rolledBack => "ROLLED_BACK"
  | aborted => "ABORTED"
  | failed => "FAILED"
  | stale => "STALE"
  | unknown => "UNKNOWN"

/-! ## Requests and candidates -/

/-- A request to migrate a running execution. -/
structure MigrationRequest where
  migrationRequestId : String
  workloadId : String
  executionId : String
  sourceNodeId : String
  trigger : MigrationTrigger
  modelId : String
  modelVersion : String
  precision : String
  executionGraphId : String
  executionGraphPosition : String
  hardwareProfileId : String
  hardwareProfileGeneration : Nat
  topologyGeneration : Nat
  placementDecisionId : String
  placementGeneration : Nat
  speculationPlanId : String
  speculationGeneration : Nat
  reasoningBudgetId : String
  reasoningBudgetGeneration : Nat
  schedulerDecisionId : String
  schedulerGeneration : Nat
  intelligenceSloId : String
  intelligenceSloVersion : Nat
  computeAgreementId : String
  computeAgreementGeneration : Nat
  authorizationContextId : String
  authorizationGeneration : Nat
  executionGeneration : Nat
  provenanceIds : List String
  /-- The SLO version starts at one. -/
  sloVersion_pos : 1 ≤ intelligenceSloVersion
  /-- Identity fields are nonblank. -/
  identities_nonblank : ∀ identity ∈ [migrationRequestId, workloadId, executionId, sourceNodeId,
    modelId, modelVersion, precision, executionGraphId, executionGraphPosition, hardwareProfileId,
    placementDecisionId, speculationPlanId, reasoningBudgetId, schedulerDecisionId,
    intelligenceSloId, computeAgreementId, authorizationContextId], Text.Nonblank identity
  /-- Provenance is nonempty, nonblank and free of duplicates. -/
  provenance_valid :
    provenanceIds ≠ [] ∧ (∀ id ∈ provenanceIds, Text.Nonblank id) ∧ provenanceIds.Nodup

instance : DecidableEq MigrationRequest := fun left right =>
  decidable_of_iff (left.migrationRequestId = right.migrationRequestId ∧
      left.workloadId = right.workloadId ∧ left.executionId = right.executionId ∧
      left.sourceNodeId = right.sourceNodeId ∧ left.trigger = right.trigger ∧
      left.modelId = right.modelId ∧ left.modelVersion = right.modelVersion ∧
      left.precision = right.precision ∧ left.executionGraphId = right.executionGraphId ∧
      left.executionGraphPosition = right.executionGraphPosition ∧
      left.hardwareProfileId = right.hardwareProfileId ∧
      left.hardwareProfileGeneration = right.hardwareProfileGeneration ∧
      left.topologyGeneration = right.topologyGeneration ∧
      left.placementDecisionId = right.placementDecisionId ∧
      left.placementGeneration = right.placementGeneration ∧
      left.speculationPlanId = right.speculationPlanId ∧
      left.speculationGeneration = right.speculationGeneration ∧
      left.reasoningBudgetId = right.reasoningBudgetId ∧
      left.reasoningBudgetGeneration = right.reasoningBudgetGeneration ∧
      left.schedulerDecisionId = right.schedulerDecisionId ∧
      left.schedulerGeneration = right.schedulerGeneration ∧
      left.intelligenceSloId = right.intelligenceSloId ∧
      left.intelligenceSloVersion = right.intelligenceSloVersion ∧
      left.computeAgreementId = right.computeAgreementId ∧
      left.computeAgreementGeneration = right.computeAgreementGeneration ∧
      left.authorizationContextId = right.authorizationContextId ∧
      left.authorizationGeneration = right.authorizationGeneration ∧
      left.executionGeneration = right.executionGeneration ∧
      left.provenanceIds = right.provenanceIds) (by
    cases left
    cases right
    simp)

instance : Payload MigrationRequest where
  payload request := .obj [
    ("migration_request_id", .str request.migrationRequestId),
    ("workload_id", .str request.workloadId), ("execution_id", .str request.executionId),
    ("source_node_id", .str request.sourceNodeId), ("trigger", .str request.trigger.value),
    ("model_id", .str request.modelId), ("model_version", .str request.modelVersion),
    ("precision", .str request.precision), ("execution_graph_id", .str request.executionGraphId),
    ("execution_graph_position", .str request.executionGraphPosition),
    ("hardware_profile_id", .str request.hardwareProfileId),
    ("hardware_profile_generation", .int request.hardwareProfileGeneration),
    ("topology_generation", .int request.topologyGeneration),
    ("placement_decision_id", .str request.placementDecisionId),
    ("placement_generation", .int request.placementGeneration),
    ("speculation_plan_id", .str request.speculationPlanId),
    ("speculation_generation", .int request.speculationGeneration),
    ("reasoning_budget_id", .str request.reasoningBudgetId),
    ("reasoning_budget_generation", .int request.reasoningBudgetGeneration),
    ("scheduler_decision_id", .str request.schedulerDecisionId),
    ("scheduler_generation", .int request.schedulerGeneration),
    ("intelligence_slo_id", .str request.intelligenceSloId),
    ("intelligence_slo_version", .int request.intelligenceSloVersion),
    ("compute_agreement_id", .str request.computeAgreementId),
    ("compute_agreement_generation", .int request.computeAgreementGeneration),
    ("authorization_context_id", .str request.authorizationContextId),
    ("authorization_generation", .int request.authorizationGeneration),
    ("execution_generation", .int request.executionGeneration),
    ("provenance_ids", Json.strs request.provenanceIds)]

/-- A node that offers to take over the execution. -/
structure DestinationCandidate where
  candidateId : String
  nodeId : String
  hardwareProfileId : String
  hardwareProfileGeneration : Nat
  topologyGeneration : Nat
  placementDecisionId : String
  placementGeneration : Nat
  authorizationContextId : String
  authorizationGeneration : Nat
  supportsModel : Bool
  supportsPrecision : Bool
  supportsRuntime : Bool
  capacitySufficient : Bool
  qualityPreserving : Bool
  provenanceIds : List String
  deriving DecidableEq, Repr

instance : Payload DestinationCandidate where
  payload candidate := .obj [
    ("candidate_id", .str candidate.candidateId), ("node_id", .str candidate.nodeId),
    ("hardware_profile_id", .str candidate.hardwareProfileId),
    ("hardware_profile_generation", .int candidate.hardwareProfileGeneration),
    ("topology_generation", .int candidate.topologyGeneration),
    ("placement_decision_id", .str candidate.placementDecisionId),
    ("placement_generation", .int candidate.placementGeneration),
    ("authorization_context_id", .str candidate.authorizationContextId),
    ("authorization_generation", .int candidate.authorizationGeneration),
    ("supports_model", .bool candidate.supportsModel),
    ("supports_precision", .bool candidate.supportsPrecision),
    ("supports_runtime", .bool candidate.supportsRuntime),
    ("capacity_sufficient", .bool candidate.capacitySufficient),
    ("quality_preserving", .bool candidate.qualityPreserving),
    ("provenance_ids", Json.strs candidate.provenanceIds)]

/-! ## Plans and migrated state -/

/-- The plan of one migration to one destination. -/
structure MigrationPlan where
  migrationPlanId : String
  migrationRequestId : String
  destinationCandidateId : String
  destinationNodeId : String
  mode : MigrationMode
  sourceExecutionGeneration : Nat
  topologyGeneration : Nat
  placementGeneration : Nat
  schedulerGeneration : Nat
  agreementGeneration : Nat
  authorizationGeneration : Nat
  checkpointRequired : Bool
  deriving DecidableEq, Repr

instance : Payload MigrationPlan where
  payload plan := .obj [
    ("migration_plan_id", .str plan.migrationPlanId),
    ("migration_request_id", .str plan.migrationRequestId),
    ("destination_candidate_id", .str plan.destinationCandidateId),
    ("destination_node_id", .str plan.destinationNodeId), ("mode", .str plan.mode.value),
    ("source_execution_generation", .int plan.sourceExecutionGeneration),
    ("topology_generation", .int plan.topologyGeneration),
    ("placement_generation", .int plan.placementGeneration),
    ("scheduler_generation", .int plan.schedulerGeneration),
    ("agreement_generation", .int plan.agreementGeneration),
    ("authorization_generation", .int plan.authorizationGeneration),
    ("checkpoint_required", .bool plan.checkpointRequired)]

/-- The state of an execution at a point where it can be resumed. -/
structure MigrationStateSnapshot where
  snapshotId : String
  migrationRequestId : String
  executionGeneration : Nat
  modelId : String
  modelVersion : String
  precision : String
  executionGraphPosition : String
  sessionContextRef : String
  kvCacheRef : Option String
  verificationStateRef : Option String
  reasoningStateRef : String
  speculationStateRef : String
  schedulerStateRef : String
  sloRef : String
  agreementRef : String
  authorizationContextId : String
  authorizationGeneration : Nat
  payloadDigest : String
  deriving DecidableEq, Repr

instance : Payload MigrationStateSnapshot where
  payload snapshot := .obj [
    ("snapshot_id", .str snapshot.snapshotId),
    ("migration_request_id", .str snapshot.migrationRequestId),
    ("execution_generation", .int snapshot.executionGeneration),
    ("model_id", .str snapshot.modelId), ("model_version", .str snapshot.modelVersion),
    ("precision", .str snapshot.precision),
    ("execution_graph_position", .str snapshot.executionGraphPosition),
    ("session_context_ref", .str snapshot.sessionContextRef),
    ("kv_cache_ref", Json.optStr snapshot.kvCacheRef),
    ("verification_state_ref", Json.optStr snapshot.verificationStateRef),
    ("reasoning_state_ref", .str snapshot.reasoningStateRef),
    ("speculation_state_ref", .str snapshot.speculationStateRef),
    ("scheduler_state_ref", .str snapshot.schedulerStateRef), ("slo_ref", .str snapshot.sloRef),
    ("agreement_ref", .str snapshot.agreementRef),
    ("authorization_context_id", .str snapshot.authorizationContextId),
    ("authorization_generation", .int snapshot.authorizationGeneration),
    ("payload_digest", .str snapshot.payloadDigest)]

/-- A sealed checkpoint of an execution. -/
structure MigrationCheckpoint (digest : Digest) where
  checkpointId : String
  migrationRequestId : String
  snapshot : FrozenArtifact digest MigrationStateSnapshot
  sourceExecutionGeneration : Nat
  checkpointGeneration : Nat
  sealedCheckpoint : Bool

/-- A nested snapshot is dumped with its fingerprint. -/
def snapshotPayload {digest : Digest} (snapshot : FrozenArtifact digest MigrationStateSnapshot) :
    Json :=
  match Payload.payload snapshot.body with
  | .obj members => .obj (("fingerprint", .str snapshot.fingerprint) :: members)
  | other => other

instance {digest : Digest} : Payload (MigrationCheckpoint digest) where
  payload checkpoint := .obj [
    ("checkpoint_id", .str checkpoint.checkpointId),
    ("migration_request_id", .str checkpoint.migrationRequestId),
    ("snapshot", snapshotPayload checkpoint.snapshot),
    ("source_execution_generation", .int checkpoint.sourceExecutionGeneration),
    ("checkpoint_generation", .int checkpoint.checkpointGeneration),
    ("sealed", .bool checkpoint.sealedCheckpoint)]

/-- The outcome of moving a checkpoint to a destination. -/
structure TransferReceipt where
  transferId : String
  migrationPlanId : String
  checkpointId : String
  destinationNodeId : String
  transferredDigest : String
  bytesTransferred : Nat
  complete : Bool
  deriving DecidableEq, Repr

instance : Payload TransferReceipt where
  payload receipt := .obj [
    ("transfer_id", .str receipt.transferId), ("migration_plan_id", .str receipt.migrationPlanId),
    ("checkpoint_id", .str receipt.checkpointId),
    ("destination_node_id", .str receipt.destinationNodeId),
    ("transferred_digest", .str receipt.transferredDigest),
    ("bytes_transferred", .int receipt.bytesTransferred), ("complete", .bool receipt.complete)]

/-- The outcome of restoring a transferred checkpoint. -/
structure RestoreReceipt where
  restoreId : String
  migrationPlanId : String
  destinationNodeId : String
  checkpointId : String
  restoredExecutionGeneration : Nat
  restoredDigest : String
  readyForVerification : Bool
  deriving DecidableEq, Repr

instance : Payload RestoreReceipt where
  payload receipt := .obj [
    ("restore_id", .str receipt.restoreId), ("migration_plan_id", .str receipt.migrationPlanId),
    ("destination_node_id", .str receipt.destinationNodeId),
    ("checkpoint_id", .str receipt.checkpointId),
    ("restored_execution_generation", .int receipt.restoredExecutionGeneration),
    ("restored_digest", .str receipt.restoredDigest),
    ("ready_for_verification", .bool receipt.readyForVerification)]

/-- The comparison of a restored execution with its source. -/
structure MigrationVerification where
  verificationId : String
  migrationPlanId : String
  destinationNodeId : String
  modelIdentityMatch : Bool
  precisionMatch : Bool
  graphPositionMatch : Bool
  contextDigestMatch : Bool
  reasoningStateMatch : Bool
  speculationStateMatch : Bool
  sloMatch : Bool
  authorizationMatch : Bool
  qualityPreserved : Bool
  deriving DecidableEq, Repr

instance : Payload MigrationVerification where
  payload verification := .obj [
    ("verification_id", .str verification.verificationId),
    ("migration_plan_id", .str verification.migrationPlanId),
    ("destination_node_id", .str verification.destinationNodeId),
    ("model_identity_match", .bool verification.modelIdentityMatch),
    ("precision_match", .bool verification.precisionMatch),
    ("graph_position_match", .bool verification.graphPositionMatch),
    ("context_digest_match", .bool verification.contextDigestMatch),
    ("reasoning_state_match", .bool verification.reasoningStateMatch),
    ("speculation_state_match", .bool verification.speculationStateMatch),
    ("slo_match", .bool verification.sloMatch),
    ("authorization_match", .bool verification.authorizationMatch),
    ("quality_preserved", .bool verification.qualityPreserved)]

/-- Every compared aspect matches. -/
def MigrationVerification.equivalent (verification : MigrationVerification) : Bool :=
  [verification.modelIdentityMatch, verification.precisionMatch, verification.graphPositionMatch,
    verification.contextDigestMatch, verification.reasoningStateMatch,
    verification.speculationStateMatch, verification.sloMatch, verification.authorizationMatch,
    verification.qualityPreserved].all id

/-- The transfer of authority from a source to a destination execution. -/
structure CutoverRecord where
  cutoverId : String
  migrationPlanId : String
  sourceExecutionId : String
  destinationExecutionId : String
  authorityGeneration : Nat
  committed : Bool
  deriving DecidableEq, Repr

instance : Payload CutoverRecord where
  payload record := .obj [
    ("cutover_id", .str record.cutoverId), ("migration_plan_id", .str record.migrationPlanId),
    ("source_execution_id", .str record.sourceExecutionId),
    ("destination_execution_id", .str record.destinationExecutionId),
    ("authority_generation", .int record.authorityGeneration),
    ("committed", .bool record.committed)]

/-- An event in the history of a migration. -/
structure MigrationLedgerEvent where
  eventId : String
  migrationRequestId : String
  eventType : String
  lifecycle : MigrationLifecycle
  generation : Nat
  detail : String
  deriving DecidableEq, Repr

instance : Payload MigrationLedgerEvent where
  payload event := .obj [
    ("event_id", .str event.eventId), ("migration_request_id", .str event.migrationRequestId),
    ("event_type", .str event.eventType), ("lifecycle", .str event.lifecycle.value),
    ("generation", .int event.generation), ("detail", .str event.detail)]

/-! ## Sample artifacts -/

/-- A request with the given identity. -/
def sampleRequest (digest : Digest) (request : String)
    (visible : Text.Nonblank request := by decide) : FrozenArtifact digest MigrationRequest :=
  .sealed
    { migrationRequestId := request
      workloadId := "w"
      executionId := "e1"
      sourceNodeId := "a"
      trigger := .nodeDegradation
      modelId := "model"
      modelVersion := "v1"
      precision := "bf16"
      executionGraphId := "g"
      executionGraphPosition := "s1"
      hardwareProfileId := "h"
      hardwareProfileGeneration := 13
      topologyGeneration := 14
      placementDecisionId := "p"
      placementGeneration := 15
      speculationPlanId := "sp"
      speculationGeneration := 16
      reasoningBudgetId := "rb"
      reasoningBudgetGeneration := 17
      schedulerDecisionId := "sd"
      schedulerGeneration := 18
      intelligenceSloId := "slo"
      intelligenceSloVersion := 1
      computeAgreementId := "ag"
      computeAgreementGeneration := 20
      authorizationContextId := "auth"
      authorizationGeneration := 1
      executionGeneration := 7
      provenanceIds := ["13"]
      sloVersion_pos := le_rfl
      identities_nonblank := by simpa using ⟨visible, by decide⟩
      provenance_valid := by decide }

/-- A plan of a request, with its identity given by the request and the destination node. -/
def samplePlan (digest : Digest) (request node : String) : FrozenArtifact digest MigrationPlan :=
  .sealed
    { migrationPlanId := s!"plan:{request}"
      migrationRequestId := request
      destinationCandidateId := s!"candidate:{node}"
      destinationNodeId := node
      mode := .live
      sourceExecutionGeneration := 7
      topologyGeneration := 14
      placementGeneration := 15
      schedulerGeneration := 18
      agreementGeneration := 20
      authorizationGeneration := 1
      checkpointRequired := true }

end LiveMigration
end MercuryX
