import MercuryX.LiveMigration.Contracts

/-!
# Checkpoint, transfer and restore

The three stages that move the state of an execution. A transfer is bound to its plan and its
checkpoint when it is made, but a restore compares only the completion flag and the checkpoint
identity, so the binding of a restore to its own migration rests on the artifacts it is given.
-/

namespace MercuryX
namespace LiveMigration

open Foundation

variable {digest : Digest}

/-- The state references and identities with which a checkpoint is created. -/
structure CheckpointInputs where
  snapshotId : String
  sessionContextRef : String
  kvCacheRef : Option String
  verificationStateRef : Option String
  reasoningStateRef : String
  speculationStateRef : String
  schedulerStateRef : String
  payloadDigest : String
  checkpointGeneration : Int

/-- The snapshot of a requested execution. -/
def checkpointSnapshot (request : FrozenArtifact digest MigrationRequest)
    (inputs : CheckpointInputs) : FrozenArtifact digest MigrationStateSnapshot :=
  .sealed
    { snapshotId := inputs.snapshotId
      migrationRequestId := request.body.migrationRequestId
      executionGeneration := request.body.executionGeneration
      modelId := request.body.modelId
      modelVersion := request.body.modelVersion
      precision := request.body.precision
      executionGraphPosition := request.body.executionGraphPosition
      sessionContextRef := inputs.sessionContextRef
      kvCacheRef := inputs.kvCacheRef
      verificationStateRef := inputs.verificationStateRef
      reasoningStateRef := inputs.reasoningStateRef
      speculationStateRef := inputs.speculationStateRef
      schedulerStateRef := inputs.schedulerStateRef
      sloRef := request.body.intelligenceSloId
      agreementRef := request.body.computeAgreementId
      authorizationContextId := request.body.authorizationContextId
      authorizationGeneration := request.body.authorizationGeneration
      payloadDigest := inputs.payloadDigest }

/-- Seal a checkpoint of the requested execution. -/
def createCheckpoint (request : FrozenArtifact digest MigrationRequest)
    (inputs : CheckpointInputs) :
    Except Fault (FrozenArtifact digest (MigrationCheckpoint digest)) := do
  fieldGe "MigrationCheckpoint" "checkpoint_generation" 0 inputs.checkpointGeneration
  return .sealed
    { checkpointId :=
        s!"checkpoint:{request.body.migrationRequestId}:{inputs.checkpointGeneration}"
      migrationRequestId := request.body.migrationRequestId
      snapshot := checkpointSnapshot request inputs
      sourceExecutionGeneration := request.body.executionGeneration
      checkpointGeneration := inputs.checkpointGeneration.toNat
      sealedCheckpoint := true }

/-- Move a checkpoint to the destination of a plan; the transfer is complete when the transferred
digest is that of the checkpoint. -/
def transferCheckpoint (plan : FrozenArtifact digest MigrationPlan)
    (checkpoint : FrozenArtifact digest (MigrationCheckpoint digest)) (bytesTransferred : Int)
    (transferredDigest : String) : Except Fault (FrozenArtifact digest TransferReceipt) := do
  require (checkpoint.body.migrationRequestId = plan.body.migrationRequestId)
    (.value "checkpoint/plan request mismatch")
  let complete := decide (transferredDigest = checkpoint.body.snapshot.body.payloadDigest)
  fieldGe "TransferReceipt" "bytes_transferred" 0 bytesTransferred
  return .sealed
    { transferId := s!"transfer:{plan.body.migrationPlanId}"
      migrationPlanId := plan.body.migrationPlanId
      checkpointId := checkpoint.body.checkpointId
      destinationNodeId := plan.body.destinationNodeId
      transferredDigest := transferredDigest
      bytesTransferred := bytesTransferred.toNat
      complete := complete }

/-- The receipt of a restore under a plan. -/
def restoreReceipt (plan : FrozenArtifact digest MigrationPlan)
    (checkpoint : FrozenArtifact digest (MigrationCheckpoint digest))
    (transfer : FrozenArtifact digest TransferReceipt) (restoredExecutionGeneration : Int) :
    FrozenArtifact digest RestoreReceipt :=
  .sealed
    { restoreId := s!"restore:{plan.body.migrationPlanId}"
      migrationPlanId := plan.body.migrationPlanId
      destinationNodeId := plan.body.destinationNodeId
      checkpointId := checkpoint.body.checkpointId
      restoredExecutionGeneration := restoredExecutionGeneration.toNat
      restoredDigest := transfer.body.transferredDigest
      readyForVerification := true }

/-- Restore a transferred checkpoint at the destination of a plan. -/
def restoreDestination (plan : FrozenArtifact digest MigrationPlan)
    (checkpoint : FrozenArtifact digest (MigrationCheckpoint digest))
    (transfer : FrozenArtifact digest TransferReceipt) (restoredExecutionGeneration : Int) :
    Except Fault (FrozenArtifact digest RestoreReceipt) := do
  require (transfer.body.complete = true) (.value "cannot restore incomplete transfer")
  require (transfer.body.checkpointId = checkpoint.body.checkpointId)
    (.value "transfer/checkpoint mismatch")
  fieldGe "RestoreReceipt" "restored_execution_generation" 0 restoredExecutionGeneration
  return restoreReceipt plan checkpoint transfer restoredExecutionGeneration

theorem createCheckpoint_request {request : FrozenArtifact digest MigrationRequest}
    {inputs : CheckpointInputs} {checkpoint : FrozenArtifact digest (MigrationCheckpoint digest)}
    (created : createCheckpoint request inputs = .ok checkpoint) :
    checkpoint.body.migrationRequestId = request.body.migrationRequestId ∧
      checkpoint.body.snapshot.body.migrationRequestId = request.body.migrationRequestId ∧
      checkpoint.body.snapshot.body.payloadDigest = inputs.payloadDigest := by
  simp only [createCheckpoint, bind_eq_ok, pure_eq_ok, Except.ok.injEq] at created
  obtain ⟨_, _, rfl⟩ := created
  exact ⟨rfl, rfl, rfl⟩

/-- A transfer belongs to the plan and the checkpoint it was made for, and it is complete exactly
when it carries the digest of that checkpoint. -/
theorem transferCheckpoint_binding {plan : FrozenArtifact digest MigrationPlan}
    {checkpoint : FrozenArtifact digest (MigrationCheckpoint digest)} {bytesTransferred : Int}
    {transferredDigest : String} {transfer : FrozenArtifact digest TransferReceipt}
    (transferred : transferCheckpoint plan checkpoint bytesTransferred transferredDigest =
      .ok transfer) :
    checkpoint.body.migrationRequestId = plan.body.migrationRequestId ∧
      transfer.body.migrationPlanId = plan.body.migrationPlanId ∧
      transfer.body.destinationNodeId = plan.body.destinationNodeId ∧
      transfer.body.checkpointId = checkpoint.body.checkpointId ∧
      (transfer.body.complete = true ↔
        transfer.body.transferredDigest = checkpoint.body.snapshot.body.payloadDigest) := by
  simp only [transferCheckpoint, bind_eq_ok, require_eq_ok, pure_eq_ok, Except.ok.injEq]
    at transferred
  obtain ⟨_, sameRequest, _, _, rfl⟩ := transferred
  exact ⟨sameRequest, rfl, rfl, rfl, by simp [FrozenArtifact.sealed]⟩

/-- A restore succeeds exactly when the transfer is complete, names the checkpoint, and the
restored generation is nonnegative. -/
theorem restoreDestination_eq_ok_iff {plan : FrozenArtifact digest MigrationPlan}
    {checkpoint : FrozenArtifact digest (MigrationCheckpoint digest)}
    {transfer : FrozenArtifact digest TransferReceipt} {restoredExecutionGeneration : Int}
    {receipt : FrozenArtifact digest RestoreReceipt} :
    restoreDestination plan checkpoint transfer restoredExecutionGeneration = .ok receipt ↔
      transfer.body.complete = true ∧
        transfer.body.checkpointId = checkpoint.body.checkpointId ∧
        0 ≤ restoredExecutionGeneration ∧
        receipt = restoreReceipt plan checkpoint transfer restoredExecutionGeneration := by
  simp only [restoreDestination, bind_eq_ok, require_eq_ok, fieldGe_eq_ok, pure_eq_ok,
    Except.ok.injEq, exists_const]
  exact and_congr_right fun _ => and_congr_right fun _ => and_congr_right fun _ => eq_comm

/-! ## The binding of a restore to its migration -/

/-- The transfer, the checkpoint and the restored digest all belong to the migration of the plan. -/
def RestoreBinding (plan : FrozenArtifact digest MigrationPlan)
    (checkpoint : FrozenArtifact digest (MigrationCheckpoint digest))
    (transfer : FrozenArtifact digest TransferReceipt)
    (receipt : FrozenArtifact digest RestoreReceipt) : Prop :=
  transfer.body.migrationPlanId = plan.body.migrationPlanId ∧
    transfer.body.destinationNodeId = plan.body.destinationNodeId ∧
    checkpoint.body.migrationRequestId = plan.body.migrationRequestId ∧
    receipt.body.restoredDigest = checkpoint.body.snapshot.body.payloadDigest

/-- The transfer was made for this plan and this checkpoint: it carries the identities of the
plan, the checkpoint is of the plan's request, and the digest is the checkpoint's. -/
def SameMigration (plan : FrozenArtifact digest MigrationPlan)
    (checkpoint : FrozenArtifact digest (MigrationCheckpoint digest))
    (transfer : FrozenArtifact digest TransferReceipt) : Prop :=
  transfer.body.migrationPlanId = plan.body.migrationPlanId ∧
    transfer.body.destinationNodeId = plan.body.destinationNodeId ∧
    checkpoint.body.migrationRequestId = plan.body.migrationRequestId ∧
    transfer.body.transferredDigest = checkpoint.body.snapshot.body.payloadDigest

theorem sameMigration_of_transferCheckpoint {plan : FrozenArtifact digest MigrationPlan}
    {checkpoint : FrozenArtifact digest (MigrationCheckpoint digest)} {bytesTransferred : Int}
    {transferredDigest : String} {transfer : FrozenArtifact digest TransferReceipt}
    (transferred : transferCheckpoint plan checkpoint bytesTransferred transferredDigest =
      .ok transfer) (complete : transfer.body.complete = true) :
    SameMigration plan checkpoint transfer := by
  obtain ⟨sameRequest, samePlan, sameNode, _, completed⟩ := transferCheckpoint_binding transferred
  exact ⟨samePlan, sameNode, sameRequest, completed.mp complete⟩

/-- A restore is bound to its plan exactly when its own checks reject the call or the artifacts
are of the plan's migration. -/
theorem restoreBinding_iff_sameMigration (plan : FrozenArtifact digest MigrationPlan)
    (checkpoint : FrozenArtifact digest (MigrationCheckpoint digest))
    (transfer : FrozenArtifact digest TransferReceipt) (restoredExecutionGeneration : Int) :
    (∀ receipt, restoreDestination plan checkpoint transfer restoredExecutionGeneration =
        .ok receipt → RestoreBinding plan checkpoint transfer receipt) ↔
      transfer.body.complete = false ∨
        transfer.body.checkpointId ≠ checkpoint.body.checkpointId ∨
        restoredExecutionGeneration < 0 ∨ SameMigration plan checkpoint transfer := by
  constructor
  · intro bound
    by_contra unbound
    push Not at unbound
    obtain ⟨complete, sameCheckpoint, natural, foreign⟩ := unbound
    refine foreign (bound _ (restoreDestination_eq_ok_iff.mpr ⟨?_, sameCheckpoint, natural, rfl⟩))
    simpa using complete
  · intro condition receipt restored
    obtain ⟨complete, sameCheckpoint, natural, rfl⟩ := restoreDestination_eq_ok_iff.mp restored
    rcases condition with incomplete | otherCheckpoint | negative | same
    · simp [complete] at incomplete
    · exact absurd sameCheckpoint otherCheckpoint
    · omega
    · exact same

/-! ## One transfer, two plans -/

/-- The inputs of a checkpoint with a short digest. -/
def sampleInputs : CheckpointInputs where
  snapshotId := "snap1"
  sessionContextRef := "ctx"
  kvCacheRef := some "kv"
  verificationStateRef := some "verify"
  reasoningStateRef := "reason"
  speculationStateRef := "spec"
  schedulerStateRef := "sched"
  payloadDigest := "abc"
  checkpointGeneration := 1

/-- The transfer of one migration restores under the plan of another. -/
theorem restoreBinding_fails_for_foreign_plan :
    ∃ checkpoint transfer receipt,
      createCheckpoint (sampleRequest Digest.sha256 "m1") sampleInputs = .ok checkpoint ∧
        transferCheckpoint (samplePlan Digest.sha256 "m1" "b") checkpoint 123 "abc" =
          .ok transfer ∧
        restoreDestination (samplePlan Digest.sha256 "m2" "c") checkpoint transfer 8 =
          .ok receipt ∧
        ¬ RestoreBinding (samplePlan Digest.sha256 "m2" "c") checkpoint transfer receipt := by
  refine ⟨_, _, _, rfl, rfl, rfl, ?_⟩
  rintro ⟨samePlan, _⟩
  exact absurd samePlan (by decide)

end LiveMigration
end MercuryX
