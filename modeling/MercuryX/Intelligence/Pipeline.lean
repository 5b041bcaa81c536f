import MercuryX.Intelligence.Calibration

/-!
# Pipeline results

What the intelligence pipeline hands on: the signals, the profile drawn from them and its
calibration, all of one request, with a status that is that of the calibration.
-/

namespace MercuryX
namespace Intelligence

open Foundation

/-- The outcome of the pipeline. -/
inductive PipelineStatus where
  | pass
  | degraded
  | fail
  deriving DecidableEq, Repr

/-- The pipeline status of a calibration status. -/
def PipelineStatus.ofCalibration : CalibrationStatus → PipelineStatus
  | .pass => .pass
  | .degraded => .degraded
  | .fail => .fail

theorem PipelineStatus.ofCalibration_eq_fail_iff {status : CalibrationStatus} :
    ofCalibration status = fail ↔ status = .fail := by
  cases status <;> decide

/-- What one stage of the pipeline did. -/
structure PipelineProvenance where
  stage : String
  status : PipelineStatus
  reason : String
  /-- The stage is nonblank. -/
  stage_nonblank : Text.Nonblank stage := by exact Text.nonblank_literal rfl
  /-- The reason is nonblank. -/
  reason_nonblank : Text.Nonblank reason := by exact Text.nonblank_literal rfl

instance : DecidableEq PipelineProvenance := fun left right =>
  decidable_of_iff (left.stage = right.stage ∧ left.status = right.status ∧
      left.reason = right.reason) (by
    cases left
    cases right
    simp)

/-- Provenance is ordered by stage and reason. -/
def PipelineProvenance.key (provenance : PipelineProvenance) : String ×ₗ String :=
  toLex (provenance.stage, provenance.reason)

/-- The identity of signals: their request, workload and session. -/
def WorkloadSignals.identity (signals : WorkloadSignals) : String × String × String :=
  (signals.requestId, signals.workloadId, signals.sessionId)

/-- The identity of a profile: its request, workload and session. -/
def WorkloadIntelligenceProfile.identity (profile : WorkloadIntelligenceProfile) :
    String × String × String :=
  (profile.requestId, profile.workloadId, profile.sessionId)

/-- The result of the pipeline for one request. -/
structure WorkloadIntelligencePipelineResult where
  requestId : String
  workloadId : String
  sessionId : String
  signals : Option WorkloadSignals
  profile : Option WorkloadIntelligenceProfile
  calibration : Option CalibratedWorkloadIntelligence
  status : PipelineStatus
  provenance : CanonicalTuple PipelineProvenance PipelineProvenance.key
  /-- Identity fields are nonblank. -/
  identity_nonblank : ∀ text ∈ [requestId, workloadId, sessionId], Text.Nonblank text
  /-- The signals are of the request. -/
  signals_identity : ∀ stage, signals = some stage →
    stage.identity = (requestId, workloadId, sessionId)
  /-- The profile is of the request. -/
  profile_identity : ∀ stage, profile = some stage →
    stage.identity = (requestId, workloadId, sessionId)
  /-- The calibration is of the profile. -/
  calibration_profile : ∀ stage, calibration = some stage → profile = some stage.profile
  /-- A result that did not fail has every stage. -/
  complete : status ≠ .fail → signals.isSome ∧ profile.isSome ∧ calibration.isSome
  /-- The status is that of the calibration. -/
  status_eq : ∀ stage, calibration = some stage → status = .ofCalibration stage.status

/-- The provenance of a result with every stage. -/
def stageProvenance (status : PipelineStatus) : List PipelineProvenance := [
  { stage := "signal_extraction", status := .pass
    reason := "explicit request signals were extracted" },
  { stage := "inference", status := .pass
    reason := "intelligence profile was inferred from signals" },
  { stage := "calibration", status := status
    reason := "confidence and evidence were calibrated" }]

/-- The result of three stages of one request. -/
def fromStages (signals : WorkloadSignals) (profile : WorkloadIntelligenceProfile)
    (calibration : CalibratedWorkloadIntelligence) :
    Except Fault WorkloadIntelligencePipelineResult :=
  if sameRequest : profile.identity = signals.identity then
    if calibration.profile.identity = signals.identity then
      if preserved : profile = calibration.profile then
        .ok
          { requestId := signals.requestId
            workloadId := signals.workloadId
            sessionId := signals.sessionId
            signals := some signals
            profile := some profile
            calibration := some calibration
            status := .ofCalibration calibration.status
            provenance := .of PipelineProvenance.key
              (stageProvenance (.ofCalibration calibration.status)) (by simp [stageProvenance])
            identity_nonblank := signals.identity_nonblank
            signals_identity := fun stage given => Option.some_inj.mp given ▸ rfl
            profile_identity := fun stage given => Option.some_inj.mp given ▸ sameRequest
            calibration_profile := fun stage given => by
              rw [← Option.some_inj.mp given, preserved]
            complete := fun _ => ⟨rfl, rfl, rfl⟩
            status_eq := fun stage given => Option.some_inj.mp given ▸ rfl }
      else .error (.value "calibration must preserve the pipeline profile")
    else .error (.value "calibration identity does not match result identity")
  else .error (.value "pipeline stage identity does not match result identity")

theorem fromStages_eq_ok {signals : WorkloadSignals} {profile : WorkloadIntelligenceProfile}
    {calibration : CalibratedWorkloadIntelligence} {result : WorkloadIntelligencePipelineResult}
    (built : fromStages signals profile calibration = .ok result) :
    result.signals = some signals ∧ result.profile = some profile ∧
      result.calibration = some calibration ∧
        result.status = .ofCalibration calibration.status := by
  unfold fromStages at built
  split at built
  · split at built
    · split at built
      · obtain rfl := Except.ok.inj built
        exact ⟨rfl, rfl, rfl, rfl⟩
      · contradiction
    · contradiction
  · contradiction

/-- Signals, inference and calibration, for signals that were extracted. -/
def analyzeSignals (signals : WorkloadSignals) :
    Except Fault WorkloadIntelligencePipelineResult := do
  let profile ← inferWorkloadIntelligence signals
  fromStages signals profile (calibrateWorkloadIntelligence signals profile)

/-- Inference and calibration of one set of signals always make a result. -/
theorem exists_fromStages {signals : WorkloadSignals} {profile : WorkloadIntelligenceProfile}
    (inferred : inferWorkloadIntelligence signals = .ok profile) :
    ∃ result, fromStages signals profile (calibrateWorkloadIntelligence signals profile) =
      .ok result := by
  obtain ⟨modality, privacy, _, _, rfl⟩ := inferWorkloadIntelligence_eq_ok_iff.mp inferred
  have sameRequest : (inferredProfile signals modality privacy).identity = signals.identity := rfl
  simp [fromStages, sameRequest]

end Intelligence
end MercuryX
