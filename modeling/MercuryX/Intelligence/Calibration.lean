import MercuryX.Intelligence.Inference

/-!
# Calibration of a profile

Calibration compares a profile with the signals it was drawn from. A profile that claims more than
its signals show fails with zero confidence; otherwise the confidence is cut by a ceiling that
drops with every field that was defaulted or derived.
-/

namespace MercuryX
namespace Intelligence

open Foundation

/-- The outcome of a calibration. -/
inductive CalibrationStatus where
  | pass
  | degraded
  | fail
  deriving DecidableEq, Repr

/-- How a field of a profile is supported. -/
inductive EvidenceStrength where
  | explicit
  | derived
  | defaulted
  deriving DecidableEq, Repr

/-- How grave a calibration decision is. -/
inductive CalibrationSeverity where
  | info
  | warning
  | error
  deriving DecidableEq, Repr

/-- One decision about a field of a profile. -/
structure CalibrationDecision where
  affectedField : String
  strength : EvidenceStrength
  severity : CalibrationSeverity
  reason : String
  deriving DecidableEq

/-- Decisions are ordered by field and reason. -/
def CalibrationDecision.key (decision : CalibrationDecision) : String ×ₗ String :=
  toLex (decision.affectedField, decision.reason)

/-- A profile with its calibration. -/
structure CalibratedWorkloadIntelligence where
  profile : WorkloadIntelligenceProfile
  calibratedConfidence : ℚ
  status : CalibrationStatus
  decisions : CanonicalTuple CalibrationDecision CalibrationDecision.key
  /-- Confidence is a proportion. -/
  confidence_bounds : 0 ≤ calibratedConfidence ∧ calibratedConfidence ≤ 1
  /-- A failed calibration has no confidence. -/
  fails_closed : status = .fail → calibratedConfidence = 0

/-- The evidence source that a calibrated profile must have for each of its fields. -/
def evidenceSources : List (String × String) := [
  ("modalities", "signals.content"), ("reasoning_complexity", "signals.reasoning"),
  ("context_requirement", "signals.context"), ("tool_requirements", "signals.tools"),
  ("latency_sensitivity", "signals.latency_constraint"),
  ("quality_requirement", "signals.quality_constraint"),
  ("privacy_requirement", "signals.privacy_constraint"),
  ("required_capabilities", "signals.capabilities")]

/-- The rank of a privacy text. -/
def privacyRank (text : String) : Option Nat :=
  ([("public", 0), ("internal", 1), ("confidential", 2), ("restricted", 3)].find? fun entry =>
    entry.1 = text).map Prod.snd

/-- The rank of a reasoning complexity. -/
def reasoningRank : ReasoningComplexity → Nat
  | .minimal => 0
  | .low => 1
  | .moderate => 2
  | .high => 3
  | .deep => 4

/-- The modality that the signals show. -/
def expectedModality (signals : WorkloadSignals) : Option WorkloadModality :=
  match signals.explicitModalities with
  | [] => none
  | [explicit] => singleModalities explicit
  | _ :: _ :: _ => some .multimodal

/-- The reasoning complexity that the signals support. -/
def expectedReasoning (signals : WorkloadSignals) : ReasoningComplexity :=
  let tools := signals.hasTools
  let retrieval := signals.hasRetrieval
  if affirmed signals.longContextRequested ∧ tools ∧ retrieval then .deep
  else if affirmed signals.longContextRequested ∧ (tools ∨ retrieval) then .high
  else if tools ∧ retrieval then .moderate
  else if tools ∨ retrieval ∨ affirmed signals.explicitContextSupplied then .low
  else .minimal

/-- A strength where a condition holds, and a default elsewhere. -/
def strengthIf (strength : EvidenceStrength) (condition : Prop) [Decidable condition] :
    EvidenceStrength :=
  if condition then strength else .defaulted

/-- How the signals support each field of a profile. -/
def strengths (signals : WorkloadSignals) : List (String × EvidenceStrength) := [
  ("modalities", strengthIf .explicit (signals.explicitModalities ≠ [])),
  ("reasoning_complexity", strengthIf .derived (expectedReasoning signals ≠ .minimal)),
  ("context_requirement",
    strengthIf .explicit (affirmed signals.explicitContextSupplied = true)),
  ("tool_requirements", strengthIf .explicit
    (signals.hasTools = true ∨ affirmed signals.externalActionRequired = true)),
  ("latency_sensitivity", strengthIf .explicit (signals.latencyConstraint ≠ none)),
  ("quality_requirement", strengthIf .explicit (signals.qualityConstraint ≠ none)),
  ("privacy_requirement", strengthIf .explicit (signals.privacyConstraint ≠ none)),
  ("required_capabilities", .derived)]

/-- The evidence of a profile names a source for every field. -/
def profileEvidenceIsValid (profile : WorkloadIntelligenceProfile) : Prop :=
  ∀ entry ∈ evidenceSources, entry.2 ∈ profile.evidence.items.map Evidence.source

instance (profile : WorkloadIntelligenceProfile) : Decidable (profileEvidenceIsValid profile) :=
  inferInstanceAs (Decidable (∀ _ ∈ _, _))

/-- A failure of a field, where a condition holds. -/
def failureIf (field reason : String) (condition : Prop) [Decidable condition] :
    List (String × String) :=
  if condition then [(field, reason)] else []

@[simp] theorem failureIf_eq_nil {field reason : String} {condition : Prop}
    [Decidable condition] : failureIf field reason condition = [] ↔ ¬ condition := by
  simp [failureIf]

/-- Where the modality of a profile contradicts the signals. -/
def modalityFailures (signals : WorkloadSignals) (profile : WorkloadIntelligenceProfile) :
    List (String × String) :=
  match expectedModality signals with
  | none => [("modalities", "signals do not provide explicit modality evidence")]
  | some modality => failureIf "modalities" "profile modality contradicts explicit content signals"
      (profile.modalities.items ≠ [modality])

/-- Where the privacy of a profile falls short of the signals. -/
def privacyFailures (signals : WorkloadSignals) (profile : WorkloadIntelligenceProfile) :
    List (String × String) :=
  match signals.privacyConstraint with
  | none => []
  | some constraint =>
      match constraint.value with
      | .text text =>
          match privacyRank text with
          | none => [("privacy_requirement", "explicit privacy signal is unsupported")]
          | some signalRank => failureIf "privacy_requirement"
              "profile privacy is downgraded below explicit privacy evidence"
              ((privacyRank profile.privacyRequirement.value).getD 0 < signalRank)
      | _ => []

/-- The fields in which a profile is not supported by its signals, with the reasons. -/
def calibrationFailures (signals : WorkloadSignals) (profile : WorkloadIntelligenceProfile) :
    List (String × String) :=
  let capabilities := profile.requiredCapabilities.items
  failureIf "identity" "signals and profile identities do not match"
      ((signals.requestId, signals.workloadId, signals.sessionId) ≠
        (profile.requestId, profile.workloadId, profile.sessionId)) ++
    failureIf "evidence" "profile evidence is missing, blank, or incomplete"
      (¬ profileEvidenceIsValid profile) ++
    modalityFailures signals profile ++
    failureIf "tool_requirements" "tool capability is unsupported by explicit tool signals"
      (¬ (signals.hasTools = true ∨ affirmed signals.externalActionRequired = true) ∧
        (profile.toolRequirements.externalExecutionRequired = true ∨
          ComputationalCapability.toolUse ∈ capabilities)) ++
    failureIf "required_capabilities" "retrieval capability lacks explicit retrieval evidence"
      (¬ signals.hasRetrieval = true ∧ ComputationalCapability.retrieval ∈ capabilities) ++
    failureIf "required_capabilities" "structured-output capability lacks explicit output evidence"
      (¬ affirmed signals.structuredOutputRequired = true ∧
        ¬ affirmed signals.structuredDataPresent = true ∧
        ComputationalCapability.structuredOutput ∈ capabilities) ++
    failureIf "required_capabilities" "vision capability lacks explicit visual evidence"
      (¬ (affirmed signals.imageInputPresent = true ∨ affirmed signals.videoInputPresent = true) ∧
        ComputationalCapability.vision ∈ capabilities) ++
    failureIf "required_capabilities" "speech capability lacks explicit audio evidence"
      (¬ affirmed signals.audioInputPresent = true ∧
        ComputationalCapability.speech ∈ capabilities) ++
    failureIf "required_capabilities"
      "code-execution capability lacks explicit code-execution evidence"
      ("code_execution" ∉ signals.declaredToolNames ∧
        ComputationalCapability.codeExecution ∈ capabilities) ++
    failureIf "latency_sensitivity" "realtime sensitivity lacks explicit latency evidence"
      (signals.latencyConstraint = none ∧ profile.latencySensitivity = .realtime) ++
    failureIf "quality_requirement" "critical quality lacks explicit quality evidence"
      (signals.qualityConstraint = none ∧ profile.qualityRequirement = .critical) ++
    privacyFailures signals profile ++
    failureIf "reasoning_complexity" "profile reasoning complexity exceeds explicit signal support"
      (reasoningRank (expectedReasoning signals) < reasoningRank profile.reasoningComplexity)

/-- The decision about a field that did not fail. -/
def strengthDecision (entry : String × EvidenceStrength) : CalibrationDecision :=
  if entry.2 = .defaulted then
    ⟨entry.1, entry.2, .warning,
      "field is conservatively defaulted because explicit signal evidence is absent"⟩
  else
    ⟨entry.1, entry.2, .info,
      "field is supported by deterministic explicit or derived signal evidence"⟩

/-- The decision about a failure. -/
def failureDecision (failure : String × String) : CalibrationDecision :=
  ⟨failure.1, .defaulted, .error, failure.2⟩

/-- The decisions about a profile. -/
def calibrationDecisions (signals : WorkloadSignals) (profile : WorkloadIntelligenceProfile) :
    CanonicalTuple CalibrationDecision CalibrationDecision.key :=
  .of CalibrationDecision.key
    ((strengths signals).map strengthDecision ++
      (calibrationFailures signals profile).map failureDecision)
    (by simp [strengths])

/-- The number of fields with a given strength. -/
def strengthCount (signals : WorkloadSignals) (strength : EvidenceStrength) : Nat :=
  (strengths signals).countP fun entry => entry.2 = strength

/-- The most confidence that the strengths of the signals allow. -/
def confidenceCeiling (signals : WorkloadSignals) : ℚ :=
  max 0 (1 - strengthCount signals .defaulted * 0.10 - strengthCount signals .derived * 0.03)

theorem confidenceCeiling_nonneg (signals : WorkloadSignals) : 0 ≤ confidenceCeiling signals :=
  le_max_left _ _

/-- Calibrate a profile against its signals. -/
def calibrateWorkloadIntelligence (signals : WorkloadSignals)
    (profile : WorkloadIntelligenceProfile) : CalibratedWorkloadIntelligence :=
  if calibrationFailures signals profile ≠ [] then
    { profile := profile
      calibratedConfidence := 0
      status := .fail
      decisions := calibrationDecisions signals profile
      confidence_bounds := ⟨le_rfl, zero_le_one⟩
      fails_closed := fun _ => rfl }
  else
    { profile := profile
      calibratedConfidence := min profile.confidence (confidenceCeiling signals)
      status := if strengthCount signals .defaulted ≠ 0 then .degraded else .pass
      decisions := calibrationDecisions signals profile
      confidence_bounds := ⟨le_min profile.confidence_bounds.1 (confidenceCeiling_nonneg signals),
        (min_le_left _ _).trans profile.confidence_bounds.2⟩
      fails_closed := fun failed => by split at failed <;> contradiction }

@[simp] theorem calibrateWorkloadIntelligence_profile (signals : WorkloadSignals)
    (profile : WorkloadIntelligenceProfile) :
    (calibrateWorkloadIntelligence signals profile).profile = profile := by
  unfold calibrateWorkloadIntelligence
  split <;> rfl

theorem calibrate_status_eq_fail_iff {signals : WorkloadSignals}
    {profile : WorkloadIntelligenceProfile} :
    (calibrateWorkloadIntelligence signals profile).status = .fail ↔
      calibrationFailures signals profile ≠ [] := by
  unfold calibrateWorkloadIntelligence
  split
  · simpa
  · next supported =>
      simp only [supported, iff_false]
      split <;> simp

end Intelligence
end MercuryX
