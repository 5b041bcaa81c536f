import MercuryX.Intelligence.Signals

/-!
# Inference of a workload profile

The profile of a workload follows from its signals by fixed rules. Inference fails only where the
modality or the privacy of the workload cannot be read off its signals.
-/

namespace MercuryX
namespace Intelligence

open Foundation

/-- The modality of an explicit modality text. -/
def singleModalities (text : String) : Option WorkloadModality :=
  [WorkloadModality.text, .image, .audio, .video, .structuredData, .code].find? fun modality =>
    modality.value = text

theorem singleModalities_value {text : String} {modality : WorkloadModality}
    (found : singleModalities text = some modality) : modality.value = text := by
  simpa using List.find?_some found

/-- The modality of a workload: that of its only explicit modality, or multimodal. -/
def inferredModality (signals : WorkloadSignals) : Except Fault WorkloadModality :=
  match signals.explicitModalities with
  | [] => .error (.value "modality evidence is required")
  | [explicit] =>
      match singleModalities explicit with
      | some modality => .ok modality
      | none => .error (.value "modality evidence is not supported")
  | _ :: _ :: _ => .ok .multimodal

/-- The reasoning complexity of a workload. -/
def inferredReasoning (signals : WorkloadSignals) : ReasoningComplexity :=
  if affirmed signals.longContextRequested ∧ signals.hasTools ∧ signals.hasRetrieval then .deep
  else if affirmed signals.longContextRequested ∧ (signals.hasTools ∨ signals.hasRetrieval) then
    .high
  else if signals.hasTools ∧ signals.hasRetrieval then .moderate
  else if signals.hasTools ∨ signals.hasRetrieval ∨ affirmed signals.explicitContextSupplied then
    .low
  else .minimal

/-- The context requirement of a workload. -/
def inferredContext (signals : WorkloadSignals) : ContextRequirement :=
  if affirmed signals.longContextRequested then { magnitude := .long, requiresLongContext := true }
  else if affirmed signals.conversationContextPresent ∨ signals.hasRetrieval then
    { magnitude := .extended }
  else if affirmed signals.explicitContextSupplied then { magnitude := .standard }
  else { magnitude := .short }

/-- The latency sensitivity of a workload. -/
def inferredLatency (signals : WorkloadSignals) : LatencySensitivity :=
  match signals.latencyConstraint with
  | none => .batch
  | some constraint =>
      if constraint.value.atMost 250 then .realtime
      else if constraint.value.atMost 1000 then .interactive
      else if constraint.value.atMost 10000 then .relaxed
      else .batch

/-- The quality requirement of a workload. -/
def inferredQuality (signals : WorkloadSignals) : QualityRequirement :=
  match signals.qualityConstraint with
  | none => .standard
  | some constraint =>
      if constraint.value.atLeast 0.95 then .critical
      else if constraint.value.atLeast 0.80 then .high
      else .standard

/-- The privacy requirement of a workload. -/
def inferredPrivacy (signals : WorkloadSignals) : Except Fault PrivacyRequirement :=
  match signals.privacyConstraint with
  | none => .ok .restricted
  | some constraint =>
      match constraint.value with
      | .text text =>
          match PrivacyRequirement.ofValue text with
          | some privacy => .ok privacy
          | none => .error (.value "privacy constraint is not supported")
      | _ => .error (.value "privacy constraint must be an explicit privacy value")

/-- The capability that a modality needs by itself. -/
def modalityCapability : WorkloadModality → ComputationalCapability
  | .image | .video => .vision
  | .audio => .speech
  | .structuredData => .structuredOutput
  | .text | .code | .multimodal => .generation

/-- One capability, where a condition on the signals asks for it. -/
def capabilityIf (capability : ComputationalCapability) (condition : Prop) [Decidable condition] :
    List ComputationalCapability :=
  if condition then [capability] else []

@[simp] theorem mem_capabilityIf {capability other : ComputationalCapability} {condition : Prop}
    [Decidable condition] : other ∈ capabilityIf capability condition ↔
      other = capability ∧ condition := by
  unfold capabilityIf
  split <;> simp_all

/-- The capabilities of a workload. -/
def inferredCapabilities (signals : WorkloadSignals) (modality : WorkloadModality) :
    CapabilityTuple :=
  .of ComputationalCapability.value
    (modalityCapability modality ::
      (capabilityIf .vision (modality = .multimodal ∧
          (affirmed signals.imageInputPresent ∨ affirmed signals.videoInputPresent)) ++
        capabilityIf .speech (modality = .multimodal ∧ affirmed signals.audioInputPresent) ++
        capabilityIf .toolUse (signals.hasTools = true) ++
        capabilityIf .retrieval (signals.hasRetrieval = true) ++
        capabilityIf .structuredOutput (affirmed signals.structuredOutputRequired = true) ++
        capabilityIf .codeExecution ("code_execution" ∈ signals.declaredToolNames) ++
        capabilityIf .reasoning (inferredReasoning signals ≠ .minimal)))
    (by simp)

/-- What a signal group adds to the confidence when it is evidenced. -/
def scoreIf (score : ℚ) (condition : Prop) [Decidable condition] : ℚ :=
  if condition then score else 0

theorem scoreIf_nonneg {score : ℚ} (nonneg : 0 ≤ score) (condition : Prop) [Decidable condition] :
    0 ≤ scoreIf score condition := by
  unfold scoreIf
  split
  · exact nonneg
  · exact le_rfl

/-- The confidence in a profile, before its cut at one. -/
def confidenceScore (signals : WorkloadSignals) : ℚ :=
  0.20 + scoreIf 0.15 (signals.latencyConstraint ≠ none) +
    scoreIf 0.10 (signals.qualityConstraint ≠ none) +
    scoreIf 0.10 (signals.privacyConstraint ≠ none) +
    scoreIf 0.10 (affirmed signals.explicitContextSupplied = true) +
    scoreIf 0.10 (signals.hasTools = true) + scoreIf 0.10 (signals.hasRetrieval = true) +
    scoreIf 0.05 (signals.outputType.getD "" ≠ "" ∨ signals.structuredOutputRequired ≠ none)

/-- The confidence in a profile. -/
def inferredConfidence (signals : WorkloadSignals) : ℚ := min 1 (confidenceScore signals)

theorem inferredConfidence_bounds (signals : WorkloadSignals) :
    0 ≤ inferredConfidence signals ∧ inferredConfidence signals ≤ 1 := by
  refine ⟨le_min zero_le_one ?_, min_le_left _ _⟩
  unfold confidenceScore
  have latency := scoreIf_nonneg (by norm_num : (0 : ℚ) ≤ 0.15) (signals.latencyConstraint ≠ none)
  have quality := scoreIf_nonneg (by norm_num : (0 : ℚ) ≤ 0.10) (signals.qualityConstraint ≠ none)
  have privacy := scoreIf_nonneg (by norm_num : (0 : ℚ) ≤ 0.10) (signals.privacyConstraint ≠ none)
  have context := scoreIf_nonneg (by norm_num : (0 : ℚ) ≤ 0.10)
    (affirmed signals.explicitContextSupplied = true)
  have tools := scoreIf_nonneg (by norm_num : (0 : ℚ) ≤ 0.10) (signals.hasTools = true)
  have retrieval := scoreIf_nonneg (by norm_num : (0 : ℚ) ≤ 0.10) (signals.hasRetrieval = true)
  have output := scoreIf_nonneg (by norm_num : (0 : ℚ) ≤ 0.05)
    (signals.outputType.getD "" ≠ "" ∨ signals.structuredOutputRequired ≠ none)
  linarith

/-- The evidence behind every inferred profile. -/
def inferenceEvidence : List Evidence := [
  { source := "signals.content"
    reason := "explicit modality signals determine the workload modality" },
  { source := "signals.context"
    reason := "explicit context indicators determine the context requirement" },
  { source := "signals.tools"
    reason := "explicit tool indicators determine the tool requirement" },
  { source := "signals.latency_constraint"
    reason := "canonical latency constraint maps through the baseline threshold table" },
  { source := "signals.quality_constraint"
    reason := "canonical quality constraint maps through the baseline threshold table" },
  { source := "signals.privacy_constraint"
    reason := "canonical privacy constraint is preserved without reduction" },
  { source := "signals.output"
    reason := "explicit output indicators determine structured-output capability" },
  { source := "signals.capabilities"
    reason := "explicit modality, tool, output, and context signals determine capabilities" },
  { source := "signals.completeness"
    reason := "deterministic confidence reflects explicitly evidenced signal groups" },
  { source := "signals.reasoning"
    reason := "reasoning complexity uses only explicit context, retrieval, and tool signals" }]

/-- The tool requirement of a workload. -/
def inferredTools (signals : WorkloadSignals) : ToolRequirement :=
  if signals.hasTools ∨ affirmed signals.externalActionRequired then
    { externalExecutionRequired := true, requiredCapabilities := [.toolUse] }
  else { externalExecutionRequired := false }

/-- The profile with a given modality and privacy that follows from the signals. -/
def inferredProfile (signals : WorkloadSignals) (modality : WorkloadModality)
    (privacy : PrivacyRequirement) : WorkloadIntelligenceProfile where
  requestId := signals.requestId
  workloadId := signals.workloadId
  sessionId := signals.sessionId
  modalities := .of WorkloadModality.value [modality] (by simp)
  reasoningComplexity := inferredReasoning signals
  contextRequirement := inferredContext signals
  toolRequirements := inferredTools signals
  latencySensitivity := inferredLatency signals
  qualityRequirement := inferredQuality signals
  privacyRequirement := privacy
  requiredCapabilities := inferredCapabilities signals modality
  confidence := inferredConfidence signals
  evidence := .of Evidence.key inferenceEvidence (by simp [inferenceEvidence])
  identity_nonblank := signals.identity_nonblank
  confidence_bounds := inferredConfidence_bounds signals

/-- Infer the profile of a workload from its signals. -/
def inferWorkloadIntelligence (signals : WorkloadSignals) :
    Except Fault WorkloadIntelligenceProfile := do
  let modality ← inferredModality signals
  let privacy ← inferredPrivacy signals
  return inferredProfile signals modality privacy

theorem inferWorkloadIntelligence_eq_ok_iff {signals : WorkloadSignals}
    {profile : WorkloadIntelligenceProfile} :
    inferWorkloadIntelligence signals = .ok profile ↔
      ∃ modality privacy, inferredModality signals = .ok modality ∧
        inferredPrivacy signals = .ok privacy ∧
          inferredProfile signals modality privacy = profile := by
  simp only [inferWorkloadIntelligence, bind_eq_ok, pure_eq_ok, Except.ok.injEq, exists_and_left]

theorem inferredModality_eq_structuredData_iff {signals : WorkloadSignals} :
    inferredModality signals = .ok .structuredData ↔
      signals.explicitModalities = ["structured_data"] := by
  unfold inferredModality
  match signals.explicitModalities with
  | [] => simp
  | [text] =>
      rw [List.cons.injEq, and_iff_left rfl]
      cases found : singleModalities text with
      | none =>
          have unsupported : text ≠ "structured_data" := by
            rintro rfl
            exact absurd found (by decide)
          simp [found, unsupported]
      | some modality =>
          rw [← singleModalities_value found]
          cases modality <;> decide
  | first :: second :: rest => simp

end Intelligence
end MercuryX
