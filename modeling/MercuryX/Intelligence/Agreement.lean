import MercuryX.Intelligence.Calibration
import MercuryX.Intelligence.Extraction

/-!
# Agreement of gateway and intelligence

What the gateway hands on, the intelligence stages take: extraction refuses canonical constraints
only when they are ambiguous, and inference and calibration agree on every set of signals whose
explicit modalities are shown by the input.
-/

namespace MercuryX
namespace Intelligence

open Foundation
open Gateway (CanonicalConstraint ConstraintFields ConstraintKind ConstraintNormalizationResult
  GatewayIdentity NormalizationIssue NormalizationResult Payload WorkloadRequest
  canonicalizeGatewayConstraints modestRequest)

/-! ## Inference and calibration -/

/-- The explicit modalities that need an input of their own are shown by one. -/
structure WorkloadSignals.Coherent (signals : WorkloadSignals) : Prop where
  /-- Images are shown. -/
  image : "image" ∈ signals.explicitModalities → affirmed signals.imageInputPresent = true
  /-- Videos are shown. -/
  video : "video" ∈ signals.explicitModalities → affirmed signals.videoInputPresent = true
  /-- Audio is shown. -/
  audio : "audio" ∈ signals.explicitModalities → affirmed signals.audioInputPresent = true
  /-- Structured data is shown. -/
  structuredData : "structured_data" ∈ signals.explicitModalities →
    affirmed signals.structuredDataPresent = true

section Inferred

variable {signals : WorkloadSignals} {modality : WorkloadModality} {privacy : PrivacyRequirement}

theorem expectedModality_of_inferred (inferred : inferredModality signals = .ok modality) :
    expectedModality signals = some modality := by
  unfold inferredModality at inferred
  unfold expectedModality
  match explicit : signals.explicitModalities with
  | [] => simp [explicit] at inferred
  | [text] =>
      rw [explicit] at inferred
      cases found : singleModalities text with
      | none => simp [found] at inferred
      | some single => simpa [found] using inferred
  | first :: second :: rest => simpa [explicit] using inferred

theorem explicitModalities_of_inferred (inferred : inferredModality signals = .ok modality)
    (single : modality ≠ .multimodal) : signals.explicitModalities = [modality.value] := by
  unfold inferredModality at inferred
  match explicit : signals.explicitModalities with
  | [] => simp [explicit] at inferred
  | [text] =>
      rw [explicit] at inferred
      cases found : singleModalities text with
      | none => simp [found] at inferred
      | some other =>
          obtain rfl : other = modality := by simpa [found] using inferred
          rw [singleModalities_value found]
  | first :: second :: rest =>
      rw [explicit] at inferred
      exact absurd (Except.ok.inj inferred).symm single

theorem exists_inferredModality (explicit : signals.explicitModalities ≠ [])
    (known : ∀ text ∈ signals.explicitModalities,
      ∃ single, singleModalities text = some single) :
    ∃ modality, inferredModality signals = .ok modality := by
  unfold inferredModality
  match listed : signals.explicitModalities with
  | [] => exact absurd listed explicit
  | [text] =>
      obtain ⟨single, found⟩ := known text (by simp [listed])
      exact ⟨single, by simp only [found]⟩
  | first :: second :: rest => exact ⟨.multimodal, rfl⟩

theorem privacyFailures_inferred (inferred : inferredPrivacy signals = .ok privacy) :
    privacyFailures signals (inferredProfile signals modality privacy) = [] := by
  unfold inferredPrivacy at inferred
  unfold privacyFailures
  cases constrained : signals.privacyConstraint with
  | none => rfl
  | some constraint =>
      simp only [constrained] at inferred
      simp only
      cases value : constraint.value with
      | text text =>
          simp only [value] at inferred
          cases found : PrivacyRequirement.ofValue text with
          | none => simp [found] at inferred
          | some other =>
              obtain rfl : other = privacy := by simpa [found] using inferred
              obtain rfl : other.value = text := by simpa using List.find?_some found
              cases other <;> rfl
      | number | notANumber | infinite => rfl

theorem mem_inferredCapabilities {capability : ComputationalCapability} :
    capability ∈ (inferredCapabilities signals modality).items ↔
      capability = modalityCapability modality ∨
      (capability = .vision ∧ modality = .multimodal ∧
        (affirmed signals.imageInputPresent = true ∨
          affirmed signals.videoInputPresent = true)) ∨
      (capability = .speech ∧ modality = .multimodal ∧
        affirmed signals.audioInputPresent = true) ∨
      (capability = .toolUse ∧ signals.hasTools = true) ∨
      (capability = .retrieval ∧ signals.hasRetrieval = true) ∨
      (capability = .structuredOutput ∧ affirmed signals.structuredOutputRequired = true) ∨
      (capability = .codeExecution ∧ "code_execution" ∈ signals.declaredToolNames) ∨
      (capability = .reasoning ∧ inferredReasoning signals ≠ .minimal) := by
  simp only [inferredCapabilities, CanonicalTuple.mem_of, List.mem_cons, List.mem_append,
    mem_capabilityIf, or_assoc]

theorem toolUse_mem_inferred : .toolUse ∈ (inferredCapabilities signals modality).items ↔
    signals.hasTools = true := by
  have other : ComputationalCapability.toolUse ≠ modalityCapability modality := by
    cases modality <;> decide
  simp [mem_inferredCapabilities, other]

theorem retrieval_mem_inferred : .retrieval ∈ (inferredCapabilities signals modality).items ↔
    signals.hasRetrieval = true := by
  have other : ComputationalCapability.retrieval ≠ modalityCapability modality := by
    cases modality <;> decide
  simp [mem_inferredCapabilities, other]

theorem codeExecution_mem_inferred :
    .codeExecution ∈ (inferredCapabilities signals modality).items ↔
      "code_execution" ∈ signals.declaredToolNames := by
  have other : ComputationalCapability.codeExecution ≠ modalityCapability modality := by
    cases modality <;> decide
  simp [mem_inferredCapabilities, other]

theorem structuredOutput_mem_inferred :
    .structuredOutput ∈ (inferredCapabilities signals modality).items ↔
      modality = .structuredData ∨ affirmed signals.structuredOutputRequired = true := by
  have own : .structuredOutput = modalityCapability modality ↔ modality = .structuredData := by
    cases modality <;> decide
  simp [mem_inferredCapabilities, own]

theorem vision_mem_inferred : .vision ∈ (inferredCapabilities signals modality).items ↔
    (modality = .image ∨ modality = .video) ∨ modality = .multimodal ∧
      (affirmed signals.imageInputPresent = true ∨
        affirmed signals.videoInputPresent = true) := by
  have own : .vision = modalityCapability modality ↔ modality = .image ∨ modality = .video := by
    cases modality <;> decide
  simp [mem_inferredCapabilities, own]

theorem speech_mem_inferred : .speech ∈ (inferredCapabilities signals modality).items ↔
    modality = .audio ∨ modality = .multimodal ∧ affirmed signals.audioInputPresent = true := by
  have own : .speech = modalityCapability modality ↔ modality = .audio := by
    cases modality <;> decide
  simp [mem_inferredCapabilities, own]

theorem mem_inferredEvidence {evidence : Evidence} :
    evidence ∈ (inferredProfile signals modality privacy).evidence.items ↔
      evidence ∈ inferenceEvidence :=
  mem_canonical Evidence.key

theorem profileEvidenceIsValid_inferred :
    profileEvidenceIsValid (inferredProfile signals modality privacy) := by
  have sources : ∀ entry ∈ evidenceSources, entry.2 ∈ inferenceEvidence.map Evidence.source := by
    decide
  intro entry member
  obtain ⟨evidence, inside, same⟩ := List.mem_map.mp (sources entry member)
  exact List.mem_map.mpr ⟨evidence, mem_inferredEvidence.mpr inside, same⟩

theorem tools_of_inferred
    (asks : (inferredTools signals).externalExecutionRequired = true ∨
      ComputationalCapability.toolUse ∈ (inferredCapabilities signals modality).items) :
    signals.hasTools = true ∨ affirmed signals.externalActionRequired = true := by
  rcases asks with external | capability
  · by_contra missing
    simp [inferredTools, missing] at external
  · exact .inl (toolUse_mem_inferred.mp capability)

theorem calibrationFailures_inferred (coherent : signals.Coherent)
    (modalityInferred : inferredModality signals = .ok modality)
    (privacyInferred : inferredPrivacy signals = .ok privacy) :
    calibrationFailures signals (inferredProfile signals modality privacy) = [] := by
  have single := explicitModalities_of_inferred modalityInferred
  simp only [calibrationFailures, List.append_eq_nil_iff, failureIf_eq_nil]
  refine ⟨⟨⟨⟨⟨⟨⟨⟨⟨⟨⟨⟨?identity, ?evidence⟩, ?modality⟩, ?tools⟩, ?retrieval⟩, ?structured⟩,
    ?vision⟩, ?speech⟩, ?code⟩, ?latency⟩, ?quality⟩, ?privacy⟩, ?reasoning⟩
  case identity => simp [inferredProfile]
  case evidence => exact not_not.mpr profileEvidenceIsValid_inferred
  case modality =>
    rw [modalityFailures, expectedModality_of_inferred modalityInferred, failureIf_eq_nil, not_not]
    rfl
  case tools =>
    rintro ⟨missing, asks⟩
    exact missing (tools_of_inferred asks)
  case retrieval =>
    rintro ⟨missing, capability⟩
    exact missing (retrieval_mem_inferred.mp capability)
  case structured =>
    rintro ⟨noOutput, noData, capability⟩
    rcases structuredOutput_mem_inferred.mp capability with rfl | output
    · exact noData (coherent.structuredData (by simp [single, WorkloadModality.value]))
    · exact noOutput output
  case vision =>
    rintro ⟨missing, capability⟩
    rcases vision_mem_inferred.mp capability with (rfl | rfl) | ⟨_, shown⟩
    · exact missing (.inl (coherent.image (by simp [single, WorkloadModality.value])))
    · exact missing (.inr (coherent.video (by simp [single, WorkloadModality.value])))
    · exact missing shown
  case speech =>
    rintro ⟨missing, capability⟩
    rcases speech_mem_inferred.mp capability with rfl | ⟨_, shown⟩
    · exact missing (coherent.audio (by simp [single, WorkloadModality.value]))
    · exact missing shown
  case code =>
    rintro ⟨undeclared, capability⟩
    exact undeclared (codeExecution_mem_inferred.mp capability)
  case latency =>
    rintro ⟨missing, realtime⟩
    simp [inferredProfile, inferredLatency, missing] at realtime
  case quality =>
    rintro ⟨missing, critical⟩
    simp [inferredProfile, inferredQuality, missing] at critical
  case privacy => exact privacyFailures_inferred privacyInferred
  case reasoning =>
    rw [not_lt]
    exact le_rfl

end Inferred

/-! ## What a request supplies -/

/-- The request shows a modality, by its input or by its task. -/
def SuppliesModality (request : WorkloadRequest) : Prop :=
  (∃ entry ∈ modalityKeys, supplied request.input entry.1 = true) ∨ request.taskType = "code"

/-- The privacy level of a request is recognized. -/
def RecognizedPrivacy (request : WorkloadRequest) : Prop :=
  ∃ privacy, PrivacyRequirement.ofValue request.privacyLevel = some privacy

/-- Any two candidates of one kind that is a signal mean the same. -/
def Unambiguous (request : WorkloadRequest) (additional : List CanonicalConstraint) : Prop :=
  ∀ left ∈ Gateway.candidateFields request additional,
    ∀ right ∈ Gateway.candidateFields request additional,
      left.kind ∈ constraintKinds → left.kind = right.kind → left.semanticKey = right.semanticKey

section Request

variable {request : WorkloadRequest} {modality : String}

/-- Every explicit modality is one that can stand alone, and has nothing to strip. -/
theorem explicit_known (explicit : modality ∈ explicitModalities request) :
    Text.Trimmed modality ∧ ∃ single, singleModalities modality = some single := by
  have known : ∀ entry ∈ modalityKeys,
      Text.Trimmed entry.2 ∧ (singleModalities entry.2).isSome = true := by
    decide
  rcases mem_explicitModalities.mp explicit with ⟨key, listed, _⟩ | ⟨_, rfl⟩
  · exact ⟨(known _ listed).1, Option.isSome_iff_exists.mp (known _ listed).2⟩
  · exact ⟨by decide, .code, by decide⟩

theorem mem_stringValues_explicitModalities :
    modality ∈ stringValues (explicitModalities request) ↔
      modality ∈ explicitModalities request := by
  rw [mem_stringValues]
  constructor
  · rintro ⟨value, explicit, _, rfl⟩
    rwa [(explicit_known explicit).1.strip_eq]
  · intro explicit
    have trimmed := (explicit_known explicit).1
    exact ⟨modality, explicit, trimmed.nonblank, trimmed.strip_eq⟩

theorem modalityPresence_of_explicit (explicit : modality ∈ explicitModalities request) :
    modalityPresence request modality = some true := by
  unfold modalityPresence
  dsimp only
  split
  · rfl
  · next notCode =>
      rcases mem_explicitModalities.mp explicit with ⟨key, listed, given⟩ | ⟨code, same⟩
      · have inKeys : key ∈ (modalityKeys.filter fun entry => entry.2 = modality).map Prod.fst :=
          List.mem_map.mpr ⟨(key, modality), List.mem_filter.mpr ⟨listed, by simp⟩, rfl⟩
        have present := List.any_eq_true.mpr ⟨key, inKeys, hasKey_of_supplied given⟩
        have shown := List.any_eq_true.mpr ⟨key, inKeys, given⟩
        rw [present, if_neg (by simp), shown]
      · exact absurd ⟨same, code⟩ notCode

theorem explicitModalities_ne_nil (supplies : SuppliesModality request) :
    explicitModalities request ≠ [] := by
  rcases supplies with ⟨entry, listed, given⟩ | code
  · exact List.ne_nil_of_mem (mem_explicitModalities.mpr (.inl ⟨entry.1, listed, given⟩))
  · exact List.ne_nil_of_mem (mem_explicitModalities.mpr (.inr ⟨code, rfl⟩))

end Request

section Extracted

variable {normalization : NormalizationResult} {request : WorkloadRequest}
  {constraints : ConstraintSignals} {evidence : List SignalEvidence} {present : evidence ≠ []}

theorem coherent_signalsOf :
    (signalsOf normalization request constraints evidence present).Coherent := by
  have shown (modality : String)
      (explicit : modality ∈ stringValues (explicitModalities request)) :
      affirmed (modalityPresence request modality) = true := by
    rw [modalityPresence_of_explicit (mem_stringValues_explicitModalities.mp explicit)]
    rfl
  exact ⟨shown "image", shown "video", shown "audio", shown "structured_data"⟩

theorem inferredModality_signalsOf (supplies : SuppliesModality request) :
    ∃ modality, inferredModality
      (signalsOf normalization request constraints evidence present) = .ok modality := by
  refine exists_inferredModality ?_ fun text listed =>
    (explicit_known (mem_stringValues_explicitModalities.mp listed)).2
  obtain ⟨modality, explicit⟩ := List.exists_mem_of_ne_nil _ (explicitModalities_ne_nil supplies)
  exact List.ne_nil_of_mem (mem_stringValues_explicitModalities.mpr explicit)

theorem inferredPrivacy_signalsOf {constraint : CanonicalConstraint} {level : String}
    {privacy : PrivacyRequirement} (head : constraints.privacy = some constraint)
    (value : constraint.value = .text level)
    (recognized : PrivacyRequirement.ofValue level = some privacy) :
    inferredPrivacy (signalsOf normalization request constraints evidence present) =
      .ok privacy := by
  simp only [inferredPrivacy, signalsOf, head, value, recognized]

end Extracted

/-! ## Agreement -/

/-- What the intelligence stages make of a normalized request with canonical constraints. -/
structure AgreementLaw (normalization : NormalizationResult) (request : WorkloadRequest)
    (additional : List CanonicalConstraint) (result : ConstraintNormalizationResult) : Prop where
  /-- Extraction succeeds exactly when the constraints are unambiguous. -/
  extracted_iff : (∃ signals, extractWorkloadSignals normalization result = .ok signals) ↔
    Unambiguous request additional
  /-- Extraction fails only for ambiguous constraints, and says so. -/
  refused : ∀ fault, extractWorkloadSignals normalization result = .error fault →
    ∃ kind ∈ constraintKinds, fault = ambiguous kind
  /-- A profile is inferred from what was extracted, and its calibration does not fail. -/
  profiled : SuppliesModality request → RecognizedPrivacy request →
    ∀ signals, extractWorkloadSignals normalization result = .ok signals →
      ∃ profile, inferWorkloadIntelligence signals = .ok profile ∧
        (calibrateWorkloadIntelligence signals profile).status ≠ .fail

section Law

variable {normalization : NormalizationResult} {request : WorkloadRequest}
  {identity : GatewayIdentity} {additional : List CanonicalConstraint}
  {result : ConstraintNormalizationResult}

theorem unambiguous_iff
    (returned : canonicalizeGatewayConstraints identity request additional = .ok result)
    (canonical : result.canonicalized = true) :
    (∀ kind ∈ constraintKinds, (ofKind (signalConstraints result) kind).length ≤ 1) ↔
      Unambiguous request additional := by
  constructor
  · intro few left leftMember right rightMember signal same
    have single := few left.kind signal
    rw [ofKind_signalConstraints signal, ofKind,
      Gateway.at_most_one_of_kind_iff returned canonical] at single
    exact single left leftMember right rightMember rfl same.symm
  · intro unambiguous kind signal
    rw [ofKind_signalConstraints signal, ofKind,
      Gateway.at_most_one_of_kind_iff returned canonical]
    intro left leftMember right rightMember leftKind rightKind
    exact unambiguous left leftMember right rightMember (leftKind ▸ signal)
      (leftKind.trans rightKind.symm)

theorem privacyConstraint_eq
    (returned : canonicalizeGatewayConstraints identity request additional = .ok result)
    (canonical : result.canonicalized = true)
    (few : (ofKind (signalConstraints result) .privacy).length ≤ 1) :
    ∃ constraint, (ofKind (signalConstraints result) .privacy).head? = some constraint ∧
      constraint.value = .text request.privacyLevel := by
  have candidate : (⟨s!"{request.workloadId}:privacy", .privacy, "equals",
      .text request.privacyLevel, none, true, "privacy_level"⟩ : ConstraintFields) ∈
        Gateway.candidateFields request additional :=
    List.mem_append_left _ (List.mem_append_left _ (List.mem_append_left _ (by simp)))
  obtain ⟨constraint, kept, meaning⟩ := Gateway.exists_kept returned canonical candidate
  have kind : constraint.kind = .privacy := congrArg Prod.fst meaning
  have value : constraint.value = .text request.privacyLevel :=
    congrArg (fun key => key.2.2.1) meaning
  have member : constraint ∈ ofKind (signalConstraints result) .privacy := by
    rw [ofKind_signalConstraints (by decide)]
    exact List.mem_filter.mpr ⟨kept, decide_eq_true kind⟩
  match listed : ofKind (signalConstraints result) .privacy with
  | [] => simp [listed] at member
  | [only] =>
      obtain rfl : constraint = only := by simpa [listed] using member
      exact ⟨constraint, rfl, value⟩
  | first :: second :: rest => simp [listed] at few

theorem result_identity (same : normalization.identity = identity.identity)
    (returned : canonicalizeGatewayConstraints identity request additional = .ok result) :
    result.identity = normalization.identity := by
  obtain ⟨_, _, rfl⟩ := Gateway.exists_merged returned
  exact same.symm

theorem exists_extracted_iff (given : normalization.normalizedRequest = some request)
    (same : normalization.identity = identity.identity)
    (returned : canonicalizeGatewayConstraints identity request additional = .ok result)
    (canonical : result.canonicalized = true) :
    (∃ signals, extractWorkloadSignals normalization result = .ok signals) ↔
      Unambiguous request additional := by
  obtain ⟨evidence, present, extraction⟩ :=
    extract_eq given canonical (result_identity same returned)
  rw [extraction, ← unambiguous_iff returned canonical]
  constructor
  · rintro ⟨signals, extracted⟩
    obtain ⟨found, constrained, _⟩ := bind_eq_ok.mp extracted
    exact (constraintSignals_eq_ok_iff.mp constrained).1
  · intro few
    exact ⟨_, bind_eq_ok.mpr ⟨_, constraintSignals_eq_ok_iff.mpr ⟨few, rfl⟩, rfl⟩⟩

/-- Gateway and intelligence agree: canonical constraints of a normalized request are extracted
unless they are ambiguous, and what is extracted is inferred and calibrated without failure. -/
theorem gateway_agreement (given : normalization.normalizedRequest = some request)
    (same : normalization.identity = identity.identity)
    (returned : canonicalizeGatewayConstraints identity request additional = .ok result)
    (canonical : result.canonicalized = true) :
    AgreementLaw normalization request additional result := by
  obtain ⟨evidence, present, extraction⟩ :=
    extract_eq given canonical (result_identity same returned)
  constructor
  case extracted_iff => exact exists_extracted_iff given same returned canonical
  case refused =>
    intro fault failed
    rw [extraction] at failed
    rcases bind_eq_error.mp failed with constrained | ⟨_, _, impossible⟩
    · exact ambiguous_of_constraintSignals constrained
    · contradiction
  case profiled =>
    intro supplies recognized signals extracted
    rw [extraction] at extracted
    obtain ⟨found, constrained, made⟩ := bind_eq_ok.mp extracted
    obtain rfl := Except.ok.inj made
    obtain ⟨few, parts⟩ := constraintSignals_eq_ok_iff.mp constrained
    obtain ⟨constraint, head, value⟩ :=
      privacyConstraint_eq returned canonical (few .privacy (by decide))
    have privacyPart : found.privacy = some constraint := by rw [parts, head]
    obtain ⟨privacy, level⟩ := recognized
    have privacyInferred :
        inferredPrivacy (signalsOf normalization request found evidence present) = .ok privacy :=
      inferredPrivacy_signalsOf privacyPart value level
    obtain ⟨modality, modalityInferred⟩ := inferredModality_signalsOf supplies
    refine ⟨_, inferWorkloadIntelligence_eq_ok_iff.mpr
      ⟨modality, privacy, modalityInferred, privacyInferred, rfl⟩, ?_⟩
    rw [ne_eq, calibrate_status_eq_fail_iff, not_not]
    exact calibrationFailures_inferred coherent_signalsOf modalityInferred privacyInferred

end Law

/-! ## A second latency constraint -/

/-- The modest request, with a text. -/
def textRequest : WorkloadRequest :=
  { modestRequest with input := .ofList [("text", .text "hello")] }

theorem textIdentity_visible :
    ∀ text ∈ ["request-1", "workload-1", "session-1"], Text.Nonblank text := by
  decide

/-- The identity of the request. -/
def textIdentity : GatewayIdentity :=
  ⟨"request-1", "workload-1", "session-1", textIdentity_visible⟩

theorem textNormalization_explained : true = false → ([] : List NormalizationIssue) ≠ [] := by
  simp

/-- The request, as it was normalized. -/
def textNormalization : NormalizationResult :=
  ⟨"request-1", "workload-1", "session-1", true, some textRequest, [], textIdentity_visible, rfl,
    textNormalization_explained⟩

theorem stricter_visible :
    ∀ text ∈ ["client:latency", "less_than_or_equal", "client"] ++ (some "ms").toList,
      Text.Nonblank text := by
  decide

/-- A stricter latency that is added to the request. -/
def stricterLatency : CanonicalConstraint :=
  ⟨"client:latency", .latency, "less_than_or_equal", .number 50, some "ms", true, "client",
    stricter_visible, nofun⟩

theorem textConstraints_canonicalized : ∀ additional ∈ [[], [stricterLatency]],
    (canonicalizeGatewayConstraints textIdentity textRequest additional).toOption.map
      ConstraintNormalizationResult.canonicalized = some true := by
  decide +kernel

theorem exists_textConstraints {additional : List CanonicalConstraint}
    (listed : additional ∈ [[], [stricterLatency]]) :
    ∃ result, canonicalizeGatewayConstraints textIdentity textRequest additional = .ok result ∧
      result.canonicalized = true := by
  have canonical := textConstraints_canonicalized additional listed
  cases returned : canonicalizeGatewayConstraints textIdentity textRequest additional with
  | error fault => simp [returned, Except.toOption] at canonical
  | ok result => exact ⟨result, rfl, by simpa [returned, Except.toOption] using canonical⟩

/-- Canonical constraints of a normalized request are not always extracted: a second latency that
the gateway accepts is ambiguous. -/
theorem extraction_refuses_second_latency :
    ¬ ∀ normalization request identity additional result,
      normalization.normalizedRequest = some request →
        normalization.identity = identity.identity →
          canonicalizeGatewayConstraints identity request additional = .ok result →
            result.canonicalized = true →
              ∃ signals, extractWorkloadSignals normalization result = .ok signals := by
  intro extracted
  obtain ⟨result, returned, canonical⟩ :=
    exists_textConstraints (List.mem_cons_of_mem _ (List.mem_singleton_self [stricterLatency]))
  have unambiguous := (exists_extracted_iff rfl rfl returned canonical).mp
    (extracted textNormalization textRequest textIdentity _ result rfl rfl returned canonical)
  have meaning := unambiguous _ List.mem_cons_self stricterLatency.fields
    (List.mem_append_right _ List.mem_cons_self) (by decide) rfl
  have value : Gateway.ConstraintValue.number 100 = .number 50 :=
    congrArg (fun key => key.2.2.1) meaning
  exact absurd value (by decide)

/-- Without additional constraints, the request is extracted, inferred and calibrated. -/
theorem agreement_without_additional :
    ∃ result, canonicalizeGatewayConstraints textIdentity textRequest [] = .ok result ∧
      AgreementLaw textNormalization textRequest [] result := by
  obtain ⟨result, returned, canonical⟩ := exists_textConstraints List.mem_cons_self
  exact ⟨result, returned, gateway_agreement rfl rfl returned canonical⟩

end Intelligence
end MercuryX
