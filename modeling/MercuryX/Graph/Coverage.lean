import MercuryX.Graph.Builder

/-!
# Coverage of capabilities by built graphs

Which capabilities the stages of a built graph cover, by their kinds and by what they require. The
validator wants a validation stage for structured output, which the builder leaves out where the
workload itself is structured data; and a stage that takes the first required capability for want
of its own does not require what the profile needs.
-/

namespace MercuryX
namespace Graph

open Foundation
open Intelligence

/-! ## The kinds of stage -/

section Kinds

variable {capabilities : CapabilityTuple} {modality : WorkloadModality}
  {complexity : ReasoningComplexity} {node : ExecutionGraphNode}

@[simp] theorem mem_stageIf {other : ExecutionGraphNode} {condition : Prop}
    [Decidable condition] : node ∈ stageIf other condition ↔ node = other ∧ condition := by
  unfold stageIf
  split <;> simp_all

@[simp] theorem nodeType_stage {nodeId : String} {nodeType : GraphNodeType}
    {capability : ComputationalCapability} {evidence : EvidenceTuple}
    {nonblank : Text.Nonblank nodeId} :
    (stage nodeId nodeType capability evidence nonblank).nodeType = nodeType := rfl

@[simp] theorem mem_capabilities_stage {nodeId : String} {nodeType : GraphNodeType}
    {capability other : ComputationalCapability} {evidence : EvidenceTuple}
    {nonblank : Text.Nonblank nodeId} :
    other ∈ (stage nodeId nodeType capability evidence nonblank).requiredCapabilities.items ↔
      other = capability := by
  simp [stage]

theorem mem_reasoningStages : node ∈ reasoningStages capabilities complexity ↔
    ∃ index, 1 ≤ index ∧ index ≤ reasoningCount capabilities complexity ∧
      node = reasoningStage capabilities index := by
  simp only [reasoningStages, List.mem_map, List.mem_range'_1]
  constructor
  · rintro ⟨index, ⟨lower, upper⟩, rfl⟩
    exact ⟨index, lower, by omega, rfl⟩
  · rintro ⟨index, lower, upper, rfl⟩
    exact ⟨index, ⟨lower, by omega⟩, rfl⟩

theorem reasoningCount_pos_iff : 1 ≤ reasoningCount capabilities complexity ↔
    isDeepReasoning complexity = true ∨ .reasoning ∈ capabilities.items := by
  unfold reasoningCount
  split
  · next deep => simp [deep]
  · next shallow =>
      split
      · next listed => simp [listed]
      · next unlisted => simp [shallow, unlisted]

theorem mem_processingStages : node ∈ processingStages capabilities modality complexity ↔
    node ∈ requestedStages capabilities modality complexity ∨
      (requestedStages capabilities modality complexity = [] ∧
        node = conservativeStage capabilities) := by
  unfold processingStages
  split
  · next none => simp [none]
  · next some => simp [some]

/-- When the profile asks for a stage of a kind. -/
def AsksFor (capabilities : CapabilityTuple) (modality : WorkloadModality)
    (complexity : ReasoningComplexity) : GraphNodeType → Prop
  | .preprocess => isVisual modality = true ∨ isAudible modality = true
  | .transform => modality = .structuredData
  | .retrieval => .retrieval ∈ capabilities.items
  | .tool => .toolUse ∈ capabilities.items ∨ .codeExecution ∈ capabilities.items
  | .reasoning => isDeepReasoning complexity = true ∨ .reasoning ∈ capabilities.items
  | .validation => .structuredOutput ∈ capabilities.items ∧ modality ≠ .structuredData
  | .input | .aggregate | .output => False

/-- The capability that a stage of a kind requires. -/
def stageCapability (capabilities : CapabilityTuple) (modality : WorkloadModality) :
    GraphNodeType → ComputationalCapability
  | .preprocess => capabilityOr capabilities (if isVisual modality then .vision else .speech)
  | .transform =>
      if modality = .structuredData then capabilityOr capabilities .structuredOutput
      else capabilities.first
  | .retrieval => .retrieval
  | .tool => capabilityOr capabilities .codeExecution
  | .reasoning => capabilityOr capabilities .reasoning
  | .validation => .structuredOutput
  | .output => capabilityOr capabilities .generation
  | .input | .aggregate => capabilities.first

/-- A node is of a kind and requires one capability. -/
def HasKind (nodeType : GraphNodeType) (capability : ComputationalCapability)
    (node : ExecutionGraphNode) : Prop :=
  node.nodeType = nodeType ∧ node.requiredCapabilities.items = [capability]

theorem hasKind_stage {nodeId : String} {nodeType : GraphNodeType}
    {capability : ComputationalCapability} {evidence : EvidenceTuple}
    {nonblank : Text.Nonblank nodeId} :
    HasKind nodeType capability (stage nodeId nodeType capability evidence nonblank) :=
  ⟨rfl, by simp [stage, CanonicalTuple.of, canonical, sortOn]⟩

/-- The stages other than input, output and the conservative one are those asked for, each with
the capability of its kind. -/
theorem exists_asked_iff {nodeType : GraphNodeType} :
    (∃ node ∈ requestedStages capabilities modality complexity ++
        validationStages capabilities modality, node.nodeType = nodeType) ↔
      AsksFor capabilities modality complexity nodeType := by
  simp only [requestedStages, preprocessStages, transformStages, retrievalStages, toolStages,
    validationStages, List.mem_append, mem_stageIf, mem_reasoningStages]
  constructor
  · rintro ⟨node, ((((⟨rfl, asked⟩ | ⟨rfl, asked⟩) | ⟨rfl, asked⟩) | ⟨rfl, asked⟩) |
      ⟨index, lower, upper, rfl⟩) | ⟨rfl, asked⟩, rfl⟩
    · exact asked
    · exact asked
    · exact asked
    · exact asked
    · exact reasoningCount_pos_iff.mp (lower.trans upper)
    · exact asked
  · intro asked
    cases nodeType with
    | preprocess => exact ⟨_, .inl (.inl (.inl (.inl (.inl ⟨rfl, asked⟩)))), rfl⟩
    | transform => exact ⟨_, .inl (.inl (.inl (.inl (.inr ⟨rfl, asked⟩)))), rfl⟩
    | retrieval => exact ⟨_, .inl (.inl (.inl (.inr ⟨rfl, asked⟩))), rfl⟩
    | tool => exact ⟨_, .inl (.inl (.inr ⟨rfl, asked⟩)), rfl⟩
    | reasoning =>
        exact ⟨_, .inl (.inr ⟨1, le_rfl, reasoningCount_pos_iff.mpr asked, rfl⟩), rfl⟩
    | validation => exact ⟨_, .inr ⟨rfl, asked⟩, rfl⟩
    | input => exact asked.elim
    | aggregate => exact asked.elim
    | output => exact asked.elim

theorem modality_ne_structuredData_of_nil
    (none : requestedStages capabilities modality complexity = []) :
    modality ≠ .structuredData := by
  rintro rfl
  simp [requestedStages, transformStages, stageIf] at none

/-- The kinds of the stages: input, output, those asked for, and the conservative one. -/
theorem mem_types_iff {nodeType : GraphNodeType} :
    nodeType ∈ (stages capabilities modality complexity).map ExecutionGraphNode.nodeType ↔
      nodeType = .input ∨ nodeType = .output ∨ AsksFor capabilities modality complexity nodeType ∨
        (nodeType = .transform ∧ requestedStages capabilities modality complexity = []) := by
  rw [← exists_asked_iff]
  simp only [stages, innerStages, List.mem_map, List.mem_append, List.mem_cons, List.not_mem_nil,
    or_false, mem_processingStages]
  constructor
  · rintro ⟨node, (rfl | (requested | ⟨none, rfl⟩) | checked) | rfl, rfl⟩
    · exact .inl rfl
    · exact .inr (.inr (.inl ⟨node, .inl requested, rfl⟩))
    · exact .inr (.inr (.inr ⟨rfl, none⟩))
    · exact .inr (.inr (.inl ⟨node, .inr checked, rfl⟩))
    · exact .inr (.inl rfl)
  · rintro (rfl | rfl | ⟨node, requested | checked, rfl⟩ | ⟨rfl, none⟩)
    · exact ⟨_, .inl (.inl rfl), rfl⟩
    · exact ⟨_, .inr rfl, rfl⟩
    · exact ⟨node, .inl (.inr (.inl (.inl requested))), rfl⟩
    · exact ⟨node, .inl (.inr (.inr checked)), rfl⟩
    · exact ⟨_, .inl (.inr (.inl (.inr ⟨none, rfl⟩))), rfl⟩

theorem capabilities_of_asked (asked : node ∈ requestedStages capabilities modality complexity ++
    validationStages capabilities modality) :
    node.requiredCapabilities.items = [stageCapability capabilities modality node.nodeType] := by
  simp only [requestedStages, preprocessStages, transformStages, retrievalStages, toolStages,
    validationStages, List.mem_append, mem_stageIf, mem_reasoningStages] at asked
  rcases asked with ((((⟨rfl, _⟩ | ⟨rfl, structured⟩) | ⟨rfl, _⟩) | ⟨rfl, _⟩) |
    ⟨_, _, _, rfl⟩) | ⟨rfl, _⟩
  · exact hasKind_stage.2
  · simp only [nodeType_stage, stageCapability, if_pos structured]
    exact hasKind_stage.2
  · exact hasKind_stage.2
  · exact hasKind_stage.2
  · exact hasKind_stage.2
  · exact hasKind_stage.2

theorem capabilities_of_stage (member : node ∈ stages capabilities modality complexity) :
    node.requiredCapabilities.items = [stageCapability capabilities modality node.nodeType] := by
  simp only [stages, innerStages, List.mem_append, List.mem_cons, List.not_mem_nil, or_false,
    mem_processingStages] at member
  rcases member with (rfl | (requested | ⟨none, rfl⟩) | checked) | rfl
  · exact hasKind_stage.2
  · exact capabilities_of_asked (List.mem_append_left _ requested)
  · have plain := modality_ne_structuredData_of_nil none
    simp only [conservativeStage, nodeType_stage, stageCapability, if_neg plain]
    exact hasKind_stage.2
  · have asked : node ∈ requestedStages capabilities modality complexity ++
        validationStages capabilities modality := List.mem_append_right _ checked
    exact capabilities_of_asked asked
  · exact hasKind_stage.2

theorem innerStages_processing (member : node ∈ innerStages capabilities modality complexity) :
    ¬ node.nodeType.isBoundary ∧ node.nodeType ≠ .aggregate := by
  have asked : node ∈ requestedStages capabilities modality complexity ++
        validationStages capabilities modality →
      AsksFor capabilities modality complexity node.nodeType := fun listed =>
    exists_asked_iff.mp ⟨node, listed, rfl⟩
  have processing : ∀ nodeType, AsksFor capabilities modality complexity nodeType →
      ¬ nodeType.isBoundary ∧ nodeType ≠ .aggregate := by
    intro nodeType asksFor
    cases nodeType with
    | input => exact asksFor.elim
    | output => exact asksFor.elim
    | aggregate => exact asksFor.elim
    | preprocess => decide
    | transform => decide
    | retrieval => decide
    | tool => decide
    | reasoning => decide
    | validation => decide
  rcases List.mem_append.mp member with inProcessing | checked
  · rcases mem_processingStages.mp inProcessing with requested | ⟨_, rfl⟩
    · exact processing _ (asked (List.mem_append_left _ requested))
    · have kind : (conservativeStage capabilities).nodeType = .transform := rfl
      rw [kind]
      decide
  · exact processing _ (asked (List.mem_append_right _ checked))

end Kinds

/-! ## Built graphs -/

section Built

variable {result : WorkloadIntelligencePipelineResult} {profile : WorkloadIntelligenceProfile}
  {modality : WorkloadModality} {graph : ExecutionGraph}

theorem mem_nodes_iff (created : (graphDraft result profile modality).create = .ok graph)
    {node : ExecutionGraphNode} : node ∈ graph.nodes ↔
      node ∈ stages profile.requiredCapabilities modality profile.reasoningComplexity := by
  obtain ⟨acceptable, rfl⟩ := ExecutionGraphDraft.create_eq_ok_iff.mp created
  exact mem_sortOn _

theorem isChain_of_create (created : (graphDraft result profile modality).create = .ok graph) :
    IsChain graph (inputStage profile.requiredCapabilities)
      (innerStages profile.requiredCapabilities modality profile.reasoningComplexity)
      (outputStage profile.requiredCapabilities) := by
  obtain ⟨acceptable, rfl⟩ := ExecutionGraphDraft.create_eq_ok_iff.mp created
  exact
    { nodes_perm := sortOn_perm _ _
      mem_edges := fun edge => mem_canonical _
      first_input := rfl
      last_output := rfl
      inner_processing := fun node => innerStages_processing }

/-- A built graph carries the profile it was built for. -/
theorem intelligenceProfile_of_create
    (created : (graphDraft result profile modality).create = .ok graph) :
    graph.intelligenceProfile = some profile := by
  obtain ⟨acceptable, rfl⟩ := ExecutionGraphDraft.create_eq_ok_iff.mp created
  rfl

/-- A built graph passes validation exactly when structured output is validated and vision is
preprocessed. -/
theorem validate_created_iff (created : (graphDraft result profile modality).create = .ok graph) :
    (validateExecutionGraph graph).status = .pass ↔
      (.structuredOutput ∈ profile.requiredCapabilities.items → modality ≠ .structuredData) ∧
        (.vision ∈ profile.requiredCapabilities.items →
          isVisual modality = true ∨ isAudible modality = true) := by
  have types : ∀ nodeType, nodeType ∈ graph.nodes.map ExecutionGraphNode.nodeType ↔
      nodeType ∈ (stages profile.requiredCapabilities modality
        profile.reasoningComplexity).map ExecutionGraphNode.nodeType := by
    intro nodeType
    simp only [List.mem_map, mem_nodes_iff created]
  rw [validate_pass_iff, (isChain_of_create created).sound_iff,
    intelligenceProfile_of_create created]
  simp only [Option.some_inj, forall_eq']
  constructor
  · intro covers
    constructor
    · intro listed
      have checked := mem_types_iff.mp ((types _).mp (covers.validation listed))
      simp only [reduceCtorEq, AsksFor, false_and, or_false, false_or] at checked
      exact checked.2
    · intro listed
      have preprocessed := mem_types_iff.mp ((types _).mp (covers.vision listed))
      simpa only [reduceCtorEq, AsksFor, false_and, or_false, false_or] using preprocessed
  · rintro ⟨checked, preprocessed⟩
    constructor
    · intro listed
      exact (types _).mpr (mem_types_iff.mpr (.inr (.inr (.inl listed))))
    · intro listed
      exact (types _).mpr (mem_types_iff.mpr (.inr (.inr (.inl listed))))
    · intro listed
      exact (types _).mpr (mem_types_iff.mpr (.inr (.inr (.inl ⟨listed, checked listed⟩))))
    · intro listed
      exact (types _).mpr (mem_types_iff.mpr (.inr (.inr (.inl (preprocessed listed)))))

end Built

/-! ## Graphs of inferred profiles -/

/-- An inferred profile needs structured output wherever its modality is structured data. -/
theorem structuredOutput_mem_inferred (signals : WorkloadSignals) :
    .structuredOutput ∈ (inferredCapabilities signals .structuredData).items := by
  simp [inferredCapabilities, modalityCapability]

theorem isVisual_of_vision_mem {signals : WorkloadSignals} {modality : WorkloadModality}
    (listed : .vision ∈ (inferredCapabilities signals modality).items) :
    isVisual modality = true := by
  cases modality with
  | image => rfl
  | video => rfl
  | multimodal => rfl
  | text => simp [inferredCapabilities, modalityCapability] at listed
  | audio => simp [inferredCapabilities, modalityCapability] at listed
  | structuredData => simp [inferredCapabilities, modalityCapability] at listed
  | code => simp [inferredCapabilities, modalityCapability] at listed

theorem exists_built_of_inferred {signals : WorkloadSignals} {profile : WorkloadIntelligenceProfile}
    (inferred : inferWorkloadIntelligence signals = .ok profile)
    (supported : calibrationFailures signals profile = []) :
    ∃ result graph, analyzeSignals signals = .ok result ∧ result.profile = some profile ∧
      buildExecutionGraph result = .ok graph := by
  obtain ⟨result, staged⟩ := exists_fromStages inferred
  obtain ⟨_, given, _, status⟩ := fromStages_eq_ok staged
  obtain ⟨modality, privacy, _, _, rfl⟩ := inferWorkloadIntelligence_eq_ok_iff.mp inferred
  have calibrated := mt calibrate_status_eq_fail_iff.mp (not_not.mpr supported)
  have accepted : result.status ≠ .fail := by
    rw [status]
    exact mt PipelineStatus.ofCalibration_eq_fail_iff.mp calibrated
  have single : (inferredProfile signals modality privacy).modalities.items = [modality] := by
    simp [inferredProfile, CanonicalTuple.of, canonical, sortOn]
  obtain ⟨graph, built⟩ := exists_buildExecutionGraph given accepted single
  exact ⟨result, graph, by rw [analyzeSignals, inferred, ok_bind, staged], given, built⟩

/-- The signals of a request that supplies one modality, and may ask for tools. -/
def plainSignals (modality : String) (toolUse : Option Bool)
    (stripped : stringValues [modality] = [modality] := by decide) : WorkloadSignals where
  requestId := "r"
  workloadId := "w"
  sessionId := "s"
  textInputPresent := if modality = "text" then some true else none
  imageInputPresent := none
  audioInputPresent := none
  videoInputPresent := none
  structuredDataPresent := if modality = "structured_data" then some true else none
  codeInputPresent := none
  explicitModalities := [modality]
  explicitModalityCount := 1
  textCharacterCount := none
  inputItemCount := none
  messageCount := none
  segmentCount := none
  attachmentCount := none
  explicitContextSupplied := none
  conversationContextPresent := none
  longContextRequested := none
  contextReferences := []
  toolUseRequested := toolUse
  declaredToolNames := []
  externalActionRequired := none
  latencyConstraint := none
  qualityConstraint := none
  privacyConstraint := none
  costConstraint := none
  outputType := none
  structuredOutputRequired := none
  streamingRequested := none
  evidence := .of SignalEvidence.key
    [{ signalGroup := "identity"
       sourceFields := ["normalization.request_id", "normalization.session_id",
         "normalization.workload_id"]
       signalGroup_nonblank := by decide
       sourceFields_canonical := by decide }] (by simp)
  identity_nonblank := by decide
  texts_canonical := by
    simp only [List.forall_mem_cons]
    exact ⟨stripped, rfl, rfl, by simp⟩

/-- The graph built for an inferred profile passes validation exactly when the workload is not
structured data alone. -/
theorem validate_inferred_iff {signals : WorkloadSignals} {profile : WorkloadIntelligenceProfile}
    {result : WorkloadIntelligencePipelineResult} {graph : ExecutionGraph}
    (inferred : inferWorkloadIntelligence signals = .ok profile)
    (given : result.profile = some profile) (built : buildExecutionGraph result = .ok graph) :
    (validateExecutionGraph graph).status = .pass ↔
      signals.explicitModalities ≠ ["structured_data"] := by
  obtain ⟨modality, privacy, hasModality, _, rfl⟩ := inferWorkloadIntelligence_eq_ok_iff.mp inferred
  obtain ⟨built, single, created⟩ := buildExecutionGraph_eq_ok given built
  obtain rfl : modality = built := by
    simpa [inferredProfile, CanonicalTuple.of, canonical, sortOn] using single
  have structured : signals.explicitModalities = ["structured_data"] ↔
      modality = .structuredData := by
    rw [← inferredModality_eq_structuredData_iff, hasModality, Except.ok.injEq]
  refine (validate_created_iff created).trans (Iff.trans ?_ (not_congr structured).symm)
  constructor
  · rintro ⟨checked, _⟩ rfl
    exact checked (structuredOutput_mem_inferred signals) rfl
  · intro other
    exact ⟨fun _ => other, fun listed => .inl (isVisual_of_vision_mem listed)⟩

/-- A workload of text is analysed and built into a graph that passes validation. -/
theorem validate_inferred_text : ∃ result graph,
    analyzeSignals (plainSignals "text" none) = .ok result ∧
      buildExecutionGraph result = .ok graph ∧
        (validateExecutionGraph graph).status = .pass := by
  have inferred : inferWorkloadIntelligence (plainSignals "text" none) =
      .ok (inferredProfile (plainSignals "text" none) .text .restricted) := rfl
  obtain ⟨result, graph, analyzed, given, built⟩ := exists_built_of_inferred inferred (by decide)
  exact ⟨result, graph, analyzed, built,
    (validate_inferred_iff inferred given built).mpr (by decide)⟩

/-- A workload of structured data is analysed and built into a graph that does not pass. -/
theorem validate_fails_for_structured_data :
    ¬ ∀ (signals : WorkloadSignals) (result : WorkloadIntelligencePipelineResult)
      (graph : ExecutionGraph), analyzeSignals signals = .ok result →
        buildExecutionGraph result = .ok graph → (validateExecutionGraph graph).status = .pass := by
  intro law
  have inferred : inferWorkloadIntelligence (plainSignals "structured_data" none) =
      .ok (inferredProfile (plainSignals "structured_data" none) .structuredData .restricted) := rfl
  obtain ⟨result, graph, analyzed, given, built⟩ := exists_built_of_inferred inferred (by decide)
  obtain ⟨modality, single, created⟩ := buildExecutionGraph_eq_ok given built
  obtain rfl : .structuredData = modality := by
    simpa [inferredProfile, CanonicalTuple.of, canonical, sortOn] using single
  have passed := (validate_created_iff created).mp (law _ result graph analyzed built)
  exact passed.1 (structuredOutput_mem_inferred _) rfl

/-! ## Lost capabilities -/

/-- The capabilities that justify a stage of a kind; other kinds need no justification. -/
def Justifies : GraphNodeType → ComputationalCapability → Prop
  | .tool, capability => capability = .toolUse ∨ capability = .codeExecution
  | .retrieval, capability => capability = .retrieval
  | .reasoning, capability => capability = .reasoning
  | .validation, capability => capability = .structuredOutput
  | .preprocess, capability => capability = .vision ∨ capability = .speech
  | .input, _ | .transform, _ | .aggregate, _ | .output, _ => True

/-- No required capability is lost in a graph, and no stage falls back on an unrelated one. -/
structure KeepsCapabilities (graph : ExecutionGraph) (profile : WorkloadIntelligenceProfile) :
    Prop where
  /-- Every required capability is required by a node. -/
  kept : ∀ capability ∈ profile.requiredCapabilities.items,
    ∃ node ∈ graph.nodes, capability ∈ node.requiredCapabilities.items
  /-- Every node requires a capability that justifies its kind. -/
  justified : ∀ node ∈ graph.nodes,
    ∃ capability ∈ node.requiredCapabilities.items, Justifies node.nodeType capability

/-- The capabilities agree with the modality and the complexity, so that the preferred capability
of each stage is required, or the first capability serves instead. -/
structure CapabilitiesFit (capabilities : CapabilityTuple) (modality : WorkloadModality)
    (complexity : ReasoningComplexity) : Prop where
  /-- Tool use, which no stage prefers, comes first. -/
  tool_use : .toolUse ∈ capabilities.items → capabilities.first = .toolUse
  /-- Vision comes with a visual modality, or first. -/
  vision : .vision ∈ capabilities.items → isVisual modality = true ∨ capabilities.first = .vision
  /-- Speech comes with audio, or first. -/
  speech : .speech ∈ capabilities.items → modality = .audio ∨ capabilities.first = .speech
  /-- Deep reasoning comes with the capability to reason. -/
  reasoning : isDeepReasoning complexity = true → .reasoning ∈ capabilities.items
  /-- A visual modality comes with vision, or with speech first. -/
  visual : isVisual modality = true → .vision ∈ capabilities.items ∨ capabilities.first = .speech
  /-- Audio comes with speech, or with vision first. -/
  audio : modality = .audio → .speech ∈ capabilities.items ∨ capabilities.first = .vision

section Fit

variable {capabilities : CapabilityTuple} {modality : WorkloadModality}
  {complexity : ReasoningComplexity} {preferred capability : ComputationalCapability}

theorem capabilityOr_of_mem (listed : preferred ∈ capabilities.items) :
    capabilityOr capabilities preferred = preferred := if_pos listed

theorem capabilityOr_of_notMem (unlisted : preferred ∉ capabilities.items) :
    capabilityOr capabilities preferred = capabilities.first := if_neg unlisted

/-- A stage that requires something else than it prefers requires the first capability. -/
theorem first_of_capabilityOr (same : capabilityOr capabilities preferred = capability)
    (different : preferred ≠ capability) : capabilities.first = capability := by
  unfold capabilityOr at same
  split at same
  · exact absurd same different
  · exact same

theorem capabilityOr_mem : capabilityOr capabilities preferred ∈ capabilities.items := by
  unfold capabilityOr
  split
  · next listed => exact listed
  · exact capabilities.first_mem

theorem isVisual_or_audio (asked : isVisual modality = true ∨ isAudible modality = true) :
    isVisual modality = true ∨ (isVisual modality = false ∧ modality = .audio) := by
  revert asked
  cases modality <;> decide

/-- The kinds of stage of a profile. -/
def Types (capabilities : CapabilityTuple) (modality : WorkloadModality)
    (complexity : ReasoningComplexity) : List GraphNodeType :=
  (stages capabilities modality complexity).map ExecutionGraphNode.nodeType

theorem mem_types_of_asked {nodeType : GraphNodeType}
    (asked : AsksFor capabilities modality complexity nodeType) :
    nodeType ∈ Types capabilities modality complexity :=
  mem_types_iff.mpr (.inr (.inr (.inl asked)))

theorem input_mem_types : .input ∈ Types capabilities modality complexity :=
  mem_types_iff.mpr (.inl rfl)

theorem CapabilitiesFit.kept (fit : CapabilitiesFit capabilities modality complexity)
    (listed : capability ∈ capabilities.items) :
    ∃ nodeType ∈ Types capabilities modality complexity,
      stageCapability capabilities modality nodeType = capability := by
  cases capability with
  | generation =>
      exact ⟨.output, mem_types_iff.mpr (.inr (.inl rfl)), capabilityOr_of_mem listed⟩
  | reasoning => exact ⟨.reasoning, mem_types_of_asked (.inr listed), capabilityOr_of_mem listed⟩
  | retrieval => exact ⟨.retrieval, mem_types_of_asked listed, rfl⟩
  | vision =>
      rcases fit.vision listed with visual | first
      · refine ⟨.preprocess, mem_types_of_asked (.inl visual), ?_⟩
        rw [stageCapability, if_pos visual, capabilityOr_of_mem listed]
      · exact ⟨.input, input_mem_types, first⟩
  | speech =>
      rcases fit.speech listed with rfl | first
      · exact ⟨.preprocess, mem_types_of_asked (.inr rfl), capabilityOr_of_mem listed⟩
      · exact ⟨.input, input_mem_types, first⟩
  | codeExecution => exact ⟨.tool, mem_types_of_asked (.inr listed), capabilityOr_of_mem listed⟩
  | structuredOutput =>
      by_cases structured : modality = .structuredData
      · refine ⟨.transform, mem_types_of_asked structured, ?_⟩
        rw [stageCapability, if_pos structured, capabilityOr_of_mem listed]
      · exact ⟨.validation, mem_types_of_asked ⟨listed, structured⟩, rfl⟩
  | toolUse => exact ⟨.input, input_mem_types, fit.tool_use listed⟩

theorem CapabilitiesFit.justified (fit : CapabilitiesFit capabilities modality complexity)
    {nodeType : GraphNodeType} (present : nodeType ∈ Types capabilities modality complexity) :
    Justifies nodeType (stageCapability capabilities modality nodeType) := by
  have asked := mem_types_iff.mp present
  cases nodeType with
  | input => trivial
  | transform => trivial
  | aggregate => trivial
  | output => trivial
  | retrieval => rfl
  | validation => rfl
  | tool =>
      simp only [reduceCtorEq, AsksFor, false_and, or_false, false_or] at asked
      by_cases code : .codeExecution ∈ capabilities.items
      · exact .inr (capabilityOr_of_mem code)
      · rw [stageCapability, capabilityOr_of_notMem code]
        exact .inl (fit.tool_use (asked.resolve_right code))
  | reasoning =>
      simp only [reduceCtorEq, AsksFor, false_and, or_false, false_or] at asked
      exact capabilityOr_of_mem (asked.elim fit.reasoning id)
  | preprocess =>
      simp only [reduceCtorEq, AsksFor, false_and, or_false, false_or] at asked
      rcases isVisual_or_audio asked with visual | ⟨notVisual, audio⟩
      · rw [stageCapability, if_pos visual]
        by_cases listed : .vision ∈ capabilities.items
        · exact .inl (capabilityOr_of_mem listed)
        · rw [capabilityOr_of_notMem listed]
          exact .inr ((fit.visual visual).resolve_left listed)
      · rw [stageCapability, if_neg (by simp [notVisual])]
        by_cases listed : .speech ∈ capabilities.items
        · exact .inr (capabilityOr_of_mem listed)
        · rw [capabilityOr_of_notMem listed]
          exact .inl ((fit.audio audio).resolve_left listed)

/-- Tool use, vision and speech are required by preprocessing, where it prefers them, or because
they come first. -/
theorem first_or_preprocess {nodeType : GraphNodeType}
    (special : capability ∈ [.toolUse, .vision, .speech])
    (same : stageCapability capabilities modality nodeType = capability) :
    capabilities.first = capability ∨
      (nodeType = .preprocess ∧ (if isVisual modality then .vision else .speech) = capability) := by
  have fallsBack {preferred : ComputationalCapability}
      (required : capabilityOr capabilities preferred = capability)
      (plain : preferred ∉ [.toolUse, .vision, .speech]) : capabilities.first = capability :=
    first_of_capabilityOr required fun equal => plain (equal ▸ special)
  cases nodeType with
  | input => exact .inl same
  | aggregate => exact .inl same
  | output => exact .inl (fallsBack same (by decide))
  | tool => exact .inl (fallsBack same (by decide))
  | reasoning => exact .inl (fallsBack same (by decide))
  | retrieval =>
      obtain rfl : .retrieval = capability := same
      exact absurd special (by decide)
  | validation =>
      obtain rfl : .structuredOutput = capability := same
      exact absurd special (by decide)
  | transform =>
      rw [stageCapability] at same
      split at same
      · exact .inl (fallsBack same (by decide))
      · exact .inl same
  | preprocess =>
      by_cases preferred : (if isVisual modality then .vision else .speech) = capability
      · exact .inr ⟨rfl, preferred⟩
      · exact .inl (first_of_capabilityOr same preferred)

/-- The capabilities fit exactly when each of them is that of a kind of stage, and every kind of
stage is justified by its own. -/
theorem capabilitiesFit_iff : CapabilitiesFit capabilities modality complexity ↔
    (∀ capability ∈ capabilities.items, ∃ nodeType ∈ Types capabilities modality complexity,
      stageCapability capabilities modality nodeType = capability) ∧
    ∀ nodeType ∈ Types capabilities modality complexity,
      Justifies nodeType (stageCapability capabilities modality nodeType) := by
  refine ⟨fun fit => ⟨fun _ => fit.kept, fun _ => fit.justified⟩, fun ⟨kept, justified⟩ => ?_⟩
  constructor
  case tool_use =>
    intro listed
    obtain ⟨nodeType, _, same⟩ := kept _ listed
    rcases first_or_preprocess (by decide) same with first | ⟨_, preferred⟩
    · exact first
    · split at preferred <;> contradiction
  case vision =>
    intro listed
    obtain ⟨nodeType, _, same⟩ := kept _ listed
    rcases first_or_preprocess (by decide) same with first | ⟨_, preferred⟩
    · exact .inr first
    · split at preferred
      · next visual => exact .inl visual
      · contradiction
  case speech =>
    intro listed
    obtain ⟨nodeType, present, same⟩ := kept _ listed
    rcases first_or_preprocess (by decide) same with first | ⟨rfl, preferred⟩
    · exact .inr first
    · have asked := mem_types_iff.mp present
      simp only [reduceCtorEq, AsksFor, false_and, or_false, false_or] at asked
      rcases isVisual_or_audio asked with visual | ⟨_, audio⟩
      · rw [if_pos visual] at preferred
        contradiction
      · exact .inl audio
  case reasoning =>
    intro deep
    have reasons : capabilityOr capabilities .reasoning = .reasoning :=
      justified .reasoning (mem_types_of_asked (.inl deep))
    exact reasons ▸ capabilityOr_mem
  case visual =>
    intro visual
    have justifies := justified .preprocess (mem_types_of_asked (.inl visual))
    rw [stageCapability, if_pos visual] at justifies
    rcases justifies with sees | hears
    · exact .inl (sees ▸ capabilityOr_mem)
    · exact .inr (first_of_capabilityOr hears (by decide))
  case audio =>
    rintro rfl
    rcases justified .preprocess (mem_types_of_asked (.inr rfl)) with sees | hears
    · exact .inr (first_of_capabilityOr sees (by decide))
    · exact .inl (hears ▸ capabilityOr_mem)

end Fit

/-- Whether a built graph loses a capability depends on the kinds of its stages alone. -/
theorem keepsCapabilities_iff {result : WorkloadIntelligencePipelineResult}
    {profile : WorkloadIntelligenceProfile} {modality : WorkloadModality} {graph : ExecutionGraph}
    (created : (graphDraft result profile modality).create = .ok graph) :
    KeepsCapabilities graph profile ↔
      CapabilitiesFit profile.requiredCapabilities modality profile.reasoningComplexity := by
  have required : ∀ node ∈ graph.nodes, node.requiredCapabilities.items =
      [stageCapability profile.requiredCapabilities modality node.nodeType] := fun node member =>
    capabilities_of_stage ((mem_nodes_iff created).mp member)
  have typeOf : ∀ node ∈ graph.nodes, node.nodeType ∈
      Types profile.requiredCapabilities modality profile.reasoningComplexity := fun node member =>
    List.mem_map_of_mem ((mem_nodes_iff created).mp member)
  have nodeOf : ∀ nodeType ∈ Types profile.requiredCapabilities modality
      profile.reasoningComplexity, ∃ node ∈ graph.nodes, node.nodeType = nodeType := by
    intro nodeType present
    obtain ⟨node, isStage, ofType⟩ := List.mem_map.mp present
    exact ⟨node, (mem_nodes_iff created).mpr isStage, ofType⟩
  rw [capabilitiesFit_iff]
  constructor
  · rintro ⟨kept, justified⟩
    constructor
    · intro capability listed
      obtain ⟨node, member, requires⟩ := kept capability listed
      rw [required node member, List.mem_singleton] at requires
      exact ⟨node.nodeType, typeOf node member, requires.symm⟩
    · intro nodeType present
      obtain ⟨node, member, rfl⟩ := nodeOf nodeType present
      obtain ⟨capability, requires, justifies⟩ := justified node member
      rw [required node member, List.mem_singleton] at requires
      exact requires ▸ justifies
  · rintro ⟨kept, justified⟩
    constructor
    · intro capability listed
      obtain ⟨nodeType, present, rfl⟩ := kept capability listed
      obtain ⟨node, member, rfl⟩ := nodeOf nodeType present
      exact ⟨node, member, by rw [required node member]; exact List.mem_singleton_self _⟩
    · intro node member
      refine ⟨_, ?_, justified _ (typeOf node member)⟩
      rw [required node member]
      exact List.mem_singleton_self _

/-- A built graph loses no capability exactly when the capabilities of its profile fit. -/
theorem built_keeps_iff_fit {result : WorkloadIntelligencePipelineResult}
    {profile : WorkloadIntelligenceProfile} {graph : ExecutionGraph}
    (given : result.profile = some profile) (built : buildExecutionGraph result = .ok graph) :
    KeepsCapabilities graph profile ↔ CapabilitiesFit profile.requiredCapabilities
      profile.modalities.first profile.reasoningComplexity := by
  obtain ⟨modality, single, created⟩ := buildExecutionGraph_eq_ok given built
  have first : profile.modalities.first = modality := by
    have member := profile.modalities.first_mem
    rw [single] at member
    exact List.mem_singleton.mp member
  rw [first]
  exact keepsCapabilities_iff created

/-- The signals of a request for structured output on what is retrieved. -/
def retrievalSignals : WorkloadSignals :=
  { plainSignals "text" none with
    contextReferences := ["knowledge"]
    structuredOutputRequired := some true
    texts_canonical := by decide }

/-- The graph of a workload of text keeps the capabilities to generate, to reason, to retrieve and
to give structured output. -/
theorem built_keeps_generation : ∃ result graph profile,
    analyzeSignals retrievalSignals = .ok result ∧ result.profile = some profile ∧
      profile.requiredCapabilities.items =
        [.generation, .reasoning, .retrieval, .structuredOutput] ∧
      buildExecutionGraph result = .ok graph ∧ KeepsCapabilities graph profile := by
  have inferred : inferWorkloadIntelligence retrievalSignals =
      .ok (inferredProfile retrievalSignals .text .restricted) := rfl
  obtain ⟨result, graph, analyzed, given, built⟩ := exists_built_of_inferred inferred (by decide)
  have fit : CapabilitiesFit (inferredCapabilities retrievalSignals .text) .text .low :=
    ⟨by decide, by decide, by decide, by decide, by decide, by decide⟩
  exact ⟨result, graph, _, analyzed, given, rfl, built,
    (built_keeps_iff_fit given built).mpr fit⟩

/-- The graph of a workload of text with tools loses the capability to use them. -/
theorem built_loses_tool_use :
    ¬ ∀ (result : WorkloadIntelligencePipelineResult) (profile : WorkloadIntelligenceProfile)
      (graph : ExecutionGraph), result.profile = some profile →
        buildExecutionGraph result = .ok graph → KeepsCapabilities graph profile := by
  intro law
  have inferred : inferWorkloadIntelligence (plainSignals "text" (some true)) =
      .ok (inferredProfile (plainSignals "text" (some true)) .text .restricted) := rfl
  obtain ⟨result, graph, _, given, built⟩ := exists_built_of_inferred inferred (by decide)
  obtain ⟨modality, _, created⟩ := buildExecutionGraph_eq_ok given built
  have fit := (keepsCapabilities_iff created).mp (law result _ graph given built)
  exact absurd (fit.tool_use (by decide)) (by decide)

end Graph
end MercuryX
