import MercuryX.Graph.Validation

/-!
# Construction of execution graphs

The builder turns a pipeline result into a chain of stages, from the input over the processing
stages that the profile asks for to the output. A chain is sound as far as its flow is concerned,
so the validator can only object to capabilities that no kind of stage covers.
-/

namespace MercuryX
namespace Graph

open Foundation
open Intelligence

/-! ## Stages -/

/-- The evidence behind a stage or a link of the chain. -/
def phase2Evidence (reason : String)
    (reason_nonblank : Text.Nonblank reason := by exact Text.nonblank_literal rfl) :
    EvidenceTuple :=
  .of Evidence.key [{ source := "phase2.intelligence", reason, reason_nonblank }] (by simp)

/-- A stage with one required capability. -/
def stage (nodeId : String) (nodeType : GraphNodeType) (capability : ComputationalCapability)
    (evidence : EvidenceTuple)
    (nodeId_nonblank : Text.Nonblank nodeId := by exact Text.nonblank_literal rfl) :
    ExecutionGraphNode where
  nodeId := nodeId
  nodeType := nodeType
  purpose := "logical " ++ nodeType.value ++ " stage"
  requiredCapabilities := .of ComputationalCapability.value [capability] (by simp)
  evidence := evidence
  nodeId_nonblank := nodeId_nonblank
  purpose_nonblank := Text.nonblank_append_left
    (Text.nonblank_append_left (Text.nonblank_literal rfl) _) _

/-- A stage, where a condition holds. -/
def stageIf (node : ExecutionGraphNode) (condition : Prop) [Decidable condition] :
    List ExecutionGraphNode :=
  if condition then [node] else []

/-- The preferred capability, or the first one where the preferred is not required. -/
def capabilityOr (capabilities : CapabilityTuple) (preferred : ComputationalCapability) :
    ComputationalCapability :=
  if preferred ∈ capabilities.items then preferred else capabilities.first

/-- The modalities that are preprocessed for vision. -/
def isVisual (modality : WorkloadModality) : Bool := modality ∈ [.image, .video, .multimodal]

/-- The modalities that carry sound. -/
def isAudible (modality : WorkloadModality) : Bool := modality ∈ [.audio, .multimodal]

/-- The complexities whose reasoning takes two stages. -/
def isDeepReasoning (complexity : ReasoningComplexity) : Bool := complexity ∈ [.high, .deep]

section Stages

variable (capabilities : CapabilityTuple) (modality : WorkloadModality)
  (complexity : ReasoningComplexity)

/-- The input stage. -/
def inputStage : ExecutionGraphNode :=
  stage "node-input" .input capabilities.first
    (phase2Evidence "Phase 2 workload input requires a logical input stage")

/-- The preprocessing stage of visual and audible modalities. -/
def preprocessStages : List ExecutionGraphNode :=
  stageIf (stage "node-preprocess-1" .preprocess
      (capabilityOr capabilities (if isVisual modality then .vision else .speech))
      (phase2Evidence "Phase 2 modality requires explicit logical preprocessing"))
    (isVisual modality ∨ isAudible modality)

/-- The transformation stage of structured data. -/
def transformStages : List ExecutionGraphNode :=
  stageIf (stage "node-transform-1" .transform (capabilityOr capabilities .structuredOutput)
      (phase2Evidence "Phase 2 structured-data modality requires logical transformation"))
    (modality = .structuredData)

/-- The retrieval stage. -/
def retrievalStages : List ExecutionGraphNode :=
  stageIf (stage "node-retrieval-1" .retrieval .retrieval
      (phase2Evidence "Phase 2 retrieval capability requires a logical retrieval stage"))
    (.retrieval ∈ capabilities.items)

/-- The tool stage. -/
def toolStages : List ExecutionGraphNode :=
  stageIf (stage "node-tool-1" .tool (capabilityOr capabilities .codeExecution)
      (phase2Evidence "Phase 2 tool or code-execution capability requires a logical tool stage"))
    (.toolUse ∈ capabilities.items ∨ .codeExecution ∈ capabilities.items)

/-- The number of reasoning stages. -/
def reasoningCount : Nat :=
  if isDeepReasoning complexity then 2 else if .reasoning ∈ capabilities.items then 1 else 0

/-- One reasoning stage. -/
def reasoningStage (index : Nat) : ExecutionGraphNode :=
  stage ("node-reasoning-" ++ toString index) .reasoning (capabilityOr capabilities .reasoning)
    (phase2Evidence "Phase 2 reasoning complexity requires a bounded logical reasoning stage")
    (Text.nonblank_append_left (Text.nonblank_literal rfl) _)

/-- The reasoning stages. -/
def reasoningStages : List ExecutionGraphNode :=
  (List.range' 1 (reasoningCount capabilities complexity)).map (reasoningStage capabilities)

/-- The processing stages that the profile asks for. -/
def requestedStages : List ExecutionGraphNode :=
  preprocessStages capabilities modality ++ transformStages capabilities modality ++
    retrievalStages capabilities ++ toolStages capabilities ++
    reasoningStages capabilities complexity

/-- The stage of a workload that asks for no processing. -/
def conservativeStage : ExecutionGraphNode :=
  stage "node-transform-1" .transform capabilities.first
    (phase2Evidence "Phase 2 workload requires one conservative logical processing stage")

/-- The processing stages: those asked for, or one conservative stage. -/
def processingStages : List ExecutionGraphNode :=
  if requestedStages capabilities modality complexity = [] then [conservativeStage capabilities]
  else requestedStages capabilities modality complexity

/-- The validation stage of structured output. -/
def validationStages : List ExecutionGraphNode :=
  stageIf (stage "node-validation-1" .validation .structuredOutput (phase2Evidence
      "Phase 2 structured-output capability requires logical validation before output"))
    (.structuredOutput ∈ capabilities.items ∧ modality ≠ .structuredData)

/-- The output stage. -/
def outputStage : ExecutionGraphNode :=
  stage "node-z-output" .output (capabilityOr capabilities .generation)
    (phase2Evidence "Phase 2 workload requires a logical output stage")

/-- The stages between input and output. -/
def innerStages : List ExecutionGraphNode :=
  processingStages capabilities modality complexity ++ validationStages capabilities modality

/-- The stages of a graph, in order. -/
def stages : List ExecutionGraphNode :=
  inputStage capabilities :: innerStages capabilities modality complexity ++
    [outputStage capabilities]

end Stages

/-! ## Chains -/

/-- The link from one stage to the next. -/
def link (source target : ExecutionGraphNode) : ExecutionGraphEdge where
  sourceNodeId := source.nodeId
  targetNodeId := target.nodeId
  dependencyType := if source.nodeType = .tool then .toolResult else .data
  evidence := phase2Evidence "logical data dependency follows deterministic stage order"
  source_nonblank := source.nodeId_nonblank
  target_nonblank := target.nodeId_nonblank

/-- The links between consecutive stages. -/
def chainEdges (nodes : List ExecutionGraphNode) : List ExecutionGraphEdge :=
  (nodes.zip nodes.tail).map fun pair => link pair.1 pair.2

/-! ## The builder -/

/-- The checks on a pipeline result, and its profile. -/
def requireValidPipeline (result : WorkloadIntelligencePipelineResult) :
    Except Fault WorkloadIntelligenceProfile := do
  require (result.status = .pass ∨ result.status = .degraded)
    (.value "pipeline status must be PASS or DEGRADED")
  match result.signals, result.profile, result.calibration with
  | some signals, some profile, some calibration =>
      require (calibration.status = .pass ∨ calibration.status = .degraded)
        (.value "calibration status must be PASS or DEGRADED")
      let identity := (result.requestId, result.workloadId, result.sessionId)
      require (∀ text ∈ [result.requestId, result.workloadId, result.sessionId],
        Text.Nonblank text) (.value "pipeline identity must be nonblank")
      require (signals.identity = identity ∧ profile.identity = identity ∧
        calibration.profile.identity = identity)
        (.value "Phase 2 identity does not match pipeline identity")
      require (calibration.profile = profile)
        (.value "calibration must preserve the intelligence profile")
      return profile
  | _, _, _ => .error (.value "pipeline result must contain every Phase 2 stage")

/-- The graph of a profile with one modality. -/
def graphDraft (result : WorkloadIntelligencePipelineResult) (profile : WorkloadIntelligenceProfile)
    (modality : WorkloadModality) : ExecutionGraphDraft :=
  let nodes := stages profile.requiredCapabilities modality profile.reasoningComplexity
  { graphId := "graph-" ++ result.requestId
    requestId := result.requestId
    workloadId := result.workloadId
    sessionId := result.sessionId
    nodes := nodes
    edges := chainEdges nodes
    provenance := profile.evidence.items
    intelligenceProfile := some profile }

/-- Build a logical graph from a pipeline result. -/
def buildExecutionGraph (result : WorkloadIntelligencePipelineResult) :
    Except Fault ExecutionGraph := do
  let profile ← requireValidPipeline result
  match profile.modalities.items with
  | [modality] => (graphDraft result profile modality).create
  | _ => .error (.value "workload modality state is unsupported")

theorem buildExecutionGraph_eq_ok {result : WorkloadIntelligencePipelineResult}
    {profile : WorkloadIntelligenceProfile} {graph : ExecutionGraph}
    (given : result.profile = some profile) (built : buildExecutionGraph result = .ok graph) :
    ∃ modality, profile.modalities.items = [modality] ∧
      (graphDraft result profile modality).create = .ok graph := by
  rw [buildExecutionGraph, bind_eq_ok] at built
  obtain ⟨checked, valid, drafted⟩ := built
  have same : checked = profile := by
    rw [requireValidPipeline, bind_eq_ok] at valid
    obtain ⟨_, _, rest⟩ := valid
    split at rest
    · next signals other calibration _ otherGiven _ =>
        simp only [bind_eq_ok, pure_eq_ok, Except.ok.injEq] at rest
        obtain ⟨_, _, _, _, _, _, _, _, rfl⟩ := rest
        exact Option.some_inj.mp (otherGiven.symm.trans given)
    · contradiction
  subst same
  split at drafted
  · next modality single => exact ⟨modality, single, drafted⟩
  · contradiction

/-! ## Soundness of chains -/

theorem chainEdges_cons_cons (first second : ExecutionGraphNode) (rest : List ExecutionGraphNode) :
    chainEdges (first :: second :: rest) = link first second :: chainEdges (second :: rest) := rfl

theorem mem_chainEdges {nodes : List ExecutionGraphNode} {edge : ExecutionGraphEdge} :
    edge ∈ chainEdges nodes ↔ ∃ front source target back,
      nodes = front ++ source :: target :: back ∧ edge = link source target := by
  induction nodes with
  | nil => simp [chainEdges]
  | cons first rest induction =>
      cases rest with
      | nil =>
          simp only [chainEdges, List.tail_cons, List.zip_nil_right, List.map_nil, List.not_mem_nil,
            false_iff, not_exists, not_and]
          intro front source target back split
          have length := congrArg List.length split
          simp at length
          omega
      | cons second rest =>
          rw [chainEdges_cons_cons, List.mem_cons, induction]
          constructor
          · rintro (rfl | ⟨front, source, target, back, split, rfl⟩)
            · exact ⟨[], first, second, rest, rfl, rfl⟩
            · exact ⟨first :: front, source, target, back, by rw [split]; rfl, rfl⟩
          · rintro ⟨front, source, target, back, split, rfl⟩
            cases front with
            | nil =>
                simp only [List.nil_append, List.cons.injEq] at split
                obtain ⟨rfl, rfl, _⟩ := split
                exact .inl rfl
            | cons other front =>
                rw [List.cons_append, List.cons.injEq] at split
                exact .inr ⟨front, source, target, back, split.2, rfl⟩

theorem reaches_mono {arrows more : List (String × String)} (subset : arrows ⊆ more)
    {source target : String} (path : Reaches arrows source target) :
    Reaches more source target := by
  have linked : Linked arrows ≤ Linked more := fun _ _ arrow => subset arrow
  exact Relation.ReflTransGen.mono linked _ _ path

theorem reaches_from_first (first : ExecutionGraphNode) (rest : List ExecutionGraphNode) :
    ∀ node ∈ first :: rest,
      Reaches (arrowsOf (chainEdges (first :: rest))) first.nodeId node.nodeId := by
  induction rest generalizing first with
  | nil =>
      intro node member
      rw [List.mem_singleton.mp member]
      exact .refl
  | cons second rest induction =>
      intro node member
      rcases List.mem_cons.mp member with rfl | later
      · exact .refl
      · have linked : Linked (arrowsOf (chainEdges (first :: second :: rest))) first.nodeId
            second.nodeId := List.mem_cons_self
        have onward : Reaches (arrowsOf (chainEdges (first :: second :: rest))) second.nodeId
            node.nodeId :=
          reaches_mono (List.subset_cons_self _ _) (induction second node later)
        exact .head linked onward

theorem reaches_last (last : ExecutionGraphNode) (front : List ExecutionGraphNode) :
    ∀ node ∈ front ++ [last],
      Reaches (arrowsOf (chainEdges (front ++ [last]))) node.nodeId last.nodeId := by
  induction front with
  | nil =>
      intro node member
      rw [List.mem_singleton.mp member]
      exact .refl
  | cons first front induction =>
      intro node member
      rcases List.mem_cons.mp member with rfl | later
      · exact reaches_from_first node (front ++ [last]) last (by simp)
      · have onward := induction node later
        obtain ⟨second, rest, split⟩ := List.exists_cons_of_ne_nil
          (List.append_ne_nil_of_right_ne_nil front (List.cons_ne_nil last []))
        rw [List.cons_append, split, chainEdges_cons_cons]
        rw [split] at onward
        exact reaches_mono (List.subset_cons_self _ _) onward

/-- Every stage but the first has an incoming link. -/
theorem exists_link_into (first : ExecutionGraphNode) {rest : List ExecutionGraphNode}
    {node : ExecutionGraphNode} (member : node ∈ rest) :
    ∃ source, link source node ∈ chainEdges (first :: rest) := by
  obtain ⟨front, back, rfl⟩ := List.append_of_mem member
  rcases List.eq_nil_or_concat front with rfl | ⟨shorter, source, rfl⟩
  · exact ⟨first, mem_chainEdges.mpr ⟨[], first, node, back, rfl, rfl⟩⟩
  · exact ⟨source, mem_chainEdges.mpr ⟨first :: shorter, source, node, back, by simp, rfl⟩⟩

/-- Every stage but the last has an outgoing link. -/
theorem exists_link_from (last : ExecutionGraphNode) {front : List ExecutionGraphNode}
    {node : ExecutionGraphNode} (member : node ∈ front) :
    ∃ target, link node target ∈ chainEdges (front ++ [last]) := by
  obtain ⟨before, after, rfl⟩ := List.append_of_mem member
  cases after with
  | nil => exact ⟨last, mem_chainEdges.mpr ⟨before, node, last, [], by simp, rfl⟩⟩
  | cons target after =>
      exact ⟨target, mem_chainEdges.mpr ⟨before, node, target, after ++ [last], by simp, rfl⟩⟩

theorem link_isDataLike (source target : ExecutionGraphNode) :
    (link source target).dependencyType.isDataLike := by
  unfold link
  split <;> rfl

theorem link_toolResult_iff (source target : ExecutionGraphNode) :
    (link source target).dependencyType = .toolResult ↔ source.nodeType = .tool := by
  unfold link
  split <;> simp_all

/-- A graph whose nodes and edges are a chain from an input over inner stages to an output. -/
structure IsChain (graph : ExecutionGraph) (first : ExecutionGraphNode)
    (inner : List ExecutionGraphNode) (last : ExecutionGraphNode) : Prop where
  /-- The nodes are the stages. -/
  nodes_perm : graph.nodes.Perm (first :: inner ++ [last])
  /-- The edges are the links. -/
  mem_edges : ∀ edge, edge ∈ graph.edges ↔ edge ∈ chainEdges (first :: inner ++ [last])
  /-- The chain starts with an input. -/
  first_input : first.nodeType = .input
  /-- The chain ends with an output. -/
  last_output : last.nodeType = .output
  /-- The inner stages are processing stages that join nothing. -/
  inner_processing : ∀ node ∈ inner, ¬ node.nodeType.isBoundary ∧ node.nodeType ≠ .aggregate

namespace IsChain

variable {graph : ExecutionGraph} {first last : ExecutionGraphNode}
  {inner : List ExecutionGraphNode} (chain : IsChain graph first inner last)
include chain

theorem nodeIds_nodup : (nodeIdsOf (first :: inner ++ [last])).Nodup :=
  (chain.nodes_perm.map _).nodup_iff.mp graph.nodeIds_nodup

theorem linked_eq :
    Linked graph.arrows = Linked (arrowsOf (chainEdges (first :: inner ++ [last]))) :=
  ExecutionGraphDraft.linked_congr chain.mem_edges

theorem node_cases {node : ExecutionGraphNode} (member : node ∈ graph.nodes) :
    node = first ∨ node ∈ inner ∨ node = last := by
  have listed := chain.nodes_perm.mem_iff.mp member
  simpa using listed

theorem eq_first {node : ExecutionGraphNode} (member : node ∈ graph.nodes)
    (isInput : node.nodeType = .input) : node = first := by
  rcases chain.node_cases member with same | isInner | same
  · exact same
  · exact absurd (by rw [isInput]; rfl) (chain.inner_processing node isInner).1
  · rw [same, chain.last_output] at isInput
    contradiction

theorem eq_last {node : ExecutionGraphNode} (member : node ∈ graph.nodes)
    (isOutput : node.nodeType = .output) : node = last := by
  rcases chain.node_cases member with same | isInner | same
  · rw [same, chain.first_input] at isOutput
    contradiction
  · exact absurd (by rw [isOutput]; rfl) (chain.inner_processing node isInner).1
  · exact same

theorem mem_of_stage {node : ExecutionGraphNode} (listed : node ∈ first :: inner ++ [last]) :
    node ∈ graph.nodes := chain.nodes_perm.mem_iff.mpr listed

theorem reaches_eq :
    Reaches graph.arrows = Reaches (arrowsOf (chainEdges (first :: inner ++ [last]))) := by
  rw [Reaches, chain.linked_eq]
  rfl

/-- The edges of a chain are links between its nodes. -/
theorem exists_link {edge : ExecutionGraphEdge} (isEdge : edge ∈ graph.edges) :
    ∃ source target, source ∈ first :: inner ∧ target ∈ inner ++ [last] ∧
      edge = link source target := by
  obtain ⟨front, source, target, back, split, rfl⟩ :=
    mem_chainEdges.mp ((chain.mem_edges edge).mp isEdge)
  refine ⟨source, target, ?_, ?_, rfl⟩
  · rcases List.eq_nil_or_concat back with rfl | ⟨shorter, final, rfl⟩
    · have equal : first :: inner ++ [last] = (front ++ [source]) ++ [target] := by
        simpa using split
      obtain ⟨listed, _⟩ := List.append_inj' equal rfl
      simp [listed]
    · have equal :
          first :: inner ++ [last] = (front ++ source :: target :: shorter) ++ [final] := by
        simpa using split
      obtain ⟨listed, _⟩ := List.append_inj' equal rfl
      simp [listed]
  · cases front with
    | nil =>
        rw [List.nil_append, List.cons_append, List.cons.injEq] at split
        simp [split.2]
    | cons other front =>
        rw [List.cons_append, List.cons_append, List.cons.injEq] at split
        simp [split.2]

theorem sound_iff : Sound graph ↔ ∀ profile, graph.intelligenceProfile = some profile →
    Covers (graph.nodes.map ExecutionGraphNode.nodeType) profile := by
  refine ⟨Sound.covered, fun covered => ?_⟩
  have unique := chain.nodeIds_nodup
  have firstMember : first ∈ graph.nodes := chain.mem_of_stage (by simp)
  have lastMember : last ∈ graph.nodes := chain.mem_of_stage (by simp)
  have innerKind : ∀ node ∈ graph.nodes, node.nodeType ≠ .input → node.nodeType ≠ .output →
      node ∈ inner := by
    intro node member notInput notOutput
    rcases chain.node_cases member with rfl | isInner | rfl
    · exact absurd chain.first_input notInput
    · exact isInner
    · exact absurd chain.last_output notOutput
  have notBoundary : ∀ node : ExecutionGraphNode, ¬ node.nodeType.isBoundary →
      node.nodeType ≠ .input ∧ node.nodeType ≠ .output := by
    intro node inside
    constructor
    · intro isInput
      exact inside (by rw [isInput]; rfl)
    · intro isOutput
      exact inside (by rw [isOutput]; rfl)
  constructor
  case input_exists => exact ⟨first, firstMember, chain.first_input⟩
  case output_exists => exact ⟨last, lastMember, chain.last_output⟩
  case inputs_first =>
    intro node member isInput edge isEdge same
    obtain ⟨source, target, _, later, rfl⟩ := chain.exists_link isEdge
    rw [chain.eq_first member isInput] at same
    have fresh : first.nodeId ∉ nodeIdsOf (inner ++ [last]) := (List.nodup_cons.mp unique).1
    exact fresh (same ▸ List.mem_map_of_mem later)
  case outputs_last =>
    intro node member isOutput edge isEdge same
    obtain ⟨source, target, earlier, _, rfl⟩ := chain.exists_link isEdge
    rw [chain.eq_last member isOutput] at same
    rw [nodeIdsOf, List.map_append, List.nodup_append] at unique
    exact unique.2.2 _ (List.mem_map_of_mem earlier) _ (by simp) same
  case data_fed =>
    intro node member kind
    have later : node ∈ inner ++ [last] := by
      rcases chain.node_cases member with rfl | isInner | rfl
      · rw [chain.first_input] at kind
        exact absurd kind (by decide)
      · exact List.mem_append_left _ isInner
      · simp
    obtain ⟨source, isLink⟩ := exists_link_into first later
    exact ⟨_, (chain.mem_edges _).mpr isLink, rfl, link_isDataLike _ _⟩
  case reached =>
    intro node member _
    refine ⟨first, firstMember, chain.first_input, ?_⟩
    rw [chain.reaches_eq]
    exact reaches_from_first first (inner ++ [last]) node (chain.nodes_perm.mem_iff.mp member)
  case contributes =>
    intro node member _
    refine ⟨last, lastMember, chain.last_output, ?_⟩
    rw [chain.reaches_eq]
    exact reaches_last last (first :: inner) node (chain.nodes_perm.mem_iff.mp member)
  case aggregates_join =>
    intro node member isAggregate
    have isInner :=
      innerKind node member (by rw [isAggregate]; decide) (by rw [isAggregate]; decide)
    exact absurd isAggregate (chain.inner_processing node isInner).2
  case specialized_used =>
    intro node member special
    have notOutput : node.nodeType ≠ .output := by
      intro isOutput
      rw [isOutput] at special
      contradiction
    have earlier : node ∈ first :: inner := by
      rcases chain.node_cases member with rfl | isInner | rfl
      · simp
      · exact List.mem_cons_of_mem _ isInner
      · exact absurd chain.last_output notOutput
    obtain ⟨target, isLink⟩ := exists_link_from last earlier
    exact ⟨_, (chain.mem_edges _).mpr isLink, rfl⟩
  case tool_results =>
    intro edge isEdge node member same
    obtain ⟨source, target, earlier, _, rfl⟩ := chain.exists_link isEdge
    have sourceMember : source ∈ graph.nodes :=
      chain.mem_of_stage (List.mem_append_left _ earlier)
    obtain rfl := graph.eq_of_nodeId_eq member sourceMember same
    exact link_toolResult_iff node target
  case covered => exact covered

end IsChain

/-! ## What the builder accepts -/

/-- A chain of distinct stages has no cycle. -/
theorem acyclic_chainEdges {nodes : List ExecutionGraphNode} (unique : (nodeIdsOf nodes).Nodup) :
    Acyclic (arrowsOf (chainEdges nodes)) := by
  refine acyclic_of_rank (fun nodeId => (nodeIdsOf nodes).idxOf nodeId) ?_
  intro _ _ linked
  obtain ⟨edge, isEdge, rfl, rfl⟩ := linked_arrowsOf.mp linked
  obtain ⟨front, source, target, back, rfl, rfl⟩ := mem_chainEdges.mp isEdge
  rw [nodeIdsOf, List.map_append, List.map_cons, List.map_cons] at unique ⊢
  obtain ⟨_, later, apart⟩ := List.nodup_append.mp unique
  have sourceFresh : source.nodeId ∉ front.map ExecutionGraphNode.nodeId := fun earlier =>
    apart _ earlier _ List.mem_cons_self rfl
  have targetFresh : target.nodeId ∉ front.map ExecutionGraphNode.nodeId := fun earlier =>
    apart _ earlier _ (List.mem_cons_of_mem _ List.mem_cons_self) rfl
  have different : source.nodeId ≠ target.nodeId := fun same =>
    (List.nodup_cons.mp later).1 (same ▸ List.mem_cons_self)
  simp [link, List.idxOf_append_of_notMem sourceFresh, List.idxOf_append_of_notMem targetFresh,
    List.idxOf_cons_ne _ different]

/-- The ids that stages can have, in the order in which stages stand. -/
def stageIds : List String :=
  ["node-input", "node-preprocess-1", "node-transform-1", "node-retrieval-1", "node-tool-1",
    "node-reasoning-1", "node-reasoning-2", "node-validation-1", "node-z-output"]

section StageIds

variable (capabilities : CapabilityTuple) (modality : WorkloadModality)
  (complexity : ReasoningComplexity)

theorem nodeIdsOf_stageIf (node : ExecutionGraphNode) (condition : Prop) [Decidable condition] :
    (nodeIdsOf (stageIf node condition)).Sublist [node.nodeId] := by
  unfold stageIf
  split
  · exact .refl _
  · exact List.nil_sublist _

theorem nodeIdsOf_reasoningStages :
    (nodeIdsOf (reasoningStages capabilities complexity)).Sublist
      ["node-reasoning-1", "node-reasoning-2"] := by
  unfold reasoningStages reasoningCount
  split
  · exact .refl _
  · split
    · exact (List.nil_sublist _).cons_cons _
    · exact List.nil_sublist _

theorem nodeIdsOf_processingStages :
    (nodeIdsOf (processingStages capabilities modality complexity)).Sublist
      ["node-preprocess-1", "node-transform-1", "node-retrieval-1", "node-tool-1",
        "node-reasoning-1", "node-reasoning-2"] := by
  unfold processingStages
  split
  · exact ((List.nil_sublist _).cons_cons _).cons _
  · simp only [requestedStages, nodeIdsOf, List.map_append]
    exact ((((nodeIdsOf_stageIf _ _).append (nodeIdsOf_stageIf _ _)).append
      (nodeIdsOf_stageIf _ _)).append (nodeIdsOf_stageIf _ _)).append
      (nodeIdsOf_reasoningStages _ _)

theorem nodeIdsOf_stages_nodup :
    (nodeIdsOf (stages capabilities modality complexity)).Nodup := by
  have listed : (nodeIdsOf (stages capabilities modality complexity)).Sublist stageIds := by
    simp only [stages, innerStages, nodeIdsOf, List.map_append, List.map_cons]
    exact (((nodeIdsOf_processingStages _ _ _).append (nodeIdsOf_stageIf _ _)).cons_cons _).append
      (.refl _)
  exact List.Nodup.sublist listed (by decide)

end StageIds

theorem graphDraft_acceptable {result : WorkloadIntelligencePipelineResult}
    {profile : WorkloadIntelligenceProfile} (given : result.profile = some profile)
    (modality : WorkloadModality) : (graphDraft result profile modality).Acceptable where
  texts_nonblank := by
    have identity := result.identity_nonblank
    simp only [graphDraft, List.forall_mem_cons] at identity ⊢
    exact ⟨Text.nonblank_append_left (Text.nonblank_literal rfl) _, identity.1, identity.2.1,
      identity.2.2.1, Text.nonblank_literal rfl, identity.2.2.2⟩
  nodes_nonempty := List.cons_ne_nil _ _
  nodeIds_nodup := nodeIdsOf_stages_nodup _ _ _
  endpoints := by
    intro edge isEdge
    obtain ⟨front, source, target, back, split, rfl⟩ := mem_chainEdges.mp isEdge
    simp [graphDraft, split, nodeIdsOf, link]
  edges_proper := by
    intro edge isEdge same
    have noCycle : Acyclic (arrowsOf (graphDraft result profile modality).edges) :=
      acyclic_chainEdges (nodeIdsOf_stages_nodup _ _ _)
    have loop := linked_arrowsOf.mpr ⟨edge, isEdge, rfl, same.symm⟩
    exact noCycle edge.sourceNodeId (.single loop)
  profile_identity := by
    intro other isProfile
    obtain rfl := Option.some_inj.mp isProfile
    exact result.profile_identity _ given
  acyclic := acyclic_chainEdges (nodeIdsOf_stages_nodup _ _ _)
  provenance_nonempty := profile.evidence.nonempty

/-- A result that did not fail passes the checks of the builder. -/
theorem requireValidPipeline_eq_ok {result : WorkloadIntelligencePipelineResult}
    {profile : WorkloadIntelligenceProfile} (given : result.profile = some profile)
    (accepted : result.status ≠ .fail) : requireValidPipeline result = .ok profile := by
  obtain ⟨hasSignals, _, hasCalibration⟩ := result.complete accepted
  obtain ⟨signals, signalsGiven⟩ := Option.isSome_iff_exists.mp hasSignals
  obtain ⟨calibration, calibrationGiven⟩ := Option.isSome_iff_exists.mp hasCalibration
  have preserved : calibration.profile = profile := by
    have both := (result.calibration_profile _ calibrationGiven).symm.trans given
    exact Option.some_inj.mp both
  have calibrated : calibration.status = .pass ∨ calibration.status = .degraded := by
    have status := result.status_eq _ calibrationGiven
    cases outcome : calibration.status with
    | pass => exact .inl rfl
    | degraded => exact .inr rfl
    | fail => exact absurd (status.trans (by rw [outcome]; rfl)) accepted
  have passed : result.status = .pass ∨ result.status = .degraded := by
    cases outcome : result.status with
    | pass => exact .inl rfl
    | degraded => exact .inr rfl
    | fail => exact absurd outcome accepted
  have identity := result.profile_identity _ given
  simp only [requireValidPipeline, signalsGiven, given, calibrationGiven, bind_eq_ok, require_eq_ok,
    exists_const, pure_eq_ok, preserved, and_true]
  exact ⟨passed, calibrated, result.identity_nonblank, result.signals_identity _ signalsGiven,
    identity, identity⟩

/-- The builder makes a graph of every result that did not fail and whose profile has one
modality. -/
theorem exists_buildExecutionGraph {result : WorkloadIntelligencePipelineResult}
    {profile : WorkloadIntelligenceProfile} {modality : WorkloadModality}
    (given : result.profile = some profile) (accepted : result.status ≠ .fail)
    (single : profile.modalities.items = [modality]) :
    ∃ graph, buildExecutionGraph result = .ok graph := by
  have acceptable := graphDraft_acceptable given modality
  refine ⟨(graphDraft result profile modality).build acceptable, ?_⟩
  rw [buildExecutionGraph, requireValidPipeline_eq_ok given accepted, ok_bind, single]
  exact ExecutionGraphDraft.create_eq_ok_iff.mpr ⟨acceptable, rfl⟩

end Graph
end MercuryX
