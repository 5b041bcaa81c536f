import MercuryX.Foundation.Search
import MercuryX.Graph.Models

/-!
# Validation of execution graphs

The validator lists the issues of a graph. A graph passes exactly when it is sound: data flows from
inputs over processing nodes to outputs, specialised nodes are fed and used as their kind demands,
and the capabilities of the profile are covered by kinds of node.
-/

namespace MercuryX
namespace Graph

open Foundation
open Intelligence

/-- The outcome of a validation. -/
inductive GraphValidationStatus where
  | pass
  | degraded
  | fail
  deriving DecidableEq, Repr

/-- How grave an issue is. -/
inductive GraphValidationSeverity where
  | info
  | warning
  | error
  deriving DecidableEq, Repr

/-- One issue of a graph. -/
structure GraphValidationIssue where
  issueId : String
  severity : GraphValidationSeverity
  reason : String
  nodeId : Option String := none
  edge : Option (String × String) := none
  deriving DecidableEq

/-- Issues are ordered by their id, node and edge. -/
def GraphValidationIssue.key (issue : GraphValidationIssue) : String ×ₗ String ×ₗ List String :=
  toLex (issue.issueId, toLex (issue.nodeId.getD "",
    (issue.edge.map fun edge => [edge.1, edge.2]).getD []))

/-- The result of a validation. -/
structure ExecutionGraphValidationResult where
  graphId : String
  status : GraphValidationStatus
  issues : List GraphValidationIssue
  topologicalNodeIds : List String
  deriving DecidableEq

/-! ## The validator -/

/-- An error about a node. -/
def nodeError (issueId reason nodeId : String) : GraphValidationIssue :=
  ⟨issueId, .error, reason, some nodeId, none⟩

/-- An error about an edge. -/
def edgeError (issueId reason : String) (edge : ExecutionGraphEdge) : GraphValidationIssue :=
  ⟨issueId, .error, reason, none, some edge.arrow⟩

/-- An error about the whole graph. -/
def graphError (issueId reason : String) : GraphValidationIssue :=
  ⟨issueId, .error, reason, none, none⟩

/-- An issue, where a condition holds. -/
def issueIf (issue : GraphValidationIssue) (condition : Prop) [Decidable condition] :
    List GraphValidationIssue :=
  if condition then [issue] else []

@[simp] theorem issueIf_eq_nil {issue : GraphValidationIssue} {condition : Prop}
    [Decidable condition] : issueIf issue condition = [] ↔ ¬ condition := by
  simp [issueIf]

/-- Evidence is missing or blank. -/
def MalformedEvidence (evidence : EvidenceTuple) : Prop :=
  evidence.items = [] ∨ ∃ item ∈ evidence.items,
    ¬ Text.Nonblank item.source ∨ ¬ Text.Nonblank item.reason

instance (evidence : EvidenceTuple) : Decidable (MalformedEvidence evidence) :=
  inferInstanceAs (Decidable (_ ∨ _))

/-- The nodes with usable identities, and the issues of the others. -/
def collectNodes (nodes : List ExecutionGraphNode) :
    List ExecutionGraphNode → List GraphValidationIssue × List ExecutionGraphNode
  | [] => ([], nodes)
  | item :: items =>
      if ¬ Text.Nonblank item.nodeId then
        let rest := collectNodes nodes items
        (graphError "malformed_node_identity" "node identity must be nonblank" :: rest.1, rest.2)
      else if item.nodeId ∈ nodeIdsOf nodes then
        let rest := collectNodes nodes items
        (nodeError "duplicate_node_identity" "node identities must be unique" item.nodeId :: rest.1,
          rest.2)
      else
        let rest := collectNodes (nodes ++ [item]) items
        (issueIf (nodeError "malformed_node_evidence" "node evidence must be nonblank" item.nodeId)
          (MalformedEvidence item.evidence) ++ rest.1, rest.2)

/-- The edges that can be followed, and the issues of the others. -/
def collectEdges (nodeIds : List String) :
    List ExecutionGraphEdge → List GraphValidationIssue × List ExecutionGraphEdge
  | [] => ([], [])
  | item :: items =>
      let rest := collectEdges nodeIds items
      if item.sourceNodeId ∉ nodeIds then
        (edgeError "dangling_edge_source" "edge source node does not exist" item :: rest.1, rest.2)
      else if item.targetNodeId ∉ nodeIds then
        (edgeError "dangling_edge_target" "edge target node does not exist" item :: rest.1, rest.2)
      else if item.sourceNodeId = item.targetNodeId then
        (edgeError "self_edge" "self-edge is not valid logical flow" item :: rest.1, rest.2)
      else
        (issueIf (edgeError "malformed_edge_evidence" "edge evidence must be nonblank" item)
          (MalformedEvidence item.evidence) ++ rest.1, item :: rest.2)

/-- The edges into a node. -/
def incomingEdges (edges : List ExecutionGraphEdge) (nodeId : String) : List ExecutionGraphEdge :=
  edges.filter fun edge => edge.targetNodeId = nodeId

/-- The edges out of a node. -/
def outgoingEdges (edges : List ExecutionGraphEdge) (nodeId : String) : List ExecutionGraphEdge :=
  edges.filter fun edge => edge.sourceNodeId = nodeId

/-- The number of edges that hand on data. -/
def dataLikeCount (edges : List ExecutionGraphEdge) : Nat :=
  edges.countP fun edge => edge.dependencyType.isDataLike

/-- Some edge hands on data. -/
def hasDataLikeInput (edges : List ExecutionGraphEdge) : Bool :=
  edges.any fun edge => edge.dependencyType.isDataLike

/-- The ids of the nodes of a kind, in order. -/
def nodesOfType (nodes : List ExecutionGraphNode) (nodeType : GraphNodeType) : List String :=
  sortOn id (nodeIdsOf (nodes.filter fun node => node.nodeType = nodeType))

/-- The kind of a node, by its id. -/
def typeOf (nodes : List ExecutionGraphNode) (nodeId : String) : Option GraphNodeType :=
  (nodes.find? fun node => node.nodeId = nodeId).map ExecutionGraphNode.nodeType

/-- The sources of the edges into a node, in order. -/
def sortedSources (edges : List ExecutionGraphEdge) (nodeId : String) : List String :=
  sortOn id ((incomingEdges edges nodeId).map ExecutionGraphEdge.sourceNodeId)

/-- The nodes that a search from some nodes sees. -/
def reachable (neighbors : String → List String) (nodeIds starts : List String) : List String :=
  Search.explore neighbors nodeIds.length ⟨starts, starts⟩

/-- The kinds of node that are not processing. -/
def GraphNodeType.isBoundary (nodeType : GraphNodeType) : Bool := nodeType ∈ [input, output]

/-- The kinds of node that need data from upstream. -/
def GraphNodeType.needsData (nodeType : GraphNodeType) : Bool :=
  nodeType ∈ [preprocess, transform, validation]

/-- The kinds of node whose results have to be consumed. -/
def GraphNodeType.isSpecialized (nodeType : GraphNodeType) : Bool := nodeType ∈ [retrieval, tool]

/-- The issues of an input node. -/
def inputIssues (edges : List ExecutionGraphEdge) (nodeId : String) : List GraphValidationIssue :=
  issueIf (nodeError "input_has_dependency" "INPUT node must not depend on downstream flow" nodeId)
    (incomingEdges edges nodeId ≠ [])

/-- The issues of an output node. -/
def outputIssues (edges : List ExecutionGraphEdge) (nodeId : String) : List GraphValidationIssue :=
  issueIf (nodeError "output_has_downstream_flow" "OUTPUT node must not feed processing nodes"
      nodeId) (outgoingEdges edges nodeId ≠ []) ++
    issueIf (nodeError "output_without_final_result" "OUTPUT node must consume a valid final result"
      nodeId) (¬ hasDataLikeInput (incomingEdges edges nodeId))

/-- The issues of a node in the flow of data. -/
def flowIssues (edges : List ExecutionGraphEdge) (reachableFromInput reachesOutput : List String)
    (node : ExecutionGraphNode) : List GraphValidationIssue :=
  let incoming := incomingEdges edges node.nodeId
  issueIf (nodeError "orphan_node" "processing node is unreachable from INPUT" node.nodeId)
      (¬ node.nodeType.isBoundary ∧ node.nodeId ∉ reachableFromInput) ++
    issueIf (nodeError "processing_cannot_reach_output"
        "processing node cannot contribute to OUTPUT" node.nodeId)
      (¬ node.nodeType.isBoundary ∧ node.nodeId ∉ reachesOutput) ++
    issueIf (nodeError "node_without_upstream_data"
        s!"{node.nodeType.value} node requires upstream logical data" node.nodeId)
      (node.nodeType.needsData ∧ ¬ hasDataLikeInput incoming) ++
    issueIf (nodeError "aggregate_missing_inputs"
        "AGGREGATE node requires multiple justified inputs" node.nodeId)
      (node.nodeType = .aggregate ∧ dataLikeCount incoming < 2) ++
    issueIf (nodeError "unused_specialized_node"
        s!"{node.nodeType.value} result has no downstream consumer" node.nodeId)
      (node.nodeType.isSpecialized ∧ outgoingEdges edges node.nodeId = [])

/-- The issues of an edge at a tool. -/
def toolIssues (nodes : List ExecutionGraphNode) (edge : ExecutionGraphEdge) :
    List GraphValidationIssue :=
  let sourceType := typeOf nodes edge.sourceNodeId
  issueIf (edgeError "invalid_tool_result_producer" "TOOL_RESULT must originate from a TOOL node"
      edge) (edge.dependencyType = .toolResult ∧ sourceType ≠ some .tool) ++
    issueIf (edgeError "tool_result_as_generic_dependency"
        "TOOL output must use TOOL_RESULT dependency semantics" edge)
      (sourceType = some .tool ∧ edge.dependencyType ≠ .toolResult)

/-- The capabilities of a profile that no kind of node covers. -/
def coverageIssues (nodes : List ExecutionGraphNode) :
    Option WorkloadIntelligenceProfile → List GraphValidationIssue
  | none => []
  | some profile =>
      let types := nodes.map ExecutionGraphNode.nodeType
      let capabilities := profile.requiredCapabilities.items
      issueIf (graphError "missing_retrieval_coverage"
          "RETRIEVAL capability lacks a logical RETRIEVAL node")
        (.retrieval ∈ capabilities ∧ .retrieval ∉ types) ++
      issueIf (graphError "missing_tool_coverage" "tool capability lacks a logical TOOL node")
        ((.toolUse ∈ capabilities ∨ .codeExecution ∈ capabilities) ∧ .tool ∉ types) ++
      issueIf (graphError "missing_structured_output_coverage"
          "STRUCTURED_OUTPUT capability lacks a logical VALIDATION node")
        (.structuredOutput ∈ capabilities ∧ .validation ∉ types) ++
      issueIf (graphError "missing_vision_coverage"
          "VISION capability lacks logical visual preprocessing")
        (.vision ∈ capabilities ∧ .preprocess ∉ types)

/-- The issues of collected nodes and edges. -/
def structureIssues (graph : ExecutionGraph) (nodes : List ExecutionGraphNode)
    (edges : List ExecutionGraphEdge) (order : List String) : List GraphValidationIssue :=
  let nodeIds := nodeIdsOf nodes
  let inputs := nodesOfType nodes .input
  let outputs := nodesOfType nodes .output
  let reachableFromInput := reachable (sortedTargets edges) nodeIds inputs
  let reachesOutput := reachable (sortedSources edges) nodeIds outputs
  issueIf (graphError "cycle" "logical graph contains a dependency cycle")
      (order.length ≠ nodes.length) ++
    issueIf (graphError "missing_input" "graph requires at least one INPUT node") (inputs = []) ++
    issueIf (graphError "missing_output" "graph requires at least one OUTPUT node")
      (outputs = []) ++
    inputs.flatMap (inputIssues edges) ++
    outputs.flatMap (outputIssues edges) ++
    nodes.flatMap (flowIssues edges reachableFromInput reachesOutput) ++
    edges.flatMap (toolIssues nodes) ++
    coverageIssues nodes graph.intelligenceProfile

/-- The order in which nodes can run, always the least available first. -/
def topologicalOrder (nodeIds : List String) (edges : List ExecutionGraphEdge) : List String :=
  visitOrder (sortOn id) nodeIds edges

/-- Analyze a logical graph. -/
def validateExecutionGraph (graph : ExecutionGraph) : ExecutionGraphValidationResult :=
  let (nodeIssues, nodes) := collectNodes [] graph.nodes
  let (edgeIssues, edges) := collectEdges (nodeIdsOf nodes) graph.edges
  let order := topologicalOrder (nodeIdsOf nodes) edges
  let issues :=
    issueIf (graphError "malformed_graph_identity" "graph identity fields must be nonblank")
        (∃ text ∈ [graph.graphId, graph.requestId, graph.workloadId, graph.sessionId],
          ¬ Text.Nonblank text) ++
      nodeIssues ++ edgeIssues ++ structureIssues graph nodes edges order
  { graphId := graph.graphId
    status := if issues ≠ [] then .fail else .pass
    issues := canonical GraphValidationIssue.key issues
    topologicalNodeIds := order }

/-! ## What the constructor already guarantees -/

theorem not_malformedEvidence (evidence : EvidenceTuple) : ¬ MalformedEvidence evidence := by
  rintro (empty | ⟨item, _, blank | blank⟩)
  · exact evidence.nonempty empty
  · exact blank item.source_nonblank
  · exact blank item.reason_nonblank

theorem collectNodes_eq (nodes items : List ExecutionGraphNode)
    (unique : (nodeIdsOf (nodes ++ items)).Nodup) :
    collectNodes nodes items = ([], nodes ++ items) := by
  induction items generalizing nodes with
  | nil => simp [collectNodes]
  | cons item items induction =>
      have fresh : item.nodeId ∉ nodeIdsOf nodes := by
        rw [nodeIdsOf, List.map_append, List.nodup_append] at unique
        exact fun member => unique.2.2 _ member _ (by simp) rfl
      have rest := induction (nodes ++ [item]) (by simpa using unique)
      simp [collectNodes, item.nodeId_nonblank, fresh, rest, issueIf,
        not_malformedEvidence item.evidence]

/-- Edges between different nodes are all collected without an issue. -/
theorem collectEdges_eq {nodeIds : List String} {edges : List ExecutionGraphEdge}
    (inside : EndpointsIn nodeIds edges)
    (proper : ∀ edge ∈ edges, edge.sourceNodeId ≠ edge.targetNodeId) :
    collectEdges nodeIds edges = ([], edges) := by
  induction edges with
  | nil => rfl
  | cons edge edges induction =>
      have rest := induction (fun other member => inside other (List.mem_cons_of_mem _ member))
        (fun other member => proper other (List.mem_cons_of_mem _ member))
      have ends := inside edge List.mem_cons_self
      simp [collectEdges, rest, ends.1, ends.2, proper edge List.mem_cons_self, issueIf,
        not_malformedEvidence edge.evidence]

namespace ExecutionGraph

variable (graph : ExecutionGraph)

theorem collectNodes_nodes : collectNodes [] graph.nodes = ([], graph.nodes) := by
  simpa using collectNodes_eq [] graph.nodes (by simpa using graph.nodeIds_nodup)

theorem collectEdges_edges : collectEdges (nodeIdsOf graph.nodes) graph.edges = ([], graph.edges) :=
  collectEdges_eq graph.endpoints graph.edges_proper

theorem length_topologicalOrder :
    (topologicalOrder (nodeIdsOf graph.nodes) graph.edges).length = graph.nodes.length := by
  have complete := (length_visitOrder_iff (sortOn_perm id) graph.nodeIds_nodup
    graph.endpoints).mpr graph.acyclic
  simpa [topologicalOrder, nodeIdsOf] using complete

theorem eq_of_nodeId_eq {left right : ExecutionGraphNode} (leftMember : left ∈ graph.nodes)
    (rightMember : right ∈ graph.nodes) (same : left.nodeId = right.nodeId) : left = right :=
  List.inj_on_of_nodup_map graph.nodeIds_nodup leftMember rightMember same

theorem typeOf_eq {node : ExecutionGraphNode} (member : node ∈ graph.nodes) :
    typeOf graph.nodes node.nodeId = some node.nodeType := by
  unfold typeOf
  cases found : graph.nodes.find? fun other => other.nodeId = node.nodeId with
  | none =>
      rw [List.find?_eq_none] at found
      exact absurd (decide_eq_true rfl) (found node member)
  | some other =>
      have same : other.nodeId = node.nodeId := by simpa using List.find?_some found
      rw [graph.eq_of_nodeId_eq (List.mem_of_find?_eq_some found) member same]
      rfl

end ExecutionGraph

/-! ## Soundness -/

@[simp] theorem mem_incomingEdges {edges : List ExecutionGraphEdge} {nodeId : String}
    {edge : ExecutionGraphEdge} :
    edge ∈ incomingEdges edges nodeId ↔ edge ∈ edges ∧ edge.targetNodeId = nodeId := by
  simp [incomingEdges]

@[simp] theorem mem_outgoingEdges {edges : List ExecutionGraphEdge} {nodeId : String}
    {edge : ExecutionGraphEdge} :
    edge ∈ outgoingEdges edges nodeId ↔ edge ∈ edges ∧ edge.sourceNodeId = nodeId := by
  simp [outgoingEdges]

@[simp] theorem mem_nodesOfType {nodes : List ExecutionGraphNode} {nodeType : GraphNodeType}
    {nodeId : String} : nodeId ∈ nodesOfType nodes nodeType ↔
      ∃ node ∈ nodes, node.nodeType = nodeType ∧ node.nodeId = nodeId := by
  simp [nodesOfType, nodeIdsOf, and_assoc]

theorem mem_sortedTargets {edges : List ExecutionGraphEdge} {source target : String} :
    target ∈ sortedTargets edges source ↔ Linked (arrowsOf edges) source target := by
  simp [sortedTargets, Kahn.successors, Linked]

theorem mem_sortedSources {edges : List ExecutionGraphEdge} {source target : String} :
    source ∈ sortedSources edges target ↔ Linked (arrowsOf edges) source target := by
  simp [sortedSources, linked_arrowsOf, and_assoc, and_comm]

/-- The kinds of node cover the capabilities of a profile. -/
structure Covers (types : List GraphNodeType) (profile : WorkloadIntelligenceProfile) : Prop where
  /-- Retrieval has a retrieval node. -/
  retrieval : .retrieval ∈ profile.requiredCapabilities.items → .retrieval ∈ types
  /-- Tools and code execution have a tool node. -/
  tool : .toolUse ∈ profile.requiredCapabilities.items ∨
    .codeExecution ∈ profile.requiredCapabilities.items → .tool ∈ types
  /-- Structured output has a validation node. -/
  validation : .structuredOutput ∈ profile.requiredCapabilities.items → .validation ∈ types
  /-- Vision has a preprocessing node. -/
  vision : .vision ∈ profile.requiredCapabilities.items → .preprocess ∈ types

/-- Data flows through the graph as the kinds of its nodes demand. -/
structure Sound (graph : ExecutionGraph) : Prop where
  /-- There is an input. -/
  input_exists : ∃ node ∈ graph.nodes, node.nodeType = .input
  /-- There is an output. -/
  output_exists : ∃ node ∈ graph.nodes, node.nodeType = .output
  /-- Inputs depend on nothing. -/
  inputs_first : ∀ node ∈ graph.nodes, node.nodeType = .input →
    ∀ edge ∈ graph.edges, edge.targetNodeId ≠ node.nodeId
  /-- Nothing depends on outputs. -/
  outputs_last : ∀ node ∈ graph.nodes, node.nodeType = .output →
    ∀ edge ∈ graph.edges, edge.sourceNodeId ≠ node.nodeId
  /-- Outputs and the nodes that need data receive data. -/
  data_fed : ∀ node ∈ graph.nodes, node.nodeType = .output ∨ node.nodeType.needsData →
    ∃ edge ∈ graph.edges, edge.targetNodeId = node.nodeId ∧ edge.dependencyType.isDataLike
  /-- Every processing node is reached from an input. -/
  reached : ∀ node ∈ graph.nodes, ¬ node.nodeType.isBoundary →
    ∃ start ∈ graph.nodes, start.nodeType = .input ∧
      Reaches graph.arrows start.nodeId node.nodeId
  /-- Every processing node reaches an output. -/
  contributes : ∀ node ∈ graph.nodes, ¬ node.nodeType.isBoundary →
    ∃ final ∈ graph.nodes, final.nodeType = .output ∧
      Reaches graph.arrows node.nodeId final.nodeId
  /-- Aggregates join at least two edges with data. -/
  aggregates_join : ∀ node ∈ graph.nodes, node.nodeType = .aggregate →
    2 ≤ dataLikeCount (incomingEdges graph.edges node.nodeId)
  /-- The results of specialised nodes are consumed. -/
  specialized_used : ∀ node ∈ graph.nodes, node.nodeType.isSpecialized →
    ∃ edge ∈ graph.edges, edge.sourceNodeId = node.nodeId
  /-- Tool results come from tools, and tools give nothing else. -/
  tool_results : ∀ edge ∈ graph.edges, ∀ node ∈ graph.nodes, node.nodeId = edge.sourceNodeId →
    (edge.dependencyType = .toolResult ↔ node.nodeType = .tool)
  /-- The profile is covered. -/
  covered : ∀ profile, graph.intelligenceProfile = some profile →
    Covers (graph.nodes.map ExecutionGraphNode.nodeType) profile

namespace ExecutionGraph

variable {graph : ExecutionGraph}

theorem nodesOfType_nodup (nodeType : GraphNodeType) :
    (nodesOfType graph.nodes nodeType).Nodup := by
  rw [nodesOfType, (sortOn_perm id _).nodup_iff]
  exact graph.nodeIds_nodup.sublist (List.filter_sublist.map _)

theorem nodesOfType_subset (nodeType : GraphNodeType) :
    ∀ nodeId ∈ nodesOfType graph.nodes nodeType, nodeId ∈ nodeIdsOf graph.nodes := by
  intro nodeId member
  obtain ⟨node, isNode, _, rfl⟩ := mem_nodesOfType.mp member
  exact List.mem_map_of_mem isNode

theorem neighbors_targets (edges : List ExecutionGraphEdge) :
    (fun current neighbor => neighbor ∈ sortedTargets edges current) = Linked (arrowsOf edges) := by
  funext current neighbor
  exact propext mem_sortedTargets

theorem neighbors_sources (edges : List ExecutionGraphEdge) :
    (fun current neighbor => neighbor ∈ sortedSources edges current) =
      Function.swap (Linked (arrowsOf edges)) := by
  funext current neighbor
  exact propext mem_sortedSources

theorem targets_inside : ∀ vertex ∈ nodeIdsOf graph.nodes,
    ∀ neighbor ∈ sortedTargets graph.edges vertex, neighbor ∈ nodeIdsOf graph.nodes :=
  fun _ _ _ found => (graph.endpoints.arrow_mem _ (mem_sortedTargets.mp found)).2

theorem sources_inside : ∀ vertex ∈ nodeIdsOf graph.nodes,
    ∀ neighbor ∈ sortedSources graph.edges vertex, neighbor ∈ nodeIdsOf graph.nodes :=
  fun _ _ _ found => (graph.endpoints.arrow_mem _ (mem_sortedSources.mp found)).1

/-- The forward search sees what some start reaches. -/
theorem mem_reachable_targets_iff {starts : List String} (unique : starts.Nodup)
    (inside : ∀ start ∈ starts, start ∈ nodeIdsOf graph.nodes) {nodeId : String} :
    nodeId ∈ reachable (sortedTargets graph.edges) (nodeIdsOf graph.nodes) starts ↔
      ∃ start ∈ starts, Reaches graph.arrows start nodeId := by
  rw [reachable, Search.mem_explore_iff unique inside targets_inside, neighbors_targets]
  rfl

/-- The backward search sees what reaches some start. -/
theorem mem_reachable_sources_iff {starts : List String} (unique : starts.Nodup)
    (inside : ∀ start ∈ starts, start ∈ nodeIdsOf graph.nodes) {nodeId : String} :
    nodeId ∈ reachable (sortedSources graph.edges) (nodeIdsOf graph.nodes) starts ↔
      ∃ start ∈ starts, Reaches graph.arrows nodeId start := by
  rw [reachable, Search.mem_explore_iff unique inside sources_inside, neighbors_sources]
  simp only [Relation.reflTransGen_swap]
  rfl

/-- The forward search sees what an input reaches. -/
theorem mem_reachable_targets {nodeId : String} :
    nodeId ∈ reachable (sortedTargets graph.edges) (nodeIdsOf graph.nodes)
        (nodesOfType graph.nodes .input) ↔
      ∃ start ∈ graph.nodes, start.nodeType = .input ∧
        Reaches graph.arrows start.nodeId nodeId := by
  rw [mem_reachable_targets_iff (nodesOfType_nodup _) (nodesOfType_subset _)]
  simp only [mem_nodesOfType]
  constructor
  · rintro ⟨_, ⟨start, member, isInput, rfl⟩, path⟩
    exact ⟨start, member, isInput, path⟩
  · rintro ⟨start, member, isInput, path⟩
    exact ⟨_, ⟨start, member, isInput, rfl⟩, path⟩

/-- The backward search sees what reaches an output. -/
theorem mem_reachable_sources {nodeId : String} :
    nodeId ∈ reachable (sortedSources graph.edges) (nodeIdsOf graph.nodes)
        (nodesOfType graph.nodes .output) ↔
      ∃ final ∈ graph.nodes, final.nodeType = .output ∧
        Reaches graph.arrows nodeId final.nodeId := by
  rw [mem_reachable_sources_iff (nodesOfType_nodup _) (nodesOfType_subset _)]
  simp only [mem_nodesOfType]
  constructor
  · rintro ⟨_, ⟨final, member, isOutput, rfl⟩, path⟩
    exact ⟨final, member, isOutput, path⟩
  · rintro ⟨final, member, isOutput, path⟩
    exact ⟨_, ⟨final, member, isOutput, rfl⟩, path⟩

/-- The forward search ends by itself: further steps see nothing more. -/
theorem reachable_targets_add {starts : List String} (unique : starts.Nodup)
    (inside : ∀ start ∈ starts, start ∈ nodeIdsOf graph.nodes) (more : Nat) :
    Search.explore (sortedTargets graph.edges) ((nodeIdsOf graph.nodes).length + more)
        ⟨starts, starts⟩ =
      reachable (sortedTargets graph.edges) (nodeIdsOf graph.nodes) starts :=
  Search.explore_add targets_inside _ more (Search.invariant_initial unique inside) (by simp)

theorem reachable_sources_add {starts : List String} (unique : starts.Nodup)
    (inside : ∀ start ∈ starts, start ∈ nodeIdsOf graph.nodes) (more : Nat) :
    Search.explore (sortedSources graph.edges) ((nodeIdsOf graph.nodes).length + more)
        ⟨starts, starts⟩ =
      reachable (sortedSources graph.edges) (nodeIdsOf graph.nodes) starts :=
  Search.explore_add sources_inside _ more (Search.invariant_initial unique inside) (by simp)

/-- An input, or an output, is missing from the list of its kind exactly when there is none. -/
theorem nodesOfType_ne_nil_iff {nodeType : GraphNodeType} :
    nodesOfType graph.nodes nodeType ≠ [] ↔ ∃ node ∈ graph.nodes, node.nodeType = nodeType := by
  constructor
  · intro nonempty
    obtain ⟨nodeId, member⟩ := List.exists_mem_of_ne_nil _ nonempty
    obtain ⟨node, isNode, ofType, _⟩ := mem_nodesOfType.mp member
    exact ⟨node, isNode, ofType⟩
  · rintro ⟨node, isNode, ofType⟩
    exact List.ne_nil_of_mem (mem_nodesOfType.mpr ⟨node, isNode, ofType, rfl⟩)

end ExecutionGraph

theorem hasDataLikeInput_incoming {edges : List ExecutionGraphEdge} {nodeId : String} :
    hasDataLikeInput (incomingEdges edges nodeId) = true ↔
      ∃ edge ∈ edges, edge.targetNodeId = nodeId ∧ edge.dependencyType.isDataLike := by
  simp [hasDataLikeInput, and_assoc]

theorem incomingEdges_eq_nil {edges : List ExecutionGraphEdge} {nodeId : String} :
    incomingEdges edges nodeId = [] ↔ ∀ edge ∈ edges, edge.targetNodeId ≠ nodeId := by
  simp [incomingEdges]

theorem outgoingEdges_eq_nil {edges : List ExecutionGraphEdge} {nodeId : String} :
    outgoingEdges edges nodeId = [] ↔ ∀ edge ∈ edges, edge.sourceNodeId ≠ nodeId := by
  simp [outgoingEdges]

theorem flowIssues_eq_nil {edges : List ExecutionGraphEdge} {fromInput toOutput : List String}
    {node : ExecutionGraphNode} :
    flowIssues edges fromInput toOutput node = [] ↔
      (¬ node.nodeType.isBoundary → node.nodeId ∈ fromInput) ∧
        (¬ node.nodeType.isBoundary → node.nodeId ∈ toOutput) ∧
        (node.nodeType.needsData →
          ∃ edge ∈ edges, edge.targetNodeId = node.nodeId ∧ edge.dependencyType.isDataLike) ∧
        (node.nodeType = .aggregate → 2 ≤ dataLikeCount (incomingEdges edges node.nodeId)) ∧
        (node.nodeType.isSpecialized → ∃ edge ∈ edges, edge.sourceNodeId = node.nodeId) := by
  simp only [flowIssues, List.append_eq_nil_iff, issueIf_eq_nil, not_and, not_not, not_lt,
    hasDataLikeInput_incoming, outgoingEdges_eq_nil, and_assoc, not_forall, exists_prop]

theorem toolIssues_eq_nil {nodes : List ExecutionGraphNode} {edge : ExecutionGraphEdge} :
    toolIssues nodes edge = [] ↔
      (edge.dependencyType = .toolResult ↔ typeOf nodes edge.sourceNodeId = some .tool) := by
  simp only [toolIssues, List.append_eq_nil_iff, issueIf_eq_nil, not_and, not_not]
  exact ⟨fun ⟨produced, given⟩ => ⟨produced, given⟩, fun same => ⟨same.mp, same.mpr⟩⟩

theorem coverageIssues_eq_nil {nodes : List ExecutionGraphNode}
    {profile : Option WorkloadIntelligenceProfile} :
    coverageIssues nodes profile = [] ↔
      ∀ given, profile = some given → Covers (nodes.map ExecutionGraphNode.nodeType) given := by
  cases profile with
  | none => simp [coverageIssues]
  | some profile =>
      simp only [coverageIssues, List.append_eq_nil_iff, issueIf_eq_nil, not_and, not_not,
        Option.some_inj, forall_eq']
      constructor
      · rintro ⟨⟨⟨retrieval, tool⟩, validation⟩, vision⟩
        exact ⟨retrieval, tool, validation, vision⟩
      · intro covers
        exact ⟨⟨⟨covers.retrieval, covers.tool⟩, covers.validation⟩, covers.vision⟩

theorem validate_status_eq_pass_iff {graph : ExecutionGraph} :
    (validateExecutionGraph graph).status = .pass ↔
      structureIssues graph graph.nodes graph.edges
        (topologicalOrder (nodeIdsOf graph.nodes) graph.edges) = [] := by
  have identity : ¬ ∃ text ∈ [graph.graphId, graph.requestId, graph.workloadId, graph.sessionId],
      ¬ Text.Nonblank text := by
    rintro ⟨text, member, blank⟩
    exact blank (graph.texts_nonblank text (by
      simp only [List.mem_cons, List.not_mem_nil, or_false] at member ⊢
      tauto))
  simp only [validateExecutionGraph, graph.collectNodes_nodes, graph.collectEdges_edges, issueIf,
    if_neg identity, List.nil_append]
  split <;> simp_all

theorem validate_pass_iff {graph : ExecutionGraph} :
    (validateExecutionGraph graph).status = .pass ↔ Sound graph := by
  rw [validate_status_eq_pass_iff]
  have complete := graph.length_topologicalOrder
  simp only [structureIssues, List.append_eq_nil_iff, issueIf_eq_nil, List.flatMap_eq_nil_iff,
    flowIssues_eq_nil, toolIssues_eq_nil, coverageIssues_eq_nil, inputIssues, outputIssues,
    hasDataLikeInput_incoming, incomingEdges_eq_nil, outgoingEdges_eq_nil, not_not,
    ExecutionGraph.mem_reachable_targets, ExecutionGraph.mem_reachable_sources, complete,
    true_and]
  rw [← ne_eq, ← ne_eq, ExecutionGraph.nodesOfType_ne_nil_iff,
    ExecutionGraph.nodesOfType_ne_nil_iff]
  constructor
  · rintro ⟨⟨⟨⟨⟨⟨input, output⟩, inputs⟩, outputs⟩, flow⟩, tools⟩, covered⟩
    exact
      { input_exists := input
        output_exists := output
        inputs_first := fun node member isInput =>
          inputs node.nodeId (mem_nodesOfType.mpr ⟨node, member, isInput, rfl⟩)
        outputs_last := fun node member isOutput =>
          (outputs node.nodeId (mem_nodesOfType.mpr ⟨node, member, isOutput, rfl⟩)).1
        data_fed := fun node member kind => by
          rcases kind with isOutput | needsData
          · exact (outputs node.nodeId (mem_nodesOfType.mpr ⟨node, member, isOutput, rfl⟩)).2
          · exact (flow node member).2.2.1 needsData
        reached := fun node member => (flow node member).1
        contributes := fun node member => (flow node member).2.1
        aggregates_join := fun node member => (flow node member).2.2.2.1
        specialized_used := fun node member => (flow node member).2.2.2.2
        tool_results := fun edge isEdge node member same => by
          rw [tools edge isEdge, ← same, graph.typeOf_eq member, Option.some_inj]
        covered := covered }
  · intro sound
    refine ⟨⟨⟨⟨⟨⟨sound.input_exists, sound.output_exists⟩, ?_⟩, ?_⟩, ?_⟩, ?_⟩, sound.covered⟩
    · intro nodeId member
      obtain ⟨node, isNode, isInput, rfl⟩ := mem_nodesOfType.mp member
      exact sound.inputs_first node isNode isInput
    · intro nodeId member
      obtain ⟨node, isNode, isOutput, rfl⟩ := mem_nodesOfType.mp member
      exact ⟨sound.outputs_last node isNode isOutput, sound.data_fed node isNode (.inl isOutput)⟩
    · intro node member
      exact ⟨sound.reached node member, sound.contributes node member,
        fun needsData => sound.data_fed node member (.inr needsData),
        sound.aggregates_join node member, sound.specialized_used node member⟩
    · intro edge isEdge
      obtain ⟨node, isNode, same⟩ := List.mem_map.mp (graph.endpoints edge isEdge).1
      rw [sound.tool_results edge isEdge node isNode same, ← same, graph.typeOf_eq isNode,
        Option.some_inj]

end Graph
end MercuryX
