import MercuryX.Foundation.Kahn
import MercuryX.Intelligence.Pipeline

/-!
# Execution graphs

Logical operations and the dependencies between them. The constructor of a graph sorts the nodes,
puts the edges in canonical form, and rejects repeated node ids, edges that dangle, self-edges and
cycles; a graph carries what its constructor checked.
-/

namespace MercuryX
namespace Graph

open Foundation
open Intelligence

/-- The kinds of node. -/
inductive GraphNodeType where
  | input
  | preprocess
  | reasoning
  | retrieval
  | tool
  | transform
  | aggregate
  | output
  | validation
  deriving DecidableEq, Repr

/-- The text of a kind of node. -/
def GraphNodeType.value : GraphNodeType → String
  | input => "input"
  | preprocess => "preprocess"
  | reasoning => "reasoning"
  | retrieval => "retrieval"
  | tool => "tool"
  | transform => "transform"
  | aggregate => "aggregate"
  | output => "output"
  | validation => "validation"

/-- The kinds of dependency. -/
inductive GraphDependencyType where
  | data
  | control
  | context
  | toolResult
  deriving DecidableEq, Repr

/-- The text of a kind of dependency. -/
def GraphDependencyType.value : GraphDependencyType → String
  | data => "data"
  | control => "control"
  | context => "context"
  | toolResult => "tool_result"

/-- The dependencies that hand on data. -/
def GraphDependencyType.isDataLike (dependency : GraphDependencyType) : Bool :=
  dependency ∈ [data, context, toolResult]

/-- The status of a graph. -/
inductive ExecutionGraphStatus where
  | declared
  deriving DecidableEq, Repr

theorem noReferences_valid : canonical id ([] : List String) = [] ∧
    ∀ reference ∈ ([] : List String), Text.Nonblank reference := ⟨rfl, by simp⟩

theorem noContract_nonblank :
    ∀ contract : String, none = some contract → Text.Nonblank contract := by
  simp

/-- A logical operation. -/
structure ExecutionGraphNode where
  nodeId : String
  nodeType : GraphNodeType
  purpose : String
  requiredCapabilities : CapabilityTuple
  evidence : EvidenceTuple
  inputReferences : List String := []
  outputContract : Option String := none
  /-- The node id is nonblank. -/
  nodeId_nonblank : Text.Nonblank nodeId
  /-- The purpose is nonblank. -/
  purpose_nonblank : Text.Nonblank purpose
  /-- References stand once each, in order, and are nonblank. -/
  references_valid : canonical id inputReferences = inputReferences ∧
    ∀ reference ∈ inputReferences, Text.Nonblank reference := by exact noReferences_valid
  /-- An output contract is nonblank. -/
  outputContract_nonblank :
    ∀ contract, outputContract = some contract → Text.Nonblank contract := by
    exact noContract_nonblank

instance : DecidableEq ExecutionGraphNode := fun left right =>
  decidable_of_iff (left.nodeId = right.nodeId ∧ left.nodeType = right.nodeType ∧
      left.purpose = right.purpose ∧ left.requiredCapabilities = right.requiredCapabilities ∧
      left.evidence = right.evidence ∧ left.inputReferences = right.inputReferences ∧
      left.outputContract = right.outputContract) (by
    cases left
    cases right
    simp)

/-- A dependency of one node on another. -/
structure ExecutionGraphEdge where
  sourceNodeId : String
  targetNodeId : String
  dependencyType : GraphDependencyType
  evidence : EvidenceTuple
  /-- The source id is nonblank. -/
  source_nonblank : Text.Nonblank sourceNodeId
  /-- The target id is nonblank. -/
  target_nonblank : Text.Nonblank targetNodeId

instance : DecidableEq ExecutionGraphEdge := fun left right =>
  decidable_of_iff (left.sourceNodeId = right.sourceNodeId ∧
      left.targetNodeId = right.targetNodeId ∧ left.dependencyType = right.dependencyType ∧
      left.evidence = right.evidence) (by
    cases left
    cases right
    simp)

namespace ExecutionGraphEdge

/-- Edges are ordered by source, target and kind of dependency. -/
def key (edge : ExecutionGraphEdge) : String ×ₗ String ×ₗ String :=
  toLex (edge.sourceNodeId, toLex (edge.targetNodeId, edge.dependencyType.value))

/-- The arrow of an edge. -/
def arrow (edge : ExecutionGraphEdge) : String × String := (edge.sourceNodeId, edge.targetNodeId)

end ExecutionGraphEdge

/-- The arrows of a list of edges. -/
def arrowsOf (edges : List ExecutionGraphEdge) : List (String × String) :=
  edges.map ExecutionGraphEdge.arrow

theorem linked_arrowsOf {edges : List ExecutionGraphEdge} {source target : String} :
    Linked (arrowsOf edges) source target ↔
      ∃ edge ∈ edges, edge.sourceNodeId = source ∧ edge.targetNodeId = target := by
  simp [Linked, arrowsOf, ExecutionGraphEdge.arrow]

/-! ## Cycles -/

/-- The targets of the edges out of a node, in order. -/
def sortedTargets (edges : List ExecutionGraphEdge) (nodeId : String) : List String :=
  sortOn id (Kahn.successors (arrowsOf edges) nodeId)

/-- The nodes without incoming edges, in order. -/
def initiallyReady (nodeIds : List String) (edges : List ExecutionGraphEdge) : List String :=
  sortOn id (nodeIds.filter fun nodeId => Kahn.indegree (arrowsOf edges) nodeId = 0)

/-- The nodes that can be visited when each waits for its predecessors, in the order of a queue
that is rearranged after each visit. -/
def visitOrder (arrange : List String → List String) (nodeIds : List String)
    (edges : List ExecutionGraphEdge) : List String :=
  Kahn.drain (sortedTargets edges) arrange nodeIds.length
    ⟨fun nodeId => Kahn.indegree (arrowsOf edges) nodeId, initiallyReady nodeIds edges⟩

/-- Some node is never visited. -/
def containsCycle (nodeIds : List String) (edges : List ExecutionGraphEdge) : Bool :=
  (visitOrder id nodeIds edges).length ≠ nodeIds.length

/-- The edges run between nodes. -/
def EndpointsIn (nodeIds : List String) (edges : List ExecutionGraphEdge) : Prop :=
  ∀ edge ∈ edges, edge.sourceNodeId ∈ nodeIds ∧ edge.targetNodeId ∈ nodeIds

theorem EndpointsIn.arrow_mem {nodeIds : List String} {edges : List ExecutionGraphEdge}
    (inside : EndpointsIn nodeIds edges) :
    ∀ arrow ∈ arrowsOf edges, arrow.1 ∈ nodeIds ∧ arrow.2 ∈ nodeIds := by
  intro arrow member
  obtain ⟨edge, isEdge, rfl⟩ := List.mem_map.mp member
  exact inside edge isEdge

/-- Visiting emits every node at most once, after its predecessors. -/
theorem emits_visitOrder {arrange : List String → List String}
    (arranged : ∀ queue, (arrange queue).Perm queue) {nodeIds : List String}
    {edges : List ExecutionGraphEdge} (unique : nodeIds.Nodup)
    (inside : EndpointsIn nodeIds edges) :
    Kahn.Emits (arrowsOf edges) nodeIds (visitOrder arrange nodeIds edges) :=
  Kahn.emits_drain unique (fun arrow member => (inside.arrow_mem arrow member).2)
    (fun _ => sortOn_perm id _) arranged (sortOn_perm id _)

/-- Visiting ends by itself: further steps visit nothing more. -/
theorem visitOrder_add {arrange : List String → List String}
    (arranged : ∀ queue, (arrange queue).Perm queue) {nodeIds : List String}
    {edges : List ExecutionGraphEdge} (unique : nodeIds.Nodup)
    (inside : EndpointsIn nodeIds edges) (more : Nat) :
    Kahn.drain (sortedTargets edges) arrange (nodeIds.length + more)
        ⟨fun nodeId => Kahn.indegree (arrowsOf edges) nodeId, initiallyReady nodeIds edges⟩ =
      visitOrder arrange nodeIds edges :=
  Kahn.drain_add (fun arrow member => (inside.arrow_mem arrow member).2)
    (fun _ => sortOn_perm id _) arranged nodeIds.length more
    (Kahn.invariant_initial unique (sortOn_perm id _)) (by simp)

theorem length_visitOrder_iff {arrange : List String → List String}
    (arranged : ∀ queue, (arrange queue).Perm queue) {nodeIds : List String}
    {edges : List ExecutionGraphEdge} (unique : nodeIds.Nodup)
    (inside : EndpointsIn nodeIds edges) :
    (visitOrder arrange nodeIds edges).length = nodeIds.length ↔ Acyclic (arrowsOf edges) :=
  (emits_visitOrder arranged unique inside).length_eq_iff unique inside.arrow_mem

/-- The cycle check is exact. -/
theorem containsCycle_eq_false_iff {nodeIds : List String} {edges : List ExecutionGraphEdge}
    (unique : nodeIds.Nodup) (inside : EndpointsIn nodeIds edges) :
    containsCycle nodeIds edges = false ↔ Acyclic (arrowsOf edges) := by
  rw [containsCycle, decide_eq_false_iff_not, ne_eq, not_not]
  exact length_visitOrder_iff (fun queue => .refl queue) unique inside

/-! ## Graphs -/

/-- The ids of a list of nodes. -/
def nodeIdsOf (nodes : List ExecutionGraphNode) : List String :=
  nodes.map ExecutionGraphNode.nodeId

/-- A logical graph in canonical form. -/
structure ExecutionGraph where
  graphId : String
  requestId : String
  workloadId : String
  sessionId : String
  nodes : List ExecutionGraphNode
  edges : List ExecutionGraphEdge
  provenance : EvidenceTuple
  intelligenceProfile : Option WorkloadIntelligenceProfile
  status : ExecutionGraphStatus
  version : String
  /-- Identity fields are nonblank. -/
  texts_nonblank : ∀ text ∈ [graphId, requestId, workloadId, sessionId, version], Text.Nonblank text
  /-- There is a node. -/
  nodes_nonempty : nodes ≠ []
  /-- Nodes stand in the order of their ids. -/
  nodes_sorted : sortOn ExecutionGraphNode.nodeId nodes = nodes
  /-- No two nodes share an id. -/
  nodeIds_nodup : (nodeIdsOf nodes).Nodup
  /-- Edges stand once each, in order. -/
  edges_canonical : canonical ExecutionGraphEdge.key edges = edges
  /-- Edges run between nodes. -/
  endpoints : EndpointsIn (nodeIdsOf nodes) edges
  /-- No edge returns to its source. -/
  edges_proper : ∀ edge ∈ edges, edge.sourceNodeId ≠ edge.targetNodeId
  /-- The profile is of the same request. -/
  profile_identity : ∀ profile, intelligenceProfile = some profile →
    profile.identity = (requestId, workloadId, sessionId)
  /-- No cycle was found. -/
  noCycle : containsCycle (nodeIdsOf nodes) edges = false
  deriving DecidableEq

namespace ExecutionGraph

/-- The ids of the nodes of a graph. -/
def nodeIds (graph : ExecutionGraph) : List String := nodeIdsOf graph.nodes

/-- The arrows of the edges of a graph. -/
def arrows (graph : ExecutionGraph) : List (String × String) := arrowsOf graph.edges

theorem acyclic (graph : ExecutionGraph) : Acyclic graph.arrows :=
  (containsCycle_eq_false_iff graph.nodeIds_nodup graph.endpoints).mp graph.noCycle

theorem edges_nodup (graph : ExecutionGraph) : graph.edges.Nodup :=
  graph.edges_canonical ▸ canonical_nodup ExecutionGraphEdge.key graph.edges

end ExecutionGraph

/-- What the constructor of a graph is given. -/
structure ExecutionGraphDraft where
  graphId : String
  requestId : String
  workloadId : String
  sessionId : String
  nodes : List ExecutionGraphNode
  edges : List ExecutionGraphEdge
  provenance : List Evidence
  intelligenceProfile : Option WorkloadIntelligenceProfile := none
  status : ExecutionGraphStatus := .declared
  version : String := "mercury.execution-graph/v1"

namespace ExecutionGraphDraft

/-- The nodes in the order of their ids. -/
def sortedNodes (draft : ExecutionGraphDraft) : List ExecutionGraphNode :=
  sortOn ExecutionGraphNode.nodeId draft.nodes

/-- The distinct edges in order. -/
def canonicalEdges (draft : ExecutionGraphDraft) : List ExecutionGraphEdge :=
  canonical ExecutionGraphEdge.key draft.edges

/-- The checks that the constructor makes on one edge. -/
def checkEdge (nodeIds : List String) (edge : ExecutionGraphEdge) : Except Fault Unit := do
  require (edge.sourceNodeId ∈ nodeIds) (.value "edge source node must exist")
  require (edge.targetNodeId ∈ nodeIds) (.value "edge target node must exist")
  require (edge.sourceNodeId ≠ edge.targetNodeId) (.value "self-edge is not allowed")

/-- The checks that the constructor makes. -/
def check (draft : ExecutionGraphDraft) : Except Fault Unit := do
  forEach (fun field => require (Text.Nonblank field.2) (.value s!"{field.1} must be nonblank"))
    [("graph_id", draft.graphId), ("request_id", draft.requestId),
      ("workload_id", draft.workloadId), ("session_id", draft.sessionId),
      ("version", draft.version)]
  require (draft.nodes ≠ []) (.value "nodes must not be empty")
  let nodeIds := nodeIdsOf draft.sortedNodes
  require nodeIds.Nodup (.value "node ids must be unique")
  forEach (checkEdge nodeIds) draft.canonicalEdges
  forEach (fun profile : WorkloadIntelligenceProfile =>
    require (profile.identity = (draft.requestId, draft.workloadId, draft.sessionId))
      (.value "intelligence profile identity does not match graph identity"))
    draft.intelligenceProfile.toList
  require (containsCycle nodeIds draft.canonicalEdges = false)
    (.value "graph cycle is not allowed in the DAG baseline")
  require (draft.provenance ≠ []) (.value "provenance must not be empty")

/-- What the checks of the constructor establish. -/
structure Acceptable (draft : ExecutionGraphDraft) : Prop where
  /-- Identity fields are nonblank. -/
  texts_nonblank : ∀ text ∈ [draft.graphId, draft.requestId, draft.workloadId, draft.sessionId,
    draft.version], Text.Nonblank text
  /-- There is a node. -/
  nodes_nonempty : draft.nodes ≠ []
  /-- No two nodes share an id. -/
  nodeIds_nodup : (nodeIdsOf draft.nodes).Nodup
  /-- Edges run between nodes. -/
  endpoints : EndpointsIn (nodeIdsOf draft.nodes) draft.edges
  /-- No edge returns to its source. -/
  edges_proper : ∀ edge ∈ draft.edges, edge.sourceNodeId ≠ edge.targetNodeId
  /-- The profile is of the same request. -/
  profile_identity : ∀ profile, draft.intelligenceProfile = some profile →
    profile.identity = (draft.requestId, draft.workloadId, draft.sessionId)
  /-- The edges have no cycle. -/
  acyclic : Acyclic (arrowsOf draft.edges)
  /-- There is provenance. -/
  provenance_nonempty : draft.provenance ≠ []

variable {draft : ExecutionGraphDraft}

@[simp] theorem mem_canonicalEdges {edge : ExecutionGraphEdge} :
    edge ∈ draft.canonicalEdges ↔ edge ∈ draft.edges := mem_canonical _

theorem nodeIdsOf_sortedNodes_perm : (nodeIdsOf draft.sortedNodes).Perm (nodeIdsOf draft.nodes) :=
  (sortOn_perm _ _).map _

theorem linked_congr {edges others : List ExecutionGraphEdge}
    (same : ∀ edge, edge ∈ edges ↔ edge ∈ others) :
    Linked (arrowsOf edges) = Linked (arrowsOf others) := by
  funext source target
  simp [linked_arrowsOf, same]

theorem acyclic_canonicalEdges :
    Acyclic (arrowsOf draft.canonicalEdges) ↔ Acyclic (arrowsOf draft.edges) := by
  rw [Acyclic, Acyclic, Leads, Leads, linked_congr fun edge => mem_canonicalEdges]

theorem endpoints_sorted (endpoints : EndpointsIn (nodeIdsOf draft.nodes) draft.edges) :
    EndpointsIn (nodeIdsOf draft.sortedNodes) draft.canonicalEdges := by
  intro edge member
  rw [nodeIdsOf_sortedNodes_perm.mem_iff, nodeIdsOf_sortedNodes_perm.mem_iff]
  exact endpoints edge (mem_canonicalEdges.mp member)

/-- The cycle check of the constructor is exact. -/
theorem containsCycle_sorted_iff (unique : (nodeIdsOf draft.nodes).Nodup)
    (endpoints : EndpointsIn (nodeIdsOf draft.nodes) draft.edges) :
    containsCycle (nodeIdsOf draft.sortedNodes) draft.canonicalEdges = false ↔
      Acyclic (arrowsOf draft.edges) := by
  rw [containsCycle_eq_false_iff (nodeIdsOf_sortedNodes_perm.nodup_iff.mpr unique)
    (endpoints_sorted endpoints)]
  exact acyclic_canonicalEdges

theorem check_eq_ok_iff : draft.check = .ok () ↔ draft.Acceptable := by
  have ids : (nodeIdsOf draft.sortedNodes).Perm (nodeIdsOf draft.nodes) :=
    nodeIdsOf_sortedNodes_perm
  simp only [check, checkEdge, bind_eq_ok, forEach_eq_ok, require_eq_ok, exists_and_left,
    exists_const, mem_canonicalEdges, Option.mem_toList, ids.mem_iff, ids.nodup_iff]
  constructor
  · rintro ⟨texts, nonempty, unique, edges, profile, noCycle, provenance⟩
    have endpoints : EndpointsIn (nodeIdsOf draft.nodes) draft.edges := fun edge member =>
      ⟨(edges edge member).1, (edges edge member).2.1⟩
    exact
      { texts_nonblank := by simpa using texts
        nodes_nonempty := nonempty
        nodeIds_nodup := unique
        endpoints := endpoints
        edges_proper := fun edge member => (edges edge member).2.2
        profile_identity := profile
        acyclic := (containsCycle_sorted_iff unique endpoints).mp noCycle
        provenance_nonempty := provenance }
  · intro acceptable
    refine ⟨by simpa using acceptable.texts_nonblank, acceptable.nodes_nonempty,
      acceptable.nodeIds_nodup, fun edge member => ?_, acceptable.profile_identity, ?_,
      acceptable.provenance_nonempty⟩
    · exact ⟨(acceptable.endpoints edge member).1, (acceptable.endpoints edge member).2,
        acceptable.edges_proper edge member⟩
    · exact (containsCycle_sorted_iff acceptable.nodeIds_nodup acceptable.endpoints).mpr
        acceptable.acyclic

/-- The graph of an acceptable draft. -/
def build (draft : ExecutionGraphDraft) (acceptable : draft.Acceptable) : ExecutionGraph where
  graphId := draft.graphId
  requestId := draft.requestId
  workloadId := draft.workloadId
  sessionId := draft.sessionId
  nodes := draft.sortedNodes
  edges := draft.canonicalEdges
  provenance := .of Evidence.key draft.provenance acceptable.provenance_nonempty
  intelligenceProfile := draft.intelligenceProfile
  status := draft.status
  version := draft.version
  texts_nonblank := acceptable.texts_nonblank
  nodes_nonempty := by
    rw [← List.length_pos_iff, sortedNodes, length_sortOn, List.length_pos_iff]
    exact acceptable.nodes_nonempty
  nodes_sorted := sortOn_eq_self _ (sortOn_pairwise _ _)
  nodeIds_nodup := nodeIdsOf_sortedNodes_perm.nodup_iff.mpr acceptable.nodeIds_nodup
  edges_canonical := canonical_eq_self _ (canonical_nodup _ _) (canonical_pairwise _ _)
  endpoints := endpoints_sorted acceptable.endpoints
  edges_proper := fun edge member => acceptable.edges_proper edge (mem_canonicalEdges.mp member)
  profile_identity := acceptable.profile_identity
  noCycle := (containsCycle_sorted_iff acceptable.nodeIds_nodup acceptable.endpoints).mpr
    acceptable.acyclic

/-- Construct a graph. -/
def create (draft : ExecutionGraphDraft) : Except Fault ExecutionGraph :=
  match outcome : draft.check with
  | .error raised => .error raised
  | .ok () => .ok (draft.build (check_eq_ok_iff.mp outcome))

theorem create_eq_ok_iff {graph : ExecutionGraph} :
    draft.create = .ok graph ↔ ∃ acceptable : draft.Acceptable, draft.build acceptable = graph := by
  unfold create
  split
  · next raised outcome =>
      simp only [reduceCtorEq, false_iff, not_exists]
      intro acceptable
      rw [check_eq_ok_iff.mpr acceptable] at outcome
      contradiction
  · next outcome =>
      have acceptable := check_eq_ok_iff.mp outcome
      simp [acceptable]

end ExecutionGraphDraft
end Graph
end MercuryX
