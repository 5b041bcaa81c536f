import MercuryX.Graph.Validation

/-!
# Order and reachability

The cycle check of the constructor and the two analyses of the validator are exact. The check finds
a cycle exactly where there is one; the topological order lists every node after its predecessors,
always the least that is available; the searches see exactly what paths connect.
-/

namespace MercuryX
namespace Graph

open Foundation

/-! ## The cycle check -/

/-- The check finds a cycle exactly where there is one. -/
theorem containsCycle_iff {nodeIds : List String} {edges : List ExecutionGraphEdge}
    (unique : nodeIds.Nodup) (inside : EndpointsIn nodeIds edges) :
    containsCycle nodeIds edges = true ↔ ∃ nodeId, Leads (arrowsOf edges) nodeId nodeId := by
  rw [← Bool.not_eq_false, containsCycle_eq_false_iff unique inside, Acyclic]
  push Not
  rfl

/-- Count one edge: its target and its source are looked up among the nodes. -/
def countEdge (nodeIds : Finset String) (edge : ExecutionGraphEdge) : Except Fault Unit := do
  require (edge.targetNodeId ∈ nodeIds) (.missingKey edge.targetNodeId)
  require (edge.sourceNodeId ∈ nodeIds) (.missingKey edge.sourceNodeId)

/-- The cycle check on a set of node ids, with the lookups that fail on an edge that dangles. -/
def lookupCycle (nodeIds : Finset String) (edges : List ExecutionGraphEdge) :
    Except Fault Bool := do
  forEach (countEdge nodeIds) edges
  return containsCycle (nodeIds.sort (· ≤ ·)) edges

/-- The check on a set of node ids fails on edges that dangle, and is exact on all others. -/
theorem lookupCycle_eq_ok_iff {nodeIds : Finset String} {edges : List ExecutionGraphEdge}
    {found : Bool} : lookupCycle nodeIds edges = .ok found ↔
      (∀ edge ∈ edges, edge.sourceNodeId ∈ nodeIds ∧ edge.targetNodeId ∈ nodeIds) ∧
        (found = true ↔ ∃ nodeId, Leads (arrowsOf edges) nodeId nodeId) := by
  simp only [lookupCycle, countEdge, bind_eq_ok, forEach_eq_ok, require_eq_ok, exists_const,
    pure_eq_ok, Except.ok.injEq]
  constructor
  · rintro ⟨looked, rfl⟩
    have inside : EndpointsIn (nodeIds.sort (· ≤ ·)) edges := fun edge member => by
      simpa using (looked edge member).symm
    exact ⟨fun edge member => (looked edge member).symm,
      containsCycle_iff (Finset.sort_nodup _ _) inside⟩
  · rintro ⟨looked, exact⟩
    have inside : EndpointsIn (nodeIds.sort (· ≤ ·)) edges := fun edge member => by
      simpa using looked edge member
    refine ⟨fun edge member => (looked edge member).symm, ?_⟩
    rw [Bool.eq_iff_iff, containsCycle_iff (Finset.sort_nodup _ _) inside, exact]

/-- The constructor calls the check on the set of the ids of its nodes. -/
theorem lookupCycle_toFinset {nodeIds : List String} {edges : List ExecutionGraphEdge}
    (unique : nodeIds.Nodup) (inside : EndpointsIn nodeIds edges) :
    lookupCycle nodeIds.toFinset edges = .ok (containsCycle nodeIds edges) := by
  rw [lookupCycle_eq_ok_iff]
  exact ⟨by simpa [EndpointsIn] using inside, containsCycle_iff unique inside⟩

/-! ## The analyses of the validator -/

namespace ExecutionGraph

variable {graph : ExecutionGraph}

theorem topologicalNodeIds_eq : (validateExecutionGraph graph).topologicalNodeIds =
    topologicalOrder (nodeIdsOf graph.nodes) graph.edges := by
  simp only [validateExecutionGraph, graph.collectNodes_nodes, graph.collectEdges_edges]

/-- The topological order takes the least available node at each step. -/
theorem leastFirst_topologicalOrder : Kahn.LeastFirst graph.arrows (nodeIdsOf graph.nodes)
    (topologicalOrder (nodeIdsOf graph.nodes) graph.edges) :=
  Kahn.leastFirst_drain graph.nodeIds_nodup graph.endpoints.arrow_mem
    (fun _ => sortOn_perm id _) (sortOn_perm id) (sortOn_pairwise id) graph.acyclic
    (sortOn_pairwise id _) (sortOn_perm id _)

end ExecutionGraph

/-- What the validator computes about a graph. -/
structure Analysed (graph : ExecutionGraph) : Prop where
  /-- The order lists all nodes. -/
  order_perm : (validateExecutionGraph graph).topologicalNodeIds.Perm graph.nodeIds
  /-- Every source stands before its targets. -/
  order_rising : ∀ edge ∈ graph.edges,
    (validateExecutionGraph graph).topologicalNodeIds.idxOf edge.sourceNodeId <
      (validateExecutionGraph graph).topologicalNodeIds.idxOf edge.targetNodeId
  /-- Every node is the least of those whose predecessors all stand before it. -/
  order_least : ∀ front nodeId back,
    (validateExecutionGraph graph).topologicalNodeIds = front ++ nodeId :: back →
      ∀ other, Kahn.Available graph.arrows graph.nodeIds front other → nodeId ≤ other
  /-- The forward search sees exactly what some start leads to. -/
  forward : ∀ starts : List String, starts.Nodup → starts ⊆ graph.nodeIds → ∀ nodeId,
    nodeId ∈ reachable (sortedTargets graph.edges) graph.nodeIds starts ↔
      ∃ start ∈ starts, Reaches graph.arrows start nodeId
  /-- The backward search sees exactly what leads to some start. -/
  backward : ∀ starts : List String, starts.Nodup → starts ⊆ graph.nodeIds → ∀ nodeId,
    nodeId ∈ reachable (sortedSources graph.edges) graph.nodeIds starts ↔
      ∃ start ∈ starts, Reaches graph.arrows nodeId start
  /-- Where the graph passes, every processing node lies between an input and an output. -/
  processing_between : (validateExecutionGraph graph).status = .pass →
    ∀ node ∈ graph.nodes, ¬ node.nodeType.isBoundary →
      ∃ start ∈ graph.nodes, ∃ final ∈ graph.nodes,
        start.nodeType = .input ∧ final.nodeType = .output ∧
          Reaches graph.arrows start.nodeId node.nodeId ∧
            Reaches graph.arrows node.nodeId final.nodeId

theorem analysed (graph : ExecutionGraph) : Analysed graph := by
  have leastFirst := graph.leastFirst_topologicalOrder
  rw [← ExecutionGraph.topologicalNodeIds_eq] at leastFirst
  constructor
  case order_perm => exact leastFirst.complete
  case order_rising =>
    intro edge member
    exact leastFirst.idxOf_lt graph.nodeIds_nodup
      (linked_arrowsOf.mpr ⟨edge, member, rfl, rfl⟩) (graph.endpoints edge member).2
  case order_least => exact leastFirst.least
  case forward =>
    intro starts unique inside nodeId
    exact ExecutionGraph.mem_reachable_targets_iff unique inside
  case backward =>
    intro starts unique inside nodeId
    exact ExecutionGraph.mem_reachable_sources_iff unique inside
  case processing_between =>
    intro passed node member processing
    have sound := validate_pass_iff.mp passed
    obtain ⟨start, startMember, isInput, fromInput⟩ := sound.reached node member processing
    obtain ⟨final, finalMember, isOutput, toOutput⟩ := sound.contributes node member processing
    exact ⟨start, startMember, final, finalMember, isInput, isOutput, fromInput, toOutput⟩

/-- The cycle check is exact on every set of nodes, and so are the analyses of every graph. -/
theorem lookupCycle_exact_and_analysed :
    (∀ (nodeIds : Finset String) (edges : List ExecutionGraphEdge) (found : Bool),
      lookupCycle nodeIds edges = .ok found ↔
        (∀ edge ∈ edges, edge.sourceNodeId ∈ nodeIds ∧ edge.targetNodeId ∈ nodeIds) ∧
          (found = true ↔ ∃ nodeId, Leads (arrowsOf edges) nodeId nodeId)) ∧
      ∀ graph : ExecutionGraph, Analysed graph :=
  ⟨fun _ _ _ => lookupCycle_eq_ok_iff, analysed⟩

end Graph
end MercuryX
