import MercuryX.Graph.Validation

/-!
# Splitting a node of an execution graph

A node is replaced by an entry, which takes over its incoming edges, and an exit, which takes over
its outgoing edges, with one edge of data between them; the exit may be the node itself. Splitting
preserves what depends on what, and a sound graph stays sound, as long as an entry that aggregates
has data to join.
-/

namespace MercuryX
namespace Graph

open Foundation
open Intelligence

/-- The edge that an edge becomes once a node is split. -/
def ExecutionGraphEdge.moved (vertex : String) (entry exit : ExecutionGraphNode)
    (edge : ExecutionGraphEdge) : ExecutionGraphEdge where
  sourceNodeId := exitOf vertex exit.nodeId edge.sourceNodeId
  targetNodeId := entryOf vertex entry.nodeId edge.targetNodeId
  dependencyType := edge.dependencyType
  evidence := edge.evidence
  source_nonblank := by
    unfold exitOf
    split
    · exact exit.nodeId_nonblank
    · exact edge.source_nonblank
  target_nonblank := by
    unfold entryOf
    split
    · exact entry.nodeId_nonblank
    · exact edge.target_nonblank

/-- The nodes and edges are those of the graph with a node split into an entry and an exit. -/
structure Splitting (graph : ExecutionGraph) (original entry exit : ExecutionGraphNode)
    (inside : ExecutionGraphEdge) (nodes : List ExecutionGraphNode)
    (edges : List ExecutionGraphEdge) : Prop where
  /-- The split node is one of the graph. -/
  original_mem : original ∈ graph.nodes
  /-- The id of the entry is new. -/
  entry_fresh : entry.nodeId ∉ graph.nodeIds
  /-- The exit is the split node itself, or its id is new. -/
  exit_fresh : exit = original ∨ exit.nodeId ∉ graph.nodeIds
  /-- Entry and exit differ. -/
  entry_ne_exit : entry.nodeId ≠ exit.nodeId
  /-- The exit is of the kind of the split node. -/
  exit_type : exit.nodeType = original.nodeType
  /-- The entry and the exit take the place of the split node. -/
  nodes_perm : nodes.Perm (entry :: exit :: graph.nodes.erase original)
  /-- The inner edge runs from the entry to the exit. -/
  inside_ends : inside.sourceNodeId = entry.nodeId ∧ inside.targetNodeId = exit.nodeId
  /-- The inner edge hands on data. -/
  inside_data : inside.dependencyType = .data
  /-- The edges are moved, and the inner edge is added. -/
  edges_perm : edges.Perm
    (inside :: graph.edges.map (ExecutionGraphEdge.moved original.nodeId entry exit))

/-- A draft that carries the identity and the profile of a graph. -/
structure Carries (graph : ExecutionGraph) (draft : ExecutionGraphDraft) : Prop where
  /-- The identity is that of the graph. -/
  identity : draft.graphId = graph.graphId ∧ draft.requestId = graph.requestId ∧
    draft.workloadId = graph.workloadId ∧ draft.sessionId = graph.sessionId ∧
    draft.version = graph.version
  /-- The profile is that of the graph. -/
  profile : draft.intelligenceProfile = graph.intelligenceProfile
  /-- There is provenance. -/
  provenance_nonempty : draft.provenance ≠ []

namespace ExecutionGraph

variable {graph : ExecutionGraph}

theorem nodeId_mem {node : ExecutionGraphNode} (member : node ∈ graph.nodes) :
    node.nodeId ∈ graph.nodeIds := List.mem_map_of_mem member

theorem nodes_nodup (graph : ExecutionGraph) : graph.nodes.Nodup :=
  List.Nodup.of_map _ graph.nodeIds_nodup

end ExecutionGraph

namespace Sound

variable {graph : ExecutionGraph} (sound : Sound graph)
include sound

theorem leads_from_input {node : ExecutionGraphNode} (member : node ∈ graph.nodes)
    (notInput : node.nodeType ≠ .input) :
    ∃ start ∈ graph.nodes, start.nodeType = .input ∧
      Leads graph.arrows start.nodeId node.nodeId := by
  have ofProcessing {other : ExecutionGraphNode} (otherMember : other ∈ graph.nodes)
      (notStart : other.nodeType ≠ .input) (notFinal : other.nodeType ≠ .output) :
      ∃ start ∈ graph.nodes, start.nodeType = .input ∧
        Leads graph.arrows start.nodeId other.nodeId := by
    obtain ⟨start, startMember, isInput, path⟩ := sound.reached other otherMember (by
      simp [GraphNodeType.isBoundary, notStart, notFinal])
    refine ⟨start, startMember, isInput, path.leads_of_ne fun same => notStart ?_⟩
    exact graph.eq_of_nodeId_eq startMember otherMember same ▸ isInput
  by_cases isOutput : node.nodeType = .output
  · obtain ⟨edge, isEdge, same, _⟩ := sound.data_fed node member (.inl isOutput)
    obtain ⟨source, sourceMember, sourceId⟩ := List.mem_map.mp (graph.endpoints edge isEdge).1
    have linked : Linked graph.arrows source.nodeId node.nodeId :=
      linked_arrowsOf.mpr ⟨edge, isEdge, sourceId.symm, same⟩
    by_cases sourceInput : source.nodeType = .input
    · exact ⟨source, sourceMember, sourceInput, .single linked⟩
    · have notFinal : source.nodeType ≠ .output := fun final =>
        sound.outputs_last source sourceMember final edge isEdge sourceId.symm
      obtain ⟨start, startMember, isInput, path⟩ := ofProcessing sourceMember sourceInput notFinal
      exact ⟨start, startMember, isInput, path.tail linked⟩
  · exact ofProcessing member notInput isOutput

theorem reaches_output {node : ExecutionGraphNode} (member : node ∈ graph.nodes)
    (notInput : node.nodeType ≠ .input) :
    ∃ final ∈ graph.nodes, final.nodeType = .output ∧
      Reaches graph.arrows node.nodeId final.nodeId := by
  by_cases isOutput : node.nodeType = .output
  · exact ⟨node, member, isOutput, .refl⟩
  · exact sound.contributes node member (by simp [GraphNodeType.isBoundary, notInput, isOutput])

end Sound

namespace Splitting

variable {graph : ExecutionGraph} {original entry exit : ExecutionGraphNode}
  {inside : ExecutionGraphEdge} {nodes : List ExecutionGraphNode}
  {edges : List ExecutionGraphEdge}
  (splitting : Splitting graph original entry exit inside nodes edges)
include splitting

theorem mem_edges {edge : ExecutionGraphEdge} : edge ∈ edges ↔ edge = inside ∨
    ∃ former ∈ graph.edges, former.moved original.nodeId entry exit = edge := by
  simp [splitting.edges_perm.mem_iff]

theorem exists_exit {node : ExecutionGraphNode} (member : node ∈ graph.nodes) :
    ∃ successor ∈ nodes, successor.nodeType = node.nodeType ∧
      successor.nodeId = exitOf original.nodeId exit.nodeId node.nodeId := by
  by_cases same : node = original
  · subst same
    exact ⟨exit, splitting.nodes_perm.mem_iff.mpr (by simp), splitting.exit_type,
      exitOf_self.symm⟩
  · have otherId : node.nodeId ≠ original.nodeId := fun equal =>
      same (graph.eq_of_nodeId_eq member splitting.original_mem equal)
    have kept : node ∈ graph.nodes.erase original := (List.mem_erase_of_ne same).mpr member
    exact ⟨node, splitting.nodes_perm.mem_iff.mpr (by simp [kept]), rfl,
      (exitOf_of_ne otherId).symm⟩

theorem exists_origin {successor : ExecutionGraphNode} (member : successor ∈ nodes) :
    successor = entry ∨ ∃ node ∈ graph.nodes, successor.nodeType = node.nodeType ∧
      successor.nodeId = exitOf original.nodeId exit.nodeId node.nodeId := by
  have listed := splitting.nodes_perm.mem_iff.mp member
  rcases List.mem_cons.mp listed with isEntry | listed
  · exact .inl isEntry
  · rcases List.mem_cons.mp listed with rfl | kept
    · exact .inr ⟨original, splitting.original_mem, splitting.exit_type, exitOf_self.symm⟩
    · obtain ⟨different, inGraph⟩ := graph.nodes_nodup.mem_erase_iff.mp kept
      have otherId : successor.nodeId ≠ original.nodeId := fun equal =>
        different (graph.eq_of_nodeId_eq inGraph splitting.original_mem equal)
      exact .inr ⟨successor, inGraph, rfl, (exitOf_of_ne otherId).symm⟩

theorem entry_mem : entry ∈ nodes := splitting.nodes_perm.mem_iff.mpr (by simp)

theorem ne_entry {nodeId : String} (member : nodeId ∈ graph.nodeIds) : nodeId ≠ entry.nodeId :=
  fun same => splitting.entry_fresh (same ▸ member)

theorem eq_original_or_ne_exit {nodeId : String} (member : nodeId ∈ graph.nodeIds) :
    nodeId = original.nodeId ∨ nodeId ≠ exit.nodeId := by
  rcases splitting.exit_fresh with rfl | fresh
  · exact em _
  · exact .inr fun same => fresh (same ▸ member)

theorem contract_exitOf {nodeId : String} (member : nodeId ∈ graph.nodeIds) :
    contract original.nodeId entry.nodeId exit.nodeId
      (exitOf original.nodeId exit.nodeId nodeId) = nodeId :=
  Splits.contract_represents (splitting.ne_entry member) (splitting.eq_original_or_ne_exit member)
    (.inr rfl)

theorem contract_entryOf {nodeId : String} (member : nodeId ∈ graph.nodeIds) :
    contract original.nodeId entry.nodeId exit.nodeId
      (entryOf original.nodeId entry.nodeId nodeId) = nodeId :=
  Splits.contract_represents (splitting.ne_entry member) (splitting.eq_original_or_ne_exit member)
    (.inl rfl)

theorem exitOf_injective {left right : String} (leftMember : left ∈ graph.nodeIds)
    (rightMember : right ∈ graph.nodeIds)
    (same : exitOf original.nodeId exit.nodeId left = exitOf original.nodeId exit.nodeId right) :
    left = right := by
  rw [← splitting.contract_exitOf leftMember, same, splitting.contract_exitOf rightMember]

theorem entryOf_injective {left right : String} (leftMember : left ∈ graph.nodeIds)
    (rightMember : right ∈ graph.nodeIds)
    (same : entryOf original.nodeId entry.nodeId left =
      entryOf original.nodeId entry.nodeId right) : left = right := by
  rw [← splitting.contract_entryOf leftMember, same, splitting.contract_entryOf rightMember]

theorem eq_of_entryOf_eq_exitOf {left right : String} (leftMember : left ∈ graph.nodeIds)
    (rightMember : right ∈ graph.nodeIds)
    (same : entryOf original.nodeId entry.nodeId left =
      exitOf original.nodeId exit.nodeId right) : left = right := by
  rw [← splitting.contract_entryOf leftMember, same, splitting.contract_exitOf rightMember]

theorem exitOf_ne_entry {nodeId : String} (member : nodeId ∈ graph.nodeIds) :
    exitOf original.nodeId exit.nodeId nodeId ≠ entry.nodeId := by
  unfold exitOf
  split
  · exact splitting.entry_ne_exit.symm
  · exact splitting.ne_entry member

theorem entryOf_ne_exit {nodeId : String} (member : nodeId ∈ graph.nodeIds) :
    entryOf original.nodeId entry.nodeId nodeId ≠ exit.nodeId := by
  unfold entryOf
  split
  · exact splitting.entry_ne_exit
  · next different => exact (splitting.eq_original_or_ne_exit member).resolve_left different

/-! ### The edges of the result -/

/-- The arrows of the result are those of the graph with a vertex split. -/
theorem splits : Splits original.nodeId entry.nodeId exit.nodeId graph.arrows (arrowsOf edges) where
  linked_iff a b := by
    simp only [linked_arrowsOf, splitting.mem_edges, ExecutionGraph.arrows]
    constructor
    · rintro ⟨_, rfl | ⟨former, isEdge, rfl⟩, rfl, rfl⟩
      · exact .inr splitting.inside_ends
      · exact .inl ⟨_, _, ⟨former, isEdge, rfl, rfl⟩, rfl, rfl⟩
    · rintro (⟨_, _, ⟨former, isEdge, rfl, rfl⟩, rfl, rfl⟩ | ⟨rfl, rfl⟩)
      · exact ⟨_, .inr ⟨former, isEdge, rfl⟩, rfl, rfl⟩
      · exact ⟨inside, .inl rfl, splitting.inside_ends⟩
  entry_fresh u v linked :=
    have ends := graph.endpoints.arrow_mem _ linked
    ⟨splitting.ne_entry ends.1, splitting.ne_entry ends.2⟩
  exit_fresh := by
    rcases splitting.exit_fresh with rfl | fresh
    · exact .inl rfl
    · refine .inr fun u v linked => ?_
      have ends := graph.endpoints.arrow_mem _ linked
      exact ⟨fun same => fresh (same ▸ ends.1), fun same => fresh (same ▸ ends.2)⟩
  entry_ne_exit := splitting.entry_ne_exit
  entry_ne_vertex := (splitting.ne_entry (graph.nodeId_mem splitting.original_mem)).symm

/-- Different nodes depend on one another in the result exactly as they do in the graph. -/
theorem leads_iff {left right leftStand rightStand : String} (leftMember : left ∈ graph.nodeIds)
    (rightMember : right ∈ graph.nodeIds) (different : left ≠ right)
    (leftStands : Represents original.nodeId entry.nodeId exit.nodeId left leftStand)
    (rightStands : Represents original.nodeId entry.nodeId exit.nodeId right rightStand) :
    Leads (arrowsOf edges) leftStand rightStand ↔ Leads graph.arrows left right :=
  splitting.splits.leads_iff different
    ⟨splitting.ne_entry leftMember, splitting.eq_original_or_ne_exit leftMember⟩
    ⟨splitting.ne_entry rightMember, splitting.eq_original_or_ne_exit rightMember⟩
    leftStands rightStands

theorem reaches_exit {source target : String} (path : Reaches graph.arrows source target) :
    Reaches (arrowsOf edges) (exitOf original.nodeId exit.nodeId source)
      (exitOf original.nodeId exit.nodeId target) := by
  rcases Relation.reflTransGen_iff_eq_or_transGen.mp path with rfl | leads
  · exact .refl
  · exact (splitting.splits.leads_of_leads leads (.inr rfl) (.inr rfl)).to_reflTransGen

theorem moved_injective {left right : ExecutionGraphEdge} (leftEdge : left ∈ graph.edges)
    (rightEdge : right ∈ graph.edges) (same : left.moved original.nodeId entry exit =
      right.moved original.nodeId entry exit) : left = right := by
  have sources := splitting.exitOf_injective (graph.endpoints _ leftEdge).1
    (graph.endpoints _ rightEdge).1 (congrArg ExecutionGraphEdge.sourceNodeId same)
  have targets := splitting.entryOf_injective (graph.endpoints _ leftEdge).2
    (graph.endpoints _ rightEdge).2 (congrArg ExecutionGraphEdge.targetNodeId same)
  have dependencies : left.dependencyType = right.dependencyType :=
    (congrArg ExecutionGraphEdge.dependencyType same :)
  have evidence : left.evidence = right.evidence :=
    (congrArg ExecutionGraphEdge.evidence same :)
  cases left
  cases right
  simp_all

theorem moved_ne_inside {edge : ExecutionGraphEdge} (isEdge : edge ∈ graph.edges) :
    edge.moved original.nodeId entry exit ≠ inside := by
  intro same
  have target := congrArg ExecutionGraphEdge.targetNodeId same
  rw [splitting.inside_ends.2] at target
  exact splitting.entryOf_ne_exit (graph.endpoints _ isEdge).2 target

theorem edges_nodup : edges.Nodup := by
  rw [splitting.edges_perm.nodup_iff, List.nodup_cons]
  constructor
  · intro member
    obtain ⟨edge, isEdge, same⟩ := List.mem_map.mp member
    exact splitting.moved_ne_inside isEdge same
  · exact graph.edges_nodup.map_on fun left leftEdge right rightEdge =>
      splitting.moved_injective leftEdge rightEdge

theorem incomingEdges_perm {nodeId : String} (member : nodeId ∈ graph.nodeIds) :
    (incomingEdges edges (entryOf original.nodeId entry.nodeId nodeId)).Perm
      ((incomingEdges graph.edges nodeId).map
        (ExecutionGraphEdge.moved original.nodeId entry exit)) := by
  have notInside : inside.targetNodeId ≠ entryOf original.nodeId entry.nodeId nodeId := by
    rw [splitting.inside_ends.2]
    exact (splitting.entryOf_ne_exit member).symm
  refine (splitting.edges_perm.filter _).trans ?_
  rw [List.filter_cons_of_neg (by simpa using notInside), List.filter_map, incomingEdges]
  refine List.Perm.map _ (.of_eq (List.filter_congr fun edge isEdge => ?_))
  have moves : entryOf original.nodeId entry.nodeId edge.targetNodeId =
      entryOf original.nodeId entry.nodeId nodeId ↔ edge.targetNodeId = nodeId :=
    ⟨splitting.entryOf_injective (graph.endpoints _ isEdge).2 member, fun same => same ▸ rfl⟩
  simp [ExecutionGraphEdge.moved, moves]

theorem dataLikeCount_eq {nodeId : String} (member : nodeId ∈ graph.nodeIds) :
    dataLikeCount (incomingEdges edges (entryOf original.nodeId entry.nodeId nodeId)) =
      dataLikeCount (incomingEdges graph.edges nodeId) := by
  rw [dataLikeCount, (splitting.incomingEdges_perm member).countP_eq, List.countP_map]
  rfl

/-! ### The graph of the result -/

theorem nodeIds_nodup : (nodeIdsOf nodes).Nodup := by
  have former := graph.nodeIds_nodup
  rw [nodeIdsOf, ((List.perm_cons_erase splitting.original_mem).map _).nodup_iff, List.map_cons,
    List.nodup_cons] at former
  have old {nodeId : String} (member : nodeId ∈ nodeIdsOf (graph.nodes.erase original)) :
      nodeId ∈ graph.nodeIds := (List.erase_sublist.map _).subset member
  rw [nodeIdsOf, (splitting.nodes_perm.map _).nodup_iff, List.map_cons, List.map_cons,
    List.nodup_cons, List.nodup_cons, List.mem_cons, not_or]
  refine ⟨⟨splitting.entry_ne_exit, fun member => splitting.entry_fresh (old member)⟩, ?_,
    former.2⟩
  rcases splitting.exit_fresh with rfl | fresh
  · exact former.1
  · exact fun member => fresh (old member)

theorem mem_nodeIdsOf_iff {nodeId : String} : nodeId ∈ nodeIdsOf nodes ↔
    nodeId = entry.nodeId ∨ nodeId = exit.nodeId ∨
      (nodeId ∈ graph.nodeIds ∧ nodeId ≠ original.nodeId) := by
  have others : nodeId ∈ nodeIdsOf (graph.nodes.erase original) ↔
      nodeId ∈ graph.nodeIds ∧ nodeId ≠ original.nodeId := by
    simp only [nodeIdsOf, ExecutionGraph.nodeIds, List.mem_map, graph.nodes_nodup.mem_erase_iff]
    constructor
    · rintro ⟨node, ⟨different, member⟩, rfl⟩
      exact ⟨⟨node, member, rfl⟩, fun same =>
        different (graph.eq_of_nodeId_eq member splitting.original_mem same)⟩
    · rintro ⟨⟨node, member, rfl⟩, different⟩
      exact ⟨node, ⟨fun same => different (same ▸ rfl), member⟩, rfl⟩
  rw [← others, nodeIdsOf, (splitting.nodes_perm.map _).mem_iff, List.map_cons, List.map_cons,
    List.mem_cons, List.mem_cons]
  rfl

theorem exitOf_mem {nodeId : String} (member : nodeId ∈ graph.nodeIds) :
    exitOf original.nodeId exit.nodeId nodeId ∈ nodeIdsOf nodes := by
  obtain ⟨node, isNode, rfl⟩ := List.mem_map.mp member
  obtain ⟨successor, isSuccessor, _, same⟩ := splitting.exists_exit isNode
  exact same ▸ List.mem_map_of_mem isSuccessor

theorem entryOf_mem {nodeId : String} (member : nodeId ∈ graph.nodeIds) :
    entryOf original.nodeId entry.nodeId nodeId ∈ nodeIdsOf nodes := by
  by_cases same : nodeId = original.nodeId
  · rw [same, entryOf_self]
    exact List.mem_map_of_mem splitting.entry_mem
  · rw [entryOf_of_ne same, ← exitOf_of_ne same]
    exact splitting.exitOf_mem member

theorem represents_mem {nodeId standIn : String} (member : nodeId ∈ graph.nodeIds)
    (stands : Represents original.nodeId entry.nodeId exit.nodeId nodeId standIn) :
    standIn ∈ nodeIdsOf nodes := by
  rcases stands with rfl | rfl
  · exact splitting.entryOf_mem member
  · exact splitting.exitOf_mem member

theorem represents_injective {left right standIn : String} (leftMember : left ∈ graph.nodeIds)
    (rightMember : right ∈ graph.nodeIds)
    (leftStands : Represents original.nodeId entry.nodeId exit.nodeId left standIn)
    (rightStands : Represents original.nodeId entry.nodeId exit.nodeId right standIn) :
    left = right := by
  rw [← Splits.contract_represents (splitting.ne_entry leftMember)
    (splitting.eq_original_or_ne_exit leftMember) leftStands]
  exact Splits.contract_represents (splitting.ne_entry rightMember)
    (splitting.eq_original_or_ne_exit rightMember) rightStands

theorem endpoints : EndpointsIn (nodeIdsOf nodes) edges := by
  intro edge isEdge
  rcases splitting.mem_edges.mp isEdge with rfl | ⟨former, isFormer, rfl⟩
  · rw [splitting.inside_ends.1, splitting.inside_ends.2]
    refine ⟨List.mem_map_of_mem splitting.entry_mem, ?_⟩
    have ofOriginal := splitting.exitOf_mem (graph.nodeId_mem splitting.original_mem)
    rwa [exitOf_self] at ofOriginal
  · exact ⟨splitting.exitOf_mem (graph.endpoints _ isFormer).1,
      splitting.entryOf_mem (graph.endpoints _ isFormer).2⟩

theorem acceptable {draft : ExecutionGraphDraft} (carries : Carries graph draft)
    (drafted : draft.nodes = nodes ∧ draft.edges = edges) : draft.Acceptable := by
  obtain ⟨rfl, rfl⟩ := drafted
  have noCycle := splitting.splits.acyclic graph.acyclic
  obtain ⟨graphId, requestId, workloadId, sessionId, version⟩ := carries.identity
  exact
    { texts_nonblank := by
        rw [graphId, requestId, workloadId, sessionId, version]
        exact graph.texts_nonblank
      nodes_nonempty := List.ne_nil_of_mem splitting.entry_mem
      nodeIds_nodup := splitting.nodeIds_nodup
      endpoints := splitting.endpoints
      edges_proper := fun edge isEdge same => noCycle edge.sourceNodeId
        (.single (linked_arrowsOf.mpr ⟨edge, isEdge, rfl, same.symm⟩))
      profile_identity := by
        rw [carries.profile, requestId, workloadId, sessionId]
        exact graph.profile_identity
      acyclic := noCycle
      provenance_nonempty := carries.provenance_nonempty }

/-- Putting nodes and edges in another order leaves a splitting. -/
theorem of_perm {otherNodes : List ExecutionGraphNode} {otherEdges : List ExecutionGraphEdge}
    (nodesSame : otherNodes.Perm nodes) (edgesSame : otherEdges.Perm edges) :
    Splitting graph original entry exit inside otherNodes otherEdges :=
  { splitting with
    nodes_perm := nodesSame.trans splitting.nodes_perm
    edges_perm := edgesSame.trans splitting.edges_perm }

section Kept

theorem inside_mem : inside ∈ edges := splitting.mem_edges.mpr (.inl rfl)

theorem moved_mem {former : ExecutionGraphEdge} (isFormer : former ∈ graph.edges) :
    former.moved original.nodeId entry exit ∈ edges :=
  splitting.mem_edges.mpr (.inr ⟨former, isFormer, rfl⟩)

variable {node : ExecutionGraphNode} (member : node ∈ graph.nodes)
include member

/-- The edges into the exit of an unsplit node are those into the node; the edge into the exit of
the split node is the inner one. -/
theorem target_eq_exit_iff {edge : ExecutionGraphEdge} (isEdge : edge ∈ edges) :
    edge.targetNodeId = exitOf original.nodeId exit.nodeId node.nodeId ↔
      (edge = inside ∧ node = original) ∨ (node ≠ original ∧ ∃ former ∈ graph.edges,
        former.moved original.nodeId entry exit = edge ∧ former.targetNodeId = node.nodeId) := by
  have originalId := graph.nodeId_mem splitting.original_mem
  have nodeId := graph.nodeId_mem member
  constructor
  · intro same
    rcases splitting.mem_edges.mp isEdge with rfl | ⟨former, isFormer, rfl⟩
    · refine .inl ⟨rfl, graph.eq_of_nodeId_eq member splitting.original_mem ?_⟩
      refine splitting.exitOf_injective nodeId originalId ?_
      rw [← same, exitOf_self, splitting.inside_ends.2]
    · have target := splitting.eq_of_entryOf_eq_exitOf (graph.endpoints _ isFormer).2 nodeId same
      refine .inr ⟨?_, former, isFormer, rfl, target⟩
      rintro rfl
      rw [exitOf_self] at same
      exact splitting.entryOf_ne_exit (graph.endpoints _ isFormer).2 same
  · rintro (⟨rfl, rfl⟩ | ⟨different, former, isFormer, rfl, target⟩)
    · rw [exitOf_self, splitting.inside_ends.2]
    · have otherId : node.nodeId ≠ original.nodeId := fun equal =>
        different (graph.eq_of_nodeId_eq member splitting.original_mem equal)
      rw [exitOf_of_ne otherId, ← target]
      exact entryOf_of_ne (target ▸ otherId)

theorem source_eq_exit_iff {edge : ExecutionGraphEdge} (isEdge : edge ∈ edges) :
    edge.sourceNodeId = exitOf original.nodeId exit.nodeId node.nodeId ↔
      ∃ former ∈ graph.edges,
        former.moved original.nodeId entry exit = edge ∧ former.sourceNodeId = node.nodeId := by
  have nodeId := graph.nodeId_mem member
  constructor
  · intro same
    rcases splitting.mem_edges.mp isEdge with rfl | ⟨former, isFormer, rfl⟩
    · rw [splitting.inside_ends.1] at same
      exact absurd same.symm (splitting.exitOf_ne_entry nodeId)
    · exact ⟨former, isFormer, rfl,
        splitting.exitOf_injective (graph.endpoints _ isFormer).1 nodeId same⟩
  · rintro ⟨former, isFormer, rfl, source⟩
    rw [← source]
    rfl

end Kept

end Splitting

/-! ## Soundness of the result -/

namespace Splitting

section Preserved

variable {graph built : ExecutionGraph} {original entry exit : ExecutionGraphNode}
  {inside : ExecutionGraphEdge}
  (splitting : Splitting graph original entry exit inside built.nodes built.edges)
  (sound : Sound graph) (entryKind : entry.nodeType ∈ [.reasoning, .aggregate])
  (notInput : original.nodeType ≠ .input)
include splitting

theorem exists_origin_of_kind (entryKind : entry.nodeType ∈ [.reasoning, .aggregate])
    {successor : ExecutionGraphNode} (member : successor ∈ built.nodes)
    (special : successor.nodeType ∉ [.reasoning, .aggregate]) :
    ∃ node ∈ graph.nodes, successor.nodeType = node.nodeType ∧
      successor.nodeId = exitOf original.nodeId exit.nodeId node.nodeId :=
  (splitting.exists_origin member).resolve_left fun isEntry => special (isEntry ▸ entryKind)

include sound entryKind

theorem inputs_first {successor : ExecutionGraphNode} (member : successor ∈ built.nodes)
    (notInput : original.nodeType ≠ .input) (isInput : successor.nodeType = .input) :
    ∀ edge ∈ built.edges, edge.targetNodeId ≠ successor.nodeId := by
  obtain ⟨node, isNode, sameType, sameId⟩ := splitting.exists_origin_of_kind entryKind member (by
    rw [isInput]
    decide)
  intro edge isEdge same
  rw [sameId, splitting.target_eq_exit_iff isNode isEdge] at same
  rcases same with ⟨_, rfl⟩ | ⟨_, former, isFormer, _, target⟩
  · exact notInput (sameType ▸ isInput)
  · exact sound.inputs_first node isNode (sameType ▸ isInput) former isFormer target

theorem outputs_last {successor : ExecutionGraphNode} (member : successor ∈ built.nodes)
    (isOutput : successor.nodeType = .output) :
    ∀ edge ∈ built.edges, edge.sourceNodeId ≠ successor.nodeId := by
  obtain ⟨node, isNode, sameType, sameId⟩ := splitting.exists_origin_of_kind entryKind member (by
    rw [isOutput]
    decide)
  intro edge isEdge same
  rw [sameId, splitting.source_eq_exit_iff isNode isEdge] at same
  obtain ⟨former, isFormer, _, source⟩ := same
  exact sound.outputs_last node isNode (sameType ▸ isOutput) former isFormer source

theorem data_fed {successor : ExecutionGraphNode} (member : successor ∈ built.nodes)
    (kind : successor.nodeType = .output ∨ successor.nodeType.needsData) :
    ∃ edge ∈ built.edges, edge.targetNodeId = successor.nodeId ∧
      edge.dependencyType.isDataLike := by
  have special : ∀ nodeType : GraphNodeType, nodeType = .output ∨ nodeType.needsData →
      nodeType ∉ [.reasoning, .aggregate] := by
    intro nodeType
    cases nodeType <;> decide
  obtain ⟨node, isNode, sameType, sameId⟩ :=
    splitting.exists_origin_of_kind entryKind member (special _ kind)
  rw [sameId]
  by_cases isOriginal : node = original
  · refine ⟨inside, splitting.inside_mem, ?_, by rw [splitting.inside_data]; rfl⟩
    exact (splitting.target_eq_exit_iff isNode splitting.inside_mem).mpr (.inl ⟨rfl, isOriginal⟩)
  · obtain ⟨former, isFormer, target, isData⟩ := sound.data_fed node isNode (sameType ▸ kind)
    refine ⟨_, splitting.moved_mem isFormer, ?_, isData⟩
    exact (splitting.target_eq_exit_iff isNode (splitting.moved_mem isFormer)).mpr
      (.inr ⟨isOriginal, former, isFormer, rfl, target⟩)

theorem specialized_used {successor : ExecutionGraphNode} (member : successor ∈ built.nodes)
    (kind : successor.nodeType.isSpecialized) :
    ∃ edge ∈ built.edges, edge.sourceNodeId = successor.nodeId := by
  have special : ∀ nodeType : GraphNodeType, nodeType.isSpecialized →
      nodeType ∉ [.reasoning, .aggregate] := by
    intro nodeType
    cases nodeType <;> decide
  obtain ⟨node, isNode, sameType, sameId⟩ :=
    splitting.exists_origin_of_kind entryKind member (special _ kind)
  obtain ⟨former, isFormer, source⟩ := sound.specialized_used node isNode (sameType ▸ kind)
  have isMoved := splitting.moved_mem isFormer
  refine ⟨_, isMoved, ?_⟩
  rw [sameId]
  exact (splitting.source_eq_exit_iff isNode isMoved).mpr ⟨former, isFormer, rfl, source⟩

theorem tool_results {edge : ExecutionGraphEdge} (isEdge : edge ∈ built.edges)
    {successor : ExecutionGraphNode} (member : successor ∈ built.nodes)
    (same : successor.nodeId = edge.sourceNodeId) :
    edge.dependencyType = .toolResult ↔ successor.nodeType = .tool := by
  rcases splitting.exists_origin member with rfl | ⟨node, isNode, sameType, sameId⟩
  · have notTool : successor.nodeType ≠ .tool := by
      intro isTool
      rw [isTool] at entryKind
      contradiction
    rcases splitting.mem_edges.mp isEdge with rfl | ⟨former, isFormer, rfl⟩
    · simp [splitting.inside_data, notTool]
    · exact absurd same.symm (splitting.exitOf_ne_entry (graph.endpoints _ isFormer).1)
  · rw [sameId] at same
    obtain ⟨former, isFormer, rfl, source⟩ :=
      (splitting.source_eq_exit_iff isNode isEdge).mp same.symm
    rw [sameType]
    exact sound.tool_results former isFormer node isNode source.symm

theorem aggregates_join (notAggregate : original.nodeType ≠ .aggregate)
    (joins : entry.nodeType = .aggregate →
      2 ≤ dataLikeCount (incomingEdges graph.edges original.nodeId))
    {successor : ExecutionGraphNode} (member : successor ∈ built.nodes)
    (isAggregate : successor.nodeType = .aggregate) :
    2 ≤ dataLikeCount (incomingEdges built.edges successor.nodeId) := by
  rcases splitting.exists_origin member with rfl | ⟨node, isNode, sameType, sameId⟩
  · rw [← @entryOf_self _ _ original.nodeId successor.nodeId,
      splitting.dataLikeCount_eq (graph.nodeId_mem splitting.original_mem)]
    exact joins isAggregate
  · have nodeAggregate : node.nodeType = .aggregate := sameType ▸ isAggregate
    have notOriginal : node.nodeId ≠ original.nodeId := fun equal =>
      notAggregate (graph.eq_of_nodeId_eq isNode splitting.original_mem equal ▸ nodeAggregate)
    rw [sameId, exitOf_of_ne notOriginal, ← @entryOf_of_ne _ _ _ entry.nodeId _ notOriginal,
      splitting.dataLikeCount_eq (graph.nodeId_mem isNode)]
    exact sound.aggregates_join node isNode nodeAggregate

include notInput

theorem reached {successor : ExecutionGraphNode} (member : successor ∈ built.nodes)
    (processing : ¬ successor.nodeType.isBoundary) :
    ∃ start ∈ built.nodes, start.nodeType = .input ∧
      Reaches built.arrows start.nodeId successor.nodeId := by
  have lift {start : ExecutionGraphNode} (startMember : start ∈ graph.nodes)
      (isInput : start.nodeType = .input)
      (path : Reaches built.arrows (exitOf original.nodeId exit.nodeId start.nodeId)
        successor.nodeId) :
      ∃ first ∈ built.nodes, first.nodeType = .input ∧
        Reaches built.arrows first.nodeId successor.nodeId := by
    obtain ⟨first, firstMember, firstType, firstId⟩ := splitting.exists_exit startMember
    exact ⟨first, firstMember, firstType.trans isInput, firstId ▸ path⟩
  rcases splitting.exists_origin member with rfl | ⟨node, isNode, sameType, sameId⟩
  · obtain ⟨start, startMember, isInput, path⟩ :=
      sound.leads_from_input splitting.original_mem notInput
    have lifted := splitting.splits.leads_of_leads path (.inr rfl) (.inl entryOf_self.symm)
    exact lift startMember isInput lifted.to_reflTransGen
  · obtain ⟨start, startMember, isInput, path⟩ :=
      sound.reached node isNode (sameType ▸ processing)
    exact lift startMember isInput (sameId ▸ splitting.reaches_exit path)

theorem contributes {successor : ExecutionGraphNode} (member : successor ∈ built.nodes)
    (processing : ¬ successor.nodeType.isBoundary) :
    ∃ final ∈ built.nodes, final.nodeType = .output ∧
      Reaches built.arrows successor.nodeId final.nodeId := by
  have lift {final : ExecutionGraphNode} (finalMember : final ∈ graph.nodes)
      (isOutput : final.nodeType = .output)
      (path : Reaches built.arrows successor.nodeId
        (exitOf original.nodeId exit.nodeId final.nodeId)) :
      ∃ last ∈ built.nodes, last.nodeType = .output ∧
        Reaches built.arrows successor.nodeId last.nodeId := by
    obtain ⟨last, lastMember, lastType, lastId⟩ := splitting.exists_exit finalMember
    exact ⟨last, lastMember, lastType.trans isOutput, lastId ▸ path⟩
  rcases splitting.exists_origin member with rfl | ⟨node, isNode, sameType, sameId⟩
  · obtain ⟨final, finalMember, isOutput, path⟩ :=
      sound.reaches_output splitting.original_mem notInput
    have onward := splitting.reaches_exit path
    rw [exitOf_self] at onward
    exact lift finalMember isOutput (.head splitting.splits.linked_inside onward)
  · obtain ⟨final, finalMember, isOutput, path⟩ :=
      sound.contributes node isNode (sameType ▸ processing)
    exact lift finalMember isOutput (sameId ▸ splitting.reaches_exit path)

omit notInput entryKind sound in
theorem types_kept {nodeType : GraphNodeType}
    (present : nodeType ∈ graph.nodes.map ExecutionGraphNode.nodeType) :
    nodeType ∈ built.nodes.map ExecutionGraphNode.nodeType := by
  obtain ⟨node, member, rfl⟩ := List.mem_map.mp present
  obtain ⟨successor, isSuccessor, sameType, _⟩ := splitting.exists_exit member
  exact sameType ▸ List.mem_map_of_mem isSuccessor

/-- A sound graph stays sound when a node is split, as long as an entry that aggregates has data to
join. -/
theorem sound_of_joins (notAggregate : original.nodeType ≠ .aggregate)
    (joins : entry.nodeType = .aggregate →
      2 ≤ dataLikeCount (incomingEdges graph.edges original.nodeId))
    (profileSame : built.intelligenceProfile = graph.intelligenceProfile) : Sound built where
  input_exists := by
    obtain ⟨node, member, isInput⟩ := sound.input_exists
    obtain ⟨successor, isSuccessor, sameType, _⟩ := splitting.exists_exit member
    exact ⟨successor, isSuccessor, sameType.trans isInput⟩
  output_exists := by
    obtain ⟨node, member, isOutput⟩ := sound.output_exists
    obtain ⟨successor, isSuccessor, sameType, _⟩ := splitting.exists_exit member
    exact ⟨successor, isSuccessor, sameType.trans isOutput⟩
  inputs_first _ member := splitting.inputs_first sound entryKind member notInput
  outputs_last _ member := splitting.outputs_last sound entryKind member
  data_fed _ member := splitting.data_fed sound entryKind member
  reached _ member := splitting.reached sound entryKind notInput member
  contributes _ member := splitting.contributes sound entryKind notInput member
  aggregates_join _ member := splitting.aggregates_join sound entryKind notAggregate joins member
  specialized_used _ member := splitting.specialized_used sound entryKind member
  tool_results _ isEdge _ member := splitting.tool_results sound entryKind isEdge member
  covered := by
    intro profile given
    have covers := sound.covered profile (profileSame ▸ given)
    exact ⟨fun listed => splitting.types_kept (covers.retrieval listed),
      fun listed => splitting.types_kept (covers.tool listed),
      fun listed => splitting.types_kept (covers.validation listed),
      fun listed => splitting.types_kept (covers.vision listed)⟩

end Preserved

/-- Where a split node got an aggregate for its entry and the result is sound, it has data to
join. -/
theorem joins_of_sound {graph built : ExecutionGraph} {original entry exit : ExecutionGraphNode}
    {inside : ExecutionGraphEdge}
    (splitting : Splitting graph original entry exit inside built.nodes built.edges)
    (sound : Sound built) (isAggregate : entry.nodeType = .aggregate) :
    2 ≤ dataLikeCount (incomingEdges graph.edges original.nodeId) := by
  have joined := sound.aggregates_join entry splitting.entry_mem isAggregate
  rwa [← @entryOf_self _ _ original.nodeId entry.nodeId,
    splitting.dataLikeCount_eq (graph.nodeId_mem splitting.original_mem)] at joined

end Splitting

end Graph
end MercuryX
