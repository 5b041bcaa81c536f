import MercuryX.Graph.Transformation

/-!
# What transformations preserve

Each pass of the transformation splits a node, so that the transformed graph has the dependencies
of the graph it came from. The transformation succeeds exactly when the ids of the stages are free
and the join that gets an aggregate has data to join.
-/

namespace MercuryX
namespace Graph

open Foundation
open Intelligence

/-! ## The passes are splittings -/

/-- A list falls into the items that satisfy neither, the one or the other of two exclusive
conditions. -/
theorem perm_filter_neither {α : Type*} (left right : α → Bool) (items : List α)
    (apart : ∀ item ∈ items, left item = true → right item = false) :
    items.Perm (items.filter (fun item => !left item && !right item) ++ items.filter left ++
      items.filter right) := by
  induction items with
  | nil => exact .nil
  | cons item items induction =>
      have rest := induction fun other member => apart other (List.mem_cons_of_mem _ member)
      have here := apart item List.mem_cons_self
      rw [List.filter_cons, List.filter_cons, List.filter_cons]
      cases isLeft : left item with
      | true =>
          rw [here isLeft]
          refine (rest.cons item).trans ?_
          rw [List.append_assoc, List.append_assoc]
          exact List.perm_middle.symm
      | false =>
          cases isRight : right item with
          | true => exact (rest.cons item).trans List.perm_middle.symm
          | false => exact rest.cons item

section Moved

variable {vertex : String} {entry exit : ExecutionGraphNode} {edge : ExecutionGraphEdge}

theorem moved_of_ne (source : edge.sourceNodeId ≠ vertex) (target : edge.targetNodeId ≠ vertex) :
    edge.moved vertex entry exit = edge := by
  simp only [ExecutionGraphEdge.moved, exitOf_of_ne source, entryOf_of_ne target]

theorem moved_of_target (source : edge.sourceNodeId ≠ vertex)
    (target : edge.targetNodeId = vertex) :
    edge.moved vertex entry exit = edge.into entry := by
  simp only [ExecutionGraphEdge.moved, ExecutionGraphEdge.into, exitOf_of_ne source, target,
    entryOf_self]

theorem moved_of_source (source : edge.sourceNodeId = vertex)
    (target : edge.targetNodeId ≠ vertex) :
    edge.moved vertex entry exit = edge.outOf exit := by
  simp only [ExecutionGraphEdge.moved, ExecutionGraphEdge.outOf, exitOf_self, source,
    entryOf_of_ne target]

end Moved

theorem decomposedNode_spec {graph : ExecutionGraph} {original : ExecutionGraphNode}
    (chosen : decomposedNode graph = some original) :
    original ∈ graph.nodes ∧ original.nodeType = .reasoning := by
  unfold decomposedNode at chosen
  split at chosen
  · contradiction
  · split at chosen
    · split at chosen
      · next only listed =>
          obtain rfl := Option.some_inj.mp chosen
          have member : only ∈ graph.nodes.filter fun node => node.nodeType = .reasoning := by
            simp [listed]
          simpa using member
      · contradiction
    · contradiction

theorem firstStage_ne_secondStage (original : ExecutionGraphNode) :
    (firstStage original).nodeId ≠ (secondStage original).nodeId := by
  intro same
  have chars := congrArg String.toList same
  simp [firstStage, secondStage, decomposedStage] at chars

theorem decompose_edges_perm (graph : ExecutionGraph) (original : ExecutionGraphNode) :
    (decompose graph original).edges.Perm (stageEdge original :: graph.edges.map
      (ExecutionGraphEdge.moved original.nodeId (firstStage original) (secondStage original))) := by
  have apart : ∀ edge ∈ graph.edges, decide (edge.targetNodeId = original.nodeId) = true →
      decide (edge.sourceNodeId = original.nodeId) = false := by
    intro edge isEdge target
    refine decide_eq_false fun source => graph.edges_proper edge isEdge ?_
    exact source.trans (of_decide_eq_true target).symm
  let others := graph.edges.filter fun edge =>
    !decide (edge.targetNodeId = original.nodeId) && !decide (edge.sourceNodeId = original.nodeId)
  have parts : graph.edges.Perm (others ++ incomingEdges graph.edges original.nodeId ++
      outgoingEdges graph.edges original.nodeId) := perm_filter_neither _ _ graph.edges apart
  have untouched : (graph.edges.filter fun edge =>
      edge ∉ incomingEdges graph.edges original.nodeId ∧
        edge ∉ outgoingEdges graph.edges original.nodeId) = others := by
    refine List.filter_congr fun edge isEdge => ?_
    simp [isEdge]
  let move := ExecutionGraphEdge.moved original.nodeId (firstStage original) (secondStage original)
  have stay : others.map move = others := by
    refine (List.map_congr_left fun edge member => ?_).trans (List.map_id others)
    obtain ⟨_, outside⟩ := List.mem_filter.mp member
    simp only [Bool.and_eq_true, Bool.not_eq_true', decide_eq_false_iff_not] at outside
    exact moved_of_ne outside.2 outside.1
  have enter : (incomingEdges graph.edges original.nodeId).map move =
      (incomingEdges graph.edges original.nodeId).map fun edge =>
        edge.into (firstStage original) := by
    refine List.map_congr_left fun edge member => ?_
    obtain ⟨isEdge, target⟩ := mem_incomingEdges.mp member
    exact moved_of_target (fun source => graph.edges_proper edge isEdge (source.trans target.symm))
      target
  have leave : (outgoingEdges graph.edges original.nodeId).map move =
      (outgoingEdges graph.edges original.nodeId).map fun edge =>
        edge.outOf (secondStage original) := by
    refine List.map_congr_left fun edge member => ?_
    obtain ⟨isEdge, source⟩ := mem_outgoingEdges.mp member
    exact moved_of_source source fun target =>
      graph.edges_proper edge isEdge (source.trans target.symm)
  refine List.Perm.trans ?_ ((parts.map move).symm.cons _)
  rw [List.map_append, List.map_append, stay, enter, leave, decompose, untouched]
  rw [List.append_assoc _ [_]]
  exact List.perm_middle

/-- Where the ids of its stages are new, decomposing a node splits it. -/
theorem decompose_splitting {graph : ExecutionGraph} {original : ExecutionGraphNode}
    (chosen : decomposedNode graph = some original)
    (firstFresh : (firstStage original).nodeId ∉ graph.nodeIds)
    (secondFresh : (secondStage original).nodeId ∉ graph.nodeIds) :
    Splitting graph original (firstStage original) (secondStage original) (stageEdge original)
      (decompose graph original).nodes (decompose graph original).edges := by
  obtain ⟨member, isReasoning⟩ := decomposedNode_spec chosen
  exact
    { original_mem := member
      entry_fresh := firstFresh
      exit_fresh := .inr secondFresh
      entry_ne_exit := firstStage_ne_secondStage original
      exit_type := isReasoning.symm
      nodes_perm := by
        have others : (graph.nodes.filter fun node => node.nodeId ≠ original.nodeId) =
            graph.nodes.erase original := by
          rw [graph.nodes_nodup.erase_eq_filter]
          refine List.filter_congr fun node isNode => ?_
          have sameNode : node.nodeId = original.nodeId ↔ node = original :=
            ⟨graph.eq_of_nodeId_eq isNode member, fun same => same ▸ rfl⟩
          by_cases same : node = original <;> simp [sameNode, same]
        rw [decompose, others]
        exact List.perm_append_comm
      inside_ends := ⟨rfl, rfl⟩
      inside_data := rfl
      edges_perm := decompose_edges_perm graph original }

/-- Giving a join an aggregate splits it. -/
theorem wrapJoin_splitting {current : ExecutionGraph} {rewrite : GraphRewrite}
    {target : ExecutionGraphNode} (source : ExecutionGraphNode)
    (nodesSame : rewrite.nodes.Perm current.nodes) (edgesSame : rewrite.edges.Perm current.edges)
    (member : target ∈ current.nodes) (fresh : aggregateId target.nodeId ∉ current.nodeIds) :
    Splitting current target (aggregateNode target source) target
      (aggregateEdge (aggregateNode target source) target)
      (wrapJoin rewrite target source).nodes (wrapJoin rewrite target source).edges where
  original_mem := member
  entry_fresh := fresh
  exit_fresh := .inl rfl
  entry_ne_exit := by
    intro same
    have sameId : aggregateId target.nodeId = target.nodeId := same
    rw [sameId] at fresh
    exact fresh (current.nodeId_mem member)
  exit_type := rfl
  nodes_perm := List.perm_append_comm.trans
    ((nodesSame.trans (List.perm_cons_erase member)).cons (aggregateNode target source))
  inside_ends := ⟨rfl, rfl⟩
  inside_data := rfl
  edges_perm := by
    let aggregate := aggregateNode target source
    let incoming := incomingEdges rewrite.edges target.nodeId
    let others := rewrite.edges.filter fun edge => edge ∉ incoming
    let move := ExecutionGraphEdge.moved target.nodeId aggregate target
    have stay : others.map move = others := by
      refine (List.map_congr_left fun edge member => ?_).trans (List.map_id others)
      obtain ⟨isEdge, outside⟩ := List.mem_filter.mp member
      have elsewhere : edge.targetNodeId ≠ target.nodeId := by
        simpa [incoming, isEdge] using outside
      simp only [move, ExecutionGraphEdge.moved, exitOf_vertex, entryOf_of_ne elsewhere]
      rfl
    have enter : incoming.map move = incoming.map fun edge => edge.into aggregate := by
      refine List.map_congr_left fun edge member => ?_
      obtain ⟨isEdge, same⟩ := mem_incomingEdges.mp member
      have proper := current.edges_proper edge (edgesSame.mem_iff.mp isEdge)
      exact moved_of_target (fun source => proper (source.trans same.symm)) same
    have parts : current.edges.Perm (others ++ incoming) := by
      have halves := List.filter_append_perm (fun edge => decide (edge ∉ incoming)) rewrite.edges
      have rest : (rewrite.edges.filter fun edge => !decide (edge ∉ incoming)) = incoming := by
        refine List.filter_congr fun edge isEdge => ?_
        simp [incoming, isEdge]
      rw [rest] at halves
      exact edgesSame.symm.trans halves.symm
    refine List.Perm.trans ?_ ((parts.map move).symm.cons _)
    rw [List.map_append, stay, enter]
    exact List.perm_append_comm

/-! ## The choice of a join -/

theorem nodeById_eq_some_iff {nodes : List ExecutionGraphNode} (unique : (nodeIdsOf nodes).Nodup)
    {nodeId : String} {node : ExecutionGraphNode} :
    nodeById nodes nodeId = some node ↔ node ∈ nodes ∧ node.nodeId = nodeId := by
  constructor
  · intro found
    exact ⟨List.mem_reverse.mp (List.mem_of_find?_eq_some found), by
      simpa using List.find?_some found⟩
  · rintro ⟨member, rfl⟩
    unfold nodeById
    cases found : nodes.reverse.find? fun other => other.nodeId = node.nodeId with
    | none =>
        rw [List.find?_eq_none] at found
        exact absurd (decide_eq_true rfl) (found node (List.mem_reverse.mpr member))
    | some other =>
        have sameId : other.nodeId = node.nodeId := by simpa using List.find?_some found
        have otherMember := List.mem_reverse.mp (List.mem_of_find?_eq_some found)
        rw [List.inj_on_of_nodup_map unique otherMember member sameId]

theorem isAggregate_iff {nodes : List ExecutionGraphNode} (unique : (nodeIdsOf nodes).Nodup)
    {nodeId : String} : isAggregate nodes nodeId = true ↔
      ∃ node ∈ nodes, node.nodeId = nodeId ∧ node.nodeType = .aggregate := by
  simp only [isAggregate, Option.any_eq_true, nodeById_eq_some_iff unique, decide_eq_true_eq,
    and_assoc]

theorem joinToWrap_eq_some {nodes : List ExecutionGraphNode} {edges : List ExecutionGraphEdge}
    {target : ExecutionGraphNode} (chosen : joinToWrap nodes edges = some target) :
    target ∈ nodes ∧ needsAggregate nodes edges target.nodeId = true ∧
      ∀ node ∈ nodes, needsAggregate nodes edges node.nodeId = true →
        target.nodeId ≤ node.nodeId := by
  obtain ⟨needs, before, after, split, earlier⟩ := List.find?_eq_some_iff_append.mp chosen
  have sorted := sortOn_pairwise ExecutionGraphNode.nodeId nodes
  rw [split, List.pairwise_append] at sorted
  refine ⟨(mem_sortOn ExecutionGraphNode.nodeId).mp (by simp [split]), needs, ?_⟩
  intro node member alsoNeeds
  have listed : node ∈ before ++ target :: after := by
    rw [← split]
    exact (mem_sortOn _).mpr member
  rcases List.mem_append.mp listed with isBefore | isAfter
  · have without := earlier node isBefore
    rw [alsoNeeds] at without
    contradiction
  · rcases List.mem_cons.mp isAfter with rfl | isAfter
    · exact le_rfl
    · exact (List.pairwise_cons.mp sorted.2.1).1 node isAfter

theorem joinToWrap_eq_none {nodes : List ExecutionGraphNode} {edges : List ExecutionGraphEdge} :
    joinToWrap nodes edges = none ↔
      ∀ node ∈ nodes, needsAggregate nodes edges node.nodeId = false := by
  simp [joinToWrap]

theorem isAggregate_of_mem {nodes : List ExecutionGraphNode} (unique : (nodeIdsOf nodes).Nodup)
    {node : ExecutionGraphNode} (member : node ∈ nodes) :
    isAggregate nodes node.nodeId = true ↔ node.nodeType = .aggregate := by
  rw [isAggregate_iff unique]
  constructor
  · rintro ⟨other, otherMember, sameId, kind⟩
    rwa [← List.inj_on_of_nodup_map unique otherMember member sameId]
  · exact fun kind => ⟨node, member, rfl, kind⟩

theorem needsAggregate_iff {nodes : List ExecutionGraphNode} {edges : List ExecutionGraphEdge}
    {targetId : String} : needsAggregate nodes edges targetId = true ↔
      2 ≤ (incomingEdges edges targetId).length ∧ ¬ isAggregate nodes targetId = true ∧
        (∀ edge ∈ incomingEdges edges targetId, ¬ isAggregate nodes edge.sourceNodeId = true) ∧
        aggregateId targetId ∉ nodeIdsOf nodes := by
  simp [needsAggregate]

theorem needsAggregate_perm {nodes otherNodes : List ExecutionGraphNode}
    {edges otherEdges : List ExecutionGraphEdge} (unique : (nodeIdsOf otherNodes).Nodup)
    (nodesSame : nodes.Perm otherNodes) (edgesSame : edges.Perm otherEdges) (targetId : String) :
    needsAggregate nodes edges targetId = needsAggregate otherNodes otherEdges targetId := by
  have alsoUnique : (nodeIdsOf nodes).Nodup := (nodesSame.map _).nodup_iff.mpr unique
  have incoming : (incomingEdges edges targetId).Perm (incomingEdges otherEdges targetId) :=
    edgesSame.filter _
  have aggregates : isAggregate nodes = isAggregate otherNodes := by
    funext nodeId
    rw [Bool.eq_iff_iff, isAggregate_iff unique, isAggregate_iff alsoUnique]
    simp only [nodesSame.mem_iff]
  have ids : ∀ nodeId, nodeId ∈ nodeIdsOf nodes ↔ nodeId ∈ nodeIdsOf otherNodes := fun nodeId =>
    (nodesSame.map _).mem_iff
  rw [Bool.eq_iff_iff, needsAggregate_iff, needsAggregate_iff, incoming.length_eq, aggregates]
  simp only [incoming.mem_iff, ids]

/-! ## What has to hold of the graph -/

/-- The ids of the stages are new. -/
def StagesFresh (graph : ExecutionGraph) : Prop :=
  ∀ original, decomposedNode graph = some original →
    (firstStage original).nodeId ∉ graph.nodeIds ∧ (secondStage original).nodeId ∉ graph.nodeIds

/-- The id under which a node receives its edges after the first pass: that of the first stage for
a decomposed node, its own for the others. -/
def entryId (graph : ExecutionGraph) (nodeId : String) : String :=
  match decomposedNode graph with
  | none => nodeId
  | some original => entryOf original.nodeId (firstStage original).nodeId nodeId

/-- The ids of the nodes after the first pass. -/
def idsAfterDecomposition (graph : ExecutionGraph) : List String :=
  match decomposedNode graph with
  | none => graph.nodeIds
  | some original => (firstStage original).nodeId :: (secondStage original).nodeId ::
      graph.nodeIds.filter fun nodeId => nodeId ≠ original.nodeId

/-- A node with several incoming edges that is no aggregate, follows none, and for which the id of
an aggregate is free. -/
def IsOpenJoin (graph : ExecutionGraph) (node : ExecutionGraphNode) : Prop :=
  2 ≤ (incomingEdges graph.edges node.nodeId).length ∧ node.nodeType ≠ .aggregate ∧
    (∀ edge ∈ incomingEdges graph.edges node.nodeId, ∀ source ∈ graph.nodes,
      source.nodeId = edge.sourceNodeId → source.nodeType ≠ .aggregate) ∧
    aggregateId (entryId graph node.nodeId) ∉ idsAfterDecomposition graph

instance (graph : ExecutionGraph) (node : ExecutionGraphNode) : Decidable (IsOpenJoin graph node) :=
  inferInstanceAs (Decidable (_ ∧ _))

/-- The first open join receives data over at least two edges. -/
def FirstJoinHasData (graph : ExecutionGraph) : Prop :=
  ∀ node ∈ graph.nodes, IsOpenJoin graph node →
    (∀ other ∈ graph.nodes, IsOpenJoin graph other →
      entryId graph node.nodeId ≤ entryId graph other.nodeId) →
    2 ≤ dataLikeCount (incomingEdges graph.edges node.nodeId)

instance (graph : ExecutionGraph) : Decidable (FirstJoinHasData graph) :=
  inferInstanceAs (Decidable (∀ node ∈ graph.nodes, _))

/-- A node of the result stands for a node: one of the stages for the decomposed node, and any
other node for itself. -/
def StandsFor (graph : ExecutionGraph) (standIn nodeId : String) : Prop :=
  match decomposedNode graph with
  | none => standIn = nodeId
  | some original => Represents original.nodeId (firstStage original).nodeId
      (secondStage original).nodeId nodeId standIn

/-- What a transformation keeps of a graph. -/
structure Preserves (graph transformed : ExecutionGraph) : Prop where
  /-- The identity is kept. -/
  identity : transformed.graphId = graph.graphId ∧ transformed.requestId = graph.requestId ∧
    transformed.workloadId = graph.workloadId ∧ transformed.sessionId = graph.sessionId
  /-- The profile is kept. -/
  profile : transformed.intelligenceProfile = graph.intelligenceProfile
  /-- Every node but the decomposed one is kept. -/
  kept : ∀ node ∈ graph.nodes, decomposedNode graph ≠ some node → node ∈ transformed.nodes
  /-- The decomposed node has its two stages. -/
  stages : ∀ original, decomposedNode graph = some original →
    firstStage original ∈ transformed.nodes ∧ secondStage original ∈ transformed.nodes
  /-- Different nodes depend on one another exactly as before. -/
  depends : ∀ left ∈ graph.nodes, ∀ right ∈ graph.nodes, left ≠ right → ∀ leftStand rightStand,
    StandsFor graph leftStand left.nodeId → StandsFor graph rightStand right.nodeId →
      (Leads transformed.arrows leftStand rightStand ↔ Leads graph.arrows left.nodeId right.nodeId)

/-! ## The graph between the passes -/

/-- The graph that the first pass leaves for the second. -/
structure Decomposed (graph current : ExecutionGraph) : Prop where
  /-- The nodes are those of the first pass. -/
  nodes_perm : (decomposeReasoning graph).nodes.Perm current.nodes
  /-- The edges are those of the first pass. -/
  edges_perm : (decomposeReasoning graph).edges.Perm current.edges
  /-- Without a decomposition the graph is left alone. -/
  unchanged : decomposedNode graph = none → current = graph
  /-- With a decomposition the graph is built from what the first pass made. -/
  created : decomposedNode graph ≠ none →
    (rewriteDraft graph (decomposeReasoning graph)).create = .ok current
  /-- The graph stays sound. -/
  sound : Sound graph → Sound current
  /-- The graph is preserved. -/
  preserves : Preserves graph current
  /-- The version is kept. -/
  version : current.version = graph.version
  /-- Every stand-in is a node. -/
  stands_mem : ∀ node ∈ graph.nodes, ∀ standIn, StandsFor graph standIn node.nodeId →
    standIn ∈ current.nodeIds
  /-- Different nodes have different stand-ins. -/
  stands_apart : ∀ left ∈ graph.nodes, ∀ right ∈ graph.nodes, left ≠ right →
    ∀ leftStand rightStand, StandsFor graph leftStand left.nodeId →
      StandsFor graph rightStand right.nodeId → leftStand ≠ rightStand
  /-- The entry of a node is a node, which needs an aggregate where the node is an open join. -/
  needs_iff : ∀ node ∈ graph.nodes, ∃ entry ∈ current.nodes,
    entry.nodeId = entryId graph node.nodeId ∧
      (needsAggregate current.nodes current.edges entry.nodeId = true ↔ IsOpenJoin graph node) ∧
      dataLikeCount (incomingEdges current.edges entry.nodeId) =
        dataLikeCount (incomingEdges graph.edges node.nodeId)
  /-- Only entries of nodes need an aggregate. -/
  needs_entry : ∀ entry ∈ current.nodes,
    needsAggregate current.nodes current.edges entry.nodeId = true →
      ∃ node ∈ graph.nodes, entry.nodeId = entryId graph node.nodeId
  /-- Different nodes have different entries. -/
  entry_injective : ∀ left ∈ graph.nodes, ∀ right ∈ graph.nodes,
    entryId graph left.nodeId = entryId graph right.nodeId → left = right

theorem isOpenJoin_iff {graph : ExecutionGraph} {node : ExecutionGraphNode}
    (member : node ∈ graph.nodes) : IsOpenJoin graph node ↔
      2 ≤ (incomingEdges graph.edges node.nodeId).length ∧
        ¬ isAggregate graph.nodes node.nodeId = true ∧
        (∀ edge ∈ incomingEdges graph.edges node.nodeId,
          ¬ isAggregate graph.nodes edge.sourceNodeId = true) ∧
        aggregateId (entryId graph node.nodeId) ∉ idsAfterDecomposition graph := by
  simp only [IsOpenJoin, isAggregate_of_mem graph.nodeIds_nodup member,
    isAggregate_iff graph.nodeIds_nodup, not_exists, not_and, ne_eq]

/-- Without a decomposition the second pass starts from the graph itself. -/
theorem decomposed_self {graph : ExecutionGraph} (none : decomposedNode graph = none) :
    Decomposed graph graph where
  nodes_perm := by simp [decomposeReasoning, none]
  edges_perm := by simp [decomposeReasoning, none]
  unchanged _ := rfl
  created decomposes := absurd none decomposes
  sound := id
  preserves :=
    { identity := ⟨rfl, rfl, rfl, rfl⟩
      profile := rfl
      kept := fun _ member _ => member
      stages := by simp [none]
      depends := by
        intro left _ right _ _ leftStand rightStand leftStands rightStands
        simp only [StandsFor, none] at leftStands rightStands
        rw [leftStands, rightStands] }
  version := rfl
  stands_mem := by
    intro node member standIn stands
    simp only [StandsFor, none] at stands
    exact stands ▸ graph.nodeId_mem member
  stands_apart := by
    intro left leftMember right rightMember different leftStand rightStand leftStands rightStands
    simp only [StandsFor, none] at leftStands rightStands
    rw [leftStands, rightStands]
    exact fun same => different (graph.eq_of_nodeId_eq leftMember rightMember same)
  needs_iff := by
    intro node member
    refine ⟨node, member, by simp [entryId, none], ?_, rfl⟩
    rw [isOpenJoin_iff member, needsAggregate_iff]
    simp [entryId, idsAfterDecomposition, none, ExecutionGraph.nodeIds]
  needs_entry entry member _ := ⟨entry, member, by simp [entryId, none]⟩
  entry_injective := by
    intro left leftMember right rightMember same
    simp only [entryId, none] at same
    exact graph.eq_of_nodeId_eq leftMember rightMember same

namespace Splitting

variable {graph built : ExecutionGraph} {original entry exit : ExecutionGraphNode}
  {inside : ExecutionGraphEdge}
  (splitting : Splitting graph original entry exit inside built.nodes built.edges)
include splitting

theorem isAggregate_exit {nodeId : String} (member : nodeId ∈ graph.nodeIds) :
    isAggregate built.nodes (exitOf original.nodeId exit.nodeId nodeId) = true ↔
      isAggregate graph.nodes nodeId = true := by
  obtain ⟨node, isNode, rfl⟩ := List.mem_map.mp member
  obtain ⟨successor, isSuccessor, sameType, sameId⟩ := splitting.exists_exit isNode
  rw [← sameId, isAggregate_of_mem built.nodeIds_nodup isSuccessor,
    isAggregate_of_mem graph.nodeIds_nodup isNode, sameType]

/-- The entry of a node is an aggregate exactly when the node is, if the entry of the split node
is of its kind. -/
theorem isAggregate_entry (entryType : entry.nodeType = original.nodeType) {nodeId : String}
    (member : nodeId ∈ graph.nodeIds) :
    isAggregate built.nodes (entryOf original.nodeId entry.nodeId nodeId) = true ↔
      isAggregate graph.nodes nodeId = true := by
  by_cases same : nodeId = original.nodeId
  · rw [same, entryOf_self, isAggregate_of_mem built.nodeIds_nodup splitting.entry_mem,
      isAggregate_of_mem graph.nodeIds_nodup splitting.original_mem, entryType]
  · rw [entryOf_of_ne same, ← splitting.isAggregate_exit member, exitOf_of_ne same]

theorem needsAggregate_entry (entryType : entry.nodeType = original.nodeType) {nodeId : String}
    (member : nodeId ∈ graph.nodeIds) :
    needsAggregate built.nodes built.edges (entryOf original.nodeId entry.nodeId nodeId) = true ↔
      2 ≤ (incomingEdges graph.edges nodeId).length ∧ ¬ isAggregate graph.nodes nodeId = true ∧
        (∀ edge ∈ incomingEdges graph.edges nodeId,
          ¬ isAggregate graph.nodes edge.sourceNodeId = true) ∧
        aggregateId (entryOf original.nodeId entry.nodeId nodeId) ∉ built.nodeIds := by
  have incoming := splitting.incomingEdges_perm member
  have sources : (∀ edge ∈ incomingEdges built.edges
        (entryOf original.nodeId entry.nodeId nodeId),
      ¬ isAggregate built.nodes edge.sourceNodeId = true) ↔
      ∀ edge ∈ incomingEdges graph.edges nodeId,
        ¬ isAggregate graph.nodes edge.sourceNodeId = true := by
    simp only [incoming.mem_iff, List.forall_mem_map]
    refine forall₂_congr fun edge isIncoming => ?_
    have isEdge := (mem_incomingEdges.mp isIncoming).1
    exact not_congr (splitting.isAggregate_exit (graph.endpoints _ isEdge).1)
  rw [needsAggregate_iff, incoming.length_eq, List.length_map, sources,
    splitting.isAggregate_entry entryType member]
  rfl

/-- Only the inner edge leads into the exit of the split node. -/
theorem exit_needs_nothing : needsAggregate built.nodes built.edges exit.nodeId = false := by
  have only : incomingEdges built.edges exit.nodeId ⊆ [inside] := by
    intro edge isIncoming
    obtain ⟨isEdge, target⟩ := mem_incomingEdges.mp isIncoming
    rw [← @exitOf_self _ _ original.nodeId exit.nodeId,
      splitting.target_eq_exit_iff splitting.original_mem isEdge] at target
    rcases target with ⟨same, _⟩ | ⟨different, _⟩
    · exact List.mem_singleton.mpr same
    · exact absurd rfl different
  have few := ((built.edges_nodup.filter _).subperm only).length_le
  rw [Bool.eq_false_iff, ne_eq, needsAggregate_iff]
  exact fun needs => absurd (needs.1.trans few) (by simp)

omit splitting in
theorem exists_built {draft : ExecutionGraphDraft}
    (splitting : Splitting graph original entry exit inside draft.nodes draft.edges)
    (carries : Carries graph draft) : ∃ built, draft.create = .ok built ∧
      draft.nodes.Perm built.nodes ∧ draft.edges.Perm built.edges ∧
      (built.graphId = graph.graphId ∧ built.requestId = graph.requestId ∧
        built.workloadId = graph.workloadId ∧ built.sessionId = graph.sessionId ∧
        built.version = graph.version) ∧
      built.intelligenceProfile = graph.intelligenceProfile := by
  have acceptable := splitting.acceptable carries ⟨rfl, rfl⟩
  refine ⟨draft.build acceptable, ExecutionGraphDraft.create_eq_ok_iff.mpr ⟨acceptable, rfl⟩,
    (sortOn_perm _ _).symm, ?_, carries.identity, carries.profile⟩
  have sorted : (canonical ExecutionGraphEdge.key draft.edges).Perm draft.edges.dedup :=
    sortOn_perm _ _
  rw [splitting.edges_nodup.dedup] at sorted
  exact sorted.symm

end Splitting

theorem decomposed_split {graph current : ExecutionGraph} {original : ExecutionGraphNode}
    (chosen : decomposedNode graph = some original)
    (splitting : Splitting graph original (firstStage original) (secondStage original)
      (stageEdge original) current.nodes current.edges)
    (created : (rewriteDraft graph (decompose graph original)).create = .ok current)
    (nodesSame : (decompose graph original).nodes.Perm current.nodes)
    (edgesSame : (decompose graph original).edges.Perm current.edges)
    (identity : current.graphId = graph.graphId ∧ current.requestId = graph.requestId ∧
      current.workloadId = graph.workloadId ∧ current.sessionId = graph.sessionId ∧
      current.version = graph.version)
    (profile : current.intelligenceProfile = graph.intelligenceProfile) :
    Decomposed graph current := by
  obtain ⟨_, isReasoning⟩ := decomposedNode_spec chosen
  have stageKind : (firstStage original).nodeType = .reasoning := rfl
  have rewritten : decomposeReasoning graph = decompose graph original := by
    simp [decomposeReasoning, chosen]
  have entryOfNode (nodeId : String) : entryId graph nodeId =
      entryOf original.nodeId (firstStage original).nodeId nodeId := by
    simp [entryId, chosen]
  have ids : ∀ nodeId, nodeId ∈ current.nodeIds ↔ nodeId ∈ idsAfterDecomposition graph := by
    intro nodeId
    rw [ExecutionGraph.nodeIds, splitting.mem_nodeIdsOf_iff]
    simp [idsAfterDecomposition, chosen]
  have represents {node : ExecutionGraphNode} {standIn : String}
      (stands : StandsFor graph standIn node.nodeId) : Represents original.nodeId
        (firstStage original).nodeId (secondStage original).nodeId node.nodeId standIn := by
    simpa only [StandsFor, chosen] using stands
  exact
    { nodes_perm := by rwa [rewritten]
      edges_perm := by rwa [rewritten]
      unchanged := by simp [chosen]
      created := fun _ => by rw [rewritten, created]
      sound := fun sound => splitting.sound_of_joins sound (by rw [stageKind]; decide)
        (by rw [isReasoning]; decide) (by rw [isReasoning]; decide)
        (fun isAggregate => by rw [stageKind] at isAggregate; contradiction) profile
      preserves :=
        { identity := ⟨identity.1, identity.2.1, identity.2.2.1, identity.2.2.2.1⟩
          profile := profile
          kept := by
            intro node member notChosen
            have different : node ≠ original := by
              rintro rfl
              exact notChosen chosen
            have kept := (List.mem_erase_of_ne different).mpr member
            exact splitting.nodes_perm.mem_iff.mpr (by simp [kept])
          stages := by
            intro other alsoChosen
            obtain rfl : original = other := Option.some_inj.mp (chosen.symm.trans alsoChosen)
            exact ⟨splitting.entry_mem, splitting.nodes_perm.mem_iff.mpr (by simp)⟩
          depends := by
            intro left leftMember right rightMember different leftStand rightStand leftStands
              rightStands
            exact splitting.leads_iff (graph.nodeId_mem leftMember) (graph.nodeId_mem rightMember)
              (fun same => different (graph.eq_of_nodeId_eq leftMember rightMember same))
              (represents leftStands) (represents rightStands) }
      version := identity.2.2.2.2
      stands_mem := fun node member standIn stands =>
        splitting.represents_mem (graph.nodeId_mem member) (represents stands)
      stands_apart := by
        rintro left leftMember right rightMember different standIn _ leftStands rightStands rfl
        refine different (graph.eq_of_nodeId_eq leftMember rightMember ?_)
        exact splitting.represents_injective (graph.nodeId_mem leftMember)
          (graph.nodeId_mem rightMember) (represents leftStands) (represents rightStands)
      needs_iff := by
        intro node member
        have nodeId := graph.nodeId_mem member
        obtain ⟨entry, isEntry, sameId⟩ := List.mem_map.mp (splitting.entryOf_mem nodeId)
        refine ⟨entry, isEntry, by rw [sameId, entryOfNode], ?_, ?_⟩
        · rw [sameId, splitting.needsAggregate_entry (stageKind.trans isReasoning.symm) nodeId,
            isOpenJoin_iff member, ids, entryOfNode]
        · rw [sameId, splitting.dataLikeCount_eq nodeId]
      needs_entry := by
        intro entry member needs
        rcases splitting.exists_origin member with rfl | ⟨node, isNode, _, sameId⟩
        · exact ⟨original, splitting.original_mem, by rw [entryOfNode, entryOf_self]⟩
        · refine ⟨node, isNode, ?_⟩
          by_cases same : node.nodeId = original.nodeId
          · rw [sameId, same, exitOf_self, splitting.exit_needs_nothing] at needs
            contradiction
          · rw [sameId, exitOf_of_ne same, entryOfNode, entryOf_of_ne same]
      entry_injective := by
        intro left leftMember right rightMember same
        rw [entryOfNode, entryOfNode] at same
        exact graph.eq_of_nodeId_eq leftMember rightMember (splitting.entryOf_injective
          (graph.nodeId_mem leftMember) (graph.nodeId_mem rightMember) same) }

/-- Where the ids of the stages are new, the first pass leaves a graph for the second. -/
theorem exists_decomposed {graph : ExecutionGraph} (fresh : StagesFresh graph) :
    ∃ current, Decomposed graph current := by
  cases chosen : decomposedNode graph with
  | none => exact ⟨graph, decomposed_self chosen⟩
  | some original =>
      obtain ⟨firstFresh, secondFresh⟩ := fresh original chosen
      have carries : Carries graph (rewriteDraft graph (decompose graph original)) :=
        ⟨⟨rfl, rfl, rfl, rfl, rfl⟩, rfl, by simp [rewriteDraft]⟩
      have drafted := decompose_splitting chosen firstFresh secondFresh
      obtain ⟨current, created, nodesSame, edgesSame, identity, profile⟩ :=
        Splitting.exists_built drafted carries
      exact ⟨current, decomposed_split chosen (drafted.of_perm nodesSame.symm edgesSame.symm)
        created nodesSame edgesSame identity profile⟩

/-! ## The second pass -/

/-- Where no join needs an aggregate, the second pass changes nothing. -/
theorem insertAggregate_of_none {rewrite : GraphRewrite}
    (none : joinToWrap rewrite.nodes rewrite.edges = none) :
    insertAggregate rewrite = .ok rewrite := by
  simp [insertAggregate, none]

theorem insertAggregate_of_some {rewrite : GraphRewrite} {current : ExecutionGraph}
    {target : ExecutionGraphNode} (nodesSame : rewrite.nodes.Perm current.nodes)
    (edgesSame : rewrite.edges.Perm current.edges)
    (chosen : joinToWrap rewrite.nodes rewrite.edges = some target) :
    ∃ source, insertAggregate rewrite = .ok (wrapJoin rewrite target source) := by
  have unique : (nodeIdsOf rewrite.nodes).Nodup :=
    (nodesSame.map _).nodup_iff.mpr current.nodeIds_nodup
  have several := (needsAggregate_iff.mp (joinToWrap_eq_some chosen).2.1).1
  cases incoming : incomingEdges rewrite.edges target.nodeId with
  | nil => simp [incoming] at several
  | cons first rest =>
      have isIncoming : first ∈ incomingEdges rewrite.edges target.nodeId := by simp [incoming]
      have isEdge := edgesSame.mem_iff.mp (mem_incomingEdges.mp isIncoming).1
      obtain ⟨source, isNode, sameId⟩ := List.mem_map.mp (current.endpoints _ isEdge).1
      have found : nodeById rewrite.nodes first.sourceNodeId = some source :=
        (nodeById_eq_some_iff unique).mpr ⟨nodesSame.mem_iff.mpr isNode, sameId⟩
      exact ⟨source, by simp [insertAggregate, chosen, incoming, found]⟩

/-- Where the exit is the split node itself, every node is kept. -/
theorem Splitting.mem_of_mem {current built : ExecutionGraph}
    {target aggregate node : ExecutionGraphNode} {inside : ExecutionGraphEdge}
    (splitting : Splitting current target aggregate target inside built.nodes built.edges)
    (member : node ∈ current.nodes) : node ∈ built.nodes := by
  rw [splitting.nodes_perm.mem_iff, List.mem_cons]
  exact .inr ((List.perm_cons_erase splitting.original_mem).mem_iff.mp member)

/-- What is preserved between the passes is preserved by the second pass. -/
theorem Decomposed.preserves_wrapped {graph current built : ExecutionGraph}
    (decomposed : Decomposed graph current) {target aggregate : ExecutionGraphNode}
    {inside : ExecutionGraphEdge}
    (splitting : Splitting current target aggregate target inside built.nodes built.edges)
    (identity : built.graphId = graph.graphId ∧ built.requestId = graph.requestId ∧
      built.workloadId = graph.workloadId ∧ built.sessionId = graph.sessionId)
    (profile : built.intelligenceProfile = graph.intelligenceProfile) :
    Preserves graph built where
  identity := identity
  profile := profile
  kept node member notChosen :=
    splitting.mem_of_mem (decomposed.preserves.kept node member notChosen)
  stages original chosen :=
    have both := decomposed.preserves.stages original chosen
    ⟨splitting.mem_of_mem both.1, splitting.mem_of_mem both.2⟩
  depends := by
    intro left leftMember right rightMember different leftStand rightStand leftStands rightStands
    have itself (nodeId : String) :
        Represents target.nodeId aggregate.nodeId target.nodeId nodeId nodeId :=
      .inr exitOf_vertex.symm
    rw [ExecutionGraph.arrows, splitting.leads_iff
      (decomposed.stands_mem left leftMember leftStand leftStands)
      (decomposed.stands_mem right rightMember rightStand rightStands)
      (decomposed.stands_apart left leftMember right rightMember different leftStand rightStand
        leftStands rightStands) (itself _) (itself _)]
    exact decomposed.preserves.depends left leftMember right rightMember different leftStand
      rightStand leftStands rightStands

/-! ## The transformation -/

/-- The transformation succeeds, and its result passes validation and preserves the graph. -/
def TransformsFaithfully (graph : ExecutionGraph) : Prop :=
  ∃ result, transformExecutionGraph graph = .ok result ∧
    (validateExecutionGraph result.graph).status = .pass ∧ Preserves graph result.graph

theorem create_of_changed (graph : ExecutionGraph) {records : List GraphTransformationRecord}
    (nonempty : records ≠ []) (all : ∀ record ∈ records, record.changed = true) :
    ∃ result, ExecutionGraphTransformationResult.create graph records true = .ok result ∧
      result.graph = graph := by
  have any : (CanonicalTuple.of GraphTransformationRecord.key records nonempty).items.any
      GraphTransformationRecord.changed = true := by
    obtain ⟨record, member⟩ := List.exists_mem_of_ne_nil _ nonempty
    exact List.any_eq_true.mpr ⟨record, CanonicalTuple.mem_of.mpr member, all record member⟩
  unfold ExecutionGraphTransformationResult.create
  rw [dif_pos nonempty, dif_pos any.symm]
  exact ⟨_, rfl, rfl⟩

theorem create_fields {graph : ExecutionGraph} {records : List GraphTransformationRecord}
    {changed : Bool} {result : ExecutionGraphTransformationResult}
    (created : ExecutionGraphTransformationResult.create graph records changed = .ok result) :
    result.graph = graph ∧ result.changed = changed := by
  unfold ExecutionGraphTransformationResult.create at created
  split at created
  · dsimp only at created
    split at created
    · exact Except.ok.inj created ▸ ⟨rfl, rfl⟩
    · contradiction
  · contradiction

/-- A transformation that succeeds returns the graph where no pass left a record, and what the
passes built, if it passes validation, where one did. -/
theorem transforms_cases {graph : ExecutionGraph} {result : ExecutionGraphTransformationResult}
    (transformed : transformExecutionGraph graph = .ok result) :
    (validateExecutionGraph graph).status = .pass ∧
      ∃ rewrite, insertAggregate (decomposeReasoning graph) = .ok rewrite ∧
        ((rewrite.records = [] ∧ result.graph = graph ∧ result.changed = false) ∨
          (rewrite.records ≠ [] ∧ (rewriteDraft graph rewrite).create = .ok result.graph ∧
            (validateExecutionGraph result.graph).status = .pass ∧ result.changed = true)) := by
  rw [transformExecutionGraph, bind_eq_ok] at transformed
  obtain ⟨_, passes, transformed⟩ := transformed
  obtain ⟨rewrite, inserted, transformed⟩ := bind_eq_ok.mp transformed
  refine ⟨require_eq_ok.mp passes, rewrite, inserted, ?_⟩
  split at transformed
  · next unchanged => exact .inl ⟨unchanged, create_fields transformed⟩
  · next changes =>
      obtain ⟨built, drafted, transformed⟩ := bind_eq_ok.mp transformed
      obtain ⟨_, sound, created⟩ := bind_eq_ok.mp transformed
      obtain ⟨rfl, changed⟩ := create_fields created
      exact .inr ⟨changes, drafted, require_eq_ok.mp sound, changed⟩

theorem decomposeReasoning_changed (graph : ExecutionGraph) :
    ∀ record ∈ (decomposeReasoning graph).records, record.changed = true := by
  unfold decomposeReasoning
  split
  · simp
  · simp [decompose]

theorem decomposeReasoning_records_eq_nil {graph : ExecutionGraph} :
    (decomposeReasoning graph).records = [] ↔ decomposedNode graph = none := by
  unfold decomposeReasoning
  split
  · next none => simp [none]
  · next original chosen => simp [decompose, chosen]

section Outcome

variable {graph : ExecutionGraph} (passes : (validateExecutionGraph graph).status = .pass)
include passes

/-- A graph that no pass changes is its own transformation. -/
theorem faithful_of_unchanged {rewrite : GraphRewrite}
    (inserted : insertAggregate (decomposeReasoning graph) = .ok rewrite)
    (unchanged : rewrite.records = []) (preserves : Preserves graph graph) :
    TransformsFaithfully graph := by
  have created : ∃ result, ExecutionGraphTransformationResult.create graph [noOpRecord] false =
      .ok result := ⟨_, rfl⟩
  obtain ⟨result, created⟩ := created
  have same := (create_fields created).1
  refine ⟨result, ?_, by rw [same]; exact passes, same ▸ preserves⟩
  rw [transformExecutionGraph, require_of_true passes, ok_bind, inserted, ok_bind,
    if_pos unchanged, created]

/-- A graph that some pass changes is transformed faithfully exactly when what the passes built is
sound. -/
theorem faithful_iff_sound {rewrite : GraphRewrite} {built : ExecutionGraph}
    (inserted : insertAggregate (decomposeReasoning graph) = .ok rewrite)
    (changes : rewrite.records ≠ []) (all : ∀ record ∈ rewrite.records, record.changed = true)
    (drafted : (rewriteDraft graph rewrite).create = .ok built)
    (preserves : Preserves graph built) : TransformsFaithfully graph ↔ Sound built := by
  have outcome : transformExecutionGraph graph =
      require ((validateExecutionGraph built).status = .pass)
        (.value "transformed graph validation must PASS") >>= fun _ =>
          ExecutionGraphTransformationResult.create built rewrite.records true := by
    rw [transformExecutionGraph, require_of_true passes, ok_bind, inserted, ok_bind,
      if_neg changes, drafted, ok_bind]
  rw [← validate_pass_iff]
  constructor
  · rintro ⟨result, transformed, _, _⟩
    rw [outcome, bind_eq_ok] at transformed
    obtain ⟨_, sound, _⟩ := transformed
    exact require_eq_ok.mp sound
  · intro sound
    obtain ⟨result, created, same⟩ := create_of_changed built changes all
    refine ⟨result, ?_, by rw [same]; exact sound, same ▸ preserves⟩
    rw [outcome, require_of_true sound, ok_bind, created]

omit passes in
/-- The second pass adds nodes and records. -/
theorem insertAggregate_extends {rewrite next : GraphRewrite}
    (inserted : insertAggregate rewrite = .ok next) :
    rewrite.nodes.Sublist next.nodes ∧ rewrite.records.Sublist next.records := by
  unfold insertAggregate at inserted
  split at inserted
  · obtain rfl := Except.ok.inj inserted
    exact ⟨.refl _, .refl _⟩
  · split at inserted
    · obtain rfl := Except.ok.inj inserted
      exact ⟨.refl _, .refl _⟩
    · split at inserted
      · contradiction
      · obtain rfl := Except.ok.inj inserted
        exact ⟨List.sublist_append_left _ _, List.sublist_append_left _ _⟩

omit passes in
/-- Where an id of a stage is taken, the stages repeat it. -/
theorem fresh_of_nodup {original : ExecutionGraphNode}
    (unique : (nodeIdsOf (decompose graph original).nodes).Nodup) {suffix : String}
    (visible : suffix.toList ≠ [])
    (isStage : decomposedStage original suffix ∈ [firstStage original, secondStage original]) :
    (decomposedStage original suffix).nodeId ∉ graph.nodeIds := by
  intro taken
  obtain ⟨node, member, sameId⟩ := List.mem_map.mp taken
  have different : node.nodeId ≠ original.nodeId := by
    intro same
    have chars := congrArg String.toList (sameId.symm.trans same)
    simp [decomposedStage] at chars
    exact visible (by simp [chars])
  rw [decompose, nodeIdsOf, List.map_append, List.nodup_append] at unique
  refine unique.2.2 _ (List.mem_map_of_mem (List.mem_filter.mpr ⟨member, by simpa using different⟩))
    _ (List.mem_map_of_mem isStage) sameId

omit passes in
/-- Where an id of a stage is taken, the transformation fails. -/
theorem stagesFresh_of_transforms {result : ExecutionGraphTransformationResult}
    (transformed : transformExecutionGraph graph = .ok result) : StagesFresh graph := by
  intro original chosen
  have rewritten : decomposeReasoning graph = decompose graph original := by
    simp [decomposeReasoning, chosen]
  obtain ⟨_, rewrite, inserted, outcome⟩ := transforms_cases transformed
  obtain ⟨nodesKept, recordsKept⟩ := insertAggregate_extends inserted
  rw [rewritten] at nodesKept recordsKept
  have changes : rewrite.records ≠ [] := by
    intro none
    rw [none] at recordsKept
    simpa [decompose] using recordsKept.length_le
  obtain ⟨_, drafted, _⟩ := outcome.resolve_left fun unchanged => changes unchanged.1
  obtain ⟨acceptable, _⟩ := ExecutionGraphDraft.create_eq_ok_iff.mp drafted
  have unique : (nodeIdsOf (decompose graph original).nodes).Nodup :=
    acceptable.nodeIds_nodup.sublist (nodesKept.map _)
  exact ⟨fresh_of_nodup unique (by simp) List.mem_cons_self,
    fresh_of_nodup unique (by simp) (List.mem_cons_of_mem _ List.mem_cons_self)⟩

end Outcome

namespace Decomposed

variable {graph current : ExecutionGraph} (decomposed : Decomposed graph current)
include decomposed

/-- What needs an aggregate can be read off the graph between the passes. -/
theorem needsAggregate_eq (targetId : String) :
    needsAggregate (decomposeReasoning graph).nodes (decomposeReasoning graph).edges targetId =
      needsAggregate current.nodes current.edges targetId :=
  needsAggregate_perm current.nodeIds_nodup decomposed.nodes_perm decomposed.edges_perm targetId

theorem target_spec {target : ExecutionGraphNode}
    (chosen : joinToWrap (decomposeReasoning graph).nodes (decomposeReasoning graph).edges =
      some target) :
    target ∈ current.nodes ∧ needsAggregate current.nodes current.edges target.nodeId = true := by
  obtain ⟨isNode, needs, _⟩ := joinToWrap_eq_some chosen
  rw [decomposed.needsAggregate_eq] at needs
  exact ⟨decomposed.nodes_perm.mem_iff.mp isNode, needs⟩

/-- The second pass splits the join that gets an aggregate. -/
theorem exists_wrapped {target : ExecutionGraphNode}
    (chosen : joinToWrap (decomposeReasoning graph).nodes (decomposeReasoning graph).edges =
      some target) :
    ∃ source built,
      insertAggregate (decomposeReasoning graph) =
        .ok (wrapJoin (decomposeReasoning graph) target source) ∧
      (rewriteDraft graph (wrapJoin (decomposeReasoning graph) target source)).create =
        .ok built ∧
      Splitting current target (aggregateNode target source) target
        (aggregateEdge (aggregateNode target source) target) built.nodes built.edges ∧
      (built.graphId = graph.graphId ∧ built.requestId = graph.requestId ∧
        built.workloadId = graph.workloadId ∧ built.sessionId = graph.sessionId) ∧
      built.intelligenceProfile = graph.intelligenceProfile := by
  obtain ⟨member, needs⟩ := decomposed.target_spec chosen
  obtain ⟨source, inserted⟩ := insertAggregate_of_some decomposed.nodes_perm
    decomposed.edges_perm chosen
  have drafted := wrapJoin_splitting source decomposed.nodes_perm decomposed.edges_perm member
    (needsAggregate_iff.mp needs).2.2.2
  obtain ⟨graphId, requestId, workloadId, sessionId⟩ := decomposed.preserves.identity
  have carries : Carries current
      (rewriteDraft graph (wrapJoin (decomposeReasoning graph) target source)) :=
    ⟨⟨graphId.symm, requestId.symm, workloadId.symm, sessionId.symm, decomposed.version.symm⟩,
      decomposed.preserves.profile.symm, by simp [rewriteDraft]⟩
  obtain ⟨built, created, nodesSame, edgesSame, identity, profile⟩ :=
    Splitting.exists_built drafted carries
  exact ⟨source, built, inserted, created, drafted.of_perm nodesSame.symm edgesSame.symm,
    ⟨identity.1.trans graphId, identity.2.1.trans requestId, identity.2.2.1.trans workloadId,
      identity.2.2.2.1.trans sessionId⟩, profile.trans decomposed.preserves.profile⟩

theorem not_open_of_none
    (none : joinToWrap (decomposeReasoning graph).nodes (decomposeReasoning graph).edges = none) :
    ∀ node ∈ graph.nodes, ¬ IsOpenJoin graph node := by
  intro node member isOpen
  obtain ⟨entry, isEntry, _, needs, _⟩ := decomposed.needs_iff node member
  have without := joinToWrap_eq_none.mp none entry (decomposed.nodes_perm.mem_iff.mpr isEntry)
  rw [decomposed.needsAggregate_eq, needs.mpr isOpen] at without
  contradiction

/-- The first open join is the one that gets an aggregate. -/
theorem firstJoinHasData_iff {target : ExecutionGraphNode}
    (chosen : joinToWrap (decomposeReasoning graph).nodes (decomposeReasoning graph).edges =
      some target) :
    FirstJoinHasData graph ↔ 2 ≤ dataLikeCount (incomingEdges current.edges target.nodeId) := by
  obtain ⟨isNode, needs, least⟩ := joinToWrap_eq_some chosen
  rw [decomposed.needsAggregate_eq] at needs
  have targetMember := decomposed.nodes_perm.mem_iff.mp isNode
  obtain ⟨first, firstMember, firstId⟩ := decomposed.needs_entry target targetMember needs
  obtain ⟨entry, _, entryId, opens, count⟩ := decomposed.needs_iff first firstMember
  rw [entryId, ← firstId] at opens count
  have below : ∀ other ∈ graph.nodes, IsOpenJoin graph other →
      target.nodeId ≤ Graph.entryId graph other.nodeId := by
    intro other otherMember otherOpen
    obtain ⟨otherEntry, isEntry, sameId, otherNeeds, _⟩ := decomposed.needs_iff other otherMember
    rw [← sameId]
    refine least otherEntry (decomposed.nodes_perm.mem_iff.mpr isEntry) ?_
    rw [decomposed.needsAggregate_eq]
    exact otherNeeds.mpr otherOpen
  rw [count]
  constructor
  · intro hasData
    refine hasData first firstMember (opens.mp needs) fun other otherMember otherOpen => ?_
    rw [← firstId]
    exact below other otherMember otherOpen
  · intro joins node member isOpen earliest
    have same : node = first := by
      refine decomposed.entry_injective node member first firstMember (le_antisymm ?_ ?_)
      · exact earliest first firstMember (opens.mp needs)
      · rw [← firstId]
        exact below node member isOpen
    exact same ▸ joins

end Decomposed

/-- A join that gets an aggregate is neither an input nor an aggregate. -/
theorem kind_of_needs {current : ExecutionGraph} (sound : Sound current)
    {target : ExecutionGraphNode} (member : target ∈ current.nodes)
    (needs : needsAggregate current.nodes current.edges target.nodeId = true) :
    target.nodeType ≠ .input ∧ target.nodeType ≠ .aggregate := by
  obtain ⟨several, notAggregate, _, _⟩ := needsAggregate_iff.mp needs
  rw [isAggregate_of_mem current.nodeIds_nodup member] at notAggregate
  refine ⟨fun isInput => ?_, notAggregate⟩
  have none := incomingEdges_eq_nil.mpr (sound.inputs_first target member isInput)
  simp [none] at several

theorem Decomposed.faithful_iff_of_some {graph current : ExecutionGraph}
    (decomposed : Decomposed graph current)
    (passes : (validateExecutionGraph graph).status = .pass) {target : ExecutionGraphNode}
    (chosen : joinToWrap (decomposeReasoning graph).nodes (decomposeReasoning graph).edges =
      some target) :
    TransformsFaithfully graph ↔
      2 ≤ dataLikeCount (incomingEdges current.edges target.nodeId) := by
  have sound := decomposed.sound (validate_pass_iff.mp passes)
  obtain ⟨member, needs⟩ := decomposed.target_spec chosen
  obtain ⟨notInput, notAggregate⟩ := kind_of_needs sound member needs
  obtain ⟨source, built, inserted, created, splitting, identity, profile⟩ :=
    decomposed.exists_wrapped chosen
  have preserves := decomposed.preserves_wrapped splitting identity profile
  have changed : ∀ record ∈ (wrapJoin (decomposeReasoning graph) target source).records,
      record.changed = true := by
    intro record listed
    rcases List.mem_append.mp listed with earlier | added
    · exact decomposeReasoning_changed graph record earlier
    · rw [List.mem_singleton.mp added]
  rw [faithful_iff_sound passes inserted (by simp [wrapJoin]) changed created preserves]
  exact ⟨fun soundBuilt => splitting.joins_of_sound soundBuilt rfl, fun joins =>
    splitting.sound_of_joins sound (List.mem_cons_of_mem _ List.mem_cons_self) notInput
      notAggregate (fun _ => joins) (profile.trans decomposed.preserves.profile.symm)⟩

theorem Decomposed.faithful_of_none {graph current : ExecutionGraph}
    (decomposed : Decomposed graph current)
    (passes : (validateExecutionGraph graph).status = .pass)
    (none : joinToWrap (decomposeReasoning graph).nodes (decomposeReasoning graph).edges = none) :
    TransformsFaithfully graph := by
  have inserted := insertAggregate_of_none none
  by_cases decomposes : decomposedNode graph = Option.none
  · have preserves := decomposed.unchanged decomposes ▸ decomposed.preserves
    exact faithful_of_unchanged passes inserted
      (decomposeReasoning_records_eq_nil.mpr decomposes) preserves
  · refine (faithful_iff_sound passes inserted ?_ (decomposeReasoning_changed graph)
      (decomposed.created decomposes) decomposed.preserves).mpr
      (decomposed.sound (validate_pass_iff.mp passes))
    exact mt decomposeReasoning_records_eq_nil.mp decomposes

/-- A sound graph is transformed faithfully exactly when the ids of the stages are new and the
first open join receives data over at least two edges. -/
theorem transforms_faithfully_iff {graph : ExecutionGraph}
    (passes : (validateExecutionGraph graph).status = .pass) :
    TransformsFaithfully graph ↔ StagesFresh graph ∧ FirstJoinHasData graph := by
  by_cases fresh : StagesFresh graph
  · obtain ⟨current, decomposed⟩ := exists_decomposed fresh
    rw [and_iff_right fresh]
    cases chosen : joinToWrap (decomposeReasoning graph).nodes
        (decomposeReasoning graph).edges with
    | none =>
        exact iff_of_true (decomposed.faithful_of_none passes chosen)
          fun node member isOpen => absurd isOpen (decomposed.not_open_of_none chosen node member)
    | some target =>
        rw [decomposed.firstJoinHasData_iff chosen]
        exact decomposed.faithful_iff_of_some passes chosen
  · refine ⟨fun faithful => ?_, fun both => absurd both.1 fresh⟩
    obtain ⟨_, transformed, _⟩ := faithful
    exact absurd (stagesFresh_of_transforms transformed) fresh

/-! ## A join that waits for control -/

/-- A node that requires generation. -/
def plainNode (nodeId : String) (nodeType : GraphNodeType)
    (nodeId_nonblank : Text.Nonblank nodeId := by exact Text.nonblank_literal rfl) :
    ExecutionGraphNode where
  nodeId := nodeId
  nodeType := nodeType
  purpose := "purpose"
  requiredCapabilities := .of ComputationalCapability.value [.generation] (by simp)
  evidence := .of Evidence.key [transformationEvidence "reason"] (by simp)
  nodeId_nonblank := nodeId_nonblank
  purpose_nonblank := Text.nonblank_literal rfl

/-- A dependency of a given kind. -/
def plainEdge (source target : ExecutionGraphNode) (dependency : GraphDependencyType) :
    ExecutionGraphEdge :=
  { dataEdge source target (transformationEvidence "reason") with dependencyType := dependency }

/-- An output that joins a transformation of the input and, with a given dependency, the input
itself. -/
def joinDraft (dependency : GraphDependencyType) : ExecutionGraphDraft :=
  let input := plainNode "input" .input
  let transform := plainNode "transform" .transform
  let output := plainNode "output" .output
  { graphId := "graph"
    requestId := "request"
    workloadId := "workload"
    sessionId := "session"
    nodes := [input, transform, output]
    edges := [plainEdge input transform .data, plainEdge transform output .data,
      plainEdge input output dependency]
    provenance := [transformationEvidence "reason"] }

theorem joinDraft_check (dependency : GraphDependencyType) :
    (joinDraft dependency).check = .ok () := by
  cases dependency <;> decide

/-- The graph of the join. -/
def joinGraph (dependency : GraphDependencyType) : ExecutionGraph :=
  (joinDraft dependency).build
    (ExecutionGraphDraft.check_eq_ok_iff.mp (joinDraft_check dependency))

/-- A join of data is transformed faithfully. -/
theorem transforms_data_join : TransformsFaithfully (joinGraph .data) := by
  have notDecomposed : decomposedNode (joinGraph .data) = none := rfl
  refine (transforms_faithfully_iff (by decide)).mpr ⟨fun original chosen => ?_, by decide⟩
  rw [notDecomposed] at chosen
  contradiction

/-- A join of data and control passes validation and cannot be transformed. -/
theorem transformation_fails_for_control_join :
    ¬ ∀ graph : ExecutionGraph, (validateExecutionGraph graph).status = .pass →
      TransformsFaithfully graph := by
  intro law
  obtain ⟨result, transformed, _⟩ := law (joinGraph .control) (by decide)
  have fails : (transformExecutionGraph (joinGraph .control)).toOption.isNone = true := by decide
  rw [transformed] at fails
  contradiction

end Graph
end MercuryX
