import MercuryX.Graph.Preservation

/-!
# Transforming a graph twice

A transformation decomposes one reasoning node and gives one join an aggregate. Its stages leave no
single reasoning node behind, and the aggregate closes the join it was made for and no other. A
second transformation has nothing to do exactly where the graph had at most one open join.
-/

namespace MercuryX
namespace Graph

open Foundation
open Intelligence

/-- Transforming the graph reports no change and returns the graph. -/
def IsNormal (graph : ExecutionGraph) : Prop :=
  ∃ result, transformExecutionGraph graph = .ok result ∧ result.changed = false ∧
    result.graph = graph

/-- No two nodes are open joins. -/
def AtMostOneOpenJoin (graph : ExecutionGraph) : Prop :=
  ∀ left ∈ graph.nodes, ∀ right ∈ graph.nodes, IsOpenJoin graph left → IsOpenJoin graph right →
    left = right

instance (graph : ExecutionGraph) : Decidable (AtMostOneOpenJoin graph) :=
  inferInstanceAs (Decidable (∀ left ∈ graph.nodes, _))

/-! ## The first pass -/

theorem decomposedNode_eq_some_iff {graph : ExecutionGraph} {original : ExecutionGraphNode} :
    decomposedNode graph = some original ↔
      (∃ profile, graph.intelligenceProfile = some profile ∧
        profile.reasoningComplexity ∈ [ReasoningComplexity.high, .deep]) ∧
      (graph.nodes.filter fun node => node.nodeType = .reasoning) = [original] := by
  unfold decomposedNode
  split
  · next none => simp [none]
  · next profile given =>
      simp only [given, Option.some.injEq, exists_eq_left']
      split
      · next deep =>
          rw [and_iff_right deep]
          split
          · next only listed => simp [listed]
          · next several =>
              exact ⟨fun found => by contradiction, fun listed => absurd listed (several original)⟩
      · next shallow => simp [shallow]

theorem decomposedNode_congr {left right : ExecutionGraph}
    (profile : left.intelligenceProfile = right.intelligenceProfile)
    (reasoning : (left.nodes.filter fun node => node.nodeType = .reasoning).Perm
      (right.nodes.filter fun node => node.nodeType = .reasoning)) :
    decomposedNode left = decomposedNode right := by
  refine Option.ext fun original => ?_
  rw [decomposedNode_eq_some_iff, decomposedNode_eq_some_iff, profile]
  refine and_congr_right fun _ => ⟨fun only => ?_, fun only => ?_⟩
  · rw [only] at reasoning
    exact List.perm_singleton.mp reasoning.symm
  · rw [only] at reasoning
    exact List.perm_singleton.mp reasoning

/-- After the first pass there is nothing left to decompose. -/
theorem Decomposed.nothing_left {graph current : ExecutionGraph}
    (decomposed : Decomposed graph current) : decomposedNode current = none := by
  cases chosen : decomposedNode graph with
  | none => rw [decomposed.unchanged chosen, chosen]
  | some original =>
      rw [Option.eq_none_iff_forall_ne_some]
      intro only again
      obtain ⟨_, listed⟩ := decomposedNode_eq_some_iff.mp again
      obtain ⟨first, second⟩ := decomposed.preserves.stages original chosen
      have isOnly {stage : ExecutionGraphNode} (member : stage ∈ current.nodes)
          (isReasoning : stage.nodeType = .reasoning) : stage = only := by
        have kept : stage ∈ current.nodes.filter fun node => node.nodeType = .reasoning :=
          List.mem_filter.mpr ⟨member, decide_eq_true isReasoning⟩
        rw [listed] at kept
        exact List.mem_singleton.mp kept
      refine firstStage_ne_secondStage original ?_
      rw [isOnly first rfl, isOnly second rfl]

/-! ## The second pass -/

/-- Different joins have different aggregates. -/
theorem aggregateId_inj {left right : String} :
    aggregateId left = aggregateId right ↔ left = right := by
  constructor
  · intro same
    have chars := congrArg String.toList same
    rw [aggregateId, aggregateId, String.toList_append, String.toList_append] at chars
    exact String.toList_inj.mp (List.append_cancel_left chars)
  · exact congrArg aggregateId

section Wrapped

variable {current built : ExecutionGraph} {target aggregate : ExecutionGraphNode}
  {inside : ExecutionGraphEdge}
  (splitting : Splitting current target aggregate target inside built.nodes built.edges)
include splitting

/-- An aggregate brings no reasoning node. -/
theorem Splitting.decomposedNode_wrapped (isAggregate : aggregate.nodeType = .aggregate)
    (profile : built.intelligenceProfile = current.intelligenceProfile) :
    decomposedNode built = decomposedNode current := by
  refine decomposedNode_congr profile ((splitting.nodes_perm.filter _).trans ?_)
  rw [List.filter_cons_of_neg (by simp [isAggregate])]
  exact (List.perm_cons_erase splitting.original_mem).symm.filter _

theorem Splitting.mem_cases {node : ExecutionGraphNode} (member : node ∈ built.nodes) :
    node = aggregate ∨ node ∈ current.nodes := by
  have listed := splitting.nodes_perm.mem_iff.mp member
  refine (List.mem_cons.mp listed).imp_right fun rest => ?_
  exact (List.perm_cons_erase splitting.original_mem).mem_iff.mpr rest

/-- An aggregate closes the join that it was made for, and no other. -/
theorem Splitting.needsAggregate_wrapped (sameId : aggregate.nodeId = aggregateId target.nodeId)
    {node : ExecutionGraphNode} (member : node ∈ current.nodes) (different : node ≠ target) :
    needsAggregate built.nodes built.edges node.nodeId =
      needsAggregate current.nodes current.edges node.nodeId := by
  have nodeId := current.nodeId_mem member
  have otherId : node.nodeId ≠ target.nodeId := fun same =>
    different (current.eq_of_nodeId_eq member splitting.original_mem same)
  have incoming := splitting.incomingEdges_perm nodeId
  rw [entryOf_of_ne otherId] at incoming
  have kinds {other : String} (isNode : other ∈ current.nodeIds) :
      Graph.isAggregate built.nodes other = true ↔
        Graph.isAggregate current.nodes other = true := by
    simpa using splitting.isAggregate_exit isNode
  have sources : (∀ edge ∈ incomingEdges built.edges node.nodeId,
        ¬ Graph.isAggregate built.nodes edge.sourceNodeId = true) ↔
      ∀ edge ∈ incomingEdges current.edges node.nodeId,
        ¬ Graph.isAggregate current.nodes edge.sourceNodeId = true := by
    simp only [incoming.mem_iff, List.forall_mem_map]
    refine forall₂_congr fun edge isIncoming => ?_
    have isEdge := (mem_incomingEdges.mp isIncoming).1
    simpa [ExecutionGraphEdge.moved] using not_congr (kinds (current.endpoints _ isEdge).1)
  have free : aggregateId node.nodeId ∈ nodeIdsOf built.nodes ↔
      aggregateId node.nodeId ∈ nodeIdsOf current.nodes := by
    have otherAggregate : aggregateId node.nodeId ≠ aggregate.nodeId := by
      rw [sameId]
      exact mt aggregateId_inj.mp otherId
    rw [splitting.mem_nodeIdsOf_iff, or_iff_right otherAggregate]
    by_cases same : aggregateId node.nodeId = target.nodeId
    · rw [same]
      exact iff_of_true (.inl rfl) (current.nodeId_mem splitting.original_mem)
    · rw [or_iff_right same, and_iff_left same]
      rfl
  rw [Bool.eq_iff_iff, needsAggregate_iff, needsAggregate_iff, incoming.length_eq, List.length_map,
    sources, kinds nodeId, free]

/-- After the second pass the joins without an aggregate are the others. -/
theorem Splitting.all_closed_iff (isAggregate : aggregate.nodeType = .aggregate)
    (sameId : aggregate.nodeId = aggregateId target.nodeId) :
    (∀ node ∈ built.nodes, needsAggregate built.nodes built.edges node.nodeId = false) ↔
      ∀ node ∈ current.nodes, needsAggregate current.nodes current.edges node.nodeId = true →
        node = target := by
  constructor
  · intro closed node member needs
    by_contra different
    rw [← splitting.needsAggregate_wrapped sameId member different] at needs
    rw [closed node (splitting.mem_of_mem member)] at needs
    contradiction
  · intro only node member
    rw [Bool.eq_false_iff]
    intro needs
    have notAggregate := (needsAggregate_iff.mp needs).2.1
    rw [isAggregate_of_mem built.nodeIds_nodup member] at notAggregate
    rcases splitting.mem_cases member with rfl | isNode
    · exact notAggregate isAggregate
    · by_cases same : node = target
      · rw [same, splitting.exit_needs_nothing] at needs
        contradiction
      · rw [splitting.needsAggregate_wrapped sameId isNode same] at needs
        exact same (only node isNode needs)

end Wrapped

/-! ## Two transformations -/

/-- A graph with nothing to decompose is normal exactly when every join is closed. -/
theorem isNormal_iff {graph : ExecutionGraph}
    (passes : (validateExecutionGraph graph).status = .pass)
    (nothing : decomposedNode graph = none) : IsNormal graph ↔
      ∀ node ∈ graph.nodes, needsAggregate graph.nodes graph.edges node.nodeId = false := by
  have rewritten : decomposeReasoning graph = ⟨graph.nodes, graph.edges, []⟩ := by
    simp [decomposeReasoning, nothing]
  rw [← joinToWrap_eq_none]
  constructor
  · rintro ⟨result, transformed, unchanged, _⟩
    by_contra joins
    obtain ⟨target, chosen⟩ := Option.ne_none_iff_exists'.mp joins
    obtain ⟨source, inserted⟩ := @insertAggregate_of_some ⟨graph.nodes, graph.edges, []⟩ graph
      target (.refl _) (.refl _) chosen
    rw [← rewritten] at inserted
    obtain ⟨_, rewrite, same, outcome⟩ := transforms_cases transformed
    obtain rfl := Except.ok.inj (inserted.symm.trans same)
    rcases outcome with ⟨noRecords, _⟩ | ⟨_, _, _, changed⟩
    · simp [wrapJoin] at noRecords
    · exact Bool.false_ne_true (unchanged.symm.trans changed)
  · intro joins
    have created : ∃ result, ExecutionGraphTransformationResult.create graph [noOpRecord] false =
        .ok result := ⟨_, rfl⟩
    obtain ⟨result, created⟩ := created
    obtain ⟨sameGraph, unchanged⟩ := create_fields created
    refine ⟨result, ?_, unchanged, sameGraph⟩
    rw [transformExecutionGraph, require_of_true passes, ok_bind, rewritten,
      insertAggregate_of_none joins, ok_bind, if_pos rfl, created]

namespace Decomposed

variable {graph current : ExecutionGraph} (decomposed : Decomposed graph current)
include decomposed

theorem forall_needs_iff {holds : String → Prop} :
    (∀ node ∈ current.nodes, needsAggregate current.nodes current.edges node.nodeId = true →
      holds node.nodeId) ↔
      ∀ node ∈ graph.nodes, IsOpenJoin graph node → holds (entryId graph node.nodeId) := by
  constructor
  · intro all node member isOpen
    obtain ⟨entry, isEntry, sameId, needs, _⟩ := decomposed.needs_iff node member
    rw [← sameId]
    exact all entry isEntry (needs.mpr isOpen)
  · intro all entry member needs
    obtain ⟨node, isNode, sameId⟩ := decomposed.needs_entry entry member needs
    obtain ⟨other, _, otherId, opens, _⟩ := decomposed.needs_iff node isNode
    rw [otherId, ← sameId] at opens
    rw [sameId]
    exact all node isNode (opens.mp needs)

/-- Where no join gets an aggregate, the result is the graph that the first pass leaves. -/
theorem result_of_none {result : ExecutionGraphTransformationResult}
    (transformed : transformExecutionGraph graph = .ok result)
    (none : joinToWrap (decomposeReasoning graph).nodes (decomposeReasoning graph).edges = none) :
    result.graph = current := by
  obtain ⟨_, rewrite, inserted, outcome⟩ := transforms_cases transformed
  obtain rfl := Except.ok.inj ((insertAggregate_of_none none).symm.trans inserted)
  rcases outcome with ⟨noRecords, same, _⟩ | ⟨records, drafted, _⟩
  · rw [same, decomposed.unchanged (decomposeReasoning_records_eq_nil.mp noRecords)]
  · have created := decomposed.created (mt decomposeReasoning_records_eq_nil.mpr records)
    exact Except.ok.inj (drafted.symm.trans created)

/-- Where a join gets an aggregate, the result is the graph that the first pass leaves with the join
split. -/
theorem result_of_some {result : ExecutionGraphTransformationResult}
    (transformed : transformExecutionGraph graph = .ok result) {target : ExecutionGraphNode}
    (chosen : joinToWrap (decomposeReasoning graph).nodes (decomposeReasoning graph).edges =
      some target) :
    ∃ source, Splitting current target (aggregateNode target source) target
        (aggregateEdge (aggregateNode target source) target) result.graph.nodes
        result.graph.edges ∧
      result.graph.intelligenceProfile = current.intelligenceProfile ∧
      (validateExecutionGraph result.graph).status = .pass := by
  obtain ⟨_, rewrite, inserted, outcome⟩ := transforms_cases transformed
  obtain ⟨source, built, wrapped, created, splitting, _, profile⟩ :=
    decomposed.exists_wrapped chosen
  obtain rfl := Except.ok.inj (wrapped.symm.trans inserted)
  rcases outcome with ⟨noRecords, _⟩ | ⟨_, drafted, passes, _⟩
  · simp [wrapJoin] at noRecords
  · obtain rfl := Except.ok.inj (created.symm.trans drafted)
    exact ⟨source, splitting, profile.trans decomposed.preserves.profile.symm, passes⟩

theorem only_target_iff {target : ExecutionGraphNode} (member : target ∈ current.nodes)
    (needs : needsAggregate current.nodes current.edges target.nodeId = true) :
    (∀ node ∈ current.nodes, needsAggregate current.nodes current.edges node.nodeId = true →
      node = target) ↔ AtMostOneOpenJoin graph := by
  have byId : (∀ node ∈ current.nodes,
        needsAggregate current.nodes current.edges node.nodeId = true → node = target) ↔
      ∀ node ∈ graph.nodes, IsOpenJoin graph node →
        entryId graph node.nodeId = target.nodeId := by
    refine Iff.trans ?_ (@forall_needs_iff _ _ decomposed fun nodeId => nodeId = target.nodeId)
    refine forall₂_congr fun node isNode => imp_congr_right fun _ => ?_
    exact ⟨fun same => same ▸ rfl, current.eq_of_nodeId_eq isNode member⟩
  obtain ⟨first, firstMember, firstId⟩ := decomposed.needs_entry target member needs
  obtain ⟨entry, _, entryId, opens, _⟩ := decomposed.needs_iff first firstMember
  rw [entryId, ← firstId] at opens
  rw [byId, firstId]
  constructor
  · intro all left leftMember right rightMember leftOpen rightOpen
    refine decomposed.entry_injective left leftMember right rightMember ?_
    rw [all left leftMember leftOpen, all right rightMember rightOpen]
  · intro one node isNode isOpen
    rw [one node isNode first firstMember isOpen (opens.mp needs)]

end Decomposed

/-- Transforming the result of a transformation changes nothing exactly where the graph had at most
one open join. -/
theorem result_normal_iff {graph : ExecutionGraph} {result : ExecutionGraphTransformationResult}
    (transformed : transformExecutionGraph graph = .ok result) :
    IsNormal result.graph ↔ AtMostOneOpenJoin graph := by
  have passes := (transforms_cases transformed).1
  obtain ⟨current, decomposed⟩ := exists_decomposed (stagesFresh_of_transforms transformed)
  have nothing := decomposed.nothing_left
  cases chosen : joinToWrap (decomposeReasoning graph).nodes (decomposeReasoning graph).edges with
  | none =>
      have currentPasses := validate_pass_iff.mpr (decomposed.sound (validate_pass_iff.mp passes))
      rw [decomposed.result_of_none transformed chosen, isNormal_iff currentPasses nothing]
      refine iff_of_true (fun node member => ?_) fun left isLeft _ _ isOpen => ?_
      · rw [← decomposed.needsAggregate_eq]
        exact joinToWrap_eq_none.mp chosen node (decomposed.nodes_perm.mem_iff.mpr member)
      · exact absurd isOpen (decomposed.not_open_of_none chosen left isLeft)
  | some target =>
      obtain ⟨source, splitting, profile, resultPasses⟩ :=
        decomposed.result_of_some transformed chosen
      obtain ⟨member, needs⟩ := decomposed.target_spec chosen
      rw [isNormal_iff resultPasses ((splitting.decomposedNode_wrapped rfl profile).trans nothing),
        splitting.all_closed_iff rfl rfl, decomposed.only_target_iff member needs]

/-! ## One join and two -/

theorem transforms_joinGraph :
    (transformExecutionGraph (joinGraph .data)).toOption.isSome = true := by
  decide +kernel

/-- The result for a graph with one join is normal. -/
theorem joinGraph_result_normal : ∃ result, transformExecutionGraph (joinGraph .data) = .ok result ∧
    IsNormal result.graph := by
  cases transformed : transformExecutionGraph (joinGraph .data) with
  | error fault =>
      have succeeds := transforms_joinGraph
      rw [transformed] at succeeds
      exact absurd succeeds Bool.false_ne_true
  | ok result => exact ⟨result, rfl, (result_normal_iff transformed).mpr (by decide)⟩

theorem inputId_nonblank : Text.Nonblank "input" := Text.nonblank_literal rfl

theorem outputId_nonblank : Text.Nonblank "output" := Text.nonblank_literal rfl

theorem reason_nonblank : Text.Nonblank "reason" := Text.nonblank_literal rfl

/-- An output that joins two transformations of the input, one of which joins the other and the
input. -/
def twoJoinsDraft : ExecutionGraphDraft :=
  let input := plainNode "input" .input inputId_nonblank
  let first := plainNode "first" .transform
  let second := plainNode "second" .transform
  let output := plainNode "output" .output outputId_nonblank
  { graphId := "graph"
    requestId := "request"
    workloadId := "workload"
    sessionId := "session"
    nodes := [input, first, second, output]
    edges := [plainEdge input first .data, plainEdge input second .data,
      plainEdge first second .data, plainEdge first output .data, plainEdge second output .data]
    provenance := [transformationEvidence "reason" reason_nonblank] }

theorem twoJoinsDraft_check : twoJoinsDraft.check = .ok () := by
  decide

/-- The graph of the two joins. -/
def twoJoinsGraph : ExecutionGraph :=
  twoJoinsDraft.build (ExecutionGraphDraft.check_eq_ok_iff.mp twoJoinsDraft_check)

theorem twoJoins_change_twice : ((transformExecutionGraph twoJoinsGraph).bind fun result =>
    transformExecutionGraph result.graph).toOption.any (fun again => again.changed) = true := by
  decide +kernel

/-- A graph with two joins is not normal after one transformation. -/
theorem transformation_not_idempotent :
    ¬ ∀ (graph : ExecutionGraph) (result : ExecutionGraphTransformationResult),
      transformExecutionGraph graph = .ok result → IsNormal result.graph := by
  intro law
  have changes := twoJoins_change_twice
  cases transformed : transformExecutionGraph twoJoinsGraph with
  | error fault =>
      rw [transformed] at changes
      exact absurd changes Bool.false_ne_true
  | ok result =>
      obtain ⟨again, repeated, unchanged, _⟩ := law twoJoinsGraph result transformed
      have changed : again.changed = true := by
        rwa [transformed, Except.bind, repeated] at changes
      exact Bool.false_ne_true (unchanged.symm.trans changed)

end Graph
end MercuryX
