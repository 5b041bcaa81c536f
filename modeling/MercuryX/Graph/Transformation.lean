import MercuryX.Graph.Splitting

/-!
# Transformation of execution graphs

A graph that passes validation is transformed in two passes. The first decomposes the only
reasoning node of a deeply reasoning workload into two stages; the second gives the first join
that has none an aggregate. Both split a node. The second counts every incoming edge of a join, but
the validator counts only those that hand on data, so that the transformation refuses its own
result where a join mostly waits for control.
-/

namespace MercuryX
namespace Graph

open Foundation
open Intelligence

/-! ## Records -/

/-- The kinds of transformation. -/
inductive GraphTransformationType where
  | reasoningDecomposition
  | structuredOutputNormalization
  | aggregationInsertion
  | preprocessNormalization
  | redundantStageNormalization
  | noOp
  deriving DecidableEq, Repr

/-- The text of a kind of transformation. -/
def GraphTransformationType.value : GraphTransformationType → String
  | reasoningDecomposition => "reasoning_decomposition"
  | structuredOutputNormalization => "structured_output_normalization"
  | aggregationInsertion => "aggregation_insertion"
  | preprocessNormalization => "preprocess_normalization"
  | redundantStageNormalization => "redundant_stage_normalization"
  | noOp => "no_op"

/-- Nonblank ids that stand once each, in order. -/
structure NodeIdTuple where
  items : List String
  /-- The ids stand once each, in order. -/
  canonical_eq : canonical id items = items
  /-- The ids are nonblank. -/
  nonblank : ∀ nodeId ∈ items, Text.Nonblank nodeId
  deriving DecidableEq

/-- The tuple of a list of nonblank ids. -/
def NodeIdTuple.of (items : List String) (nonblank : ∀ nodeId ∈ items, Text.Nonblank nodeId) :
    NodeIdTuple where
  items := canonical id items
  canonical_eq := canonical_eq_self id (canonical_nodup id items) (canonical_pairwise id items)
  nonblank := fun nodeId member => nonblank nodeId ((mem_canonical id).mp member)

/-- What one transformation did. -/
structure GraphTransformationRecord where
  transformationType : GraphTransformationType
  affectedNodeIds : NodeIdTuple
  generatedNodeIds : NodeIdTuple
  reason : String
  changed : Bool
  /-- The reason is nonblank. -/
  reason_nonblank : Text.Nonblank reason := by exact Text.nonblank_literal rfl

instance : DecidableEq GraphTransformationRecord := fun left right =>
  decidable_of_iff (left.transformationType = right.transformationType ∧
      left.affectedNodeIds = right.affectedNodeIds ∧
      left.generatedNodeIds = right.generatedNodeIds ∧ left.reason = right.reason ∧
      left.changed = right.changed) (by
    cases left
    cases right
    simp)

/-- Records are ordered by kind, affected ids and generated ids. -/
def GraphTransformationRecord.key (record : GraphTransformationRecord) :
    String ×ₗ List String ×ₗ List String :=
  toLex (record.transformationType.value,
    toLex (record.affectedNodeIds.items, record.generatedNodeIds.items))

/-- The result of a transformation. -/
structure ExecutionGraphTransformationResult where
  graph : ExecutionGraph
  records : CanonicalTuple GraphTransformationRecord GraphTransformationRecord.key
  changed : Bool
  /-- The graph changed where one of the transformations changed it. -/
  changed_eq : changed = records.items.any GraphTransformationRecord.changed

/-- Construct the result of a transformation. -/
def ExecutionGraphTransformationResult.create (graph : ExecutionGraph)
    (records : List GraphTransformationRecord) (changed : Bool) :
    Except Fault ExecutionGraphTransformationResult :=
  if nonempty : records ≠ [] then
    let canonical : CanonicalTuple _ GraphTransformationRecord.key := .of _ records nonempty
    if same : changed = canonical.items.any GraphTransformationRecord.changed then
      .ok { graph := graph, records := canonical, changed := changed, changed_eq := same }
    else .error (.value "changed must match transformation records")
  else .error (.value "records must not be empty")

/-! ## The passes -/

/-- The evidence that a transformation leaves. -/
def transformationEvidence (reason : String)
    (reason_nonblank : Text.Nonblank reason := by exact Text.nonblank_literal rfl) : Evidence where
  source := "graph.transformation"
  reason := reason
  reason_nonblank := reason_nonblank

/-- An edge with another target. -/
def ExecutionGraphEdge.into (edge : ExecutionGraphEdge) (target : ExecutionGraphNode) :
    ExecutionGraphEdge :=
  { edge with targetNodeId := target.nodeId, target_nonblank := target.nodeId_nonblank }

/-- An edge with another source. -/
def ExecutionGraphEdge.outOf (edge : ExecutionGraphEdge) (source : ExecutionGraphNode) :
    ExecutionGraphEdge :=
  { edge with sourceNodeId := source.nodeId, source_nonblank := source.nodeId_nonblank }

/-- An edge of data that a transformation adds. -/
def dataEdge (source target : ExecutionGraphNode) (evidence : Evidence) : ExecutionGraphEdge where
  sourceNodeId := source.nodeId
  targetNodeId := target.nodeId
  dependencyType := .data
  evidence := .of Evidence.key [evidence] (by simp)
  source_nonblank := source.nodeId_nonblank
  target_nonblank := target.nodeId_nonblank

/-- Nodes, edges and records on their way through the passes. -/
structure GraphRewrite where
  nodes : List ExecutionGraphNode
  edges : List ExecutionGraphEdge
  records : List GraphTransformationRecord

/-- The reasoning node that is decomposed: the only one of a deeply reasoning workload. -/
def decomposedNode (graph : ExecutionGraph) : Option ExecutionGraphNode :=
  match graph.intelligenceProfile with
  | none => none
  | some profile =>
      if profile.reasoningComplexity ∈ [.high, .deep] then
        match graph.nodes.filter fun node => node.nodeType = .reasoning with
        | [original] => some original
        | _ => none
      else none

/-- One stage of a decomposed reasoning node. -/
def decomposedStage (original : ExecutionGraphNode) (suffix : String) : ExecutionGraphNode :=
  { original with
    nodeId := original.nodeId ++ suffix
    nodeType := .reasoning
    evidence := .of Evidence.key (original.evidence.items ++
      [transformationEvidence "bounded Phase 2 reasoning decomposition"]) (by simp)
    nodeId_nonblank := Text.nonblank_append_left original.nodeId_nonblank _ }

/-- The first stage of a decomposed reasoning node. -/
def firstStage (original : ExecutionGraphNode) : ExecutionGraphNode :=
  decomposedStage original "-stage-1"

/-- The second stage of a decomposed reasoning node. -/
def secondStage (original : ExecutionGraphNode) : ExecutionGraphNode :=
  decomposedStage original "-stage-2"

/-- The edge between the stages of a decomposed reasoning node. -/
def stageEdge (original : ExecutionGraphNode) : ExecutionGraphEdge :=
  dataEdge (firstStage original) (secondStage original)
    (transformationEvidence "decomposed reasoning stages exchange logical data")

/-- Decompose a reasoning node into two stages. -/
def decompose (graph : ExecutionGraph) (original : ExecutionGraphNode) : GraphRewrite :=
  let incoming := incomingEdges graph.edges original.nodeId
  let outgoing := outgoingEdges graph.edges original.nodeId
  { nodes := (graph.nodes.filter fun node => node.nodeId ≠ original.nodeId) ++
      [firstStage original, secondStage original]
    edges := (graph.edges.filter fun edge => edge ∉ incoming ∧ edge ∉ outgoing) ++
      incoming.map (fun edge => edge.into (firstStage original)) ++ [stageEdge original] ++
      outgoing.map (fun edge => edge.outOf (secondStage original))
    records := [
      { transformationType := .reasoningDecomposition
        affectedNodeIds := .of [original.nodeId] (by simp [original.nodeId_nonblank])
        generatedNodeIds := .of [(firstStage original).nodeId, (secondStage original).nodeId] (by
          simp [(firstStage original).nodeId_nonblank, (secondStage original).nodeId_nonblank])
        reason :=
          "HIGH or DEEP Phase 2 reasoning permits a bounded two-stage logical decomposition"
        changed := true }] }

/-- The first pass. -/
def decomposeReasoning (graph : ExecutionGraph) : GraphRewrite :=
  match decomposedNode graph with
  | none => { nodes := graph.nodes, edges := graph.edges, records := [] }
  | some original => decompose graph original

/-- The last node with an id. -/
def nodeById (nodes : List ExecutionGraphNode) (nodeId : String) : Option ExecutionGraphNode :=
  nodes.reverse.find? fun node => node.nodeId = nodeId

/-- The id of the aggregate of a join. -/
def aggregateId (targetId : String) : String := "node-aggregate-" ++ targetId

/-- The node with an id is an aggregate. -/
def isAggregate (nodes : List ExecutionGraphNode) (nodeId : String) : Bool :=
  (nodeById nodes nodeId).any fun node => node.nodeType = .aggregate

/-- A join that has no aggregate, as a target or as a source, and for which none was generated. -/
def needsAggregate (nodes : List ExecutionGraphNode) (edges : List ExecutionGraphEdge)
    (targetId : String) : Bool :=
  let incoming := incomingEdges edges targetId
  2 ≤ incoming.length ∧ ¬ isAggregate nodes targetId ∧
    (∀ edge ∈ incoming, ¬ isAggregate nodes edge.sourceNodeId) ∧
    aggregateId targetId ∉ nodeIdsOf nodes

/-- The join that gets an aggregate: the first one, by id, that needs it. -/
def joinToWrap (nodes : List ExecutionGraphNode) (edges : List ExecutionGraphEdge) :
    Option ExecutionGraphNode :=
  (sortOn ExecutionGraphNode.nodeId nodes).find? fun node => needsAggregate nodes edges node.nodeId

/-- The aggregate of a join, with the first capability of the source of its first edge. -/
def aggregateNode (target source : ExecutionGraphNode) : ExecutionGraphNode where
  nodeId := aggregateId target.nodeId
  nodeType := .aggregate
  purpose := "logical aggregation of multiple justified branches"
  requiredCapabilities := .of ComputationalCapability.value [source.requiredCapabilities.first]
    (by simp)
  evidence := .of Evidence.key
    [transformationEvidence "multiple logical branches require explicit aggregation"] (by simp)
  nodeId_nonblank := Text.nonblank_append_left (Text.nonblank_literal rfl) _
  purpose_nonblank := Text.nonblank_literal rfl

/-- The edge from the aggregate of a join to the join. -/
def aggregateEdge (aggregate target : ExecutionGraphNode) : ExecutionGraphEdge :=
  dataEdge aggregate target
    (transformationEvidence "aggregate produces logical data for downstream stage")

/-- Give a join an aggregate. -/
def wrapJoin (rewrite : GraphRewrite) (target source : ExecutionGraphNode) : GraphRewrite :=
  let incoming := incomingEdges rewrite.edges target.nodeId
  let aggregate := aggregateNode target source
  { nodes := rewrite.nodes ++ [aggregate]
    edges := (rewrite.edges.filter fun edge => edge ∉ incoming) ++
      incoming.map (fun edge => edge.into aggregate) ++ [aggregateEdge aggregate target]
    records := rewrite.records ++ [
      { transformationType := .aggregationInsertion
        affectedNodeIds := .of (incoming.map ExecutionGraphEdge.sourceNodeId ++ [target.nodeId]) (by
          intro nodeId member
          rcases List.mem_append.mp member with isSource | isTarget
          · obtain ⟨edge, _, rfl⟩ := List.mem_map.mp isSource
            exact edge.source_nonblank
          · rw [List.mem_singleton.mp isTarget]
            exact target.nodeId_nonblank)
        generatedNodeIds := .of [aggregate.nodeId] (by simp [aggregate.nodeId_nonblank])
        reason := "multiple incoming logical branches require an AGGREGATE stage"
        changed := true }] }

/-- The second pass. -/
def insertAggregate (rewrite : GraphRewrite) : Except Fault GraphRewrite :=
  match joinToWrap rewrite.nodes rewrite.edges with
  | none => .ok rewrite
  | some target =>
      match incomingEdges rewrite.edges target.nodeId with
      | [] => .ok rewrite
      | first :: _ =>
          match nodeById rewrite.nodes first.sourceNodeId with
          | none => .error (.missingKey first.sourceNodeId)
          | some source => .ok (wrapJoin rewrite target source)

/-- The graph of a rewrite. -/
def rewriteDraft (graph : ExecutionGraph) (rewrite : GraphRewrite) : ExecutionGraphDraft where
  graphId := graph.graphId
  requestId := graph.requestId
  workloadId := graph.workloadId
  sessionId := graph.sessionId
  nodes := rewrite.nodes
  edges := rewrite.edges
  provenance := graph.provenance.items ++
    [transformationEvidence "controlled logical transformation applied"]
  intelligenceProfile := graph.intelligenceProfile
  status := graph.status
  version := graph.version

theorem noOpRecord_nodeIds : ∀ text ∈ ([] : List String), Text.Nonblank text := by
  simp

/-- The record of a graph that needs no transformation. -/
def noOpRecord : GraphTransformationRecord where
  transformationType := .noOp
  affectedNodeIds := .of [] noOpRecord_nodeIds
  generatedNodeIds := .of [] noOpRecord_nodeIds
  reason := "graph already satisfies conservative logical normalization rules"
  changed := false

/-- Transform a graph that passes validation. -/
def transformExecutionGraph (graph : ExecutionGraph) :
    Except Fault ExecutionGraphTransformationResult := do
  require ((validateExecutionGraph graph).status = .pass)
    (.value "graph validation must PASS before transformation")
  let rewrite ← insertAggregate (decomposeReasoning graph)
  if rewrite.records = [] then
    ExecutionGraphTransformationResult.create graph [noOpRecord] false
  else
    let transformed ← (rewriteDraft graph rewrite).create
    require ((validateExecutionGraph transformed).status = .pass)
      (.value "transformed graph validation must PASS")
    ExecutionGraphTransformationResult.create transformed rewrite.records true

end Graph
end MercuryX
