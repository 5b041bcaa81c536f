import MercuryX.Contracts
import MercuryX.Foundation.DepthFirst
import MercuryX.Foundation.Kahn

/-!
# The execution-graph contract

The boundary contract of a logical graph. Metadata is frozen, and refused where it holds sets or
names physical assignments. A graph is constructed exactly when its ids are unique, everything it
names is declared, and its edges have no cycle. The source looks for a cycle by recursion; the
limit that the interpreter sets to the depth of recursion is not modelled.
-/

namespace MercuryX
namespace Contracts

open Foundation

/-! ## Metadata -/

/-- A value in the metadata of a graph. -/
inductive MetadataValue where
  /-- A value that is no collection, by its literal. -/
  | atom (literal : String)
  /-- A set, frozen or not. -/
  | setLike
  /-- A list. -/
  | list (items : List MetadataValue)
  /-- A tuple. -/
  | tuple (items : List MetadataValue)
  /-- A dictionary. -/
  | dict (entries : List (String × MetadataValue))
  /-- A dictionary that refuses changes. -/
  | frozenDict (entries : List (String × MetadataValue))

/-- The keys that name physical assignments. -/
def physicalExecutionAssignmentFields : List String :=
  ["model_assignments", "precision_assignments", "hardware_assignments", "context_placements"]

/-- The keys of a dictionary that name physical assignments, in order. -/
def physicalAssignments (keys : List String) : List String :=
  canonical id (keys.filter fun key => key ∈ physicalExecutionAssignmentFields)

section Freezing

variable (contract : String)

/-- Refuse a dictionary with a key that names a physical assignment. -/
def refuseAssignments (keys : List String) : Except Fault Unit :=
  rule contract "" (physicalAssignments keys = [])
    ("logical graph metadata cannot contain physical execution assignment: " ++
      ", ".intercalate (physicalAssignments keys))

mutual

/-- Freeze a value: lists become tuples, and dictionaries refuse changes. -/
def freezeMetadataValue : MetadataValue → Except Fault MetadataValue
  | .atom literal => .ok (.atom literal)
  | .setLike => .error (.validation contract ""
      "Value error, logical graph metadata cannot contain set-like values")
  | .list items => do return .tuple (← freezeItems items)
  | .tuple items => do return .tuple (← freezeItems items)
  | .dict entries => do
      refuseAssignments contract (entries.map Prod.fst)
      return .frozenDict (← freezeEntries entries)
  | .frozenDict entries => do
      refuseAssignments contract (entries.map Prod.fst)
      return .frozenDict (← freezeEntries entries)
termination_by structural value => value

/-- Freeze the items of a list. -/
def freezeItems : List MetadataValue → Except Fault (List MetadataValue)
  | [] => .ok []
  | item :: items => do return (← freezeMetadataValue item) :: (← freezeItems items)

/-- Freeze the values of a dictionary. -/
def freezeEntries : List (String × MetadataValue) → Except Fault (List (String × MetadataValue))
  | [] => .ok []
  | (key, item) :: entries => do
      return (key, ← freezeMetadataValue item) :: (← freezeEntries entries)

end

/-- Freeze the metadata of a contract. -/
def freezeMetadata (metadata : List (String × MetadataValue)) :
    Except Fault (List (String × MetadataValue)) := do
  refuseAssignments contract (metadata.map Prod.fst)
  freezeEntries contract metadata

variable {contract}

/-- Freezing keeps the keys of a dictionary. -/
theorem map_fst_freezeEntries {entries frozen : List (String × MetadataValue)}
    (made : freezeEntries contract entries = .ok frozen) :
    frozen.map Prod.fst = entries.map Prod.fst := by
  induction entries generalizing frozen with
  | nil =>
      obtain rfl := Except.ok.inj made
      rfl
  | cons entry entries induction =>
      simp only [freezeEntries, bind_eq_ok, pure_eq_ok, Except.ok.injEq] at made
      obtain ⟨_, _, rest, later, rfl⟩ := made
      rw [List.map_cons, List.map_cons, induction later]

mutual

theorem freezeMetadataValue_frozen : (value frozen : MetadataValue) →
    freezeMetadataValue contract value = .ok frozen →
      freezeMetadataValue contract frozen = .ok frozen
  | .atom literal, frozen => by
      intro made
      obtain rfl := Except.ok.inj made
      rfl
  | .setLike, frozen => nofun
  | .list items, frozen | .tuple items, frozen => by
      intro made
      simp only [freezeMetadataValue, bind_eq_ok, pure_eq_ok, Except.ok.injEq] at made
      obtain ⟨frozenItems, inside, rfl⟩ := made
      simp [freezeMetadataValue, freezeItems_frozen items frozenItems inside]
  | .dict entries, frozen | .frozenDict entries, frozen => by
      intro made
      simp only [freezeMetadataValue, bind_eq_ok, pure_eq_ok, Except.ok.injEq] at made
      obtain ⟨_, unassigned, frozenEntries, inside, rfl⟩ := made
      simp [freezeMetadataValue, map_fst_freezeEntries inside, unassigned,
        freezeEntries_frozen entries frozenEntries inside]

theorem freezeItems_frozen : (items frozen : List MetadataValue) →
    freezeItems contract items = .ok frozen → freezeItems contract frozen = .ok frozen
  | [], frozen => by
      intro made
      obtain rfl := Except.ok.inj made
      rfl
  | item :: items, frozen => by
      intro made
      simp only [freezeItems, bind_eq_ok, pure_eq_ok, Except.ok.injEq] at made
      obtain ⟨first, now, rest, later, rfl⟩ := made
      simp [freezeItems, freezeMetadataValue_frozen item first now,
        freezeItems_frozen items rest later]

theorem freezeEntries_frozen : (entries frozen : List (String × MetadataValue)) →
    freezeEntries contract entries = .ok frozen → freezeEntries contract frozen = .ok frozen
  | [], frozen => by
      intro made
      obtain rfl := Except.ok.inj made
      rfl
  | (key, item) :: entries, frozen => by
      intro made
      simp only [freezeEntries, bind_eq_ok, pure_eq_ok, Except.ok.injEq] at made
      obtain ⟨first, now, rest, later, rfl⟩ := made
      simp [freezeEntries, freezeMetadataValue_frozen item first now,
        freezeEntries_frozen entries rest later]

end

theorem freezeMetadata_frozen {metadata frozen : List (String × MetadataValue)}
    (made : freezeMetadata contract metadata = .ok frozen) :
    freezeMetadata contract frozen = .ok frozen := by
  simp only [freezeMetadata, bind_eq_ok] at made
  obtain ⟨_, unassigned, inside⟩ := made
  simp [freezeMetadata, map_fst_freezeEntries inside, unassigned,
    freezeEntries_frozen metadata frozen inside]

end Freezing

/-! ## Nodes and edges -/

/-- The check of a text field declared with `Field(min_length=1)`. -/
def fieldNonempty (contract field text : String) : Except Fault Unit :=
  require (text ≠ "") (.validation contract field "String should have at least 1 character")

/-- A logical operation. -/
structure GraphNode where
  nodeId : String
  name : String
  nodeType : String
  capabilityRequired : String
  metadata : List (String × MetadataValue) := []
  /-- The texts are not empty. -/
  texts_nonempty : ∀ text ∈ [nodeId, name, nodeType, capabilityRequired], text ≠ ""
  /-- The metadata is frozen. -/
  metadata_frozen : freezeMetadata "GraphNode" metadata = .ok metadata

/-- Construct a node. -/
def GraphNode.create (nodeId name nodeType capabilityRequired : String)
    (metadata : List (String × MetadataValue)) : Except Fault GraphNode := do
  let fields := [("node_id", nodeId), ("name", name), ("node_type", nodeType),
    ("capability_required", capabilityRequired)]
  match checked : forEach (fun field => fieldNonempty "GraphNode" field.1 field.2) fields,
      made : freezeMetadata "GraphNode" metadata with
  | .error raised, _ => .error raised
  | .ok _, .error raised => .error raised
  | .ok _, .ok frozen =>
      return {
        nodeId := nodeId
        name := name
        nodeType := nodeType
        capabilityRequired := capabilityRequired
        metadata := frozen
        texts_nonempty := by simpa [fields, fieldNonempty] using checked
        metadata_frozen := freezeMetadata_frozen made }

/-- A logical dependency between two nodes. -/
structure GraphEdge where
  edgeId : String
  sourceNode : String
  targetNode : String
  edgeType : String
  condition : Option String := none
  /-- The texts are not empty. -/
  texts_nonempty : ∀ text ∈ [edgeId, sourceNode, targetNode, edgeType], text ≠ ""

/-- The arrows of a list of edges. -/
def arrowsOf (edges : List GraphEdge) : List (String × String) :=
  edges.map fun edge => (edge.sourceNode, edge.targetNode)

/-- The targets of the edges out of a node, in the order of the edges. -/
def adjacency (edges : List GraphEdge) (nodeId : String) : List String :=
  (edges.filter fun edge => edge.sourceNode = nodeId).map GraphEdge.targetNode

theorem mem_adjacency {edges : List GraphEdge} {source target : String} :
    target ∈ adjacency edges source ↔ Linked (arrowsOf edges) source target := by
  simp [adjacency, Linked, arrowsOf, and_assoc]

/-- Some node is found to lead back to itself, by a search from all nodes. The fuel is never used
up. -/
def closesCycle (nodeIds : List String) (edges : List GraphEdge) : Bool :=
  (DepthFirst.searchAny (DepthFirst.search (adjacency edges) (nodeIds.length + 1)) ⟨[], []⟩
    nodeIds).elim false Prod.fst

/-- The edges run between declared nodes. -/
def EndpointsIn (nodeIds : List String) (edges : List GraphEdge) : Prop :=
  ∀ edge ∈ edges, edge.sourceNode ∈ nodeIds ∧ edge.targetNode ∈ nodeIds

instance (nodeIds : List String) (edges : List GraphEdge) : Decidable (EndpointsIn nodeIds edges) :=
  inferInstanceAs (Decidable (∀ edge ∈ edges,
    edge.sourceNode ∈ nodeIds ∧ edge.targetNode ∈ nodeIds))

/-- The search answers, and finds a cycle exactly where there is one. -/
theorem closesCycle_eq_false_iff {nodeIds : List String} {edges : List GraphEdge}
    (declared : EndpointsIn nodeIds edges) :
    closesCycle nodeIds edges = false ↔ Acyclic (arrowsOf edges) := by
  have inside : ∀ nodeId ∈ nodeIds, adjacency edges nodeId ⊆ nodeIds := by
    intro nodeId _ target member
    obtain ⟨edge, isEdge, rfl⟩ := List.mem_map.mp member
    exact (declared edge (List.mem_of_mem_filter isEdge)).2
  have outside : ∀ nodeId ∉ nodeIds, adjacency edges nodeId = [] := by
    intro nodeId missing
    rw [adjacency, List.map_eq_nil_iff, List.filter_eq_nil_iff]
    rintro edge member same
    rw [decide_eq_true_eq] at same
    exact missing (same ▸ (declared edge member).1)
  obtain ⟨found, after, answered, exact⟩ :=
    DepthFirst.exists_searchAny_iff inside outside (Nat.lt_succ_self nodeIds.length)
  have arrows : (fun source target => target ∈ adjacency edges source) =
      Linked (arrowsOf edges) := by
    funext source target
    exact propext mem_adjacency
  rw [arrows] at exact
  rw [closesCycle, answered, Option.elim_some, ← Bool.not_eq_true, exact, Acyclic]
  push Not
  rfl

/-! ## Graphs -/

/-- What makes nodes and edges, with the nodes to enter and to end at, a logical DAG. -/
structure LogicalDag (nodes : List GraphNode) (edges : List GraphEdge)
    (entryNodes terminalNodes : List String) : Prop where
  /-- The ids of nodes are unique. -/
  nodeIds_nodup : (nodes.map GraphNode.nodeId).Nodup
  /-- The ids of edges are unique. -/
  edgeIds_nodup : (edges.map GraphEdge.edgeId).Nodup
  /-- The edges run between declared nodes. -/
  endpoints : EndpointsIn (nodes.map GraphNode.nodeId) edges
  /-- The nodes to enter are declared. -/
  entries : entryNodes ⊆ nodes.map GraphNode.nodeId
  /-- The nodes to end at are declared. -/
  terminals : terminalNodes ⊆ nodes.map GraphNode.nodeId
  /-- The edges have no cycle. -/
  acyclic : Acyclic (arrowsOf edges)

/-- What the constructor of a graph is given. -/
structure ExecutionGraphDraft where
  schemaVersion : String := "mercury.execution.graph/v1"
  graphId : String
  workloadId : String
  graphVersion : String := "1"
  nodes : List GraphNode := []
  edges : List GraphEdge := []
  entryNodes : List String := []
  terminalNodes : List String := []
  metadata : List (String × MetadataValue) := []

/-- A logical DAG, independent of where it is placed. -/
structure ExecutionGraph extends ExecutionGraphDraft where
  /-- The schema is the one of this contract. -/
  schema : schemaVersion = "mercury.execution.graph/v1"
  /-- The texts are not empty. -/
  texts_nonempty : ∀ text ∈ [graphId, workloadId, graphVersion], text ≠ ""
  /-- The metadata is frozen. -/
  metadata_frozen : freezeMetadata "ExecutionGraph" metadata = .ok metadata
  /-- Nodes and edges make a logical DAG. -/
  logicalDag : LogicalDag nodes edges entryNodes terminalNodes

namespace ExecutionGraphDraft

variable (draft : ExecutionGraphDraft)

/-- The checks of the fields that are no tuples. -/
def checkFields : Except Fault Unit := do
  require (draft.schemaVersion = "mercury.execution.graph/v1")
    (.validation "ExecutionGraph" "schema_version" "Input should be 'mercury.execution.graph/v1'")
  forEach (fun field => fieldNonempty "ExecutionGraph" field.1 field.2)
    [("graph_id", draft.graphId), ("workload_id", draft.workloadId),
      ("graph_version", draft.graphVersion)]

/-- The checks of nodes and edges, in the order of the source. -/
def checkDag : Except Fault Unit := do
  let nodeIds := draft.nodes.map GraphNode.nodeId
  rule "ExecutionGraph" "" nodeIds.Nodup "duplicate graph node_id"
  rule "ExecutionGraph" "" (draft.edges.map GraphEdge.edgeId).Nodup "duplicate graph edge_id"
  forEach (fun edge : GraphEdge => do
      rule "ExecutionGraph" "" (edge.sourceNode ∈ nodeIds)
        s!"edge source_node not found: {edge.sourceNode}"
      rule "ExecutionGraph" "" (edge.targetNode ∈ nodeIds)
        s!"edge target_node not found: {edge.targetNode}")
    draft.edges
  forEach (fun nodeId => rule "ExecutionGraph" "" (nodeId ∈ nodeIds)
    s!"entry_node not found: {nodeId}") draft.entryNodes
  forEach (fun nodeId => rule "ExecutionGraph" "" (nodeId ∈ nodeIds)
    s!"terminal_node not found: {nodeId}") draft.terminalNodes
  rule "ExecutionGraph" "" (closesCycle nodeIds draft.edges = false)
    "execution graph must be acyclic"

/-- The fields that are no tuples are valid. -/
structure FieldsValid : Prop where
  /-- The schema is the one of this contract. -/
  schema : draft.schemaVersion = "mercury.execution.graph/v1"
  /-- The texts are not empty. -/
  texts_nonempty : ∀ text ∈ [draft.graphId, draft.workloadId, draft.graphVersion], text ≠ ""
  /-- The metadata can be frozen. -/
  metadata_freezes : ∃ frozen, freezeMetadata "ExecutionGraph" draft.metadata = .ok frozen

variable {draft}

theorem checkFields_eq_ok {done : Unit} : draft.checkFields = .ok done ↔
    draft.schemaVersion = "mercury.execution.graph/v1" ∧
      ∀ text ∈ [draft.graphId, draft.workloadId, draft.graphVersion], text ≠ "" := by
  simp [checkFields, fieldNonempty]

theorem checkDag_eq_ok {done : Unit} : draft.checkDag = .ok done ↔
    LogicalDag draft.nodes draft.edges draft.entryNodes draft.terminalNodes := by
  simp only [checkDag, bind_eq_ok, rule_eq_ok, forEach_eq_ok, exists_const]
  constructor
  · rintro ⟨nodes, edges, endpoints, entries, terminals, noCycle⟩
    exact ⟨nodes, edges, endpoints, entries, terminals,
      (closesCycle_eq_false_iff endpoints).mp noCycle⟩
  · rintro ⟨nodes, edges, endpoints, entries, terminals, acyclic⟩
    exact ⟨nodes, edges, endpoints, entries, terminals,
      (closesCycle_eq_false_iff endpoints).mpr acyclic⟩

variable (draft) in
/-- Construct a graph. -/
def create : Except Fault ExecutionGraph :=
  match fields : draft.checkFields, made : freezeMetadata "ExecutionGraph" draft.metadata,
      dag : draft.checkDag with
  | .error raised, _, _ => .error raised
  | .ok _, .error raised, _ => .error raised
  | .ok _, .ok _, .error raised => .error raised
  | .ok _, .ok frozen, .ok _ => .ok {
      draft with
      metadata := frozen
      schema := (checkFields_eq_ok.mp fields).1
      texts_nonempty := (checkFields_eq_ok.mp fields).2
      metadata_frozen := freezeMetadata_frozen made
      logicalDag := checkDag_eq_ok.mp dag }

theorem exists_create_eq_ok_iff : (∃ graph, draft.create = .ok graph) ↔ draft.FieldsValid ∧
    LogicalDag draft.nodes draft.edges draft.entryNodes draft.terminalNodes := by
  constructor
  · rintro ⟨graph, made⟩
    unfold create at made
    split at made
    case h_1 => nomatch made
    case h_2 => nomatch made
    case h_3 => nomatch made
    case h_4 _ frozen _ fields freezes dag =>
      have valid := checkFields_eq_ok.mp fields
      exact ⟨⟨valid.1, valid.2, frozen, freezes⟩, checkDag_eq_ok.mp dag⟩
  · rintro ⟨⟨schema, texts, frozen, freezes⟩, dag⟩
    have fields : draft.checkFields = .ok () := checkFields_eq_ok.mpr ⟨schema, texts⟩
    have acyclic : draft.checkDag = .ok () := checkDag_eq_ok.mpr dag
    unfold create
    split
    case h_1 failed => simp [fields] at failed
    case h_2 failed => simp [freezes] at failed
    case h_3 failed => simp [acyclic] at failed
    case h_4 => exact ⟨_, rfl⟩

end ExecutionGraphDraft

/-- Whether nodes and edges make a logical DAG does not depend on the order of either. -/
theorem LogicalDag.of_perm {nodes otherNodes : List GraphNode} {edges otherEdges : List GraphEdge}
    {entryNodes terminalNodes : List String}
    (dag : LogicalDag nodes edges entryNodes terminalNodes) (nodesPerm : otherNodes.Perm nodes)
    (edgesPerm : otherEdges.Perm edges) :
    LogicalDag otherNodes otherEdges entryNodes terminalNodes := by
  have sameIds : (otherNodes.map GraphNode.nodeId).Perm (nodes.map GraphNode.nodeId) :=
    nodesPerm.map _
  constructor
  case nodeIds_nodup => exact sameIds.nodup_iff.mpr dag.nodeIds_nodup
  case edgeIds_nodup => exact (edgesPerm.map _).nodup_iff.mpr dag.edgeIds_nodup
  case endpoints =>
    intro edge member
    rw [sameIds.mem_iff, sameIds.mem_iff]
    exact dag.endpoints edge (edgesPerm.mem_iff.mp member)
  case entries => exact List.Subset.trans dag.entries sameIds.symm.subset
  case terminals => exact List.Subset.trans dag.terminals sameIds.symm.subset
  case acyclic =>
    refine (acyclic_congr fun source target => ?_).mp dag.acyclic
    exact (edgesPerm.map _).symm.mem_iff

namespace ExecutionGraphDraft

/-- A graph is constructed exactly from valid fields and a logical DAG, in whatever order its nodes
and edges are listed. -/
theorem exists_create_iff_logicalDag {draft : ExecutionGraphDraft} {nodes : List GraphNode}
    {edges : List GraphEdge} (nodesPerm : nodes.Perm draft.nodes)
    (edgesPerm : edges.Perm draft.edges) :
    (∃ graph, ({ draft with nodes := nodes, edges := edges } : ExecutionGraphDraft).create =
        .ok graph) ↔
      draft.FieldsValid ∧
        LogicalDag draft.nodes draft.edges draft.entryNodes draft.terminalNodes := by
  rw [exists_create_eq_ok_iff]
  constructor
  · rintro ⟨⟨schema, texts, freezes⟩, dag⟩
    exact ⟨⟨schema, texts, freezes⟩, dag.of_perm nodesPerm.symm edgesPerm.symm⟩
  · rintro ⟨⟨schema, texts, freezes⟩, dag⟩
    exact ⟨⟨schema, texts, freezes⟩, dag.of_perm nodesPerm edgesPerm⟩

end ExecutionGraphDraft

theorem noMetadata_frozen (contract : String) : freezeMetadata contract [] = .ok [] := by
  simp [freezeMetadata, refuseAssignments, physicalAssignments, freezeEntries, canonical, sortOn]

theorem planStep_texts {nodeId : String} (given : nodeId ≠ "") :
    ∀ text ∈ [nodeId, "plan", "reasoning", "planning"], text ≠ "" := by
  simpa using given

/-- A planning step. -/
def planStep (nodeId : String) (given : nodeId ≠ "") : GraphNode where
  nodeId := nodeId
  name := "plan"
  nodeType := "reasoning"
  capabilityRequired := "planning"
  texts_nonempty := planStep_texts given
  metadata_frozen := noMetadata_frozen "GraphNode"

/-- An edge from the first step to the second. -/
def planEdge (edgeId : String) (given : edgeId ≠ "") : GraphEdge where
  edgeId := edgeId
  sourceNode := "first"
  targetNode := "second"
  edgeType := "control"
  texts_nonempty := by simpa using given

/-- Two steps and two parallel edges from the first to the second. -/
def twoSteps : ExecutionGraphDraft where
  graphId := "graph"
  workloadId := "workload"
  nodes := [planStep "first" (by decide), planStep "second" (by decide)]
  edges := [planEdge "plain" (by decide), planEdge "guarded" (by decide)]
  entryNodes := ["first"]
  terminalNodes := ["second"]

theorem twoSteps_fieldsValid : twoSteps.FieldsValid where
  schema := rfl
  texts_nonempty := by decide
  metadata_freezes := ⟨[], noMetadata_frozen "ExecutionGraph"⟩

theorem twoSteps_logicalDag :
    LogicalDag twoSteps.nodes twoSteps.edges twoSteps.entryNodes twoSteps.terminalNodes := by
  have declared : EndpointsIn (twoSteps.nodes.map GraphNode.nodeId) twoSteps.edges := by decide
  have noCycle : closesCycle (twoSteps.nodes.map GraphNode.nodeId) twoSteps.edges = false := by
    decide
  exact ⟨by decide, by decide, declared, by decide, by decide,
    (closesCycle_eq_false_iff declared).mp noCycle⟩

/-- Two steps with parallel edges make a graph with nodes and edges listed in the other order. -/
theorem twoSteps_swapped : ∃ graph, ({ twoSteps with
    nodes := [planStep "second" (by decide), planStep "first" (by decide)]
    edges := [planEdge "guarded" (by decide), planEdge "plain" (by decide)] } :
      ExecutionGraphDraft).create = .ok graph :=
  (ExecutionGraphDraft.exists_create_iff_logicalDag (.swap _ _ _) (.swap _ _ _)).mpr
    ⟨twoSteps_fieldsValid, twoSteps_logicalDag⟩

end Contracts
end MercuryX
