import MercuryX.Foundation.Walks
import MercuryX.IntelligenceSlo.Contracts

/-!
# Objective graphs

Objectives are combined by the nodes of a graph, some of which weigh what is below them as soft.
Validation walks the graph from every node. It refuses a weight on the node of a HARD requirement;
the operators of the nodes above are never read. The limit that the interpreter sets to the depth of
recursion is not modelled.
-/

namespace MercuryX
namespace IntelligenceSlo

open Foundation

/-- How a node combines what is below it. -/
inductive ObjectiveOperator where
  | and
  | or
  | weightedSoft
  | requirement
  deriving DecidableEq, Repr

/-- A node of an objective graph. -/
structure ObjectiveNode where
  nodeId : String
  operator : ObjectiveOperator
  childIds : List String := []
  requirementId : Option String := none
  weight : Option ℚ := none
  deriving DecidableEq

/-- A node carries one of the HARD requirements. -/
def ObjectiveNode.CarriesHard (hardRequirementIds : List String) (node : ObjectiveNode) : Prop :=
  ∃ requirementId ∈ node.requirementId, requirementId ∈ hardRequirementIds

instance (hardRequirementIds : List String) (node : ObjectiveNode) :
    Decidable (node.CarriesHard hardRequirementIds) :=
  match carried : node.requirementId with
  | none => .isFalse (by simp [ObjectiveNode.CarriesHard, carried])
  | some requirementId => decidable_of_iff (requirementId ∈ hardRequirementIds)
      (by simp [ObjectiveNode.CarriesHard, carried])

/-! ## Validation -/

/-- Enter a node on a walk: it is defined, and no HARD requirement is weighted. The children are
walked next. -/
def enterNode (nodes : List ObjectiveNode) (hardRequirementIds : List String) (nodeId : String) :
    Except Fault (List String) :=
  match nodes.find? fun node => node.nodeId = nodeId with
  | none => .error (.value "dangling objective node")
  | some node => do
      require (¬ (node.CarriesHard hardRequirementIds ∧ node.weight ≠ none))
        (.value "HARD constraint cannot be weighted")
      return node.childIds

/-- Validate an objective graph: the ids of its nodes, in order. -/
def validateObjectiveGraph (nodes : List ObjectiveNode) (hardRequirementIds : List String) :
    Except Fault (List String) := do
  require (nodes.map ObjectiveNode.nodeId).Nodup (.value "duplicate objective node")
  forEach (walk (.value "circular objective graph") (enterNode nodes hardRequirementIds)
    (nodes.length + 1) []) (nodes.map ObjectiveNode.nodeId)
  return sortOn id (nodes.map ObjectiveNode.nodeId)

/-- The arrows from the nodes of a graph to their children. -/
def childArrows (nodes : List ObjectiveNode) : List (String × String) :=
  nodes.flatMap fun node => node.childIds.map fun child => (node.nodeId, child)

theorem linked_childArrows {nodes : List ObjectiveNode} {parent child : String} :
    Linked (childArrows nodes) parent child ↔
      ∃ node ∈ nodes, node.nodeId = parent ∧ child ∈ node.childIds := by
  simp only [Linked, childArrows, List.mem_flatMap, List.mem_map, Prod.mk.injEq]
  constructor
  · rintro ⟨node, member, _, inside, rfl, rfl⟩
    exact ⟨node, member, rfl, inside⟩
  · rintro ⟨node, member, rfl, inside⟩
    exact ⟨node, member, child, inside, rfl, rfl⟩

/-- What validation establishes. -/
structure WellFormed (nodes : List ObjectiveNode) (hardRequirementIds : List String) : Prop where
  /-- The ids are distinct. -/
  ids_nodup : (nodes.map ObjectiveNode.nodeId).Nodup
  /-- Children are defined. -/
  children_defined : ∀ node ∈ nodes, node.childIds ⊆ nodes.map ObjectiveNode.nodeId
  /-- No node that carries a HARD requirement has a weight. -/
  hard_unweighted : ∀ node ∈ nodes, node.CarriesHard hardRequirementIds → node.weight = none
  /-- No node is below itself. -/
  acyclic : Acyclic (childArrows nodes)

section Validation

variable {nodes : List ObjectiveNode} {hardRequirementIds : List String}

theorem enterNode_eq_ok_iff (distinct : (nodes.map ObjectiveNode.nodeId).Nodup) {nodeId : String}
    {targets : List String} : enterNode nodes hardRequirementIds nodeId = .ok targets ↔
      ∃ node ∈ nodes, node.nodeId = nodeId ∧ node.childIds = targets ∧
        (node.CarriesHard hardRequirementIds → node.weight = none) := by
  unfold enterNode
  split
  next missing =>
    have absent := List.find?_eq_none.mp missing
    refine iff_of_false nofun ?_
    rintro ⟨node, member, named, _⟩
    exact absent node member (decide_eq_true named)
  next node found =>
    have member := List.mem_of_find?_eq_some found
    have named : node.nodeId = nodeId := by simpa using List.find?_some found
    simp only [bind_eq_ok, require_eq_ok, pure_eq_ok, Except.ok.injEq, exists_const, not_and, ne_eq,
      not_not]
    constructor
    · rintro ⟨unweighted, children⟩
      exact ⟨node, member, named, children, unweighted⟩
    · rintro ⟨other, otherMember, otherNamed, children, unweighted⟩
      obtain rfl := List.inj_on_of_nodup_map distinct member otherMember
        (named.trans otherNamed.symm)
      exact ⟨unweighted, children⟩

theorem validateObjectiveGraph_eq_ok_iff {order : List String} :
    validateObjectiveGraph nodes hardRequirementIds = .ok order ↔
      WellFormed nodes hardRequirementIds ∧
        sortOn id (nodes.map ObjectiveNode.nodeId) = order := by
  simp only [validateObjectiveGraph, bind_eq_ok, require_eq_ok, forEach_eq_ok, exists_const,
    pure_eq_ok, Except.ok.injEq]
  rw [← and_assoc]
  refine and_congr_left fun _ => ?_
  by_cases distinct : (nodes.map ObjectiveNode.nodeId).Nodup
  case neg =>
    exact iff_of_false (fun both => distinct both.1)
      fun wellFormed => distinct wellFormed.ids_nodup
  have enters := @enterNode_eq_ok_iff nodes hardRequirementIds distinct
  have linked : ∀ source targets, enterNode nodes hardRequirementIds source = .ok targets →
      ∀ target, target ∈ targets ↔ Linked (childArrows nodes) source target := by
    intro source targets entered target
    obtain ⟨node, member, rfl, rfl, _⟩ := enters.mp entered
    rw [linked_childArrows]
    constructor
    · exact fun inside => ⟨node, member, rfl, inside⟩
    · rintro ⟨other, otherMember, same, inside⟩
      obtain rfl := List.inj_on_of_nodup_map distinct otherMember member same
      exact inside
  have sources : ∀ source target, Linked (childArrows nodes) source target →
      source ∈ nodes.map ObjectiveNode.nodeId := by
    intro source target link
    obtain ⟨node, member, rfl, _⟩ := linked_childArrows.mp link
    exact List.mem_map_of_mem member
  have enterable : ∀ nodeId targets, enterNode nodes hardRequirementIds nodeId = .ok targets →
      nodeId ∈ nodes.map ObjectiveNode.nodeId := by
    intro nodeId targets entered
    obtain ⟨node, member, rfl, _⟩ := enters.mp entered
    exact List.mem_map_of_mem member
  rw [forall_walk_iff linked sources enterable (by simp)]
  constructor
  · rintro ⟨_, entered, acyclic⟩
    have each : ∀ node ∈ nodes, node.childIds ⊆ nodes.map ObjectiveNode.nodeId ∧
        (node.CarriesHard hardRequirementIds → node.weight = none) := by
      intro node member
      obtain ⟨targets, answered, inside⟩ := entered node.nodeId (List.mem_map_of_mem member)
      obtain ⟨other, otherMember, same, rfl, unweighted⟩ := enters.mp answered
      obtain rfl := List.inj_on_of_nodup_map distinct otherMember member same
      exact ⟨inside, unweighted⟩
    exact ⟨distinct, fun node member => (each node member).1,
      fun node member => (each node member).2, acyclic⟩
  · rintro ⟨_, defined, unweighted, acyclic⟩
    refine ⟨distinct, fun nodeId inside => ?_, acyclic⟩
    obtain ⟨node, member, rfl⟩ := List.mem_map.mp inside
    exact ⟨node.childIds, enters.mpr ⟨node, member, rfl, rfl, unweighted node member⟩,
      defined node member⟩

/-! ## Runs of validation

The walks of the source have no fuel. Each comes to an outcome, and it is the one found above. -/

/-- Validation comes to an outcome, with walks of any depth. -/
inductive Validates (nodes : List ObjectiveNode) (hardRequirementIds : List String) :
    Except Fault (List String) → Prop where
  /-- An id is repeated. -/
  | repeated (again : ¬ (nodes.map ObjectiveNode.nodeId).Nodup) :
      Validates nodes hardRequirementIds (.error (.value "duplicate objective node"))
  /-- The walks from some first nodes succeed, and the next fails. -/
  | refused {front back : List String} {nodeId : String} {raised : Fault}
      (distinct : (nodes.map ObjectiveNode.nodeId).Nodup)
      (split : nodes.map ObjectiveNode.nodeId = front ++ nodeId :: back)
      (passed : ∀ earlier ∈ front, WalksTo (.value "circular objective graph")
        (enterNode nodes hardRequirementIds) [] earlier (.ok ()))
      (failed : WalksTo (.value "circular objective graph") (enterNode nodes hardRequirementIds) []
        nodeId (.error raised)) :
      Validates nodes hardRequirementIds (.error raised)
  /-- The walks from all nodes succeed. -/
  | accepted (distinct : (nodes.map ObjectiveNode.nodeId).Nodup)
      (passed : ∀ nodeId ∈ nodes.map ObjectiveNode.nodeId,
        WalksTo (.value "circular objective graph") (enterNode nodes hardRequirementIds) [] nodeId
          (.ok ())) :
      Validates nodes hardRequirementIds (.ok (sortOn id (nodes.map ObjectiveNode.nodeId)))

theorem mem_of_enterNode {nodeId : String} {targets : List String}
    (entered : enterNode nodes hardRequirementIds nodeId = .ok targets) :
    nodeId ∈ nodes.map ObjectiveNode.nodeId := by
  unfold enterNode at entered
  split at entered
  next missing => nomatch entered
  next node found =>
    have named : node.nodeId = nodeId := by simpa using List.find?_some found
    exact named ▸ List.mem_map_of_mem (List.mem_of_find?_eq_some found)

/-- The walk from a node comes to the outcome that is found with fuel, and to no other. -/
theorem walksTo_iff {nodeId : String} {outcome : Except Fault Unit} :
    WalksTo (.value "circular objective graph") (enterNode nodes hardRequirementIds) [] nodeId
        outcome ↔
      walk (.value "circular objective graph") (enterNode nodes hardRequirementIds)
        (nodes.length + 1) [] nodeId = outcome := by
  have walked : WalksTo (.value "circular objective graph") (enterNode nodes hardRequirementIds) []
      nodeId (walk (.value "circular objective graph") (enterNode nodes hardRequirementIds)
        (nodes.length + 1) [] nodeId) :=
    walksTo_walk (fun _ _ => mem_of_enterNode) List.nodup_nil (List.nil_subset _) (by simp)
  constructor
  · exact walked.unique
  · rintro rfl
    exact walked

/-- Validation comes to the outcome that is found with fuel, and to no other. -/
theorem validates_iff {outcome : Except Fault (List String)} :
    Validates nodes hardRequirementIds outcome ↔
      validateObjectiveGraph nodes hardRequirementIds = outcome := by
  constructor
  · intro validated
    cases validated with
    | repeated again => simp [validateObjectiveGraph, require, again]
    | refused distinct split passed failed =>
        have stopped := forEach_eq_error.mpr ⟨_, _, _, split,
          fun earlier member => walksTo_iff.mp (passed earlier member), walksTo_iff.mp failed⟩
        simp [validateObjectiveGraph, distinct, require, stopped]
    | accepted distinct passed =>
        have walked : forEach (walk (.value "circular objective graph")
            (enterNode nodes hardRequirementIds) (nodes.length + 1) [])
            (nodes.map ObjectiveNode.nodeId) = .ok () :=
          forEach_eq_ok.mpr fun nodeId member => walksTo_iff.mp (passed nodeId member)
        simp [validateObjectiveGraph, distinct, require, walked]
  · rintro rfl
    by_cases distinct : (nodes.map ObjectiveNode.nodeId).Nodup
    case neg =>
      have refused : validateObjectiveGraph nodes hardRequirementIds =
          .error (.value "duplicate objective node") := by
        simp [validateObjectiveGraph, require, distinct]
      rw [refused]
      exact .repeated distinct
    cases walked : forEach (walk (.value "circular objective graph")
        (enterNode nodes hardRequirementIds) (nodes.length + 1) [])
        (nodes.map ObjectiveNode.nodeId) with
    | error raised =>
        have refused : validateObjectiveGraph nodes hardRequirementIds = .error raised := by
          simp [validateObjectiveGraph, require, distinct, walked]
        obtain ⟨front, nodeId, back, split, passed, failed⟩ := forEach_eq_error.mp walked
        rw [refused]
        exact .refused distinct split
          (fun earlier member => walksTo_iff.mpr (passed earlier member)) (walksTo_iff.mpr failed)
    | ok done =>
        have accepted : validateObjectiveGraph nodes hardRequirementIds =
            .ok (sortOn id (nodes.map ObjectiveNode.nodeId)) := by
          simp [validateObjectiveGraph, require, distinct, walked]
        rw [accepted]
        exact .accepted distinct fun nodeId member =>
          walksTo_iff.mpr (forEach_eq_ok.mp walked nodeId member)

/-- Validation ends on every graph, in one outcome, and accepts exactly the well-formed graphs. -/
theorem validates_ends_and_accepts_iff (nodes : List ObjectiveNode)
    (hardRequirementIds : List String) :
    (∀ outcome, Validates nodes hardRequirementIds outcome ↔
        validateObjectiveGraph nodes hardRequirementIds = outcome) ∧
      ((∃ order, validateObjectiveGraph nodes hardRequirementIds = .ok order) ↔
        WellFormed nodes hardRequirementIds) := by
  simp only [validates_iff, validateObjectiveGraph_eq_ok_iff, implies_true, true_and]
  exact ⟨fun ⟨_, wellFormed, _⟩ => wellFormed, fun wellFormed => ⟨_, wellFormed, rfl⟩⟩

/-- Two objectives that share a third are accepted. -/
example : validateObjectiveGraph
    [{ nodeId := "root", operator := .and, childIds := ["left", "right"] },
      { nodeId := "left", operator := .or, childIds := ["leaf"] },
      { nodeId := "right", operator := .or, childIds := ["leaf"] },
      { nodeId := "leaf", operator := .requirement }] [] =
    .ok ["leaf", "left", "right", "root"] := by decide +kernel

/-! ## Softening -/

/-- Where the graph is accepted, no HARD requirement is softened: none has a weight, and none is
below a node that weighs what is below it as soft. -/
def NeverSoftened (nodes : List ObjectiveNode) (hardRequirementIds : List String) : Prop :=
  ∀ order, validateObjectiveGraph nodes hardRequirementIds = .ok order →
    (∀ node ∈ nodes, node.CarriesHard hardRequirementIds → node.weight = none) ∧
      ∀ soft ∈ nodes, soft.operator = .weightedSoft → ∀ node ∈ nodes,
        node.CarriesHard hardRequirementIds → ¬ Leads (childArrows nodes) soft.nodeId node.nodeId

/-- A set of ids that the soft nodes hand on to: it holds the children of every soft node and of
every node in it, and no node in it carries a HARD requirement. -/
structure SoftZone (nodes : List ObjectiveNode) (hardRequirementIds : List String)
    (zone : Set String) : Prop where
  /-- Children of soft nodes and of nodes in the zone are in the zone. -/
  closed : ∀ node ∈ nodes, node.operator = .weightedSoft ∨ node.nodeId ∈ zone →
    ∀ child ∈ node.childIds, child ∈ zone
  /-- No node in the zone carries a HARD requirement. -/
  soft : ∀ node ∈ nodes, node.nodeId ∈ zone → ¬ node.CarriesHard hardRequirementIds

theorem SoftZone.holds {zone : Set String} (zoned : SoftZone nodes hardRequirementIds zone)
    {soft : ObjectiveNode} (member : soft ∈ nodes)
    (distinct : (nodes.map ObjectiveNode.nodeId).Nodup) (isSoft : soft.operator = .weightedSoft)
    {nodeId : String} (below : Leads (childArrows nodes) soft.nodeId nodeId) : nodeId ∈ zone := by
  induction below with
  | single link =>
      obtain ⟨node, nodeMember, same, child⟩ := linked_childArrows.mp link
      obtain rfl := List.inj_on_of_nodup_map distinct nodeMember member same
      exact zoned.closed node nodeMember (.inl isSoft) _ child
  | tail _ link inside =>
      obtain ⟨node, nodeMember, rfl, child⟩ := linked_childArrows.mp link
      exact zoned.closed node nodeMember (.inr inside) _ child

/-- The graphs in which acceptance keeps every HARD requirement hard are those that are refused,
and those with a soft zone. -/
theorem neverSoftened_iff (nodes : List ObjectiveNode) (hardRequirementIds : List String) :
    NeverSoftened nodes hardRequirementIds ↔ (WellFormed nodes hardRequirementIds →
      ∃ zone, SoftZone nodes hardRequirementIds zone) := by
  simp only [NeverSoftened, validateObjectiveGraph_eq_ok_iff]
  constructor
  · intro kept wellFormed
    have apart := (kept _ ⟨wellFormed, rfl⟩).2
    refine ⟨{nodeId | ∃ soft ∈ nodes, soft.operator = .weightedSoft ∧
      Leads (childArrows nodes) soft.nodeId nodeId}, ?_, ?_⟩
    · rintro node member isSoft child inside
      have link := linked_childArrows.mpr ⟨node, member, rfl, inside⟩
      rcases isSoft with isSoft | ⟨soft, softMember, isSoft, above⟩
      · exact ⟨node, member, isSoft, .single link⟩
      · exact ⟨soft, softMember, isSoft, above.tail link⟩
    · rintro node member ⟨soft, softMember, isSoft, above⟩ carries
      exact apart soft softMember isSoft node member carries above
  · rintro zoned order ⟨wellFormed, rfl⟩
    refine ⟨wellFormed.hard_unweighted, fun soft softMember isSoft node member carries below => ?_⟩
    obtain ⟨zone, zoned⟩ := zoned wellFormed
    exact zoned.soft node member (zoned.holds softMember wellFormed.ids_nodup isSoft below) carries

end Validation

/-- A soft node. -/
def softRoot : ObjectiveNode where
  nodeId := "root"
  operator := .weightedSoft
  childIds := ["leaf"]
  weight := some 1

/-- The node of a requirement, below it. -/
def qualityLeaf : ObjectiveNode where
  nodeId := "leaf"
  operator := .requirement
  requirementId := some "quality"

/-- A HARD requirement below a soft node is accepted. -/
theorem softened_accepted : ¬ NeverSoftened [softRoot, qualityLeaf] ["quality"] := by
  intro kept
  have apart := (kept ["leaf", "root"] (by decide +kernel)).2
  refine apart softRoot (by simp) rfl qualityLeaf (by simp) ⟨"quality", rfl, by simp⟩ ?_
  exact .single (linked_childArrows.mpr ⟨softRoot, by simp, rfl, by simp [softRoot, qualityLeaf]⟩)

end IntelligenceSlo
end MercuryX
