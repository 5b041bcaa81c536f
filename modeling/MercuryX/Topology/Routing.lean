import MercuryX.Topology.Paths

/-!
# Routing

Graphs are built from nodes and links in any order. The route found between two nodes is a walk
with the fewest links, passes no node twice, and does not depend on that order; its metrics are the
least bandwidth and the total latency of its links, unknown where a link lacks the figure or there
is no link.
-/

namespace MercuryX
namespace Topology

open Foundation

/-! ## Graphs from nodes and links -/

/-- The fields of a graph. -/
structure GraphFields where
  topologyGraphId : String
  nodes : List TopologyNode
  links : List TopologyLink
  generation : Int
  fingerprint : String

namespace GraphFields

variable (digest : Digest)

/-- What the constructor of a graph establishes. -/
structure Valid (given : GraphFields) : Prop where
  /-- Identity fields are nonblank. -/
  texts_nonblank : ∀ text ∈ [given.topologyGraphId, given.fingerprint], Text.Nonblank text
  /-- Generations start at one. -/
  generation_pos : 1 ≤ given.generation
  /-- There are nodes. -/
  nodes_nonempty : given.nodes ≠ []
  /-- Nodes have distinct ids. -/
  nodes_nodup : (given.nodes.map TopologyNode.topologyNodeId).Nodup
  /-- Links have distinct ids. -/
  links_nodup : (given.links.map TopologyLink.topologyLinkId).Nodup
  /-- Links join nodes of the graph. -/
  endpoints_mem : ∀ link ∈ given.links, ∀ nodeId ∈ [link.sourceNodeId, link.destinationNodeId],
    nodeId ∈ given.nodes.map TopologyNode.topologyNodeId
  /-- The fingerprint is that of the content. -/
  fingerprint_verified : Text.strip given.fingerprint =
    topologyGraphFingerprint digest given.nodes given.links given.generation
  /-- The identity is that of the fingerprint. -/
  id_verified : Text.strip given.topologyGraphId = makeTopologyGraphId digest
    (topologyGraphFingerprint digest given.nodes given.links given.generation)

/-- The checks of the constructor of a graph. -/
def check (given : GraphFields) : Except Fault Unit := do
  let contract := "TopologyGraph"
  let nodeIds := given.nodes.map TopologyNode.topologyNodeId
  let expected := topologyGraphFingerprint digest given.nodes given.links given.generation
  forEach (fun field => rule contract field.1 (Text.Nonblank field.2)
      "topology graph identity must be nonblank")
    [("topology_graph_id", given.topologyGraphId), ("fingerprint", given.fingerprint)]
  fieldGe contract "generation" 1 given.generation
  rule contract "" (given.nodes ≠ []) "topology requires nodes"
  rule contract "" nodeIds.Nodup "duplicate topology node"
  rule contract "" (given.links.map TopologyLink.topologyLinkId).Nodup "duplicate topology link"
  rule contract "" (∀ link ∈ given.links, ∀ nodeId ∈ [link.sourceNodeId, link.destinationNodeId],
    nodeId ∈ nodeIds) "dangling topology link"
  rule contract "" (Text.strip given.fingerprint = expected) "topology fingerprint mismatch"
  rule contract "" (Text.strip given.topologyGraphId = makeTopologyGraphId digest expected)
    "topology graph id mismatch"

variable {digest}

theorem check_eq_ok_iff {given : GraphFields} {done : Unit} :
    given.check digest = .ok done ↔ given.Valid digest := by
  simp only [check, bind_eq_ok, forEach_eq_ok, rule_eq_ok, fieldGe_eq_ok, exists_const]
  constructor
  · rintro ⟨texts, generation, nonempty, nodes, links, endpoints, fingerprint, identity⟩
    exact ⟨by simpa using texts, generation, nonempty, nodes, links, endpoints, fingerprint,
      identity⟩
  · rintro ⟨texts, generation, nonempty, nodes, links, endpoints, fingerprint, identity⟩
    exact ⟨by simpa using texts, generation, nonempty, nodes, links, endpoints, fingerprint,
      identity⟩

end GraphFields

section Building

variable (digest : Digest)

/-- The graph of valid fields. -/
def TopologyGraph.make (given : GraphFields) (valid : given.Valid digest) :
    TopologyGraph digest where
  topologyGraphId := Text.strip given.topologyGraphId
  nodes := given.nodes
  links := given.links
  generation := given.generation
  fingerprint := Text.strip given.fingerprint
  generation_pos := valid.generation_pos
  texts_trimmed := by
    have visible := valid.texts_nonblank
    simp only [List.forall_mem_cons, List.not_mem_nil, false_implies, implies_true, and_true]
      at visible ⊢
    exact ⟨⟨Text.nonblank_strip visible.1, Text.strip_strip _⟩,
      ⟨Text.nonblank_strip visible.2, Text.strip_strip _⟩⟩
  nodes_nonempty := valid.nodes_nonempty
  nodes_nodup := valid.nodes_nodup
  links_nodup := valid.links_nodup
  endpoints_mem := valid.endpoints_mem
  fingerprint_verified := valid.fingerprint_verified
  id_verified := valid.fingerprint_verified ▸ valid.id_verified

/-- Construct a graph from its fields. -/
def TopologyGraph.construct (given : GraphFields) : Except Fault (TopologyGraph digest) :=
  checked (GraphFields.check digest) GraphFields.check_eq_ok_iff (TopologyGraph.make digest) given

/-- Build a graph from nodes and links in any order. -/
def buildTopologyGraph (nodes : List TopologyNode) (links : List TopologyLink)
    (generation : Int := 1) : Except Fault (TopologyGraph digest) := do
  let nodes := sortOn TopologyNode.topologyNodeId nodes
  let links := sortOn TopologyLink.topologyLinkId links
  let ids := nodes.map TopologyNode.topologyNodeId
  require (nodes ≠ []) (.value "topology requires nodes")
  require ids.Nodup (.value "duplicate topology node")
  require (links.map TopologyLink.topologyLinkId).Nodup (.value "duplicate topology link")
  require (∀ link ∈ links, ∀ nodeId ∈ [link.sourceNodeId, link.destinationNodeId], nodeId ∈ ids)
    (.value "dangling topology link")
  let fingerprint := topologyGraphFingerprint digest nodes links generation
  TopologyGraph.construct digest ⟨makeTopologyGraphId digest fingerprint, nodes, links, generation,
    fingerprint⟩

variable {digest}

theorem sortOn_eq_of_perm_of_nodup {α : Type} {key : α → String} {items others : List α}
    (perm : items.Perm others) (distinct : (items.map key).Nodup) :
    sortOn key items = sortOn key others :=
  sortOn_eq_of_perm (fun _ member _ otherMember same =>
    List.inj_on_of_nodup_map distinct member otherMember same) perm

theorem sortOn_eq_nil_iff {α : Type} {key : α → String} {items : List α} :
    sortOn key items = [] ↔ items = [] := by
  rw [← List.length_eq_zero_iff, (sortOn_perm key items).length_eq, List.length_eq_zero_iff]

theorem nodup_sortOn_iff {α : Type} {key : α → String} {items : List α} :
    ((sortOn key items).map key).Nodup ↔ (items.map key).Nodup :=
  ((sortOn_perm key items).map key).nodup_iff

theorem buildTopologyGraph_of_duplicate_node {nodes : List TopologyNode} (links : List TopologyLink)
    (generation : Int) (duplicate : ¬ (nodes.map TopologyNode.topologyNodeId).Nodup) :
    buildTopologyGraph digest nodes links generation =
      .error (.value "duplicate topology node") := by
  have some_node : sortOn TopologyNode.topologyNodeId nodes ≠ [] := by
    rw [Ne, sortOn_eq_nil_iff]
    rintro rfl
    exact duplicate List.nodup_nil
  have sorted := mt nodup_sortOn_iff.mp duplicate
  simp [buildTopologyGraph, require, some_node, sorted]

theorem buildTopologyGraph_of_duplicate_link {nodes : List TopologyNode} {links : List TopologyLink}
    (generation : Int) (some_node : nodes ≠ [])
    (distinct : (nodes.map TopologyNode.topologyNodeId).Nodup)
    (duplicate : ¬ (links.map TopologyLink.topologyLinkId).Nodup) :
    buildTopologyGraph digest nodes links generation =
      .error (.value "duplicate topology link") := by
  have sorted := mt nodup_sortOn_iff.mp duplicate
  have some_sorted : sortOn TopologyNode.topologyNodeId nodes ≠ [] := by
    rwa [Ne, sortOn_eq_nil_iff]
  simp [buildTopologyGraph, require, some_sorted, nodup_sortOn_iff.mpr distinct, sorted]

/-- A build does not depend on the order of nodes and links. -/
theorem buildTopologyGraph_perm {nodes others : List TopologyNode}
    {links otherLinks : List TopologyLink} (nodesPerm : nodes.Perm others)
    (linksPerm : links.Perm otherLinks) (generation : Int) :
    buildTopologyGraph digest nodes links generation =
      buildTopologyGraph digest others otherLinks generation := by
  by_cases distinctNodes : (nodes.map TopologyNode.topologyNodeId).Nodup
  case neg =>
    have otherDistinct := mt (nodesPerm.map TopologyNode.topologyNodeId).nodup_iff.mpr distinctNodes
    rw [buildTopologyGraph_of_duplicate_node _ _ distinctNodes,
      buildTopologyGraph_of_duplicate_node _ _ otherDistinct]
  have sameNodes := sortOn_eq_of_perm_of_nodup nodesPerm distinctNodes
  by_cases distinctLinks : (links.map TopologyLink.topologyLinkId).Nodup
  case pos =>
    have sameLinks := sortOn_eq_of_perm_of_nodup linksPerm distinctLinks
    rw [buildTopologyGraph, buildTopologyGraph, sameNodes, sameLinks]
  by_cases some_node : nodes = []
  case pos =>
    obtain rfl := some_node
    obtain rfl := nodesPerm.nil_eq
    rfl
  have otherDistinct := (nodesPerm.map TopologyNode.topologyNodeId).nodup_iff.mp distinctNodes
  have otherDuplicate :=
    mt (linksPerm.map TopologyLink.topologyLinkId).nodup_iff.mpr distinctLinks
  have some_other : others ≠ [] := fun empty => some_node (empty ▸ nodesPerm).eq_nil
  rw [buildTopologyGraph_of_duplicate_link _ some_node distinctNodes distinctLinks,
    buildTopologyGraph_of_duplicate_link _ some_other otherDistinct otherDuplicate]

end Building

/-! ## Shortest walks -/

section Walks

variable {digest : Digest} {graph : TopologyGraph digest}

/-- Nodes and links lead from one node to another. -/
structure WalksTo (graph : TopologyGraph digest) (sourceNodeId destinationNodeId : String)
    (nodeIds linkIds : List String) : Prop where
  /-- The links join the nodes. -/
  walk : Walk graph nodeIds linkIds
  /-- The first node is the source. -/
  starts : nodeIds.head? = some sourceNodeId
  /-- The last node is the destination. -/
  ends : nodeIds.getLast? = some destinationNodeId

theorem exists_leads {nodeIds linkIds : List String} (walk : Walk graph nodeIds linkIds)
    {source destination : String} (starts : nodeIds.head? = some source)
    (ends : nodeIds.getLast? = some destination) :
    ∃ links, Routes.Leads (adj graph) source destination links ∧
      links.map TopologyLink.topologyLinkId = linkIds := by
  induction walk generalizing source with
  | stay nodeId =>
      obtain rfl := Option.some_inj.mp starts
      obtain rfl := Option.some_inj.mp ends
      exact ⟨[], rfl, rfl⟩
  | @step link nodeId next nodeIds linkIds member joins rest induction =>
      obtain rfl := Option.some_inj.mp starts
      obtain ⟨links, leads, same⟩ := induction rfl (by simpa using ends)
      exact ⟨link :: links, ⟨next, mem_adj_iff.mpr ⟨member, joins⟩, leads⟩, by rw [← same]; rfl⟩

/-- From any node that a walk passes, a walk that is no longer has the same end. -/
theorem exists_walk_of_mem {nodeIds linkIds : List String} (walk : Walk graph nodeIds linkIds)
    {nodeId : String} (member : nodeId ∈ nodeIds) :
    ∃ laterIds laterLinkIds, Walk graph laterIds laterLinkIds ∧ laterIds.head? = some nodeId ∧
      laterIds.getLast? = nodeIds.getLast? ∧ laterLinkIds.length ≤ linkIds.length := by
  induction walk with
  | stay only =>
      obtain rfl := List.mem_singleton.mp member
      exact ⟨[nodeId], [], .stay nodeId, rfl, rfl, le_rfl⟩
  | @step link first next nodeIds linkIds linked joins rest induction =>
      rcases List.mem_cons.mp member with rfl | later
      · exact ⟨_, _, .step linked joins rest, rfl, rfl, le_rfl⟩
      · obtain ⟨laterIds, laterLinkIds, walk, starts, ends, length⟩ := induction later
        exact ⟨laterIds, laterLinkIds, walk, starts, by simpa using ends, by simp; omega⟩

/-- A walk that no walk with the same ends is shorter than passes no node twice. -/
theorem nodup_of_shortest {nodeIds linkIds : List String} (walk : Walk graph nodeIds linkIds)
    (shortest : ∀ others otherLinkIds, Walk graph others otherLinkIds →
      others.head? = nodeIds.head? → others.getLast? = nodeIds.getLast? →
        linkIds.length ≤ otherLinkIds.length) : nodeIds.Nodup := by
  induction walk with
  | stay nodeId => exact List.nodup_singleton nodeId
  | @step link first next nodeIds linkIds linked joins rest induction =>
      refine List.nodup_cons.mpr ⟨fun again => ?_,
        induction fun others otherLinkIds walk starts ends => ?_⟩
      · obtain ⟨laterIds, laterLinkIds, later, starts, ends, length⟩ :=
          exists_walk_of_mem rest again
        have least := shortest laterIds laterLinkIds later starts (by simpa using ends)
        simp only [List.length_cons] at least
        omega
      · obtain ⟨others, rfl⟩ := List.head?_eq_some_iff.mp starts
        have least := shortest _ _ (.step linked joins walk) rfl (by simpa using ends)
        simpa using least

end Walks

/-! ## The route found is shortest -/

section Shortest

variable {digest : Digest} {graph : TopologyGraph digest} {sourceNodeId destinationNodeId : String}

/-- No route is shorter than the one that is found. -/
theorem length_le_of_findPath {links others : List TopologyLink}
    (found : findPath graph sourceNodeId destinationNodeId = some links)
    (leads : Routes.Leads (adj graph) sourceNodeId destinationNodeId others) :
    links.length ≤ others.length := by
  obtain ⟨sourceMem, destinationMem⟩ := mem_of_findPath found
  rw [findPath, if_neg (by simp [sourceMem, destinationMem])] at found
  split at found
  next same =>
    obtain rfl := Option.some_inj.mp found
    exact Nat.zero_le _
  next apart =>
    exact Routes.length_le_of_search sourceMem apart (fun _ _ _ edge => adj_inside edge) found leads

theorem subset_of_leads {source destination : String} {links : List TopologyLink}
    (leads : Routes.Leads (adj graph) source destination links) : links ⊆ graph.links := by
  induction links generalizing source with
  | nil => exact List.nil_subset _
  | cons link links induction =>
      obtain ⟨next, edge, rest⟩ := leads
      exact List.cons_subset.mpr ⟨(mem_adj_iff.mp edge).1, induction rest⟩

/-- A route is found exactly where some walk joins two nodes of the graph. -/
theorem exists_findPath_iff_walksTo :
    (∃ links, findPath graph sourceNodeId destinationNodeId = some links) ↔
      sourceNodeId ∈ graph.nodeIds ∧ destinationNodeId ∈ graph.nodeIds ∧
        ∃ nodeIds linkIds, WalksTo graph sourceNodeId destinationNodeId nodeIds linkIds := by
  constructor
  · rintro ⟨links, found⟩
    obtain ⟨sourceMem, destinationMem⟩ := mem_of_findPath found
    obtain ⟨nodeIds, _, ends, walk⟩ := orderedNodes_of_leads (leads_of_findPath found)
    exact ⟨sourceMem, destinationMem, _, _, walk, rfl, ends⟩
  · rintro ⟨sourceMem, destinationMem, nodeIds, linkIds, walks⟩
    rw [exists_findPath_iff sourceMem destinationMem]
    exact walks.walk.reaches walks.starts walks.ends

/-- A route found between two nodes: links of the graph that pass nodes in order, none twice, from
the source to the destination, and as few links as any walk between them has. -/
structure ShortestRoute (graph : TopologyGraph digest) (sourceNodeId destinationNodeId : String)
    (links : List TopologyLink) (nodeIds : List String) : Prop where
  /-- The links are links of the graph. -/
  links_subset : links ⊆ graph.links
  /-- The nodes that the links pass are found. -/
  ordered : orderedNodes sourceNodeId links = .ok nodeIds
  /-- The links walk from the source to the destination. -/
  walks : WalksTo graph sourceNodeId destinationNodeId nodeIds
    (links.map TopologyLink.topologyLinkId)
  /-- No node is passed twice. -/
  nodup : nodeIds.Nodup
  /-- No walk has fewer links. -/
  shortest : ∀ others linkIds, WalksTo graph sourceNodeId destinationNodeId others linkIds →
    links.length ≤ linkIds.length

theorem exists_shortestRoute {links : List TopologyLink}
    (found : findPath graph sourceNodeId destinationNodeId = some links) :
    ∃ nodeIds, ShortestRoute graph sourceNodeId destinationNodeId links nodeIds := by
  have leads := leads_of_findPath found
  obtain ⟨nodeIds, ordered, ends, walk⟩ := orderedNodes_of_leads leads
  have shortest : ∀ others linkIds,
      WalksTo graph sourceNodeId destinationNodeId others linkIds →
        links.length ≤ linkIds.length := by
    intro others linkIds walks
    obtain ⟨otherLinks, otherLeads, rfl⟩ := exists_leads walks.walk walks.starts walks.ends
    rw [List.length_map]
    exact length_le_of_findPath found otherLeads
  refine ⟨_, subset_of_leads leads, ordered, ⟨walk, rfl, ends⟩, ?_, shortest⟩
  refine nodup_of_shortest walk fun others otherLinkIds otherWalk otherStarts otherEnds => ?_
  rw [List.length_map]
  exact shortest others otherLinkIds ⟨otherWalk, otherStarts, otherEnds.trans ends⟩

end Shortest

/-! ## The order of nodes and links -/

section Order

variable {digest : Digest} {graph other : TopologyGraph digest}

/-- The neighbours of a node do not depend on the order of the links. -/
theorem adj_perm (perm : graph.links.Perm other.links) (nodeId : String) :
    adj graph nodeId = adj other nodeId := by
  refine sortOn_eq_of_perm ?_ (perm.flatMap_right _)
  intro left leftMem right rightMem same
  have inside : ∀ entry ∈ graph.links.flatMap fun link =>
      (if link.sourceNodeId = nodeId then [(link.destinationNodeId, link)] else []) ++
      if link.bidirectional = true ∧ link.destinationNodeId = nodeId
      then [(link.sourceNodeId, link)] else [], entry.2 ∈ graph.links := fun entry member =>
    (mem_adj_iff.mp ((mem_sortOn _).mpr member)).1
  obtain ⟨ends, ids⟩ := Prod.mk.inj (toLex_inj.mp same)
  exact Prod.ext ends (List.inj_on_of_nodup_map graph.links_nodup (inside left leftMem)
    (inside right rightMem) ids)

/-- The route found does not depend on the order in which a graph lists its nodes and links. -/
theorem findPath_perm (nodesPerm : graph.nodes.Perm other.nodes)
    (linksPerm : graph.links.Perm other.links) (sourceNodeId destinationNodeId : String) :
    findPath graph sourceNodeId destinationNodeId =
      findPath other sourceNodeId destinationNodeId := by
  have idsPerm : graph.nodeIds.Perm other.nodeIds := nodesPerm.map TopologyNode.topologyNodeId
  have sameAdj : adj graph = adj other := funext fun nodeId => adj_perm linksPerm nodeId
  simp only [findPath, idsPerm.mem_iff, idsPerm.length_eq, sameAdj]

end Order

/-! ## What metrics say -/

section Metrics

/-- The least of some bandwidths, unknown exactly where one of them is. -/
structure LeastOf (bandwidths : List (Option Int)) (metric : Option Int) : Prop where
  unknown_iff : metric = none ↔ none ∈ bandwidths
  least : ∀ bandwidth ∈ metric, some bandwidth ∈ bandwidths ∧
    ∀ other, some other ∈ bandwidths → bandwidth ≤ other

/-- The total of some latencies, unknown exactly where one of them is. -/
structure TotalOf (latencies : List (Option ℚ)) (metric : Option ℚ) : Prop where
  unknown_iff : metric = none ↔ none ∈ latencies
  total : ∀ latency ∈ metric, latency = latencies.reduceOption.sum

/-- The metrics are those of the links: the measured figure of a link counts before the declared
one, and each kind of figure also counts apart. -/
structure Measures (links : List TopologyLink) (metrics : PathMetrics) : Prop where
  bandwidth : LeastOf (links.map fun link =>
    link.measuredBandwidthBytesPerS <|> link.declaredBandwidthBytesPerS)
      metrics.bottleneckBandwidthBytesPerS
  latency : TotalOf (links.map fun link => link.measuredLatencyUs <|> link.declaredLatencyUs)
    metrics.aggregateLatencyUs
  declaredBandwidth : LeastOf (links.map TopologyLink.declaredBandwidthBytesPerS)
    metrics.declaredBottleneckBandwidthBytesPerS
  measuredBandwidth : LeastOf (links.map TopologyLink.measuredBandwidthBytesPerS)
    metrics.measuredBottleneckBandwidthBytesPerS
  declaredLatency : TotalOf (links.map TopologyLink.declaredLatencyUs)
    metrics.declaredAggregateLatencyUs
  measuredLatency : TotalOf (links.map TopologyLink.measuredLatencyUs)
    metrics.measuredAggregateLatencyUs

theorem mapM_id_eq_none_iff {α : Type} {items : List (Option α)} :
    items.mapM id = none ↔ none ∈ items := by
  induction items with
  | nil => simp
  | cons item items induction =>
      cases item with
      | none => simp [List.mapM_cons]
      | some value =>
          rw [List.mem_cons, ← induction]
          cases known : items.mapM id <;> simp [List.mapM_cons, known]

theorem leastOf_bottleneck {bandwidths : List (Option Int)} (some_link : bandwidths ≠ []) :
    LeastOf bandwidths (bottleneck bandwidths) := by
  rw [bottleneck]
  cases known : bandwidths.mapM id with
  | none =>
      exact ⟨iff_of_true rfl (mapM_id_eq_none_iff.mp known), fun _ impossible => nomatch impossible⟩
  | some values =>
      obtain rfl := mapM_id_eq_some_iff.mp known
      have some_value : values ≠ [] := by simpa using some_link
      constructor
      case unknown_iff => simpa using some_value
      case least =>
        intro bandwidth least
        obtain ⟨member, bound⟩ := List.min?_eq_some_iff.mp least
        exact ⟨List.mem_map_of_mem member, fun other inside => bound other (by simpa using inside)⟩

theorem totalOf_aggregate (latencies : List (Option ℚ)) :
    TotalOf latencies (aggregate latencies) := by
  rw [aggregate]
  cases known : latencies.mapM id with
  | none =>
      exact ⟨iff_of_true rfl (mapM_id_eq_none_iff.mp known), fun _ impossible => nomatch impossible⟩
  | some values =>
      obtain rfl := mapM_id_eq_some_iff.mp known
      constructor
      case unknown_iff => simp
      case total =>
        intro latency summed
        obtain rfl := Option.some_inj.mp summed
        simp [List.reduceOption]

theorem measures_metricsOf {links : List TopologyLink} (some_link : links ≠ []) :
    Measures links (metricsOf links) := by
  have some_field {α : Type} (field : TopologyLink → α) : links.map field ≠ [] := by
    simpa using some_link
  rw [metricsOf, if_neg some_link]
  exact ⟨leastOf_bottleneck (some_field _), totalOf_aggregate _, leastOf_bottleneck (some_field _),
    leastOf_bottleneck (some_field _), totalOf_aggregate _, totalOf_aggregate _⟩

/-- A path without links has no metrics, though no link lacks a figure. -/
theorem not_measures_metricsOf_nil : ¬ Measures [] (metricsOf []) := by
  intro measures
  have unknown : (metricsOf []).bottleneckBandwidthBytesPerS = none := rfl
  nomatch measures.bandwidth.unknown_iff.mp unknown

end Metrics

/-! ## Routing -/

section Law

variable (digest : Digest)

/-- What a search for a route, and the metrics of the route found, come to. -/
structure RoutingLaw : Prop where
  /-- A route is found exactly where a walk joins two nodes of the graph. -/
  found_iff : ∀ (graph : TopologyGraph digest) (sourceNodeId destinationNodeId : String),
    (∃ links, findPath graph sourceNodeId destinationNodeId = some links) ↔
      sourceNodeId ∈ graph.nodeIds ∧ destinationNodeId ∈ graph.nodeIds ∧
        ∃ nodeIds linkIds, WalksTo graph sourceNodeId destinationNodeId nodeIds linkIds
  /-- The route found is a shortest walk. -/
  shortest : ∀ (graph : TopologyGraph digest) (sourceNodeId destinationNodeId : String) links,
    findPath graph sourceNodeId destinationNodeId = some links →
      ∃ nodeIds, ShortestRoute graph sourceNodeId destinationNodeId links nodeIds
  /-- A build does not depend on the order of nodes and links. -/
  build_order : ∀ nodes others links otherLinks generation, List.Perm nodes others →
    List.Perm links otherLinks → buildTopologyGraph digest nodes links generation =
      buildTopologyGraph digest others otherLinks generation
  /-- The route found does not depend on their order in the graph either. -/
  order : ∀ graph other : TopologyGraph digest, graph.nodes.Perm other.nodes →
    graph.links.Perm other.links → findPath graph = findPath other
  /-- There are metrics where there is a route. -/
  metrics_iff : ∀ (graph : TopologyGraph digest) (sourceNodeId destinationNodeId : String),
    (∃ metrics, pathMetrics graph sourceNodeId destinationNodeId = some metrics) ↔
      ∃ links, findPath graph sourceNodeId destinationNodeId = some links
  /-- Where the route has links, they are the metrics of its links. -/
  measures : ∀ (graph : TopologyGraph digest) (sourceNodeId destinationNodeId : String) links
    metrics, findPath graph sourceNodeId destinationNodeId = some links →
      pathMetrics graph sourceNodeId destinationNodeId = some metrics → links ≠ [] →
        Measures links metrics
  /-- Where it has none, every metric is unknown. -/
  unmeasured : ∀ (graph : TopologyGraph digest) (sourceNodeId destinationNodeId : String) metrics,
    findPath graph sourceNodeId destinationNodeId = some [] →
      pathMetrics graph sourceNodeId destinationNodeId = some metrics → metrics = {}

/-- The route between two nodes is a shortest walk wherever they are joined, whatever the order of
nodes and links, and where it has links its metrics are theirs. -/
theorem routingLaw : RoutingLaw digest where
  found_iff _ _ _ := exists_findPath_iff_walksTo
  shortest _ _ _ _ found := exists_shortestRoute found
  build_order _ _ _ _ generation nodesPerm linksPerm :=
    buildTopologyGraph_perm nodesPerm linksPerm generation
  order _ _ nodesPerm linksPerm :=
    funext fun _ => funext fun _ => findPath_perm nodesPerm linksPerm _ _
  metrics_iff graph sourceNodeId destinationNodeId := by
    simp [pathMetrics]
  measures graph sourceNodeId destinationNodeId links metrics found measured some_link := by
    rw [pathMetrics, found] at measured
    obtain rfl := Option.some_inj.mp measured
    exact measures_metricsOf some_link
  unmeasured graph sourceNodeId destinationNodeId metrics found measured := by
    rw [pathMetrics, found] at measured
    exact (Option.some_inj.mp measured).symm

/-- From a node of the graph to itself there is a path without links. -/
theorem findPath_self {graph : TopologyGraph digest} {nodeId : String}
    (member : nodeId ∈ graph.nodeIds) : findPath graph nodeId nodeId = some [] := by
  simp [findPath, member]

end Law

/-! ## A node alone -/

section Alone

theorem loneNode_trimmed : ∀ text ∈ ["node", "profile"] ++ (none : Option String).toList,
    Text.Trimmed text := by
  decide

theorem loneNode_generation : ∀ generation ∈ (none : Option Int), 1 ≤ generation := by
  simp

theorem loneNode_unbound : (none : Option Int).isSome = (none : Option String).isSome := rfl

/-- A node alone. -/
def loneNode : TopologyNode where
  topologyNodeId := "node"
  hardwareProfileId := "profile"
  texts_trimmed := loneNode_trimmed
  generation_pos := loneNode_generation
  binding_complete := loneNode_unbound

theorem exists_loneGraph {digest : Digest} (hexadecimal : digest.Hexadecimal) :
    ∃ graph : TopologyGraph digest,
      graph.nodes = [loneNode] ∧ graph.links = [] ∧ graph.generation = 1 := by
  let fingerprint := topologyGraphFingerprint digest [loneNode] [] 1
  have trimmed : ∀ text ∈ [makeTopologyGraphId digest fingerprint, fingerprint],
      Text.Trimmed text := by
    simpa using ⟨hexadecimal.trimmed _, hexadecimal.trimmed _⟩
  exact ⟨⟨makeTopologyGraphId digest fingerprint, [loneNode], [], 1, fingerprint, le_rfl, trimmed,
    by simp, by simp, by simp, by simp, rfl, rfl⟩, rfl, rfl, rfl⟩

/-- The metrics of a path are not always the least and the total of its links: a path may have no
link. -/
theorem exists_path_not_measured :
    ∃ (graph : TopologyGraph Digest.sha256) (links : List TopologyLink) (metrics : PathMetrics),
      findPath graph "node" "node" = some links ∧
        pathMetrics graph "node" "node" = some metrics ∧ ¬ Measures links metrics := by
  obtain ⟨graph, nodes, _⟩ := exists_loneGraph Digest.sha256_hexadecimal
  have member : "node" ∈ graph.nodeIds := by simp [TopologyGraph.nodeIds, nodes, loneNode]
  have found := findPath_self Digest.sha256 member
  refine ⟨graph, [], metricsOf [], found, ?_, not_measures_metricsOf_nil⟩
  rw [pathMetrics, found]
  rfl

end Alone

end Topology
end MercuryX
