import MercuryX.Foundation.Dict
import MercuryX.Foundation.Routes
import MercuryX.Topology.Contracts

/-!
# Paths through a topology

The shortest route between two nodes, found breadth first over the links in order, its metrics,
and the path result that records it. A recorded route is a walk over links of the graph, and one
is recorded exactly when some walk joins the two nodes.
-/

namespace MercuryX
namespace Topology

open Foundation

variable {digest : Digest}

/-! ## Routes -/

/-- The neighbours of a node, each with the link that leads there. -/
def adj (graph : TopologyGraph digest) (nodeId : String) : List (String × TopologyLink) :=
  sortOn (fun entry => toLex (entry.1, entry.2.topologyLinkId)) (graph.links.flatMap fun link =>
    (if link.sourceNodeId = nodeId then [(link.destinationNodeId, link)] else []) ++
    if link.bidirectional = true ∧ link.destinationNodeId = nodeId then [(link.sourceNodeId, link)]
    else [])

/-- The ids of the nodes of a graph. -/
def TopologyGraph.nodeIds (graph : TopologyGraph digest) : List String :=
  graph.nodes.map TopologyNode.topologyNodeId

/-- The links of a shortest route between two nodes. -/
def findPath (graph : TopologyGraph digest) (sourceNodeId destinationNodeId : String) :
    Option (List TopologyLink) :=
  if sourceNodeId ∉ graph.nodeIds ∨ destinationNodeId ∉ graph.nodeIds then none
  else if sourceNodeId = destinationNodeId then some []
  else Routes.search (adj graph) destinationNodeId graph.nodeIds.length [sourceNodeId]
    [(sourceNodeId, [])]

/-- What is known about the path between two nodes. -/
def pathCapability (graph : TopologyGraph digest) (sourceNodeId destinationNodeId : String) :
    TopologyCapabilityState :=
  if sourceNodeId ∉ graph.nodeIds ∨ destinationNodeId ∉ graph.nodeIds then .unknown
  else if findPath graph sourceNodeId destinationNodeId = none then .unavailable
  else .available

/-! ## Metrics -/

/-- The metrics of a path. -/
structure PathMetrics where
  bottleneckBandwidthBytesPerS : Option Int := none
  aggregateLatencyUs : Option ℚ := none
  declaredBottleneckBandwidthBytesPerS : Option Int := none
  measuredBottleneckBandwidthBytesPerS : Option Int := none
  declaredAggregateLatencyUs : Option ℚ := none
  measuredAggregateLatencyUs : Option ℚ := none
  evidenceIds : List String := []

/-- The least bandwidth of some links, where all are known. -/
def bottleneck (bandwidths : List (Option Int)) : Option Int := bandwidths.mapM id >>= List.min?

/-- The total latency of some links, where all are known. -/
def aggregate (latencies : List (Option ℚ)) : Option ℚ := (latencies.mapM id).map List.sum

/-- The metrics of the links of a path. -/
def metricsOf (links : List TopologyLink) : PathMetrics :=
  if links = [] then {}
  else
    { bottleneckBandwidthBytesPerS := bottleneck (links.map fun link =>
        link.measuredBandwidthBytesPerS <|> link.declaredBandwidthBytesPerS)
      aggregateLatencyUs := aggregate (links.map fun link =>
        link.measuredLatencyUs <|> link.declaredLatencyUs)
      declaredBottleneckBandwidthBytesPerS :=
        bottleneck (links.map TopologyLink.declaredBandwidthBytesPerS)
      measuredBottleneckBandwidthBytesPerS :=
        bottleneck (links.map TopologyLink.measuredBandwidthBytesPerS)
      declaredAggregateLatencyUs := aggregate (links.map TopologyLink.declaredLatencyUs)
      measuredAggregateLatencyUs := aggregate (links.map TopologyLink.measuredLatencyUs)
      evidenceIds := canonical id (links.flatMap TopologyLink.evidenceIds) }

/-- The metrics of the path between two nodes. -/
def pathMetrics (graph : TopologyGraph digest) (sourceNodeId destinationNodeId : String) :
    Option PathMetrics :=
  (findPath graph sourceNodeId destinationNodeId).map metricsOf

/-- The domains that two nodes may share, the smallest first, with the field that names each. -/
def domains : List ((TopologyNode → Option String) × LocalityDomain) := [
  (TopologyNode.hostId, .host), (TopologyNode.rackId, .rack), (TopologyNode.zoneId, .zone),
  (TopologyNode.regionId, .region), (TopologyNode.providerId, .provider)]

/-- The smallest domain that two nodes share. -/
def classifyLocality (left right : TopologyNode) : LocalityDomain :=
  if left.topologyNodeId = right.topologyNodeId then .device
  else ((domains.find? fun domain =>
    domain.1 left ≠ none ∧ domain.1 left = domain.1 right).map Prod.snd).getD .unknown

/-! ## Path results -/

/-- The nodes that links pass, in order. -/
def orderedNodes : String → List TopologyLink → Except Fault (List String)
  | current, [] => .ok [current]
  | current, link :: links =>
      if link.sourceNodeId = current then do
        return current :: (← orderedNodes link.destinationNodeId links)
      else if link.bidirectional = true ∧ link.destinationNodeId = current then do
        return current :: (← orderedNodes link.sourceNodeId links)
      else .error (.value "path direction does not form an ordered route")

/-- The node of an id. -/
def nodeOf (graph : TopologyGraph digest) (nodeId : String) : Except Fault TopologyNode :=
  ((Dict.indexed TopologyNode.topologyNodeId graph.nodes).get? nodeId).elim
    (.error (.missingKey nodeId)) .ok

/-- The fields of a path result without a route. -/
def PathFields.routeless (graph : TopologyGraph digest) (sourceNodeId destinationNodeId : String)
    (provenanceIds : List String) : PathFields where
  graphId := graph.topologyGraphId
  graphFingerprint := graph.fingerprint
  graphGeneration := graph.generation
  orderedNodeIds := []
  orderedLinkIds := []
  sourceNodeId := sourceNodeId
  destinationNodeId := destinationNodeId
  locality := .unknown
  capabilityState := pathCapability graph sourceNodeId destinationNodeId
  provenanceIds := provenanceIds

/-- The fields of the path result between two nodes. -/
def pathFields (graph : TopologyGraph digest) (sourceNodeId destinationNodeId : String)
    (provenanceIds : List String) : Except Fault PathFields :=
  let routeless := PathFields.routeless graph sourceNodeId destinationNodeId provenanceIds
  if pathCapability graph sourceNodeId destinationNodeId = .available then do
    let links := (findPath graph sourceNodeId destinationNodeId).getD []
    let nodeIds ← orderedNodes sourceNodeId links
    let metrics := (pathMetrics graph sourceNodeId destinationNodeId).getD {}
    let source ← nodeOf graph sourceNodeId
    let destination ← nodeOf graph destinationNodeId
    return { routeless with
      orderedNodeIds := nodeIds
      orderedLinkIds := links.map TopologyLink.topologyLinkId
      locality := classifyLocality source destination
      declaredAggregateLatencyUs := metrics.declaredAggregateLatencyUs
      measuredAggregateLatencyUs := metrics.measuredAggregateLatencyUs
      declaredBottleneckBandwidthBytesPerS := metrics.declaredBottleneckBandwidthBytesPerS
      measuredBottleneckBandwidthBytesPerS := metrics.measuredBottleneckBandwidthBytesPerS
      metricEvidenceIds := metrics.evidenceIds }
  else .ok routeless

/-- The identity of the path result with a fingerprint. -/
def makePathResultId (digest : Digest) (fingerprint : String) : String :=
  addressOf digest "path_result" (Text.strip fingerprint)

/-- The result of a path query. -/
def buildPathResult (graph : TopologyGraph digest) (sourceNodeId destinationNodeId : String)
    (provenanceIds : List String) : Except Fault PathResult := do
  let fields ← pathFields graph sourceNodeId destinationNodeId provenanceIds
  let fingerprint := fields.fingerprint digest
  PathResult.construct digest (makePathResultId digest fingerprint) fields fingerprint

/-! ## Walks -/

/-- A link leads from one node to the other. -/
def TopologyLink.Joins (link : TopologyLink) (source destination : String) : Prop :=
  (link.sourceNodeId = source ∧ link.destinationNodeId = destination) ∨
    (link.bidirectional = true ∧ link.destinationNodeId = source ∧
      link.sourceNodeId = destination)

/-- Nodes of which any two consecutive ones are joined by the link of the graph between them. -/
inductive Walk (graph : TopologyGraph digest) : List String → List String → Prop where
  | stay (nodeId : String) : Walk graph [nodeId] []
  | step {link : TopologyLink} {nodeId next : String} {nodeIds linkIds : List String}
      (member : link ∈ graph.links) (joins : link.Joins nodeId next)
      (rest : Walk graph (next :: nodeIds) linkIds) :
      Walk graph (nodeId :: next :: nodeIds) (link.topologyLinkId :: linkIds)

theorem Walk.shape {graph : TopologyGraph digest} {nodeIds linkIds : List String}
    (walk : Walk graph nodeIds linkIds) : linkIds.length = nodeIds.length - 1 := by
  induction walk with
  | stay nodeId => rfl
  | step member joins rest induction => simpa using induction

variable {graph : TopologyGraph digest}

theorem mem_adj_iff {nodeId next : String} {link : TopologyLink} :
    (next, link) ∈ adj graph nodeId ↔ link ∈ graph.links ∧ link.Joins nodeId next := by
  simp only [adj, mem_sortOn, List.mem_flatMap, List.mem_append, TopologyLink.Joins]
  constructor
  · rintro ⟨found, member, forward | backward⟩
    · split at forward
      next starts =>
        obtain ⟨rfl, rfl⟩ := Prod.mk.inj (List.mem_singleton.mp forward)
        exact ⟨member, .inl ⟨starts, rfl⟩⟩
      next => exact absurd forward List.not_mem_nil
    · split at backward
      next ends =>
        obtain ⟨rfl, rfl⟩ := Prod.mk.inj (List.mem_singleton.mp backward)
        exact ⟨member, .inr ⟨ends.1, ends.2, rfl⟩⟩
      next => exact absurd backward List.not_mem_nil
  · rintro ⟨member, ⟨starts, rfl⟩ | ⟨both, ends, rfl⟩⟩
    · exact ⟨link, member, .inl (by simp [starts])⟩
    · exact ⟨link, member, .inr (by simp [both, ends])⟩

theorem adj_inside {nodeId : String} {edge : String × TopologyLink}
    (member : edge ∈ adj graph nodeId) : edge.1 ∈ graph.nodeIds := by
  obtain ⟨next, link⟩ := edge
  obtain ⟨linked, ⟨_, rfl⟩ | ⟨_, _, rfl⟩⟩ := mem_adj_iff.mp member
  · exact graph.endpoints_mem link linked _ (by simp)
  · exact graph.endpoints_mem link linked _ (by simp)

theorem orderedNodes_of_leads {source destination : String} {links : List TopologyLink}
    (leads : Routes.Leads (adj graph) source destination links) :
    ∃ nodeIds, orderedNodes source links = .ok (source :: nodeIds) ∧
      (source :: nodeIds).getLast? = some destination ∧
      Walk graph (source :: nodeIds) (links.map TopologyLink.topologyLinkId) := by
  induction links generalizing source with
  | nil =>
      obtain rfl := leads
      exact ⟨[], rfl, rfl, .stay source⟩
  | cons link links induction =>
      obtain ⟨next, edge, rest⟩ := leads
      obtain ⟨nodeIds, ordered, last, walk⟩ := induction rest
      obtain ⟨member, joins⟩ := mem_adj_iff.mp edge
      refine ⟨next :: nodeIds, ?_, by simpa using last, .step member joins walk⟩
      rcases joins with ⟨starts, rfl⟩ | ⟨both, ends, rfl⟩
      · simp [orderedNodes, starts, ordered]
      · have apart : link.sourceNodeId ≠ source := ends ▸ link.endpoints_apart
        simp [orderedNodes, apart, both, ends, ordered]

theorem Walk.reaches {nodeIds linkIds : List String} (walk : Walk graph nodeIds linkIds)
    {source destination : String} (starts : nodeIds.head? = some source)
    (ends : nodeIds.getLast? = some destination) :
    Relation.ReflTransGen (Routes.Adjacent (adj graph)) source destination := by
  induction walk generalizing source with
  | stay nodeId =>
      obtain rfl := Option.some_inj.mp starts
      obtain rfl := Option.some_inj.mp ends
      exact .refl
  | step member joins rest induction =>
      obtain rfl := Option.some_inj.mp starts
      have edge := mem_adj_iff.mpr ⟨member, joins⟩
      exact .head ⟨_, edge⟩ (induction rfl (by simpa using ends))

theorem Walk.inside {nodeIds linkIds : List String} (walk : Walk graph nodeIds linkIds)
    (starts : ∀ nodeId ∈ nodeIds.head?, nodeId ∈ graph.nodeIds) :
    ∀ nodeId ∈ nodeIds, nodeId ∈ graph.nodeIds := by
  induction walk with
  | stay nodeId => simpa using starts
  | step member joins rest induction =>
      have next := adj_inside (mem_adj_iff.mpr ⟨member, joins⟩)
      exact List.forall_mem_cons.mpr ⟨starts _ rfl, induction (by simpa using next)⟩

/-! ## The route found -/

section Found

variable {sourceNodeId destinationNodeId : String}

theorem mem_of_findPath {links : List TopologyLink}
    (found : findPath graph sourceNodeId destinationNodeId = some links) :
    sourceNodeId ∈ graph.nodeIds ∧ destinationNodeId ∈ graph.nodeIds := by
  by_contra outside
  rw [findPath, if_pos (by tauto)] at found
  nomatch found

theorem leads_of_findPath {links : List TopologyLink}
    (found : findPath graph sourceNodeId destinationNodeId = some links) :
    Routes.Leads (adj graph) sourceNodeId destinationNodeId links := by
  obtain ⟨sourceMem, destinationMem⟩ := mem_of_findPath found
  rw [findPath, if_neg (by simp [sourceMem, destinationMem])] at found
  split at found
  next same =>
    obtain rfl := Option.some_inj.mp found
    exact same
  next apart =>
    exact Routes.leads_of_search sourceMem apart (fun _ _ _ edge => adj_inside edge) found

/-- Between nodes of the graph, a route is found exactly when the source reaches the
destination. -/
theorem exists_findPath_iff (sourceMem : sourceNodeId ∈ graph.nodeIds)
    (destinationMem : destinationNodeId ∈ graph.nodeIds) :
    (∃ links, findPath graph sourceNodeId destinationNodeId = some links) ↔
      Relation.ReflTransGen (Routes.Adjacent (adj graph)) sourceNodeId destinationNodeId := by
  rw [findPath, if_neg (by simp [sourceMem, destinationMem])]
  split
  next same => exact iff_of_true ⟨[], rfl⟩ (same ▸ .refl)
  next apart => exact Routes.exists_search_iff sourceMem apart fun _ _ _ edge => adj_inside edge

theorem pathCapability_eq_available_iff :
    pathCapability graph sourceNodeId destinationNodeId = .available ↔
      ∃ links, findPath graph sourceNodeId destinationNodeId = some links := by
  rw [pathCapability]
  split
  next outside =>
    refine iff_of_false (by simp) ?_
    rintro ⟨links, found⟩
    obtain ⟨sourceMem, destinationMem⟩ := mem_of_findPath found
    exact outside.elim (absurd sourceMem) (absurd destinationMem)
  next inside =>
    rw [← Option.ne_none_iff_exists']
    split <;> simp_all

theorem pathCapability_eq_available_of_walk {nodeIds linkIds : List String}
    (walk : Walk graph nodeIds linkIds) (starts : nodeIds.head? = some sourceNodeId)
    (ends : nodeIds.getLast? = some destinationNodeId)
    (sourceMem : sourceNodeId ∈ graph.nodeIds)
    (destinationMem : destinationNodeId ∈ graph.nodeIds) :
    pathCapability graph sourceNodeId destinationNodeId = .available := by
  rw [pathCapability_eq_available_iff, exists_findPath_iff sourceMem destinationMem]
  exact walk.reaches starts ends

theorem nodeOf_eq_ok_iff {nodeId : String} {node : TopologyNode} :
    nodeOf graph nodeId = .ok node ↔ node ∈ graph.nodes ∧ node.topologyNodeId = nodeId := by
  rw [← Dict.indexed_get?_eq_some_iff graph.nodes_nodup, nodeOf]
  cases (Dict.indexed TopologyNode.topologyNodeId graph.nodes).get? nodeId <;> simp

theorem exists_nodeOf {nodeId : String} (member : nodeId ∈ graph.nodeIds) :
    ∃ node, nodeOf graph nodeId = .ok node := by
  obtain ⟨node, inside, rfl⟩ := List.mem_map.mp member
  exact ⟨node, nodeOf_eq_ok_iff.mpr ⟨inside, rfl⟩⟩

end Found

/-! ## Metrics of known links -/

theorem mapM_id_eq_some_iff {α : Type} {items : List (Option α)} {values : List α} :
    items.mapM id = some values ↔ items = values.map some := by
  rw [mapM_eq_some_iff, List.map_id]

/-- The least of known bandwidths is at least one where each of them is. -/
theorem le_of_bottleneck {bandwidths : List (Option Int)}
    (each : ∀ field ∈ bandwidths, ∀ bandwidth ∈ field, 1 ≤ bandwidth) :
    ∀ bandwidth ∈ bottleneck bandwidths, 1 ≤ bandwidth := by
  intro bandwidth least
  obtain ⟨values, known, minimum⟩ := Option.bind_eq_some_iff.mp least
  rw [mapM_id_eq_some_iff] at known
  have member := List.min?_mem minimum
  exact each (some bandwidth) (known ▸ List.mem_map_of_mem member) bandwidth rfl

/-- The sum of known latencies is positive where each of them is, and there are some. -/
theorem pos_of_aggregate {latencies : List (Option ℚ)} (some_link : latencies ≠ [])
    (each : ∀ field ∈ latencies, ∀ latency ∈ field, 0 < latency) :
    ∀ latency ∈ aggregate latencies, 0 < latency := by
  intro total summed
  obtain ⟨values, known, rfl⟩ := Option.map_eq_some_iff.mp summed
  rw [mapM_id_eq_some_iff] at known
  subst known
  have positive : ∀ latency ∈ values, 0 < latency := fun latency member =>
    each (some latency) (List.mem_map_of_mem member) latency rfl
  exact List.sum_pos values positive (by simpa using some_link)

theorem metricsOf_bandwidths (links : List TopologyLink) :
    ∀ field ∈ [(metricsOf links).declaredBottleneckBandwidthBytesPerS,
      (metricsOf links).measuredBottleneckBandwidthBytesPerS], ∀ bandwidth ∈ field,
        1 ≤ bandwidth := by
  rw [metricsOf]
  split
  next => simp
  next =>
    refine List.forall_mem_cons.mpr ⟨le_of_bottleneck ?_,
      List.forall_mem_singleton.mpr (le_of_bottleneck ?_)⟩
    · exact List.forall_mem_map.mpr fun link _ => link.bandwidths_pos _ (by simp)
    · exact List.forall_mem_map.mpr fun link _ => link.bandwidths_pos _ (by simp)

theorem metricsOf_latencies (links : List TopologyLink) :
    ∀ field ∈ [(metricsOf links).declaredAggregateLatencyUs,
      (metricsOf links).measuredAggregateLatencyUs], ∀ latency ∈ field, 0 < latency := by
  rw [metricsOf]
  split
  next => simp
  next some_link =>
    refine List.forall_mem_cons.mpr ⟨pos_of_aggregate (by simpa using some_link) ?_,
      List.forall_mem_singleton.mpr (pos_of_aggregate (by simpa using some_link) ?_)⟩
    · exact List.forall_mem_map.mpr fun link _ => link.latencies_pos _ (by simp)
    · exact List.forall_mem_map.mpr fun link _ => link.latencies_pos _ (by simp)

theorem metricsOf_evidence (links : List TopologyLink) :
    canonical id (metricsOf links).evidenceIds = (metricsOf links).evidenceIds ∧
      ∀ text ∈ (metricsOf links).evidenceIds, Text.Trimmed text := by
  rw [metricsOf]
  split
  next => exact ⟨rfl, by simp⟩
  next =>
    refine ⟨canonical_canonical id _, fun text member => ?_⟩
    obtain ⟨link, _, inside⟩ := List.mem_flatMap.mp ((mem_canonical id).mp member)
    exact link.texts_trimmed text (List.mem_append_right _ inside)

/-! ## Built results -/

theorem trimmed_of_mem_nodeIds {nodeId : String} (member : nodeId ∈ graph.nodeIds) :
    Text.Trimmed nodeId := by
  obtain ⟨node, _, rfl⟩ := List.mem_map.mp member
  exact node.texts_trimmed _ (by simp)

theorem Walk.trimmed {nodeIds linkIds : List String} (walk : Walk graph nodeIds linkIds) :
    ∀ linkId ∈ linkIds, Text.Trimmed linkId := by
  induction walk with
  | stay nodeId => simp
  | @step link _ _ _ _ member joins rest induction =>
      exact List.forall_mem_cons.mpr ⟨link.texts_trimmed _ (by simp), induction⟩

/-- The fields of a path result hold the route found between two nodes, a walk from the source to
the destination. -/
structure HoldsRoute (graph : TopologyGraph digest) (sourceNodeId destinationNodeId : String)
    (fields : PathFields) : Prop where
  /-- The nodes are those that the links found pass. -/
  found : ∀ links, findPath graph sourceNodeId destinationNodeId = some links →
    orderedNodes sourceNodeId links = .ok fields.orderedNodeIds
  /-- The walk starts at the source. -/
  starts : fields.orderedNodeIds.head? = some sourceNodeId
  /-- The walk ends at the destination. -/
  ends : fields.orderedNodeIds.getLast? = some destinationNodeId
  /-- The links join the nodes. -/
  walk : Walk graph fields.orderedNodeIds fields.orderedLinkIds

theorem pathFields_of_available {sourceNodeId destinationNodeId : String}
    (available : pathCapability graph sourceNodeId destinationNodeId = .available) :
    ∃ fields, pathFields graph sourceNodeId destinationNodeId [] = .ok fields ∧ fields.Fit ∧
      HoldsRoute graph sourceNodeId destinationNodeId fields := by
  obtain ⟨links, found⟩ := pathCapability_eq_available_iff.mp available
  obtain ⟨sourceMem, destinationMem⟩ := mem_of_findPath found
  obtain ⟨nodeIds, ordered, last, walk⟩ := orderedNodes_of_leads (leads_of_findPath found)
  obtain ⟨source, sourceFound⟩ := exists_nodeOf sourceMem
  obtain ⟨destination, destinationFound⟩ := exists_nodeOf destinationMem
  simp only [pathFields, available, found, Option.getD_some, ordered, sourceFound,
    destinationFound, pathMetrics, Option.map_some, ok_bind, pure_eq_ok, if_true, Except.ok.injEq,
    exists_eq_left']
  refine ⟨?_, ⟨fun other same => ?_, rfl, last, walk⟩⟩
  case refine_2 =>
    obtain rfl := Option.some_inj.mp (found.symm.trans same)
    exact ordered
  have evidence := metricsOf_evidence links
  have nodesInside := walk.inside (by simpa using sourceMem)
  constructor
  case texts_trimmed =>
    simp only [List.cons_append, List.nil_append, List.forall_mem_cons, List.forall_mem_append,
      PathFields.routeless]
    exact ⟨graph.texts_trimmed _ (by simp), graph.texts_trimmed _ (by simp),
      trimmed_of_mem_nodeIds sourceMem, trimmed_of_mem_nodeIds destinationMem,
      trimmed_of_mem_nodeIds sourceMem, ⟨⟨fun nodeId member => trimmed_of_mem_nodeIds
        (nodesInside nodeId (List.mem_cons_of_mem _ member)), walk.trimmed⟩, evidence.2⟩, by simp⟩
  case generation_pos => exact graph.generation_pos
  case latencies_pos => exact metricsOf_latencies links
  case bandwidths_pos => exact metricsOf_bandwidths links
  case evidence_canonical =>
    exact List.forall_mem_cons.mpr ⟨evidence.1, by simp [canonical, sortOn, PathFields.routeless]⟩
  case available => exact available
  case starts => rfl
  case ends => exact last
  case shape => exact walk.shape

/-- Where a path is available, a path result is built, and it holds the route found. -/
theorem exists_buildPathResult (hexadecimal : digest.Hexadecimal)
    {sourceNodeId destinationNodeId : String}
    (available : pathCapability graph sourceNodeId destinationNodeId = .available) :
    ∃ path, buildPathResult graph sourceNodeId destinationNodeId [] = .ok path ∧ path.fields.Fit ∧
      path.pathResultId = addressOf digest "path_result" path.fingerprint ∧
      path.fingerprint = path.fields.fingerprint digest ∧
      HoldsRoute graph sourceNodeId destinationNodeId path.fields := by
  obtain ⟨fields, made, fit, holds⟩ := pathFields_of_available available
  have kept : Text.strip (fields.fingerprint digest) = fields.fingerprint digest :=
    (hexadecimal.trimmed _).strip_eq
  refine ⟨⟨addressOf digest "path_result" (fields.fingerprint digest), fields,
    fields.fingerprint digest⟩, ?_, fit, rfl, rfl, holds⟩
  simp only [buildPathResult, made, ok_bind, makePathResultId, kept,
    PathResult.construct_of_fit hexadecimal fit]

end Topology
end MercuryX
