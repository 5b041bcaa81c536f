import MercuryX.Contracts

/-!
# Topology contracts

The nodes and links of a topology, the content-addressed graph that they form, and the
content-addressed result of a path query. Validated texts have no whitespace around them.
-/

namespace MercuryX
namespace Topology

open Foundation

/-! ## Enumerations -/

/-- The kind of a link. -/
inductive TopologyLinkKind where
  | pcie
  | nvlinkLike
  | highSpeedFabric
  | ethernet
  | infiniband
  | sharedMemory
  | unknown
  deriving DecidableEq, Repr

/-- The text of a link kind. -/
def TopologyLinkKind.value : TopologyLinkKind → String
  | pcie => "PCIE"
  | nvlinkLike => "NVLINK_LIKE"
  | highSpeedFabric => "HIGH_SPEED_FABRIC"
  | ethernet => "ETHERNET"
  | infiniband => "INFINIBAND"
  | sharedMemory => "SHARED_MEMORY"
  | unknown => "UNKNOWN"

/-- The smallest domain that two nodes share. -/
inductive LocalityDomain where
  | device
  | host
  | rack
  | zone
  | region
  | provider
  | unknown
  deriving DecidableEq, Repr

/-- The text of a locality domain. -/
def LocalityDomain.value : LocalityDomain → String
  | device => "DEVICE"
  | host => "HOST"
  | rack => "RACK"
  | zone => "ZONE"
  | region => "REGION"
  | provider => "PROVIDER"
  | unknown => "UNKNOWN"

/-- What is known about a path. -/
inductive TopologyCapabilityState where
  | available
  | unavailable
  | unknown
  deriving DecidableEq, Repr

/-- The text of a capability state. -/
def TopologyCapabilityState.value : TopologyCapabilityState → String
  | available => "AVAILABLE"
  | unavailable => "UNAVAILABLE"
  | unknown => "UNKNOWN"

/-! ## Nodes, links and graphs -/

/-- A place where segments may run, with the hardware profile that it is bound to. -/
structure TopologyNode where
  topologyNodeId : String
  hardwareProfileId : String
  hardwareProfileGeneration : Option Int := none
  hardwareProfileFingerprint : Option String := none
  hostId : Option String := none
  rackId : Option String := none
  zoneId : Option String := none
  regionId : Option String := none
  providerId : Option String := none
  active : Bool := true
  /-- Identity fields are nonblank and trimmed. -/
  texts_trimmed : ∀ text ∈ [topologyNodeId, hardwareProfileId] ++ hardwareProfileFingerprint.toList,
    Text.Trimmed text
  /-- Generations start at one. -/
  generation_pos : ∀ generation ∈ hardwareProfileGeneration, 1 ≤ generation
  /-- The binding to a generation of the profile is complete. -/
  binding_complete : hardwareProfileGeneration.isSome = hardwareProfileFingerprint.isSome

/-- The dump of a node. -/
def TopologyNode.dump (node : TopologyNode) : Json := .obj [
  ("topology_node_id", .str node.topologyNodeId),
  ("hardware_profile_id", .str node.hardwareProfileId),
  ("hardware_profile_generation", Json.optInt node.hardwareProfileGeneration),
  ("hardware_profile_fingerprint", Json.optStr node.hardwareProfileFingerprint),
  ("host_id", Json.optStr node.hostId), ("rack_id", Json.optStr node.rackId),
  ("zone_id", Json.optStr node.zoneId), ("region_id", Json.optStr node.regionId),
  ("provider_id", Json.optStr node.providerId), ("active", .bool node.active)]

/-- A connection between two nodes. -/
structure TopologyLink where
  topologyLinkId : String
  sourceNodeId : String
  destinationNodeId : String
  linkKind : TopologyLinkKind
  bidirectional : Bool
  declaredBandwidthBytesPerS : Option Int := none
  measuredBandwidthBytesPerS : Option Int := none
  declaredLatencyUs : Option ℚ := none
  measuredLatencyUs : Option ℚ := none
  evidenceIds : List String := []
  /-- Identity fields and evidence are nonblank and trimmed. -/
  texts_trimmed : ∀ text ∈ [topologyLinkId, sourceNodeId, destinationNodeId] ++ evidenceIds,
    Text.Trimmed text
  /-- Bandwidths are at least one. -/
  bandwidths_pos : ∀ field ∈ [declaredBandwidthBytesPerS, measuredBandwidthBytesPerS],
    ∀ bandwidth ∈ field, 1 ≤ bandwidth
  /-- Latencies are positive. -/
  latencies_pos : ∀ field ∈ [declaredLatencyUs, measuredLatencyUs], ∀ latency ∈ field, 0 < latency
  /-- Evidence stands in canonical form. -/
  evidence_canonical : canonical id evidenceIds = evidenceIds
  /-- A link joins two nodes. -/
  endpoints_apart : sourceNodeId ≠ destinationNodeId

/-- The dump of a link. -/
def TopologyLink.dump (link : TopologyLink) : Json := .obj [
  ("topology_link_id", .str link.topologyLinkId), ("source_node_id", .str link.sourceNodeId),
  ("destination_node_id", .str link.destinationNodeId), ("link_kind", .str link.linkKind.value),
  ("bidirectional", .bool link.bidirectional),
  ("declared_bandwidth_bytes_per_s", Json.optInt link.declaredBandwidthBytesPerS),
  ("measured_bandwidth_bytes_per_s", Json.optInt link.measuredBandwidthBytesPerS),
  ("declared_latency_us", Json.optFloat link.declaredLatencyUs),
  ("measured_latency_us", Json.optFloat link.measuredLatencyUs),
  ("evidence_ids", Json.strs link.evidenceIds)]

variable (digest : Digest)

/-- The fingerprint of a graph. -/
def topologyGraphFingerprint (nodes : List TopologyNode) (links : List TopologyLink)
    (generation : Int) : String :=
  digest.hexdigest (.obj [("nodes", .arr (nodes.map TopologyNode.dump)),
    ("links", .arr (links.map TopologyLink.dump)), ("generation", .int generation)])

/-- The identity of the graph with a fingerprint. -/
def makeTopologyGraphId (fingerprint : String) : String :=
  addressOf digest "topology_fingerprint" fingerprint

/-- A generation of the topology. -/
structure TopologyGraph where
  topologyGraphId : String
  nodes : List TopologyNode
  links : List TopologyLink
  generation : Int
  fingerprint : String
  /-- Generations start at one. -/
  generation_pos : 1 ≤ generation
  /-- Identity fields are nonblank and trimmed. -/
  texts_trimmed : ∀ text ∈ [topologyGraphId, fingerprint], Text.Trimmed text
  /-- There are nodes. -/
  nodes_nonempty : nodes ≠ []
  /-- Nodes have distinct ids. -/
  nodes_nodup : (nodes.map TopologyNode.topologyNodeId).Nodup
  /-- Links have distinct ids. -/
  links_nodup : (links.map TopologyLink.topologyLinkId).Nodup
  /-- Links join nodes of the graph. -/
  endpoints_mem : ∀ link ∈ links, ∀ nodeId ∈ [link.sourceNodeId, link.destinationNodeId],
    nodeId ∈ nodes.map TopologyNode.topologyNodeId
  /-- The fingerprint is that of the content. -/
  fingerprint_verified : fingerprint = topologyGraphFingerprint digest nodes links generation
  /-- The identity is that of the fingerprint. -/
  id_verified : topologyGraphId = makeTopologyGraphId digest fingerprint

/-! ## Path results -/

/-- The fields of a path result. -/
structure PathFields where
  graphId : String
  graphFingerprint : String
  graphGeneration : Int
  orderedNodeIds : List String
  orderedLinkIds : List String
  sourceNodeId : String
  destinationNodeId : String
  locality : LocalityDomain
  declaredAggregateLatencyUs : Option ℚ := none
  measuredAggregateLatencyUs : Option ℚ := none
  declaredBottleneckBandwidthBytesPerS : Option Int := none
  measuredBottleneckBandwidthBytesPerS : Option Int := none
  metricEvidenceIds : List String := []
  capabilityState : TopologyCapabilityState
  provenanceIds : List String := []

namespace PathFields

/-- The content that the fingerprint of a path result covers. -/
def payload (path : PathFields) : Json := .obj [
  ("schema_version", .str "mercury.topology-path/v1"), ("graph_id", .str path.graphId),
  ("graph_fingerprint", .str path.graphFingerprint),
  ("graph_generation", .int path.graphGeneration),
  ("ordered_node_ids", Json.strs path.orderedNodeIds),
  ("ordered_link_ids", Json.strs path.orderedLinkIds),
  ("source_node_id", .str path.sourceNodeId),
  ("destination_node_id", .str path.destinationNodeId), ("locality", .str path.locality.value),
  ("declared_aggregate_latency_us", Json.optFloat path.declaredAggregateLatencyUs),
  ("measured_aggregate_latency_us", Json.optFloat path.measuredAggregateLatencyUs),
  ("declared_bottleneck_bandwidth_bytes_per_s",
    Json.optInt path.declaredBottleneckBandwidthBytesPerS),
  ("measured_bottleneck_bandwidth_bytes_per_s",
    Json.optInt path.measuredBottleneckBandwidthBytesPerS),
  ("metric_evidence_ids", Json.strs path.metricEvidenceIds),
  ("capability_state", .str path.capabilityState.value),
  ("provenance_ids", Json.strs path.provenanceIds)]

/-- The fingerprint of a path result. -/
def fingerprint (path : PathFields) : String := digest.hexdigest path.payload

/-- The fields with whitespace stripped, and evidence and provenance in order. -/
def normalized (path : PathFields) : PathFields :=
  { path with
    graphId := Text.strip path.graphId
    graphFingerprint := Text.strip path.graphFingerprint
    orderedNodeIds := path.orderedNodeIds.map Text.strip
    orderedLinkIds := path.orderedLinkIds.map Text.strip
    sourceNodeId := Text.strip path.sourceNodeId
    destinationNodeId := Text.strip path.destinationNodeId
    metricEvidenceIds := sortOn id (path.metricEvidenceIds.map Text.strip)
    provenanceIds := sortOn id (path.provenanceIds.map Text.strip) }

end PathFields

/-- The result of a path query. -/
structure PathResult where
  pathResultId : String
  fields : PathFields
  fingerprint : String

/-- Construct a path result from its fields, its identity and its fingerprint. -/
def PathResult.construct (pathResultId : String) (fields : PathFields) (fingerprint : String) :
    Except Fault PathResult := do
  let contract := "PathResult"
  forEach (fun field => rule contract field.1 (Text.Nonblank field.2)
      (field.1 ++ " must be nonblank")) [("path_result_id", pathResultId),
    ("graph_id", fields.graphId), ("graph_fingerprint", fields.graphFingerprint),
    ("source_node_id", fields.sourceNodeId), ("destination_node_id", fields.destinationNodeId),
    ("fingerprint", fingerprint)]
  fieldGe contract "graph_generation" 1 fields.graphGeneration
  forEach (fun field => rule contract field.1 (∀ text ∈ field.2, Text.Nonblank text)
      (field.1 ++ " must be nonblank")) [("ordered_node_ids", fields.orderedNodeIds),
    ("ordered_link_ids", fields.orderedLinkIds),
    ("metric_evidence_ids", fields.metricEvidenceIds), ("provenance_ids", fields.provenanceIds)]
  forEach (fun field => forEach (fieldPositive contract field.1) field.2.toList) [
    ("declared_aggregate_latency_us", fields.declaredAggregateLatencyUs),
    ("measured_aggregate_latency_us", fields.measuredAggregateLatencyUs)]
  forEach (fun field => forEach (fieldGe contract field.1 1) field.2.toList) [
    ("declared_bottleneck_bandwidth_bytes_per_s", fields.declaredBottleneckBandwidthBytesPerS),
    ("measured_bottleneck_bandwidth_bytes_per_s", fields.measuredBottleneckBandwidthBytesPerS)]
  forEach (fun field => rule contract field.1 (field.2.map Text.strip).Nodup
      (field.1 ++ " contains duplicates")) [("metric_evidence_ids", fields.metricEvidenceIds),
    ("provenance_ids", fields.provenanceIds)]
  let kept := fields.normalized
  if kept.capabilityState = .available then
    rule contract "" (kept.orderedNodeIds.head? = some kept.sourceNodeId ∧
        kept.orderedNodeIds.getLast? = some kept.destinationNodeId)
      "available path endpoints do not match ordered nodes"
    rule contract "" (kept.orderedLinkIds.length = kept.orderedNodeIds.length - 1)
      "available path node/link shape mismatch"
  else
    rule contract "" (kept.orderedNodeIds = [] ∧ kept.orderedLinkIds = [])
      "unavailable or unknown path cannot contain route"
  rule contract "" (Text.strip fingerprint = kept.fingerprint digest)
    "path result fingerprint mismatch"
  rule contract "" (Text.strip pathResultId =
      addressOf digest "path_result" (kept.fingerprint digest)) "path result identity mismatch"
  return ⟨Text.strip pathResultId, kept, Text.strip fingerprint⟩

/-- Fields that are constructed as they stand. -/
structure PathFields.Fit (path : PathFields) : Prop where
  /-- Texts are nonblank and trimmed. -/
  texts_trimmed : ∀ text ∈ [path.graphId, path.graphFingerprint, path.sourceNodeId,
    path.destinationNodeId] ++ path.orderedNodeIds ++ path.orderedLinkIds ++
    path.metricEvidenceIds ++ path.provenanceIds, Text.Trimmed text
  /-- Generations start at one. -/
  generation_pos : 1 ≤ path.graphGeneration
  /-- Latencies are positive. -/
  latencies_pos : ∀ field ∈ [path.declaredAggregateLatencyUs, path.measuredAggregateLatencyUs],
    ∀ latency ∈ field, 0 < latency
  /-- Bandwidths are at least one. -/
  bandwidths_pos : ∀ field ∈ [path.declaredBottleneckBandwidthBytesPerS,
    path.measuredBottleneckBandwidthBytesPerS], ∀ bandwidth ∈ field, 1 ≤ bandwidth
  /-- Evidence and provenance stand in canonical form. -/
  evidence_canonical : ∀ texts ∈ [path.metricEvidenceIds, path.provenanceIds],
    canonical id texts = texts
  /-- The path is available, and its route leads from the source to the destination. -/
  available : path.capabilityState = .available
  /-- The nodes start at the source. -/
  starts : path.orderedNodeIds.head? = some path.sourceNodeId
  /-- The nodes end at the destination. -/
  ends : path.orderedNodeIds.getLast? = some path.destinationNodeId
  /-- There is a link between any two consecutive nodes. -/
  shape : path.orderedLinkIds.length = path.orderedNodeIds.length - 1

/-- Fields that are constructed as they stand, with or without a route. -/
structure PathFields.Settled (path : PathFields) : Prop where
  /-- Texts are nonblank and trimmed. -/
  texts_trimmed : ∀ text ∈ [path.graphId, path.graphFingerprint, path.sourceNodeId,
    path.destinationNodeId] ++ path.orderedNodeIds ++ path.orderedLinkIds ++
    path.metricEvidenceIds ++ path.provenanceIds, Text.Trimmed text
  /-- Generations start at one. -/
  generation_pos : 1 ≤ path.graphGeneration
  /-- Latencies are positive. -/
  latencies_pos : ∀ field ∈ [path.declaredAggregateLatencyUs, path.measuredAggregateLatencyUs],
    ∀ latency ∈ field, 0 < latency
  /-- Bandwidths are at least one. -/
  bandwidths_pos : ∀ field ∈ [path.declaredBottleneckBandwidthBytesPerS,
    path.measuredBottleneckBandwidthBytesPerS], ∀ bandwidth ∈ field, 1 ≤ bandwidth
  /-- Evidence and provenance stand in canonical form. -/
  evidence_canonical : ∀ texts ∈ [path.metricEvidenceIds, path.provenanceIds],
    canonical id texts = texts
  /-- The route of an available path leads from the source to the destination. -/
  route : path.capabilityState = .available →
    path.orderedNodeIds.head? = some path.sourceNodeId ∧
      path.orderedNodeIds.getLast? = some path.destinationNodeId ∧
      path.orderedLinkIds.length = path.orderedNodeIds.length - 1
  /-- No other path has a route. -/
  routeless : path.capabilityState ≠ .available →
    path.orderedNodeIds = [] ∧ path.orderedLinkIds = []

variable {digest}

theorem map_strip_of_trimmed {texts : List String}
    (trimmed : ∀ text ∈ texts, Text.Trimmed text) : texts.map Text.strip = texts := by
  conv_rhs => rw [← List.map_id texts]
  exact List.map_congr_left fun text member => (trimmed text member).strip_eq

theorem sortOn_of_canonical {texts : List String} (canonical_eq : canonical id texts = texts) :
    sortOn id texts = texts :=
  sortOn_eq_self id (canonical_eq ▸ canonical_pairwise id texts)

theorem PathFields.Fit.settled {path : PathFields} (fit : path.Fit) : path.Settled where
  texts_trimmed := fit.texts_trimmed
  generation_pos := fit.generation_pos
  latencies_pos := fit.latencies_pos
  bandwidths_pos := fit.bandwidths_pos
  evidence_canonical := fit.evidence_canonical
  route _ := ⟨fit.starts, fit.ends, fit.shape⟩
  routeless unavailable := absurd fit.available unavailable

theorem PathFields.Settled.normalized_eq {path : PathFields} (settled : path.Settled) :
    path.normalized = path := by
  have trimmed := settled.texts_trimmed
  simp only [List.cons_append, List.nil_append, List.forall_mem_cons, List.forall_mem_append]
    at trimmed
  obtain ⟨graph, fingerprint, source, destination, ⟨⟨nodes, links⟩, evidence⟩, provenance⟩ :=
    trimmed
  have evidenceSorted :=
    sortOn_of_canonical (settled.evidence_canonical path.metricEvidenceIds (by simp))
  have provenanceSorted :=
    sortOn_of_canonical (settled.evidence_canonical path.provenanceIds (by simp))
  simp [PathFields.normalized, graph.strip_eq, fingerprint.strip_eq, source.strip_eq,
    destination.strip_eq, map_strip_of_trimmed nodes, map_strip_of_trimmed links,
    map_strip_of_trimmed evidence, map_strip_of_trimmed provenance, evidenceSorted,
    provenanceSorted]

/-- Settled fields are never rejected under their own fingerprint and identity. -/
theorem PathResult.construct_of_settled (hexadecimal : digest.Hexadecimal) {path : PathFields}
    (settled : path.Settled) :
    PathResult.construct digest (addressOf digest "path_result" (path.fingerprint digest)) path
      (path.fingerprint digest) =
      .ok ⟨addressOf digest "path_result" (path.fingerprint digest), path,
        path.fingerprint digest⟩ := by
  have identityTrimmed : Text.Trimmed (addressOf digest "path_result" (path.fingerprint digest)) :=
    hexadecimal.trimmed _
  have fingerprintTrimmed : Text.Trimmed (path.fingerprint digest) := hexadecimal.trimmed _
  have trimmed := settled.texts_trimmed
  simp only [List.cons_append, List.nil_append, List.forall_mem_cons, List.forall_mem_append]
    at trimmed
  obtain ⟨graph, fingerprint, source, destination, ⟨⟨nodes, links⟩, evidence⟩, provenance⟩ :=
    trimmed
  have evidenceCanonical := settled.evidence_canonical path.metricEvidenceIds (by simp)
  have provenanceCanonical := settled.evidence_canonical path.provenanceIds (by simp)
  have evidenceDistinct : path.metricEvidenceIds.Nodup :=
    evidenceCanonical ▸ canonical_nodup id path.metricEvidenceIds
  have provenanceDistinct : path.provenanceIds.Nodup :=
    provenanceCanonical ▸ canonical_nodup id path.provenanceIds
  have latencies := settled.latencies_pos
  have bandwidths := settled.bandwidths_pos
  simp only [List.forall_mem_cons, List.not_mem_nil, false_implies, implies_true, and_true,
    Option.mem_def] at latencies bandwidths
  have identities : Text.Nonblank (addressOf digest "path_result" (path.fingerprint digest)) ∧
      Text.Nonblank path.graphId ∧ Text.Nonblank path.graphFingerprint ∧
      Text.Nonblank path.sourceNodeId ∧ Text.Nonblank path.destinationNodeId ∧
      Text.Nonblank (path.fingerprint digest) :=
    ⟨identityTrimmed.nonblank, graph.nonblank, fingerprint.nonblank, source.nonblank,
      destination.nonblank, fingerprintTrimmed.nonblank⟩
  have collections : (∀ text ∈ path.orderedNodeIds, Text.Nonblank text) ∧
      (∀ text ∈ path.orderedLinkIds, Text.Nonblank text) ∧
      (∀ text ∈ path.metricEvidenceIds, Text.Nonblank text) ∧
      ∀ text ∈ path.provenanceIds, Text.Nonblank text :=
    ⟨fun text member => (nodes text member).nonblank,
      fun text member => (links text member).nonblank,
      fun text member => (evidence text member).nonblank,
      fun text member => (provenance text member).nonblank⟩
  by_cases available : path.capabilityState = .available
  case pos =>
    obtain ⟨starts, ends, shape⟩ := settled.route available
    simp only [PathResult.construct, settled.normalized_eq, bind_eq_ok, forEach_eq_ok, rule_eq_ok,
      fieldGe_eq_ok, fieldPositive_eq_ok, pure_eq_ok, if_pos available,
      identityTrimmed.strip_eq, fingerprintTrimmed.strip_eq, List.forall_mem_cons,
      List.not_mem_nil, false_implies, implies_true,
      Option.mem_toList, map_strip_of_trimmed evidence, map_strip_of_trimmed provenance,
      exists_const, and_true]
    exact ⟨identities, settled.generation_pos, collections, latencies, bandwidths,
      ⟨evidenceDistinct, provenanceDistinct⟩, ⟨starts, ends⟩, shape⟩
  case neg =>
    simp only [PathResult.construct, settled.normalized_eq, bind_eq_ok, forEach_eq_ok, rule_eq_ok,
      fieldGe_eq_ok, fieldPositive_eq_ok, pure_eq_ok, if_neg available,
      identityTrimmed.strip_eq, fingerprintTrimmed.strip_eq, List.forall_mem_cons,
      List.not_mem_nil, false_implies, implies_true,
      Option.mem_toList, map_strip_of_trimmed evidence, map_strip_of_trimmed provenance,
      exists_const, and_true]
    exact ⟨identities, settled.generation_pos, collections, latencies, bandwidths,
      ⟨evidenceDistinct, provenanceDistinct⟩, settled.routeless available⟩

/-- Fitting fields are never rejected under their own fingerprint and identity. -/
theorem PathResult.construct_of_fit (hexadecimal : digest.Hexadecimal) {path : PathFields}
    (fit : path.Fit) :
    PathResult.construct digest (addressOf digest "path_result" (path.fingerprint digest)) path
      (path.fingerprint digest) =
      .ok ⟨addressOf digest "path_result" (path.fingerprint digest), path,
        path.fingerprint digest⟩ :=
  construct_of_settled hexadecimal fit.settled

end Topology
end MercuryX
