import MercuryX.Foundation.Numerals
import MercuryX.Topology.Routing

/-!
# Path results

A path result is sealed over its fields as they are drafted and checked over its fields as they are
validated, with whitespace stripped and provenance in order. It is built, and stays valid for its
graph alone, exactly where validation changes nothing.
-/

namespace MercuryX
namespace Topology

open Foundation

deriving instance DecidableEq for PathFields
deriving instance DecidableEq for PathResult

variable {digest : Digest}

/-- Validate a path result against the current graph. -/
def validateCurrentPathResult (pathResult : PathResult) (graph : TopologyGraph digest) :
    Except Fault PathResult := do
  let pathResult ←
    PathResult.construct digest pathResult.pathResultId pathResult.fields pathResult.fingerprint
  require (pathResult.fields.graphId = graph.topologyGraphId ∧
      pathResult.fields.graphFingerprint = graph.fingerprint ∧
      pathResult.fields.graphGeneration = graph.generation)
    (.value "stale path result graph generation")
  let current ← buildPathResult graph pathResult.fields.sourceNodeId
    pathResult.fields.destinationNodeId pathResult.fields.provenanceIds
  require (current = pathResult) (.value "stale path result does not match current graph")
  return pathResult

/-! ## Drafted fields -/

section Drafts

variable {graph : TopologyGraph digest} {sourceNodeId destinationNodeId : String}

theorem pathFields_eq_map (provenanceIds : List String) :
    pathFields graph sourceNodeId destinationNodeId provenanceIds = (do
      let fields ← pathFields graph sourceNodeId destinationNodeId []
      return { fields with provenanceIds := provenanceIds }) := by
  simp only [pathFields]
  split
  next => simp only [bind_assoc, pure_bind, PathFields.routeless]
  next => rfl

/-- What the fields of a path result say about the graph and the nodes that it is for. -/
structure Drafted (graph : TopologyGraph digest) (sourceNodeId destinationNodeId : String)
    (fields : PathFields) : Prop where
  graphId : fields.graphId = graph.topologyGraphId
  graphFingerprint : fields.graphFingerprint = graph.fingerprint
  graphGeneration : fields.graphGeneration = graph.generation
  source : fields.sourceNodeId = sourceNodeId
  destination : fields.destinationNodeId = destinationNodeId

theorem drafted_of_pathFields {provenanceIds : List String} {fields : PathFields}
    (made : pathFields graph sourceNodeId destinationNodeId provenanceIds = .ok fields) :
    Drafted graph sourceNodeId destinationNodeId fields ∧ fields.provenanceIds = provenanceIds := by
  rw [pathFields] at made
  split at made
  next =>
    simp only [bind_eq_ok, pure_eq_ok] at made
    obtain ⟨nodeIds, _, source, _, destination, _, same⟩ := made
    obtain rfl := Except.ok.inj same
    exact ⟨⟨rfl, rfl, rfl, rfl, rfl⟩, rfl⟩
  next =>
    obtain rfl := Except.ok.inj made
    exact ⟨⟨rfl, rfl, rfl, rfl, rfl⟩, rfl⟩

/-- Fields are drafted for any two nodes, and between trimmed ids they are settled up to their
provenance. -/
theorem exists_pathFields (graph : TopologyGraph digest) (sourceNodeId destinationNodeId : String) :
    ∃ fields, pathFields graph sourceNodeId destinationNodeId [] = .ok fields ∧
      (Text.Trimmed sourceNodeId → Text.Trimmed destinationNodeId → fields.Settled) := by
  by_cases available : pathCapability graph sourceNodeId destinationNodeId = .available
  case pos =>
    obtain ⟨fields, made, fit, _⟩ := pathFields_of_available available
    exact ⟨fields, made, fun _ _ => fit.settled⟩
  case neg =>
    refine ⟨_, if_neg available, fun sourceTrimmed destinationTrimmed => ?_⟩
    have graphTrimmed := graph.texts_trimmed
    simp only [List.forall_mem_cons, List.not_mem_nil, false_implies, implies_true, and_true]
      at graphTrimmed
    constructor
    case texts_trimmed =>
      simpa [PathFields.routeless] using
        ⟨graphTrimmed.1, graphTrimmed.2, sourceTrimmed, destinationTrimmed⟩
    case generation_pos => exact graph.generation_pos
    case latencies_pos => simp [PathFields.routeless]
    case bandwidths_pos => simp [PathFields.routeless]
    case evidence_canonical => simp [PathFields.routeless, canonical, sortOn]
    case route => exact fun reachable => absurd reachable available
    case routeless => exact fun _ => ⟨rfl, rfl⟩

theorem settled_of_provenance {fields : PathFields} (settled : fields.Settled)
    {provenanceIds : List String} (trimmed : ∀ text ∈ provenanceIds, Text.Trimmed text)
    (canonical_eq : canonical id provenanceIds = provenanceIds) :
    { fields with provenanceIds := provenanceIds : PathFields }.Settled where
  texts_trimmed := by
    have others := settled.texts_trimmed
    rw [List.forall_mem_append] at others ⊢
    exact ⟨others.1, trimmed⟩
  generation_pos := settled.generation_pos
  latencies_pos := settled.latencies_pos
  bandwidths_pos := settled.bandwidths_pos
  evidence_canonical :=
    List.forall_mem_cons.mpr ⟨settled.evidence_canonical _ (by simp), by simpa using canonical_eq⟩
  route := settled.route
  routeless := settled.routeless

end Drafts

/-! ## Sealing -/

section Sealing

variable {graph : TopologyGraph digest} {sourceNodeId destinationNodeId : String}

/-- Fields that are constructed under the fingerprint of their draft have the same fingerprint once
validated, nonblank ends and distinct provenance. -/
theorem fingerprint_of_construct (hexadecimal : digest.Hexadecimal) {pathResultId : String}
    {fields : PathFields} {result : PathResult}
    (constructed : PathResult.construct digest pathResultId fields (fields.fingerprint digest) =
      .ok result) :
    fields.fingerprint digest = fields.normalized.fingerprint digest ∧
      Text.Nonblank fields.sourceNodeId ∧ Text.Nonblank fields.destinationNodeId ∧
      (∀ text ∈ fields.provenanceIds, Text.Nonblank text) ∧ fields.provenanceIds.Nodup := by
  have kept : Text.strip (fields.fingerprint digest) = fields.fingerprint digest :=
    (hexadecimal.trimmed _).strip_eq
  simp only [PathResult.construct, bind_eq_ok, forEach_eq_ok, rule_eq_ok, fieldGe_eq_ok,
    fieldPositive_eq_ok, List.forall_mem_cons, exists_const, kept] at constructed
  obtain ⟨⟨_, _, _, source, destination, _⟩, _, ⟨_, _, _, provenance, _⟩, _, _, ⟨_, distinct, _⟩,
    rest⟩ := constructed
  refine ⟨?_, source, destination, provenance, distinct.of_map⟩
  split at rest
  · simp only [bind_eq_ok, rule_eq_ok, exists_const] at rest
    obtain ⟨_, _, same, _⟩ := rest
    exact same
  · simp only [bind_eq_ok, rule_eq_ok, exists_const] at rest
    obtain ⟨_, same, _⟩ := rest
    exact same

/-- Contents agree only where the ends and the provenance do. -/
theorem eq_of_payload_eq {fields others : PathFields} (same : fields.payload = others.payload) :
    fields.sourceNodeId = others.sourceNodeId ∧
      fields.destinationNodeId = others.destinationNodeId ∧
      fields.provenanceIds = others.provenanceIds := by
  simp only [PathFields.payload, Json.obj.injEq, List.cons.injEq, Prod.mk.injEq, Json.str.injEq,
    true_and, and_true] at same
  obtain ⟨_, _, _, _, _, source, destination, _, _, _, _, _, _, _, provenance⟩ := same
  exact ⟨source, destination, Json.strs_injective provenance⟩

/-- Drafts have no collision: where a draft of the path result, its provenance in any order, has the
fingerprint of the validated fields, it has their content. -/
def DraftsApart (graph : TopologyGraph digest) (sourceNodeId destinationNodeId : String)
    (provenanceIds : List String) : Prop :=
  ∀ others fields, List.Perm others provenanceIds →
    pathFields graph sourceNodeId destinationNodeId others = .ok fields →
      fields.fingerprint digest = fields.normalized.fingerprint digest →
        fields.payload = fields.normalized.payload

theorem trimmed_of_build (hexadecimal : digest.Hexadecimal) {provenanceIds others : List String}
    (apart : DraftsApart graph sourceNodeId destinationNodeId provenanceIds)
    (perm : others.Perm provenanceIds) {result : PathResult}
    (built : buildPathResult graph sourceNodeId destinationNodeId others = .ok result) :
    Text.Trimmed sourceNodeId ∧ Text.Trimmed destinationNodeId ∧
      (∀ text ∈ others, Text.Trimmed text) ∧ others.Nodup ∧ others.Pairwise (· ≤ ·) := by
  obtain ⟨fields, made, constructed⟩ := bind_eq_ok.mp built
  obtain ⟨drafted, provenance⟩ := drafted_of_pathFields made
  obtain ⟨sealed, source, destination, visible, distinct⟩ :=
    fingerprint_of_construct hexadecimal constructed
  obtain ⟨sourceKept, destinationKept, provenanceKept⟩ :=
    eq_of_payload_eq (apart others fields perm made sealed)
  rw [drafted.source] at source
  rw [drafted.destination] at destination
  rw [provenance] at visible distinct
  simp only [PathFields.normalized, drafted.source, drafted.destination, provenance]
    at sourceKept destinationKept provenanceKept
  refine ⟨⟨source, sourceKept.symm⟩, ⟨destination, destinationKept.symm⟩, fun text member => ?_,
    distinct, ?_⟩
  · have stripped := member
    rw [provenanceKept, mem_sortOn, List.mem_map] at stripped
    obtain ⟨_, _, rfl⟩ := stripped
    exact ⟨visible _ member, Text.strip_strip _⟩
  · rw [provenanceKept]
    exact sortOn_pairwise id _

theorem length_le_one_of_sorted {texts : List String} (distinct : texts.Nodup)
    (sorted : texts.Pairwise (· ≤ ·)) (reversed : texts.reverse.Pairwise (· ≤ ·)) :
    texts.length ≤ 1 := by
  match texts with
  | [] => exact Nat.zero_le _
  | [_] => exact le_rfl
  | first :: second :: rest =>
      have below := (List.pairwise_cons.mp sorted).1 second List.mem_cons_self
      have above := (List.pairwise_cons.mp (List.pairwise_reverse.mp reversed)).1 second
        List.mem_cons_self
      have same : first = second := le_antisymm below above
      exact absurd (same ▸ List.mem_cons_self) (List.nodup_cons.mp distinct).1

end Sealing

/-! ## Current results -/

section Results

variable {graph : TopologyGraph digest} {sourceNodeId destinationNodeId : String}

/-- A path result that is current for its graph alone, whatever the order of its provenance. -/
structure Current (graph : TopologyGraph digest) (sourceNodeId destinationNodeId : String)
    (provenanceIds : List String) (result : PathResult) : Prop where
  /-- It is built over the provenance in any order. -/
  built : ∀ others, List.Perm others provenanceIds →
    buildPathResult graph sourceNodeId destinationNodeId others = .ok result
  /-- It is accepted for its graph. -/
  accepted : validateCurrentPathResult result graph = .ok result
  /-- It is stale for a graph with another fingerprint or generation. -/
  rejected : ∀ other : TopologyGraph digest,
    other.fingerprint ≠ graph.fingerprint ∨ other.generation ≠ graph.generation →
      validateCurrentPathResult result other =
        .error (.value "stale path result graph generation")

theorem build_of_settled (hexadecimal : digest.Hexadecimal) {provenanceIds : List String}
    {fields : PathFields}
    (made : pathFields graph sourceNodeId destinationNodeId provenanceIds = .ok fields)
    (settled : fields.Settled) :
    buildPathResult graph sourceNodeId destinationNodeId provenanceIds =
      .ok ⟨addressOf digest "path_result" (fields.fingerprint digest), fields,
        fields.fingerprint digest⟩ := by
  have kept : Text.strip (fields.fingerprint digest) = fields.fingerprint digest :=
    (hexadecimal.trimmed _).strip_eq
  simp only [buildPathResult, made, ok_bind, makePathResultId, kept,
    PathResult.construct_of_settled hexadecimal settled]

theorem validate_of_settled (hexadecimal : digest.Hexadecimal) {provenanceIds : List String}
    {fields : PathFields}
    (made : pathFields graph sourceNodeId destinationNodeId provenanceIds = .ok fields)
    (settled : fields.Settled) :
    validateCurrentPathResult ⟨addressOf digest "path_result" (fields.fingerprint digest), fields,
        fields.fingerprint digest⟩ graph =
      .ok ⟨addressOf digest "path_result" (fields.fingerprint digest), fields,
        fields.fingerprint digest⟩ := by
  obtain ⟨drafted, provenance⟩ := drafted_of_pathFields made
  have built := build_of_settled hexadecimal made settled
  simp only [validateCurrentPathResult, PathResult.construct_of_settled hexadecimal settled,
    ok_bind, bind_eq_ok, require_eq_ok, exists_const, drafted.source, drafted.destination,
    provenance, built]
  exact ⟨⟨drafted.graphId, drafted.graphFingerprint, drafted.graphGeneration⟩, trivial, rfl⟩

theorem stale_of_settled (hexadecimal : digest.Hexadecimal) {provenanceIds : List String}
    {fields : PathFields}
    (made : pathFields graph sourceNodeId destinationNodeId provenanceIds = .ok fields)
    (settled : fields.Settled) {other : TopologyGraph digest}
    (changed : other.fingerprint ≠ graph.fingerprint ∨ other.generation ≠ graph.generation) :
    validateCurrentPathResult ⟨addressOf digest "path_result" (fields.fingerprint digest), fields,
        fields.fingerprint digest⟩ other =
      .error (.value "stale path result graph generation") := by
  obtain ⟨drafted, _⟩ := drafted_of_pathFields made
  have stale : ¬ (fields.graphId = other.topologyGraphId ∧
      fields.graphFingerprint = other.fingerprint ∧ fields.graphGeneration = other.generation) := by
    rintro ⟨_, fingerprint, generation⟩
    rcases changed with changed | changed
    · exact changed (fingerprint.symm.trans drafted.graphFingerprint)
    · exact changed (generation.symm.trans drafted.graphGeneration)
  simp only [validateCurrentPathResult, PathResult.construct_of_settled hexadecimal settled,
    ok_bind, require, if_neg stale]
  rfl

/-- At most one id of provenance can be given in one order only. -/
theorem eq_of_perm_of_short {provenanceIds others : List String} (short : provenanceIds.length ≤ 1)
    (perm : others.Perm provenanceIds) : others = provenanceIds := by
  match provenanceIds with
  | [] => exact perm.eq_nil
  | [_] => exact perm.eq_singleton

theorem canonical_of_short {provenanceIds : List String} (short : provenanceIds.length ≤ 1) :
    canonical id provenanceIds = provenanceIds := by
  match provenanceIds with
  | [] => exact canonical_eq_self id List.nodup_nil .nil
  | [only] => exact canonical_eq_self id (List.nodup_singleton only) (List.pairwise_singleton _ _)

/-- Between trimmed ids, over at most one trimmed id of provenance, settled fields are drafted. -/
theorem exists_settled_pathFields (graph : TopologyGraph digest)
    {sourceNodeId destinationNodeId : String} {provenanceIds : List String}
    (source : Text.Trimmed sourceNodeId) (destination : Text.Trimmed destinationNodeId)
    (short : provenanceIds.length ≤ 1)
    (trimmed : ∀ provenanceId ∈ provenanceIds, Text.Trimmed provenanceId) :
    ∃ fields, pathFields graph sourceNodeId destinationNodeId provenanceIds = .ok fields ∧
      fields.Settled := by
  obtain ⟨unsourced, made, settled⟩ := exists_pathFields graph sourceNodeId destinationNodeId
  refine ⟨_, ?_, settled_of_provenance (settled source destination) trimmed
    (canonical_of_short short)⟩
  rw [pathFields_eq_map, made]
  rfl

/-- There is a path result that is current for its graph alone, whatever the order of its
provenance, exactly where the node ids are trimmed and the provenance is at most one trimmed id. -/
theorem exists_current_iff (hexadecimal : digest.Hexadecimal) (graph : TopologyGraph digest)
    (sourceNodeId destinationNodeId : String) (provenanceIds : List String)
    (apart : DraftsApart graph sourceNodeId destinationNodeId provenanceIds) :
    (∃ result, Current graph sourceNodeId destinationNodeId provenanceIds result) ↔
      Text.Trimmed sourceNodeId ∧ Text.Trimmed destinationNodeId ∧ provenanceIds.length ≤ 1 ∧
        ∀ provenanceId ∈ provenanceIds, Text.Trimmed provenanceId := by
  constructor
  · rintro ⟨result, current⟩
    obtain ⟨source, destination, trimmed, distinct, sorted⟩ :=
      trimmed_of_build hexadecimal apart (.refl _) (current.built _ (.refl _))
    obtain ⟨_, _, _, _, reversed⟩ := trimmed_of_build hexadecimal apart
      (List.reverse_perm _) (current.built _ (List.reverse_perm _))
    exact ⟨source, destination, length_le_one_of_sorted distinct sorted reversed, trimmed⟩
  · rintro ⟨source, destination, short, trimmed⟩
    obtain ⟨fields, made, settled⟩ :=
      exists_settled_pathFields graph source destination short trimmed
    refine ⟨_, fun others perm => ?_, validate_of_settled hexadecimal made settled,
      fun other changed => stale_of_settled hexadecimal made settled changed⟩
    rw [eq_of_perm_of_short short perm]
    exact build_of_settled hexadecimal made settled

/-- Drafts that validation leaves as they are have no collision. -/
theorem draftsApart_of_short (graph : TopologyGraph digest)
    {sourceNodeId destinationNodeId : String} {provenanceIds : List String}
    (source : Text.Trimmed sourceNodeId) (destination : Text.Trimmed destinationNodeId)
    (short : provenanceIds.length ≤ 1)
    (trimmed : ∀ provenanceId ∈ provenanceIds, Text.Trimmed provenanceId) :
    DraftsApart graph sourceNodeId destinationNodeId provenanceIds := by
  intro others fields perm made _
  obtain ⟨drafted, same, settled⟩ :=
    exists_settled_pathFields graph source destination short trimmed
  rw [eq_of_perm_of_short short perm] at made
  obtain rfl := Except.ok.inj (made.symm.trans same)
  rw [settled.normalized_eq]

/-- Over one id of provenance a path result is current for its graph. -/
theorem exists_current_probe :
    ∃ (graph : TopologyGraph Digest.sha256) (result : PathResult),
      Current graph "node" "node" ["topology-probe"] result := by
  obtain ⟨graph, _⟩ := exists_loneGraph Digest.sha256_hexadecimal
  have node : Text.Trimmed "node" := by decide
  have probe : ∀ provenanceId ∈ ["topology-probe"], Text.Trimmed provenanceId := by decide
  exact ⟨graph, (exists_current_iff Digest.sha256_hexadecimal graph "node" "node"
    ["topology-probe"] (draftsApart_of_short graph node node le_rfl probe)).mpr
      ⟨node, node, le_rfl, probe⟩⟩

end Results

/-! ## A node alone -/

section Alone

/-- The fingerprint of the graph of a node alone. -/
def loneFingerprint : String := topologyGraphFingerprint Digest.sha256 [loneNode] [] 1

/-- The draft of the path result from a node alone to itself. -/
def loneFields (provenanceIds : List String) : PathFields where
  graphId := makeTopologyGraphId Digest.sha256 loneFingerprint
  graphFingerprint := loneFingerprint
  graphGeneration := 1
  orderedNodeIds := ["node"]
  orderedLinkIds := []
  sourceNodeId := "node"
  destinationNodeId := "node"
  locality := .device
  capabilityState := .available
  provenanceIds := provenanceIds

theorem loneFields_ne : (loneFields ["b", "a"]).fingerprint Digest.sha256 ≠
    (loneFields ["a", "b"]).fingerprint Digest.sha256 := by
  unfold loneFields loneFingerprint
  rw [Digest.sha256_eq_numeric]
  decide +kernel

theorem loneFields_normalized : (loneFields ["b", "a"]).normalized = loneFields ["a", "b"] := by
  have graphId : Text.strip (makeTopologyGraphId Digest.sha256 loneFingerprint) =
      makeTopologyGraphId Digest.sha256 loneFingerprint :=
    (Digest.sha256_hexadecimal.trimmed _).strip_eq
  have fingerprint : Text.strip loneFingerprint = loneFingerprint :=
    (Digest.sha256_hexadecimal.trimmed _).strip_eq
  have node : Text.strip "node" = "node" := by decide
  simp only [PathFields.normalized, loneFields, graphId, fingerprint, node, List.map_cons,
    List.map_nil]
  rfl

theorem pathFields_lone {graph : TopologyGraph Digest.sha256} (nodes : graph.nodes = [loneNode])
    (links : graph.links = []) (generation : graph.generation = 1) (provenanceIds : List String) :
    pathFields graph "node" "node" provenanceIds = .ok (loneFields provenanceIds) := by
  have member : "node" ∈ graph.nodeIds := by simp [TopologyGraph.nodeIds, nodes, loneNode]
  have found := findPath_self Digest.sha256 member
  have available := pathCapability_eq_available_iff.mpr ⟨_, found⟩
  have alone : nodeOf graph "node" = .ok loneNode :=
    nodeOf_eq_ok_iff.mpr ⟨nodes ▸ List.mem_singleton_self _, rfl⟩
  have fingerprint : graph.fingerprint = loneFingerprint := by
    rw [graph.fingerprint_verified, nodes, links, generation]
    rfl
  have identity : graph.topologyGraphId = makeTopologyGraphId Digest.sha256 loneFingerprint := by
    rw [graph.id_verified, fingerprint]
  simp [pathFields, available, found, alone, pathMetrics, metricsOf, orderedNodes,
    PathFields.routeless, loneFields, classifyLocality, fingerprint, identity, generation]

/-- A path result over two ids of provenance, given the wrong way round, is not built. -/
theorem exists_unsealed_result : ∃ graph : TopologyGraph Digest.sha256,
    "node" ∈ graph.nodeIds ∧ ["b", "a"].Nodup ∧ (∀ text ∈ ["b", "a"], Text.Nonblank text) ∧
      (∀ result, buildPathResult graph "node" "node" ["b", "a"] ≠ .ok result) ∧
      ¬ ∃ result, Current graph "node" "node" ["b", "a"] result := by
  obtain ⟨graph, nodes, links, generation⟩ := exists_loneGraph Digest.sha256_hexadecimal
  have refused : ∀ result, buildPathResult graph "node" "node" ["b", "a"] ≠ .ok result := by
    intro result built
    obtain ⟨fields, made, constructed⟩ := bind_eq_ok.mp built
    rw [pathFields_lone nodes links generation] at made
    obtain rfl := Except.ok.inj made
    obtain ⟨sealed, _⟩ := fingerprint_of_construct Digest.sha256_hexadecimal constructed
    rw [loneFields_normalized] at sealed
    exact loneFields_ne sealed
  have member : "node" ∈ graph.nodeIds := by simp [TopologyGraph.nodeIds, nodes, loneNode]
  refine ⟨graph, member, by decide, by decide, refused, ?_⟩
  rintro ⟨result, current⟩
  exact refused result (current.built _ (.refl _))

end Alone

end Topology
end MercuryX
