import MercuryX.DisaggregatedExecution.Readiness
import MercuryX.HardwarePersonality.Compatibility
import MercuryX.Topology.Paths

/-!
# Placement candidates

Candidates for the placement of a ready segment: the active nodes whose profile meets the
requirement and that a path from the source leads to, each with the path that was found. The
generator looks at the ends of a path only, and compares a node with its profile by identity only.
-/

namespace MercuryX
namespace Placement

open Foundation DisaggregatedExecution HardwarePersonality MercuryX.Topology

/-! ## Candidates -/

/-- A node where a segment may be placed, with the typed context that it was found in. -/
structure PlacementCandidate where
  candidateId : String
  segmentId : String
  topologyNodeId : String
  hardwareProfileId : String
  eligible : Bool
  reasonCodes : List String := []
  topologyGraphId : Option String := none
  topologyGeneration : Option Int := none
  hardwareProfileGeneration : Option Int := none
  hardwareProfileFingerprint : Option String := none
  pathResultId : Option String := none
  pathResultFingerprint : Option String := none
  evidenceIds : List String := []

namespace PlacementCandidate

/-- Which parts of the typed context are given. -/
def contextGiven (candidate : PlacementCandidate) : List Bool := [
  candidate.topologyGraphId.isSome, candidate.topologyGeneration.isSome,
  candidate.hardwareProfileGeneration.isSome, candidate.hardwareProfileFingerprint.isSome,
  candidate.pathResultId.isSome, candidate.pathResultFingerprint.isSome]

variable (digest : Digest)

/-- What the identity of a candidate with a typed context is a digest of. -/
def identityPayload (candidate : PlacementCandidate) : Json := .obj [
  ("segment_id", .str candidate.segmentId),
  ("topology_graph_id", Json.optStr candidate.topologyGraphId),
  ("topology_generation", Json.optInt candidate.topologyGeneration),
  ("node_id", .str candidate.topologyNodeId),
  ("hardware_profile_id", .str candidate.hardwareProfileId),
  ("hardware_profile_generation", Json.optInt candidate.hardwareProfileGeneration),
  ("hardware_profile_fingerprint", Json.optStr candidate.hardwareProfileFingerprint),
  ("path_result_id", Json.optStr candidate.pathResultId),
  ("path_result_fingerprint", Json.optStr candidate.pathResultFingerprint)]

/-- The identity of a candidate with a typed context. -/
def typedId (candidate : PlacementCandidate) : String :=
  digest.hexdigest candidate.identityPayload

/-- Construct a candidate: its texts are put in order, and its typed context is checked. -/
def construct (draft : PlacementCandidate) : Except Fault PlacementCandidate := do
  let contract := "PlacementCandidate"
  forEach (fun field => rule contract field.1 (∀ text ∈ field.2, Text.Nonblank text)
      "placement identity must be nonblank") [
    ("candidate_id", some draft.candidateId), ("segment_id", some draft.segmentId),
    ("topology_node_id", some draft.topologyNodeId),
    ("hardware_profile_id", some draft.hardwareProfileId),
    ("topology_graph_id", draft.topologyGraphId),
    ("hardware_profile_fingerprint", draft.hardwareProfileFingerprint),
    ("path_result_id", draft.pathResultId),
    ("path_result_fingerprint", draft.pathResultFingerprint)]
  forEach (fun field => forEach (fieldGe contract field.1 1) field.2.toList) [
    ("topology_generation", draft.topologyGeneration),
    ("hardware_profile_generation", draft.hardwareProfileGeneration)]
  let reasonCodes ← canonicalField contract "reason_codes" "placement strings must be nonblank"
    "placement strings must be unique" draft.reasonCodes
  let evidenceIds ← canonicalField contract "evidence_ids" "placement strings must be nonblank"
    "placement strings must be unique" draft.evidenceIds
  let kept := { draft with reasonCodes := reasonCodes, evidenceIds := evidenceIds }
  rule contract "" (¬ (kept.contextGiven.any id ∧ kept.contextGiven.any not))
    "typed placement provenance must be complete"
  rule contract "" (kept.contextGiven.all id → kept.candidateId = kept.typedId digest)
    "typed placement candidate identity mismatch"
  return kept

end PlacementCandidate

/-! ## Generation -/

section Generation

variable {digest : Digest}

/-- The candidate before its identity is known. -/
def typedDraft (segment : ExecutionSegment) (graph : TopologyGraph digest) (nodeId : String)
    (profile : HardwarePersonalityProfile digest) (path : PathResult) : PlacementCandidate where
  candidateId := ""
  segmentId := segment.segmentId
  topologyNodeId := nodeId
  hardwareProfileId := profile.hardwareProfileId
  eligible := true
  reasonCodes := ["HARD_REQUIREMENTS_SATISFIED"]
  topologyGraphId := some graph.topologyGraphId
  topologyGeneration := some graph.generation
  hardwareProfileGeneration := some profile.profileGeneration
  hardwareProfileFingerprint := some profile.profileFingerprint
  pathResultId := some path.pathResultId
  pathResultFingerprint := some path.fingerprint
  evidenceIds := path.fields.metricEvidenceIds

/-- The candidate of a node that passed every check. -/
def typedCandidate (segment : ExecutionSegment) (graph : TopologyGraph digest) (nodeId : String)
    (profile : HardwarePersonalityProfile digest) (path : PathResult) : PlacementCandidate :=
  let draft := typedDraft segment graph nodeId profile path
  { draft with candidateId := draft.typedId digest }

variable (segment : ExecutionSegment) (requirement : HardwareRequirement)
  (graph : TopologyGraph digest) (sourceNodeId : String)

/-- The checks that a node has to pass to be a candidate. -/
def Considered (nodeId : String) (profile : HardwarePersonalityProfile digest) : Prop :=
  (∃ node ∈ (Dict.indexed TopologyNode.topologyNodeId graph.nodes).get? nodeId,
    node.active = true ∧ node.hardwareProfileId = profile.hardwareProfileId) ∧
  (evaluateHardwareCompatibility profile requirement).state = .compatible ∧
  pathCapability graph sourceNodeId nodeId = .available

instance (nodeId : String) (profile : HardwarePersonalityProfile digest) :
    Decidable (Considered requirement graph sourceNodeId nodeId profile) :=
  inferInstanceAs (Decidable (_ ∧ _))

/-- The candidate of an entry of the profile map, where its node passes the checks. -/
def candidateOf (entry : String × HardwarePersonalityProfile digest) :
    Except Fault (Option PlacementCandidate) :=
  if Considered requirement graph sourceNodeId entry.1 entry.2 then do
    let path ← buildPathResult graph sourceNodeId entry.1 []
    let candidate ← (typedCandidate segment graph entry.1 entry.2 path).construct digest
    return some candidate
  else .ok none

/-- The candidates for the placement of a ready segment. -/
def generateTypedCandidates (segments : List ExecutionSegment) (handoffs : List ExecutionHandoff)
    (profilesByNode : Dict String (HardwarePersonalityProfile digest)) :
    Except Fault (List PlacementCandidate) := do
  require (evaluateSegmentReadiness segment segments handoffs)
    (.value "Phase 12 segment is not ready")
  let nodes := Dict.indexed TopologyNode.topologyNodeId graph.nodes
  require (∃ node ∈ nodes.get? sourceNodeId, node.active = true)
    (.value "active source topology node required")
  let candidates ← (sortOn Prod.fst profilesByNode.entries).mapM
    (candidateOf segment requirement graph sourceNodeId)
  return candidates.reduceOption

/-! ## What the generator returns -/

section Outcome

variable {segment requirement graph sourceNodeId}

/-- The constructor never rejects the candidate of a node with an available path. -/
theorem construct_typedCandidate (hexadecimal : digest.Hexadecimal) {nodeId : String}
    (inGraph : nodeId ∈ graph.nodeIds) (profile : HardwarePersonalityProfile digest)
    {path : PathResult} (fit : path.fields.Fit)
    (addressed : path.pathResultId = addressOf digest "path_result" path.fingerprint)
    (fingerprinted : path.fingerprint = path.fields.fingerprint digest) :
    (typedCandidate segment graph nodeId profile path).construct digest =
      .ok (typedCandidate segment graph nodeId profile path) := by
  have segmentVisible := segment.texts_nonblank segment.segmentId (by simp)
  have nodeVisible := (trimmed_of_mem_nodeIds inGraph).nonblank
  have graphVisible := (graph.texts_trimmed graph.topologyGraphId (by simp)).nonblank
  have profileVisible := (profile.texts_trimmed profile.hardwareProfileId (by simp)).nonblank
  have contentVisible := (profile.texts_trimmed profile.profileFingerprint (by simp)).nonblank
  have pathVisible : Text.Nonblank path.pathResultId :=
    addressed ▸ (hexadecimal.trimmed _).nonblank
  have routeVisible : Text.Nonblank path.fingerprint :=
    fingerprinted ▸ (hexadecimal.trimmed _).nonblank
  have evidenceCanonical := fit.evidence_canonical path.fields.metricEvidenceIds (by simp)
  have evidenceDistinct : path.fields.metricEvidenceIds.Nodup :=
    evidenceCanonical ▸ canonical_nodup id path.fields.metricEvidenceIds
  have evidenceVisible : ∀ text ∈ path.fields.metricEvidenceIds, Text.Nonblank text :=
    fun text member => (fit.texts_trimmed text (by simp [member])).nonblank
  simp [PlacementCandidate.construct, typedCandidate, typedDraft, PlacementCandidate.typedId,
    PlacementCandidate.identityPayload, PlacementCandidate.contextGiven, segmentVisible,
    nodeVisible, graphVisible, profileVisible, contentVisible, pathVisible, routeVisible,
    evidenceDistinct, sortOn_of_canonical evidenceCanonical, digest.nonblank, graph.generation_pos,
    profile.generation_pos]
  exact ⟨⟨by decide, rfl⟩, evidenceVisible⟩

theorem mem_nodeIds_iff {nodeId : String} :
    nodeId ∈ graph.nodeIds ↔ ∃ node ∈ graph.nodes, node.topologyNodeId = nodeId :=
  List.mem_map

theorem get?_nodes_eq_some_iff {nodeId : String} {node : TopologyNode} :
    (Dict.indexed TopologyNode.topologyNodeId graph.nodes).get? nodeId = some node ↔
      node ∈ graph.nodes ∧ node.topologyNodeId = nodeId :=
  Dict.indexed_get?_eq_some_iff graph.nodes_nodup

variable {entry : String × HardwarePersonalityProfile digest}

variable (segment entry) in
/-- The node of an entry that passes the checks gets its candidate, with the path that was
built. -/
theorem candidateOf_of_considered (hexadecimal : digest.Hexadecimal)
    (considered : Considered requirement graph sourceNodeId entry.1 entry.2) :
    ∃ path, buildPathResult graph sourceNodeId entry.1 [] = .ok path ∧
      HoldsRoute graph sourceNodeId entry.1 path.fields ∧
      candidateOf segment requirement graph sourceNodeId entry =
        .ok (some (typedCandidate segment graph entry.1 entry.2 path)) := by
  obtain ⟨node, found, _⟩ := considered.1
  have inGraph : entry.1 ∈ graph.nodeIds :=
    mem_nodeIds_iff.mpr ⟨node, get?_nodes_eq_some_iff.mp found⟩
  obtain ⟨path, built, fit, addressed, fingerprinted, holds⟩ :=
    exists_buildPathResult hexadecimal considered.2.2
  refine ⟨path, built, holds, ?_⟩
  rw [candidateOf, if_pos considered, built, ok_bind,
    construct_typedCandidate hexadecimal inGraph entry.2 fit addressed fingerprinted]
  rfl

theorem candidateOf_of_not_considered
    (dropped : ¬ Considered requirement graph sourceNodeId entry.1 entry.2) :
    candidateOf segment requirement graph sourceNodeId entry = .ok none :=
  if_neg dropped

theorem topologyNodeId_of_candidateOf (hexadecimal : digest.Hexadecimal)
    {candidate : PlacementCandidate}
    (made : candidateOf segment requirement graph sourceNodeId entry = .ok (some candidate)) :
    candidate.topologyNodeId = entry.1 := by
  by_cases considered : Considered requirement graph sourceNodeId entry.1 entry.2
  · obtain ⟨path, _, _, outcome⟩ :=
      candidateOf_of_considered segment entry hexadecimal considered
    obtain rfl := Option.some_inj.mp (Except.ok.inj (outcome.symm.trans made))
    rfl
  · rw [candidateOf_of_not_considered considered] at made
    nomatch made


variable {segments : List ExecutionSegment} {handoffs : List ExecutionHandoff}
  {profilesByNode : Dict String (HardwarePersonalityProfile digest)}

/-- For a ready segment and an active source the generator returns the candidates of the entries
that pass the checks, at most one for each node. -/
theorem exists_generateTypedCandidates (hexadecimal : digest.Hexadecimal)
    (ready : evaluateSegmentReadiness segment segments handoffs = true)
    (source : ∃ node ∈ graph.nodes, node.topologyNodeId = sourceNodeId ∧ node.active = true) :
    ∃ candidates, generateTypedCandidates segment requirement graph sourceNodeId segments handoffs
        profilesByNode = .ok candidates ∧
      (candidates.map PlacementCandidate.topologyNodeId).Nodup ∧
      ∀ candidate, candidate ∈ candidates ↔ ∃ entry ∈ profilesByNode.entries,
        candidateOf segment requirement graph sourceNodeId entry = .ok (some candidate) := by
  obtain ⟨node, inGraph, named, active⟩ := source
  have sourceFound : ∃ node ∈ (Dict.indexed TopologyNode.topologyNodeId graph.nodes).get?
      sourceNodeId, node.active = true :=
    ⟨node, get?_nodes_eq_some_iff.mpr ⟨inGraph, named⟩, active⟩
  have each : ∀ entry ∈ sortOn Prod.fst profilesByNode.entries,
      ∃ answer, candidateOf segment requirement graph sourceNodeId entry = .ok answer := by
    intro entry _
    by_cases considered : Considered requirement graph sourceNodeId entry.1 entry.2
    · obtain ⟨path, _, _, outcome⟩ :=
        candidateOf_of_considered segment entry hexadecimal considered
      exact ⟨_, outcome⟩
    · exact ⟨none, candidateOf_of_not_considered considered⟩
  obtain ⟨answers, made⟩ := exists_mapM_eq_ok each
  refine ⟨answers.reduceOption, ?_, ?_, ?_⟩
  · simp only [generateTypedCandidates, ready, require_of_true, sourceFound, ok_bind, made,
      pure_eq_ok]
  · have inside := reduceOption_sublist_of_mapM_eq_ok PlacementCandidate.topologyNodeId Prod.fst
      (fun _ _ => topologyNodeId_of_candidateOf hexadecimal) made
    refine inside.nodup ?_
    exact ((sortOn_perm Prod.fst profilesByNode.entries).map Prod.fst).nodup_iff.mpr
      profilesByNode.nodup
  · intro candidate
    rw [List.reduceOption_mem_iff, mem_of_mapM_eq_ok made]
    simp only [mem_sortOn]

end Outcome

end Generation

end Placement
end MercuryX
