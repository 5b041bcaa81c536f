import MercuryX.Placement.Candidates

/-!
# Eligible nodes

What a placement candidate is meant to be: an active node, bound to a compatible profile, that a
route of active nodes leads to. The generator meets this exactly where the two things that it does
not check hold anyway: the generation that a node is bound to is that of the profile given for it,
and the routes found pass active nodes only.
-/

namespace MercuryX
namespace Placement

open Foundation DisaggregatedExecution HardwarePersonality MercuryX.Topology

variable {digest : Digest}

/-- Where a node is bound to a generation of its profile, it is this one. -/
def BindingCurrent (node : TopologyNode) (profile : HardwarePersonalityProfile digest) : Prop :=
  (∀ generation ∈ node.hardwareProfileGeneration, generation = profile.profileGeneration) ∧
    ∀ fingerprint ∈ node.hardwareProfileFingerprint, fingerprint = profile.profileFingerprint

/-- The ids are those of active nodes. -/
def AllActive (graph : TopologyGraph digest) (nodeIds : List String) : Prop :=
  ∀ nodeId ∈ nodeIds, ∃ node ∈ graph.nodes, node.topologyNodeId = nodeId ∧ node.active = true

/-- A walk over active nodes from the source to the destination. -/
structure ActiveRoute (graph : TopologyGraph digest) (sourceNodeId destinationNodeId : String)
    (nodeIds linkIds : List String) : Prop where
  /-- The links join the nodes. -/
  walk : Walk graph nodeIds linkIds
  /-- The walk starts at the source. -/
  starts : nodeIds.head? = some sourceNodeId
  /-- The walk ends at the destination. -/
  ends : nodeIds.getLast? = some destinationNodeId
  /-- Every node on the way is active. -/
  active : AllActive graph nodeIds

/-- A node that may be given a segment, as far as it and its profile go. -/
structure Suitable (requirement : HardwareRequirement) (node : TopologyNode)
    (profile : HardwarePersonalityProfile digest) : Prop where
  /-- The node is active. -/
  active : node.active = true
  /-- The profile meets the requirement. -/
  satisfied : requirement.SatisfiedBy profile
  /-- The node names the profile. -/
  named : node.hardwareProfileId = profile.hardwareProfileId
  /-- The node is bound to no other generation of it. -/
  current : BindingCurrent node profile

/-- A candidate records a profile and a path. -/
structure Records (candidate : PlacementCandidate) (profile : HardwarePersonalityProfile digest)
    (path : PathResult) : Prop where
  profileId : candidate.hardwareProfileId = profile.hardwareProfileId
  profileGeneration : candidate.hardwareProfileGeneration = some profile.profileGeneration
  profileFingerprint : candidate.hardwareProfileFingerprint = some profile.profileFingerprint
  pathResultId : candidate.pathResultId = some path.pathResultId
  pathResultFingerprint : candidate.pathResultFingerprint = some path.fingerprint

/-- The candidates are those of the eligible nodes, one for each. -/
structure Exact (requirement : HardwareRequirement) (graph : TopologyGraph digest)
    (sourceNodeId : String) (profilesByNode : Dict String (HardwarePersonalityProfile digest))
    (candidates : List PlacementCandidate) : Prop where
  /-- Every candidate is for a suitable node, and the path that it records is a route of active
  nodes from the source. -/
  sound : ∀ candidate ∈ candidates, ∃ node ∈ graph.nodes, ∃ profile path,
    node.topologyNodeId = candidate.topologyNodeId ∧
    profilesByNode.get? candidate.topologyNodeId = some profile ∧
    Suitable requirement node profile ∧
    buildPathResult graph sourceNodeId candidate.topologyNodeId [] = .ok path ∧
    Records candidate profile path ∧
    ActiveRoute graph sourceNodeId candidate.topologyNodeId path.fields.orderedNodeIds
      path.fields.orderedLinkIds
  /-- Every suitable node that a route of active nodes leads to has one candidate. -/
  complete : ∀ node ∈ graph.nodes, ∀ profile,
    profilesByNode.get? node.topologyNodeId = some profile → Suitable requirement node profile →
    (∃ nodeIds linkIds, ActiveRoute graph sourceNodeId node.topologyNodeId nodeIds linkIds) →
    (candidates.map PlacementCandidate.topologyNodeId).count node.topologyNodeId = 1

/-- The nodes that pass the checks are bound to no other generation of their profile, and the routes
found to them pass active nodes only. -/
def Unhindered (requirement : HardwareRequirement) (graph : TopologyGraph digest)
    (sourceNodeId : String) (profilesByNode : Dict String (HardwarePersonalityProfile digest)) :
    Prop :=
  ∀ node ∈ graph.nodes, ∀ profile, profilesByNode.get? node.topologyNodeId = some profile →
    node.active = true → node.hardwareProfileId = profile.hardwareProfileId →
    requirement.SatisfiedBy profile →
    ∀ links, findPath graph sourceNodeId node.topologyNodeId = some links →
      BindingCurrent node profile ∧
        ∀ nodeIds, orderedNodes sourceNodeId links = .ok nodeIds → AllActive graph nodeIds

/-! ## Exactness -/

section Exactness

variable {segment : ExecutionSegment} {requirement : HardwareRequirement}
  {graph : TopologyGraph digest} {sourceNodeId : String} {segments : List ExecutionSegment}
  {handoffs : List ExecutionHandoff}
  {profilesByNode : Dict String (HardwarePersonalityProfile digest)}

/-- What the checks say of a node. -/
theorem considered_iff {node : TopologyNode} {profile : HardwarePersonalityProfile digest}
    (inGraph : node ∈ graph.nodes) :
    Considered requirement graph sourceNodeId node.topologyNodeId profile ↔
      node.active = true ∧ node.hardwareProfileId = profile.hardwareProfileId ∧
      requirement.SatisfiedBy profile ∧
      ∃ links, findPath graph sourceNodeId node.topologyNodeId = some links := by
  have found : (Dict.indexed TopologyNode.topologyNodeId graph.nodes).get? node.topologyNodeId =
      some node := get?_nodes_eq_some_iff.mpr ⟨inGraph, rfl⟩
  simp only [Considered, found, Option.mem_def, Option.some.injEq, exists_eq_left', compatible_iff,
    pathCapability_eq_available_iff, and_assoc]

theorem node_of_candidateOf (hexadecimal : digest.Hexadecimal)
    {entry : String × HardwarePersonalityProfile digest} {candidate : PlacementCandidate}
    (made : candidateOf segment requirement graph sourceNodeId entry = .ok (some candidate)) :
    ∃ node ∈ graph.nodes, node.topologyNodeId = entry.1 ∧
      Considered requirement graph sourceNodeId entry.1 entry.2 ∧ ∃ path,
        buildPathResult graph sourceNodeId entry.1 [] = .ok path ∧
        HoldsRoute graph sourceNodeId entry.1 path.fields ∧
        candidate = typedCandidate segment graph entry.1 entry.2 path := by
  by_cases considered : Considered requirement graph sourceNodeId entry.1 entry.2
  · obtain ⟨node, found, _⟩ := considered.1
    obtain ⟨inGraph, named⟩ := get?_nodes_eq_some_iff.mp found
    obtain ⟨path, built, holds, outcome⟩ :=
      candidateOf_of_considered segment entry hexadecimal considered
    obtain rfl := Option.some_inj.mp (Except.ok.inj (outcome.symm.trans made))
    exact ⟨node, inGraph, named, considered, path, built, holds, rfl⟩
  · rw [candidateOf_of_not_considered considered] at made
    nomatch made

/-- Unhindered, the candidates are exactly those of the eligible nodes. -/
theorem Unhindered.exact (hexadecimal : digest.Hexadecimal)
    (unhindered : Unhindered requirement graph sourceNodeId profilesByNode)
    (source : ∃ node ∈ graph.nodes, node.topologyNodeId = sourceNodeId ∧ node.active = true)
    {candidates : List PlacementCandidate}
    (distinct : (candidates.map PlacementCandidate.topologyNodeId).Nodup)
    (made : ∀ candidate, candidate ∈ candidates ↔ ∃ entry ∈ profilesByNode.entries,
      candidateOf segment requirement graph sourceNodeId entry = .ok (some candidate)) :
    Exact requirement graph sourceNodeId profilesByNode candidates where
  sound candidate member := by
    obtain ⟨⟨nodeId, profile⟩, inMap, outcome⟩ := (made candidate).mp member
    obtain ⟨node, inGraph, rfl, considered, path, built, holds, rfl⟩ :=
      node_of_candidateOf hexadecimal outcome
    obtain ⟨active, named, satisfied, links, found⟩ := (considered_iff inGraph).mp considered
    have profiled := Dict.get?_eq_some_iff.mpr inMap
    obtain ⟨current, routeActive⟩ :=
      unhindered node inGraph profile profiled active named satisfied links found
    exact ⟨node, inGraph, profile, path, rfl, profiled, ⟨active, satisfied, named, current⟩, built,
      ⟨rfl, rfl, rfl, rfl, rfl⟩, holds.walk, holds.starts, holds.ends,
      routeActive _ (holds.found links found)⟩
  complete node inGraph profile profiled suitable route := by
    obtain ⟨nodeIds, linkIds, route⟩ := route
    obtain ⟨start, startInGraph, startNamed, _⟩ := source
    have available := pathCapability_eq_available_of_walk route.walk route.starts route.ends
      (mem_nodeIds_iff.mpr ⟨start, startInGraph, startNamed⟩)
      (mem_nodeIds_iff.mpr ⟨node, inGraph, rfl⟩)
    have considered : Considered requirement graph sourceNodeId node.topologyNodeId profile :=
      (considered_iff inGraph).mpr ⟨suitable.active, suitable.named, suitable.satisfied,
        pathCapability_eq_available_iff.mp available⟩
    obtain ⟨path, _, _, outcome⟩ :=
      candidateOf_of_considered segment (node.topologyNodeId, profile) hexadecimal considered
    have member := (made _).mpr ⟨_, Dict.get?_eq_some_iff.mp profiled, outcome⟩
    exact List.count_eq_one_of_mem distinct (List.mem_map_of_mem member)

/-- Where the candidates are exact, nothing that the generator does not check hinders it. -/
theorem Exact.unhindered (hexadecimal : digest.Hexadecimal)
    {candidates : List PlacementCandidate}
    (exact : Exact requirement graph sourceNodeId profilesByNode candidates)
    (made : ∀ candidate, candidate ∈ candidates ↔ ∃ entry ∈ profilesByNode.entries,
      candidateOf segment requirement graph sourceNodeId entry = .ok (some candidate)) :
    Unhindered requirement graph sourceNodeId profilesByNode := by
  intro node inGraph profile profiled active named satisfied links found
  have considered := (considered_iff inGraph).mpr ⟨active, named, satisfied, links, found⟩
  obtain ⟨path, built, holds, outcome⟩ :=
    candidateOf_of_considered segment (node.topologyNodeId, profile) hexadecimal considered
  have member := (made _).mpr ⟨_, Dict.get?_eq_some_iff.mp profiled, outcome⟩
  obtain ⟨other, otherInGraph, otherProfile, recorded, sameNode, sameProfile, suitable, sameBuilt,
    _, route⟩ := exact.sound _ member
  obtain rfl := List.inj_on_of_nodup_map graph.nodes_nodup otherInGraph inGraph sameNode
  obtain rfl := Option.some_inj.mp (sameProfile.symm.trans profiled)
  obtain rfl := Except.ok.inj (sameBuilt.symm.trans built)
  refine ⟨suitable.current, fun nodeIds ordered => ?_⟩
  obtain rfl := Except.ok.inj ((holds.found links found).symm.trans ordered)
  exact route.active

/-- For a ready segment and an active source, the generator returns exactly the candidates of the
eligible nodes, and the constructor rejects none, if and only if the nodes that pass the checks are
bound to no other generation of their profile and the routes found to them pass active nodes
only. -/
theorem generateTypedCandidates_exact_iff (hexadecimal : digest.Hexadecimal)
    (ready : evaluateSegmentReadiness segment segments handoffs = true)
    (source : ∃ node ∈ graph.nodes, node.topologyNodeId = sourceNodeId ∧ node.active = true) :
    (∃ candidates, generateTypedCandidates segment requirement graph sourceNodeId segments handoffs
        profilesByNode = .ok candidates ∧
      Exact requirement graph sourceNodeId profilesByNode candidates) ↔
      Unhindered requirement graph sourceNodeId profilesByNode := by
  obtain ⟨candidates, generated, distinct, made⟩ :=
    exists_generateTypedCandidates hexadecimal ready source
  constructor
  · rintro ⟨others, same, exact⟩
    obtain rfl := Except.ok.inj (generated.symm.trans same)
    exact exact.unhindered hexadecimal made
  · intro unhindered
    exact ⟨candidates, generated, unhindered.exact hexadecimal source distinct made⟩

end Exactness

/-! ## A line of three nodes -/

theorem unknown_pos : ∀ amount ∈ (none : Option Int), 1 ≤ amount := by
  simp

/-- A piece of hardware. -/
def processor : HardwareDescriptor where
  hardwareId := Digest.sha256.hexdigest (.obj [("hardware_class", .str "CPU"),
    ("vendor", .str "vendor"), ("architecture", .str "arch"), ("device_family", .str "family"),
    ("device_model", .str "model")])
  hardwareClass := .cpu
  vendor := "vendor"
  architecture := "arch"
  deviceFamily := "family"
  deviceModel := "model"
  texts_trimmed := List.forall_mem_cons.mpr ⟨Digest.sha256_hexadecimal.trimmed _, by decide⟩
  memory_pos := unknown_pos

/-- The verified profile of a piece of hardware without any capability. -/
def processorContent : ProfileContent where
  descriptor := processor
  capabilities := []
  supportedPrecisions := []
  evidenceRecordIds := ["probe"]
  workloadAffinities := []
  profileGeneration := 1
  trustState := .verified

/-- The profile with this content. -/
def processorProfile : HardwarePersonalityProfile Digest.sha256 where
  toProfileContent := processorContent
  hardwareProfileId := makeProfileIdentity Digest.sha256 processor.hardwareId 1
  profileFingerprint := makeHardwareProfileFingerprint Digest.sha256
    (makeProfileIdentity Digest.sha256 processor.hardwareId 1) processorContent
  texts_trimmed := List.forall_mem_cons.mpr ⟨Digest.sha256_hexadecimal.trimmed _,
    List.forall_mem_singleton.mpr (Digest.sha256_hexadecimal.trimmed _)⟩
  bandwidths_pos := by simp [processorContent]
  generation_pos := by decide
  texts_canonical := by decide
  names_canonical := by decide
  id_verified := rfl
  evidence_of_verified := by simp [processorContent]
  fingerprint_verified := rfl

theorem processorProfile_trimmed : Text.Trimmed processorProfile.hardwareProfileId :=
  Digest.sha256_hexadecimal.trimmed _

/-- A node with this hardware. -/
def processorNode (nodeId : String) (trimmed : Text.Trimmed nodeId) (active : Bool) :
    TopologyNode where
  topologyNodeId := nodeId
  hardwareProfileId := processorProfile.hardwareProfileId
  active := active
  texts_trimmed := by simp [trimmed, processorProfile_trimmed]
  generation_pos := unknown_pos
  binding_complete := rfl

/-- Three nodes, the one in the middle active or not. -/
def lineNodes (middleActive : Bool) : List TopologyNode := [
  processorNode "a" (by decide) true, processorNode "b" (by decide) middleActive,
  processorNode "c" (by decide) true]

theorem first_ne_second : "a" ≠ "b" := by
  decide

/-- Links from the first node to the second and from the second to the third. -/
def lineLinks : List TopologyLink := [
  { topologyLinkId := "ab", sourceNodeId := "a", destinationNodeId := "b", linkKind := .ethernet
    bidirectional := false
    texts_trimmed := by decide
    bandwidths_pos := by simp
    latencies_pos := by simp
    evidence_canonical := rfl
    endpoints_apart := first_ne_second },
  { topologyLinkId := "bc", sourceNodeId := "b", destinationNodeId := "c", linkKind := .ethernet
    bidirectional := false
    texts_trimmed := by decide
    bandwidths_pos := by simp
    latencies_pos := by simp
    evidence_canonical := rfl
    endpoints_apart := by decide }]

theorem generation_starts : (1 : Int) ≤ 1 := le_rfl

/-- The graph of the line. -/
def line (middleActive : Bool) : TopologyGraph Digest.sha256 where
  topologyGraphId := makeTopologyGraphId Digest.sha256
    (topologyGraphFingerprint Digest.sha256 (lineNodes middleActive) lineLinks 1)
  nodes := lineNodes middleActive
  links := lineLinks
  generation := 1
  fingerprint := topologyGraphFingerprint Digest.sha256 (lineNodes middleActive) lineLinks 1
  generation_pos := generation_starts
  texts_trimmed := List.forall_mem_cons.mpr ⟨Digest.sha256_hexadecimal.trimmed _,
    List.forall_mem_singleton.mpr (Digest.sha256_hexadecimal.trimmed _)⟩
  nodes_nonempty := by simp [lineNodes]
  nodes_nodup := by simp [lineNodes, processorNode]
  links_nodup := by simp [lineLinks]
  endpoints_mem := by simp [lineLinks, lineNodes, processorNode]
  fingerprint_verified := rfl
  id_verified := rfl

theorem plannedSegment_requirements :
    ∀ field ∈ [(none : Option String), none, none], ∀ text ∈ field, Text.Nonblank text := by
  simp

theorem plannedSegment_references : ∀ reference ∈ [(([] : List String),
    maxExecutionArtifactsPerSegment), ([], maxDependenciesPerSegment), ([], maxHandoffsPerSegment),
    ([], maxHandoffsPerSegment)],
      CanonicalTexts reference.1 ∧ reference.1.length ≤ reference.2 := by
  decide

theorem plannedSegment_sequence : (1 : Nat) ≤ 1 := le_rfl

/-- A segment that may start. -/
def plannedSegment : ExecutionSegment where
  segmentId := "segment"
  executionPlanId := "plan"
  namespaceType := .project
  namespaceId := "project"
  segmentType := .prefill
  outputContractId := "contract"
  handoffPolicyId := "handoff"
  retryPolicyId := "retry"
  verificationPolicyId := "verification"
  creationSequence := 1
  texts_nonblank := by decide
  requirements_nonblank := plannedSegment_requirements
  references_canonical := plannedSegment_references
  creationSequence_pos := plannedSegment_sequence
  independent := by simp

/-- Nothing is required but a verified profile. -/
def anyHardware : HardwareRequirement where
  requirementId := "requirement"
  texts_trimmed := by decide
  memory_pos := unknown_pos

theorem anyHardware_satisfied : anyHardware.SatisfiedBy processorProfile := by
  constructor <;> simp [anyHardware, processorProfile, processorContent]

/-- The profile is given for the last node of the line. -/
def lastProfiled : Dict String (HardwarePersonalityProfile Digest.sha256) :=
  Dict.empty.insert "c" processorProfile

theorem lastProfiled_get? {nodeId : String} {profile : HardwarePersonalityProfile Digest.sha256} :
    lastProfiled.get? nodeId = some profile ↔ nodeId = "c" ∧ processorProfile = profile := by
  by_cases last : nodeId = "c"
  · simp [lastProfiled, last]
  · simp [lastProfiled, Dict.get?_insert_of_ne _ last, last]

theorem findPath_line (middleActive : Bool) :
    findPath (line middleActive) "a" "c" = some lineLinks := rfl

theorem source_line (middleActive : Bool) : ∃ node ∈ (line middleActive).nodes,
    node.topologyNodeId = "a" ∧ node.active = true :=
  ⟨_, List.mem_cons_self, rfl, rfl⟩

theorem unhindered_line : Unhindered anyHardware (line true) "a" lastProfiled := by
  intro node inGraph profile profiled _ _ _ links found
  obtain ⟨last, rfl⟩ := lastProfiled_get?.mp profiled
  rw [last, findPath_line] at found
  obtain rfl := Option.some_inj.mp found
  refine ⟨?_, fun nodeIds ordered => ?_⟩
  · have bare : ∀ node ∈ (line true).nodes, node.hardwareProfileGeneration = none ∧
        node.hardwareProfileFingerprint = none := by simp [line, lineNodes, processorNode]
    obtain ⟨generation, fingerprint⟩ := bare node inGraph
    simp [BindingCurrent, generation, fingerprint]
  · obtain rfl := Except.ok.inj ordered
    simp [AllActive, line, lineNodes, processorNode]

theorem generateTypedCandidates_exact_line :
    ∃ candidates, generateTypedCandidates plannedSegment anyHardware (line true) "a" [] []
        lastProfiled = .ok candidates ∧
      Exact anyHardware (line true) "a" lastProfiled candidates :=
  (generateTypedCandidates_exact_iff Digest.sha256_hexadecimal rfl (source_line true)).mpr
    unhindered_line

theorem not_unhindered_line : ¬ Unhindered anyHardware (line false) "a" lastProfiled := by
  intro unhindered
  obtain ⟨_, active⟩ := unhindered (processorNode "c" (by decide) true)
    (by simp [line, lineNodes]) processorProfile (lastProfiled_get?.mpr ⟨rfl, rfl⟩) rfl rfl
    anyHardware_satisfied lineLinks (findPath_line false)
  obtain ⟨node, member, named, isActive⟩ := active ["a", "b", "c"] rfl "b" (by simp)
  revert named isActive
  have inactive : ∀ node ∈ (line false).nodes, node.topologyNodeId = "b" →
      ¬ node.active = true := by
    simp [line, lineNodes, processorNode]
  exact inactive node member

/-- A candidate is generated for a node that only a route through an inactive node leads to. -/
theorem candidate_behind_inactive_node :
    ¬ ∀ (segment : ExecutionSegment) (requirement : HardwareRequirement)
        (graph : TopologyGraph Digest.sha256) (sourceNodeId : String)
        (segments : List ExecutionSegment) (handoffs : List ExecutionHandoff)
        (profilesByNode : Dict String (HardwarePersonalityProfile Digest.sha256))
        (candidates : List PlacementCandidate),
      generateTypedCandidates segment requirement graph sourceNodeId segments handoffs
        profilesByNode = .ok candidates →
      Exact requirement graph sourceNodeId profilesByNode candidates := by
  intro always
  obtain ⟨candidates, generated, _, made⟩ := exists_generateTypedCandidates
    Digest.sha256_hexadecimal (rfl : evaluateSegmentReadiness plannedSegment [] [] = true)
    (source_line false)
  have exact := always plannedSegment anyHardware (line false) "a" [] [] lastProfiled candidates
    generated
  exact not_unhindered_line (exact.unhindered Digest.sha256_hexadecimal made)

end Placement
end MercuryX
