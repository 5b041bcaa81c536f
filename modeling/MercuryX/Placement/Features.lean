import MercuryX.Placement.Eligibility
import MercuryX.Placement.Predictions
import MercuryX.Topology.Results

/-!
# Typed placement features

What is known about a generated candidate is read off the path that leads to it and the profile of
its hardware, both given again and compared with what the candidate records.
-/

namespace MercuryX
namespace Placement

open Foundation DisaggregatedExecution HardwarePersonality MercuryX.Topology

/-! ## The contract of features -/

/-- The fields of features. -/
structure FeatureFields where
  candidateId : String
  compatibilityScore : ℚ
  localityScore : ℚ
  evidenceScore : ℚ
  uncertaintyPenalty : ℚ
  hardwareProfileId : Option String := none
  hardwareProfileGeneration : Option Int := none
  topologyGraphId : Option String := none
  topologyGeneration : Option Int := none
  pathBandwidthBytesPerS : Option Int := none
  pathLatencyUs : Option ℚ := none
  pathResultId : Option String := none
  pathResultFingerprint : Option String := none
  memoryHeadroomBytes : Option Int := none
  memorySupport : PlacementSupportState := .unknown
  precisionSupport : PlacementSupportState := .unknown
  runtimeSupport : PlacementSupportState := .unknown
  softwareStackSupport : PlacementSupportState := .unknown
  hardwareTrust : PlacementSupportState := .unknown
  topologyLocality : Option String := none
  pathCapability : PlacementSupportState := .unknown
  topologyUncertainty : ℚ := 1
  featureProvenance : List (String × List String) := []
  evidenceIds : List String := []

namespace FeatureFields

/-- The provenance, that of each feature in order. -/
def normalizedProvenance (given : FeatureFields) : List (String × List String) :=
  given.featureProvenance.map fun entry => (entry.1, sortOn id entry.2)

/-- The scores, by name. -/
def scores (given : FeatureFields) : List (String × ℚ) := [
  ("compatibility_score", given.compatibilityScore), ("locality_score", given.localityScore),
  ("evidence_score", given.evidenceScore), ("uncertainty_penalty", given.uncertaintyPenalty),
  ("topology_uncertainty", given.topologyUncertainty)]

/-- The generations and the bandwidth, by name. -/
def counts (given : FeatureFields) : List (String × Option Int) := [
  ("hardware_profile_generation", given.hardwareProfileGeneration),
  ("topology_generation", given.topologyGeneration),
  ("path_bandwidth_bytes_per_s", given.pathBandwidthBytesPerS)]

/-- What the constructor of features establishes. -/
structure Valid (given : FeatureFields) : Prop where
  /-- Scores lie between zero and one. -/
  scores_bounded : ∀ score ∈ given.scores, 0 ≤ score.2 ∧ score.2 ≤ 1
  /-- Generations and bandwidths start at one. -/
  counts_pos : ∀ field ∈ given.counts, ∀ count ∈ field.2, 1 ≤ count
  /-- Latencies are positive. -/
  latency_pos : ∀ latency ∈ given.pathLatencyUs, 0 < latency
  /-- Headroom is not negative. -/
  headroom_nonneg : ∀ headroom ∈ given.memoryHeadroomBytes, 0 ≤ headroom
  /-- Provenance stands in the order of the features. -/
  provenance_sorted : sortOn Prod.fst given.normalizedProvenance = given.normalizedProvenance
  /-- Each feature has its provenance once. -/
  provenance_nodup : (given.normalizedProvenance.map Prod.fst).Nodup
  /-- Provenance is nonblank. -/
  provenance_nonblank : ∀ entry ∈ given.normalizedProvenance, Text.Nonblank entry.1 ∧
    ∀ text ∈ entry.2, Text.Nonblank text
  /-- Evidence is distinct and nonblank. -/
  evidence_distinct : given.evidenceIds.Nodup ∧ ∀ text ∈ given.evidenceIds, Text.Nonblank text

/-- The checks of the constructor of features. -/
def check (given : FeatureFields) : Except Fault Unit := do
  let contract := "PlacementFeatures"
  forEach (fun score => fieldWithin contract score.1 0 1 score.2) given.scores
  forEach (fun field => forEach (fieldGe contract field.1 1) field.2.toList) given.counts
  forEach (fieldPositive contract "path_latency_us") given.pathLatencyUs.toList
  forEach (fieldGe contract "memory_headroom_bytes" 0) given.memoryHeadroomBytes.toList
  rule contract "feature_provenance"
    (sortOn Prod.fst given.normalizedProvenance = given.normalizedProvenance)
    "feature provenance must be canonical"
  rule contract "feature_provenance" (given.normalizedProvenance.map Prod.fst).Nodup
    "feature provenance contains duplicate feature"
  rule contract "feature_provenance" (∀ entry ∈ given.normalizedProvenance,
      Text.Nonblank entry.1 ∧ ∀ text ∈ entry.2, Text.Nonblank text)
    "feature provenance must be nonblank"
  rule contract "evidence_ids"
    (given.evidenceIds.Nodup ∧ ∀ text ∈ given.evidenceIds, Text.Nonblank text)
    "feature evidence IDs must be unique and nonblank"

theorem check_eq_ok_iff {given : FeatureFields} {done : Unit} :
    given.check = .ok done ↔ given.Valid := by
  simp only [check, bind_eq_ok, forEach_eq_ok, rule_eq_ok, fieldGe_eq_ok, fieldWithin_eq_ok,
    fieldPositive_eq_ok, Option.mem_toList, exists_const]
  constructor
  · rintro ⟨scores, counts, latency, headroom, sorted, nodup, nonblank, evidence⟩
    exact ⟨scores, counts, latency, headroom, sorted, nodup, nonblank, evidence⟩
  · rintro ⟨scores, counts, latency, headroom, sorted, nodup, nonblank, evidence⟩
    exact ⟨scores, counts, latency, headroom, sorted, nodup, nonblank, evidence⟩

theorem Valid.evidence_canonical {given : FeatureFields} (valid : given.Valid) :
    CanonicalTexts (sortOn id given.evidenceIds) := by
  refine ⟨fun text member => valid.evidence_distinct.2 text ((mem_sortOn id).mp member), ?_⟩
  exact canonical_eq_self id ((sortOn_perm id _).nodup_iff.mpr valid.evidence_distinct.1)
    (sortOn_pairwise id _)

/-- Provenance that is in order and names each feature once is strictly in order. -/
theorem Valid.provenance_canonical {given : FeatureFields} (valid : given.Valid) :
    (∀ entry ∈ given.normalizedProvenance, Text.Nonblank entry.1 ∧
      (∀ text ∈ entry.2, Text.Nonblank text) ∧ sortOn id entry.2 = entry.2) ∧
    given.normalizedProvenance.Pairwise fun left right => left.1 < right.1 := by
  constructor
  · intro entry member
    obtain ⟨named, visible⟩ := valid.provenance_nonblank entry member
    obtain ⟨_, _, rfl⟩ := List.mem_map.mp member
    exact ⟨named, visible, sortOn_eq_self id (sortOn_pairwise id _)⟩
  · have ordered := sortOn_pairwise Prod.fst given.normalizedProvenance
    rw [valid.provenance_sorted] at ordered
    exact ordered.imp₂ (fun _ _ below apart => lt_of_le_of_ne below apart)
      (List.pairwise_map.mp valid.provenance_nodup)

/-- The features of valid fields. -/
def toFeatures (given : FeatureFields) (valid : given.Valid) : PlacementFeatures where
  candidateId := given.candidateId
  compatibilityScore := given.compatibilityScore
  localityScore := given.localityScore
  evidenceScore := given.evidenceScore
  uncertaintyPenalty := given.uncertaintyPenalty
  hardwareProfileId := given.hardwareProfileId
  hardwareProfileGeneration := given.hardwareProfileGeneration
  topologyGraphId := given.topologyGraphId
  topologyGeneration := given.topologyGeneration
  pathBandwidthBytesPerS := given.pathBandwidthBytesPerS
  pathLatencyUs := given.pathLatencyUs
  pathResultId := given.pathResultId
  pathResultFingerprint := given.pathResultFingerprint
  memoryHeadroomBytes := given.memoryHeadroomBytes
  memorySupport := given.memorySupport
  precisionSupport := given.precisionSupport
  runtimeSupport := given.runtimeSupport
  softwareStackSupport := given.softwareStackSupport
  hardwareTrust := given.hardwareTrust
  topologyLocality := given.topologyLocality
  pathCapability := given.pathCapability
  topologyUncertainty := given.topologyUncertainty
  featureProvenance := given.normalizedProvenance
  evidenceIds := sortOn id given.evidenceIds
  scores_bounded := by simpa [scores] using valid.scores_bounded
  counts_pos := by simpa [counts] using valid.counts_pos
  latency_pos := valid.latency_pos
  headroom_nonneg := valid.headroom_nonneg
  evidence_canonical := valid.evidence_canonical
  provenance_canonical := valid.provenance_canonical

end FeatureFields

/-- Construct features from their fields. -/
def PlacementFeatures.construct (given : FeatureFields) : Except Fault PlacementFeatures :=
  checked FeatureFields.check FeatureFields.check_eq_ok_iff FeatureFields.toFeatures given

theorem PlacementFeatures.construct_of_valid {given : FeatureFields} (valid : given.Valid) :
    construct given = .ok (given.toFeatures valid) :=
  checked_eq_ok_iff.mpr ⟨valid, rfl⟩

/-! ## Extraction -/

/-- The score of a locality. -/
def localityScore : LocalityDomain → ℚ
  | .device => 1
  | .host => 95 / 100
  | .rack => 80 / 100
  | .zone => 65 / 100
  | .region => 50 / 100
  | .provider => 30 / 100
  | .unknown => 0

/-- Supported, where it is asked for. -/
def supportedWhere (asked : Bool) : PlacementSupportState :=
  if asked then .supported else .unknown

/-- The headroom that a capacity leaves over a minimum, and whether it suffices. -/
def memorySupportOf : Option Int → Option Int → Option Int × PlacementSupportState
  | some minimum, some capacity =>
      (some (max 0 (capacity - minimum)), if minimum ≤ capacity then .supported else .unsupported)
  | _, _ => (none, .unknown)

/-- What is supported of a requirement. -/
structure HardwareSupport where
  memory : Option Int × PlacementSupportState := (none, .unknown)
  precision : PlacementSupportState := .unknown
  runtime : PlacementSupportState := .unknown
  softwareStack : PlacementSupportState := .unknown

section Extraction

variable {digest : Digest}

/-- What a profile supports of a requirement. -/
def hardwareSupport (profile : HardwarePersonalityProfile digest)
    (requirement : HardwareRequirement) : HardwareSupport where
  memory := memorySupportOf requirement.minimumMemoryBytes profile.descriptor.memoryCapacityBytes
  precision := supportedWhere requirement.requiredPrecision.isSome
  runtime := supportedWhere requirement.requiredRuntimeCapability.isSome
  softwareStack := supportedWhere (profile.softwareStack ≠ [])

/-- A candidate records a profile by its identity, generation and fingerprint. -/
def RecordsProfile (candidate : PlacementCandidate)
    (profile : HardwarePersonalityProfile digest) : Prop :=
  profile.hardwareProfileId = candidate.hardwareProfileId ∧
    candidate.hardwareProfileGeneration = some profile.profileGeneration ∧
    candidate.hardwareProfileFingerprint = some profile.profileFingerprint

instance (candidate : PlacementCandidate) (profile : HardwarePersonalityProfile digest) :
    Decidable (RecordsProfile candidate profile) :=
  inferInstanceAs (Decidable (_ ∧ _))

/-- A candidate records a path by its graph, identity, fingerprint and destination. -/
def RecordsPath (candidate : PlacementCandidate) (path : PathResult) : Prop :=
  candidate.topologyGraphId = some path.fields.graphId ∧
    candidate.topologyGeneration = some path.fields.graphGeneration ∧
    candidate.pathResultId = some path.pathResultId ∧
    candidate.pathResultFingerprint = some path.fingerprint ∧
    candidate.topologyNodeId = path.fields.destinationNodeId

instance (candidate : PlacementCandidate) (path : PathResult) :
    Decidable (RecordsPath candidate path) :=
  inferInstanceAs (Decidable (_ ∧ _))

/-- The support that features report for a candidate: a profile and a requirement are given
together. -/
def supportFor (candidate : PlacementCandidate) :
    Option (HardwarePersonalityProfile digest) → Option HardwareRequirement →
      Except Fault HardwareSupport
  | none, none => .ok {}
  | some profile, some requirement => do
      require (RecordsProfile candidate profile)
        (.value "candidate hardware profile provenance mismatch")
      return hardwareSupport profile requirement
  | _, _ => .error (.value "hardware profile and requirement must be supplied together")

/-- Where each feature comes from. -/
def provenanceOf (path : PathResult) (profileFingerprint : String) :
    List (String × List String) := [
  ("hardware_trust", [profileFingerprint]), ("memory_headroom", [profileFingerprint]),
  ("precision_support", [profileFingerprint]), ("runtime_support", [profileFingerprint]),
  ("software_stack_support", [profileFingerprint]),
  ("path_bandwidth", path.fields.metricEvidenceIds),
  ("path_latency", path.fields.metricEvidenceIds),
  ("topology_locality", [path.pathResultId])]

/-- One, where a path is measured. -/
def evidenceScore (path : PathResult) : ℚ :=
  if path.fields.metricEvidenceIds = [] then 0 else 1

/-- One, where it is not. -/
def uncertaintyPenalty (path : PathResult) : ℚ :=
  if path.fields.metricEvidenceIds = [] then 1 else 0

/-- The fields of the features of a candidate that records a path. -/
def typedFeatureFields (candidate : PlacementCandidate) (path : PathResult)
    (profileFingerprint : String) (support : HardwareSupport) : FeatureFields where
  candidateId := candidate.candidateId
  compatibilityScore := 1
  localityScore := localityScore path.fields.locality
  evidenceScore := evidenceScore path
  uncertaintyPenalty := uncertaintyPenalty path
  hardwareProfileId := some candidate.hardwareProfileId
  hardwareProfileGeneration := candidate.hardwareProfileGeneration
  topologyGraphId := some path.fields.graphId
  topologyGeneration := some path.fields.graphGeneration
  pathBandwidthBytesPerS := path.fields.measuredBottleneckBandwidthBytesPerS <|>
    path.fields.declaredBottleneckBandwidthBytesPerS
  pathLatencyUs :=
    path.fields.measuredAggregateLatencyUs <|> path.fields.declaredAggregateLatencyUs
  pathResultId := some path.pathResultId
  pathResultFingerprint := some path.fingerprint
  memoryHeadroomBytes := support.memory.1
  memorySupport := support.memory.2
  precisionSupport := support.precision
  runtimeSupport := support.runtime
  softwareStackSupport := support.softwareStack
  hardwareTrust := .supported
  topologyLocality := some path.fields.locality.value
  pathCapability := .supported
  topologyUncertainty := uncertaintyPenalty path
  featureProvenance := sortOn Prod.fst (provenanceOf path profileFingerprint)
  evidenceIds := path.fields.metricEvidenceIds

/-- The features of a candidate, from the path that it records, validated against the graph where
one is given, and from the profile that it records, where one is given with a requirement. -/
def extractTypedFeatures (candidate : PlacementCandidate) (pathResult : PathResult)
    (topologyGraph : Option (TopologyGraph digest))
    (hardwareProfile : Option (HardwarePersonalityProfile digest))
    (requirement : Option HardwareRequirement) : Except Fault PlacementFeatures := do
  require (candidate.eligible = true ∧ candidate.topologyGraphId ≠ none)
    (.value "typed eligible placement candidate required")
  let path ←
    PathResult.construct digest pathResult.pathResultId pathResult.fields pathResult.fingerprint
  forEach (fun graph => (validateCurrentPathResult path graph).map fun _ => ())
    topologyGraph.toList
  require (RecordsPath candidate path) (.value "candidate path provenance mismatch")
  require (path.fields.capabilityState = .available)
    (.value "candidate topology path unavailable")
  let support ← supportFor candidate hardwareProfile requirement
  let profileFingerprint ← candidate.hardwareProfileFingerprint.elim
    (.error (.validation "PlacementFeatures" "feature_provenance.0.1.0"
      "Input should be a valid string")) .ok
  PlacementFeatures.construct (typedFeatureFields candidate path profileFingerprint support)

/-! ## What is extracted -/

theorem localityScore_bounded (locality : LocalityDomain) :
    0 ≤ localityScore locality ∧ localityScore locality ≤ 1 := by
  cases locality <;> norm_num [localityScore]

theorem evidenceScore_bounded (path : PathResult) :
    0 ≤ evidenceScore path ∧ evidenceScore path ≤ 1 := by
  unfold evidenceScore
  split <;> norm_num

theorem uncertaintyPenalty_bounded (path : PathResult) :
    0 ≤ uncertaintyPenalty path ∧ uncertaintyPenalty path ≤ 1 := by
  unfold uncertaintyPenalty
  split <;> norm_num

theorem headroom_nonneg {minimum capacity : Option Int} {headroom : Int}
    (left : headroom ∈ (memorySupportOf minimum capacity).1) : 0 ≤ headroom := by
  unfold memorySupportOf at left
  split at left
  · obtain rfl := Option.some_inj.mp left
    exact le_max_left _ _
  · nomatch left

/-- The names of the features that have provenance. -/
def provenanceNames : List String := [
  "hardware_trust", "memory_headroom", "precision_support", "runtime_support",
  "software_stack_support", "path_bandwidth", "path_latency", "topology_locality"]

theorem provenanceNames_distinct : provenanceNames.Nodup ∧
    ∀ name ∈ provenanceNames, Text.Nonblank name := by
  decide

variable {path : PathResult} {candidate : PlacementCandidate}

theorem normalizedProvenance_perm (profileFingerprint : String) (support : HardwareSupport) :
    ((typedFeatureFields candidate path profileFingerprint support).normalizedProvenance).Perm
      ((provenanceOf path profileFingerprint).map fun entry => (entry.1, sortOn id entry.2)) :=
  (sortOn_perm Prod.fst _).map _

/-- The features of a candidate that records a fitting path keep their contract. -/
theorem typedFeatureFields_valid {profileFingerprint : String} {support : HardwareSupport}
    (fit : path.fields.Fit) (identity : Text.Nonblank path.pathResultId)
    (fingerprint : Text.Nonblank profileFingerprint)
    (generation : ∀ generation ∈ candidate.hardwareProfileGeneration, 1 ≤ generation)
    (headroom : ∀ headroom ∈ support.memory.1, 0 ≤ headroom) :
    (typedFeatureFields candidate path profileFingerprint support).Valid := by
  have evidenceCanonical := fit.evidence_canonical path.fields.metricEvidenceIds (by simp)
  have evidenceDistinct : path.fields.metricEvidenceIds.Nodup :=
    evidenceCanonical ▸ canonical_nodup id path.fields.metricEvidenceIds
  have evidenceVisible : ∀ text ∈ path.fields.metricEvidenceIds, Text.Nonblank text :=
    fun text member => (fit.texts_trimmed text (by simp [member])).nonblank
  have perm := @normalizedProvenance_perm path candidate profileFingerprint support
  constructor
  case scores_bounded =>
    simp only [FeatureFields.scores, typedFeatureFields, List.forall_mem_cons, List.not_mem_nil,
      false_implies, implies_true, and_true]
    exact ⟨by norm_num, localityScore_bounded _, evidenceScore_bounded path,
      uncertaintyPenalty_bounded path, uncertaintyPenalty_bounded path⟩
  case counts_pos =>
    have bandwidths := fit.bandwidths_pos
    simp only [FeatureFields.counts, typedFeatureFields, List.forall_mem_cons, List.not_mem_nil,
      false_implies, implies_true, and_true] at bandwidths ⊢
    refine ⟨generation, fun count same => ?_, fun bandwidth found => ?_⟩
    · obtain rfl := Option.some_inj.mp same
      exact fit.generation_pos
    · cases measured : path.fields.measuredBottleneckBandwidthBytesPerS <;>
        simp_all
  case latency_pos =>
    have latencies := fit.latencies_pos
    simp only [List.forall_mem_cons, List.not_mem_nil, false_implies, implies_true, and_true]
      at latencies
    intro latency found
    simp only [typedFeatureFields] at found
    cases measured : path.fields.measuredAggregateLatencyUs <;> simp_all
  case headroom_nonneg => exact headroom
  case provenance_sorted =>
    exact sortOn_eq_self Prod.fst (List.pairwise_map.mpr (sortOn_pairwise Prod.fst _))
  case provenance_nodup =>
    rw [(perm.map Prod.fst).nodup_iff, List.map_map]
    exact provenanceNames_distinct.1
  case provenance_nonblank =>
    intro entry member
    obtain ⟨origin, inOrigins, rfl⟩ := List.mem_map.mp (perm.mem_iff.mp member)
    refine ⟨provenanceNames_distinct.2 _ (List.mem_map_of_mem (f := Prod.fst) inOrigins),
      fun text inText => ?_⟩
    have originVisible : ∀ entry ∈ provenanceOf path profileFingerprint,
        ∀ text ∈ entry.2, Text.Nonblank text := by
      simp only [provenanceOf, List.forall_mem_cons, List.not_mem_nil, false_implies, implies_true,
        and_true]
      exact ⟨fingerprint, fingerprint, fingerprint, fingerprint, fingerprint, evidenceVisible,
        evidenceVisible, identity⟩
    exact originVisible origin inOrigins text ((mem_sortOn id).mp inText)
  case evidence_distinct => exact ⟨evidenceDistinct, evidenceVisible⟩

/-! ## Features of generated candidates -/

variable {segment : ExecutionSegment} {requirement : HardwareRequirement}
  {graph : TopologyGraph digest} {sourceNodeId nodeId : String}
  {profile : HardwarePersonalityProfile digest}

/-- What features say of a candidate, with the path to it and the profile of its hardware. -/
structure Describes (features : PlacementFeatures) (candidate : PlacementCandidate)
    (path : PathResult) (profile : HardwarePersonalityProfile digest)
    (requirement : HardwareRequirement) : Prop where
  candidateId : features.candidateId = candidate.candidateId
  locality : features.topologyLocality = some path.fields.locality.value
  evidence : features.evidenceIds = path.fields.metricEvidenceIds
  /-- What is measured goes before what is declared. -/
  bandwidth : features.pathBandwidthBytesPerS =
    (path.fields.measuredBottleneckBandwidthBytesPerS <|>
      path.fields.declaredBottleneckBandwidthBytesPerS)
  latency : features.pathLatencyUs =
    (path.fields.measuredAggregateLatencyUs <|> path.fields.declaredAggregateLatencyUs)
  /-- A minimum of memory is met, and the headroom is what the capacity leaves over it. -/
  memory : ∀ minimum ∈ requirement.minimumMemoryBytes, features.memorySupport = .supported ∧
    ∃ capacity ∈ profile.descriptor.memoryCapacityBytes, minimum ≤ capacity ∧
      features.memoryHeadroomBytes = some (capacity - minimum)
  /-- The profile is capable of a precision that is reported as supported. -/
  precision : ∀ precision ∈ requirement.requiredPrecision, features.precisionSupport = .supported ∧
    profile.Capable ("precision." ++ precision.value)
  /-- So it is of a runtime capability. -/
  runtime : ∀ capability ∈ requirement.requiredRuntimeCapability,
    features.runtimeSupport = .supported ∧ profile.Capable capability
  /-- Nothing is reported as unsupported. -/
  unhindered : ∀ support ∈ [features.memorySupport, features.precisionSupport,
    features.runtimeSupport, features.softwareStackSupport], support ≠ .unsupported
  /-- Every feature comes from the profile, the measurements or the path. -/
  provenance : ∀ entry ∈ features.featureProvenance, entry.2 = [profile.profileFingerprint] ∨
    entry.2 = path.fields.metricEvidenceIds ∨ entry.2 = [path.pathResultId]

theorem supportedWhere_ne_unsupported (asked : Bool) : supportedWhere asked ≠ .unsupported := by
  cases asked <;> simp [supportedWhere]

theorem memorySupportOf_satisfied (satisfied : requirement.SatisfiedBy profile) :
    (∀ minimum ∈ requirement.minimumMemoryBytes,
      (hardwareSupport profile requirement).memory.2 = .supported ∧
      ∃ capacity ∈ profile.descriptor.memoryCapacityBytes, minimum ≤ capacity ∧
        (hardwareSupport profile requirement).memory.1 = some (capacity - minimum)) ∧
    (hardwareSupport profile requirement).memory.2 ≠ .unsupported := by
  cases required : requirement.minimumMemoryBytes with
  | none => simp [hardwareSupport, memorySupportOf, required]
  | some minimum =>
      obtain ⟨capacity, found, enough⟩ := satisfied.memory minimum required
      rw [Option.mem_def] at found
      simp [hardwareSupport, memorySupportOf, required, found, enough]

theorem sortOn_provenance (fit : path.fields.Fit) {profileFingerprint : String}
    {support : HardwareSupport} {entry : String × List String}
    (member : entry ∈
      (typedFeatureFields candidate path profileFingerprint support).normalizedProvenance) :
    entry.2 = [profileFingerprint] ∨ entry.2 = path.fields.metricEvidenceIds ∨
      entry.2 = [path.pathResultId] := by
  have evidenceSorted : sortOn id path.fields.metricEvidenceIds = path.fields.metricEvidenceIds :=
    sortOn_of_canonical (fit.evidence_canonical path.fields.metricEvidenceIds (by simp))
  obtain ⟨origin, inOrigins, rfl⟩ := List.mem_map.mp
    ((normalizedProvenance_perm profileFingerprint support).mem_iff.mp member)
  have sorted : ∀ entry ∈ provenanceOf path profileFingerprint,
      sortOn id entry.2 = entry.2 ∧ (entry.2 = [profileFingerprint] ∨
        entry.2 = path.fields.metricEvidenceIds ∨ entry.2 = [path.pathResultId]) := by
    have alone (text : String) : sortOn id [text] = [text] := rfl
    simp [provenanceOf, evidenceSorted, alone]
  obtain ⟨kept, origins⟩ := sorted origin inOrigins
  simpa only [kept] using origins

/-- Where a path is available, one is built that is accepted for its graph, and a candidate for its
destination records it. -/
theorem exists_accepted_path (hexadecimal : digest.Hexadecimal)
    (available : pathCapability graph sourceNodeId nodeId = .available) :
    ∃ path, buildPathResult graph sourceNodeId nodeId [] = .ok path ∧ path.fields.Fit ∧
      Text.Nonblank path.pathResultId ∧
      PathResult.construct digest path.pathResultId path.fields path.fingerprint = .ok path ∧
      validateCurrentPathResult path graph = .ok path ∧
      ∀ (segment : ExecutionSegment) (profile : HardwarePersonalityProfile digest),
        RecordsPath (typedCandidate segment graph nodeId profile path) path := by
  obtain ⟨fields, made, fit, _⟩ := pathFields_of_available available
  obtain ⟨drafted, _⟩ := drafted_of_pathFields made
  refine ⟨_, build_of_settled hexadecimal made fit.settled, fit, (hexadecimal.trimmed _).nonblank,
    PathResult.construct_of_fit hexadecimal fit, validate_of_settled hexadecimal made fit.settled,
    fun segment profile => ?_⟩
  exact ⟨congrArg some drafted.graphId.symm, congrArg some drafted.graphGeneration.symm, rfl, rfl,
    drafted.destination.symm⟩

/-- Extraction answers for a candidate that records an accepted path and a profile that satisfies
the requirement, and the features describe the candidate. -/
theorem exists_extractTypedFeatures (fit : path.fields.Fit)
    (identity : Text.Nonblank path.pathResultId)
    (constructed : PathResult.construct digest path.pathResultId path.fields path.fingerprint =
      .ok path)
    (accepted : validateCurrentPathResult path graph = .ok path)
    (recorded : RecordsPath (typedCandidate segment graph nodeId profile path) path)
    (satisfied : requirement.SatisfiedBy profile) :
    ∃ features, extractTypedFeatures (typedCandidate segment graph nodeId profile path) path
        (some graph) (some profile) (some requirement) = .ok features ∧
      Describes features (typedCandidate segment graph nodeId profile path) path profile
        requirement ∧
      features.compatibilityScore = 1 ∧
      features.localityScore = localityScore path.fields.locality ∧
      features.evidenceScore = evidenceScore path ∧
      features.uncertaintyPenalty = uncertaintyPenalty path := by
  let candidate := typedCandidate segment graph nodeId profile path
  let support := hardwareSupport profile requirement
  have valid : (typedFeatureFields candidate path profile.profileFingerprint support).Valid := by
    refine typedFeatureFields_valid fit identity
      (profile.texts_trimmed _ (by simp)).nonblank (fun generation same => ?_)
      (fun _ left => headroom_nonneg left)
    obtain rfl := Option.some_inj.mp same
    exact profile.generation_pos
  have recordsProfile : RecordsProfile candidate profile := ⟨rfl, rfl, rfl⟩
  have available : path.fields.capabilityState = .available := fit.available
  have eligible : candidate.eligible = true ∧ candidate.topologyGraphId ≠ none :=
    ⟨rfl, Option.some_ne_none _⟩
  have supported : supportFor candidate (some profile) (some requirement) = .ok support := by
    simp only [supportFor, require_of_true recordsProfile, ok_bind]
    rfl
  refine ⟨(typedFeatureFields candidate path profile.profileFingerprint support).toFeatures valid,
    ?_, ?_, rfl, rfl, rfl, rfl⟩
  · have extracted := PlacementFeatures.construct_of_valid valid
    rw [extractTypedFeatures, require_of_true eligible, ok_bind, constructed, ok_bind]
    simp only [Option.toList_some, forEach, accepted, Except.map, ok_bind,
      require_of_true recorded, require_of_true available]
    rw [supported, ok_bind]
    exact extracted
  · obtain ⟨memory, memoryMet⟩ := memorySupportOf_satisfied satisfied
    have evidenceSorted : sortOn id path.fields.metricEvidenceIds =
        path.fields.metricEvidenceIds :=
      sortOn_of_canonical (fit.evidence_canonical path.fields.metricEvidenceIds (by simp))
    constructor
    case candidateId => rfl
    case locality => rfl
    case evidence => exact evidenceSorted
    case bandwidth => rfl
    case latency => rfl
    case memory => exact memory
    case precision =>
      intro precision required
      refine ⟨?_, satisfied.precision precision required⟩
      rw [Option.mem_def] at required
      simp [FeatureFields.toFeatures, typedFeatureFields, support, hardwareSupport, required,
        supportedWhere]
    case runtime =>
      intro capability required
      refine ⟨?_, satisfied.runtime capability required⟩
      rw [Option.mem_def] at required
      simp [FeatureFields.toFeatures, typedFeatureFields, support, hardwareSupport, required,
        supportedWhere]
    case unhindered =>
      simp only [List.forall_mem_cons, List.not_mem_nil, false_implies, implies_true, and_true]
      exact ⟨memoryMet, supportedWhere_ne_unsupported _, supportedWhere_ne_unsupported _,
        supportedWhere_ne_unsupported _⟩
    case provenance => exact fun entry member => sortOn_provenance fit member

end Extraction

/-! ## What extraction accepts -/

section Acceptance

variable {digest : Digest}

theorem map_strip_normalized (texts : List String) :
    (sortOn id (texts.map Text.strip)).map Text.strip = sortOn id (texts.map Text.strip) := by
  conv_rhs => rw [← List.map_id (sortOn id (texts.map Text.strip))]
  refine List.map_congr_left fun text member => ?_
  obtain ⟨_, _, rfl⟩ := List.mem_map.mp ((mem_sortOn id).mp member)
  exact Text.strip_strip _

/-- Fields that are in order stay as they are. -/
theorem normalized_normalized (fields : PathFields) :
    fields.normalized.normalized = fields.normalized := by
  have sorted (texts : List String) : sortOn id (sortOn id texts) = sortOn id texts :=
    sortOn_eq_self id (sortOn_pairwise id texts)
  simp only [PathFields.normalized, Text.strip_strip, map_strip_normalized, sorted, List.map_map]
  simp [Function.comp_def, Text.strip_strip]

theorem eq_of_construct {pathResultId fingerprint : String} {fields : PathFields}
    {path : PathResult}
    (constructed : PathResult.construct digest pathResultId fields fingerprint = .ok path) :
    path = ⟨Text.strip pathResultId, fields.normalized, Text.strip fingerprint⟩ := by
  simp only [PathResult.construct] at constructed
  split at constructed
  · simp only [bind_eq_ok, pure_eq_ok, Except.ok.injEq] at constructed
    obtain ⟨_, _, _, _, _, _, _, _, _, _, _, _, _, _, _, _, _, _, _, _, rfl⟩ := constructed
    rfl
  · simp only [bind_eq_ok, pure_eq_ok, Except.ok.injEq] at constructed
    obtain ⟨_, _, _, _, _, _, _, _, _, _, _, _, _, _, _, _, _, _, rfl⟩ := constructed
    rfl

theorem eq_of_construct_again {pathResultId fingerprint : String} {fields : PathFields}
    {path again : PathResult}
    (constructed : PathResult.construct digest pathResultId fields fingerprint = .ok path)
    (constructedAgain : PathResult.construct digest path.pathResultId path.fields path.fingerprint =
      .ok again) : again = path := by
  rw [eq_of_construct constructedAgain, eq_of_construct constructed, normalized_normalized,
    Text.strip_strip, Text.strip_strip]

theorem build_of_validate {graph : TopologyGraph digest} {pathResultId fingerprint : String}
    {fields : PathFields} {path accepted : PathResult}
    (constructed : PathResult.construct digest pathResultId fields fingerprint = .ok path)
    (validated : validateCurrentPathResult path graph = .ok accepted) :
    buildPathResult graph path.fields.sourceNodeId path.fields.destinationNodeId
      path.fields.provenanceIds = .ok path := by
  simp only [validateCurrentPathResult, bind_eq_ok, require_eq_ok, exists_const, pure_eq_ok]
    at validated
  obtain ⟨again, constructedAgain, _, current, built, rfl, _⟩ := validated
  obtain rfl := eq_of_construct_again constructed constructedAgain
  exact built

/-- What features that were extracted say of their candidate, the path and the profile. -/
structure Accepted (candidate : PlacementCandidate) (pathResult : PathResult)
    (topologyGraph : Option (TopologyGraph digest))
    (hardwareProfile : Option (HardwarePersonalityProfile digest))
    (features : PlacementFeatures) : Prop where
  /-- The path result is one that the candidate records. -/
  path : ∃ path, PathResult.construct digest pathResult.pathResultId pathResult.fields
      pathResult.fingerprint = .ok path ∧
    RecordsPath candidate path ∧ path.fields.capabilityState = .available ∧
    features.evidenceIds = sortOn id path.fields.metricEvidenceIds ∧
    ∀ graph ∈ topologyGraph, buildPathResult graph path.fields.sourceNodeId
      candidate.topologyNodeId path.fields.provenanceIds = .ok path
  /-- So is the profile. -/
  profile : ∀ profile ∈ hardwareProfile, RecordsProfile candidate profile
  eligible : candidate.eligible = true
  named : features.candidateId = candidate.candidateId

theorem accepted_of_extracted {candidate : PlacementCandidate} {pathResult : PathResult}
    {topologyGraph : Option (TopologyGraph digest)}
    {hardwareProfile : Option (HardwarePersonalityProfile digest)}
    {requirement : Option HardwareRequirement} {features : PlacementFeatures}
    (extracted : extractTypedFeatures candidate pathResult topologyGraph hardwareProfile
      requirement = .ok features) :
    Accepted candidate pathResult topologyGraph hardwareProfile features := by
  simp only [extractTypedFeatures, bind_eq_ok, require_eq_ok, exists_const, forEach_eq_ok,
    Option.mem_toList] at extracted
  obtain ⟨⟨eligible, _⟩, path, constructed, validated, recorded, available, support, supported, _,
    _, made⟩ := extracted
  obtain ⟨valid, rfl⟩ := checked_eq_ok_iff.mp made
  refine ⟨⟨path, constructed, recorded, available, rfl, fun graph given => ?_⟩,
    fun profile given => ?_, eligible, rfl⟩
  · have accepted := validated graph given
    cases outcome : validateCurrentPathResult path graph with
    | error raised => simp [outcome, Except.map] at accepted
    | ok result =>
        rw [recorded.2.2.2.2]
        exact build_of_validate constructed outcome
  · rw [Option.mem_def] at given
    subst given
    cases requirement with
    | none => simp [supportFor] at supported
    | some requirement =>
        simp only [supportFor, bind_eq_ok, require_eq_ok, exists_const] at supported
        exact supported.1

end Acceptance

end Placement
end MercuryX
