import MercuryX.HardwarePersonality.Evidence

/-!
# The lifecycle of hardware profiles

A profile is built from evidence. Its trust moves along a table, and a refresh builds its next
generation from other evidence. The builder states a profile as verified only on verified evidence;
a transition does not see the evidence again, so it raises what was built on unverified records.
-/

namespace MercuryX
namespace HardwarePersonality

open Foundation

/-! ## Construction -/

/-- The fields of a profile. -/
structure ProfileFields extends ProfileContent where
  hardwareProfileId : String
  profileFingerprint : String

variable (digest : Digest)

/-- What the contract asks of a profile, whose identity fields are trimmed. -/
structure ProfileFields.Valid (fields : ProfileFields) : Prop where
  /-- Identity fields are nonblank. -/
  texts_nonblank : ∀ text ∈ [fields.hardwareProfileId, fields.profileFingerprint],
    Text.Nonblank text
  /-- Bandwidths are at least one. -/
  bandwidths_pos : ∀ field ∈ [fields.declaredMemoryBandwidthBytesPerS,
    fields.measuredMemoryBandwidthBytesPerS], ∀ bandwidth ∈ field, 1 ≤ bandwidth
  /-- Generations start at one. -/
  generation_pos : 1 ≤ fields.profileGeneration
  /-- Texts stand in canonical form. -/
  texts_canonical : ∀ texts ∈ [fields.interconnectCapabilities, fields.runtimeCapabilities,
    fields.softwareStack, fields.powerConstraints, fields.evidenceRecordIds], CanonicalTexts texts
  /-- Precisions, capabilities and affinities stand once each, in order. -/
  names_canonical : ∀ names ∈ [fields.supportedPrecisions.map HardwarePrecision.value,
    fields.capabilities.map CapabilityAssessment.propertyName,
    fields.workloadAffinities.map fun affinity => affinity.dimension.value],
      canonical id names = names
  /-- The identity is that of the hardware and the generation. -/
  id_verified : Text.strip fields.hardwareProfileId =
    makeProfileIdentity digest fields.descriptor.hardwareId fields.profileGeneration
  /-- A verified profile has evidence. -/
  evidence_of_verified : fields.trustState = .verified → fields.evidenceRecordIds ≠ []
  /-- The fingerprint is that of the content. -/
  fingerprint_verified : Text.strip fields.profileFingerprint =
    makeHardwareProfileFingerprint digest (Text.strip fields.hardwareProfileId)
      fields.toProfileContent

/-- The check of a field whose items have distinct names, in order. -/
def canonicalNames (contract field repeated : String) (names : List String) :
    Except Fault Unit := do
  rule contract field names.Nodup repeated
  rule contract field (canonical id names = names) s!"{field} must be canonical"

theorem canonicalNames_eq_ok {contract field repeated : String} {names : List String}
    {done : Unit} :
    canonicalNames contract field repeated names = .ok done ↔ canonical id names = names := by
  simp only [canonicalNames, bind_eq_ok, rule_eq_ok, exists_and_left, exists_const,
    and_iff_right_iff_imp]
  exact fun sorted => sorted ▸ canonical_nodup id names

/-- The constraints on a profile. -/
def ProfileFields.check (fields : ProfileFields) : Except Fault Unit := do
  let contract := "HardwarePersonalityProfile"
  rule contract "hardware_profile_id" (Text.Nonblank fields.hardwareProfileId)
    "hardware_profile_id must be nonblank"
  canonicalNames contract "capabilities" "duplicate capability"
    (fields.capabilities.map CapabilityAssessment.propertyName)
  canonicalNames contract "supported_precisions" "supported_precisions contains duplicates"
    (fields.supportedPrecisions.map HardwarePrecision.value)
  forEach (fieldGe contract "declared_memory_bandwidth_bytes_per_s" 1)
    fields.declaredMemoryBandwidthBytesPerS.toList
  forEach (fieldGe contract "measured_memory_bandwidth_bytes_per_s" 1)
    fields.measuredMemoryBandwidthBytesPerS.toList
  canonicalStrings contract "interconnect_capabilities" fields.interconnectCapabilities
  canonicalStrings contract "runtime_capabilities" fields.runtimeCapabilities
  canonicalStrings contract "software_stack" fields.softwareStack
  canonicalStrings contract "power_constraints" fields.powerConstraints
  canonicalStrings contract "evidence_record_ids" fields.evidenceRecordIds
  canonicalNames contract "workload_affinities" "duplicate workload affinity"
    (fields.workloadAffinities.map fun affinity => affinity.dimension.value)
  fieldGe contract "profile_generation" 1 fields.profileGeneration
  rule contract "profile_fingerprint" (Text.Nonblank fields.profileFingerprint)
    "profile_fingerprint must be nonblank"
  rule contract "" (Text.strip fields.hardwareProfileId =
      makeProfileIdentity digest fields.descriptor.hardwareId fields.profileGeneration)
    "hardware_profile_id does not match descriptor identity and generation"
  rule contract "" (fields.trustState = .verified → fields.evidenceRecordIds ≠ [])
    "VERIFIED profile requires evidence"
  rule contract "" (Text.strip fields.profileFingerprint =
      makeHardwareProfileFingerprint digest (Text.strip fields.hardwareProfileId)
        fields.toProfileContent)
    "profile_fingerprint does not match profile content"

variable {digest}

theorem ProfileFields.check_eq_ok_iff {fields : ProfileFields} {done : Unit} :
    fields.check digest = .ok done ↔ fields.Valid digest := by
  simp only [check, bind_eq_ok, rule_eq_ok, forEach_eq_ok, fieldGe_eq_ok, canonicalNames_eq_ok,
    canonicalStrings_eq_ok, exists_and_left, exists_const, Option.mem_toList]
  constructor
  · rintro ⟨profileId, capabilities, precisions, declared, measured, interconnect, runtime,
      software, power, evidence, affinities, generation, fingerprint, identified, verified,
      covered⟩
    exact {
      texts_nonblank := by simp [profileId, fingerprint]
      bandwidths_pos := by simpa using ⟨declared, measured⟩
      generation_pos := generation
      texts_canonical := by simp [interconnect, runtime, software, power, evidence]
      names_canonical := by simp [capabilities, precisions, affinities]
      id_verified := identified
      evidence_of_verified := verified
      fingerprint_verified := covered }
  · intro valid
    have texts := valid.texts_nonblank
    have bandwidths := valid.bandwidths_pos
    have canonical := valid.texts_canonical
    have names := valid.names_canonical
    simp only [List.mem_cons, List.not_mem_nil, or_false, forall_eq_or_imp, forall_eq]
      at texts bandwidths canonical names
    exact ⟨texts.1, names.2.1, names.1, bandwidths.1, bandwidths.2, canonical.1, canonical.2.1,
      canonical.2.2.1, canonical.2.2.2.1, canonical.2.2.2.2, names.2.2, valid.generation_pos,
      texts.2, valid.id_verified, valid.evidence_of_verified, valid.fingerprint_verified⟩

namespace HardwarePersonalityProfile

/-- The profile that valid fields make: identity fields are trimmed. -/
def make (fields : ProfileFields) (valid : fields.Valid digest) :
    HardwarePersonalityProfile digest where
  toProfileContent := fields.toProfileContent
  hardwareProfileId := Text.strip fields.hardwareProfileId
  profileFingerprint := Text.strip fields.profileFingerprint
  texts_trimmed := by
    have texts := valid.texts_nonblank
    simp only [List.mem_cons, List.not_mem_nil, or_false, forall_eq_or_imp, forall_eq] at texts ⊢
    exact ⟨⟨Text.nonblank_strip texts.1, Text.strip_strip _⟩,
      Text.nonblank_strip texts.2, Text.strip_strip _⟩
  bandwidths_pos := valid.bandwidths_pos
  generation_pos := valid.generation_pos
  texts_canonical := valid.texts_canonical
  names_canonical := valid.names_canonical
  id_verified := valid.id_verified
  evidence_of_verified := valid.evidence_of_verified
  fingerprint_verified := valid.fingerprint_verified

variable (digest) in
/-- Construct a profile. -/
def construct (fields : ProfileFields) : Except Fault (HardwarePersonalityProfile digest) :=
  checked (ProfileFields.check digest) ProfileFields.check_eq_ok_iff make fields

theorem construct_eq_ok_iff {fields : ProfileFields}
    {profile : HardwarePersonalityProfile digest} :
    construct digest fields = .ok profile ↔ ∃ valid, make fields valid = profile :=
  checked_eq_ok_iff

end HardwarePersonalityProfile

/-! ## Building -/

/-- What a profile is built from. -/
structure ProfileRequest (digest : Digest) where
  descriptor : HardwareDescriptor
  evidence : List (HardwareEvidenceRecord digest)
  profileGeneration : Int := 1
  trustState : HardwareTrustState := .unverified
  declaredMemoryBandwidthBytesPerS : Option Int := none
  measuredMemoryBandwidthBytesPerS : Option Int := none
  interconnectCapabilities : List String := []
  runtimeCapabilities : List String := []
  softwareStack : List String := []
  powerConstraints : List String := []

/-- A verified measurement of a memory bandwidth. -/
def measures (bandwidth : Int) (item : HardwareEvidenceRecord digest) : Bool :=
  item.evidenceClass = .measured && item.propertyName = "memory.bandwidth_bytes_per_s" &&
    item.verificationStatus && item.observedValue = some (toString bandwidth) &&
    item.benchmarkId.isSome

/-- A measured bandwidth needs a verified measurement of it. -/
def requireMeasuredBandwidthEvidence (evidence : List (HardwareEvidenceRecord digest))
    (measuredValue : Option Int) : Except Fault Unit :=
  require (∀ bandwidth ∈ measuredValue.toList, evidence.any (measures bandwidth) = true)
    (.value "measured memory bandwidth requires matching verified MEASURED evidence")

/-- What is derived needs its sources, verified and of its own generation. -/
def checkDerived (evidence : List (HardwareEvidenceRecord digest))
    (item : HardwareEvidenceRecord digest) : Except Fault Unit := do
  let evidenceById := Dict.indexed (fun item => item.evidenceId) evidence
  if item.evidenceClass = .derived then
    require (∀ source ∈ item.derivedFromEvidenceIds, (evidenceById.get? source).isSome = true)
      (.value "derived evidence source missing from profile evidence")
    let sources := item.derivedFromEvidenceIds.filterMap evidenceById.get?
    require (∀ source ∈ sources, source.verificationStatus = true)
      (.value "DERIVED evidence requires verified source evidence")
    require (∀ source ∈ sources, source.generation = item.generation)
      (.value "DERIVED evidence source generation is stale")

/-- The precisions that are found to be supported, in the order of their texts. -/
def supportedPrecisions (capabilities : List CapabilityAssessment) : List HardwarePrecision :=
  sortOn HardwarePrecision.value (HardwarePrecision.all.filter fun precision =>
    capabilities.any fun item =>
      item.propertyName = "precision." ++ precision.value && item.supportState = .capable)

/-- The content of a profile that is built from a request, with what its evidence concludes. -/
def profileContent (request : ProfileRequest digest) (capabilities : List CapabilityAssessment)
    (affinities : List HardwareWorkloadAffinity) : ProfileContent where
  descriptor := request.descriptor
  capabilities := capabilities
  supportedPrecisions := supportedPrecisions capabilities
  declaredMemoryBandwidthBytesPerS := request.declaredMemoryBandwidthBytesPerS
  measuredMemoryBandwidthBytesPerS := request.measuredMemoryBandwidthBytesPerS
  interconnectCapabilities := canonical id request.interconnectCapabilities
  runtimeCapabilities := canonical id request.runtimeCapabilities
  softwareStack := canonical id request.softwareStack
  powerConstraints := canonical id request.powerConstraints
  evidenceRecordIds := evidenceIds (sortOn (fun item => item.evidenceId) request.evidence)
  workloadAffinities := affinities
  profileGeneration := request.profileGeneration
  trustState := request.trustState

/-- The fields of a profile that is built from a request. -/
def profileFields (request : ProfileRequest digest) (capabilities : List CapabilityAssessment)
    (affinities : List HardwareWorkloadAffinity) : ProfileFields :=
  let content := profileContent request capabilities affinities
  let hardwareProfileId :=
    makeProfileIdentity digest request.descriptor.hardwareId request.profileGeneration
  { content with
    hardwareProfileId := hardwareProfileId
    profileFingerprint := makeHardwareProfileFingerprint digest hardwareProfileId content }

/-- Build a profile. -/
def buildHardwarePersonalityProfile (request : ProfileRequest digest) :
    Except Fault (HardwarePersonalityProfile digest) := do
  let evidence := sortOn (fun item => item.evidenceId) request.evidence
  require (∀ item ∈ evidence, item.hardwareId = request.descriptor.hardwareId)
    (.value "evidence hardware mismatch")
  forEach (checkDerived evidence) evidence
  require (request.trustState = .verified →
      (evidence.any fun item => item.verificationStatus) = true)
    (.value "VERIFIED profile requires verified evidence")
  requireMeasuredBandwidthEvidence evidence request.measuredMemoryBandwidthBytesPerS
  let capabilities ← buildCapabilityMatrix evidence
  let affinities ← deriveWorkloadAffinities request.descriptor capabilities evidence
  require (1 ≤ request.profileGeneration) (.value "profile_generation must be positive")
  HardwarePersonalityProfile.construct digest (profileFields request capabilities affinities)

/-! ## Transitions -/

/-- The trust states that a trust state may move to. -/
def allowed : HardwareTrustState → List HardwareTrustState
  | .unverified => [.verified, .invalid]
  | .verified => [.stale, .invalid]
  | .stale => [.verified, .invalid]
  | .invalid => []

/-- A profile with another trust state, under a new fingerprint. -/
def refingerprint (profile : HardwarePersonalityProfile digest) (target : HardwareTrustState) :
    Except Fault (HardwarePersonalityProfile digest) :=
  let content := { profile.toProfileContent with trustState := target }
  HardwarePersonalityProfile.construct digest { content with
    hardwareProfileId := profile.hardwareProfileId
    profileFingerprint := makeHardwareProfileFingerprint digest profile.hardwareProfileId content }

/-- Move the trust of a profile. -/
def transitionHardwareTrust (profile : HardwarePersonalityProfile digest)
    (target : HardwareTrustState) : Except Fault (HardwarePersonalityProfile digest) := do
  require (target ∈ allowed profile.trustState) (.value "forbidden hardware trust transition")
  refingerprint profile target

/-- The request of the next generation of a profile. -/
def refreshRequest (profile : HardwarePersonalityProfile digest)
    (evidence : List (HardwareEvidenceRecord digest)) (trustState : HardwareTrustState) :
    ProfileRequest digest where
  descriptor := profile.descriptor
  evidence := evidence
  profileGeneration := profile.profileGeneration + 1
  trustState := trustState
  declaredMemoryBandwidthBytesPerS := profile.declaredMemoryBandwidthBytesPerS
  measuredMemoryBandwidthBytesPerS := profile.measuredMemoryBandwidthBytesPerS
  interconnectCapabilities := profile.interconnectCapabilities
  runtimeCapabilities := profile.runtimeCapabilities
  softwareStack := profile.softwareStack
  powerConstraints := profile.powerConstraints

/-- Build the next generation of a profile from other evidence. -/
def refreshHardwareProfile (profile : HardwarePersonalityProfile digest)
    (evidence : List (HardwareEvidenceRecord digest)) (trustState : HardwareTrustState) :
    Except Fault (HardwarePersonalityProfile digest) :=
  buildHardwarePersonalityProfile (refreshRequest profile evidence trustState)

/-! ## What builds and transitions yield -/

/-- A built profile stands on the evidence that it was built from. -/
structure BuiltFrom (request : ProfileRequest digest)
    (profile : HardwarePersonalityProfile digest) : Prop where
  /-- The trust state is the one asked for. -/
  trustState : profile.trustState = request.trustState
  /-- The generation is the one asked for. -/
  generation : profile.profileGeneration = request.profileGeneration
  /-- The measured bandwidth is the one given. -/
  measuredValue : profile.measuredMemoryBandwidthBytesPerS =
    request.measuredMemoryBandwidthBytesPerS
  /-- The records of the evidence are listed. -/
  listed : profile.evidenceRecordIds =
    evidenceIds (sortOn (fun item => item.evidenceId) request.evidence)
  /-- A verified profile has a verified record. -/
  verified : request.trustState = .verified →
    ∃ item ∈ request.evidence, item.verificationStatus = true
  /-- A measured bandwidth has a verified measurement. -/
  measured : ∀ bandwidth ∈ request.measuredMemoryBandwidthBytesPerS,
    ∃ item ∈ request.evidence, measures bandwidth item = true

theorem build_builtFrom {request : ProfileRequest digest}
    {profile : HardwarePersonalityProfile digest}
    (built : buildHardwarePersonalityProfile request = .ok profile) :
    BuiltFrom request profile := by
  simp only [buildHardwarePersonalityProfile, requireMeasuredBandwidthEvidence, bind_eq_ok,
    require_eq_ok, exists_and_left, exists_const,
    HardwarePersonalityProfile.construct_eq_ok_iff] at built
  obtain ⟨_, _, _, verified, measured, capabilities, _, affinities, _, _, _, rfl⟩ := built
  refine ⟨rfl, rfl, rfl, rfl, fun trusted => ?_, fun bandwidth given => ?_⟩
  · simpa using verified trusted
  · simpa using measured bandwidth (Option.mem_toList.mpr given)

/-- A transition moves along the table and changes nothing else. -/
structure Moved (profile next : HardwarePersonalityProfile digest)
    (target : HardwareTrustState) : Prop where
  /-- The table allows the move. -/
  isAllowed : target ∈ allowed profile.trustState
  /-- The content is that of the profile, with the trust state moved. -/
  content : next.toProfileContent = { profile.toProfileContent with trustState := target }

theorem transition_moved {profile next : HardwarePersonalityProfile digest}
    {target : HardwareTrustState} (moved : transitionHardwareTrust profile target = .ok next) :
    Moved profile next target := by
  simp only [transitionHardwareTrust, refingerprint, bind_eq_ok, require_eq_ok, exists_and_left,
    exists_const, HardwarePersonalityProfile.construct_eq_ok_iff] at moved
  obtain ⟨isAllowed, _, rfl⟩ := moved
  exact ⟨isAllowed, rfl⟩

/-- Under trimmed digests an allowed move is made, unless it raises a profile without evidence. -/
theorem exists_transition (hexadecimal : digest.Hexadecimal)
    {profile : HardwarePersonalityProfile digest} {target : HardwareTrustState}
    (isAllowed : target ∈ allowed profile.trustState)
    (evidence : target = .verified → profile.evidenceRecordIds ≠ []) :
    ∃ next, transitionHardwareTrust profile target = .ok next := by
  have identity := profile.texts_trimmed profile.hardwareProfileId (by simp)
  have fingerprint := hexadecimal.trimmed
  rw [transitionHardwareTrust, require_of_true isAllowed, ok_bind]
  refine ⟨_, HardwarePersonalityProfile.construct_eq_ok_iff.mpr ⟨?_, rfl⟩⟩
  exact {
    texts_nonblank := by
      simpa using ⟨identity.nonblank, (fingerprint _).nonblank⟩
    bandwidths_pos := profile.bandwidths_pos
    generation_pos := profile.generation_pos
    texts_canonical := profile.texts_canonical
    names_canonical := profile.names_canonical
    id_verified := identity.strip_eq.trans profile.id_verified
    evidence_of_verified := evidence
    fingerprint_verified := by
      rw [identity.strip_eq]
      exact (fingerprint _).strip_eq }

/-- What the builder asks of a request. -/
structure ProfileRequest.Buildable (request : ProfileRequest digest) : Prop where
  /-- The evidence is about the hardware. -/
  hardware : ∀ item ∈ request.evidence, item.hardwareId = request.descriptor.hardwareId
  /-- No record stands twice. -/
  distinct : (evidenceIds request.evidence).Nodup
  /-- What is derived has its sources. -/
  derived : ∀ item ∈ request.evidence,
    checkDerived (sortOn (fun item => item.evidenceId) request.evidence) item = .ok ()
  /-- A verified profile has a verified record. -/
  verified : request.trustState = .verified →
    ∃ item ∈ request.evidence, item.verificationStatus = true
  /-- A measured bandwidth has a verified measurement. -/
  measured : ∀ bandwidth ∈ request.measuredMemoryBandwidthBytesPerS,
    ∃ item ∈ request.evidence, measures bandwidth item = true
  /-- Generations start at one. -/
  generation_pos : 1 ≤ request.profileGeneration
  /-- Bandwidths are at least one. -/
  bandwidths_pos : ∀ field ∈ [request.declaredMemoryBandwidthBytesPerS,
    request.measuredMemoryBandwidthBytesPerS], ∀ bandwidth ∈ field, 1 ≤ bandwidth
  /-- Texts are nonblank. -/
  texts_nonblank : ∀ texts ∈ [request.interconnectCapabilities, request.runtimeCapabilities,
    request.softwareStack, request.powerConstraints], ∀ text ∈ texts, Text.Nonblank text

/-- The supported precisions stand once each, in order. -/
theorem supportedPrecisions_canonical (capabilities : List CapabilityAssessment) :
    canonical id ((supportedPrecisions capabilities).map HardwarePrecision.value) =
      (supportedPrecisions capabilities).map HardwarePrecision.value := by
  have distinct : (HardwarePrecision.all.map HardwarePrecision.value).Nodup := by decide
  refine canonical_eq_self id ?_ ?_
  · refine ((sortOn_perm _ _).map _).nodup_iff.mpr ?_
    exact distinct.sublist (List.filter_sublist.map _)
  · rw [List.pairwise_map]
    exact sortOn_pairwise _ _

theorem dimensions_canonical {affinities : List HardwareWorkloadAffinity}
    (dimensions : affinities.map HardwareWorkloadAffinity.dimension =
      sortOn HardwareAffinityDimension.value HardwareAffinityDimension.all) :
    canonical id (affinities.map fun affinity => affinity.dimension.value) =
      affinities.map fun affinity => affinity.dimension.value := by
  have names : (affinities.map fun affinity => affinity.dimension.value) =
      (sortOn HardwareAffinityDimension.value HardwareAffinityDimension.all).map
        HardwareAffinityDimension.value := by
    rw [← dimensions, List.map_map]
    rfl
  have distinct : (HardwareAffinityDimension.all.map HardwareAffinityDimension.value).Nodup := by
    decide
  rw [names]
  refine canonical_eq_self id ?_ ?_
  · exact ((sortOn_perm _ _).map _).nodup_iff.mpr distinct
  · rw [List.pairwise_map]
    exact sortOn_pairwise _ _

theorem profileFields_valid (hexadecimal : digest.Hexadecimal) {request : ProfileRequest digest}
    (buildable : request.Buildable) {capabilities : List CapabilityAssessment}
    {affinities : List HardwareWorkloadAffinity}
    (names : canonical id (capabilities.map CapabilityAssessment.propertyName) =
      capabilities.map CapabilityAssessment.propertyName)
    (dimensions : canonical id (affinities.map fun affinity => affinity.dimension.value) =
      affinities.map fun affinity => affinity.dimension.value) :
    (profileFields request capabilities affinities).Valid digest where
  texts_nonblank := by
    simpa using ⟨(hexadecimal.trimmed _).nonblank, (hexadecimal.trimmed _).nonblank⟩
  bandwidths_pos := buildable.bandwidths_pos
  generation_pos := buildable.generation_pos
  texts_canonical := by
    have visible := buildable.texts_nonblank
    have listed := evidenceIds_filter_canonical buildable.distinct fun _ => true
    rw [List.filter_true] at listed
    simp only [List.mem_cons, List.not_mem_nil, or_false, forall_eq_or_imp, forall_eq]
      at visible ⊢
    exact ⟨canonicalTexts_canonical visible.1, canonicalTexts_canonical visible.2.1,
      canonicalTexts_canonical visible.2.2.1, canonicalTexts_canonical visible.2.2.2, listed⟩
  names_canonical := by
    simp only [List.mem_cons, List.not_mem_nil, or_false, forall_eq_or_imp, forall_eq]
    exact ⟨supportedPrecisions_canonical capabilities, names, dimensions⟩
  id_verified := (hexadecimal.trimmed _).strip_eq
  evidence_of_verified := by
    intro trusted empty
    obtain ⟨item, member, _⟩ := buildable.verified trusted
    have listed : item.evidenceId ∈ (profileFields request capabilities
        affinities).evidenceRecordIds := List.mem_map_of_mem ((mem_sortOn _).mpr member)
    rw [empty] at listed
    contradiction
  fingerprint_verified := by
    have identity : Text.strip (profileFields request capabilities affinities).hardwareProfileId =
        (profileFields request capabilities affinities).hardwareProfileId :=
      (hexadecimal.trimmed _).strip_eq
    rw [identity, makeHardwareProfileFingerprint]
    exact (hexadecimal.trimmed _).strip_eq

theorem exists_build (hexadecimal : digest.Hexadecimal) {request : ProfileRequest digest}
    (buildable : request.Buildable) :
    ∃ profile, buildHardwarePersonalityProfile request = .ok profile := by
  have distinct : (evidenceIds (sortOn (fun item => item.evidenceId) request.evidence)).Nodup :=
    ((sortOn_perm _ _).map _).nodup_iff.mpr buildable.distinct
  obtain ⟨capabilities, assessed, names⟩ := exists_buildCapabilityMatrix distinct
  obtain ⟨affinities, derived, dimensions⟩ :=
    exists_deriveWorkloadAffinities distinct request.descriptor capabilities
  have lineage : forEach (checkDerived (sortOn (fun item => item.evidenceId) request.evidence))
      (sortOn (fun item => item.evidenceId) request.evidence) = .ok () := by
    simpa using buildable.derived
  have measured : requireMeasuredBandwidthEvidence
      (sortOn (fun item => item.evidenceId) request.evidence)
        request.measuredMemoryBandwidthBytesPerS = .ok () := by
    simpa [requireMeasuredBandwidthEvidence] using buildable.measured
  have ordered : canonical id (capabilities.map CapabilityAssessment.propertyName) =
      capabilities.map CapabilityAssessment.propertyName := by
    rw [names, capabilityNames, canonical_canonical]
  have valid := profileFields_valid hexadecimal buildable ordered (dimensions_canonical dimensions)
  refine ⟨.make (profileFields request capabilities affinities) valid, ?_⟩
  rw [buildHardwarePersonalityProfile, require_of_true (by simpa using buildable.hardware), ok_bind,
    lineage, ok_bind, require_of_true (by simpa using buildable.verified), ok_bind, measured,
    ok_bind, assessed, ok_bind, derived, ok_bind, require_of_true buildable.generation_pos, ok_bind]
  exact HardwarePersonalityProfile.construct_eq_ok_iff.mpr ⟨valid, rfl⟩

theorem nonblank_of_canonicalTexts {texts : List String}
    (canonicalTexts : CanonicalTexts (canonical id texts)) : ∀ text ∈ texts, Text.Nonblank text :=
  fun text member => canonicalTexts.1 text ((mem_canonical id).mpr member)

theorem buildable_of_build {request : ProfileRequest digest}
    {profile : HardwarePersonalityProfile digest}
    (built : buildHardwarePersonalityProfile request = .ok profile) : request.Buildable := by
  simp only [buildHardwarePersonalityProfile, requireMeasuredBandwidthEvidence, bind_eq_ok,
    require_eq_ok, forEach_eq_ok, exists_and_left, exists_const,
    HardwarePersonalityProfile.construct_eq_ok_iff] at built
  obtain ⟨hardware, derived, verified, measured, _, _, _, _, positive, valid, _⟩ := built
  have canonicalTexts := valid.texts_canonical
  simp only [profileFields, profileContent, List.forall_mem_cons] at canonicalTexts
  obtain ⟨interconnect, runtime, software, power, listed, _⟩ := canonicalTexts
  have distinct : (evidenceIds (sortOn (fun item => item.evidenceId) request.evidence)).Nodup :=
    listed.2 ▸ canonical_nodup id _
  exact {
    hardware := by simpa using hardware
    distinct := ((sortOn_perm _ _).map _).nodup_iff.mp distinct
    derived := by simpa using derived
    verified := by simpa using verified
    measured := by simpa using measured
    generation_pos := positive
    bandwidths_pos := valid.bandwidths_pos
    texts_nonblank := by
      simp only [List.forall_mem_cons]
      exact ⟨nonblank_of_canonicalTexts interconnect, nonblank_of_canonicalTexts runtime,
        nonblank_of_canonicalTexts software, nonblank_of_canonicalTexts power,
        List.forall_mem_nil _⟩ }

/-! ## Runs -/

variable (digest) in
/-- A profile with the evidence that it was built from. -/
structure Recorded where
  profile : HardwarePersonalityProfile digest
  evidence : List (HardwareEvidenceRecord digest)

variable (digest) in
/-- What is done to a profile after it is built. -/
inductive LifecycleOp where
  | transition (target : HardwareTrustState)
  | refresh (evidence : List (HardwareEvidenceRecord digest)) (trustState : HardwareTrustState)

/-- A refresh, not a transition. -/
def LifecycleOp.isRefresh : LifecycleOp digest → Bool
  | transition _ => false
  | refresh _ _ => true

/-- One operation on a profile. A refresh replaces the evidence, a transition leaves it. -/
def Recorded.apply (recorded : Recorded digest) :
    LifecycleOp digest → Except Fault (Recorded digest)
  | .transition target => do
      let profile ← transitionHardwareTrust recorded.profile target
      return ⟨profile, recorded.evidence⟩
  | .refresh evidence trustState => do
      let profile ← refreshHardwareProfile recorded.profile evidence trustState
      return ⟨profile, evidence⟩

variable (digest) in
/-- The lifecycle of a profile. -/
def lifecycle : Machine (Recorded digest) (LifecycleOp digest) Unit Fault :=
  .ofFunction Recorded.apply

/-- What is always so of a profile and its evidence. -/
structure Grounded (recorded : Recorded digest) : Prop where
  /-- The profile lists the records of the evidence. -/
  listed : recorded.profile.evidenceRecordIds =
    evidenceIds (sortOn (fun item => item.evidenceId) recorded.evidence)
  /-- A measured bandwidth has a verified measurement. -/
  measured : ∀ bandwidth ∈ recorded.profile.measuredMemoryBandwidthBytesPerS,
    ∃ item ∈ recorded.evidence, measures bandwidth item = true

/-- The evidence has a verified record. -/
def Verifiable (recorded : Recorded digest) : Prop :=
  ∃ item ∈ recorded.evidence, item.verificationStatus = true

/-- One successful step: a transition along the table, or a build of the next generation. -/
theorem apply_cases {recorded next : Recorded digest} {op : LifecycleOp digest}
    (applied : recorded.apply op = .ok next) :
    (∃ target, op = .transition target ∧ Moved recorded.profile next.profile target ∧
        next.evidence = recorded.evidence) ∨
      ∃ trustState, op = .refresh next.evidence trustState ∧
        BuiltFrom (refreshRequest recorded.profile next.evidence trustState) next.profile ∧
        (refreshRequest recorded.profile next.evidence trustState).Buildable := by
  cases op with
  | transition target =>
      simp only [Recorded.apply, bind_eq_ok, pure_eq_ok, Except.ok.injEq] at applied
      obtain ⟨profile, moved, rfl⟩ := applied
      exact .inl ⟨target, rfl, transition_moved moved, rfl⟩
  | refresh evidence trustState =>
      simp only [Recorded.apply, bind_eq_ok, pure_eq_ok, Except.ok.injEq] at applied
      obtain ⟨profile, built, rfl⟩ := applied
      exact .inr ⟨trustState, rfl, build_builtFrom built, buildable_of_build built⟩

theorem BuiltFrom.grounded {request : ProfileRequest digest}
    {profile : HardwarePersonalityProfile digest} (built : BuiltFrom request profile) :
    Grounded ⟨profile, request.evidence⟩ where
  listed := built.listed
  measured := fun bandwidth given => built.measured bandwidth (built.measuredValue ▸ given)

theorem Grounded.step {recorded next : Recorded digest} {op : LifecycleOp digest}
    (grounded : Grounded recorded) (applied : recorded.apply op = .ok next) : Grounded next := by
  obtain ⟨target, rfl, moved, same⟩ | ⟨trustState, rfl, built, _⟩ := apply_cases applied
  · constructor
    · rw [moved.content, same]
      exact grounded.listed
    · rw [moved.content, same]
      exact grounded.measured
  · exact built.grounded

/-- A transition that raises a profile to verified finds a verified record, or no record at all. -/
def RaisesBacked (recorded : Recorded digest) (op : LifecycleOp digest) : Prop :=
  op = .transition .verified → .verified ∈ allowed recorded.profile.trustState →
    recorded.evidence ≠ [] → Verifiable recorded

/-- A refresh that can be built takes a profile out of the invalid state only with a record that the
profile was not built from. -/
def RenewsEvidence (recorded : Recorded digest) (op : LifecycleOp digest) : Prop :=
  ∀ evidence trustState, op = .refresh evidence trustState →
    recorded.profile.trustState = .invalid → trustState ≠ .invalid →
    (refreshRequest recorded.profile evidence trustState).Buildable →
      ∃ item ∈ evidence, item ∉ recorded.evidence

/-- A verified profile was built from a verified record. -/
def Backed (recorded : Recorded digest) : Prop :=
  recorded.profile.trustState = .verified → Verifiable recorded

/-- A step whose raise is backed leaves a backed profile. -/
theorem Backed.step {recorded next : Recorded digest} {op : LifecycleOp digest}
    (grounded : Grounded recorded) (raises : RaisesBacked recorded op)
    (applied : recorded.apply op = .ok next) : Backed next := by
  intro trusted
  obtain ⟨target, rfl, moved, same⟩ | ⟨trustState, rfl, built, _⟩ := apply_cases applied
  · obtain rfl : target = .verified := by rwa [moved.content] at trusted
    rw [Verifiable, same]
    refine raises rfl moved.isAllowed fun empty => ?_
    have evidence := next.profile.evidence_of_verified trusted
    rw [moved.content] at evidence
    exact evidence (by rw [grounded.listed, empty]; rfl)
  · exact built.verified (built.trustState.symm.trans trusted)

/-- A raise that is not backed goes through, and leaves a profile that is not backed. -/
theorem raise_unbacked (hexadecimal : digest.Hexadecimal) {recorded : Recorded digest}
    {op : LifecycleOp digest} (grounded : Grounded recorded)
    (raises : ¬ RaisesBacked recorded op) :
    ∃ next, recorded.apply op = .ok next ∧ ¬ Backed next := by
  simp only [RaisesBacked, Classical.not_imp] at raises
  obtain ⟨rfl, isAllowed, evidence, unverified⟩ := raises
  have listed : recorded.profile.evidenceRecordIds ≠ [] := by
    rw [grounded.listed, evidenceIds, Ne, List.map_eq_nil_iff, ← List.length_eq_zero_iff,
      length_sortOn, List.length_eq_zero_iff]
    exact evidence
  obtain ⟨profile, moved⟩ := exists_transition hexadecimal isAllowed fun _ => listed
  refine ⟨⟨profile, recorded.evidence⟩, ?_, fun backed => unverified (backed ?_)⟩
  · rw [Recorded.apply, moved]
    rfl
  · have trusted := congrArg ProfileContent.trustState (transition_moved moved).content
    exact trusted

/-- A measured bandwidth has a listed record of a verified measurement with its value. -/
def MeasurementListed (recorded : Recorded digest) : Prop :=
  ∀ bandwidth ∈ recorded.profile.measuredMemoryBandwidthBytesPerS, ∃ item ∈ recorded.evidence,
    item.evidenceId ∈ recorded.profile.evidenceRecordIds ∧ item.evidenceClass = .measured ∧
      item.propertyName = "memory.bandwidth_bytes_per_s" ∧ item.verificationStatus = true ∧
      item.observedValue = some (toString bandwidth)

theorem Grounded.measurementListed {recorded : Recorded digest} (grounded : Grounded recorded) :
    MeasurementListed recorded := by
  intro bandwidth given
  obtain ⟨item, member, measured⟩ := grounded.measured bandwidth given
  simp only [measures, Bool.and_eq_true, decide_eq_true_eq] at measured
  obtain ⟨⟨⟨⟨isMeasured, property⟩, verified⟩, value⟩, _⟩ := measured
  refine ⟨item, member, ?_, isMeasured, property, verified, value⟩
  rw [grounded.listed]
  exact List.mem_map_of_mem ((mem_sortOn _).mpr member)

/-- The profile is accepted when it is constructed anew from its own fields. -/
def PassesIdentityCheck (profile : HardwarePersonalityProfile digest) : Prop :=
  HardwarePersonalityProfile.construct digest { profile.toProfileContent with
    hardwareProfileId := profile.hardwareProfileId
    profileFingerprint := profile.profileFingerprint } = .ok profile

theorem passesIdentityCheck (profile : HardwarePersonalityProfile digest) :
    PassesIdentityCheck profile := by
  have identity := profile.texts_trimmed profile.hardwareProfileId (by simp)
  have fingerprint := profile.texts_trimmed profile.profileFingerprint (by simp)
  refine HardwarePersonalityProfile.construct_eq_ok_iff.mpr ⟨{
    texts_nonblank := fun text member => (profile.texts_trimmed text member).nonblank
    bandwidths_pos := profile.bandwidths_pos
    generation_pos := profile.generation_pos
    texts_canonical := profile.texts_canonical
    names_canonical := profile.names_canonical
    id_verified := identity.strip_eq.trans profile.id_verified
    evidence_of_verified := profile.evidence_of_verified
    fingerprint_verified := by
      rw [identity.strip_eq, fingerprint.strip_eq]
      exact profile.fingerprint_verified }, ?_⟩
  obtain ⟨content, _, _, _, _, _, _, _, _, _, _⟩ := profile
  simp only [HardwarePersonalityProfile.make, identity.strip_eq, fingerprint.strip_eq]

/-- What holds along every run of the lifecycle. -/
structure LifecycleLaw (start : Recorded digest) (ops : List (LifecycleOp digest)) : Prop where
  /-- Every verified profile was built from a verified record. -/
  backed : ∀ front, front <+: ops → Backed ((lifecycle digest).run start front)
  /-- Every measured bandwidth has a listed verified measurement. -/
  measured : ∀ front, front <+: ops → MeasurementListed ((lifecycle digest).run start front)
  /-- Only a refresh leaves the invalid state, and it brings a record that the invalid profile was
  not built from. -/
  terminal : ∀ front op, front ++ [op] <+: ops →
    ((lifecycle digest).run start front).profile.trustState = .invalid →
    ((lifecycle digest).run start (front ++ [op])).profile.trustState ≠ .invalid →
      (∃ trustState,
        op = .refresh ((lifecycle digest).run start (front ++ [op])).evidence trustState) ∧
      ∃ item ∈ ((lifecycle digest).run start (front ++ [op])).evidence,
        item ∉ ((lifecycle digest).run start front).evidence
  /-- Each refresh raises the generation by one, and nothing else changes it. -/
  generation : ∀ front, front <+: ops →
    ((lifecycle digest).run start front).profile.profileGeneration =
      start.profile.profileGeneration +
        ((lifecycle digest).succeeded start front).countP LifecycleOp.isRefresh
  /-- Every profile passes its own identity check. -/
  identified : ∀ front, front <+: ops →
    PassesIdentityCheck ((lifecycle digest).run start front).profile

theorem Grounded.run {start : Recorded digest} (grounded : Grounded start)
    (ops : List (LifecycleOp digest)) : Grounded ((lifecycle digest).run start ops) :=
  Machine.run_invariant Grounded grounded ops fun _ _ _ _ holds step =>
    holds.step (Machine.ofFunction_step_ok.mp step)

/-- The generation counts the refreshes of a run. -/
theorem generation_run (start : Recorded digest) (ops : List (LifecycleOp digest)) :
    ((lifecycle digest).run start ops).profile.profileGeneration =
      start.profile.profileGeneration +
        ((lifecycle digest).succeeded start ops).countP LifecycleOp.isRefresh := by
  refine Machine.run_trace (fun past state => state.profile.profileGeneration =
    start.profile.profileGeneration + past.countP LifecycleOp.isRefresh) start ops (by simp) ?_
  intro past state op _ next counted step
  have applied := Machine.ofFunction_step_ok.mp step
  rw [List.countP_append, List.countP_singleton]
  obtain ⟨target, rfl, moved, _⟩ | ⟨trustState, rfl, built, _⟩ := apply_cases applied
  · rw [moved.content]
    simpa [LifecycleOp.isRefresh] using counted
  · rw [built.generation, refreshRequest, counted]
    simp [LifecycleOp.isRefresh, add_assoc]

theorem refresh_of_left_invalid {recorded : Recorded digest} {op : LifecycleOp digest}
    (before : recorded.profile.trustState = .invalid)
    (after : ((lifecycle digest).after recorded op).profile.trustState ≠ .invalid) :
    ∃ trustState, op = .refresh ((lifecycle digest).after recorded op).evidence trustState ∧
      trustState ≠ .invalid ∧ (refreshRequest recorded.profile
        ((lifecycle digest).after recorded op).evidence trustState).Buildable := by
  match outcome : (lifecycle digest).step recorded op with
  | (.ok _, next) =>
      rw [Machine.after_ok outcome] at after ⊢
      obtain ⟨target, rfl, moved, _⟩ | ⟨trustState, rfl, built, buildable⟩ :=
        apply_cases (Machine.ofFunction_step_ok.mp outcome)
      · have isAllowed := moved.isAllowed
        rw [before] at isAllowed
        nomatch isAllowed
      · have given : next.profile.trustState = trustState := built.trustState
        exact ⟨trustState, rfl, given ▸ after, buildable⟩
  | (.error _, next) =>
      rw [Machine.after_error outcome] at after
      exact absurd before after

/-- A refresh of an invalid profile that brings nothing new goes through. -/
theorem refresh_unrenewed (hexadecimal : digest.Hexadecimal) {recorded : Recorded digest}
    {op : LifecycleOp digest} (renews : ¬ RenewsEvidence recorded op) :
    recorded.profile.trustState = .invalid ∧ ∃ next, recorded.apply op = .ok next ∧
      next.profile.trustState ≠ .invalid ∧ next.evidence ⊆ recorded.evidence := by
  simp only [RenewsEvidence, Classical.not_forall, not_exists, not_and, not_not] at renews
  obtain ⟨evidence, trustState, rfl, invalid, leaves, buildable, known⟩ := renews
  obtain ⟨profile, built⟩ := exists_build hexadecimal buildable
  refine ⟨invalid, ⟨profile, evidence⟩, ?_, ?_, known⟩
  · rw [Recorded.apply, refreshHardwareProfile, built]
    rfl
  · have given : profile.trustState = trustState := (build_builtFrom built).trustState
    rwa [given]

/-- Where every raise to verified is backed, what a run reaches is. -/
theorem Backed.run {recorded : Recorded digest} {ops : List (LifecycleOp digest)}
    (initially : Backed recorded) (grounded : Grounded recorded)
    (raises : (lifecycle digest).AllSteps RaisesBacked recorded ops) :
    Backed ((lifecycle digest).run recorded ops) := by
  let both : Recorded digest → Prop := fun state => Grounded state ∧ Backed state
  have kept : both ((lifecycle digest).run recorded ops) := by
    refine raises.invariant ?_ ⟨grounded, initially⟩
    intro state op _ next holds raise step
    have applied := Machine.ofFunction_step_ok.mp step
    exact ⟨holds.1.step applied, Backed.step holds.1 raise applied⟩
  exact kept.2

/-- Along a run from a built profile everything holds exactly when every raise to verified finds a
verified record among the evidence, and every refresh of an invalid profile brings a new one. -/
theorem lifecycleLaw_iff (hexadecimal : digest.Hexadecimal) {request : ProfileRequest digest}
    {profile : HardwarePersonalityProfile digest}
    (built : buildHardwarePersonalityProfile request = .ok profile)
    (ops : List (LifecycleOp digest)) :
    LifecycleLaw ⟨profile, request.evidence⟩ ops ↔
      (lifecycle digest).AllSteps
        (fun recorded op => RaisesBacked recorded op ∧ RenewsEvidence recorded op)
        ⟨profile, request.evidence⟩ ops := by
  have source := build_builtFrom built
  have grounded := source.grounded
  constructor
  · intro law
    refine Machine.allSteps_iff.mpr fun front op back split => ⟨?_, ?_⟩
    · by_contra raises
      obtain ⟨next, applied, unbacked⟩ := raise_unbacked hexadecimal (grounded.run front) raises
      have backed := law.backed (front ++ [op]) ⟨back, by simp [split]⟩
      rw [Machine.run_append] at backed
      exact unbacked (Machine.ofFunction_after applied ▸ backed)
    · by_contra renews
      obtain ⟨invalid, next, applied, leaves, known⟩ := refresh_unrenewed hexadecimal renews
      have reached : (lifecycle digest).run ⟨profile, request.evidence⟩ (front ++ [op]) = next := by
        rw [Machine.run_append]
        exact Machine.ofFunction_after applied
      have terminal := law.terminal front op ⟨back, by simp [split]⟩ invalid
      rw [reached] at terminal
      obtain ⟨_, item, member, fresh⟩ := terminal leaves
      exact fresh (known member)
  · intro steps
    have raises : (lifecycle digest).AllSteps RaisesBacked ⟨profile, request.evidence⟩ ops :=
      Machine.allSteps_iff.mpr fun front op back split =>
        (Machine.allSteps_iff.mp steps front op back split).1
    constructor
    case backed =>
      rintro front ⟨back, rfl⟩
      have initially : Backed ⟨profile, request.evidence⟩ := fun trusted =>
        source.verified (source.trustState.symm.trans trusted)
      exact initially.run grounded raises.of_append
    case measured => exact fun front _ => (grounded.run front).measurementListed
    case terminal =>
      rintro front op ⟨back, split⟩ before after
      have renews := (Machine.allSteps_iff.mp steps front op back (by simp [← split])).2
      rw [Machine.run_append] at after ⊢
      obtain ⟨trustState, same, leaves, buildable⟩ := refresh_of_left_invalid before after
      exact ⟨⟨trustState, same⟩, renews _ trustState same before leaves buildable⟩
    case generation => exact fun front _ => generation_run _ front
    case identified => exact fun front _ => passesIdentityCheck _

/-! ## A profile on unverified evidence -/

section Sample

/-- A processor. -/
def sampleDescriptor : HardwareDescriptor where
  hardwareId := Digest.sha256.hexdigest (.obj [("hardware_class", .str "CPU"),
    ("vendor", .str "v"), ("architecture", .str "a"), ("device_family", .str "f"),
    ("device_model", .str "m")])
  hardwareClass := .cpu
  vendor := "v"
  architecture := "a"
  deviceFamily := "f"
  deviceModel := "m"
  texts_trimmed := by
    have plain : ∀ text ∈ ["v", "a", "f", "m"], Text.Trimmed text := by decide
    exact List.forall_mem_cons.mpr ⟨Digest.sha256_hexadecimal.trimmed _, plain⟩
  memory_pos := by simp

/-- What is declared of the processor. -/
def declaredContent : EvidenceContent Digest.sha256 where
  hardwareId := sampleDescriptor.hardwareId
  evidenceClass := .declared
  propertyName := "precision.FP32"
  sourceId := "s"
  sequence := 1
  generation := 1
  declaredValue := some "supported"

/-- A declaration that was not verified. -/
def unverifiedRecord : HardwareEvidenceRecord Digest.sha256 where
  toEvidenceContent := declaredContent
  evidenceId := (makeEvidenceId declaredContent).1
  verificationStatus := false
  evidenceFingerprint := (makeEvidenceId declaredContent).2
  texts_trimmed := by
    have digests := Digest.sha256_hexadecimal.trimmed
    have plain : ∀ text ∈ ["precision.FP32", "s", "supported"], Text.Trimmed text := by decide
    simp only [List.mem_cons, List.not_mem_nil, or_false, forall_eq_or_imp, forall_eq] at plain
    simp only [List.cons_append, List.nil_append, List.append_nil, declaredContent,
      Option.toList_some, Option.toList_none, List.mem_cons, List.not_mem_nil, or_false,
      forall_eq_or_imp, forall_eq]
    exact ⟨digests _, digests _, plain.1, plain.2.1, digests _, plain.2.2⟩
  numbers_pos := ⟨le_rfl, le_rfl⟩
  sources_canonical := ⟨nofun, rfl⟩
  declared_shape := fun _ => ⟨Option.some_ne_none _, rfl⟩
  observed_shape := fun other => absurd rfl other
  derived_shape := nofun
  measured_shape := nofun
  context_shape := fun _ => rfl
  probed_shape := nofun
  identity_verified := rfl

/-- A profile on the declaration. -/
def unverifiedRequest : ProfileRequest Digest.sha256 where
  descriptor := sampleDescriptor
  evidence := [unverifiedRecord]

theorem exists_unverified_profile :
    ∃ profile, buildHardwarePersonalityProfile unverifiedRequest = .ok profile := by
  refine exists_build Digest.sha256_hexadecimal ⟨?_, List.nodup_singleton _, ?_, nofun, nofun,
    le_rfl, ?_, ?_⟩
  · exact List.forall_mem_singleton.mpr rfl
  · exact List.forall_mem_singleton.mpr rfl
  · exact List.forall_mem_cons.mpr ⟨nofun, List.forall_mem_singleton.mpr nofun⟩
  · simp [unverifiedRequest]

theorem lifecycleLaw_unverified :
    ∃ profile, buildHardwarePersonalityProfile unverifiedRequest = .ok profile ∧
      (LifecycleLaw ⟨profile, unverifiedRequest.evidence⟩
          [.transition .invalid, .refresh [unverifiedRecord] .unverified] ↔
        (lifecycle Digest.sha256).AllSteps
          (fun recorded op => RaisesBacked recorded op ∧ RenewsEvidence recorded op)
          ⟨profile, unverifiedRequest.evidence⟩
          [.transition .invalid, .refresh [unverifiedRecord] .unverified]) := by
  obtain ⟨profile, built⟩ := exists_unverified_profile
  exact ⟨profile, built, lifecycleLaw_iff Digest.sha256_hexadecimal built _⟩

/-- A profile that is built on an unverified declaration is raised to verified. -/
theorem unverified_profile_raised :
    ¬ ∀ (request : ProfileRequest Digest.sha256)
      (profile : HardwarePersonalityProfile Digest.sha256)
      (ops : List (LifecycleOp Digest.sha256)),
        buildHardwarePersonalityProfile request = .ok profile →
          LifecycleLaw ⟨profile, request.evidence⟩ ops := by
  intro law
  obtain ⟨profile, built⟩ := exists_unverified_profile
  have source := build_builtFrom built
  have unbacked : ¬ RaisesBacked ⟨profile, unverifiedRequest.evidence⟩ (.transition .verified) := by
    intro raises
    have isAllowed : .verified ∈ allowed profile.trustState := by
      rw [source.trustState]
      exact List.mem_cons_self
    obtain ⟨item, member, verified⟩ := raises rfl isAllowed (List.cons_ne_nil _ _)
    obtain rfl := List.mem_singleton.mp member
    exact Bool.false_ne_true verified
  obtain ⟨next, applied, stands⟩ :=
    raise_unbacked Digest.sha256_hexadecimal source.grounded unbacked
  have backed := (law _ profile [.transition .verified] built).backed _ List.prefix_rfl
  rw [Machine.run_cons, Machine.run_nil, lifecycle, Machine.ofFunction_after applied] at backed
  exact stands backed

end Sample

end HardwarePersonality
end MercuryX
