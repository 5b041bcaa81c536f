import MercuryX.Foundation.Dict
import MercuryX.HardwarePersonality.Contracts

/-!
# Hardware evidence

Records of evidence about a piece of hardware, each under the identity of its content, and what is
concluded from them: the support of capabilities, and the affinities to kinds of workload. Whether a
record is verified is not part of its identity.
-/

namespace MercuryX
namespace HardwarePersonality

open Foundation

/-! ## Records -/

/-- Where a piece of evidence comes from. -/
inductive HardwareEvidenceClass where
  | declared
  | probed
  | measured
  | derived
  deriving DecidableEq, Repr

/-- The text of an evidence class. -/
def HardwareEvidenceClass.value : HardwareEvidenceClass → String
  | declared => "DECLARED"
  | probed => "PROBED"
  | measured => "MEASURED"
  | derived => "DERIVED"

/-- The circumstances of a measurement. -/
structure MeasurementContextContent where
  benchmarkId : String
  benchmarkVersion : String
  runtimeApplicable : Bool
  runtimeId : Option String := none
  runtimeVersion : Option String := none
  driverApplicable : Bool
  driverId : Option String := none
  driverVersion : Option String := none
  softwareStackApplicable : Bool
  softwareStackId : Option String := none
  softwareStackVersion : Option String := none
  precisionApplicable : Bool
  precisionMode : Option HardwarePrecision := none
  environmentApplicable : Bool
  environmentId : Option String := none
  hardwareProfileGeneration : Int
  evidenceGeneration : Int
  provenanceIds : List String

namespace MeasurementContextContent

/-- The members of the dump of a context, but for its identity. -/
def members (content : MeasurementContextContent) : List (String × Json) := [
  ("benchmark_id", .str content.benchmarkId), ("benchmark_version", .str content.benchmarkVersion),
  ("runtime_applicable", .bool content.runtimeApplicable),
  ("runtime_id", Json.optStr content.runtimeId),
  ("runtime_version", Json.optStr content.runtimeVersion),
  ("driver_applicable", .bool content.driverApplicable),
  ("driver_id", Json.optStr content.driverId),
  ("driver_version", Json.optStr content.driverVersion),
  ("software_stack_applicable", .bool content.softwareStackApplicable),
  ("software_stack_id", Json.optStr content.softwareStackId),
  ("software_stack_version", Json.optStr content.softwareStackVersion),
  ("precision_applicable", .bool content.precisionApplicable),
  ("precision_mode", Json.optStr (content.precisionMode.map HardwarePrecision.value)),
  ("environment_applicable", .bool content.environmentApplicable),
  ("environment_id", Json.optStr content.environmentId),
  ("hardware_profile_generation", .int content.hardwareProfileGeneration),
  ("evidence_generation", .int content.evidenceGeneration),
  ("provenance_ids", Json.strs content.provenanceIds)]

/-- The texts of a context that are not provenance. -/
def texts (content : MeasurementContextContent) : List String :=
  [content.benchmarkId, content.benchmarkVersion] ++ content.runtimeId.toList ++
    content.runtimeVersion.toList ++ content.driverId.toList ++ content.driverVersion.toList ++
    content.softwareStackId.toList ++ content.softwareStackVersion.toList ++
    content.environmentId.toList

end MeasurementContextContent

variable (digest : Digest)

/-- The identity of the circumstances of a measurement. -/
def makeMeasurementContextId (content : MeasurementContextContent) : String :=
  digest.hexdigest (.obj content.members)

/-- The circumstances of a measurement, under their identity. -/
structure HardwareMeasurementContext extends MeasurementContextContent where
  contextId : String
  /-- Texts are nonblank and trimmed. -/
  texts_trimmed : ∀ text ∈ contextId :: toMeasurementContextContent.texts, Text.Trimmed text
  /-- Generations start at one. -/
  generations_pos : 1 ≤ hardwareProfileGeneration ∧ 1 ≤ evidenceGeneration
  /-- Provenance is given, in canonical form. -/
  provenance_canonical : CanonicalTexts provenanceIds ∧ provenanceIds ≠ []
  /-- Exactly what applies is named, with its version. -/
  versions_named : ∀ entry ∈ [(runtimeApplicable, runtimeId, runtimeVersion),
    (driverApplicable, driverId, driverVersion),
    (softwareStackApplicable, softwareStackId, softwareStackVersion)],
      entry.1 = (entry.2.1.isSome && entry.2.2.isSome)
  /-- Exactly a precision and an environment that apply are named. -/
  others_named : precisionApplicable = precisionMode.isSome ∧
    environmentApplicable = environmentId.isSome
  /-- The identity is that of the circumstances. -/
  contextId_verified : contextId = makeMeasurementContextId digest toMeasurementContextContent

/-- The content that the identity of a record covers. -/
structure EvidenceContent where
  hardwareId : String
  evidenceClass : HardwareEvidenceClass
  propertyName : String
  sourceId : String
  sequence : Int
  generation : Int
  declaredValue : Option String := none
  observedValue : Option String := none
  derivedFromEvidenceIds : List String := []
  measurementContext : Option (HardwareMeasurementContext digest) := none

variable {digest} in
/-- The dump of a context. -/
def HardwareMeasurementContext.dump (context : HardwareMeasurementContext digest) : Json :=
  .obj (("context_id", .str context.contextId) :: context.toMeasurementContextContent.members)

variable {digest} in
/-- The identity and the fingerprint of a record, which are the same text. -/
def makeEvidenceId (content : EvidenceContent digest) : String × String :=
  let fingerprint := digest.hexdigest (.obj [("hardware_id", .str content.hardwareId),
    ("evidence_class", .str content.evidenceClass.value),
    ("property_name", .str content.propertyName), ("source_id", .str content.sourceId),
    ("sequence", .int content.sequence), ("generation", .int content.generation),
    ("declared_value", Json.optStr content.declaredValue),
    ("observed_value", Json.optStr content.observedValue),
    ("derived_from_evidence_ids", Json.strs content.derivedFromEvidenceIds),
    ("measurement_context",
      (content.measurementContext.map HardwareMeasurementContext.dump).getD .null)])
  (fingerprint, fingerprint)

/-- A record of evidence about a piece of hardware. -/
structure HardwareEvidenceRecord extends EvidenceContent digest where
  evidenceId : String
  unit : Option String := none
  probeId : Option String := none
  benchmarkId : Option String := none
  verificationStatus : Bool
  evidenceFingerprint : String
  /-- Texts are nonblank and trimmed. -/
  texts_trimmed : ∀ text ∈ [evidenceId, hardwareId, propertyName, sourceId, evidenceFingerprint] ++
    declaredValue.toList ++ observedValue.toList ++ unit.toList ++ probeId.toList ++
    benchmarkId.toList, Text.Trimmed text
  /-- Sequence and generation start at one. -/
  numbers_pos : 1 ≤ sequence ∧ 1 ≤ generation
  /-- Sources stand in canonical form. -/
  sources_canonical : CanonicalTexts derivedFromEvidenceIds
  /-- A declaration has a value and no observation. -/
  declared_shape : evidenceClass = .declared → declaredValue ≠ none ∧ observedValue = none
  /-- Everything else has an observation. -/
  observed_shape : evidenceClass ≠ .declared → observedValue ≠ none
  /-- What is derived has sources. -/
  derived_shape : evidenceClass = .derived → derivedFromEvidenceIds ≠ []
  /-- A measurement names its benchmark and tells its circumstances. -/
  measured_shape : evidenceClass = .measured → benchmarkId ≠ none ∧
    ∃ context ∈ measurementContext, benchmarkId = some context.benchmarkId ∧
      generation = context.evidenceGeneration
  /-- Only a measurement has circumstances. -/
  context_shape : evidenceClass ≠ .measured → measurementContext = none
  /-- A probe is named. -/
  probed_shape : evidenceClass = .probed → probeId ≠ none
  /-- Identity and fingerprint are those of the content. -/
  identity_verified : (evidenceId, evidenceFingerprint) = makeEvidenceId toEvidenceContent

theorem HardwareEvidenceRecord.evidenceId_nonblank {digest : Digest}
    (record : HardwareEvidenceRecord digest) : Text.Nonblank record.evidenceId :=
  (record.texts_trimmed _ (by simp)).nonblank

/-! ## Contracts of conclusions -/

/-- The check of a field of texts that are nonblank, distinct and in order. -/
def canonicalStrings (contract field : String) (texts : List String) : Except Fault Unit := do
  rule contract field (∀ text ∈ texts, Text.Nonblank text) s!"{field} must be nonblank"
  rule contract field texts.Nodup s!"{field} contains duplicates"
  rule contract field (canonical id texts = texts) s!"{field} must be canonical"

theorem canonicalStrings_eq_ok {contract field : String} {texts : List String} {done : Unit} :
    canonicalStrings contract field texts = .ok done ↔ CanonicalTexts texts := by
  simp only [canonicalStrings, bind_eq_ok, rule_eq_ok, exists_and_left, exists_const]
  constructor
  · rintro ⟨visible, _, sorted⟩
    exact ⟨visible, sorted⟩
  · rintro ⟨visible, sorted⟩
    exact ⟨visible, sorted ▸ canonical_nodup id texts, sorted⟩

/-- The fields of an assessment. -/
structure CapabilityFields where
  propertyName : String
  supportState : CapabilitySupportState
  evidenceRecordIds : List String := []
  conflict : Bool := false
  conflictReason : Option String := none

/-- What the contract asks of an assessment. -/
structure CapabilityFields.Valid (fields : CapabilityFields) : Prop where
  /-- The property name is nonblank. -/
  propertyName_nonblank : Text.Nonblank fields.propertyName
  /-- Evidence stands in canonical form. -/
  evidence_canonical : CanonicalTexts fields.evidenceRecordIds
  /-- A conflict has a reason. -/
  conflict_explained : fields.conflict = true → ∃ reason ∈ fields.conflictReason, reason ≠ ""
  /-- Only a conflict has a reason. -/
  reason_conflict : fields.conflict = false → fields.conflictReason = none

/-- The constraints on an assessment. -/
def CapabilityFields.check (fields : CapabilityFields) : Except Fault Unit := do
  let contract := "CapabilityAssessment"
  rule contract "property_name" (Text.Nonblank fields.propertyName) "property_name must be nonblank"
  canonicalStrings contract "evidence_record_ids" fields.evidenceRecordIds
  rule contract "" (fields.conflict = true → ∃ reason ∈ fields.conflictReason, reason ≠ "")
    "conflict requires reason"
  rule contract "" (fields.conflict = false → fields.conflictReason = none)
    "conflict_reason requires conflict"

theorem CapabilityFields.check_eq_ok_iff {fields : CapabilityFields} {done : Unit} :
    fields.check = .ok done ↔ fields.Valid := by
  simp only [check, bind_eq_ok, rule_eq_ok, canonicalStrings_eq_ok, exists_and_left, exists_const]
  constructor
  · rintro ⟨name, evidence, explained, reasoned⟩
    exact ⟨name, evidence, explained, reasoned⟩
  · rintro ⟨name, evidence, explained, reasoned⟩
    exact ⟨name, evidence, explained, reasoned⟩

/-- The assessment that valid fields make: the name is trimmed. -/
def CapabilityAssessment.make (fields : CapabilityFields) (valid : fields.Valid) :
    CapabilityAssessment where
  propertyName := Text.strip fields.propertyName
  supportState := fields.supportState
  evidenceRecordIds := fields.evidenceRecordIds
  conflict := fields.conflict
  conflictReason := fields.conflictReason
  propertyName_trimmed := ⟨Text.nonblank_strip valid.propertyName_nonblank, Text.strip_strip _⟩
  evidence_canonical := valid.evidence_canonical
  conflict_explained := valid.conflict_explained
  reason_conflict := valid.reason_conflict

/-- Construct an assessment. -/
def CapabilityAssessment.construct (fields : CapabilityFields) :
    Except Fault CapabilityAssessment :=
  checked CapabilityFields.check CapabilityFields.check_eq_ok_iff CapabilityAssessment.make fields

theorem CapabilityAssessment.construct_eq_ok_iff {fields : CapabilityFields}
    {assessment : CapabilityAssessment} :
    CapabilityAssessment.construct fields = .ok assessment ↔
      ∃ valid, CapabilityAssessment.make fields valid = assessment :=
  checked_eq_ok_iff

/-- The fields of an affinity. -/
structure AffinityFields where
  dimension : HardwareAffinityDimension
  level : HardwareAffinityLevel
  evidenceRecordIds : List String := []
  reasonCodes : List String := []

/-- What the contract asks of an affinity. -/
def AffinityFields.Valid (fields : AffinityFields) : Prop :=
  ∀ texts ∈ [fields.evidenceRecordIds, fields.reasonCodes], CanonicalTexts texts

/-- The constraints on an affinity. -/
def AffinityFields.check (fields : AffinityFields) : Except Fault Unit := do
  canonicalStrings "HardwareWorkloadAffinity" "evidence_record_ids" fields.evidenceRecordIds
  canonicalStrings "HardwareWorkloadAffinity" "reason_codes" fields.reasonCodes

theorem AffinityFields.check_eq_ok_iff {fields : AffinityFields} {done : Unit} :
    fields.check = .ok done ↔ fields.Valid := by
  simp [check, Valid, canonicalStrings_eq_ok]

/-- The affinity that valid fields make. -/
def HardwareWorkloadAffinity.make (fields : AffinityFields) (valid : fields.Valid) :
    HardwareWorkloadAffinity where
  dimension := fields.dimension
  level := fields.level
  evidenceRecordIds := fields.evidenceRecordIds
  reasonCodes := fields.reasonCodes
  texts_canonical := valid

/-- Construct an affinity. -/
def HardwareWorkloadAffinity.construct (fields : AffinityFields) :
    Except Fault HardwareWorkloadAffinity :=
  checked AffinityFields.check AffinityFields.check_eq_ok_iff HardwareWorkloadAffinity.make fields

theorem HardwareWorkloadAffinity.construct_eq_ok_iff {fields : AffinityFields}
    {affinity : HardwareWorkloadAffinity} :
    HardwareWorkloadAffinity.construct fields = .ok affinity ↔
      ∃ valid, HardwareWorkloadAffinity.make fields valid = affinity :=
  checked_eq_ok_iff

/-! ## Capabilities -/

/-- What a reported value says about support, if it says anything. -/
def parseSupport (value : Option String) : Option Bool :=
  value.bind fun value =>
    let lowered := (Text.strip value).toLower
    if lowered ∈ ["true", "1", "yes", "supported", "capable"] then some true
    else if lowered ∈ ["false", "0", "no", "unsupported", "incapable"] then some false
    else none

variable {digest : Digest}

/-- The ids of records. -/
def evidenceIds (evidence : List (HardwareEvidenceRecord digest)) : List String :=
  evidence.map fun item => item.evidenceId

/-- What verified records say about support. -/
def votes (relevant : List (HardwareEvidenceRecord digest)) : List Bool :=
  (relevant.filter fun item => item.verificationStatus).filterMap fun item =>
    parseSupport (item.observedValue.or item.declaredValue)

/-- Assess one capability by the records of its name. -/
def resolveCapability (evidence : List (HardwareEvidenceRecord digest)) (propertyName : String) :
    Except Fault CapabilityAssessment :=
  let relevant := sortOn (fun item => item.evidenceId)
    (evidence.filter fun item => item.propertyName = propertyName)
  let said := votes relevant
  let conflict : Bool := true ∈ said && false ∈ said
  CapabilityAssessment.construct {
    propertyName := propertyName
    supportState :=
      if conflict then .unknown
      else if true ∈ said then .capable
      else if false ∈ said then .incapable
      else .unknown
    evidenceRecordIds := evidenceIds relevant
    conflict := conflict
    conflictReason := if conflict then some "CONFLICTING_VERIFIED_EVIDENCE" else none }

/-- The precisions, as they are declared. -/
def HardwarePrecision.all : List HardwarePrecision := [fp32, tf32, fp16, bf16, fp8, int8, int4]

/-- The capabilities that are always assessed. -/
def certifiedCapabilities : List String :=
  HardwarePrecision.all.map (fun precision => "precision." ++ precision.value) ++
    ["acceleration.tensor_core_like", "interconnect.peer_to_peer", "memory.unified",
      "runtime.remote_execution", "virtualization.supported", "partitioning.supported"]

/-- A property of which every evidence is assessed. -/
def assessed (propertyName : String) : Bool :=
  ["runtime.", "software.", "interconnect."].any fun family =>
    family.toList.isPrefixOf propertyName.toList

/-- The capabilities that evidence is assessed for. -/
def capabilityNames (evidence : List (HardwareEvidenceRecord digest)) : List String :=
  canonical id (certifiedCapabilities ++
    (evidence.map fun item => item.propertyName).filter assessed)

/-- Assess every capability. -/
def buildCapabilityMatrix (evidence : List (HardwareEvidenceRecord digest)) :
    Except Fault (List CapabilityAssessment) :=
  (capabilityNames evidence).mapM (resolveCapability evidence)

/-! ## Affinities -/

/-- The affinity dimensions, as they are declared. -/
def HardwareAffinityDimension.all : List HardwareAffinityDimension :=
  [prefillAffinity, decodeAffinity, embeddingAffinity, trainingAffinity, fineTuningAffinity,
    retrievalAffinity, toolWorkloadAffinity, memoryIntensityTolerance,
    communicationIntensityTolerance]

section Affinities

variable (descriptor : HardwareDescriptor) (capabilities : List CapabilityAssessment)
  (evidence : List (HardwareEvidenceRecord digest))

/-- The evidence says that a capability is supported. -/
def capable (propertyName : String) : Bool :=
  ((Dict.indexed CapabilityAssessment.propertyName capabilities).get? propertyName).map
    CapabilityAssessment.supportState = some .capable

/-- The capacity of the memory is given and verified evidence speaks of it. -/
def memoryKnown (verified : List (HardwareEvidenceRecord digest)) : Bool :=
  descriptor.memoryCapacityBytes.isSome && verified.any fun item =>
    item.propertyName ∈ ["memory.capacity_bytes", "descriptor.memory_capacity_bytes"]

/-- The affinity to a kind of workload, with the reason for it. -/
def deriveAffinity (verified : List (HardwareEvidenceRecord digest))
    (dimension : HardwareAffinityDimension) : HardwareAffinityLevel × String :=
  if verified.isEmpty then (.unknown, "INSUFFICIENT_EVIDENCE")
  else match dimension with
  | .prefillAffinity | .decodeAffinity | .embeddingAffinity | .trainingAffinity
  | .fineTuningAffinity =>
      if ["precision.FP16", "precision.BF16", "precision.FP8", "precision.INT8"].any
          (capable capabilities) then (.high, "FAST_PRECISION_CAPABLE")
      else (.unknown, "PERFORMANCE_EVIDENCE_INSUFFICIENT")
  | .memoryIntensityTolerance =>
      if memoryKnown descriptor verified then
        if 16 * 1024 ^ 3 ≤ descriptor.memoryCapacityBytes.getD 0 then
          (.high, "VERIFIED_MEMORY_CAPACITY")
        else (.medium, "VERIFIED_MEMORY_CAPACITY")
      else (.unknown, "MEMORY_EVIDENCE_INSUFFICIENT")
  | .communicationIntensityTolerance =>
      if capable capabilities "interconnect.peer_to_peer" then (.high, "P2P_CAPABLE")
      else if capable capabilities "runtime.remote_execution" then
        (.medium, "REMOTE_EXECUTION_CAPABLE")
      else (.unknown, "INTERCONNECT_EVIDENCE_INSUFFICIENT")
  | .retrievalAffinity | .toolWorkloadAffinity =>
      if capable capabilities "runtime.remote_execution" then (.medium, "REMOTE_EXECUTION_CAPABLE")
      else (.unknown, "RUNTIME_EVIDENCE_INSUFFICIENT")

/-- The affinity of every dimension, in the order of their texts. -/
def deriveWorkloadAffinities : Except Fault (List HardwareWorkloadAffinity) :=
  let verified := sortOn (fun item => item.evidenceId)
    (evidence.filter fun item => item.verificationStatus)
  (sortOn HardwareAffinityDimension.value HardwareAffinityDimension.all).mapM fun dimension =>
    let derived := deriveAffinity descriptor capabilities verified dimension
    HardwareWorkloadAffinity.construct {
      dimension := dimension
      level := derived.1
      evidenceRecordIds := evidenceIds verified
      reasonCodes := [derived.2] }

end Affinities

/-! ## What evidence with ids of its own concludes -/

theorem evidenceIds_filter_canonical {evidence : List (HardwareEvidenceRecord digest)}
    (distinct : (evidenceIds evidence).Nodup) (keep : HardwareEvidenceRecord digest → Bool) :
    CanonicalTexts (evidenceIds (sortOn (fun item => item.evidenceId) (evidence.filter keep))) := by
  constructor
  · intro text member
    obtain ⟨item, _, rfl⟩ := List.mem_map.mp member
    exact item.evidenceId_nonblank
  · refine canonical_eq_self id ?_ ?_
    · refine ((sortOn_perm _ _).map _).nodup_iff.mpr ?_
      exact distinct.sublist (List.filter_sublist.map _)
    · rw [evidenceIds, List.pairwise_map]
      exact sortOn_pairwise _ _

theorem capabilityNames_trimmed (evidence : List (HardwareEvidenceRecord digest)) :
    ∀ name ∈ capabilityNames evidence, Text.Trimmed name := by
  have certified : ∀ name ∈ certifiedCapabilities, Text.Trimmed name := by decide
  intro name member
  rcases List.mem_append.mp ((mem_canonical id).mp member) with fixed | reported
  · exact certified name fixed
  · obtain ⟨item, _, rfl⟩ := List.mem_map.mp (List.mem_filter.mp reported).1
    exact item.texts_trimmed _ (by simp)

theorem exists_resolveCapability {evidence : List (HardwareEvidenceRecord digest)}
    (distinct : (evidenceIds evidence).Nodup) {propertyName : String}
    (visible : Text.Nonblank propertyName) :
    ∃ assessment, resolveCapability evidence propertyName = .ok assessment := by
  refine ⟨_, CapabilityAssessment.construct_eq_ok_iff.mpr ⟨⟨visible, ?_, ?_, ?_⟩, rfl⟩⟩
  · exact evidenceIds_filter_canonical distinct _
  · intro conflict
    exact ⟨_, if_pos conflict, by decide⟩
  · intro agreed
    exact if_neg (Bool.eq_false_iff.mp agreed)

theorem propertyName_of_resolved {evidence : List (HardwareEvidenceRecord digest)}
    {propertyName : String} {assessment : CapabilityAssessment}
    (resolved : resolveCapability evidence propertyName = .ok assessment) :
    assessment.propertyName = Text.strip propertyName := by
  obtain ⟨_, rfl⟩ := CapabilityAssessment.construct_eq_ok_iff.mp resolved
  rfl

theorem exists_buildCapabilityMatrix {evidence : List (HardwareEvidenceRecord digest)}
    (distinct : (evidenceIds evidence).Nodup) :
    ∃ capabilities, buildCapabilityMatrix evidence = .ok capabilities ∧
      capabilities.map CapabilityAssessment.propertyName = capabilityNames evidence := by
  have trimmed := capabilityNames_trimmed evidence
  obtain ⟨capabilities, made⟩ : ∃ capabilities, buildCapabilityMatrix evidence = .ok capabilities :=
    exists_mapM_eq_ok fun name member =>
      exists_resolveCapability distinct (trimmed name member).nonblank
  refine ⟨capabilities, made, ?_⟩
  rw [map_of_mapM_eq_ok (fun _ _ => propertyName_of_resolved) made]
  calc (capabilityNames evidence).map Text.strip
      = (capabilityNames evidence).map id :=
        List.map_congr_left fun name member => (trimmed name member).strip_eq
    _ = capabilityNames evidence := List.map_id _

theorem exists_deriveWorkloadAffinities {evidence : List (HardwareEvidenceRecord digest)}
    (distinct : (evidenceIds evidence).Nodup) (descriptor : HardwareDescriptor)
    (capabilities : List CapabilityAssessment) :
    ∃ affinities, deriveWorkloadAffinities descriptor capabilities evidence = .ok affinities ∧
      affinities.map HardwareWorkloadAffinity.dimension =
        sortOn HardwareAffinityDimension.value HardwareAffinityDimension.all := by
  have reasoned (verified : List (HardwareEvidenceRecord digest))
      (dimension : HardwareAffinityDimension) :
      CanonicalTexts [(deriveAffinity descriptor capabilities verified dimension).2] := by
    refine ⟨?_, rfl⟩
    rw [List.forall_mem_singleton]
    cases dimension <;> unfold deriveAffinity <;> repeat' split
    all_goals decide
  obtain ⟨affinities, made⟩ : ∃ affinities,
      deriveWorkloadAffinities descriptor capabilities evidence = .ok affinities := by
    refine exists_mapM_eq_ok fun dimension _ =>
      ⟨_, HardwareWorkloadAffinity.construct_eq_ok_iff.mpr ⟨?_, rfl⟩⟩
    exact List.forall_mem_cons.mpr ⟨evidenceIds_filter_canonical distinct _,
      List.forall_mem_singleton.mpr (reasoned _ dimension)⟩
  refine ⟨affinities, made, ?_⟩
  rw [map_of_mapM_eq_ok (fun dimension affinity outcome => ?_) made, List.map_id']
  obtain ⟨_, rfl⟩ := HardwareWorkloadAffinity.construct_eq_ok_iff.mp outcome
  rfl

end HardwarePersonality
end MercuryX
