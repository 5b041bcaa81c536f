import MercuryX.Contracts

/-!
# Hardware personality contracts

The personality profile of a piece of hardware, and what a segment requires of hardware. A profile
names its hardware and generation by its identity and covers its content by its fingerprint.
-/

namespace MercuryX
namespace HardwarePersonality

open Foundation

/-! ## Enumerations -/

/-- The class of a piece of hardware. -/
inductive HardwareClass where
  | cpu
  | gpu
  | tpu
  | npu
  | otherAccelerator
  deriving DecidableEq, Repr

/-- The text of a hardware class. -/
def HardwareClass.value : HardwareClass → String
  | cpu => "CPU"
  | gpu => "GPU"
  | tpu => "TPU"
  | npu => "NPU"
  | otherAccelerator => "OTHER_ACCELERATOR"

/-- How far a profile is trusted. -/
inductive HardwareTrustState where
  | unverified
  | verified
  | stale
  | invalid
  deriving DecidableEq, Repr

/-- The text of a trust state. -/
def HardwareTrustState.value : HardwareTrustState → String
  | unverified => "UNVERIFIED"
  | verified => "VERIFIED"
  | stale => "STALE"
  | invalid => "INVALID"

/-- Whether a capability is supported. -/
inductive CapabilitySupportState where
  | capable
  | incapable
  | unknown
  deriving DecidableEq, Repr

/-- The text of a support state. -/
def CapabilitySupportState.value : CapabilitySupportState → String
  | capable => "CAPABLE"
  | incapable => "INCAPABLE"
  | unknown => "UNKNOWN"

/-- A numeric precision. -/
inductive HardwarePrecision where
  | fp32
  | tf32
  | fp16
  | bf16
  | fp8
  | int8
  | int4
  deriving DecidableEq, Repr

/-- The text of a precision. -/
def HardwarePrecision.value : HardwarePrecision → String
  | fp32 => "FP32"
  | tf32 => "TF32"
  | fp16 => "FP16"
  | bf16 => "BF16"
  | fp8 => "FP8"
  | int8 => "INT8"
  | int4 => "INT4"

/-- A kind of workload that hardware may suit. -/
inductive HardwareAffinityDimension where
  | prefillAffinity
  | decodeAffinity
  | embeddingAffinity
  | trainingAffinity
  | fineTuningAffinity
  | retrievalAffinity
  | toolWorkloadAffinity
  | memoryIntensityTolerance
  | communicationIntensityTolerance
  deriving DecidableEq, Repr

/-- The text of an affinity dimension. -/
def HardwareAffinityDimension.value : HardwareAffinityDimension → String
  | prefillAffinity => "PREFILL_AFFINITY"
  | decodeAffinity => "DECODE_AFFINITY"
  | embeddingAffinity => "EMBEDDING_AFFINITY"
  | trainingAffinity => "TRAINING_AFFINITY"
  | fineTuningAffinity => "FINE_TUNING_AFFINITY"
  | retrievalAffinity => "RETRIEVAL_AFFINITY"
  | toolWorkloadAffinity => "TOOL_WORKLOAD_AFFINITY"
  | memoryIntensityTolerance => "MEMORY_INTENSITY_TOLERANCE"
  | communicationIntensityTolerance => "COMMUNICATION_INTENSITY_TOLERANCE"

/-- How well hardware suits a kind of workload. -/
inductive HardwareAffinityLevel where
  | low
  | medium
  | high
  | unknown
  deriving DecidableEq, Repr

/-- The text of an affinity level. -/
def HardwareAffinityLevel.value : HardwareAffinityLevel → String
  | low => "LOW"
  | medium => "MEDIUM"
  | high => "HIGH"
  | unknown => "UNKNOWN"

/-- Whether hardware meets a requirement. -/
inductive HardwareCompatibilityState where
  | compatible
  | incompatible
  | unknown
  deriving DecidableEq, Repr

/-- How hardware is virtualized. -/
inductive VirtualizationState where
  | bareMetal
  | virtualMachine
  | containerized
  | partitionedAccelerator
  | unknown
  deriving DecidableEq, Repr

/-- The text of a virtualization state. -/
def VirtualizationState.value : VirtualizationState → String
  | bareMetal => "BARE_METAL"
  | virtualMachine => "VIRTUAL_MACHINE"
  | containerized => "CONTAINERIZED"
  | partitionedAccelerator => "PARTITIONED_ACCELERATOR"
  | unknown => "UNKNOWN"

/-! ## Profiles -/

/-- What a piece of hardware is. -/
structure HardwareDescriptor where
  hardwareId : String
  hardwareClass : HardwareClass
  vendor : String
  architecture : String
  deviceFamily : String
  deviceModel : String
  memoryCapacityBytes : Option Int := none
  providerId : Option String := none
  regionId : Option String := none
  instanceType : Option String := none
  virtualizationState : VirtualizationState := .unknown
  /-- Texts are nonblank and trimmed. -/
  texts_trimmed : ∀ text ∈ [hardwareId, vendor, architecture, deviceFamily, deviceModel] ++
    providerId.toList ++ regionId.toList ++ instanceType.toList, Text.Trimmed text
  /-- The memory capacity is at least one. -/
  memory_pos : ∀ capacity ∈ memoryCapacityBytes, 1 ≤ capacity

/-- The dump of a descriptor. -/
def HardwareDescriptor.dump (descriptor : HardwareDescriptor) : Json := .obj [
  ("hardware_id", .str descriptor.hardwareId),
  ("hardware_class", .str descriptor.hardwareClass.value), ("vendor", .str descriptor.vendor),
  ("architecture", .str descriptor.architecture), ("device_family", .str descriptor.deviceFamily),
  ("device_model", .str descriptor.deviceModel),
  ("memory_capacity_bytes", Json.optInt descriptor.memoryCapacityBytes),
  ("provider_id", Json.optStr descriptor.providerId),
  ("region_id", Json.optStr descriptor.regionId),
  ("instance_type", Json.optStr descriptor.instanceType),
  ("virtualization_state", .str descriptor.virtualizationState.value)]

/-- What the evidence says about one capability. -/
structure CapabilityAssessment where
  propertyName : String
  supportState : CapabilitySupportState
  evidenceRecordIds : List String := []
  conflict : Bool := false
  conflictReason : Option String := none
  /-- The property name is nonblank and trimmed. -/
  propertyName_trimmed : Text.Trimmed propertyName
  /-- Evidence stands in canonical form. -/
  evidence_canonical : CanonicalTexts evidenceRecordIds
  /-- A conflict has a reason. -/
  conflict_explained : conflict = true → ∃ reason ∈ conflictReason, reason ≠ ""
  /-- Only a conflict has a reason. -/
  reason_conflict : conflict = false → conflictReason = none

/-- The dump of an assessment. -/
def CapabilityAssessment.dump (assessment : CapabilityAssessment) : Json := .obj [
  ("property_name", .str assessment.propertyName),
  ("support_state", .str assessment.supportState.value),
  ("evidence_record_ids", Json.strs assessment.evidenceRecordIds),
  ("conflict", .bool assessment.conflict),
  ("conflict_reason", Json.optStr assessment.conflictReason)]

/-- How well hardware suits one kind of workload. -/
structure HardwareWorkloadAffinity where
  dimension : HardwareAffinityDimension
  level : HardwareAffinityLevel
  evidenceRecordIds : List String := []
  reasonCodes : List String := []
  /-- Evidence and reasons stand in canonical form. -/
  texts_canonical : ∀ texts ∈ [evidenceRecordIds, reasonCodes], CanonicalTexts texts

/-- The dump of an affinity. -/
def HardwareWorkloadAffinity.dump (affinity : HardwareWorkloadAffinity) : Json := .obj [
  ("dimension", .str affinity.dimension.value), ("level", .str affinity.level.value),
  ("evidence_record_ids", Json.strs affinity.evidenceRecordIds),
  ("reason_codes", Json.strs affinity.reasonCodes)]

/-- The content of a profile. -/
structure ProfileContent where
  descriptor : HardwareDescriptor
  capabilities : List CapabilityAssessment
  supportedPrecisions : List HardwarePrecision
  declaredMemoryBandwidthBytesPerS : Option Int := none
  measuredMemoryBandwidthBytesPerS : Option Int := none
  interconnectCapabilities : List String := []
  runtimeCapabilities : List String := []
  softwareStack : List String := []
  powerConstraints : List String := []
  evidenceRecordIds : List String
  workloadAffinities : List HardwareWorkloadAffinity
  profileGeneration : Int
  trustState : HardwareTrustState

variable (digest : Digest)

/-- The identity of the profile of a piece of hardware at a generation. -/
def makeProfileIdentity (hardwareId : String) (profileGeneration : Int) : String :=
  digest.hexdigest (.obj [("hardware_id", .str hardwareId),
    ("profile_generation", .int profileGeneration)])

/-- The fingerprint of a profile. -/
def makeHardwareProfileFingerprint (hardwareProfileId : String) (content : ProfileContent) :
    String :=
  digest.hexdigest (.obj [("hardware_profile_id", .str hardwareProfileId),
    ("descriptor", content.descriptor.dump),
    ("capabilities", .arr (content.capabilities.map CapabilityAssessment.dump)),
    ("supported_precisions", Json.strs (content.supportedPrecisions.map HardwarePrecision.value)),
    ("declared_memory_bandwidth_bytes_per_s",
      Json.optInt content.declaredMemoryBandwidthBytesPerS),
    ("measured_memory_bandwidth_bytes_per_s",
      Json.optInt content.measuredMemoryBandwidthBytesPerS),
    ("interconnect_capabilities", Json.strs content.interconnectCapabilities),
    ("runtime_capabilities", Json.strs content.runtimeCapabilities),
    ("software_stack", Json.strs content.softwareStack),
    ("power_constraints", Json.strs content.powerConstraints),
    ("evidence_record_ids", Json.strs content.evidenceRecordIds),
    ("workload_affinities", .arr (content.workloadAffinities.map HardwareWorkloadAffinity.dump)),
    ("profile_generation", .int content.profileGeneration),
    ("trust_state", .str content.trustState.value)])

/-- The personality profile of a piece of hardware at a generation. -/
structure HardwarePersonalityProfile extends ProfileContent where
  hardwareProfileId : String
  profileFingerprint : String
  /-- Identity fields are nonblank and trimmed. -/
  texts_trimmed : ∀ text ∈ [hardwareProfileId, profileFingerprint], Text.Trimmed text
  /-- Bandwidths are at least one. -/
  bandwidths_pos : ∀ field ∈ [declaredMemoryBandwidthBytesPerS, measuredMemoryBandwidthBytesPerS],
    ∀ bandwidth ∈ field, 1 ≤ bandwidth
  /-- Generations start at one. -/
  generation_pos : 1 ≤ profileGeneration
  /-- Texts stand in canonical form. -/
  texts_canonical : ∀ texts ∈ [interconnectCapabilities, runtimeCapabilities, softwareStack,
    powerConstraints, evidenceRecordIds], CanonicalTexts texts
  /-- Precisions, capabilities and affinities stand once each, in order. -/
  names_canonical : ∀ names ∈ [supportedPrecisions.map HardwarePrecision.value,
    capabilities.map CapabilityAssessment.propertyName,
    workloadAffinities.map fun affinity => affinity.dimension.value], canonical id names = names
  /-- The identity is that of the hardware and the generation. -/
  id_verified : hardwareProfileId =
    makeProfileIdentity digest descriptor.hardwareId profileGeneration
  /-- A verified profile has evidence. -/
  evidence_of_verified : trustState = .verified → evidenceRecordIds ≠ []
  /-- The fingerprint is that of the content. -/
  fingerprint_verified : profileFingerprint =
    makeHardwareProfileFingerprint digest hardwareProfileId toProfileContent

/-! ## Requirements -/

/-- What is required of hardware. -/
structure HardwareRequirement where
  requirementId : String
  requiredHardwareClass : Option HardwareClass := none
  requiredPrecision : Option HardwarePrecision := none
  minimumMemoryBytes : Option Int := none
  requiredRuntimeCapability : Option String := none
  requiresAccelerator : Option Bool := none
  forbiddenVirtualizationStates : List VirtualizationState := []
  /-- Texts are nonblank and trimmed. -/
  texts_trimmed : ∀ text ∈ requirementId :: requiredRuntimeCapability.toList, Text.Trimmed text
  /-- The minimal memory is at least one. -/
  memory_pos : ∀ minimum ∈ minimumMemoryBytes, 1 ≤ minimum

/-- The outcome of comparing a profile with a requirement. -/
structure HardwareCompatibilityResult where
  requirementId : String
  hardwareProfileId : String
  state : HardwareCompatibilityState
  reasonCodes : List String

end HardwarePersonality
end MercuryX
