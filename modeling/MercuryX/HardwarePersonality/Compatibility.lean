import MercuryX.HardwarePersonality.Contracts

/-!
# Hardware compatibility

A verified profile is compared with every requirement that is given. What the evidence leaves
unknown never counts as met: a profile is compatible exactly when it satisfies the requirement.
-/

namespace MercuryX
namespace HardwarePersonality

open Foundation

variable {digest : Digest}

/-- A reason, where the condition holds. -/
def reasonIf (condition : Prop) [Decidable condition] (reason : String) : List String :=
  if condition then [reason] else []

@[simp] theorem reasonIf_eq_nil {condition : Prop} [Decidable condition] {reason : String} :
    reasonIf condition reason = [] ↔ ¬ condition := by
  unfold reasonIf
  split <;> simp_all

/-- The support of a capability, unknown where no evidence speaks of it. -/
def supportOf (profile : HardwarePersonalityProfile digest) (propertyName : String) :
    CapabilitySupportState :=
  ((profile.capabilities.find? fun item => item.propertyName = propertyName).map
    CapabilityAssessment.supportState).getD .unknown

/-- The support of the precision that is required; supported where none is. -/
def precisionSupport (profile : HardwarePersonalityProfile digest)
    (requirement : HardwareRequirement) : CapabilitySupportState :=
  requirement.requiredPrecision.elim .capable fun precision =>
    supportOf profile ("precision." ++ precision.value)

/-- The support of the runtime capability that is required; supported where none is. -/
def runtimeSupport (profile : HardwarePersonalityProfile digest)
    (requirement : HardwareRequirement) : CapabilitySupportState :=
  requirement.requiredRuntimeCapability.elim .capable (supportOf profile)

/-- The requirements that a profile fails. -/
def incompatibleReasons (profile : HardwarePersonalityProfile digest)
    (requirement : HardwareRequirement) : List String :=
  reasonIf (∃ required ∈ requirement.requiredHardwareClass,
      profile.descriptor.hardwareClass ≠ required) "HARDWARE_CLASS_MISMATCH" ++
  reasonIf (requirement.requiresAccelerator = some true ∧ profile.descriptor.hardwareClass = .cpu)
    "ACCELERATOR_REQUIRED" ++
  reasonIf (∃ minimum ∈ requirement.minimumMemoryBytes,
      ∃ capacity ∈ profile.descriptor.memoryCapacityBytes, capacity < minimum)
    "INSUFFICIENT_MEMORY" ++
  reasonIf (precisionSupport profile requirement = .incapable) "PRECISION_UNSUPPORTED" ++
  reasonIf (runtimeSupport profile requirement = .incapable) "RUNTIME_UNSUPPORTED" ++
  reasonIf (profile.descriptor.virtualizationState ∈ requirement.forbiddenVirtualizationStates)
    "VIRTUALIZATION_FORBIDDEN"

/-- The requirements that the evidence leaves open. -/
def unknownReasons (profile : HardwarePersonalityProfile digest)
    (requirement : HardwareRequirement) : List String :=
  reasonIf (requirement.minimumMemoryBytes ≠ none ∧ profile.descriptor.memoryCapacityBytes = none)
    "MEMORY_CAPACITY_UNKNOWN" ++
  reasonIf (precisionSupport profile requirement = .unknown) "PRECISION_SUPPORT_UNKNOWN" ++
  reasonIf (runtimeSupport profile requirement = .unknown) "RUNTIME_SUPPORT_UNKNOWN"

/-- Compare a profile with a requirement. -/
def evaluateHardwareCompatibility (profile : HardwarePersonalityProfile digest)
    (requirement : HardwareRequirement) : HardwareCompatibilityResult :=
  let incompatible := incompatibleReasons profile requirement
  let unknown := unknownReasons profile requirement
  let result (state : HardwareCompatibilityState) (reasonCodes : List String) :=
    HardwareCompatibilityResult.mk requirement.requirementId profile.hardwareProfileId state
      reasonCodes
  if profile.trustState ≠ .verified then result .incompatible ["PROFILE_TRUST_NOT_VERIFIED"]
  else if incompatible ≠ [] then result .incompatible (canonical id (incompatible ++ unknown))
  else if unknown ≠ [] then result .unknown (canonical id unknown)
  else result .compatible ["ALL_EXPLICIT_REQUIREMENTS_SATISFIED"]

/-! ## What compatibility means -/

/-- The evidence says that the hardware has a capability. -/
def HardwarePersonalityProfile.Capable (profile : HardwarePersonalityProfile digest)
    (propertyName : String) : Prop :=
  ∃ item ∈ profile.capabilities, item.propertyName = propertyName ∧ item.supportState = .capable

/-- Every requirement that is given is known to be met by a verified profile. -/
structure HardwareRequirement.SatisfiedBy (requirement : HardwareRequirement)
    (profile : HardwarePersonalityProfile digest) : Prop where
  /-- The profile is verified. -/
  verified : profile.trustState = .verified
  /-- The hardware is of the required class. -/
  hardwareClass : ∀ required ∈ requirement.requiredHardwareClass,
    profile.descriptor.hardwareClass = required
  /-- The hardware is an accelerator where one is required. -/
  accelerator : requirement.requiresAccelerator = some true →
    profile.descriptor.hardwareClass ≠ .cpu
  /-- The memory is known to suffice. -/
  memory : ∀ minimum ∈ requirement.minimumMemoryBytes,
    ∃ capacity ∈ profile.descriptor.memoryCapacityBytes, minimum ≤ capacity
  /-- The precision is supported. -/
  precision : ∀ precision ∈ requirement.requiredPrecision,
    profile.Capable ("precision." ++ precision.value)
  /-- The runtime capability is supported. -/
  runtime : ∀ capability ∈ requirement.requiredRuntimeCapability, profile.Capable capability
  /-- The virtualization is not forbidden. -/
  virtualization :
    profile.descriptor.virtualizationState ∉ requirement.forbiddenVirtualizationStates

variable {profile : HardwarePersonalityProfile digest} {requirement : HardwareRequirement}

theorem supportOf_eq_capable_iff {propertyName : String} :
    supportOf profile propertyName = .capable ↔ profile.Capable propertyName := by
  have distinct : (profile.capabilities.map CapabilityAssessment.propertyName).Nodup :=
    profile.names_canonical (profile.capabilities.map CapabilityAssessment.propertyName)
      (by simp) ▸ canonical_nodup id _
  rw [supportOf, HardwarePersonalityProfile.Capable]
  cases found : profile.capabilities.find? fun item => item.propertyName = propertyName with
  | none =>
      simp only [List.find?_eq_none, decide_eq_true_eq] at found
      simp only [Option.map_none, Option.getD_none, reduceCtorEq, false_iff]
      rintro ⟨item, member, named, _⟩
      exact found item member named
  | some item =>
      have named : item.propertyName = propertyName := by simpa using List.find?_some found
      have member := List.mem_of_find?_eq_some found
      simp only [Option.map_some, Option.getD_some]
      constructor
      · exact fun capable => ⟨item, member, named, capable⟩
      · rintro ⟨other, otherMember, otherNamed, capable⟩
        have same := List.inj_on_of_nodup_map distinct member otherMember
          (named.trans otherNamed.symm)
        exact same ▸ capable

theorem precisionSupport_eq_capable_iff : precisionSupport profile requirement = .capable ↔
    ∀ precision ∈ requirement.requiredPrecision,
      profile.Capable ("precision." ++ precision.value) := by
  rw [precisionSupport]
  cases requirement.requiredPrecision <;> simp [supportOf_eq_capable_iff]

theorem runtimeSupport_eq_capable_iff : runtimeSupport profile requirement = .capable ↔
    ∀ capability ∈ requirement.requiredRuntimeCapability, profile.Capable capability := by
  rw [runtimeSupport]
  cases requirement.requiredRuntimeCapability <;> simp [supportOf_eq_capable_iff]

theorem eq_capable_iff {support : CapabilitySupportState} :
    support = .capable ↔ support ≠ .incapable ∧ support ≠ .unknown := by
  cases support <;> simp

theorem compatible_iff : (evaluateHardwareCompatibility profile requirement).state = .compatible ↔
    requirement.SatisfiedBy profile := by
  have compatible : (evaluateHardwareCompatibility profile requirement).state = .compatible ↔
      profile.trustState = .verified ∧ incompatibleReasons profile requirement = [] ∧
        unknownReasons profile requirement = [] := by
    by_cases verified : profile.trustState = .verified
    · by_cases incompatible : incompatibleReasons profile requirement = []
      · by_cases unknown : unknownReasons profile requirement = []
        · simp [evaluateHardwareCompatibility, verified, incompatible, unknown]
        · simp [evaluateHardwareCompatibility, verified, incompatible, unknown]
      · simp [evaluateHardwareCompatibility, verified, incompatible]
    · simp [evaluateHardwareCompatibility, verified]
  rw [compatible]
  simp only [incompatibleReasons, unknownReasons, List.append_eq_nil_iff, reasonIf_eq_nil,
    not_exists, not_and, not_not, not_lt]
  constructor
  · rintro ⟨verified, ⟨⟨⟨⟨⟨sameClass, accelerator⟩, memory⟩, precision⟩, runtime⟩, virtualization⟩,
      ⟨capacity, precisionKnown⟩, runtimeKnown⟩
    constructor
    case verified => exact verified
    case hardwareClass => exact sameClass
    case accelerator => exact accelerator
    case memory =>
      intro minimum required
      obtain ⟨known, found⟩ := Option.ne_none_iff_exists'.mp
        (capacity (Option.ne_none_iff_exists'.mpr ⟨minimum, required⟩))
      exact ⟨known, found, memory minimum required known found⟩
    case precision =>
      exact precisionSupport_eq_capable_iff.mp (eq_capable_iff.mpr ⟨precision, precisionKnown⟩)
    case runtime =>
      exact runtimeSupport_eq_capable_iff.mp (eq_capable_iff.mpr ⟨runtime, runtimeKnown⟩)
    case virtualization => exact virtualization
  · intro satisfied
    obtain ⟨precision, precisionKnown⟩ := eq_capable_iff.mp
      (precisionSupport_eq_capable_iff.mpr satisfied.precision)
    obtain ⟨runtime, runtimeKnown⟩ := eq_capable_iff.mp
      (runtimeSupport_eq_capable_iff.mpr satisfied.runtime)
    refine ⟨satisfied.verified, ⟨⟨⟨⟨⟨satisfied.hardwareClass, satisfied.accelerator⟩, ?_⟩,
      precision⟩, runtime⟩, satisfied.virtualization⟩, ⟨?_, precisionKnown⟩, runtimeKnown⟩
    · intro minimum required capacity found
      obtain ⟨known, same, enough⟩ := satisfied.memory minimum required
      obtain rfl := Option.some_inj.mp (same.symm.trans found)
      exact enough
    · intro required
      obtain ⟨minimum, given⟩ := Option.ne_none_iff_exists'.mp required
      obtain ⟨known, same, _⟩ := satisfied.memory minimum given
      exact Option.ne_none_iff_exists'.mpr ⟨known, same⟩

end HardwarePersonality
end MercuryX
