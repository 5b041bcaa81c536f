import MercuryX.Morphing.Contracts

/-!
# Validation of morph profiles

Whether an assignment names a registered variant, and whether the policy of its stage permits the
variant, is decided by the evaluation of compatibility. The validation of a profile does not ask for
it: it compares the identity of the profile with its content, and looks neither at the registry nor
at the requirements.
-/

namespace MercuryX
namespace Morphing

open Foundation

/-! ## Compatibility -/

/-- The policy of a stage permits a dimension. -/
def Permits (requirement : MorphRequirement) (dimension : MorphDimension) : Prop :=
  requirement.morphingForbidden = false ∧ dimension ∉ requirement.deniedDimensions ∧
    (requirement.allowedDimensions = [] ∨ dimension ∈ requirement.allowedDimensions)

instance (requirement : MorphRequirement) (dimension : MorphDimension) :
    Decidable (Permits requirement dimension) :=
  inferInstanceAs (Decidable (_ ∧ _))

/-- The outcome of an evaluation of compatibility. -/
structure MorphCompatibilityResult where
  stageId : String
  compatible : Bool
  issues : List MorphValidationIssue
  provenance : List String

/-- What makes an assignment of a variant to a stage incompatible. -/
def incompatibilities (capability : ModelMorphCapability) (requirement : MorphRequirement)
    (assignment : MorphAssignment) : List String :=
  (if assignment.stageId ≠ requirement.stageId then ["stage"] else []) ++
  (if assignment.variant ≠ capability.identity then ["exact_variant"] else []) ++
  (if requirement.morphingForbidden = true ∨
      assignment.dimension ∈ requirement.deniedDimensions ∨
      (requirement.allowedDimensions ≠ [] ∧
        assignment.dimension ∉ requirement.allowedDimensions) then ["policy"] else [])

/-- Evaluate whether an assignment names a registered variant that the policy of its stage
permits. -/
def evaluateMorphCompatibility (capability : ModelMorphCapability)
    (requirement : MorphRequirement) (assignment : MorphAssignment) : MorphCompatibilityResult where
  stageId := assignment.stageId
  compatible := (incompatibilities capability requirement assignment).isEmpty
  issues := (sortOn id (incompatibilities capability requirement assignment)).map fun issue =>
    { issueId := issue
      violatedInvariant := issue
      reason := "exact registered lineage variant or explicit policy is incompatible" }
  provenance := ["exact registered lineage/revision/variant evaluated"]

theorem not_permits_iff {requirement : MorphRequirement} {dimension : MorphDimension} :
    ¬ Permits requirement dimension ↔ requirement.morphingForbidden = true ∨
      dimension ∈ requirement.deniedDimensions ∨
        (requirement.allowedDimensions ≠ [] ∧ dimension ∉ requirement.allowedDimensions) := by
  rw [Permits, not_and_or, not_and_or, not_or, not_not, Bool.not_eq_false]

theorem compatible_iff {capability : ModelMorphCapability} {requirement : MorphRequirement}
    {assignment : MorphAssignment} :
    (evaluateMorphCompatibility capability requirement assignment).compatible = true ↔
      assignment.stageId = requirement.stageId ∧ assignment.variant = capability.identity ∧
        Permits requirement assignment.dimension := by
  simp only [evaluateMorphCompatibility, incompatibilities, ← not_permits_iff, List.isEmpty_iff,
    List.append_eq_nil_iff, ite_eq_right_iff, List.cons_ne_nil, imp_false, not_not, ne_eq,
    and_assoc]

/-! ## Validation -/

section Validation

variable (digest : Digest)

/-- Validate a draft. Neither the registry nor the requirements are looked at. -/
def validateMorphProfile (draft : MorphProfileDraft) (_capabilities : ModelMorphCapabilityRegistry)
    (_requirements : StageMorphRequirementSet) : MorphProfile :=
  let issues : List MorphValidationIssue :=
    if draft.profileId ≠ draft.morphProfileId digest then
      [{ issueId := "profile_id"
         violatedInvariant := "profile_id"
         reason := "deterministic profile id mismatch" }]
    else []
  { toMorphProfileDraft := draft
    status := if issues ≠ [] then .rejected else .valid
    issues := issues }

/-- A draft is found valid exactly when its identity is that of its content. -/
theorem status_valid_iff {draft : MorphProfileDraft} {capabilities : ModelMorphCapabilityRegistry}
    {requirements : StageMorphRequirementSet} :
    (validateMorphProfile digest draft capabilities requirements).status = .valid ↔
      draft.profileId = draft.morphProfileId digest := by
  by_cases addressed : draft.profileId = draft.morphProfileId digest
  · simp [validateMorphProfile, addressed]
  · simp [validateMorphProfile, addressed]

end Validation

/-! ## Sound drafts -/

section Sound

variable {digest : Digest} {draft : MorphProfileDraft} {capabilities : ModelMorphCapabilityRegistry}
  {requirements : StageMorphRequirementSet}

/-- What is promised of a draft that is found valid. -/
structure Sound (draft : MorphProfileDraft) (capabilities : ModelMorphCapabilityRegistry)
    (requirements : StageMorphRequirementSet) : Prop where
  /-- The draft is for the composition. -/
  composition : draft.compositionId = requirements.compositionId
  /-- The draft is under the precision profile. -/
  precision : draft.precisionProfileId = requirements.precisionProfileId
  /-- Every certified stage is assigned once. -/
  stages : ∀ stage ∈ requirements.stageModelIdentities, draft.stageIds.count stage.1 = 1
  /-- Every assignment is for a certified stage, names a variant that is registered for the lineage
  of the stage, and is compatible with it under the policy of the stage. -/
  variants : ∀ assignment ∈ draft.assignments, ∃ stage ∈ requirements.stageModelIdentities,
    stage.1 = assignment.stageId ∧ ∃ capability ∈ capabilities.records,
      canonicalMorphLineageIdentity capability = stage.2 ∧
        ∃ requirement ∈ requirements.requirements, requirement.stageId = assignment.stageId ∧
          (evaluateMorphCompatibility capability requirement assignment).compatible = true

/-- A draft that keeps to the requirements and to the registry. -/
structure Certified (draft : MorphProfileDraft) (capabilities : ModelMorphCapabilityRegistry)
    (requirements : StageMorphRequirementSet) : Prop where
  /-- Composition and precision profile are those of the requirements. -/
  belongs : (draft.compositionId, draft.precisionProfileId) =
    (requirements.compositionId, requirements.precisionProfileId)
  /-- Every certified stage is assigned once. -/
  once : ∀ stage ∈ requirements.stageModelIdentities, draft.stageIds.count stage.1 = 1
  /-- Every assignment is for a certified stage, in the lineage of the stage. -/
  lineages : ∀ assignment ∈ draft.assignments,
    (assignment.stageId, assignment.lineage) ∈ requirements.stageModelIdentities
  /-- Every assignment names a registered variant. -/
  registered : ∀ assignment ∈ draft.assignments,
    assignment.variant ∈ capabilities.records.map ModelMorphCapability.identity
  /-- The policy of its stage permits the dimension of an assignment. -/
  permitted : ∀ assignment ∈ draft.assignments, ∃ requirement ∈ requirements.requirements,
    requirement.stageId = assignment.stageId ∧ Permits requirement assignment.dimension

theorem sound_iff_certified :
    Sound draft capabilities requirements ↔ Certified draft capabilities requirements := by
  constructor
  · intro sound
    refine ⟨Prod.ext sound.composition sound.precision, sound.stages, ?_, ?_, ?_⟩
    all_goals
      intro assignment member
      obtain ⟨stage, certified, isStage, capability, known, lineage, requirement, required, policy,
        compatible⟩ := sound.variants assignment member
      obtain ⟨_, named, permitted⟩ := compatible_iff.mp compatible
    case refine_1 =>
      have same : assignment.lineage = stage.2 := (congrArg Prod.fst named).trans lineage
      rwa [same, ← isStage]
    case refine_2 => exact named ▸ List.mem_map_of_mem known
    case refine_3 => exact ⟨requirement, required, policy, permitted⟩
  · intro certified
    refine ⟨congrArg Prod.fst certified.belongs, congrArg Prod.snd certified.belongs,
      certified.once, fun assignment member => ?_⟩
    obtain ⟨capability, known, named⟩ := List.mem_map.mp (certified.registered assignment member)
    obtain ⟨requirement, required, policy, permitted⟩ := certified.permitted assignment member
    exact ⟨_, certified.lineages assignment member, rfl, capability, known,
      congrArg Prod.fst named, requirement, required, policy,
      compatible_iff.mpr ⟨policy.symm, named.symm, permitted⟩⟩

/-- A draft that is found valid is sound exactly where the draft is certified, or its identity is
not that of its content. -/
theorem valid_sound_iff (digest : Digest) (draft : MorphProfileDraft)
    (capabilities : ModelMorphCapabilityRegistry) (requirements : StageMorphRequirementSet) :
    ((validateMorphProfile digest draft capabilities requirements).status = .valid →
        Sound draft capabilities requirements) ↔
      draft.profileId ≠ draft.morphProfileId digest ∨
        Certified draft capabilities requirements := by
  rw [status_valid_iff, sound_iff_certified, imp_iff_not_or]

end Sound

/-! ## A foreign draft -/

section Sample

/-- The lineage of the model of the one stage. -/
def sampleLineage : LineageIdentity := lineageIdentity "p" "f" "m" "l" "1"

theorem noExperts_visible : ∀ text ∈ ["morph-r", "s"], Text.Nonblank text := by
  decide

/-- The policy of the stage, which denies the expert dimension. -/
def noExperts : MorphRequirement where
  requirementId := "morph-r"
  stageId := "s"
  hardRequirementIds := ["q"]
  deniedDimensions := [.expert]
  provenance := ["e"]
  texts_nonblank := noExperts_visible

/-- The requirements of one stage. -/
def oneStage : StageMorphRequirementSet where
  compositionId := "c"
  precisionProfileId := "p"
  stageModelIdentities := [("s", sampleLineage)]
  requirements := [noExperts]
  provenance := ["e"]

/-- An assignment of an expert variant that nobody registered. -/
def unregisteredExpert : MorphAssignment where
  stageId := "s"
  provider := "p"
  family := "f"
  baseModelId := "m"
  lineageId := "l"
  sourceRevision := "1"
  variantId := "v"
  dimension := .expert
  hardRequirementIds := ["q"]
  provenance := ["e"]

/-- The content of the draft, before its identity is known. -/
def expertContent : MorphProfileDraft where
  profileId := ""
  compositionId := "c"
  precisionProfileId := "p"
  assignments := [unregisteredExpert]
  provenance := ["e"]

/-- The draft, with the identity of its content. -/
def expertDraft (digest : Digest) : MorphProfileDraft :=
  { expertContent with profileId := expertContent.morphProfileId digest }

/-- The registry without variants. -/
def noVariants : ModelMorphCapabilityRegistry := ⟨[], Registry.registered_nil⟩

/-- A draft that assigns a variant which is not registered, and which the policy of the stage
denies, is found valid. -/
theorem denied_variant_found_valid :
    ¬ ∀ (digest : Digest) (draft : MorphProfileDraft) (capabilities : ModelMorphCapabilityRegistry)
        (requirements : StageMorphRequirementSet),
      (validateMorphProfile digest draft capabilities requirements).status = .valid →
        Sound draft capabilities requirements := by
  intro sound
  have found : (validateMorphProfile Digest.sha256 (expertDraft Digest.sha256) noVariants
      oneStage).status = .valid := (status_valid_iff Digest.sha256).mpr rfl
  obtain ⟨_, _, _, _, known, _⟩ :=
    (sound _ _ _ _ found).variants unregisteredExpert (List.mem_singleton_self _)
  exact absurd known List.not_mem_nil

end Sample

end Morphing
end MercuryX
