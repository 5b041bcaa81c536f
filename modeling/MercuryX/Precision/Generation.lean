import MercuryX.Foundation.Numerals
import MercuryX.Foundation.Product
import MercuryX.Precision.Validation

/-!
# Generation of precision profiles

The compatible modes of each stage, and the product of them, in the order of stages and modes. The
generator takes the first profiles up to its bound, looks one further to see whether there are
more, and validates each profile anew. Its result lists them in the order of their ids.
-/

namespace MercuryX
namespace Precision

open Foundation
open MercuryX.Composition (IsSha256Id)

/-! ## Results -/

/-- The outcome of the precision phase. -/
inductive PrecisionPhaseStatus where
  | ready
  | notApplicable
  | fail
  deriving DecidableEq, Repr

/-- How far the enumeration went. -/
structure PrecisionGenerationMetadata where
  maxProfiles : Int
  emittedValidCount : Nat
  emittedRejectedCount : Nat
  enumerationCompleted : Bool
  truncated : Bool
  truncationReason : Option String := none
  lowerBoundUniqueProfiles : Int
  canonicalOrderDescription : String

/-- The constraints on metadata. -/
def PrecisionGenerationMetadata.check (metadata : PrecisionGenerationMetadata) :
    Except Fault Unit := do
  let contract := "PrecisionGenerationMetadata"
  let emitted : Int := metadata.emittedValidCount + metadata.emittedRejectedCount
  fieldBetween contract "max_profiles" 1 maxPrecisionProfiles metadata.maxProfiles
  rule contract "truncation_reason" (∀ reason ∈ metadata.truncationReason, Text.Nonblank reason)
    "truncation_reason must be nonblank"
  fieldGe contract "lower_bound_unique_profiles" 0 metadata.lowerBoundUniqueProfiles
  rule contract "canonical_order_description"
    (Text.Nonblank metadata.canonicalOrderDescription)
    "canonical_order_description must be nonblank"
  rule contract "" (emitted ≤ metadata.maxProfiles) "emitted profiles exceed max_profiles"
  if metadata.truncated then
    rule contract "" (metadata.enumerationCompleted = false)
      "truncated enumeration cannot be completed"
    rule contract "" (metadata.truncationReason ≠ none) "truncated enumeration requires a reason"
    rule contract "" (metadata.maxProfiles < metadata.lowerBoundUniqueProfiles)
      "truncation requires a lower bound above max_profiles"
  else
    rule contract "" (metadata.enumerationCompleted = true)
      "non-truncated enumeration must be completed"
    rule contract "" (metadata.truncationReason = none)
      "non-truncated enumeration cannot have a truncation reason"
    rule contract "" (metadata.lowerBoundUniqueProfiles = emitted)
      "completed enumeration lower bound must equal emitted count"

/-- What the precision phase returns. -/
structure PrecisionPhaseResult where
  status : PrecisionPhaseStatus
  validProfiles : List PrecisionProfile
  rejectedProfiles : List PrecisionProfile
  generationMetadata : PrecisionGenerationMetadata
  issues : List PrecisionValidationIssue := []

/-- The ids of profiles. -/
def profileIds (profiles : List PrecisionProfile) : List String :=
  profiles.map fun profile => profile.profileId

/-- The constraints on the status of a result. -/
def PrecisionPhaseResult.checkStatus (given : PrecisionPhaseResult) (contract : String) :
    Except Fault Unit :=
  match given.status with
  | .ready =>
      rule contract "" (given.validProfiles.length ≠ 0)
        "READY requires at least one valid precision profile"
  | .notApplicable =>
      rule contract "" (given.validProfiles.length = 0 ∧ given.rejectedProfiles.length = 0 ∧
        given.issues = []) "NOT_APPLICABLE cannot contain profiles or issues"
  | .fail => do
      rule contract "" (given.validProfiles.length = 0)
        "FAIL cannot contain valid precision profiles"
      rule contract "" (given.rejectedProfiles.length ≠ 0 ∨ given.issues ≠ [])
        "FAIL requires an explicit rejection or issue"

/-- Construct a result: its profiles are put in the order of their ids. -/
def PrecisionPhaseResult.construct (given : PrecisionPhaseResult) :
    Except Fault PrecisionPhaseResult := do
  let contract := "PrecisionPhaseResult"
  rule contract "valid_profiles" (profileIds given.validProfiles).Nodup
    "profile ids must be unique"
  rule contract "rejected_profiles" (profileIds given.rejectedProfiles).Nodup
    "profile ids must be unique"
  rule contract "" (∀ profile ∈ given.validProfiles, profile.status = .valid)
    "valid_profiles must contain only VALID profiles"
  rule contract "" (∀ profile ∈ given.rejectedProfiles, profile.status = .rejected)
    "rejected_profiles must contain only REJECTED profiles"
  rule contract "" (profileIds given.validProfiles ++ profileIds given.rejectedProfiles).Nodup
    "profile ids must be unique across the phase result"
  rule contract ""
    (given.generationMetadata.emittedValidCount = given.validProfiles.length)
    "valid profile count does not match generation metadata"
  rule contract ""
    (given.generationMetadata.emittedRejectedCount = given.rejectedProfiles.length)
    "rejected profile count does not match generation metadata"
  given.checkStatus contract
  return { given with
    validProfiles := sortOn (fun profile => profile.profileId) given.validProfiles
    rejectedProfiles := sortOn (fun profile => profile.profileId) given.rejectedProfiles
    issues := canonical PrecisionValidationIssue.key given.issues }

/-! ## Enumeration -/

/-- What a generation reports of itself. -/
def generationMetadata (maxProfiles : Int) (valid rejected profiles : Nat) (truncated : Bool) :
    PrecisionGenerationMetadata where
  maxProfiles := maxProfiles
  emittedValidCount := valid
  emittedRejectedCount := rejected
  enumerationCompleted := !truncated
  truncated := truncated
  truncationReason := if truncated then some "first unique profile beyond cap observed" else none
  lowerBoundUniqueProfiles := if truncated then maxProfiles + 1 else profiles
  canonicalOrderDescription := "stage order then FP32, BF16, FP16, INT8; reproducibility only"

section Generation

variable (digest : Digest) (requirementSet : StagePrecisionRequirementSet)
  (registry : ModelPrecisionCapabilityRegistry)
  (evidenceConstraints : List PrecisionEvidenceConstraint)

/-- The fields of the assignment of a mode to a stage. -/
def assignmentFields (requirement : PrecisionRequirement) (entry : StageModelIdentity)
    (mode : PrecisionMode) : PrecisionAssignmentFields where
  stageId := entry.1
  provider := (ofLex entry.2).1
  modelId := (ofLex (ofLex entry.2).2).1
  family := (ofLex (ofLex (ofLex entry.2).2).2).1
  revision := (ofLex (ofLex (ofLex entry.2).2).2).2
  mode := mode
  hardRequirementIds := requirement.hardRequirementIds
  provenance := ["certified stage identity"]

/-- The compatible assignments to a stage, in the order of modes. -/
def stageChoices (stage : PrecisionRequirement × StageModelIdentity) :
    Except Fault (List PrecisionAssignment) := do
  let identity := (assignmentFields stage.1 stage.2 .fp32)
  let capability ← lookupExactPrecisionCapability registry identity.provider identity.modelId
    identity.family identity.revision
  match capability with
  | none => return []
  | some capability =>
      let assignments ← PrecisionMode.all.mapM fun mode =>
        PrecisionAssignment.construct (assignmentFields stage.1 stage.2 mode)
      return assignments.filter fun assignment =>
        (evaluatePrecisionCompatibility capability stage.1 assignment
          evidenceConstraints).compatible

/-- The combinations of compatible assignments; there are none if a stage has none. -/
def assignmentCombinations : Except Fault (List (List PrecisionAssignment)) := do
  let options ← (requirementSet.requirements.zip requirementSet.stageModelIdentities).mapM
    (stageChoices registry evidenceConstraints)
  return if options.isEmpty || options.any List.isEmpty then [] else product options

/-- The draft of a combination, with the id of its content. -/
def combinationDraft (compositionId : String) (assignments : List PrecisionAssignment) :
    Except Fault PrecisionProfileDraft := do
  let item ← PrecisionProfileDraft.construct {
    profileId := "sha256:0000000000000000000000000000000000000000000000000000000000000000"
    compositionId := compositionId
    assignments := assignments
    provenance := ["deterministic exact-registry enumeration"] }
  return { item with profileId := item.precisionProfileId digest }

/-- The drafts of all combinations. -/
def iterPrecisionProfileDrafts : Except Fault (List PrecisionProfileDraft) := do
  let combinations ← assignmentCombinations requirementSet registry evidenceConstraints
  combinations.mapM (combinationDraft digest requirementSet.composition.compositionId)

/-- Generate profiles up to a bound. The enumeration is lazy: one draft beyond the bound is made. -/
def generatePrecisionProfiles (maxProfiles : Int) (adaptationRequired : Bool) :
    Except Fault PrecisionPhaseResult := do
  require (1 ≤ maxProfiles ∧ maxProfiles ≤ maxPrecisionProfiles)
    (.value "max_profiles must be within the certified bound")
  let bound := maxProfiles.toNat
  let combinations ← assignmentCombinations requirementSet registry evidenceConstraints
  let seen ← (combinations.take (bound + 1)).mapM
    (combinationDraft digest requirementSet.composition.compositionId)
  let drafts := seen.take bound
  let truncated := decide (bound < seen.length)
  let profiles ← drafts.mapM fun draft =>
    validatePrecisionProfile digest draft requirementSet registry evidenceConstraints
  let valid := profiles.filter fun profile => profile.status = .valid
  let rejected := profiles.filter fun profile => profile.status = .rejected
  let issues := if valid.length ≠ 0 ∨ rejected.length ≠ 0 ∨ adaptationRequired = false then []
    else [{
      issueId := "no_valid_profile"
      violatedInvariant := "profile_availability"
      reason := "adaptation is required but no exact compatible profile exists" }]
  let metadata := generationMetadata maxProfiles valid.length rejected.length profiles.length
    truncated
  metadata.check
  PrecisionPhaseResult.construct {
    status := if valid.length ≠ 0 then .ready else if adaptationRequired then .fail
      else .notApplicable
    validProfiles := valid
    rejectedProfiles := rejected
    generationMetadata := metadata
    issues := issues }

end Generation

/-! ## What is enumerated -/

section Enumeration

variable {digest : Digest} {requirementSet : StagePrecisionRequirementSet}
  {registry : ModelPrecisionCapabilityRegistry}
  {evidenceConstraints : List PrecisionEvidenceConstraint}

/-- The stages of a composition, each with its requirement and its model. -/
def stages (requirementSet : StagePrecisionRequirementSet) :
    List (PrecisionRequirement × StageModelIdentity) :=
  requirementSet.requirements.zip requirementSet.stageModelIdentities

variable (registry evidenceConstraints) in
/-- An assignment of a compatible mode to a stage, with the exact model of the stage. -/
structure IsChoice (stage : PrecisionRequirement × StageModelIdentity)
    (assignment : PrecisionAssignment) : Prop where
  /-- The assignment is for the stage. -/
  stageId : assignment.stageId = stage.2.1
  /-- The model is that of the stage. -/
  identity : assignment.identity = stage.2.2
  /-- The hard requirements are those of the stage. -/
  requirements : assignment.hardRequirementIds = stage.1.hardRequirementIds
  /-- The assignment rests on the certified identity. -/
  provenance : assignment.provenance = ["certified stage identity"]
  /-- The mode is compatible with the model and the requirement of the stage. -/
  compatible : ∃ capability ∈ registry.records,
    canonicalPrecisionModelIdentity capability = stage.2.2 ∧
      Compatible evidenceConstraints capability stage.1 assignment.mode

/-- Of two assignments to one stage, the first has the earlier mode. -/
def Earlier (left right : PrecisionAssignment) : Prop :=
  left.stageId = right.stageId ∧ left.mode.order < right.mode.order

theorem stages_matched : List.Forall₂ (fun requirement (entry : StageModelIdentity) =>
    requirement.stageId = entry.1) requirementSet.requirements
      requirementSet.stageModelIdentities := by
  have same := requirementSet.stageIds_eq
  rwa [StagePrecisionRequirementSet.stageIds, ← List.forall₂_eq_eq_eq, List.forall₂_map_left_iff,
    List.forall₂_map_right_iff] at same

theorem map_stageId_stages :
    (stages requirementSet).map (Prod.fst ∘ Prod.snd) = requirementSet.stageIds := by
  rw [requirementSet.stageIds_eq, stages, ← List.map_map, List.map_snd_zip]
  exact stages_matched.length_eq.ge

theorem stages_ne_nil : stages requirementSet ≠ [] := by
  intro empty
  have none : requirementSet.stageIds = [] := by
    rw [← map_stageId_stages, empty, List.map_nil]
  have covered := requirementSet.requirements_cover
  rw [show requirementSet.requirements.map PrecisionRequirement.stageId = [] from none,
    List.toFinset_nil, eq_comm, List.toFinset_eq_empty_iff, List.map_eq_nil_iff] at covered
  exact requirementSet.composition.valid.nodes_nonempty covered

variable {stage : PrecisionRequirement × StageModelIdentity}

theorem requirement_mem (member : stage ∈ stages requirementSet) :
    stage.1 ∈ requirementSet.requirements ∧ stage.1.stageId = stage.2.1 :=
  ⟨(List.of_mem_zip member).1, List.forall₂_zip stages_matched member⟩

theorem assignmentFields_valid (member : stage ∈ stages requirementSet) (mode : PrecisionMode) :
    (assignmentFields stage.1 stage.2 mode).Valid := by
  obtain ⟨requirement, entry⟩ := stage
  obtain ⟨node, _, rfl⟩ :=
    requirementSet.mem_stageModelIdentities.mp (List.of_mem_zip member).2
  have given := requirement.texts_canonical requirement.hardRequirementIds (by simp)
  have record := node.modelRecord.identity_nonblank
  simp only [List.mem_cons, List.not_mem_nil, or_false, forall_eq_or_imp, forall_eq] at record
  constructor
  · simp only [List.mem_cons, List.not_mem_nil, or_false, forall_eq_or_imp, forall_eq]
    exact ⟨node.stageId_nonblank, record.2.1, record.1, record.2.2.1, record.2.2.2⟩
  · have provenance : (∀ text ∈ ["certified stage identity"], Text.Nonblank text) ∧
        ["certified stage identity"] ≠ [] := by decide
    simp only [List.mem_cons, List.not_mem_nil, or_false, forall_eq_or_imp, forall_eq]
    exact ⟨⟨given.1.1, given.2⟩, provenance⟩

theorem lookup_stage (member : stage ∈ stages requirementSet) :
    lookupExactPrecisionCapability registry (assignmentFields stage.1 stage.2 .fp32).provider
        (assignmentFields stage.1 stage.2 .fp32).modelId
        (assignmentFields stage.1 stage.2 .fp32).family
        (assignmentFields stage.1 stage.2 .fp32).revision =
      .ok (registry.records.find? fun record =>
        canonicalPrecisionModelIdentity record = stage.2.2) := by
  have texts := (assignmentFields_valid member .fp32).texts_nonblank
  simp only [List.mem_cons, List.not_mem_nil, or_false, forall_eq_or_imp, forall_eq] at texts
  simp only [lookupExactPrecisionCapability, forEach, texts, require_of_true, ok_bind]
  rfl

/-- The assignment of a mode to a stage. -/
def stageAssignment (member : stage ∈ stages requirementSet) (mode : PrecisionMode) :
    PrecisionAssignment :=
  .make (assignmentFields stage.1 stage.2 mode) (assignmentFields_valid member mode)

theorem isChoice_iff (member : stage ∈ stages requirementSet) {assignment : PrecisionAssignment} :
    IsChoice registry evidenceConstraints stage assignment ↔
      ∃ mode, stageAssignment member mode = assignment ∧
        ∃ capability ∈ registry.records, canonicalPrecisionModelIdentity capability = stage.2.2 ∧
          Compatible evidenceConstraints capability stage.1 mode := by
  have requirements := (stage.1.texts_canonical stage.1.hardRequirementIds (by simp)).1.2
  constructor
  · intro choice
    refine ⟨assignment.mode, PrecisionAssignment.ext_fields choice.stageId.symm
      choice.identity.symm rfl ?_ choice.provenance.symm, choice.compatible⟩
    exact requirements.trans choice.requirements.symm
  · rintro ⟨mode, rfl, compatible⟩
    exact ⟨rfl, rfl, requirements, rfl, compatible⟩

theorem stageChoices_eq (member : stage ∈ stages requirementSet) :
    ∃ choices, stageChoices registry evidenceConstraints stage = .ok choices ∧
      choices.Pairwise Earlier ∧
      ∀ assignment, assignment ∈ choices ↔
        IsChoice registry evidenceConstraints stage assignment := by
  simp only [stageChoices, lookup_stage member, ok_bind]
  cases declared : registry.records.find? fun record =>
      canonicalPrecisionModelIdentity record = stage.2.2 with
  | none =>
      refine ⟨[], rfl, .nil, fun assignment => iff_of_false List.not_mem_nil fun choice => ?_⟩
      obtain ⟨capability, registered, same, _⟩ := choice.compatible
      rw [(Registry.find?_eq_some_iff registry.identities_nodup).mpr
        ⟨registered, same⟩] at declared
      contradiction
  | some capability =>
      obtain ⟨registered, model⟩ :=
        (Registry.find?_eq_some_iff registry.identities_nodup).mp declared
      have made : PrecisionMode.all.mapM (fun mode =>
          PrecisionAssignment.construct (assignmentFields stage.1 stage.2 mode)) =
          .ok (PrecisionMode.all.map (stageAssignment member)) := by
        refine (mapM_eq_ok_iff fun mode assignment outcome => ?_).mpr ⟨fun mode _ => ?_, rfl⟩
        · obtain ⟨_, rfl⟩ := PrecisionAssignment.construct_eq_ok_iff.mp outcome
          rfl
        · exact PrecisionAssignment.construct_eq_ok_iff.mpr ⟨_, rfl⟩
      simp only [made, ok_bind]
      refine ⟨_, rfl, List.Pairwise.filter _ ?_, fun assignment => ?_⟩
      · rw [List.pairwise_map]
        exact PrecisionMode.all_sorted.imp fun earlier => ⟨rfl, earlier⟩
      · rw [isChoice_iff member, List.mem_filter, List.mem_map, compatible_iff]
        constructor
        · rintro ⟨⟨mode, _, rfl⟩, _, _, compatible⟩
          exact ⟨mode, rfl, capability, registered, model, compatible⟩
        · rintro ⟨mode, rfl, other, otherRegistered, otherModel, compatible⟩
          obtain rfl : other = capability := Registry.eq_of_identity_eq
            registry.identities_nodup otherRegistered registered (otherModel.trans model.symm)
          exact ⟨⟨mode, mode.mem_all, rfl⟩, (requirement_mem member).2.symm, model.symm,
            compatible⟩

theorem assignmentCombinations_eq :
    ∃ combinations,
      assignmentCombinations requirementSet registry evidenceConstraints = .ok combinations ∧
      combinations.Pairwise (List.Lex Earlier) ∧
      ∀ chosen, chosen ∈ combinations ↔ List.Forall₂ (fun assignment stage =>
        IsChoice registry evidenceConstraints stage assignment) chosen (stages requirementSet) := by
  obtain ⟨options, made⟩ : ∃ options, (stages requirementSet).mapM
      (stageChoices registry evidenceConstraints) = .ok options :=
    exists_mapM_eq_ok fun stage member => ⟨_, (stageChoices_eq member).choose_spec.1⟩
  have chosen : List.Forall₂ (fun stage choices => choices.Pairwise Earlier ∧
      ∀ assignment, assignment ∈ choices ↔
        IsChoice registry evidenceConstraints stage assignment)
      (stages requirementSet) options := by
    obtain ⟨length, paired⟩ := List.forall₂_iff_zip.mp (mapM_eq_ok_iff_forall₂.mp made)
    refine List.forall₂_iff_zip.mpr ⟨length, fun {stage choices} member => ?_⟩
    obtain ⟨others, outcome, spec⟩ := stageChoices_eq (List.of_mem_zip member).1
    obtain rfl : choices = others := Except.ok.inj ((paired member).symm.trans outcome)
    exact spec
  have all : (if options.isEmpty || options.any List.isEmpty then [] else product options) =
      product options := by
    have nonempty : options ≠ [] := by
      rintro rfl
      exact stages_ne_nil (List.length_eq_zero_iff.mp chosen.length_eq)
    split
    · next stuck =>
        obtain ⟨choices, inside, empty⟩ : ∃ choices ∈ options, choices.isEmpty = true := by
          simpa [nonempty] using stuck
        rw [List.isEmpty_iff] at empty
        exact (product_eq_nil_of_mem (empty ▸ inside)).symm
    · rfl
  refine ⟨product options, ?_, product_pairwise fun choices inside => ?_, fun assignments => ?_⟩
  · rw [assignmentCombinations, ← stages, made, ok_bind, all]
    rfl
  · obtain ⟨index, bound, rfl⟩ := List.mem_iff_getElem.mp inside
    exact (chosen.get (chosen.length_eq ▸ bound) bound).1
  · exact mem_product_iff_of (chosen.imp fun _ _ spec => spec.2)

/-! ## The drafts -/

/-- The draft of a combination of assignments, under an id. -/
def draftUnder (requirementSet : StagePrecisionRequirementSet) (profileId : String)
    (assignments : List PrecisionAssignment) : PrecisionProfileDraft where
  profileId := profileId
  compositionId := requirementSet.composition.compositionId
  assignments := assignments
  provenance := ["deterministic exact-registry enumeration"]

/-- The draft of a combination of assignments, under the id of its content. -/
def draftOf (digest : Digest) (requirementSet : StagePrecisionRequirementSet)
    (assignments : List PrecisionAssignment) : PrecisionProfileDraft :=
  draftUnder requirementSet ((draftUnder requirementSet "" assignments).precisionProfileId digest)
    assignments

variable (digest requirementSet registry evidenceConstraints) in
/-- A draft that assigns a compatible mode to the exact model of each stage. -/
structure Combination (draft : PrecisionProfileDraft) : Prop where
  /-- Each stage has a compatible assignment, and no other stage has. -/
  choices : List.Forall₂ (fun assignment stage =>
    IsChoice registry evidenceConstraints stage assignment) draft.assignments
      (stages requirementSet)
  /-- The rest of the draft follows from its assignments. -/
  determined : draft = draftOf digest requirementSet draft.assignments

variable {draft : PrecisionProfileDraft} {assignments : List PrecisionAssignment}

theorem stageIds_of_choices
    (choices : List.Forall₂ (fun assignment stage =>
      IsChoice registry evidenceConstraints stage assignment) assignments
        (stages requirementSet)) :
    assignments.map (fun assignment => assignment.stageId) = requirementSet.stageIds := by
  rw [← map_stageId_stages, ← List.forall₂_eq_eq_eq, List.forall₂_map_left_iff,
    List.forall₂_map_right_iff]
  exact choices.imp fun _ _ choice => choice.stageId

theorem valid_of_choices
    (choices : List.Forall₂ (fun assignment stage =>
      IsChoice registry evidenceConstraints stage assignment) assignments
        (stages requirementSet)) {profileId : String} (addressed : IsSha256Id profileId) :
    (draftUnder requirementSet profileId assignments).Valid where
  ids_sha256 := ⟨addressed, requirementSet.composition.valid.compositionId_sha256⟩
  assignments_nonempty := by
    intro none
    have length := choices.length_eq
    rw [show assignments = [] from none] at length
    exact stages_ne_nil (List.length_eq_zero_iff.mp length.symm)
  stageIds_nodup := by
    have unique := requirementSet.requirements_nodup
    rwa [← StagePrecisionRequirementSet.stageIds, ← stageIds_of_choices choices] at unique
  provenance_nonblank := by
    have visible : ∀ text ∈ ["deterministic exact-registry enumeration"], Text.Nonblank text := by
      decide
    exact visible
  provenance_nonempty := List.cons_ne_nil _ _

theorem combinationDraft_eq
    (choices : List.Forall₂ (fun assignment stage =>
      IsChoice registry evidenceConstraints stage assignment) assignments
        (stages requirementSet)) :
    combinationDraft digest requirementSet.composition.compositionId assignments =
      .ok (draftOf digest requirementSet assignments) := by
  let placeholder := "sha256:0000000000000000000000000000000000000000000000000000000000000000"
  have addressed : IsSha256Id placeholder := by decide
  have checks : (draftUnder requirementSet placeholder assignments).check "PrecisionProfileDraft" =
      .ok () := PrecisionProfileDraft.check_eq_ok_iff.mpr (valid_of_choices choices addressed)
  have made : (draftUnder requirementSet placeholder assignments).construct =
      .ok (draftUnder requirementSet placeholder assignments) := by
    rw [PrecisionProfileDraft.construct, checks]
    rfl
  exact congrArg (fun outcome => outcome >>= fun item =>
    Except.ok { item with profileId := item.precisionProfileId digest }) made

theorem Combination.addressed
    (combination : Combination digest requirementSet registry evidenceConstraints draft) :
    draft.profileId = draft.precisionProfileId digest := by
  rw [combination.determined]
  rfl

theorem Combination.passes
    (combination : Combination digest requirementSet registry evidenceConstraints draft)
    (hexadecimal : digest.Hexadecimal) :
    Passes digest draft requirementSet registry evidenceConstraints := by
  obtain ⟨choices, determined⟩ := combination
  generalize draft.assignments = assignments at choices determined
  subst determined
  refine ⟨valid_of_choices choices (isSha256Id_of_hexadecimal hexadecimal _), rfl, ?_, rfl, ?_⟩
  · rw [← stageIds_of_choices choices]
    rfl
  · intro assignment member
    obtain ⟨stage, inside, choice⟩ := exists_of_forall₂ choices member
    obtain ⟨required, same⟩ := requirement_mem inside
    obtain ⟨capability, registered, model, compatible⟩ := choice.compatible
    exact ⟨stage.1, required, same.trans choice.stageId.symm, capability, registered,
      model.trans choice.identity.symm, compatible⟩

/-- The content of assignments of the same stages tells their modes. -/
theorem eq_of_payloads {stages : List (PrecisionRequirement × StageModelIdentity)}
    {lefts rights : List PrecisionAssignment}
    (leftChoices : List.Forall₂ (fun assignment stage =>
      IsChoice registry evidenceConstraints stage assignment) lefts stages)
    (rightChoices : List.Forall₂ (fun assignment stage =>
      IsChoice registry evidenceConstraints stage assignment) rights stages)
    (same : lefts.map PrecisionAssignment.payload = rights.map PrecisionAssignment.payload) :
    lefts = rights := by
  induction leftChoices generalizing rights with
  | nil => exact (List.forall₂_nil_right_iff.mp rightChoices).symm
  | @cons left stage lefts stages leftChoice _ induction =>
      obtain ⟨right, rest, rightChoice, restChoices, rfl⟩ :=
        List.forall₂_cons_right_iff.mp rightChoices
      rw [List.map_cons, List.map_cons, List.cons.injEq] at same
      have mode : left.mode.value = right.mode.value := by
        have payloads := same.1
        simp only [PrecisionAssignment.payload, Json.obj.injEq, List.cons.injEq, Prod.mk.injEq,
          Json.str.injEq, true_and] at payloads
        exact payloads.2.2.1
      have first : left = right := PrecisionAssignment.ext_fields
        (leftChoice.stageId.trans rightChoice.stageId.symm)
        (leftChoice.identity.trans rightChoice.identity.symm)
        (PrecisionMode.value_injective mode)
        (leftChoice.requirements.trans rightChoice.requirements.symm)
        (leftChoice.provenance.trans rightChoice.provenance.symm)
      rw [first, induction restChoices same.2]

theorem Combination.eq_of_payload {left right : PrecisionProfileDraft}
    (leftMember : Combination digest requirementSet registry evidenceConstraints left)
    (rightMember : Combination digest requirementSet registry evidenceConstraints right)
    (same : left.canonicalPrecisionProfilePayload = right.canonicalPrecisionProfilePayload) :
    left = right := by
  have payloads : left.assignments.map PrecisionAssignment.payload =
      right.assignments.map PrecisionAssignment.payload := by
    simp only [PrecisionProfileDraft.canonicalPrecisionProfilePayload, Json.obj.injEq,
      List.cons.injEq, Prod.mk.injEq, Json.arr.injEq, true_and, and_true] at same
    exact same.2
  rw [leftMember.determined, rightMember.determined,
    eq_of_payloads leftMember.choices rightMember.choices payloads]

variable (digest requirementSet registry evidenceConstraints) in
/-- The drafts of all combinations, in the order of the assignments. -/
structure Enumerated (drafts : List PrecisionProfileDraft) : Prop where
  /-- The drafts are the combinations of a compatible mode for each stage. -/
  exact : ∀ draft, draft ∈ drafts ↔
    Combination digest requirementSet registry evidenceConstraints draft
  /-- The drafts stand in lexicographic order of stages and modes. -/
  ordered : drafts.Pairwise fun left right => List.Lex Earlier left.assignments right.assignments

/-- The combinations of the generator, and their drafts. -/
theorem assignmentCombinations_enumerated :
    ∃ combinations,
      assignmentCombinations requirementSet registry evidenceConstraints = .ok combinations ∧
      (∀ chosen ∈ combinations, combinationDraft digest requirementSet.composition.compositionId
        chosen = .ok (draftOf digest requirementSet chosen)) ∧
      iterPrecisionProfileDrafts digest requirementSet registry evidenceConstraints =
        .ok (combinations.map (draftOf digest requirementSet)) ∧
      Enumerated digest requirementSet registry evidenceConstraints
        (combinations.map (draftOf digest requirementSet)) := by
  obtain ⟨combinations, made, ordered, exact⟩ :=
    @assignmentCombinations_eq requirementSet registry evidenceConstraints
  have drafted : ∀ chosen ∈ combinations, combinationDraft digest
      requirementSet.composition.compositionId chosen =
        .ok (draftOf digest requirementSet chosen) :=
    fun chosen member => combinationDraft_eq ((exact chosen).mp member)
  refine ⟨combinations, made, drafted, ?_, fun draft => ?_, ?_⟩
  · rw [iterPrecisionProfileDrafts, made, ok_bind]
    exact mapM_eq_ok_iff_forall₂.mpr
      (List.forall₂_map_right_iff.mpr (List.forall₂_same.mpr drafted))
  · rw [List.mem_map]
    constructor
    · rintro ⟨chosen, member, rfl⟩
      exact ⟨(exact chosen).mp member, rfl⟩
    · intro combination
      exact ⟨draft.assignments, (exact _).mpr combination.choices, combination.determined.symm⟩
  · rw [List.pairwise_map]
    exact ordered

/-! ## What is emitted -/

variable (digest requirementSet registry evidenceConstraints) in
/-- The digest tells the contents of combinations apart. -/
def CollisionFree : Prop :=
  ∀ left right, Combination digest requirementSet registry evidenceConstraints left →
    Combination digest requirementSet registry evidenceConstraints right →
    digest.hexdigest left.canonicalPrecisionProfilePayload =
      digest.hexdigest right.canonicalPrecisionProfilePayload →
    left.canonicalPrecisionProfilePayload = right.canonicalPrecisionProfilePayload

theorem Enumerated.profileIds_nodup {drafts : List PrecisionProfileDraft}
    (enumerated : Enumerated digest requirementSet registry evidenceConstraints drafts)
    (collisionFree : CollisionFree digest requirementSet registry evidenceConstraints) :
    (drafts.map fun draft => draft.profileId).Nodup := by
  have strict : ∀ assignment : PrecisionAssignment, ¬ Earlier assignment assignment :=
    fun _ earlier => lt_irrefl _ earlier.2
  have nodup : drafts.Nodup := by
    refine enumerated.ordered.imp fun {left right} later => ?_
    rintro rfl
    exact not_lex_self strict left.assignments later
  refine nodup.map_on fun left leftMember right rightMember same => ?_
  have leftCombination := (enumerated.exact left).mp leftMember
  have rightCombination := (enumerated.exact right).mp rightMember
  refine leftCombination.eq_of_payload rightCombination
    (collisionFree _ _ leftCombination rightCombination ?_)
  rw [leftCombination.addressed, rightCombination.addressed] at same
  exact (String.append_right_inj _).mp same

/-- What is found of a draft is a profile of the draft, with its provenance in canonical form. -/
theorem toDraft_of_validated {profile : PrecisionProfile}
    (validated : validatePrecisionProfile digest draft requirementSet registry
      evidenceConstraints = .ok profile) :
    profile.toPrecisionProfileDraft =
      { draft with provenance := canonical id draft.provenance } := by
  simp only [validatePrecisionProfile, bind_eq_ok, PrecisionProfile.construct_eq_ok_iff]
    at validated
  obtain ⟨_, _, _, rfl⟩ := validated
  rfl

theorem exists_validated {drafts : List PrecisionProfileDraft} (hexadecimal : digest.Hexadecimal)
    (combinations : ∀ draft ∈ drafts,
      Combination digest requirementSet registry evidenceConstraints draft) :
    ∃ profiles : List PrecisionProfile, drafts.mapM (fun draft => validatePrecisionProfile digest
        draft requirementSet registry evidenceConstraints) = .ok profiles ∧
      profiles.map (fun profile => profile.toPrecisionProfileDraft) = drafts ∧
      ∀ profile ∈ profiles, profile.status = .valid := by
  have each : ∀ draft ∈ drafts, ∃ profile, validatePrecisionProfile digest draft requirementSet
      registry evidenceConstraints = .ok profile ∧ profile.status = .valid := fun draft member =>
    validatePrecisionProfile_valid_iff.mpr ((combinations draft member).passes hexadecimal)
  induction drafts with
  | nil => exact ⟨[], rfl, rfl, fun _ member => nomatch member⟩
  | cons draft drafts induction =>
      rw [List.forall_mem_cons] at combinations each
      obtain ⟨profiles, made, same, valid⟩ := induction combinations.2 each.2
      obtain ⟨profile, validated, accepted⟩ := each.1
      refine ⟨profile :: profiles, ?_, ?_, List.forall_mem_cons.mpr ⟨accepted, valid⟩⟩
      · simp [List.mapM_cons, validated, made]
      · have provenance : draft.provenance = ["deterministic exact-registry enumeration"] := by
          rw [combinations.1.determined]
          rfl
        rw [List.map_cons, same, toDraft_of_validated validated, provenance]
        congr
        exact provenance.symm

/-- What the generator emits of drafts under a bound. -/
structure Emits (drafts : List PrecisionProfileDraft) (maxProfiles : Int)
    (emitted : PrecisionPhaseResult) : Prop where
  /-- The valid profiles are those of the first drafts, in the order of their ids. -/
  first : emitted.validProfiles.map (fun profile => profile.toPrecisionProfileDraft) =
    sortOn (fun draft => draft.profileId) (drafts.take maxProfiles.toNat)
  /-- They carry no issue. -/
  clear : ∀ profile ∈ emitted.validProfiles, profile.status = .valid ∧ profile.issues = []
  /-- Nothing is rejected. -/
  rejected : emitted.rejectedProfiles = []
  /-- Truncation is reported exactly when there are more drafts. -/
  truncated : emitted.generationMetadata.truncated = true ↔ maxProfiles < drafts.length

/-- The report of a generation that rejects nothing meets its contract. -/
theorem check_generationMetadata {maxProfiles : Int} {count : Nat}
    (certified : 1 ≤ maxProfiles ∧ maxProfiles ≤ maxPrecisionProfiles)
    (bounded : count ≤ maxProfiles) (truncated : Bool) :
    (generationMetadata maxProfiles count 0 count truncated).check = .ok () := by
  have visible : Text.Nonblank "first unique profile beyond cap observed" ∧
      Text.Nonblank "stage order then FP32, BF16, FP16, INT8; reproducibility only" := by decide
  have positive : 0 ≤ maxProfiles + 1 := by omega
  cases truncated <;>
    simp [PrecisionGenerationMetadata.check, generationMetadata, certified, bounded, visible,
      positive]

theorem PrecisionPhaseResult.kept_of_construct {given made : PrecisionPhaseResult}
    (constructed : given.construct = .ok made) :
    made.validProfiles = sortOn (fun profile => profile.profileId) given.validProfiles ∧
      made.rejectedProfiles = sortOn (fun profile => profile.profileId) given.rejectedProfiles ∧
      made.generationMetadata = given.generationMetadata := by
  simp only [construct, bind_eq_ok, pure_eq_ok, Except.ok.injEq] at constructed
  obtain ⟨_, _, _, _, _, _, _, _, _, _, _, _, _, _, _, _, rfl⟩ := constructed
  exact ⟨rfl, rfl, rfl⟩

theorem exists_construct {profiles : List PrecisionProfile}
    (distinct : (profileIds profiles).Nodup)
    (valid : ∀ profile ∈ profiles, profile.status = .valid) (maxProfiles : Int)
    (truncated adaptationRequired : Bool) :
    ∃ emitted, PrecisionPhaseResult.construct {
        status := if profiles.length ≠ 0 then .ready else if adaptationRequired then .fail
          else .notApplicable
        validProfiles := profiles
        rejectedProfiles := []
        generationMetadata :=
          generationMetadata maxProfiles profiles.length 0 profiles.length truncated
        issues := if profiles.length ≠ 0 ∨ 0 ≠ 0 ∨ adaptationRequired = false then []
          else [{
            issueId := "no_valid_profile"
            violatedInvariant := "profile_availability"
            reason := "adaptation is required but no exact compatible profile exists" }] } =
        .ok emitted := by
  cases profiles with
  | nil => cases adaptationRequired <;> exact ⟨_, rfl⟩
  | cons profile profiles =>
      have apart : (profileIds (profile :: profiles) ++ profileIds []).Nodup := by
        rwa [profileIds, profileIds, List.map_nil, List.append_nil]
      simp only [PrecisionPhaseResult.construct, bind_eq_ok, rule_eq_ok, pure_eq_ok,
        PrecisionPhaseResult.checkStatus, generationMetadata, distinct, apart, ite_true,
        List.length_cons, ne_eq, Nat.succ_ne_zero, not_false_eq_true, true_or]
      simpa [profileIds] using List.forall_mem_cons.mp valid

theorem exists_generated (hexadecimal : digest.Hexadecimal)
    (collisionFree : CollisionFree digest requirementSet registry evidenceConstraints)
    {drafts : List PrecisionProfileDraft}
    (yielded : iterPrecisionProfileDrafts digest requirementSet registry evidenceConstraints =
      .ok drafts) {maxProfiles : Int}
    (certified : 1 ≤ maxProfiles ∧ maxProfiles ≤ maxPrecisionProfiles)
    (adaptationRequired : Bool) :
    ∃ emitted, generatePrecisionProfiles digest requirementSet registry evidenceConstraints
      maxProfiles adaptationRequired = .ok emitted ∧ Emits drafts maxProfiles emitted := by
  obtain ⟨combinations, made, drafted, enumeration, enumerated⟩ :=
    @assignmentCombinations_enumerated digest requirementSet registry evidenceConstraints
  have drawing : combinations.map (draftOf digest requirementSet) = drafts :=
    Except.ok.inj (enumeration.symm.trans yielded)
  rw [drawing] at enumerated
  let bound := maxProfiles.toNat
  have drawn : (combinations.take (bound + 1)).mapM (combinationDraft digest
      requirementSet.composition.compositionId) = .ok (drafts.take (bound + 1)) := by
    rw [← drawing, ← List.map_take]
    exact mapM_eq_ok_iff_forall₂.mpr (List.forall₂_map_right_iff.mpr
      (List.forall₂_same.mpr fun chosen member => drafted chosen (List.mem_of_mem_take member)))
  obtain ⟨profiles, validated, same, valid⟩ := exists_validated hexadecimal
    fun draft (member : draft ∈ drafts.take bound) =>
      (enumerated.exact draft).mp (List.mem_of_mem_take member)
  have accepted : profiles.filter (fun profile => profile.status = .valid) = profiles :=
    List.filter_eq_self.mpr fun profile member => decide_eq_true (valid profile member)
  have refused : profiles.filter (fun profile => profile.status = .rejected) = [] :=
    List.filter_eq_nil_iff.mpr fun profile member => by simp [valid profile member]
  have distinct : (profileIds profiles).Nodup := by
    have ids := (enumerated.profileIds_nodup collisionFree).sublist
      ((List.take_sublist bound drafts).map _)
    rw [← same, List.map_map] at ids
    exact ids
  have bounded : (profiles.length : Int) ≤ maxProfiles := by
    have length := congrArg List.length same
    rw [List.length_map, List.length_take] at length
    omega
  obtain ⟨emitted, constructed⟩ := exists_construct distinct valid maxProfiles
    (decide (bound < (drafts.take (bound + 1)).length)) adaptationRequired
  obtain ⟨sorted, none, report⟩ := PrecisionPhaseResult.kept_of_construct constructed
  refine ⟨emitted, ?_, ?_⟩
  · simp only [generatePrecisionProfiles, require_of_true certified, ok_bind, made, drawn,
      List.take_take, min_eq_left (Nat.le_succ bound), validated, accepted, refused,
      List.length_nil, check_generationMetadata certified bounded, bound]
    exact constructed
  · constructor
    · rw [sorted, ← same]
      exact map_sortOn _ _ _ (fun _ => rfl) profiles
    · intro profile member
      rw [sorted, mem_sortOn] at member
      exact ⟨valid profile member, profile.valid.status_matches.mp (valid profile member)⟩
    · exact none
    · rw [report, generationMetadata, decide_eq_true_eq, List.length_take]
      omega

variable (digest requirementSet registry evidenceConstraints) in
/-- What the generator promises of the drafts it enumerates. -/
structure GenerationLaw (drafts : List PrecisionProfileDraft) : Prop where
  /-- The drafts are the combinations of a compatible mode for each stage, in lexicographic order of
  stages and modes. -/
  enumerated : Enumerated digest requirementSet registry evidenceConstraints drafts
  /-- Each stands once, under an id of its own. -/
  distinct : (drafts.map fun draft => draft.profileId).Nodup
  /-- Each is found valid. -/
  valid : ∀ draft ∈ drafts, FoundValid digest draft requirementSet registry evidenceConstraints
  /-- Under a certified bound the first of them are emitted. -/
  emits : ∀ (maxProfiles : Int) (adaptationRequired : Bool),
    1 ≤ maxProfiles ∧ maxProfiles ≤ maxPrecisionProfiles →
      ∃ emitted, generatePrecisionProfiles digest requirementSet registry evidenceConstraints
        maxProfiles adaptationRequired = .ok emitted ∧ Emits drafts maxProfiles emitted
  /-- Under a larger bound all that a smaller one emits is emitted. -/
  grows : ∀ (smaller larger : Int) (adaptationRequired : Bool) (few many : PrecisionPhaseResult),
    smaller ≤ larger →
      generatePrecisionProfiles digest requirementSet registry evidenceConstraints smaller
        adaptationRequired = .ok few →
      generatePrecisionProfiles digest requirementSet registry evidenceConstraints larger
        adaptationRequired = .ok many →
      few.validProfiles ⊆ many.validProfiles

/-- Only a certified bound is accepted. -/
theorem certified_of_generated {maxProfiles : Int} {adaptationRequired : Bool}
    {emitted : PrecisionPhaseResult}
    (generated : generatePrecisionProfiles digest requirementSet registry evidenceConstraints
      maxProfiles adaptationRequired = .ok emitted) :
    1 ≤ maxProfiles ∧ maxProfiles ≤ maxPrecisionProfiles := by
  obtain ⟨_, certified, _⟩ := bind_eq_ok.mp generated
  exact require_eq_ok.mp certified

theorem PrecisionProfile.ext_draft {left right : PrecisionProfile}
    (drafts : left.toPrecisionProfileDraft = right.toPrecisionProfileDraft)
    (leftClear : left.status = .valid ∧ left.issues = [])
    (rightClear : right.status = .valid ∧ right.issues = []) : left = right := by
  obtain ⟨⟨_, _, _⟩, _⟩ := left
  obtain ⟨⟨_, _, _⟩, _⟩ := right
  obtain ⟨rfl, rfl⟩ := leftClear
  obtain ⟨rfl, rfl⟩ := rightClear
  obtain rfl := drafts
  rfl

theorem Emits.subset {drafts : List PrecisionProfileDraft} {smaller larger : Int}
    {few many : PrecisionPhaseResult} (fewEmitted : Emits drafts smaller few)
    (manyEmitted : Emits drafts larger many) (ordered : smaller ≤ larger) :
    few.validProfiles ⊆ many.validProfiles := by
  intro profile member
  have drawn : profile.toPrecisionProfileDraft ∈ drafts.take smaller.toNat := by
    rw [← mem_sortOn fun draft : PrecisionProfileDraft => draft.profileId, ← fewEmitted.first]
    exact List.mem_map_of_mem member
  have kept : profile.toPrecisionProfileDraft ∈ drafts.take larger.toNat :=
    List.take_subset_take_left drafts (Int.toNat_le_toNat ordered) drawn
  rw [← mem_sortOn fun draft : PrecisionProfileDraft => draft.profileId, ← manyEmitted.first]
    at kept
  obtain ⟨other, inside, same⟩ := List.mem_map.mp kept
  rwa [PrecisionProfile.ext_draft same (manyEmitted.clear other inside)
    (fewEmitted.clear profile member)] at inside

/-- The enumeration answers, with drafts that the generator emits as it promises. -/
theorem exists_generationLaw (hexadecimal : digest.Hexadecimal)
    (collisionFree : CollisionFree digest requirementSet registry evidenceConstraints) :
    ∃ drafts, iterPrecisionProfileDrafts digest requirementSet registry evidenceConstraints =
      .ok drafts ∧ GenerationLaw digest requirementSet registry evidenceConstraints drafts := by
  obtain ⟨combinations, _, _, yielded, enumerated⟩ :=
    @assignmentCombinations_enumerated digest requirementSet registry evidenceConstraints
  generalize combinations.map (draftOf digest requirementSet) = drafts at yielded enumerated
  have emits : ∀ (maxProfiles : Int) (adaptationRequired : Bool),
      1 ≤ maxProfiles ∧ maxProfiles ≤ maxPrecisionProfiles →
        ∃ emitted, generatePrecisionProfiles digest requirementSet registry evidenceConstraints
          maxProfiles adaptationRequired = .ok emitted ∧ Emits drafts maxProfiles emitted :=
    fun _ adaptationRequired certified =>
      exists_generated hexadecimal collisionFree yielded certified adaptationRequired
  refine ⟨drafts, yielded, enumerated, enumerated.profileIds_nodup collisionFree, ?_, emits, ?_⟩
  · intro draft member
    exact validatePrecisionProfile_valid_iff.mpr
      (((enumerated.exact draft).mp member).passes hexadecimal)
  · intro smaller larger adaptationRequired few many ordered fewGenerated manyGenerated
    obtain ⟨_, fewSame, fewEmitted⟩ :=
      emits smaller adaptationRequired (certified_of_generated fewGenerated)
    obtain ⟨_, manySame, manyEmitted⟩ :=
      emits larger adaptationRequired (certified_of_generated manyGenerated)
    obtain rfl := Except.ok.inj (fewSame.symm.trans fewGenerated)
    obtain rfl := Except.ok.inj (manySame.symm.trans manyGenerated)
    exact fewEmitted.subset manyEmitted ordered

end Enumeration

/-! ## A composition with two profiles -/

section Sample

theorem noEvidence_canonical : CanonicalTexts [] := by
  decide

theorem twoModes_provenance : CanonicalTexts ["e"] ∧ ["e"] ≠ [] := by
  decide

/-- The capability of the revision of the sample composition, in two modes. -/
def twoModes : ModelPrecisionCapability where
  provider := "p"
  modelId := "m"
  family := "f"
  revision := "1"
  supportedModes := [.fp32, .fp16]
  provenance := ["e"]
  texts_nonblank := by decide
  modes_canonical := by decide
  evidence_canonical := noEvidence_canonical
  provenance_canonical := twoModes_provenance

/-- A registry of the two modes. -/
def twoModesRegistry : ModelPrecisionCapabilityRegistry where
  records := [twoModes]
  identities_nodup := by decide
  records_sorted := rfl

/-- The stage of the sample composition, with its requirement. -/
def sampleStage : PrecisionRequirement × StageModelIdentity :=
  (sampleRequirement, ("s", sampleModel.identity))

theorem sampleStage_mem : sampleStage ∈ stages sampleRequirementSet := List.mem_singleton_self _

/-- The draft of a mode. -/
def sampleDraftOf (mode : PrecisionMode) : PrecisionProfileDraft :=
  draftOf Digest.sha256 sampleRequirementSet [stageAssignment sampleStage_mem mode]

theorem sample_combinations :
    assignmentCombinations sampleRequirementSet twoModesRegistry [] =
      .ok [[stageAssignment sampleStage_mem .fp32], [stageAssignment sampleStage_mem .fp16]] := by
  rfl

theorem sample_enumerated :
    iterPrecisionProfileDrafts Digest.sha256 sampleRequirementSet twoModesRegistry [] =
        .ok [sampleDraftOf .fp32, sampleDraftOf .fp16] ∧
      Enumerated Digest.sha256 sampleRequirementSet twoModesRegistry []
        [sampleDraftOf .fp32, sampleDraftOf .fp16] := by
  obtain ⟨combinations, made, _, yielded, enumerated⟩ :=
    @assignmentCombinations_enumerated Digest.sha256 sampleRequirementSet twoModesRegistry []
  obtain rfl := Except.ok.inj (sample_combinations.symm.trans made)
  exact ⟨yielded, enumerated⟩

/-- By their ids the drafts stand the other way round. -/
theorem sampleDraftOf_lt : (sampleDraftOf .fp16).profileId < (sampleDraftOf .fp32).profileId := by
  unfold sampleDraftOf
  rw [Digest.sha256_eq_numeric]
  decide +kernel

theorem sample_collisionFree :
    CollisionFree Digest.sha256 sampleRequirementSet twoModesRegistry [] := by
  obtain ⟨_, enumerated⟩ := sample_enumerated
  have apart := sampleDraftOf_lt.ne
  intro left right leftMember rightMember same
  have ids : left.profileId = right.profileId := by
    rw [leftMember.addressed, rightMember.addressed]
    exact congrArg ("sha256:" ++ ·) same
  have leftInside := (enumerated.exact left).mpr leftMember
  have rightInside := (enumerated.exact right).mpr rightMember
  simp only [List.mem_cons, List.not_mem_nil, or_false] at leftInside rightInside
  rcases leftInside with rfl | rfl <;> rcases rightInside with rfl | rfl
  · rfl
  · exact absurd ids.symm apart
  · exact absurd ids apart
  · rfl

theorem exists_generationLaw_twoModes :
    ∃ drafts, iterPrecisionProfileDrafts Digest.sha256 sampleRequirementSet twoModesRegistry [] =
      .ok drafts ∧ GenerationLaw Digest.sha256 sampleRequirementSet twoModesRegistry [] drafts :=
  exists_generationLaw Digest.sha256_hexadecimal sample_collisionFree

/-- Under a smaller bound the profiles are the first of those under a larger one. -/
def GeneratesPrefixes (digest : Digest) : Prop :=
  ∀ (requirementSet : StagePrecisionRequirementSet) (registry : ModelPrecisionCapabilityRegistry)
    (evidenceConstraints : List PrecisionEvidenceConstraint) (smaller larger : Int)
    (adaptationRequired : Bool) (few many : PrecisionPhaseResult),
    CollisionFree digest requirementSet registry evidenceConstraints → smaller ≤ larger →
      generatePrecisionProfiles digest requirementSet registry evidenceConstraints smaller
        adaptationRequired = .ok few →
      generatePrecisionProfiles digest requirementSet registry evidenceConstraints larger
        adaptationRequired = .ok many →
      few.validProfiles <+: many.validProfiles

/-- Under a bound of one the FP32 profile is emitted, under two the FP16 profile stands before
it. -/
theorem smaller_bound_not_prefix : ¬ GeneratesPrefixes Digest.sha256 := by
  intro prefixes
  obtain ⟨yielded, _⟩ := sample_enumerated
  obtain ⟨few, fewGenerated, fewEmitted⟩ := exists_generated Digest.sha256_hexadecimal
    sample_collisionFree yielded (show (1 : Int) ≤ 1 ∧ (1 : Int) ≤ 128 by decide) true
  obtain ⟨many, manyGenerated, manyEmitted⟩ := exists_generated Digest.sha256_hexadecimal
    sample_collisionFree yielded (show (1 : Int) ≤ 2 ∧ (2 : Int) ≤ 128 by decide) true
  have initial := (prefixes _ _ _ 1 2 true few many sample_collisionFree (by decide) fewGenerated
    manyGenerated).map fun profile => profile.toPrecisionProfileDraft
  have reordered :
      sortOn (fun draft => draft.profileId) [sampleDraftOf .fp32, sampleDraftOf .fp16] =
        [sampleDraftOf .fp16, sampleDraftOf .fp32] := by
    simp [sortOn, sampleDraftOf_lt.not_ge]
  rw [fewEmitted.first, manyEmitted.first] at initial
  have same : sampleDraftOf .fp32 = sampleDraftOf .fp16 := by
    change [sampleDraftOf .fp32] <+: sortOn _ [sampleDraftOf .fp32, sampleDraftOf .fp16] at initial
    rw [reordered] at initial
    exact (List.cons_prefix_cons.mp initial).1
  exact absurd (congrArg (fun draft => draft.profileId) same.symm) sampleDraftOf_lt.ne

end Sample

end Precision
end MercuryX
