import MercuryX.Foundation.Registry
import MercuryX.Precision.Contracts

/-!
# Validation of precision profiles

The compatibility of a mode with an exact model revision and the requirement of its stage, and the
independent validation of whole profiles. The validator looks a capability up by the model that an
assignment names itself, and does not compare that model with the one that the composition fixes
for the stage.
-/

namespace MercuryX
namespace Precision

open Foundation

/-! ## Compatibility -/

/-- The verdict on the mode of a stage. -/
structure PrecisionCompatibilityResult where
  stageId : String
  mode : PrecisionMode
  compatible : Bool
  issues : List PrecisionValidationIssue
  provenance : List String

/-- An issue that names the invariant it violates. -/
def compatibilityIssue (identifier reason : String) : PrecisionValidationIssue where
  issueId := identifier
  violatedInvariant := identifier
  reason := reason

/-- There is evidence for the INT8 mode of a stage. -/
def quantizationEvidence (evidenceConstraints : List PrecisionEvidenceConstraint)
    (stageId : String) : Bool :=
  evidenceConstraints.any fun item =>
    item.stageId = stageId && item.mode = .int8 && item.requiresEvidence &&
      !item.evidenceIds.isEmpty

section Compatibility

variable (capability : ModelPrecisionCapability) (requirement : PrecisionRequirement)
  (assignment : PrecisionAssignment) (evidenceConstraints : List PrecisionEvidenceConstraint)

/-- The compatibility checks, each with the issue that it finds where it fails. -/
def compatibilityChecks : List (Bool × PrecisionValidationIssue) :=
  let mode := assignment.mode
  [(assignment.stageId = requirement.stageId, compatibilityIssue "stage_identity"
      "assignment and requirement stage identities must match"),
    (assignment.identity = canonicalPrecisionModelIdentity capability,
      compatibilityIssue "model_identity"
        "assignment must preserve the exact capability revision"),
    (mode ∈ capability.supportedModes, compatibilityIssue "declared_support"
      "exact model revision does not explicitly support the assigned mode"),
    (mode ∉ requirement.deniedModes, compatibilityIssue "denied_mode"
      "explicit hard policy denies the assigned mode"),
    (requirement.allowedModes.isEmpty || mode ∈ requirement.allowedModes,
      compatibilityIssue "allowed_mode" "assigned mode is not explicitly allowed"),
    (!(requirement.reducedPrecisionForbidden && mode ∈ [.bf16, .fp16, .int8]),
      compatibilityIssue "reduced_precision" "reduced precision is explicitly forbidden"),
    (!(requirement.quantizationForbidden && mode = .int8), compatibilityIssue "quantization"
      "quantization is explicitly forbidden"),
    (!(requirement.fp16Forbidden && mode = .fp16), compatibilityIssue "fp16_stability"
      "explicit stability policy forbids FP16"),
    (mode ≠ .int8 || quantizationEvidence evidenceConstraints assignment.stageId,
      compatibilityIssue "int8_evidence"
        "INT8 requires explicit acceptable quantization evidence")]

/-- Evaluate the compatibility of an assignment with a capability and a requirement. -/
def evaluatePrecisionCompatibility : PrecisionCompatibilityResult :=
  let issues := ((compatibilityChecks capability requirement assignment evidenceConstraints).filter
    fun check => !check.1).map Prod.snd
  { stageId := assignment.stageId
    mode := assignment.mode
    compatible := issues.isEmpty
    issues := sortOn PrecisionValidationIssue.issueId issues
    provenance := ["exact model revision and explicit hard precision constraints evaluated"] }

/-- The requirement of a stage permits a mode: no flag and no list forbids it. -/
structure Permits (requirement : PrecisionRequirement) (mode : PrecisionMode) : Prop where
  /-- The mode is not denied. -/
  denied : mode ∉ requirement.deniedModes
  /-- If modes are listed as allowed, the mode is among them. -/
  allowed : requirement.allowedModes ≠ [] → mode ∈ requirement.allowedModes
  /-- Reduced precision is not used where it is forbidden. -/
  reduced : requirement.reducedPrecisionForbidden = true → mode = .fp32
  /-- Quantization is not used where it is forbidden. -/
  quantized : requirement.quantizationForbidden = true → mode ≠ .int8
  /-- FP16 is not used where it is forbidden. -/
  stable : requirement.fp16Forbidden = true → mode ≠ .fp16

/-- INT8 is backed by evidence for its stage. -/
def Evidenced (stageId : String) (mode : PrecisionMode) : Prop :=
  mode = .int8 → ∃ item ∈ evidenceConstraints, item.stageId = stageId ∧ item.mode = .int8 ∧
    item.requiresEvidence = true ∧ item.evidenceIds ≠ []

/-- A mode that a capability and the requirement of a stage admit. -/
structure Compatible (capability : ModelPrecisionCapability) (requirement : PrecisionRequirement)
    (mode : PrecisionMode) : Prop where
  /-- The exact model revision supports the mode. -/
  supported : mode ∈ capability.supportedModes
  /-- The requirement permits the mode. -/
  permits : Permits requirement mode
  /-- INT8 is backed by evidence. -/
  evidenced : Evidenced evidenceConstraints requirement.stageId mode

theorem evidenced_iff {stageId : String} {mode : PrecisionMode} :
    (mode ≠ .int8 || quantizationEvidence evidenceConstraints stageId) = true ↔
      Evidenced evidenceConstraints stageId mode := by
  simp [quantizationEvidence, Evidenced, or_iff_not_imp_left, and_assoc]

variable {capability requirement assignment evidenceConstraints}

/-- The verdict is favourable exactly when the assignment is for the stage of the requirement and
the model of the capability, and its mode is compatible with both. -/
theorem compatible_iff :
    (evaluatePrecisionCompatibility capability requirement assignment
        evidenceConstraints).compatible = true ↔
      assignment.stageId = requirement.stageId ∧
        assignment.identity = canonicalPrecisionModelIdentity capability ∧
        Compatible evidenceConstraints capability requirement assignment.mode := by
  have reduced : (!(requirement.reducedPrecisionForbidden &&
      assignment.mode ∈ [.bf16, .fp16, .int8])) = true ↔
        (requirement.reducedPrecisionForbidden = true → assignment.mode = .fp32) := by
    cases assignment.mode <;> simp
  have allowed : (requirement.allowedModes.isEmpty ||
      assignment.mode ∈ requirement.allowedModes) = true ↔
        (requirement.allowedModes ≠ [] → assignment.mode ∈ requirement.allowedModes) := by
    simp [or_iff_not_imp_left]
  simp only [evaluatePrecisionCompatibility, List.isEmpty_iff, List.map_eq_nil_iff,
    List.filter_eq_nil_iff, Bool.not_eq_true', Bool.not_eq_false, compatibilityChecks,
    List.forall_mem_cons, List.not_mem_nil, false_implies, implies_true, and_true, reduced,
    allowed, evidenced_iff]
  simp only [decide_eq_true_eq, Bool.and_eq_false_imp, decide_eq_false_iff_not]
  constructor
  · rintro ⟨stage, model, supported, denied, allowed, reduced, quantized, stable, evidenced⟩
    exact ⟨stage, model, supported, ⟨denied, allowed, reduced, quantized, stable⟩,
      stage ▸ evidenced⟩
  · rintro ⟨stage, model, supported, ⟨denied, allowed, reduced, quantized, stable⟩, evidenced⟩
    exact ⟨stage, model, supported, denied, allowed, reduced, quantized, stable,
      stage ▸ evidenced⟩

theorem issues_eq_nil_iff :
    (evaluatePrecisionCompatibility capability requirement assignment
        evidenceConstraints).issues = [] ↔
      (evaluatePrecisionCompatibility capability requirement assignment
        evidenceConstraints).compatible = true := by
  rw [evaluatePrecisionCompatibility, List.isEmpty_iff, ← List.length_eq_zero_iff, length_sortOn,
    List.length_eq_zero_iff]

end Compatibility

/-! ## Validation -/

section Validation

variable (digest : Digest) (draft : PrecisionProfileDraft)
  (requirementSet : StagePrecisionRequirementSet) (registry : ModelPrecisionCapabilityRegistry)
  (evidenceConstraints : List PrecisionEvidenceConstraint)

/-- The issues of the assignment of a stage. -/
def assignmentIssues (entry : String × PrecisionAssignment) :
    Except Fault (List PrecisionValidationIssue) := do
  let assignment := entry.2
  let requirements := Dict.indexed PrecisionRequirement.stageId requirementSet.requirements
  let capability ← lookupExactPrecisionCapability registry assignment.provider assignment.modelId
    assignment.family assignment.revision
  match requirements.get? entry.1, capability with
  | some requirement, some capability =>
      return (evaluatePrecisionCompatibility capability requirement assignment
        evidenceConstraints).issues
  | _, _ => return [{
      issueId := "exact_capability"
      stageId := some entry.1
      violatedInvariant := "capability"
      reason := "exact stage requirement and capability must exist" }]

/-- The issues of a draft as a whole. -/
def draftIssues : List PrecisionValidationIssue :=
  (if draft.compositionId = requirementSet.composition.compositionId then [] else [{
    issueId := "composition_identity"
    violatedInvariant := "composition_id"
    reason := "draft composition identity must match requirements" }]) ++
  (if draft.stageIds.toFinset = requirementSet.stageIds.toFinset then [] else [{
    issueId := "stage_coverage"
    violatedInvariant := "assignments"
    reason := "assignments must cover certified stages exactly once" }]) ++
  (if draft.profileId = draft.precisionProfileId digest then [] else [{
    issueId := "profile_id"
    violatedInvariant := "profile_id"
    reason := "profile id must match canonical semantic content" }])

/-- Validate a draft. Of several assignments to one stage the last is examined; the constructor of
the profile, which also puts the issues in order, rejects such drafts. -/
def validatePrecisionProfile : Except Fault PrecisionProfile := do
  let assigned := Dict.indexed (fun assignment => assignment.stageId) draft.assignments
  let perStage ← assigned.entries.mapM
    (assignmentIssues requirementSet registry evidenceConstraints)
  let issues := draftIssues digest draft requirementSet ++ perStage.flatten
  PrecisionProfile.construct { draft with
    status := if issues = [] then .valid else .rejected
    issues := issues }

/-- The checks that the validator makes. -/
structure Passes : Prop where
  /-- The draft meets its contract. -/
  contract : draft.Valid
  /-- The draft is for the composition of the requirements. -/
  composition : draft.compositionId = requirementSet.composition.compositionId
  /-- The stages are those of the requirements. -/
  coverage : draft.stageIds.toFinset = requirementSet.stageIds.toFinset
  /-- The profile id is that of the content. -/
  addressed : draft.profileId = draft.precisionProfileId digest
  /-- The model that an assignment names is registered, and its mode is compatible with the model
  and with the requirement of the stage. -/
  compatible : ∀ assignment ∈ draft.assignments, ∃ requirement ∈ requirementSet.requirements,
    requirement.stageId = assignment.stageId ∧ ∃ capability ∈ registry.records,
      canonicalPrecisionModelIdentity capability = assignment.identity ∧
        Compatible evidenceConstraints capability requirement assignment.mode

variable {digest draft requirementSet registry evidenceConstraints}

theorem lookup_assignment (assignment : PrecisionAssignment) :
    lookupExactPrecisionCapability registry assignment.provider assignment.modelId
        assignment.family assignment.revision =
      .ok (registry.records.find? fun record =>
        canonicalPrecisionModelIdentity record = assignment.identity) := by
  have texts := assignment.valid.texts_nonblank
  simp only [List.mem_cons, List.not_mem_nil, or_false, forall_eq_or_imp, forall_eq] at texts
  simp only [lookupExactPrecisionCapability, forEach, texts, require_of_true, ok_bind]
  rfl

theorem assignmentIssues_eq (assignment : PrecisionAssignment) :
    ∃ issues, assignmentIssues requirementSet registry evidenceConstraints
        (assignment.stageId, assignment) = .ok issues ∧
      (issues = [] ↔ ∃ requirement ∈ requirementSet.requirements,
        requirement.stageId = assignment.stageId ∧ ∃ capability ∈ registry.records,
          canonicalPrecisionModelIdentity capability = assignment.identity ∧
            Compatible evidenceConstraints capability requirement assignment.mode) := by
  have requirementsUnique := requirementSet.requirements_nodup
  rw [assignmentIssues, lookup_assignment, ok_bind]
  cases required : (Dict.indexed PrecisionRequirement.stageId
      requirementSet.requirements).get? assignment.stageId with
  | none =>
      refine ⟨_, rfl, by simp, ?_⟩
      rintro ⟨requirement, member, same, _⟩
      rw [(Dict.indexed_get?_eq_some_iff requirementsUnique).mpr ⟨member, same⟩] at required
      contradiction
  | some requirement =>
      obtain ⟨member, stage⟩ := (Dict.indexed_get?_eq_some_iff requirementsUnique).mp required
      cases declared : registry.records.find? fun record =>
          canonicalPrecisionModelIdentity record = assignment.identity with
      | none =>
          refine ⟨_, rfl, by simp, ?_⟩
          rintro ⟨_, _, _, capability, registered, same, _⟩
          rw [(Registry.find?_eq_some_iff registry.identities_nodup).mpr
            ⟨registered, same⟩] at declared
          contradiction
      | some capability =>
          obtain ⟨registered, model⟩ :=
            (Registry.find?_eq_some_iff registry.identities_nodup).mp declared
          refine ⟨_, rfl, ?_⟩
          rw [issues_eq_nil_iff, compatible_iff]
          constructor
          · rintro ⟨_, _, compatible⟩
            exact ⟨requirement, member, stage, capability, registered, model, compatible⟩
          · rintro ⟨other, otherMember, otherStage, another, anotherRegistered, anotherModel,
              compatible⟩
            obtain rfl : other = requirement := Registry.eq_of_identity_eq requirementsUnique
              otherMember member (otherStage.trans stage.symm)
            obtain rfl : another = capability := Registry.eq_of_identity_eq
              registry.identities_nodup anotherRegistered registered
              (anotherModel.trans model.symm)
            exact ⟨stage.symm, model.symm, compatible⟩

theorem perStage_eq (stages : draft.stageIds.Nodup) :
    ∃ perStage, (Dict.indexed (fun assignment => assignment.stageId) draft.assignments).entries.mapM
        (assignmentIssues requirementSet registry evidenceConstraints) = .ok perStage ∧
      (perStage.flatten = [] ↔ ∀ assignment ∈ draft.assignments,
        ∃ requirement ∈ requirementSet.requirements,
          requirement.stageId = assignment.stageId ∧ ∃ capability ∈ registry.records,
            canonicalPrecisionModelIdentity capability = assignment.identity ∧
              Compatible evidenceConstraints capability requirement assignment.mode) := by
  rw [Dict.indexed_entries stages]
  obtain ⟨perStage, examined⟩ : ∃ perStage,
      (draft.assignments.map fun assignment => (assignment.stageId, assignment)).mapM
        (assignmentIssues requirementSet registry evidenceConstraints) = .ok perStage := by
    refine exists_mapM_eq_ok fun entry member => ?_
    obtain ⟨assignment, _, rfl⟩ := List.mem_map.mp member
    obtain ⟨issues, outcome, _⟩ :=
      @assignmentIssues_eq requirementSet registry evidenceConstraints assignment
    exact ⟨issues, outcome⟩
  refine ⟨perStage, examined, ?_⟩
  rw [List.flatten_eq_nil_iff]
  have issuesOf {assignment : PrecisionAssignment} (member : assignment ∈ draft.assignments) :
      (assignment.stageId, assignment) ∈
        draft.assignments.map fun assignment => (assignment.stageId, assignment) :=
    List.mem_map.mpr ⟨assignment, member, rfl⟩
  constructor
  · intro clear assignment member
    obtain ⟨issues, outcome, exact⟩ := assignmentIssues_eq assignment
    exact exact.mp (clear issues ((mem_of_mapM_eq_ok examined).mpr ⟨_, issuesOf member, outcome⟩))
  · intro compatible issues member
    obtain ⟨entry, entryMember, outcome⟩ := (mem_of_mapM_eq_ok examined).mp member
    obtain ⟨assignment, assigned, rfl⟩ := List.mem_map.mp entryMember
    obtain ⟨others, sameOutcome, exact⟩ := assignmentIssues_eq assignment
    obtain rfl : issues = others := Except.ok.inj (outcome.symm.trans sameOutcome)
    exact exact.mpr (compatible assignment assigned)

theorem draftIssues_eq_nil_iff :
    draftIssues digest draft requirementSet = [] ↔
      draft.compositionId = requirementSet.composition.compositionId ∧
        draft.stageIds.toFinset = requirementSet.stageIds.toFinset ∧
        draft.profileId = draft.precisionProfileId digest := by
  simp only [draftIssues, List.append_eq_nil_iff, ite_eq_left_iff, List.cons_ne_nil, imp_false,
    not_not, and_assoc]

theorem validatePrecisionProfile_valid_iff :
    (∃ profile, validatePrecisionProfile digest draft requirementSet registry
        evidenceConstraints = .ok profile ∧ profile.status = .valid) ↔
      Passes digest draft requirementSet registry evidenceConstraints := by
  simp only [validatePrecisionProfile, bind_eq_ok, PrecisionProfile.construct_eq_ok_iff]
  constructor
  · rintro ⟨profile, ⟨perStage, examined, valid, rfl⟩, accepted⟩
    have clear := valid.status_matches.mp accepted
    obtain ⟨whole, stages⟩ := List.append_eq_nil_iff.mp clear
    obtain ⟨composition, coverage, addressed⟩ := draftIssues_eq_nil_iff.mp whole
    obtain ⟨others, sameExamined, exact⟩ := perStage_eq valid.draft.stageIds_nodup
    obtain rfl : perStage = others := Except.ok.inj (examined.symm.trans sameExamined)
    exact ⟨valid.draft, composition, coverage, addressed, exact.mp stages⟩
  · intro passes
    obtain ⟨perStage, examined, exact⟩ := perStage_eq passes.contract.stageIds_nodup
    have clear : draftIssues digest draft requirementSet ++ perStage.flatten = [] :=
      List.append_eq_nil_iff.mpr ⟨draftIssues_eq_nil_iff.mpr
        ⟨passes.composition, passes.coverage, passes.addressed⟩, exact.mpr passes.compatible⟩
    refine ⟨_, ⟨perStage, examined, ⟨passes.contract, ?_⟩, rfl⟩, ?_⟩
    · simp [clear]
    · simp [PrecisionProfile.make, clear]

/-! ## What acceptance stands for -/

variable (draft requirementSet) in
/-- Each assignment names the model that the composition fixes for its stage. -/
def KeepsModels : Prop :=
  ∀ assignment ∈ draft.assignments,
    (assignment.stageId, assignment.identity) ∈ requirementSet.stageModelIdentities

variable (draft requirementSet registry evidenceConstraints) in
/-- A profile that may stand as valid. -/
structure Sound : Prop where
  /-- Each certified stage has exactly one assignment. -/
  covers : draft.stageIds.Perm (requirementSet.stageModelIdentities.map Prod.fst)
  /-- Models are those that the composition fixes. -/
  models : KeepsModels draft requirementSet
  /-- The exact models support their modes. -/
  supported : ∀ assignment ∈ draft.assignments, ∃ capability ∈ registry.records,
    canonicalPrecisionModelIdentity capability = assignment.identity ∧
      assignment.mode ∈ capability.supportedModes
  /-- Requirements permit the modes of their stages. -/
  permitted : ∀ assignment ∈ draft.assignments, ∀ requirement ∈ requirementSet.requirements,
    requirement.stageId = assignment.stageId → Permits requirement assignment.mode
  /-- INT8 is backed by evidence for its stage. -/
  evidenced : ∀ assignment ∈ draft.assignments,
    Evidenced evidenceConstraints assignment.stageId assignment.mode

theorem Passes.sound (passes : Passes digest draft requirementSet registry evidenceConstraints)
    (keeps : KeepsModels draft requirementSet) :
    Sound draft requirementSet registry evidenceConstraints where
  covers := by
    rw [← requirementSet.stageIds_eq]
    exact List.perm_of_nodup_nodup_toFinset_eq passes.contract.stageIds_nodup
      requirementSet.requirements_nodup passes.coverage
  models := keeps
  supported := by
    intro assignment member
    obtain ⟨_, _, _, capability, registered, model, compatible⟩ :=
      passes.compatible assignment member
    exact ⟨capability, registered, model, compatible.supported⟩
  permitted := by
    intro assignment member requirement required stage
    obtain ⟨other, otherRequired, otherStage, _, _, _, compatible⟩ :=
      passes.compatible assignment member
    obtain rfl := Registry.eq_of_identity_eq requirementSet.requirements_nodup required
      otherRequired (stage.trans otherStage.symm)
    exact compatible.permits
  evidenced := by
    intro assignment member
    obtain ⟨_, _, stage, _, _, _, compatible⟩ := passes.compatible assignment member
    exact stage ▸ compatible.evidenced

variable (digest draft requirementSet registry evidenceConstraints) in
/-- The validator finds a draft valid. -/
def FoundValid : Prop :=
  ∃ profile, validatePrecisionProfile digest draft requirementSet registry
    evidenceConstraints = .ok profile ∧ profile.status = .valid

/-- Being found valid stands for being sound exactly when the draft keeps the models of the
composition or fails one of the checks of the validator. -/
theorem foundValid_sound_iff :
    (FoundValid digest draft requirementSet registry evidenceConstraints →
        Sound draft requirementSet registry evidenceConstraints) ↔
      KeepsModels draft requirementSet ∨
        ¬ Passes digest draft requirementSet registry evidenceConstraints := by
  rw [FoundValid, validatePrecisionProfile_valid_iff]
  constructor
  · intro sound
    by_cases passes : Passes digest draft requirementSet registry evidenceConstraints
    · exact .inl (sound passes).models
    · exact .inr passes
  · rintro (keeps | fails) passes
    · exact passes.sound keeps
    · exact absurd passes fails

end Validation

/-! ## A draft that names another model -/

section Sample

open MercuryX.Models MercuryX.Composition

theorem text_given : [ModelModality.text] ≠ [] := List.cons_ne_nil _ _

theorem declaration_nonblank : ∀ text ∈ ["s", "1", "e"], Text.Nonblank text := by
  decide

theorem revision_nonblank : ∀ text ∈ ["m", "p", "f", "1"], Text.Nonblank text := by
  decide

theorem artifactId_nonblank : Text.Nonblank "a" := by
  decide

theorem limits_pos : ∀ limit : Int, (none : Option Int) = some limit ∨ none = some limit →
    0 < limit := by
  simp

/-- A text model of a revision. -/
def sampleModel : ModelCapabilityRecord where
  modelId := "m"
  provider := "p"
  family := "f"
  revision := "1"
  inputModalities := .of ModelModality.value [.text] text_given
  outputModalities := .of ModelModality.value [.text] text_given
  provenance := ⟨"s", "1", "e", .declared, declaration_nonblank⟩
  identity_nonblank := revision_nonblank

/-- A text artifact. -/
def sampleArtifact : CompositionArtifactContract where
  artifactId := "a"
  modalities := .of ModelModality.value [.text] text_given
  evidence := .of id ["e"] (List.cons_ne_nil _ _)
  artifactId_nonblank := artifactId_nonblank
  evidence_nonblank := by decide

/-- A stage of the model. -/
def sampleNode : CompositionNode where
  stageId := "s"
  role := .primary
  modelRecord := sampleModel
  requirements := {
    evidence := .of id ["e"] (List.cons_ne_nil _ _)
    minimums_positive := limits_pos
    modalities_canonical := by decide
    reasoning_canonical := by decide
    evidence_nonblank := by decide }
  inputArtifacts := .single sampleArtifact
  outputArtifacts := .single sampleArtifact
  justifications := .of Composition.CapabilityJustification.key
    [⟨"q", "input_modalities", "text", "declared", by decide⟩] (List.cons_ne_nil _ _)
  provenance := .of CompositionProvenanceReference.key
    [⟨"phase5", "c", "e", by decide⟩] (List.cons_ne_nil _ _)
  stageId_nonblank := by decide

/-- A composition of the one stage. -/
def sampleDraftFields : DraftFields where
  compositionId := "sha256:0000000000000000000000000000000000000000000000000000000000000000"
  requestId := "r"
  workloadId := "w"
  sessionId := "n"
  graphId := "g"
  patternId := "t"
  topology := .single
  nodes := [sampleNode]
  edges := []
  satisfiedRequirementIds := ["q"]
  provenance := [⟨"phase5", "c", "e", by decide⟩]

theorem sampleDraftFields_valid : sampleDraftFields.Valid where
  schema := rfl
  identities_nonblank := by decide
  compositionId_sha256 := by decide
  nodes_nonempty := by decide
  nodes_bounded := by decide
  stageIds_nodup := by decide
  nodes_sorted := rfl
  edges_canonical := rfl
  requirements_nonempty := by decide
  requirements_nonblank := by decide
  requirements_canonical := rfl
  assessments_canonical := rfl
  provenance_nonempty := by decide
  provenance_canonical := rfl
  graph_valid := by rfl

/-- The composition, found valid. -/
def sampleComposition : CompositionCandidate where
  toDraftFields := sampleDraftFields
  valid := sampleDraftFields_valid
  validity := .valid
  rejectionReasons := []
  validity_matches := by decide

/-- The requirement of the stage, which permits every mode. -/
def sampleRequirement : PrecisionRequirement where
  requirementId := "r"
  stageId := "s"
  hardRequirementIds := ["q"]
  provenance := ["e"]
  texts_nonblank := by decide
  texts_canonical := by decide
  modes_canonical := by decide

theorem sampleRequirement_permits (mode : PrecisionMode) : Permits sampleRequirement mode where
  denied := List.not_mem_nil
  allowed := fun listed => absurd rfl listed
  reduced := nofun
  quantized := nofun
  stable := nofun

/-- The requirements of the composition. -/
def sampleRequirementSet : StagePrecisionRequirementSet where
  composition := sampleComposition
  requirements := [sampleRequirement]
  stageModelIdentities := [("s", sampleModel.identity)]
  provenance := ["e"]
  composition_valid := rfl
  requirements_nodup := by decide
  requirements_sorted := rfl
  identities_exact := rfl
  requirements_cover := by decide
  provenance_canonical := by decide

/-- The capability of another revision of the model. -/
def otherCapability : ModelPrecisionCapability where
  provider := "p"
  modelId := "m"
  family := "f"
  revision := "2"
  supportedModes := [.fp32]
  provenance := ["e"]
  texts_nonblank := by decide
  modes_canonical := by decide
  evidence_canonical := by decide
  provenance_canonical := by decide

/-- A registry of the other revision. -/
def otherRegistry : ModelPrecisionCapabilityRegistry where
  records := [otherCapability]
  identities_nodup := by decide
  records_sorted := rfl

/-- The assignment of the other revision to the stage. -/
def otherAssignment : PrecisionAssignment where
  stageId := "s"
  provider := "p"
  modelId := "m"
  family := "f"
  revision := "2"
  mode := .fp32
  hardRequirementIds := ["q"]
  provenance := ["e"]
  valid := ⟨by decide, by decide⟩
  texts_canonical := by decide

/-- The draft before its identity is known. -/
def otherContent : PrecisionProfileDraft where
  profileId := ""
  compositionId := sampleComposition.compositionId
  assignments := [otherAssignment]
  provenance := ["e"]

/-- The draft of the other revision. -/
def otherDraft (digest : Digest) : PrecisionProfileDraft :=
  { otherContent with profileId := otherContent.precisionProfileId digest }

theorem otherDraft_passes :
    Passes Digest.sha256 (otherDraft Digest.sha256) sampleRequirementSet otherRegistry [] where
  contract := {
    ids_sha256 := ⟨isSha256Id_of_hexadecimal Digest.sha256_hexadecimal _,
      sampleDraftFields_valid.compositionId_sha256⟩
    assignments_nonempty := List.cons_ne_nil _ _
    stageIds_nodup := List.nodup_singleton _
    provenance_nonblank := by decide
    provenance_nonempty := by decide }
  composition := rfl
  coverage := rfl
  addressed := rfl
  compatible := by
    intro assignment member
    obtain rfl := List.mem_singleton.mp member
    exact ⟨sampleRequirement, List.mem_singleton_self _, rfl, otherCapability,
      List.mem_singleton_self _, rfl, by decide, sampleRequirement_permits _, nofun⟩

/-- Drafts that are found valid are sound. -/
def ValidIsSound (digest : Digest) : Prop :=
  ∀ (draft : PrecisionProfileDraft) (requirementSet : StagePrecisionRequirementSet)
    (registry : ModelPrecisionCapabilityRegistry)
    (evidenceConstraints : List PrecisionEvidenceConstraint),
    FoundValid digest draft requirementSet registry evidenceConstraints →
      Sound draft requirementSet registry evidenceConstraints

/-- A draft that names another registered revision is found valid. -/
theorem other_model_found_valid : ¬ ValidIsSound Digest.sha256 := by
  intro sound
  have found := validatePrecisionProfile_valid_iff.mpr otherDraft_passes
  have keeps := (sound _ _ _ _ found).models otherAssignment (List.mem_singleton_self _)
  revert keeps
  decide

end Sample

end Precision
end MercuryX
