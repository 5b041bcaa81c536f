import MercuryX.Composition.Contracts

/-!
# Precision contracts

The precision modes, what a stage requires of its mode, what a model revision supports, and the
profiles that assign a mode to each stage. A profile is content-addressed by its composition and
its assignments. The contracts of collections keep them in canonical form, texts by themselves and
modes by the order in which they are declared.
-/

namespace MercuryX
namespace Precision

open Foundation
open MercuryX.Composition (IsSha256Id CompositionCandidate CompositionNode CompositionValidity)

/-- The most profiles of a generation. -/
def maxPrecisionProfiles : Nat := 128

/-! ## Modes -/

/-- The certified precision modes. -/
inductive PrecisionMode where
  | fp32
  | bf16
  | fp16
  | int8
  deriving DecidableEq, Repr

namespace PrecisionMode

/-- The text of a mode. -/
def value : PrecisionMode → String
  | fp32 => "FP32"
  | bf16 => "BF16"
  | fp16 => "FP16"
  | int8 => "INT8"

/-- The position of a mode in its declaration. -/
def order : PrecisionMode → Nat
  | fp32 => 0
  | bf16 => 1
  | fp16 => 2
  | int8 => 3

/-- The modes, as they are declared. -/
def all : List PrecisionMode := [fp32, bf16, fp16, int8]

theorem mem_all (mode : PrecisionMode) : mode ∈ all := by
  cases mode <;> decide

theorem all_sorted : all.Pairwise fun left right => left.order < right.order := by
  decide

theorem value_injective {left right : PrecisionMode} (same : left.value = right.value) :
    left = right := by
  revert same
  cases left <;> cases right <;> decide

end PrecisionMode

/-- The exact identity of a model revision: provider, model, family and revision. -/
abbrev ModelIdentity := String ×ₗ String ×ₗ String ×ₗ String

/-! ## Requirements and capabilities -/

/-- What a stage requires of its precision mode. -/
structure PrecisionRequirement where
  requirementId : String
  stageId : String
  hardRequirementIds : List String
  reducedPrecisionForbidden : Bool := false
  quantizationForbidden : Bool := false
  fp16Forbidden : Bool := false
  allowedModes : List PrecisionMode := []
  deniedModes : List PrecisionMode := []
  provenance : List String
  /-- Identity fields are nonblank. -/
  texts_nonblank : ∀ text ∈ [requirementId, stageId], Text.Nonblank text
  /-- Requirement ids and provenance are given, in canonical form. -/
  texts_canonical : ∀ texts ∈ [hardRequirementIds, provenance], CanonicalTexts texts ∧ texts ≠ []
  /-- Modes stand once each, in their order. -/
  modes_canonical : ∀ modes ∈ [allowedModes, deniedModes],
    canonical PrecisionMode.order modes = modes

/-- Evidence for a mode of a stage. -/
structure PrecisionEvidenceConstraint where
  constraintId : String
  stageId : String
  mode : PrecisionMode
  requiresEvidence : Bool
  evidenceIds : List String := []
  provenance : List String
  /-- Identity fields are nonblank. -/
  texts_nonblank : ∀ text ∈ [constraintId, stageId], Text.Nonblank text
  /-- Evidence stands in canonical form. -/
  evidence_canonical : CanonicalTexts evidenceIds
  /-- Provenance is given, in canonical form. -/
  provenance_canonical : CanonicalTexts provenance ∧ provenance ≠ []

/-- The modes that an exact model revision supports. -/
structure ModelPrecisionCapability where
  provider : String
  modelId : String
  family : String
  revision : String
  supportedModes : List PrecisionMode
  evidenceIds : List String := []
  provenance : List String
  /-- Identity fields are nonblank. -/
  texts_nonblank : ∀ text ∈ [provider, modelId, family, revision], Text.Nonblank text
  /-- There is a mode; modes stand once each, in their order. -/
  modes_canonical : canonical PrecisionMode.order supportedModes = supportedModes ∧
    supportedModes ≠ []
  /-- Evidence stands in canonical form. -/
  evidence_canonical : CanonicalTexts evidenceIds
  /-- Provenance is given, in canonical form. -/
  provenance_canonical : CanonicalTexts provenance ∧ provenance ≠ []

/-- The exact identity that a capability is declared for. -/
def canonicalPrecisionModelIdentity (record : ModelPrecisionCapability) : ModelIdentity :=
  toLex (record.provider, toLex (record.modelId, toLex (record.family, record.revision)))

/-- The declared capabilities, one for each exact identity. -/
structure ModelPrecisionCapabilityRegistry where
  records : List ModelPrecisionCapability
  /-- No identity is declared twice. -/
  identities_nodup : (records.map canonicalPrecisionModelIdentity).Nodup
  /-- Records stand in the order of their identities. -/
  records_sorted : sortOn canonicalPrecisionModelIdentity records = records

/-- The capability of an exact identity, if it is declared. -/
def lookupExactPrecisionCapability (registry : ModelPrecisionCapabilityRegistry)
    (provider modelId family revision : String) :
    Except Fault (Option ModelPrecisionCapability) := do
  forEach (fun field => require (Text.Nonblank field.2) (.value s!"{field.1} must be nonblank"))
    [("provider", provider), ("model_id", modelId), ("family", family), ("revision", revision)]
  let identity : ModelIdentity := toLex (provider, toLex (modelId, toLex (family, revision)))
  return registry.records.find? fun record => canonicalPrecisionModelIdentity record = identity

/-! ## Assignments and profiles -/

/-- The fields of the mode assigned to the model of a stage. -/
structure PrecisionAssignmentFields where
  stageId : String
  provider : String
  modelId : String
  family : String
  revision : String
  mode : PrecisionMode
  hardRequirementIds : List String
  provenance : List String

/-- What the contract asks of an assignment. -/
structure PrecisionAssignmentFields.Valid (fields : PrecisionAssignmentFields) : Prop where
  /-- Identity fields are nonblank. -/
  texts_nonblank : ∀ text ∈ [fields.stageId, fields.provider, fields.modelId, fields.family,
    fields.revision], Text.Nonblank text
  /-- Requirement ids and provenance are given and nonblank. -/
  texts_given : ∀ texts ∈ [fields.hardRequirementIds, fields.provenance],
    (∀ text ∈ texts, Text.Nonblank text) ∧ texts ≠ []

/-- The constraints on an assignment. -/
def PrecisionAssignmentFields.check (fields : PrecisionAssignmentFields) : Except Fault Unit := do
  let contract := "PrecisionAssignment"
  forEach (fun field => rule contract field.1 (Text.Nonblank field.2)
      "precision assignment identity must be nonblank")
    [("stage_id", fields.stageId), ("provider", fields.provider), ("model_id", fields.modelId),
      ("family", fields.family), ("revision", fields.revision)]
  forEach (fun field : String × List String => do
      rule contract field.1 (∀ text ∈ field.2, Text.Nonblank text)
        s!"{field.1} must contain nonblank values"
      rule contract field.1 (field.2 ≠ []) s!"{field.1} must not be empty")
    [("hard_requirement_ids", fields.hardRequirementIds), ("provenance", fields.provenance)]

theorem PrecisionAssignmentFields.check_eq_ok_iff {fields : PrecisionAssignmentFields}
    {done : Unit} : fields.check = .ok done ↔ fields.Valid := by
  simp only [check, bind_eq_ok, forEach_eq_ok, rule_eq_ok, List.forall_mem_cons, exists_and_left,
    exists_const]
  constructor
  · rintro ⟨⟨stage, provider, model, family, revision, _⟩, requirements, provenance, _⟩
    refine ⟨?_, ?_⟩
    · simp [stage, provider, model, family, revision]
    · simpa using ⟨requirements, provenance⟩
  · intro valid
    have texts := valid.texts_nonblank
    have given := valid.texts_given
    simp only [List.mem_cons, List.not_mem_nil, or_false, forall_eq_or_imp, forall_eq]
      at texts given
    exact ⟨⟨texts.1, texts.2.1, texts.2.2.1, texts.2.2.2.1, texts.2.2.2.2, by simp⟩, given.1,
      given.2, by simp⟩

/-- The mode assigned to the model of a stage. -/
structure PrecisionAssignment extends PrecisionAssignmentFields where
  /-- The contract holds. -/
  valid : toPrecisionAssignmentFields.Valid
  /-- Requirement ids and provenance stand once each, in order. -/
  texts_canonical : ∀ texts ∈ [hardRequirementIds, provenance], canonical id texts = texts

namespace PrecisionAssignment

/-- The assignment that valid fields make: its texts are put in canonical form. -/
def make (fields : PrecisionAssignmentFields) (valid : fields.Valid) : PrecisionAssignment where
  toPrecisionAssignmentFields := { fields with
    hardRequirementIds := canonical id fields.hardRequirementIds
    provenance := canonical id fields.provenance }
  valid := {
    texts_nonblank := valid.texts_nonblank
    texts_given := by
      have given := valid.texts_given
      simp only [List.mem_cons, List.not_mem_nil, or_false, forall_eq_or_imp, forall_eq,
        mem_canonical] at given ⊢
      exact ⟨⟨given.1.1, canonical_ne_nil id given.1.2⟩, given.2.1, canonical_ne_nil id given.2.2⟩ }
  texts_canonical := by simp

/-- Construct an assignment. -/
def construct (fields : PrecisionAssignmentFields) : Except Fault PrecisionAssignment :=
  checked PrecisionAssignmentFields.check PrecisionAssignmentFields.check_eq_ok_iff make fields

theorem construct_eq_ok_iff {fields : PrecisionAssignmentFields}
    {assignment : PrecisionAssignment} :
    construct fields = .ok assignment ↔ ∃ valid, make fields valid = assignment :=
  checked_eq_ok_iff

/-- The exact model that an assignment names. -/
def identity (assignment : PrecisionAssignment) : ModelIdentity :=
  toLex (assignment.provider, toLex (assignment.modelId,
    toLex (assignment.family, assignment.revision)))

theorem ext_fields {left right : PrecisionAssignment} (stage : left.stageId = right.stageId)
    (identity : left.identity = right.identity) (mode : left.mode = right.mode)
    (requirements : left.hardRequirementIds = right.hardRequirementIds)
    (provenance : left.provenance = right.provenance) : left = right := by
  obtain ⟨⟨_, _, _, _, _, _, _, _⟩, _, _⟩ := left
  obtain ⟨⟨_, _, _, _, _, _, _, _⟩, _, _⟩ := right
  simp only [PrecisionAssignment.identity, toLex_inj, Prod.mk.injEq] at identity
  simp_all

/-- The part of an assignment that the identity of its profile covers. -/
def payload (assignment : PrecisionAssignment) : Json := .obj [
  ("stage_id", .str assignment.stageId),
  ("model_identity", .obj [("provider", .str assignment.provider),
    ("model_id", .str assignment.modelId), ("family", .str assignment.family),
    ("revision", .str assignment.revision)]),
  ("mode", .str assignment.mode.value),
  ("hard_requirement_ids", Json.strs assignment.hardRequirementIds)]

end PrecisionAssignment

theorem isSha256Id_of_hexadecimal {digest : Digest} (hexadecimal : digest.Hexadecimal)
    (payload : Json) : IsSha256Id ("sha256:" ++ digest.hexdigest payload) := by
  rw [IsSha256Id, String.toList_append]
  exact ⟨rfl, hexadecimal payload⟩

/-- The fields of a draft. A draft that was copied with changes was not validated, so its stages may
repeat. -/
structure PrecisionProfileDraft where
  profileId : String
  compositionId : String
  assignments : List PrecisionAssignment
  provenance : List String

namespace PrecisionProfileDraft

/-- The stages of a draft. -/
def stageIds (draft : PrecisionProfileDraft) : List String :=
  draft.assignments.map fun assignment => assignment.stageId

/-- What the contract asks of a draft. -/
structure Valid (draft : PrecisionProfileDraft) : Prop where
  /-- The ids are SHA-256 identifiers. -/
  ids_sha256 : IsSha256Id draft.profileId ∧ IsSha256Id draft.compositionId
  /-- There is an assignment. -/
  assignments_nonempty : draft.assignments ≠ []
  /-- No stage is assigned twice. -/
  stageIds_nodup : draft.stageIds.Nodup
  /-- Provenance is nonblank. -/
  provenance_nonblank : ∀ text ∈ draft.provenance, Text.Nonblank text
  /-- There is provenance. -/
  provenance_nonempty : draft.provenance ≠ []

/-- The constraints on a draft. -/
def check (contract : String) (draft : PrecisionProfileDraft) : Except Fault Unit := do
  rule contract "profile_id" (IsSha256Id draft.profileId)
    "profile_id must be a deterministic lowercase sha256 identifier"
  rule contract "composition_id" (IsSha256Id draft.compositionId)
    "composition_id must be a deterministic lowercase sha256 identifier"
  rule contract "assignments" (draft.assignments ≠ []) "assignments must not be empty"
  rule contract "assignments" draft.stageIds.Nodup "assignment stage ids must be unique"
  rule contract "provenance" (∀ text ∈ draft.provenance, Text.Nonblank text)
    "provenance must contain nonblank values"
  rule contract "provenance" (draft.provenance ≠ []) "provenance must not be empty"

theorem check_eq_ok_iff {contract : String} {draft : PrecisionProfileDraft} {done : Unit} :
    draft.check contract = .ok done ↔ draft.Valid := by
  simp only [check, bind_eq_ok, rule_eq_ok, exists_and_left, exists_const]
  constructor
  · rintro ⟨profile, composition, assignments, stages, visible, given⟩
    exact ⟨⟨profile, composition⟩, assignments, stages, visible, given⟩
  · rintro ⟨⟨profile, composition⟩, assignments, stages, visible, given⟩
    exact ⟨profile, composition, assignments, stages, visible, given⟩

/-- Construct a draft: its provenance is put in canonical form. -/
def construct (draft : PrecisionProfileDraft) : Except Fault PrecisionProfileDraft := do
  draft.check "PrecisionProfileDraft"
  return { draft with provenance := canonical id draft.provenance }

/-- The semantic content of a draft. -/
def canonicalPrecisionProfilePayload (draft : PrecisionProfileDraft) : Json := .obj [
  ("schema_version", .str "mercury.precision-profile/v1"),
  ("composition_id", .str draft.compositionId),
  ("assignments", .arr (draft.assignments.map PrecisionAssignment.payload))]

/-- The identity of a draft with its semantic content. -/
def precisionProfileId (digest : Digest) (draft : PrecisionProfileDraft) : String :=
  "sha256:" ++ digest.hexdigest draft.canonicalPrecisionProfilePayload

end PrecisionProfileDraft

/-- Why a profile was rejected. -/
structure PrecisionValidationIssue where
  issueId : String
  stageId : Option String := none
  requirementId : Option String := none
  violatedInvariant : String
  reason : String
  deriving DecidableEq

/-- Issues are ordered by all their fields. -/
def PrecisionValidationIssue.key (issue : PrecisionValidationIssue) :
    String ×ₗ String ×ₗ String ×ₗ String ×ₗ String :=
  toLex (issue.issueId, toLex (issue.stageId.getD "", toLex (issue.requirementId.getD "",
    toLex (issue.violatedInvariant, issue.reason))))

/-- Whether a profile passed its validation. -/
inductive PrecisionProfileStatus where
  | valid
  | rejected
  deriving DecidableEq, Repr

/-- The fields of a draft with the verdict of its validation. -/
structure PrecisionProfileFields extends PrecisionProfileDraft where
  status : PrecisionProfileStatus
  issues : List PrecisionValidationIssue

/-- What the contract asks of a draft with a verdict. -/
structure PrecisionProfileFields.Valid (fields : PrecisionProfileFields) : Prop where
  /-- The draft meets its contract. -/
  draft : fields.toPrecisionProfileDraft.Valid
  /-- A profile is rejected exactly for an issue. -/
  status_matches : fields.status = .valid ↔ fields.issues = []

/-- The constraints on a draft with a verdict. -/
def PrecisionProfileFields.check (fields : PrecisionProfileFields) : Except Fault Unit := do
  let contract := "PrecisionProfile"
  fields.toPrecisionProfileDraft.check contract
  rule contract "" (fields.status = .valid → fields.issues = [])
    "VALID precision profiles must not contain issues"
  rule contract "" (fields.status = .rejected → fields.issues ≠ [])
    "REJECTED precision profiles require an issue"

theorem PrecisionProfileFields.check_eq_ok_iff {fields : PrecisionProfileFields} {done : Unit} :
    fields.check = .ok done ↔ fields.Valid := by
  simp only [check, bind_eq_ok, PrecisionProfileDraft.check_eq_ok_iff, rule_eq_ok,
    exists_and_left, exists_const]
  constructor
  · rintro ⟨draft, accepted, refused⟩
    refine ⟨draft, accepted, fun clear => ?_⟩
    cases verdict : fields.status with
    | valid => rfl
    | rejected => exact absurd clear (refused verdict)
  · rintro ⟨draft, agrees⟩
    refine ⟨draft, agrees.mp, fun refused clear => ?_⟩
    rw [agrees.mpr clear] at refused
    contradiction

/-- A draft with the verdict of its validation. -/
structure PrecisionProfile extends PrecisionProfileFields where
  /-- The contract holds. -/
  valid : toPrecisionProfileFields.Valid

namespace PrecisionProfile

/-- The profile that valid fields make: provenance and issues are put in canonical form. -/
def make (fields : PrecisionProfileFields) (valid : fields.Valid) : PrecisionProfile where
  profileId := fields.profileId
  compositionId := fields.compositionId
  assignments := fields.assignments
  provenance := canonical id fields.provenance
  status := fields.status
  issues := canonical PrecisionValidationIssue.key fields.issues
  valid := {
    draft := {
      ids_sha256 := valid.draft.ids_sha256
      assignments_nonempty := valid.draft.assignments_nonempty
      stageIds_nodup := valid.draft.stageIds_nodup
      provenance_nonblank := fun text member =>
        valid.draft.provenance_nonblank text ((mem_canonical id).mp member)
      provenance_nonempty := canonical_ne_nil id valid.draft.provenance_nonempty }
    status_matches := by
      rw [valid.status_matches, List.eq_nil_iff_forall_not_mem, List.eq_nil_iff_forall_not_mem]
      simp }

/-- Construct a profile. -/
def construct (fields : PrecisionProfileFields) : Except Fault PrecisionProfile :=
  checked PrecisionProfileFields.check PrecisionProfileFields.check_eq_ok_iff make fields

theorem construct_eq_ok_iff {fields : PrecisionProfileFields} {profile : PrecisionProfile} :
    construct fields = .ok profile ↔ ∃ valid, make fields valid = profile :=
  checked_eq_ok_iff

end PrecisionProfile

/-! ## Requirement sets -/

/-- The model that a composition fixes for a stage. -/
abbrev StageModelIdentity := String × ModelIdentity

/-- The stage of a composition with its model. -/
def stageModelIdentity (node : CompositionNode) : StageModelIdentity :=
  (node.stageId, node.modelRecord.identity)

/-- The requirements of the stages of one certified composition. -/
structure StagePrecisionRequirementSet where
  composition : CompositionCandidate
  requirements : List PrecisionRequirement
  stageModelIdentities : List StageModelIdentity
  provenance : List String
  /-- The composition passed its validation. -/
  composition_valid : composition.validity = .valid
  /-- There is one policy for each stage. -/
  requirements_nodup : (requirements.map PrecisionRequirement.stageId).Nodup
  /-- Requirements stand in the order of their stages. -/
  requirements_sorted : sortOn PrecisionRequirement.stageId requirements = requirements
  /-- The models are those of the composition, in the order of their stages. -/
  identities_exact : stageModelIdentities =
    sortOn Prod.fst (composition.nodes.map stageModelIdentity)
  /-- Each stage of the composition has a requirement, and no other stage has. -/
  requirements_cover : (requirements.map PrecisionRequirement.stageId).toFinset =
    (composition.nodes.map CompositionNode.stageId).toFinset
  /-- Provenance is given, in canonical form. -/
  provenance_canonical : CanonicalTexts provenance ∧ provenance ≠ []

namespace StagePrecisionRequirementSet

variable (requirementSet : StagePrecisionRequirementSet)

/-- The stages that requirements are stated for. -/
def stageIds : List String := requirementSet.requirements.map PrecisionRequirement.stageId

theorem stageIds_eq :
    requirementSet.stageIds = requirementSet.stageModelIdentities.map Prod.fst := by
  have stages := requirementSet.composition.valid.stageIds_nodup
  have perm : (requirementSet.stageModelIdentities.map Prod.fst).Perm
      (requirementSet.composition.nodes.map CompositionNode.stageId) := by
    rw [requirementSet.identities_exact]
    refine ((sortOn_perm _ _).map _).trans ?_
    rw [List.map_map]
    exact .rfl
  have separates : Separates id requirementSet.stageIds := fun _ _ _ _ same => same
  refine eq_of_perm_of_sorted separates ?_ ?_ ?_
  · exact (List.perm_of_nodup_nodup_toFinset_eq requirementSet.requirements_nodup stages
      requirementSet.requirements_cover).trans perm.symm
  · rw [stageIds, ← requirementSet.requirements_sorted, List.pairwise_map]
    exact sortOn_pairwise _ _
  · rw [requirementSet.identities_exact, List.pairwise_map]
    exact sortOn_pairwise _ _

theorem mem_stageModelIdentities {entry : StageModelIdentity} :
    entry ∈ requirementSet.stageModelIdentities ↔
      ∃ node ∈ requirementSet.composition.nodes, stageModelIdentity node = entry := by
  rw [requirementSet.identities_exact, mem_sortOn, List.mem_map]

end StagePrecisionRequirementSet

end Precision
end MercuryX
