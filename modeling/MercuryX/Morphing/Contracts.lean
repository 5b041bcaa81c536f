import MercuryX.Contracts
import MercuryX.Foundation.Registry

/-!
# Morph contracts

The structural variants that are registered for a model lineage, what a stage permits of them, and
the profiles that assign a variant to each stage. A registry holds one record for each exact
variant; a profile is content-addressed by its assignments and by the composition and the precision
profile that it belongs to.
-/

namespace MercuryX
namespace Morphing

open Foundation

/-- The most profiles of a generation. -/
def maxMorphProfiles : Nat := 128

/-! ## Dimensions -/

/-- The structural dimensions in which a model can be morphed. -/
inductive MorphDimension where
  | depth
  | width
  | expert
  | adapter
  | headContext
  deriving DecidableEq, Repr

namespace MorphDimension

/-- The text of a dimension. -/
def value : MorphDimension → String
  | depth => "DEPTH"
  | width => "WIDTH"
  | expert => "EXPERT"
  | adapter => "ADAPTER"
  | headContext => "HEAD_CONTEXT"

/-- A dimension as it is printed, with the name of its type. -/
def printed (dimension : MorphDimension) : String := "MorphDimension." ++ dimension.value

/-- The position of a dimension in its declaration, which is the canonical order. -/
def order : MorphDimension → Nat
  | depth => 0
  | width => 1
  | expert => 2
  | adapter => 3
  | headContext => 4

/-- The dimensions, as they are declared. -/
def all : List MorphDimension := [depth, width, expert, adapter, headContext]

theorem printed_injective {left right : MorphDimension} (same : left.printed = right.printed) :
    left = right := by
  revert same
  cases left <;> cases right <;> decide

end MorphDimension

/-! ## Requirements -/

/-- What a stage permits of its variant. -/
structure MorphRequirement where
  requirementId : String
  stageId : String
  hardRequirementIds : List String
  morphingForbidden : Bool := false
  allowedDimensions : List MorphDimension := []
  deniedDimensions : List MorphDimension := []
  provenance : List String
  /-- Identity fields are nonblank. -/
  texts_nonblank : ∀ text ∈ [requirementId, stageId], Text.Nonblank text

/-- The exact lineage of a model: provider, family, base model, lineage and source revision. -/
abbrev LineageIdentity := String ×ₗ String ×ₗ String ×ₗ String ×ₗ String

instance : DecidableEq LineageIdentity :=
  inferInstanceAs (DecidableEq (String × String × String × String × String))

/-- The lineage of a provider, a family, a base model, a lineage and a source revision. -/
def lineageIdentity (provider family baseModelId lineageId sourceRevision : String) :
    LineageIdentity :=
  toLex (provider, toLex (family, toLex (baseModelId, toLex (lineageId, sourceRevision))))

/-- A certified stage, with the exact lineage of its model. -/
abbrev StageModelIdentity := String × LineageIdentity

/-- The requirements of the stages of a composition, under a precision profile. Requirements and
stages are listed side by side. -/
structure StageMorphRequirementSet where
  compositionId : String
  precisionProfileId : String
  stageModelIdentities : List StageModelIdentity
  requirements : List MorphRequirement
  provenance : List String

/-! ## Registered variants -/

/-- A variant that is registered for an exact lineage. -/
structure ModelMorphCapability where
  provider : String
  family : String
  baseModelId : String
  lineageId : String
  sourceRevision : String
  variantId : String
  dimension : MorphDimension
  provenance : List String
  /-- Identity fields are nonblank. -/
  texts_nonblank : ∀ text ∈ [provider, family, baseModelId, lineageId, sourceRevision, variantId],
    Text.Nonblank text
  deriving DecidableEq

/-- The exact lineage that a variant is registered for. -/
def canonicalMorphLineageIdentity (record : ModelMorphCapability) : LineageIdentity :=
  lineageIdentity record.provider record.family record.baseModelId record.lineageId
    record.sourceRevision

/-- What identifies a variant: its lineage, its id and its dimension. -/
abbrev VariantIdentity := LineageIdentity × String × MorphDimension

namespace ModelMorphCapability

/-- What identifies a record. -/
def identity (record : ModelMorphCapability) : VariantIdentity :=
  (canonicalMorphLineageIdentity record, record.variantId, record.dimension)

/-- Records are ordered by the texts of their identities. -/
def sortKey (record : ModelMorphCapability) : LineageIdentity ×ₗ String ×ₗ String :=
  toLex (canonicalMorphLineageIdentity record, toLex (record.variantId, record.dimension.printed))

theorem identity_eq_of_sortKey {left right : ModelMorphCapability}
    (same : left.sortKey = right.sortKey) : left.identity = right.identity := by
  simp only [sortKey, toLex_inj, Prod.mk.injEq] at same
  obtain ⟨lineage, variantId, dimension⟩ := same
  rw [identity, identity, lineage, variantId, MorphDimension.printed_injective dimension]

end ModelMorphCapability

/-- What a registry reports of two declarations of one variant. -/
def conflictFault : Fault := .validation "ModelMorphCapabilityRegistry" "records"
  "Value error, conflicting morph declarations share one exact identity"

/-- The records of a registry: each variant once, in the order of identities. -/
def canonicalRecords (values : List ModelMorphCapability) :
    Except Fault (List ModelMorphCapability) :=
  Registry.declared ModelMorphCapability.sortKey ModelMorphCapability.identity conflictFault values

/-- The registered variants. -/
structure ModelMorphCapabilityRegistry where
  records : List ModelMorphCapability
  /-- No variant is declared twice, and records stand in the order of their identities. -/
  registered : Registry.Registered ModelMorphCapability.sortKey ModelMorphCapability.identity
    records

/-- Records are those of a registry for the values that are declared exactly when they are the
values, each once and in order. -/
theorem canonicalRecords_eq_ok_iff {values records : List ModelMorphCapability} :
    canonicalRecords values = .ok records ↔
      Registry.Registered ModelMorphCapability.sortKey ModelMorphCapability.identity records ∧
        ∀ record, record ∈ records ↔ record ∈ values :=
  Registry.declared_eq_ok_iff fun _ _ => ModelMorphCapability.identity_eq_of_sortKey

/-- A registry does not depend on the order in which its records are declared. -/
theorem canonicalRecords_perm {values others records : List ModelMorphCapability}
    (perm : values.Perm others) (accepted : canonicalRecords values = .ok records) :
    canonicalRecords others = .ok records :=
  Registry.declared_perm (fun _ _ => ModelMorphCapability.identity_eq_of_sortKey) perm accepted

/-! ## Assignments and profiles -/

/-- The variant assigned to a stage. The contract has no checks of its own. -/
structure MorphAssignment where
  stageId : String
  provider : String
  family : String
  baseModelId : String
  lineageId : String
  sourceRevision : String
  variantId : String
  dimension : MorphDimension
  hardRequirementIds : List String
  provenance : List String
  deriving DecidableEq

namespace MorphAssignment

/-- The lineage that an assignment names. -/
def lineage (assignment : MorphAssignment) : LineageIdentity :=
  lineageIdentity assignment.provider assignment.family assignment.baseModelId assignment.lineageId
    assignment.sourceRevision

/-- The variant that an assignment names. -/
def variant (assignment : MorphAssignment) : VariantIdentity :=
  (assignment.lineage, assignment.variantId, assignment.dimension)

/-- The part of an assignment that the identity of its profile covers. -/
def payload (assignment : MorphAssignment) : Json := .obj [
  ("stage_id", .str assignment.stageId),
  ("lineage", Json.strs [assignment.provider, assignment.family, assignment.baseModelId,
    assignment.lineageId, assignment.sourceRevision]),
  ("variant_id", .str assignment.variantId),
  ("dimension", .str assignment.dimension.value),
  ("hard_requirement_ids", Json.strs (sortOn id assignment.hardRequirementIds))]

end MorphAssignment

/-- An assignment of variants to stages, for a composition under a precision profile. The contract
has no checks of its own, so the identity may be any text. -/
structure MorphProfileDraft where
  profileId : String
  compositionId : String
  precisionProfileId : String
  assignments : List MorphAssignment
  provenance : List String
  deriving DecidableEq

namespace MorphProfileDraft

/-- The stages of a draft. -/
def stageIds (draft : MorphProfileDraft) : List String :=
  draft.assignments.map MorphAssignment.stageId

/-- The semantic content of a draft. -/
def canonicalMorphProfilePayload (draft : MorphProfileDraft) : Json := .obj [
  ("schema_version", .str "mercury.morph-profile/v1"),
  ("composition_id", .str draft.compositionId),
  ("precision_profile_id", .str draft.precisionProfileId),
  ("assignments", .arr (draft.assignments.map MorphAssignment.payload))]

/-- The identity of a draft with its semantic content. -/
def morphProfileId (digest : Digest) (draft : MorphProfileDraft) : String :=
  "sha256:" ++ digest.hexdigest draft.canonicalMorphProfilePayload

end MorphProfileDraft

/-- Why a variant or a profile was rejected. -/
structure MorphValidationIssue where
  issueId : String
  violatedInvariant : String
  reason : String
  deriving DecidableEq

/-- Whether a profile passed its validation. -/
inductive MorphProfileStatus where
  | valid
  | rejected
  deriving DecidableEq, Repr

/-- A draft with the verdict of its validation. -/
structure MorphProfile extends MorphProfileDraft where
  status : MorphProfileStatus
  issues : List MorphValidationIssue
  deriving DecidableEq

end Morphing
end MercuryX
