import MercuryX.Foundation.Product
import MercuryX.Morphing.Validation
import Mathlib.Data.List.Lex

/-!
# Generation of morph profiles

The registered variants that the policy of each stage permits, and the product of them. The sort of
the variants of a stage is meant to follow the dimensions first, but its key lists all dimensions
instead of the one of the variant, so that only the ids of variants decide; a bounded generation
keeps what comes first in that order.
-/

namespace MercuryX
namespace Morphing

open Foundation

/-! ## Results -/

/-- The outcome of the morph phase. -/
inductive MorphPhaseStatus where
  | ready
  | notApplicable
  | fail
  deriving DecidableEq, Repr

/-- How far the enumeration went. -/
structure MorphGenerationMetadata where
  maxProfiles : Int
  emittedValidCount : Nat
  emittedRejectedCount : Nat
  enumerationCompleted : Bool
  truncated : Bool
  lowerBoundUniqueProfiles : Int
  canonicalOrderDescription : String

/-- What the morph phase returns. -/
structure MorphPhaseResult where
  status : MorphPhaseStatus
  validProfiles : List MorphProfile
  rejectedProfiles : List MorphProfile
  generationMetadata : MorphGenerationMetadata
  issues : List MorphValidationIssue := []

/-! ## Enumeration -/

section Generation

variable (digest : Digest) (requirements : StageMorphRequirementSet)
  (registry : ModelMorphCapabilityRegistry)

/-- The requirements and the stages of a set, side by side; their numbers have to agree. -/
def pairedStages : Except Fault (List (MorphRequirement × StageModelIdentity)) :=
  if requirements.stageModelIdentities.length < requirements.requirements.length then
    .error (.value "zip() argument 2 is shorter than argument 1")
  else if requirements.requirements.length < requirements.stageModelIdentities.length then
    .error (.value "zip() argument 2 is longer than argument 1")
  else .ok (requirements.requirements.zip requirements.stageModelIdentities)

/-- The key by which the variants of a stage are sorted: the texts of all dimensions, and the id of
the variant. -/
def variantKey (record : ModelMorphCapability) : List String ×ₗ String :=
  toLex (MorphDimension.all.map MorphDimension.value, record.variantId)

/-- The registered variants of the lineage of a stage that its policy permits. -/
def stageVariants (stage : MorphRequirement × StageModelIdentity) : List ModelMorphCapability :=
  sortOn variantKey (registry.records.filter fun record =>
    canonicalMorphLineageIdentity record = stage.2.2 ∧ Permits stage.1 record.dimension)

/-- The assignment of a variant to a stage. -/
def variantAssignment (stage : MorphRequirement × StageModelIdentity)
    (record : ModelMorphCapability) : MorphAssignment where
  stageId := stage.2.1
  provider := record.provider
  family := record.family
  baseModelId := record.baseModelId
  lineageId := record.lineageId
  sourceRevision := record.sourceRevision
  variantId := record.variantId
  dimension := record.dimension
  hardRequirementIds := stage.1.hardRequirementIds
  provenance := ["exact registered variant"]

/-- The draft of some assignments, with the identity of its content. -/
def draftOf (assignments : List MorphAssignment) : MorphProfileDraft :=
  let item : MorphProfileDraft := {
    profileId := "sha256:0000000000000000000000000000000000000000000000000000000000000000"
    compositionId := requirements.compositionId
    precisionProfileId := requirements.precisionProfileId
    assignments := assignments
    provenance := ["registered exact lineage variants enumerated deterministically"] }
  { item with profileId := item.morphProfileId digest }

/-- The drafts of all combinations of variants; there are none if a stage has no variant. -/
def iterMorphProfileDrafts : Except Fault (List MorphProfileDraft) := do
  let stages ← pairedStages requirements
  let options := stages.map (stageVariants registry)
  return if options.isEmpty || options.any List.isEmpty then []
    else (product options).map fun values =>
      draftOf digest requirements (List.zipWith variantAssignment stages values)

/-- The drafts up to a bound, after the ones that were kept, and whether one more was seen. -/
def boundedDrafts (bound : Nat) : List MorphProfileDraft → List MorphProfileDraft →
    List MorphProfileDraft × Bool
  | kept, [] => (kept, false)
  | kept, draft :: rest =>
      if bound ≤ kept.length then (kept, true) else boundedDrafts bound (kept ++ [draft]) rest

/-- Generate profiles up to a bound. -/
def generateMorphProfiles (maxProfiles : Int) (morphingRequired : Bool) :
    Except Fault MorphPhaseResult := do
  require (1 ≤ maxProfiles ∧ maxProfiles ≤ maxMorphProfiles)
    (.value "max_profiles must be within 1..128")
  let enumerated ← iterMorphProfileDrafts digest requirements registry
  let (drafts, truncated) := boundedDrafts maxProfiles.toNat [] enumerated
  let profiles : List MorphProfile := drafts.map fun draft =>
    { toMorphProfileDraft := draft, status := .valid, issues := [] }
  return {
    status := if profiles ≠ [] then .ready else if morphingRequired then .fail else .notApplicable
    validProfiles := profiles
    rejectedProfiles := []
    generationMetadata := {
      maxProfiles := maxProfiles
      emittedValidCount := profiles.length
      emittedRejectedCount := 0
      enumerationCompleted := !truncated
      truncated := truncated
      lowerBoundUniqueProfiles := if truncated then maxProfiles + 1 else profiles.length
      canonicalOrderDescription :=
        "stage order then canonical morph dimension order; reproducibility only" }
    issues := if profiles ≠ [] ∨ morphingRequired = false then []
      else [{
        issueId := "no_valid_morph"
        violatedInvariant := "availability"
        reason := "morphing required but no registered compatible variant exists" }] }

end Generation

/-! ## The variants of a stage -/

section Variants

variable {registry : ModelMorphCapabilityRegistry} {stage : MorphRequirement × StageModelIdentity}
  {record : ModelMorphCapability}

variable (registry stage) in
/-- A registered variant of the lineage of a stage that the policy of the stage permits. -/
structure IsVariant (record : ModelMorphCapability) : Prop where
  /-- The variant is registered. -/
  registered : record ∈ registry.records
  /-- Its lineage is that of the stage. -/
  lineage : canonicalMorphLineageIdentity record = stage.2.2
  /-- Its dimension is permitted. -/
  permitted : Permits stage.1 record.dimension

theorem mem_stageVariants_iff : record ∈ stageVariants registry stage ↔
    IsVariant registry stage record := by
  rw [stageVariants, mem_sortOn, List.mem_filter, decide_eq_true_eq]
  constructor
  · rintro ⟨registered, lineage, permitted⟩
    exact ⟨registered, lineage, permitted⟩
  · rintro ⟨registered, lineage, permitted⟩
    exact ⟨registered, lineage, permitted⟩

/-- Where a variant stands by the id that names it, and by the text of its dimension. -/
def namedKey (record : ModelMorphCapability) : String ×ₗ String :=
  toLex (record.variantId, record.dimension.printed)

/-- Where a variant stands in the canonical order: by its dimension, and by its id. -/
def canonicalKey (record : ModelMorphCapability) : Nat ×ₗ String :=
  toLex (record.dimension.order, record.variantId)

theorem sortKey_lt_iff {left right : ModelMorphCapability}
    (same : canonicalMorphLineageIdentity left = canonicalMorphLineageIdentity right) :
    left.sortKey < right.sortKey ↔ namedKey left < namedKey right := by
  rw [ModelMorphCapability.sortKey, ModelMorphCapability.sortKey, Prod.Lex.toLex_lt_toLex, same]
  simp [namedKey]

theorem variantKey_le_of_namedKey {left right : ModelMorphCapability}
    (before : namedKey left < namedKey right) : variantKey left ≤ variantKey right := by
  rw [namedKey, namedKey, Prod.Lex.toLex_lt_toLex] at before
  rw [variantKey, variantKey, Prod.Lex.toLex_le_toLex]
  refine .inr ⟨rfl, ?_⟩
  rcases before with earlier | ⟨same, _⟩
  · exact earlier.le
  · exact same.le

/-- The sort leaves the variants of a stage as they are registered: by the id that names a variant,
and by the text of its dimension. -/
theorem stageVariants_pairwise : (stageVariants registry stage).Pairwise fun left right =>
    namedKey left < namedKey right := by
  have registered : registry.records.Pairwise fun left right => left.sortKey < right.sortKey := by
    have apart := List.pairwise_map.mp registry.registered.unique
    refine (registry.registered.sorted.and apart).imp ?_
    rintro left right ⟨before, different⟩
    exact lt_of_le_of_ne before fun same =>
      different (ModelMorphCapability.identity_eq_of_sortKey same)
  have named : (registry.records.filter fun record => canonicalMorphLineageIdentity record =
      stage.2.2 ∧ Permits stage.1 record.dimension).Pairwise fun left right =>
        namedKey left < namedKey right := by
    refine (registered.filter _).imp_of_mem fun leftMember rightMember before => ?_
    have left := of_decide_eq_true (List.mem_filter.mp leftMember).2
    have right := of_decide_eq_true (List.mem_filter.mp rightMember).2
    exact (sortKey_lt_iff (left.1.trans right.1.symm)).mp before
  rw [stageVariants, sortOn_eq_self variantKey (named.imp variantKey_le_of_namedKey)]
  exact named

variable (registry stage) in
/-- Of any two variants of a stage, the one that is named first comes first in the canonical
order. -/
def InDimensionOrder : Prop :=
  ∀ left right, IsVariant registry stage left → IsVariant registry stage right →
    namedKey left < namedKey right → canonicalKey left < canonicalKey right

theorem pairwise_canonicalKey_iff : ((stageVariants registry stage).Pairwise fun left right =>
      canonicalKey left < canonicalKey right) ↔ InDimensionOrder registry stage := by
  constructor
  · intro ordered left right isLeft isRight before
    let agrees (first second : ModelMorphCapability) : Prop :=
      (namedKey first < namedKey second → canonicalKey first < canonicalKey second) ∧
        (namedKey second < namedKey first → canonicalKey second < canonicalKey first)
    have symmetric : Std.Symm agrees := ⟨fun _ _ => And.symm⟩
    have agree : (stageVariants registry stage).Pairwise agrees := by
      refine (stageVariants_pairwise.and ordered).imp ?_
      rintro first second ⟨named, canonical⟩
      exact ⟨fun _ => canonical, fun later => absurd later named.asymm⟩
    have different : left ≠ right := fun same => (same ▸ before).ne rfl
    exact (agree.forall (mem_stageVariants_iff.mpr isLeft) (mem_stageVariants_iff.mpr isRight)
      different).1 before
  · intro inOrder
    refine stageVariants_pairwise.imp_of_mem fun leftMember rightMember before => ?_
    exact inOrder _ _ (mem_stageVariants_iff.mp leftMember) (mem_stageVariants_iff.mp rightMember)
      before

end Variants

/-! ## What is enumerated -/

section Enumeration

variable {digest : Digest} {requirements : StageMorphRequirementSet}
  {registry : ModelMorphCapabilityRegistry}

/-- The stages of a set, each with its requirement. -/
def stages (requirements : StageMorphRequirementSet) :
    List (MorphRequirement × StageModelIdentity) :=
  requirements.requirements.zip requirements.stageModelIdentities

/-- There is one requirement for each stage. -/
def Paired (requirements : StageMorphRequirementSet) : Prop :=
  requirements.requirements.length = requirements.stageModelIdentities.length

variable (registry) in
/-- An assignment of a permitted variant to a stage. -/
structure IsChoice (assignment : MorphAssignment)
    (stage : MorphRequirement × StageModelIdentity) : Prop where
  /-- The assignment is for the stage. -/
  stageId : assignment.stageId = stage.2.1
  /-- It names a registered variant of the lineage of the stage that its policy permits. -/
  variant : ∃ record, IsVariant registry stage record ∧ assignment.variant = record.identity
  /-- The hard requirements are those of the stage. -/
  requirements : assignment.hardRequirementIds = stage.1.hardRequirementIds
  /-- The assignment rests on the registry. -/
  provenance : assignment.provenance = ["exact registered variant"]

variable (digest requirements registry) in
/-- A combination of one permitted variant for each stage; there is at least one stage. -/
structure IsCombination (draft : MorphProfileDraft) : Prop where
  /-- There is a stage. -/
  nonempty : stages requirements ≠ []
  /-- Each stage is assigned a variant, in the order of stages. -/
  choices : List.Forall₂ (IsChoice registry) draft.assignments (stages requirements)
  /-- The draft is for the composition, under the precision profile. -/
  belongs : draft.compositionId = requirements.compositionId ∧
    draft.precisionProfileId = requirements.precisionProfileId
  /-- The identity is that of the content. -/
  addressed : draft.profileId = draft.morphProfileId digest
  /-- The draft rests on the enumeration. -/
  provenance : draft.provenance = ["registered exact lineage variants enumerated deterministically"]

theorem isChoice_iff {assignment : MorphAssignment}
    {stage : MorphRequirement × StageModelIdentity} :
    IsChoice registry assignment stage ↔
      ∃ record, IsVariant registry stage record ∧ variantAssignment stage record = assignment := by
  constructor
  · rintro ⟨stageId, ⟨record, isVariant, variant⟩, hard, provenance⟩
    refine ⟨record, isVariant, ?_⟩
    obtain ⟨_, _, _, _, _, _, _, _, _, _⟩ := assignment
    simp only [MorphAssignment.variant, MorphAssignment.lineage, ModelMorphCapability.identity,
      canonicalMorphLineageIdentity, lineageIdentity, Prod.mk.injEq, toLex_inj] at variant
    obtain ⟨⟨rfl, rfl, rfl, rfl, rfl⟩, rfl, rfl⟩ := variant
    obtain rfl := stageId
    obtain rfl := hard
    obtain rfl := provenance
    rfl
  · rintro ⟨record, isVariant, rfl⟩
    exact ⟨rfl, ⟨record, isVariant, rfl⟩, rfl, rfl⟩

theorem forall₂_isChoice_iff {assignments : List MorphAssignment}
    {stages : List (MorphRequirement × StageModelIdentity)} :
    List.Forall₂ (IsChoice registry) assignments stages ↔
      ∃ values, List.Forall₂ (fun record stage => IsVariant registry stage record) values stages ∧
        List.zipWith variantAssignment stages values = assignments := by
  induction stages generalizing assignments with
  | nil =>
      simp only [List.forall₂_nil_right_iff, List.zipWith_nil_left]
      exact ⟨fun empty => ⟨[], rfl, empty.symm⟩, fun ⟨_, _, empty⟩ => empty.symm⟩
  | cons stage stages induction =>
      simp only [List.forall₂_cons_right_iff, isChoice_iff, induction]
      constructor
      · rintro ⟨_, _, ⟨record, isVariant, rfl⟩, ⟨values, areVariants, rfl⟩, rfl⟩
        exact ⟨record :: values, ⟨record, values, isVariant, areVariants, rfl⟩, rfl⟩
      · rintro ⟨_, ⟨record, values, isVariant, areVariants, rfl⟩, rfl⟩
        exact ⟨_, _, ⟨record, isVariant, rfl⟩, ⟨values, areVariants, rfl⟩, rfl⟩

/-- The variants that are combined: none without a stage. -/
def combinations (requirements : StageMorphRequirementSet)
    (registry : ModelMorphCapabilityRegistry) : List (List ModelMorphCapability) :=
  if stages requirements = [] then []
  else product ((stages requirements).map (stageVariants registry))

variable (digest requirements) in
/-- The draft of a combination of variants. -/
def combinationDraft (values : List ModelMorphCapability) : MorphProfileDraft :=
  draftOf digest requirements (List.zipWith variantAssignment (stages requirements) values)

theorem pairedStages_of_paired (paired : Paired requirements) :
    pairedStages requirements = .ok (stages requirements) := by
  rw [pairedStages, if_neg paired.not_gt, if_neg paired.not_lt]
  rfl

theorem paired_of_pairedStages {given : List (MorphRequirement × StageModelIdentity)}
    (returned : pairedStages requirements = .ok given) : Paired requirements := by
  unfold pairedStages at returned
  split at returned
  · contradiction
  · next notShorter =>
      split at returned
      · contradiction
      · next notLonger => exact le_antisymm (not_lt.mp notShorter) (not_lt.mp notLonger)

theorem iterMorphProfileDrafts_of_paired (paired : Paired requirements) :
    iterMorphProfileDrafts digest requirements registry =
      .ok ((combinations requirements registry).map (combinationDraft digest requirements)) := by
  have lacks : (((stages requirements).map (stageVariants registry)).isEmpty ||
      ((stages requirements).map (stageVariants registry)).any List.isEmpty) = true ↔
        stages requirements = [] ∨ [] ∈ (stages requirements).map (stageVariants registry) := by
    rw [Bool.or_eq_true, List.isEmpty_iff, List.map_eq_nil_iff, List.any_eq_true]
    simp only [List.isEmpty_iff, exists_eq_right]
  simp only [iterMorphProfileDrafts, pairedStages_of_paired paired, ok_bind, pure_eq_ok,
    Except.ok.injEq, lacks, combinations]
  by_cases none : stages requirements = []
  · rw [if_pos (.inl none), if_pos none, List.map_nil]
  · rw [if_neg none]
    by_cases lacking : [] ∈ (stages requirements).map (stageVariants registry)
    · rw [if_pos (.inr lacking), product_eq_nil_of_mem lacking, List.map_nil]
    · rw [if_neg (not_or.mpr ⟨none, lacking⟩)]
      rfl

theorem mem_combinations_iff {values : List ModelMorphCapability} :
    values ∈ combinations requirements registry ↔ stages requirements ≠ [] ∧
      List.Forall₂ (fun record stage => IsVariant registry stage record) values
        (stages requirements) := by
  have listed : List.Forall₂ (fun stage options => ∀ record, record ∈ options ↔
      IsVariant registry stage record) (stages requirements)
        ((stages requirements).map (stageVariants registry)) :=
    List.forall₂_map_right_iff.mpr
      (List.forall₂_same.mpr fun _ _ _ => mem_stageVariants_iff)
  by_cases none : stages requirements = []
  · simp [combinations, none]
  · rw [combinations, if_neg none, mem_product_iff_of listed]
    exact (and_iff_right none).symm

theorem mem_drafts_iff {draft : MorphProfileDraft} :
    draft ∈ (combinations requirements registry).map (combinationDraft digest requirements) ↔
      IsCombination digest requirements registry draft := by
  simp only [List.mem_map, mem_combinations_iff]
  constructor
  · rintro ⟨values, ⟨nonempty, variants⟩, rfl⟩
    exact ⟨nonempty, forall₂_isChoice_iff.mpr ⟨values, variants, rfl⟩, ⟨rfl, rfl⟩, rfl, rfl⟩
  · rintro ⟨nonempty, choices, ⟨composition, precision⟩, addressed, provenance⟩
    obtain ⟨values, variants, assigned⟩ := forall₂_isChoice_iff.mp choices
    refine ⟨values, ⟨nonempty, variants⟩, ?_⟩
    have named : (combinationDraft digest requirements values).profileId = draft.profileId := by
      rw [addressed, MorphProfileDraft.morphProfileId,
        MorphProfileDraft.canonicalMorphProfilePayload, composition, precision, ← assigned]
      rfl
    obtain ⟨_, _, _, _, _⟩ := draft
    obtain rfl := assigned
    obtain rfl := composition
    obtain rfl := precision
    obtain rfl := provenance
    obtain rfl := named
    rfl

/-! ## The order of drafts -/

/-- Where an assignment stands in the canonical order. -/
def MorphAssignment.canonicalKey (assignment : MorphAssignment) : Nat ×ₗ String :=
  toLex (assignment.dimension.order, assignment.variantId)

/-- Of two drafts, the first comes first by stages, and within a stage by the dimension and then
the id of the variant. -/
def Precedes (left right : MorphProfileDraft) : Prop :=
  List.Lex (· < ·) (left.assignments.map MorphAssignment.canonicalKey)
    (right.assignments.map MorphAssignment.canonicalKey)

theorem not_precedes_self (draft : MorphProfileDraft) : ¬ Precedes draft draft :=
  not_lex_self (fun _ => lt_irrefl _) _

theorem canonicalKeys_combinationDraft {values : List ModelMorphCapability}
    (member : values ∈ combinations requirements registry) :
    (combinationDraft digest requirements values).assignments.map MorphAssignment.canonicalKey =
      values.map canonicalKey := by
  have length := (mem_combinations_iff.mp member).2.length_eq
  have keys (stages : List (MorphRequirement × StageModelIdentity))
      (values : List ModelMorphCapability) (enough : values.length ≤ stages.length) :
      (List.zipWith variantAssignment stages values).map MorphAssignment.canonicalKey =
        values.map canonicalKey := by
    induction stages generalizing values with
    | nil => rw [List.length_eq_zero_iff.mp (Nat.le_zero.mp enough), List.zipWith_nil_left]; rfl
    | cons stage stages induction =>
        cases values with
        | nil => rfl
        | cons value values =>
            have rest := induction values (Nat.succ_le_succ_iff.mp enough)
            rw [List.zipWith_cons_cons, List.map_cons, List.map_cons, rest]
            rfl
  exact keys _ _ length.le

/-- Some stage has no permitted variant. -/
def Lacking (requirements : StageMorphRequirementSet) (registry : ModelMorphCapabilityRegistry) :
    Prop :=
  ∃ stage ∈ stages requirements, ∀ record, ¬ IsVariant registry stage record

theorem nil_mem_iff_lacking :
    [] ∈ (stages requirements).map (stageVariants registry) ↔ Lacking requirements registry := by
  simp only [List.mem_map, List.eq_nil_iff_forall_not_mem, mem_stageVariants_iff, Lacking]

/-- The drafts stand in the canonical order exactly where some stage has no variant, or the variants
of each stage are named in that order. -/
theorem pairwise_precedes_iff :
    ((combinations requirements registry).map (combinationDraft digest requirements)).Pairwise
        Precedes ↔
      Lacking requirements registry ∨
        ∀ stage ∈ stages requirements, InDimensionOrder registry stage := by
  have keyed : ((combinations requirements registry).map
      (combinationDraft digest requirements)).Pairwise Precedes ↔
        ((combinations requirements registry).map (List.map canonicalKey)).Pairwise
          (List.Lex (· < ·)) := by
    rw [List.pairwise_map, List.pairwise_map]
    refine List.Pairwise.iff_of_mem fun leftMember rightMember => ?_
    rw [Precedes, canonicalKeys_combinationDraft leftMember,
      canonicalKeys_combinationDraft rightMember]
  rw [keyed]
  by_cases none : stages requirements = []
  · simp [combinations, none]
  · rw [combinations, if_neg none, ← product_map, product_pairwise_iff fun _ => lt_irrefl _,
      List.forall_mem_map, List.forall_mem_map]
    refine or_congr ?_ (forall₂_congr fun stage _ => ?_)
    · rw [← nil_mem_iff_lacking]
      simp only [List.mem_map, List.map_eq_nil_iff, exists_exists_and_eq_and]
    · rw [List.pairwise_map, pairwise_canonicalKey_iff]

/-! ## Bounded generation -/

theorem boundedDrafts_eq {bound : Nat} {kept rest : List MorphProfileDraft}
    (within : kept.length ≤ bound) :
    boundedDrafts bound kept rest =
      (kept ++ rest.take (bound - kept.length), decide (bound < kept.length + rest.length)) := by
  induction rest generalizing kept with
  | nil =>
      rw [boundedDrafts, List.take_nil, List.append_nil, List.length_nil, Nat.add_zero,
        decide_eq_false within.not_gt]
  | cons draft rest induction =>
      rw [boundedDrafts]
      split
      · next full =>
          have more : bound < kept.length + (draft :: rest).length := by
            rw [List.length_cons]
            omega
          rw [Nat.sub_eq_zero_of_le full, List.take_zero, List.append_nil, decide_eq_true more]
      · next room =>
          have longer : (kept ++ [draft]).length ≤ bound := by
            rw [List.length_append, List.length_singleton]
            omega
          have left : bound - kept.length = bound - (kept ++ [draft]).length + 1 := by
            rw [List.length_append, List.length_singleton]
            omega
          rw [induction longer, left, List.take_succ_cons, List.append_assoc]
          simp only [List.cons_append, List.nil_append, List.length_append, List.length_cons,
            List.length_nil, Nat.zero_add, Prod.mk.injEq, true_and, decide_eq_decide]
          omega

/-- What a generation emits of the drafts that are enumerated. -/
structure Emits (drafts : List MorphProfileDraft) (maxProfiles : Int) (emitted : MorphPhaseResult) :
    Prop where
  /-- The first of them, up to the bound. -/
  first : emitted.validProfiles.map MorphProfile.toMorphProfileDraft =
    drafts.take maxProfiles.toNat
  /-- Each is valid, without an issue. -/
  clear : ∀ profile ∈ emitted.validProfiles, profile.status = .valid ∧ profile.issues = []
  /-- Nothing is rejected. -/
  none_rejected : emitted.rejectedProfiles = []
  /-- Truncation is reported exactly when there are more. -/
  truncated_iff : emitted.generationMetadata.truncated = true ↔ maxProfiles.toNat < drafts.length

theorem exists_generated {drafts : List MorphProfileDraft}
    (enumerated : iterMorphProfileDrafts digest requirements registry = .ok drafts)
    {maxProfiles : Int} (certified : 1 ≤ maxProfiles ∧ maxProfiles ≤ maxMorphProfiles)
    (morphingRequired : Bool) :
    ∃ emitted, generateMorphProfiles digest requirements registry maxProfiles morphingRequired =
      .ok emitted ∧ Emits drafts maxProfiles emitted := by
  have bounded := @boundedDrafts_eq maxProfiles.toNat [] drafts (Nat.zero_le _)
  simp only [generateMorphProfiles, require_of_true certified, enumerated, ok_bind, bounded]
  refine ⟨_, rfl, ?_, ?_, rfl, ?_⟩
  · simp only [List.map_map, Function.comp_def, List.map_id', List.nil_append, List.length_nil,
      Nat.sub_zero]
  · intro profile member
    obtain ⟨draft, _, rfl⟩ := List.mem_map.mp member
    exact ⟨rfl, rfl⟩
  · simp only [decide_eq_true_eq, List.length_nil, Nat.zero_add]

/-- Only a certified bound is accepted. -/
theorem certified_of_generated {maxProfiles : Int} {morphingRequired : Bool}
    {emitted : MorphPhaseResult}
    (generated : generateMorphProfiles digest requirements registry maxProfiles morphingRequired =
      .ok emitted) : 1 ≤ maxProfiles ∧ maxProfiles ≤ maxMorphProfiles := by
  obtain ⟨_, certified, _⟩ := bind_eq_ok.mp generated
  exact require_eq_ok.mp certified

theorem MorphProfile.ext_draft {left right : MorphProfile}
    (drafts : left.toMorphProfileDraft = right.toMorphProfileDraft)
    (leftClear : left.status = .valid ∧ left.issues = [])
    (rightClear : right.status = .valid ∧ right.issues = []) : left = right := by
  obtain ⟨_, _, _⟩ := left
  obtain ⟨_, _, _⟩ := right
  obtain ⟨rfl, rfl⟩ := leftClear
  obtain ⟨rfl, rfl⟩ := rightClear
  obtain rfl := drafts
  rfl

theorem Emits.validProfiles_eq {drafts : List MorphProfileDraft} {maxProfiles : Int}
    {emitted : MorphPhaseResult} (emits : Emits drafts maxProfiles emitted) :
    emitted.validProfiles = (drafts.take maxProfiles.toNat).map fun draft =>
      { toMorphProfileDraft := draft, status := .valid, issues := [] } := by
  rw [← emits.first, List.map_map]
  refine (List.map_id _).symm.trans (List.map_congr_left fun profile member => ?_)
  exact MorphProfile.ext_draft rfl (emits.clear profile member) ⟨rfl, rfl⟩

/-- What is emitted under a bound comes first under every larger one. -/
theorem Emits.initial {drafts : List MorphProfileDraft} {smaller larger : Int}
    {few many : MorphPhaseResult} (fewEmitted : Emits drafts smaller few)
    (manyEmitted : Emits drafts larger many) (ordered : smaller ≤ larger) :
    few.validProfiles <+: many.validProfiles := by
  rw [fewEmitted.validProfiles_eq, manyEmitted.validProfiles_eq]
  exact (List.take_prefix_take_left (Int.toNat_le_toNat ordered)).map _

/-! ## The law of generation -/

variable (digest requirements registry) in
/-- What is promised of the drafts that are enumerated. -/
structure GenerationLaw (drafts : List MorphProfileDraft) : Prop where
  /-- The drafts are the combinations of one permitted variant for each stage. -/
  exact_combinations : ∀ draft, draft ∈ drafts ↔
    IsCombination digest requirements registry draft
  /-- Each stands once. -/
  once : drafts.Nodup
  /-- They come by stages, and within a stage by dimensions and the ids of variants. -/
  ordered : drafts.Pairwise Precedes
  /-- The order of the registrations does not matter. -/
  independent : ∀ values others : List ModelMorphCapability, values.Perm others →
    canonicalRecords values = .ok registry.records →
      ∃ other : ModelMorphCapabilityRegistry, canonicalRecords others = .ok other.records ∧
        iterMorphProfileDrafts digest requirements other = .ok drafts
  /-- Under a certified bound the first of them are emitted. -/
  emits : ∀ (maxProfiles : Int) (morphingRequired : Bool),
    1 ≤ maxProfiles ∧ maxProfiles ≤ maxMorphProfiles →
      ∃ emitted, generateMorphProfiles digest requirements registry maxProfiles morphingRequired =
        .ok emitted ∧ Emits drafts maxProfiles emitted
  /-- What a smaller bound emits comes first under a larger one. -/
  grows : ∀ (smaller larger : Int) (morphingRequired : Bool) (few many : MorphPhaseResult),
    smaller ≤ larger →
      generateMorphProfiles digest requirements registry smaller morphingRequired = .ok few →
      generateMorphProfiles digest requirements registry larger morphingRequired = .ok many →
      few.validProfiles <+: many.validProfiles

theorem generationLaw_of_ordered {drafts : List MorphProfileDraft}
    (enumerated : iterMorphProfileDrafts digest requirements registry = .ok drafts)
    (members : ∀ draft, draft ∈ drafts ↔ IsCombination digest requirements registry draft)
    (ordered : drafts.Pairwise Precedes) : GenerationLaw digest requirements registry drafts := by
  constructor
  case exact_combinations => exact members
  case once =>
    refine ordered.imp fun before same => ?_
    exact not_precedes_self _ (same ▸ before)
  case ordered => exact ordered
  case independent =>
    intro values others perm accepted
    exact ⟨registry, canonicalRecords_perm perm accepted, enumerated⟩
  case emits => exact fun _ required certified => exists_generated enumerated certified required
  case grows =>
    intro smaller larger required few many order fewGenerated manyGenerated
    obtain ⟨_, fewSame, fewEmitted⟩ :=
      exists_generated enumerated (certified_of_generated fewGenerated) required
    obtain ⟨_, manySame, manyEmitted⟩ :=
      exists_generated enumerated (certified_of_generated manyGenerated) required
    obtain rfl := Except.ok.inj (fewSame.symm.trans fewGenerated)
    obtain rfl := Except.ok.inj (manySame.symm.trans manyGenerated)
    exact fewEmitted.initial manyEmitted order

/-- The enumeration answers where requirements and stages are paired, and then keeps the law exactly
where a stage has no variant, or the variants of each stage are named in the order of dimensions. -/
theorem generation_iff (digest : Digest) (requirements : StageMorphRequirementSet)
    (registry : ModelMorphCapabilityRegistry) :
    ((Paired requirements →
        ∃ drafts, iterMorphProfileDrafts digest requirements registry = .ok drafts) ∧
      ∀ drafts, iterMorphProfileDrafts digest requirements registry = .ok drafts →
        GenerationLaw digest requirements registry drafts) ↔
      ¬ Paired requirements ∨ Lacking requirements registry ∨
        ∀ stage ∈ stages requirements, InDimensionOrder registry stage := by
  constructor
  · rintro ⟨_, law⟩
    refine or_iff_not_imp_left.mpr fun paired => ?_
    have returned := @iterMorphProfileDrafts_of_paired digest requirements registry
      (not_not.mp paired)
    exact pairwise_precedes_iff.mp (law _ returned).ordered
  · intro condition
    refine ⟨fun paired => ⟨_, iterMorphProfileDrafts_of_paired paired⟩, fun drafts returned => ?_⟩
    have paired : Paired requirements := by
      obtain ⟨_, isPaired, _⟩ := bind_eq_ok.mp returned
      exact paired_of_pairedStages isPaired
    have inOrder := condition.resolve_left (not_not.mpr paired)
    obtain rfl := Except.ok.inj ((iterMorphProfileDrafts_of_paired paired).symm.trans returned)
    exact generationLaw_of_ordered returned (fun _ => mem_drafts_iff)
      (pairwise_precedes_iff.mpr inOrder)

/-! ## Validation of what is generated -/

/-- Every requirement is the one of its stage, and no stage is listed twice. -/
structure Aligned (requirements : StageMorphRequirementSet) : Prop where
  /-- There is one requirement for each stage. -/
  paired : Paired requirements
  /-- It is the requirement of the stage. -/
  own : ∀ stage ∈ stages requirements, stage.1.stageId = stage.2.1
  /-- Stages are listed once. -/
  distinct : (requirements.stageModelIdentities.map Prod.fst).Nodup

theorem certified_of_isCombination {draft : MorphProfileDraft} (aligned : Aligned requirements)
    (combination : IsCombination digest requirements registry draft) :
    Certified draft registry requirements := by
  have chosen {assignment : MorphAssignment} (member : assignment ∈ draft.assignments) :
      ∃ stage ∈ stages requirements, IsChoice registry assignment stage :=
    exists_of_forall₂ combination.choices member
  have stageIds : draft.stageIds = requirements.stageModelIdentities.map Prod.fst := by
    have same : draft.assignments.map MorphAssignment.stageId =
        (stages requirements).map fun stage => stage.2.1 := by
      rw [← List.forall₂_eq_eq_eq, List.forall₂_map_left_iff, List.forall₂_map_right_iff]
      exact combination.choices.imp fun _ _ choice => choice.stageId
    have entries : (stages requirements).map Prod.snd = requirements.stageModelIdentities :=
      List.map_snd_zip aligned.paired.ge
    rw [MorphProfileDraft.stageIds, same, ← entries, List.map_map]
    rfl
  constructor
  case belongs => exact Prod.ext combination.belongs.1 combination.belongs.2
  case once =>
    intro stage member
    rw [stageIds]
    exact List.count_eq_one_of_mem aligned.distinct (List.mem_map_of_mem member)
  case lineages =>
    intro assignment member
    obtain ⟨stage, isStage, choice⟩ := chosen member
    obtain ⟨record, isVariant, named⟩ := choice.variant
    have lineage : assignment.lineage = stage.2.2 :=
      (congrArg Prod.fst named).trans isVariant.lineage
    rw [choice.stageId, lineage]
    exact (List.of_mem_zip isStage).2
  case registered =>
    intro assignment member
    obtain ⟨_, _, choice⟩ := chosen member
    obtain ⟨record, isVariant, named⟩ := choice.variant
    exact named ▸ List.mem_map_of_mem isVariant.registered
  case permitted =>
    intro assignment member
    obtain ⟨stage, isStage, choice⟩ := chosen member
    obtain ⟨record, isVariant, named⟩ := choice.variant
    have dimension : assignment.dimension = record.dimension :=
      congrArg (fun variant : VariantIdentity => variant.2.2) named
    refine ⟨stage.1, (List.of_mem_zip isStage).1, ?_, dimension ▸ isVariant.permitted⟩
    rw [aligned.own stage isStage, choice.stageId]

theorem enumerated_sound {drafts : List MorphProfileDraft} (aligned : Aligned requirements)
    (enumerated : iterMorphProfileDrafts digest requirements registry = .ok drafts)
    {draft : MorphProfileDraft} (member : draft ∈ drafts) :
    (validateMorphProfile digest draft registry requirements).status = .valid ∧
      Sound draft registry requirements := by
  rw [iterMorphProfileDrafts_of_paired aligned.paired, Except.ok.injEq] at enumerated
  have combination := mem_drafts_iff.mp (enumerated ▸ member)
  exact ⟨(status_valid_iff digest).mpr combination.addressed,
    sound_iff_certified.mpr (certified_of_isCombination aligned combination)⟩

end Enumeration

/-! ## A wide variant before a deep one -/

section Sample

/-- A variant of the lineage of the one stage. -/
def variantOf (variantId : String) (visible : Text.Nonblank variantId)
    (dimension : MorphDimension) : ModelMorphCapability where
  provider := "p"
  family := "f"
  baseModelId := "m"
  lineageId := "l"
  sourceRevision := "1"
  variantId := variantId
  dimension := dimension
  provenance := ["e"]
  texts_nonblank := by
    have names : ∀ text ∈ ["p", "f", "m", "l", "1"], Text.Nonblank text := by decide
    exact List.forall_mem_append.mpr ⟨names, List.forall_mem_singleton.mpr visible⟩

/-- A wide variant. -/
def wideVariant : ModelMorphCapability := variantOf "a" (Text.nonblank_literal rfl) .width

/-- A deep variant, whose id comes later. -/
def deepVariant : ModelMorphCapability := variantOf "b" (Text.nonblank_literal rfl) .depth

theorem wideVariant_named_first : namedKey wideVariant < namedKey deepVariant := by
  rw [namedKey, namedKey, Prod.Lex.toLex_lt_toLex]
  exact .inl (by decide)

theorem twoVariants_registered : Registry.Registered ModelMorphCapability.sortKey
    ModelMorphCapability.identity [wideVariant, deepVariant] where
  unique := by decide
  sorted := by
    have lineages : canonicalMorphLineageIdentity wideVariant =
        canonicalMorphLineageIdentity deepVariant := rfl
    exact List.pairwise_pair.mpr ((sortKey_lt_iff lineages).mpr wideVariant_named_first).le

/-- A registry of the two variants. -/
def twoVariants : ModelMorphCapabilityRegistry := ⟨_, twoVariants_registered⟩

theorem wideVariant_isVariant : IsVariant twoVariants (noExperts, "s", sampleLineage) wideVariant :=
  ⟨List.mem_cons_self, rfl, by decide⟩

theorem deepVariant_isVariant : IsVariant twoVariants (noExperts, "s", sampleLineage) deepVariant :=
  ⟨List.mem_cons_of_mem _ (List.mem_singleton_self _), rfl, by decide⟩

/-- The wide variant is enumerated before the deep one: the key of the sort does not depend on the
dimension. -/
theorem wide_before_deep :
    ¬ ∀ (digest : Digest) (requirements : StageMorphRequirementSet)
        (registry : ModelMorphCapabilityRegistry),
      (Paired requirements →
          ∃ drafts, iterMorphProfileDrafts digest requirements registry = .ok drafts) ∧
        ∀ drafts, iterMorphProfileDrafts digest requirements registry = .ok drafts →
          GenerationLaw digest requirements registry drafts := by
  intro law
  have paired : Paired oneStage := rfl
  have returned := @iterMorphProfileDrafts_of_paired Digest.sha256 oneStage twoVariants paired
  have ordered := ((law _ _ _).2 _ returned).ordered
  rcases pairwise_precedes_iff.mp ordered with ⟨stage, certified, lacking⟩ | inOrder
  · obtain rfl := List.mem_singleton.mp certified
    exact lacking wideVariant wideVariant_isVariant
  · have first := inOrder _ (List.mem_singleton_self _) _ _ wideVariant_isVariant
      deepVariant_isVariant wideVariant_named_first
    rw [canonicalKey, canonicalKey, Prod.Lex.toLex_lt_toLex] at first
    exact absurd first (by decide)

end Sample

end Morphing
end MercuryX
