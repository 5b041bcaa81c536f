import MercuryX.Foundation.Dict
import MercuryX.Precision.Generation

/-!
# Derivation of precision requirements

The requirements of the stages of a certified composition, derived from explicit policies. A stage
without a policy is not restricted; a policy is kept, and the modes that its flags forbid are
denied by name as well. The profiles that are generated from derived requirements are described by
the composition and the policies as they were given.
-/

namespace MercuryX
namespace Precision

open Foundation
open MercuryX.Composition (CompositionCandidate CompositionNode)

/-! ## Requests -/

/-- The fields of a request: a certified composition and the policies of some of its stages. -/
structure DerivationFields where
  composition : CompositionCandidate
  explicitRequirements : List PrecisionRequirement := []

namespace DerivationFields

/-- The stages of the policies. -/
def policyStages (fields : DerivationFields) : List String :=
  fields.explicitRequirements.map PrecisionRequirement.stageId

/-- What the contract asks of a request. -/
structure Valid (fields : DerivationFields) : Prop where
  /-- There is one policy for a stage. -/
  policies_nodup : fields.policyStages.Nodup
  /-- The composition passed its validation. -/
  composition_valid : fields.composition.validity = .valid
  /-- There is a stage. -/
  stages_nonempty : fields.composition.stageIds ≠ []
  /-- No stage is repeated. -/
  stages_nodup : fields.composition.stageIds.Nodup
  /-- Policies are for stages of the composition. -/
  policies_declared : ∀ stage ∈ fields.policyStages, stage ∈ fields.composition.stageIds

/-- The constraints on a request. -/
def check (fields : DerivationFields) : Except Fault Unit := do
  let contract := "PrecisionRequirementDerivationRequest"
  rule contract "explicit_requirements" fields.policyStages.Nodup
    "explicit requirements may contain only one policy per stage"
  rule contract "" (fields.composition.validity = .valid)
    "precision derivation requires a valid certified composition"
  rule contract "" (fields.composition.stageIds ≠ [] ∧ fields.composition.stageIds.Nodup)
    "composition stages must be nonempty and unique"
  rule contract "" (∀ stage ∈ fields.policyStages, stage ∈ fields.composition.stageIds)
    "explicit precision requirement references an undeclared composition stage"

theorem check_eq_ok_iff {fields : DerivationFields} {done : Unit} :
    fields.check = .ok done ↔ fields.Valid := by
  simp only [check, bind_eq_ok, rule_eq_ok, exists_and_left, exists_const]
  constructor
  · rintro ⟨policies, valid, ⟨nonempty, stages⟩, declared⟩
    exact ⟨policies, valid, nonempty, stages, declared⟩
  · rintro ⟨policies, valid, nonempty, stages, declared⟩
    exact ⟨policies, valid, ⟨nonempty, stages⟩, declared⟩

end DerivationFields

/-- A certified composition with one policy for some of its stages. -/
structure PrecisionRequirementDerivationRequest extends DerivationFields where
  /-- The contract holds. -/
  valid : toDerivationFields.Valid
  /-- Policies stand in the order of their stages. -/
  policies_sorted :
    sortOn PrecisionRequirement.stageId explicitRequirements = explicitRequirements

namespace PrecisionRequirementDerivationRequest

/-- The request that valid fields make: its policies are put in the order of their stages. -/
def make (fields : DerivationFields) (valid : fields.Valid) :
    PrecisionRequirementDerivationRequest where
  composition := fields.composition
  explicitRequirements := sortOn PrecisionRequirement.stageId fields.explicitRequirements
  valid :=
    have stages : ((sortOn PrecisionRequirement.stageId fields.explicitRequirements).map
        PrecisionRequirement.stageId).Perm fields.policyStages := (sortOn_perm _ _).map _
    { policies_nodup := stages.nodup_iff.mpr valid.policies_nodup
      composition_valid := valid.composition_valid
      stages_nonempty := valid.stages_nonempty
      stages_nodup := valid.stages_nodup
      policies_declared := fun stage member =>
        valid.policies_declared stage (stages.mem_iff.mp member) }
  policies_sorted := sortOn_eq_self _ (sortOn_pairwise _ _)

/-- Construct a request. -/
def construct (fields : DerivationFields) :
    Except Fault PrecisionRequirementDerivationRequest :=
  checked DerivationFields.check DerivationFields.check_eq_ok_iff make fields

theorem construct_eq_ok_iff {fields : DerivationFields}
    {request : PrecisionRequirementDerivationRequest} :
    construct fields = .ok request ↔ ∃ valid, make fields valid = request :=
  checked_eq_ok_iff

end PrecisionRequirementDerivationRequest

/-! ## Derivation -/

/-- The modes that a policy denies, with those that its flags forbid. -/
def deniedModes (explicit : PrecisionRequirement) : List PrecisionMode :=
  let denied := explicit.deniedModes ++
    (if explicit.reducedPrecisionForbidden then [.bf16, .fp16, .int8] else []) ++
    if explicit.quantizationForbidden then [.int8] else []
  PrecisionMode.all.filter fun mode => mode ∈ denied

theorem mem_deniedModes {explicit : PrecisionRequirement} {mode : PrecisionMode} :
    mode ∈ deniedModes explicit ↔ mode ∈ explicit.deniedModes ∨
      (explicit.reducedPrecisionForbidden = true ∧ mode ≠ .fp32) ∨
        (explicit.quantizationForbidden = true ∧ mode = .int8) := by
  have reduced : mode ∈ [PrecisionMode.bf16, .fp16, .int8] ↔ mode ≠ .fp32 := by
    cases mode <;> decide
  simp only [deniedModes, List.mem_filter, PrecisionMode.mem_all, true_and, decide_eq_true_eq,
    List.mem_append, List.mem_ite_nil_right, reduced, List.mem_singleton, or_assoc]

theorem canonical_deniedModes (explicit : PrecisionRequirement) :
    canonical PrecisionMode.order (deniedModes explicit) = deniedModes explicit := by
  have sorted : (deniedModes explicit).Pairwise fun left right => left.order < right.order := by
    rw [deniedModes]
    exact PrecisionMode.all_sorted.filter _
  exact canonical_eq_self _ (sorted.imp fun ordered same => ordered.ne (congrArg _ same))
    (sorted.imp fun ordered => ordered.le)

/-- A policy that denies by name what its flags forbid. -/
def restrictedRequirement (explicit : PrecisionRequirement) : PrecisionRequirement :=
  { explicit with
    deniedModes := deniedModes explicit
    modes_canonical := by
      intro modes member
      simp only [List.mem_cons, List.not_mem_nil, or_false] at member
      rcases member with rfl | rfl
      · exact explicit.modes_canonical _ List.mem_cons_self
      · exact canonical_deniedModes explicit }

theorem unrestricted_modes : ∀ modes ∈ [([] : List PrecisionMode), []],
    canonical PrecisionMode.order modes = modes := by
  decide

/-- The requirement of a stage that has no policy. -/
def unrestrictedRequirement (composition : CompositionCandidate) (node : CompositionNode) :
    PrecisionRequirement where
  requirementId := "precision:" ++ composition.compositionId ++ ":" ++ node.stageId
  stageId := node.stageId
  hardRequirementIds := composition.satisfiedRequirementIds
  provenance :=
    ["derived solely from certified Phase 5 stage identity and declared hard requirements"]
  texts_nonblank := by
    intro text member
    simp only [List.mem_cons, List.not_mem_nil, or_false] at member
    rcases member with rfl | rfl
    · exact Text.nonblank_append_right _ node.stageId_nonblank
    · exact node.stageId_nonblank
  texts_canonical := by
    intro texts member
    simp only [List.mem_cons, List.not_mem_nil, or_false] at member
    rcases member with rfl | rfl
    · exact ⟨⟨composition.valid.requirements_nonblank, composition.valid.requirements_canonical⟩,
        composition.valid.requirements_nonempty⟩
    · decide
  modes_canonical := unrestricted_modes

/-- The requirement of a stage, from its policy if there is one. -/
def derivedRequirement (composition : CompositionCandidate) (node : CompositionNode) :
    Option PrecisionRequirement → PrecisionRequirement
  | none => unrestrictedRequirement composition node
  | some explicit => restrictedRequirement explicit

namespace PrecisionRequirementDerivationRequest

variable (request : PrecisionRequirementDerivationRequest)

/-- The policy of a stage, if it has one. -/
def policy? (stageId : String) : Option PrecisionRequirement :=
  (Dict.indexed PrecisionRequirement.stageId request.explicitRequirements).get? stageId

/-- The requirement derived for a stage. -/
def requirementOf (node : CompositionNode) : PrecisionRequirement :=
  derivedRequirement request.composition node (request.policy? node.stageId)

/-- The requirements derived for the stages, one for each. -/
def derivedRequirements : List PrecisionRequirement :=
  request.composition.nodes.map request.requirementOf

variable {request} {stageId : String} {policy : PrecisionRequirement}

theorem policy?_eq_some_iff : request.policy? stageId = some policy ↔
    policy ∈ request.explicitRequirements ∧ policy.stageId = stageId :=
  Dict.indexed_get?_eq_some_iff request.valid.policies_nodup

theorem policy?_eq_none_iff : request.policy? stageId = none ↔
    ∀ policy ∈ request.explicitRequirements, policy.stageId ≠ stageId := by
  rw [Option.eq_none_iff_forall_ne_some]
  simp only [ne_eq, policy?_eq_some_iff, not_and]

variable (request)

theorem requirementOf_stageId (node : CompositionNode) :
    (request.requirementOf node).stageId = node.stageId := by
  rw [requirementOf]
  cases found : request.policy? node.stageId with
  | none => rfl
  | some policy => exact (policy?_eq_some_iff.mp found).2

theorem map_stageId_derivedRequirements :
    request.derivedRequirements.map PrecisionRequirement.stageId =
      request.composition.stageIds := by
  rw [derivedRequirements, List.map_map]
  exact List.map_congr_left fun node _ => request.requirementOf_stageId node

theorem sortOn_derivedRequirements :
    sortOn PrecisionRequirement.stageId request.derivedRequirements =
      request.derivedRequirements := by
  have sorted := map_sortOn CompositionNode.stageId request.requirementOf
    PrecisionRequirement.stageId request.requirementOf_stageId request.composition.nodes
  rw [request.composition.valid.nodes_sorted] at sorted
  exact sorted.symm

end PrecisionRequirementDerivationRequest

/-- The requirements of a request, with the trace of their derivation. -/
structure PrecisionRequirementDerivationResult where
  requirementSet : StagePrecisionRequirementSet
  provenance : List String
  /-- Provenance is given, in canonical form. -/
  provenance_canonical : CanonicalTexts provenance ∧ provenance ≠ []

/-- Derive the requirements of the stages. The requirements of a request that was accepted meet
their contract. -/
def derivePrecisionRequirements (request : PrecisionRequirementDerivationRequest) :
    PrecisionRequirementDerivationResult where
  requirementSet := {
    composition := request.composition
    requirements := request.derivedRequirements
    stageModelIdentities :=
      sortOn Prod.fst (request.composition.nodes.map stageModelIdentity)
    provenance :=
      ["Phase 5 certified composition identity and exact model revisions preserved",
        "only explicit precision policy constraints were applied"]
    composition_valid := request.valid.composition_valid
    requirements_nodup := by
      rw [request.map_stageId_derivedRequirements]
      exact request.valid.stages_nodup
    requirements_sorted := request.sortOn_derivedRequirements
    identities_exact := rfl
    requirements_cover := by
      rw [request.map_stageId_derivedRequirements]
      rfl
    provenance_canonical := by decide }
  provenance := ["deterministic Phase 6 requirement derivation from certified upstream state"]
  provenance_canonical := by decide

/-! ## What a derivation requires -/

/-- The policies of a stage permit a mode. -/
def Allows (policies : List PrecisionRequirement) (stageId : String) (mode : PrecisionMode) :
    Prop :=
  ∀ policy ∈ policies, policy.stageId = stageId → Permits policy mode

/-- Denying by name what the flags forbid leaves the permitted modes as they are. -/
theorem permits_restrictedRequirement {explicit : PrecisionRequirement} {mode : PrecisionMode} :
    Permits (restrictedRequirement explicit) mode ↔ Permits explicit mode := by
  constructor
  · rintro ⟨denied, allowed, reduced, quantized, stable⟩
    exact ⟨fun named => denied (mem_deniedModes.mpr (.inl named)), allowed, reduced, quantized,
      stable⟩
  · rintro ⟨denied, allowed, reduced, quantized, stable⟩
    refine ⟨fun named => ?_, allowed, reduced, quantized, stable⟩
    rcases mem_deniedModes.mp named with named | ⟨forbidden, other⟩ | ⟨forbidden, same⟩
    · exact denied named
    · exact other (reduced forbidden)
    · exact quantized forbidden same

/-- A policy that denies by name what its flags forbid is left as it is. -/
theorem restrictedRequirement_restrictedRequirement (explicit : PrecisionRequirement) :
    restrictedRequirement (restrictedRequirement explicit) = restrictedRequirement explicit := by
  have apart : Separates PrecisionMode.order (deniedModes (restrictedRequirement explicit)) := by
    intro first _ second _ orders
    revert orders
    cases first <;> cases second <;> decide
  have again : deniedModes (restrictedRequirement explicit) = deniedModes explicit := by
    rw [← canonical_deniedModes, ← canonical_deniedModes explicit]
    refine canonical_congr apart fun mode => ?_
    rw [mem_deniedModes]
    change mode ∈ deniedModes explicit ∨ _ ↔ _
    exact or_iff_left_of_imp fun forbidden => mem_deniedModes.mpr (.inr forbidden)
  rw [restrictedRequirement, PrecisionRequirement.mk.injEq]
  exact ⟨rfl, rfl, rfl, rfl, rfl, rfl, rfl, again, rfl⟩

namespace PrecisionRequirementDerivationRequest

variable {request : PrecisionRequirementDerivationRequest} {node : CompositionNode}

theorem permits_requirementOf_iff {mode : PrecisionMode} :
    Permits (request.requirementOf node) mode ↔
      Allows request.explicitRequirements node.stageId mode := by
  rw [requirementOf]
  cases found : request.policy? node.stageId with
  | none =>
      have free := policy?_eq_none_iff.mp found
      refine iff_of_true ?_ fun policy member same => absurd same (free policy member)
      exact ⟨List.not_mem_nil, fun listed => absurd rfl listed, nofun, nofun, nofun⟩
  | some policy =>
      obtain ⟨member, same⟩ := policy?_eq_some_iff.mp found
      refine permits_restrictedRequirement.trans ⟨fun permits other inside stage => ?_,
        fun allows => allows policy member same⟩
      have only : request.policy? node.stageId = some other :=
        policy?_eq_some_iff.mpr ⟨inside, stage⟩
      rwa [Option.some.inj (only.symm.trans found)]

theorem hardRequirementIds_requirementOf :
    (request.requirementOf node).hardRequirementIds =
      ((request.policy? node.stageId).map PrecisionRequirement.hardRequirementIds).getD
        request.composition.satisfiedRequirementIds := by
  rw [requirementOf]
  cases request.policy? node.stageId <;> rfl

theorem stages_derive :
    stages (derivePrecisionRequirements request).requirementSet =
      request.composition.nodes.map fun node =>
        (request.requirementOf node, stageModelIdentity node) := by
  have sorted := map_sortOn CompositionNode.stageId stageModelIdentity Prod.fst (fun _ => rfl)
    request.composition.nodes
  rw [request.composition.valid.nodes_sorted] at sorted
  change request.derivedRequirements.zip
    (sortOn Prod.fst (request.composition.nodes.map stageModelIdentity)) = _
  rw [← sorted, derivedRequirements, List.zip_map']

end PrecisionRequirementDerivationRequest

/-! ## Generation from a request -/

section Generation

variable (digest : Digest) (request : PrecisionRequirementDerivationRequest)
  (registry : ModelPrecisionCapabilityRegistry)
  (evidenceConstraints : List PrecisionEvidenceConstraint)

/-- A mode that the model of a stage supports, its policy permits and its evidence backs. -/
structure Admissible (node : CompositionNode) (mode : PrecisionMode) : Prop where
  /-- The exact model revision of the stage supports the mode. -/
  supported : ∃ capability ∈ registry.records,
    canonicalPrecisionModelIdentity capability = node.modelRecord.identity ∧
      mode ∈ capability.supportedModes
  /-- The policy of the stage permits the mode, as it was given. -/
  allowed : Allows request.explicitRequirements node.stageId mode
  /-- INT8 is backed by evidence. -/
  evidenced : Evidenced evidenceConstraints node.stageId mode

/-- The assignment of an admissible mode to a stage of the composition, with its exact model. -/
structure Assigns (assignment : PrecisionAssignment) (node : CompositionNode) : Prop where
  /-- The assignment is for the stage. -/
  stageId : assignment.stageId = node.stageId
  /-- The model is that of the stage. -/
  identity : assignment.identity = node.modelRecord.identity
  /-- The hard requirements are those of the policy, or else those of the composition. -/
  requirements : assignment.hardRequirementIds =
    ((request.policy? node.stageId).map PrecisionRequirement.hardRequirementIds).getD
      request.composition.satisfiedRequirementIds
  /-- The assignment rests on the certified identity. -/
  provenance : assignment.provenance = ["certified stage identity"]
  /-- The mode is admissible. -/
  admissible : Admissible request registry evidenceConstraints node assignment.mode

/-- A draft that assigns an admissible mode to each stage of the composition. -/
structure Planned (draft : PrecisionProfileDraft) : Prop where
  /-- Each stage has an assignment, in the order of stages, and no other stage has. -/
  assigns : List.Forall₂ (Assigns request registry evidenceConstraints) draft.assignments
    request.composition.nodes
  /-- The draft is for the composition. -/
  compositionId : draft.compositionId = request.composition.compositionId
  /-- Its id is that of its content. -/
  addressed : draft.profileId = draft.precisionProfileId digest
  /-- It rests on the enumeration. -/
  provenance : draft.provenance = ["deterministic exact-registry enumeration"]

variable {digest request registry evidenceConstraints}

theorem isChoice_derived_iff {node : CompositionNode} {assignment : PrecisionAssignment} :
    IsChoice registry evidenceConstraints
        (request.requirementOf node, stageModelIdentity node) assignment ↔
      Assigns request registry evidenceConstraints assignment node := by
  constructor
  · rintro ⟨stage, identity, requirements, provenance, capability, registered, exact', compatible⟩
    refine ⟨stage, identity, ?_, provenance, ⟨capability, registered, exact',
      compatible.supported⟩, ?_, ?_⟩
    · exact requirements.trans request.hardRequirementIds_requirementOf
    · exact request.permits_requirementOf_iff.mp compatible.permits
    · exact request.requirementOf_stageId node ▸ compatible.evidenced
  · rintro ⟨stage, identity, requirements, provenance, ⟨capability, registered, exact',
      supported⟩, allowed, evidenced⟩
    refine ⟨stage, identity, ?_, provenance, capability, registered, exact', supported, ?_, ?_⟩
    · exact requirements.trans request.hardRequirementIds_requirementOf.symm
    · exact request.permits_requirementOf_iff.mpr allowed
    · exact (request.requirementOf_stageId node).symm ▸ evidenced

theorem combination_derived_iff {draft : PrecisionProfileDraft} :
    Combination digest (derivePrecisionRequirements request).requirementSet registry
        evidenceConstraints draft ↔
      Planned digest request registry evidenceConstraints draft := by
  have choices : List.Forall₂ (fun assignment stage =>
      IsChoice registry evidenceConstraints stage assignment) draft.assignments
        (stages (derivePrecisionRequirements request).requirementSet) ↔
      List.Forall₂ (Assigns request registry evidenceConstraints) draft.assignments
        request.composition.nodes := by
    rw [request.stages_derive, List.forall₂_map_right_iff]
    simp only [isChoice_derived_iff]
  constructor
  · rintro ⟨chosen, determined⟩
    refine ⟨choices.mp chosen, ?_, ?_, ?_⟩
    all_goals
      rw [determined]
      rfl
  · rintro ⟨assigns, composition, addressed, provenance⟩
    refine ⟨choices.mpr assigns, ?_⟩
    obtain ⟨profileId, compositionId, assignments, texts⟩ := draft
    obtain rfl := composition
    obtain rfl := provenance
    rw [PrecisionProfileDraft.mk.injEq]
    exact ⟨addressed, rfl, rfl, rfl⟩

theorem exists_planned_iff : (∃ draft, Planned digest request registry evidenceConstraints draft) ↔
    ∀ node ∈ request.composition.nodes,
      ∃ mode, Admissible request registry evidenceConstraints node mode := by
  constructor
  · rintro ⟨draft, planned⟩ node member
    obtain ⟨assignment, _, assigns⟩ :=
      @exists_of_forall₂ _ _ (flip (Assigns request registry evidenceConstraints)) _ _
        planned.assigns.flip _ member
    exact ⟨assignment.mode, assigns.admissible⟩
  · intro admissible
    have assigned : ∀ node ∈ request.composition.nodes, ∃ assignment,
        Assigns request registry evidenceConstraints assignment node := by
      intro node member
      obtain ⟨mode, admits⟩ := admissible node member
      have stage : (request.requirementOf node, stageModelIdentity node) ∈
          stages (derivePrecisionRequirements request).requirementSet := by
        rw [request.stages_derive]
        exact List.mem_map_of_mem member
      obtain ⟨capability, registered, same, supported⟩ := admits.supported
      refine ⟨stageAssignment stage mode, isChoice_derived_iff.mp ((isChoice_iff stage).mpr
        ⟨mode, rfl, capability, registered, same, supported, ?_, ?_⟩)⟩
      · exact request.permits_requirementOf_iff.mpr admits.allowed
      · exact (request.requirementOf_stageId node).symm ▸ admits.evidenced
    obtain ⟨assignments, matched⟩ := exists_forall₂_of_forall_mem assigned
    let draft := draftOf digest (derivePrecisionRequirements request).requirementSet assignments
    exact ⟨draft, matched, rfl, rfl, rfl⟩

theorem PrecisionPhaseResult.ready_iff_of_construct {given made : PrecisionPhaseResult}
    (constructed : given.construct = .ok made) :
    made.status = .ready ↔ made.validProfiles ≠ [] := by
  simp only [construct, bind_eq_ok, pure_eq_ok, Except.ok.injEq] at constructed
  obtain ⟨_, _, _, _, _, _, _, _, _, _, _, _, _, _, _, checks, rfl⟩ := constructed
  have nonempty : sortOn (fun profile => profile.profileId) given.validProfiles ≠ [] ↔
      given.validProfiles.length ≠ 0 := by
    rw [ne_eq, ← List.length_eq_zero_iff, length_sortOn]
  rw [nonempty]
  simp only [checkStatus] at checks
  cases verdict : given.status with
  | ready =>
      rw [verdict, rule_eq_ok] at checks
      exact iff_of_true rfl checks
  | notApplicable =>
      rw [verdict, rule_eq_ok] at checks
      exact iff_of_false (by decide) fun some => some checks.1
  | fail =>
      simp only [verdict, bind_eq_ok, rule_eq_ok] at checks
      obtain ⟨_, none, _⟩ := checks
      exact iff_of_false (by decide) fun some => some none

theorem ready_iff_of_generated {requirementSet : StagePrecisionRequirementSet}
    {maxProfiles : Int} {adaptationRequired : Bool} {emitted : PrecisionPhaseResult}
    (generated : generatePrecisionProfiles digest requirementSet registry evidenceConstraints
      maxProfiles adaptationRequired = .ok emitted) :
    emitted.status = .ready ↔ emitted.validProfiles ≠ [] := by
  simp only [generatePrecisionProfiles, bind_eq_ok] at generated
  obtain ⟨_, _, _, _, _, _, _, _, _, _, constructed⟩ := generated
  exact PrecisionPhaseResult.ready_iff_of_construct constructed

end Generation

/-! ## The law of derivation -/

section Law

variable {request : PrecisionRequirementDerivationRequest}

/-- A derived requirement is left as it is when it is the policy of its stage. -/
theorem restrictedRequirement_requirementOf (node : CompositionNode) :
    restrictedRequirement (request.requirementOf node) = request.requirementOf node := by
  rw [PrecisionRequirementDerivationRequest.requirementOf]
  cases request.policy? node.stageId with
  | none => rfl
  | some policy => exact restrictedRequirement_restrictedRequirement policy

theorem derive_eq {other : PrecisionRequirementDerivationRequest}
    (composition : other.composition = request.composition)
    (requirements : other.derivedRequirements = request.derivedRequirements) :
    derivePrecisionRequirements other = derivePrecisionRequirements request := by
  rw [derivePrecisionRequirements, derivePrecisionRequirements,
    PrecisionRequirementDerivationResult.mk.injEq, StagePrecisionRequirementSet.mk.injEq]
  exact ⟨⟨composition, requirements, by rw [composition], rfl⟩, rfl⟩

theorem exists_derived_again :
    ∃ again, PrecisionRequirementDerivationRequest.construct {
        composition := request.composition
        explicitRequirements := request.derivedRequirements } = .ok again ∧
      derivePrecisionRequirements again = derivePrecisionRequirements request := by
  have stages := request.map_stageId_derivedRequirements
  have valid : DerivationFields.Valid {
      composition := request.composition
      explicitRequirements := request.derivedRequirements } := {
    policies_nodup := by
      rw [DerivationFields.policyStages, stages]
      exact request.valid.stages_nodup
    composition_valid := request.valid.composition_valid
    stages_nonempty := request.valid.stages_nonempty
    stages_nodup := request.valid.stages_nodup
    policies_declared := by
      intro stage member
      rwa [DerivationFields.policyStages, stages] at member }
  refine ⟨.make _ valid, PrecisionRequirementDerivationRequest.construct_eq_ok_iff.mpr
    ⟨valid, rfl⟩, derive_eq rfl ?_⟩
  refine List.map_congr_left fun node member => ?_
  have policy : (PrecisionRequirementDerivationRequest.make _ valid).policy? node.stageId =
      some (request.requirementOf node) := by
    refine PrecisionRequirementDerivationRequest.policy?_eq_some_iff.mpr
      ⟨(mem_sortOn _).mpr (List.mem_map_of_mem member), request.requirementOf_stageId node⟩
  rw [PrecisionRequirementDerivationRequest.requirementOf, policy]
  exact restrictedRequirement_requirementOf node

/-- What holds of the requirements that an accepted request derives, and of what is generated from
them. -/
structure DerivationLaw (digest : Digest) (registry : ModelPrecisionCapabilityRegistry)
    (evidenceConstraints : List PrecisionEvidenceConstraint) (fields : DerivationFields)
    (request : PrecisionRequirementDerivationRequest) : Prop where
  /-- The order in which policies are listed does not matter. -/
  unordered : ∀ listed, listed.Perm fields.explicitRequirements →
    PrecisionRequirementDerivationRequest.construct
      { fields with explicitRequirements := listed } = .ok request
  /-- Derived requirements are accepted as policies, and derive to themselves. -/
  again : ∃ second, PrecisionRequirementDerivationRequest.construct { fields with
        explicitRequirements := (derivePrecisionRequirements request).requirementSet.requirements }
          = .ok second ∧
      derivePrecisionRequirements second = derivePrecisionRequirements request
  /-- The profiles that are enumerated assign an admissible mode to each stage, and all that do
  are enumerated. -/
  enumerated : ∃ drafts, iterPrecisionProfileDrafts digest
      (derivePrecisionRequirements request).requirementSet registry evidenceConstraints =
        .ok drafts ∧
    ∀ draft, draft ∈ drafts ↔ Planned digest request registry evidenceConstraints draft
  /-- Under every certified bound the generator answers with planned profiles, and it is ready
  exactly when each stage has an admissible mode. -/
  generated : digest.Hexadecimal →
    CollisionFree digest (derivePrecisionRequirements request).requirementSet registry
      evidenceConstraints →
    ∀ (maxProfiles : Int) (adaptationRequired : Bool),
      1 ≤ maxProfiles ∧ maxProfiles ≤ maxPrecisionProfiles →
        ∃ emitted, generatePrecisionProfiles digest
            (derivePrecisionRequirements request).requirementSet registry evidenceConstraints
            maxProfiles adaptationRequired = .ok emitted ∧
          (∀ profile ∈ emitted.validProfiles, Planned digest request registry
            evidenceConstraints profile.toPrecisionProfileDraft) ∧
          (emitted.status = .ready ↔ ∀ node ∈ fields.composition.nodes,
            ∃ mode, Admissible request registry evidenceConstraints node mode)

/-- The law holds of every request that is accepted. -/
theorem derivationLaw {fields : DerivationFields} (digest : Digest)
    (registry : ModelPrecisionCapabilityRegistry)
    (evidenceConstraints : List PrecisionEvidenceConstraint)
    (accepted : PrecisionRequirementDerivationRequest.construct fields = .ok request) :
    DerivationLaw digest registry evidenceConstraints fields request := by
  obtain ⟨valid, rfl⟩ := PrecisionRequirementDerivationRequest.construct_eq_ok_iff.mp accepted
  obtain ⟨combinations, _, _, yielded, enumerated⟩ := @assignmentCombinations_enumerated digest
    (derivePrecisionRequirements (.make fields valid)).requirementSet registry
    evidenceConstraints
  generalize combinations.map (draftOf digest _) = drafts at yielded enumerated
  have planned (draft : PrecisionProfileDraft) : draft ∈ drafts ↔
      Planned digest (.make fields valid) registry evidenceConstraints draft :=
    (enumerated.exact draft).trans combination_derived_iff
  constructor
  case unordered =>
    intro listed perm
    have stages := perm.map PrecisionRequirement.stageId
    have alike : DerivationFields.Valid { fields with explicitRequirements := listed } :=
      { valid with
        policies_nodup := stages.nodup_iff.mpr valid.policies_nodup
        policies_declared := fun stage member =>
          valid.policies_declared stage (stages.mem_iff.mp member) }
    refine PrecisionRequirementDerivationRequest.construct_eq_ok_iff.mpr ⟨alike, ?_⟩
    have apart : Separates PrecisionRequirement.stageId listed :=
      fun _ left _ right same => List.inj_on_of_nodup_map alike.policies_nodup left right same
    have sorted := sortOn_eq_of_perm apart perm
    simp only [PrecisionRequirementDerivationRequest.make, sorted]
  case again => exact exists_derived_again
  case enumerated => exact ⟨drafts, yielded, planned⟩
  case generated =>
    intro hexadecimal collisionFree maxProfiles adaptationRequired certified
    obtain ⟨emitted, generated, emits⟩ :=
      exists_generated hexadecimal collisionFree yielded certified adaptationRequired
    have first (draft : PrecisionProfileDraft) :
        draft ∈ emitted.validProfiles.map (fun profile => profile.toPrecisionProfileDraft) ↔
          draft ∈ drafts.take maxProfiles.toNat := by
      rw [emits.first, mem_sortOn]
    refine ⟨emitted, generated, ?_, ?_⟩
    · intro profile member
      exact (planned _).mp (List.mem_of_mem_take ((first _).mp (List.mem_map_of_mem member)))
    · have positive : maxProfiles.toNat ≠ 0 := by omega
      have some : (∃ draft, draft ∈ drafts) ↔ ∀ node ∈ fields.composition.nodes, ∃ mode,
          Admissible (.make fields valid) registry evidenceConstraints node mode :=
        (exists_congr planned).trans exists_planned_iff
      have none : emitted.validProfiles = [] ↔ drafts = [] := by
        rw [← List.map_eq_nil_iff, emits.first, ← List.length_eq_zero_iff, length_sortOn,
          List.length_eq_zero_iff, List.take_eq_nil_iff, or_iff_right positive]
      rw [ready_iff_of_generated generated, ← some, ne_eq, none, List.eq_nil_iff_forall_not_mem,
        not_forall_not]

/-- A policy that does not trust FP16. -/
def stableRequirement : PrecisionRequirement := { sampleRequirement with fp16Forbidden := true }

/-- The sample composition under the policy. -/
def stableFields : DerivationFields where
  composition := sampleComposition
  explicitRequirements := [stableRequirement]

theorem stableFields_valid : stableFields.Valid where
  policies_nodup := List.nodup_singleton _
  composition_valid := rfl
  stages_nonempty := List.cons_ne_nil _ _
  stages_nodup := sampleComposition.valid.stageIds_nodup
  policies_declared := fun _ member => member

/-- The law of the request for the sample composition. -/
theorem derivationLaw_stable :
    ∃ request, PrecisionRequirementDerivationRequest.construct stableFields = .ok request ∧
      DerivationLaw Digest.sha256 twoModesRegistry [] stableFields request :=
  have accepted := PrecisionRequirementDerivationRequest.construct_eq_ok_iff.mpr
    ⟨stableFields_valid, rfl⟩
  ⟨_, accepted, derivationLaw _ _ _ accepted⟩

end Law

end Precision
end MercuryX
