import MercuryX.Composition.Agreement
import MercuryX.Composition.Merging
import MercuryX.Foundation.Join
import MercuryX.Foundation.Product

/-!
# Enumerated drafts

Every request enumerates its drafts, and no two of them compose the same models in the same
topology: patterns differ in their topologies, and the bindings of a pattern in the identities that
they bind. Both the signature of a draft and its id cover what it composes.
-/

namespace MercuryX
namespace Composition

open Foundation
open Models

/-! ## What drafts compose -/

section Apart

variable {digest : Digest} {request : CompositionInstantiationRequest}
  {pattern : CertifiedCompositionPattern} {roleRequirements : List CompositionRoleRequirement}
  {assessments : List CapabilityEvidenceAssessment} {blocked : List CompositionRole}
  {stages : List BoundStage} {draft left right : CompositionCandidateDraft}

/-- The exact identities of the models that a draft composes, in the order of its stages. -/
def boundIdentities (draft : CompositionCandidateDraft) :
    List (String ×ₗ String ×ₗ String ×ₗ String) :=
  (orderedNodes draft.toDraftFields).map fun node => node.modelRecord.identity

/-- Two drafts compose the same models in the same topology. -/
def SameBinding (left right : CompositionCandidateDraft) : Prop :=
  left.topology = right.topology ∧ boundIdentities left = boundIdentities right

theorem CertifiedTopology.value_injective {left right : CertifiedTopology}
    (same : left.value = right.value) : left = right := by
  revert same
  cases left <;> cases right <;> decide

theorem identity_of_nodeSemantics {left right : CompositionNode}
    (same : nodeSemantics left = nodeSemantics right) :
    left.modelRecord.identity = right.modelRecord.identity := by
  simp only [nodeSemantics, Json.obj.injEq, List.cons.injEq, Prod.mk.injEq, Json.str.injEq,
    true_and] at same
  obtain ⟨_, _, ⟨provider, modelId, family, revision, _⟩, _⟩ := same
  rw [ModelCapabilityRecord.identity, ModelCapabilityRecord.identity, provider, modelId, family,
    revision]

theorem sameBinding_of_signaturePayload
    (same : signaturePayload left.toDraftFields = signaturePayload right.toDraftFields) :
    SameBinding left right := by
  simp only [signaturePayload, Json.obj.injEq, List.cons.injEq, Prod.mk.injEq, Json.str.injEq,
    Json.arr.injEq, true_and] at same
  obtain ⟨_, topology, _, nodes, _⟩ := same
  exact ⟨CertifiedTopology.value_injective topology,
    map_eq_map_of_coarser (fun _ _ => identity_of_nodeSemantics) nodes⟩

/-- What the identity of a composition of a pattern covers. -/
def compositionPayloadOf (requestId workloadId sessionId graphId : String)
    (pattern : CertifiedCompositionPattern) (stages : List StageContent) : Json := .obj [
  ("schema_version", .str compositionSchemaVersion), ("request_id", .str requestId),
  ("workload_id", .str workloadId), ("session_id", .str sessionId),
  ("graph_id", .str graphId), ("topology", .str pattern.topology.value),
  ("stages", .arr (stages.map StageContent.payload)),
  ("edges", .arr (pattern.edges.map fun edge => .obj [
    ("source", .str edge.sourceStageId), ("target", .str edge.targetStageId),
    ("dependency_type", .str edge.dependencyType.value)]))]

/-- What the identity of a draft covers, as its validation finds it. -/
def compositionPayload (draft : DraftFields) : Option Json :=
  (getCertifiedPattern draft.topology).bind fun pattern =>
    (pattern.slots.mapM (stageContent draft.nodes)).map
      (compositionPayloadOf draft.requestId draft.workloadId draft.sessionId draft.graphId pattern)

theorem identity_of_stagePayload {left right : BoundStage}
    (same : left.content.payload = right.content.payload) :
    left.record.identity = right.record.identity := by
  simp only [StageContent.payload, BoundStage.content, Json.obj.injEq, List.cons.injEq,
    Prod.mk.injEq, Json.str.injEq, true_and] at same
  obtain ⟨_, _, ⟨provider, modelId, family, revision, _⟩, _⟩ := same
  rw [ModelCapabilityRecord.identity, ModelCapabilityRecord.identity, provider, modelId, family,
    revision]

namespace Drawn

section

variable (drawn : Drawn digest request pattern roleRequirements assessments stages draft)

include drawn

theorem orderedNodes_eq : orderedNodes draft.toDraftFields = stages.map BoundStage.node := by
  have found : (pattern.slots.filterMap fun slot =>
      (Dict.indexed CompositionNode.stageId draft.nodes).get? slot.stageId) =
        stages.map BoundStage.node := by
    rw [← drawn.staged.slots, List.filterMap_map, ← List.filterMap_eq_map]
    exact List.filterMap_congr fun stage member => drawn.get?_node member
  have counted : (stages.map BoundStage.node).length = draft.nodes.length := by
    rw [drawn.nodes_eq, length_sortOn]
  simp only [orderedNodes, drawn.pattern_eq, found, counted, if_true]

theorem boundIdentities_eq :
    boundIdentities draft = stages.map fun stage => stage.record.identity := by
  rw [boundIdentities, drawn.orderedNodes_eq, List.map_map]
  rfl

theorem compositionPayload_eq :
    compositionPayload draft.toDraftFields = some (compositionPayloadOf draft.requestId
      draft.workloadId draft.sessionId draft.graphId pattern (stages.map BoundStage.content)) := by
  rw [compositionPayload, drawn.pattern_eq, Option.bind_some, drawn.stageContents_eq,
    Option.map_some]

theorem compositionId_eq : draft.compositionId = "sha256:" ++ digest.hexdigest
    (compositionPayloadOf draft.requestId draft.workloadId draft.sessionId draft.graphId pattern
      (stages.map BoundStage.content)) := by
  have named := drawn.semanticCompositionId_eq
  rw [semanticCompositionId, drawn.stageContents_eq, Option.map_some, Option.some_inj] at named
  exact named.symm

end

theorem sameBinding_of_compositionPayload {rightPattern : CertifiedCompositionPattern}
    {rightRequirements : List CompositionRoleRequirement}
    {rightAssessments : List CapabilityEvidenceAssessment} {rightStages : List BoundStage}
    (leftDrawn : Drawn digest request pattern roleRequirements assessments stages left)
    (rightDrawn : Drawn digest request rightPattern rightRequirements rightAssessments rightStages
      right)
    (same : compositionPayload left.toDraftFields = compositionPayload right.toDraftFields) :
    SameBinding left right := by
  rw [leftDrawn.compositionPayload_eq, rightDrawn.compositionPayload_eq, Option.some_inj] at same
  simp only [compositionPayloadOf, Json.obj.injEq, List.cons.injEq, Prod.mk.injEq, Json.str.injEq,
    Json.arr.injEq, true_and, List.map_map] at same
  obtain ⟨_, _, _, _, topology, contents, _⟩ := same
  constructor
  · rw [leftDrawn.topology_eq, rightDrawn.topology_eq]
    exact CertifiedTopology.value_injective topology
  · rw [leftDrawn.boundIdentities_eq, rightDrawn.boundIdentities_eq]
    exact map_eq_map_of_coarser (fun _ _ => identity_of_stagePayload) contents

end Drawn

/-! ## Enumerated drafts -/

/-- The candidates for a role stand in the order of their identities, each identity once. -/
theorem candidatesFor_pairwise {requirement : CompositionRoleRequirement} :
    (candidatesFor request blocked requirement).Pairwise
      fun first second => first.identity < second.identity := by
  unfold candidatesFor
  split
  · exact .nil
  let found := (discoverCapabilities request.registry requirement.requirements).map
    CompatibilityResult.record
  have kept : found.Perm (request.registry.records.filter fun record =>
      (evaluateCompatibility record requirement.requirements).status = .compatible) := by
    refine ((sortOn_perm _ _).map CompatibilityResult.record).trans ?_
    rw [List.filter_map, List.map_map]
    exact .of_eq (List.map_id _)
  have registered : ∀ record ∈ found, record ∈ request.registry.records := fun record member =>
    List.mem_of_mem_filter (kept.mem_iff.mp member)
  have once : (sortOn ModelCapabilityRecord.identity found).Nodup :=
    (sortOn_perm _ _).nodup_iff.mpr
      (kept.nodup_iff.mpr (request.registry.records_nodup.filter _))
  refine (List.Pairwise.and_mem.mp ((sortOn_pairwise _ found).and once)).imp ?_
  rintro first second ⟨firstMember, secondMember, before, different⟩
  refine lt_of_le_of_ne before fun same => different ?_
  exact request.registry.identities_separate first
    (registered _ ((mem_sortOn _).mp firstMember)) second
    (registered _ ((mem_sortOn _).mp secondMember)) same

theorem product_eq (lists : List (List ModelCapabilityRecord)) :
    product lists = Foundation.product lists := by
  induction lists with
  | nil => rfl
  | cons options rest induction => rw [product, Foundation.product, induction]

theorem bindings_pairwise :
    (bindings pattern (candidatesByRole request blocked roleRequirements)).Pairwise
      fun first second => first.map ModelCapabilityRecord.identity ≠
        second.map ModelCapabilityRecord.identity := by
  refine List.Pairwise.filter _ ?_
  rw [product_eq]
  let before (first second : ModelCapabilityRecord) : Prop := first.identity < second.identity
  refine (@product_pairwise _ before _ fun options member => ?_).imp map_ne_of_lex
  obtain ⟨slot, _, rfl⟩ := List.mem_map.mp member
  unfold candidatesByRole
  cases (Dict.indexed CompositionRoleRequirement.role roleRequirements).get? slot.role with
  | none => exact .nil
  | some requirement => exact candidatesFor_pairwise

theorem boundIdentities_of_draft {binding : List ModelCapabilityRecord}
    (certified : pattern ∈ certifiedPatterns)
    (roles : roleRequirements.map CompositionRoleRequirement.role = rolesOf pattern)
    (bound : binding ∈ bindings pattern (candidatesByRole request blocked roleRequirements))
    (made : Composition.draft digest request pattern roleRequirements assessments binding =
      .ok draft) :
    boundIdentities draft = binding.map ModelCapabilityRecord.identity := by
  obtain ⟨stages, staged, isStaged⟩ := exists_staged certified roles bound
  have records : stages.map BoundStage.record = binding := by
    have length := (mem_product.mp (List.mem_of_mem_filter bound)).length_eq
    rw [List.length_map] at length
    rw [map_of_mapM_eq_ok (fun _ _ drew => congrArg Prod.snd (boundStage_eq_ok drew).2) staged,
      List.map_snd_zip length.le]
  rw [(drawn_of_draft staged isStaged made).boundIdentities_eq, ← records, List.map_map]
  rfl

theorem apart_of_instantiatePattern (certified : pattern ∈ certifiedPatterns)
    {outcome : List CompositionCandidateDraft × List InstantiationIssue}
    (made : instantiatePattern digest request assessments blocked pattern = .ok outcome) :
    outcome.1.Pairwise fun first second => ¬ SameBinding first second := by
  cases derived : deriveRoleRequirements request pattern with
  | error raised =>
      rw [instantiatePattern, derived, Except.ok.injEq] at made
      exact made ▸ .nil
  | ok roleRequirements =>
      by_cases available : HasCandidates request blocked roleRequirements
      · rw [instantiatePattern_eq derived available] at made
        simp only [map_eq_pure_bind, bind_eq_ok, pure_eq_ok, Except.ok.injEq] at made
        obtain ⟨drafts, drawn, rfl⟩ := made
        refine pairwise_of_forall₂ (mapM_eq_ok_iff_forall₂.mp drawn) ?_
          (List.Pairwise.and_mem.mp bindings_pairwise)
        rintro first second firstDraft secondDraft ⟨firstBound, secondBound, different⟩ firstMade
          secondMade ⟨_, same⟩
        have roles := roles_of_derive derived
        rw [boundIdentities_of_draft certified roles firstBound firstMade,
          boundIdentities_of_draft certified roles secondBound secondMade] at same
        exact different same
      · obtain ⟨issues, none⟩ := instantiatePattern_of_lacking digest assessments derived available
        obtain rfl := Except.ok.inj (none.symm.trans made)
        exact .nil

theorem certifiedTopologies_pairwise :
    certifiedPatterns.Pairwise fun first second => first.topology ≠ second.topology := by
  decide

theorem exists_assessConstraints (request : CompositionInstantiationRequest) :
    ∃ assessments, assessConstraints request = .ok assessments := by
  refine exists_mapM_eq_ok fun constraint _ => ?_
  have exact : ∀ item ∈ constraint.evidence,
      item.capabilityClaim = constraint.assessmentRequirements.capabilityClaim := fun item member =>
    (constraint.claims_exact.2 item member).trans constraint.claims_exact.1.symm
  rw [assessCapabilityEvidence, require_of_true exact]
  exact ⟨_, rfl⟩

variable (digest request) in
/-- The drafts that a request enumerates. -/
structure Enumerated (drafts : List CompositionCandidateDraft) : Prop where
  /-- The enumeration answers with them. -/
  answered : iterCompositionCandidateDrafts digest request = .ok drafts
  /-- Each is drawn from the stages of a pattern. -/
  drawn : ∀ draft ∈ drafts, ∃ pattern ∈ applicablePatterns request,
    ∃ roleRequirements assessments stages,
      Drawn digest request pattern roleRequirements assessments stages draft
  /-- No two compose the same models. -/
  apart : drafts.Pairwise fun first second => ¬ SameBinding first second

theorem exists_enumerated (hexadecimal : digest.Hexadecimal) :
    ∃ drafts, Enumerated digest request drafts := by
  obtain ⟨assessments, assessed⟩ := exists_assessConstraints request
  have certified : ∀ pattern ∈ applicablePatterns request, pattern ∈ certifiedPatterns :=
    fun _ applicable => List.mem_of_mem_filter applicable
  obtain ⟨outcomes, made⟩ : ∃ outcomes, (applicablePatterns request).mapM
      (instantiatePattern digest request assessments (blockedRoles request assessments)) =
        .ok outcomes :=
    exists_mapM_eq_ok fun pattern applicable =>
      exists_instantiatePattern hexadecimal (certified pattern applicable)
  have drawn : ∀ pattern ∈ applicablePatterns request, ∀ outcome, instantiatePattern digest request
      assessments (blockedRoles request assessments) pattern = .ok outcome →
        ∀ draft ∈ outcome.1, ∃ roleRequirements stages,
          Drawn digest request pattern roleRequirements assessments stages draft := by
    intro pattern applicable outcome answered draft member
    obtain ⟨roleRequirements, stages, _, _, drawn⟩ :=
      (drafts_of_instantiatePattern (certified pattern applicable) answered).1 draft member
    exact ⟨roleRequirements, stages, drawn⟩
  refine ⟨outcomes.flatMap Prod.fst, ?_, ?_, ?_⟩
  · simp only [iterCompositionCandidateDrafts, instantiate, assessed, made, ok_bind]
    rfl
  · intro draft member
    obtain ⟨outcome, isOutcome, inside⟩ := List.mem_flatMap.mp member
    obtain ⟨pattern, applicable, answered⟩ := (mem_of_mapM_eq_ok made).mp isOutcome
    obtain ⟨roleRequirements, stages, drawnFrom⟩ :=
      drawn pattern applicable outcome answered draft inside
    exact ⟨pattern, applicable, roleRequirements, assessments, stages, drawnFrom⟩
  · rw [List.pairwise_flatMap]
    constructor
    · intro outcome isOutcome
      obtain ⟨pattern, applicable, answered⟩ := (mem_of_mapM_eq_ok made).mp isOutcome
      exact apart_of_instantiatePattern (certified pattern applicable) answered
    · refine pairwise_of_forall₂ (mapM_eq_ok_iff_forall₂.mp made) ?_
        (List.Pairwise.and_mem.mp (certifiedTopologies_pairwise.filter _))
      rintro first second firstOutcome secondOutcome ⟨isFirst, isSecond, different⟩ firstMade
        secondMade left leftMember right rightMember ⟨topology, _⟩
      obtain ⟨_, _, leftDrawn⟩ := drawn first isFirst firstOutcome firstMade left leftMember
      obtain ⟨_, _, rightDrawn⟩ := drawn second isSecond secondOutcome secondMade right rightMember
      rw [leftDrawn.topology_eq, rightDrawn.topology_eq] at topology
      exact different topology

end Apart

end Composition
end MercuryX
