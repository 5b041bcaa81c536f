import MercuryX.Composition.Validation

/-!
# Drafts of certified patterns

A certified pattern whose roles have requirements and registered records is drawn up without
faults, and the draft has the shape, the stages and the id that its validation looks for. What is
left for the validation to find are its handoffs and its evidence.
-/

namespace MercuryX
namespace Composition

open Foundation
open Intelligence (CanonicalTuple)
open Models

/-! ## What certified patterns provide -/

/-- The shape of the drafts of a pattern. -/
def CertifiedCompositionPattern.shape (pattern : CertifiedCompositionPattern) : DraftShape where
  patternId := pattern.patternId
  slots := sortOn Prod.fst (pattern.slots.map fun slot => (slot.stageId, slot.role))
  links := pattern.links

/-- What drafts of a pattern rest on. -/
structure CertifiedCompositionPattern.Drawable (pattern : CertifiedCompositionPattern) : Prop where
  /-- There is a stage. -/
  slots_nonempty : pattern.slots ≠ []
  /-- Each role is required once. -/
  roles_nodup : (rolesOf pattern).Nodup
  /-- Handoffs stand in the order of their sources. -/
  sources_sorted : (pattern.edges.map PatternEdge.sourceStageId).Pairwise (· < ·)
  /-- The stages in the order of their ids form a connected graph without cycles. -/
  graph_valid : checkStageGraph (sortOn id pattern.stageIds) pattern.arrows = .ok ()
  /-- The shape of a draft passes its validation. -/
  shape_valid : topologyIssues pattern.shape (some pattern) = []
  /-- A return topology has two primary stages. -/
  primary_twice : pattern.topology ∈ returnTopologies →
    (pattern.slots.filter fun slot => slot.role = .primary).length = 2
  /-- Stages hand off from the roles of their sources. -/
  sources_known : ∀ edge ∈ pattern.edges, ∃ slot ∈ pattern.slots,
    slot.stageId = edge.sourceStageId ∧ pattern.roleOf edge.sourceStageId = some slot.role
  /-- Stages hand off to stages. -/
  targets_known : ∀ edge ∈ pattern.edges, edge.targetStageId ∈ pattern.stageIds

instance (pattern : CertifiedCompositionPattern) : Decidable pattern.Drawable :=
  decidable_of_iff
    (pattern.slots ≠ [] ∧ (rolesOf pattern).Nodup ∧
      (pattern.edges.map PatternEdge.sourceStageId).Pairwise (· < ·) ∧
      checkStageGraph (sortOn id pattern.stageIds) pattern.arrows = .ok () ∧
      topologyIssues pattern.shape (some pattern) = [] ∧
      (pattern.topology ∈ returnTopologies →
        (pattern.slots.filter fun slot => slot.role = .primary).length = 2) ∧
      (∀ edge ∈ pattern.edges, ∃ slot ∈ pattern.slots,
        slot.stageId = edge.sourceStageId ∧ pattern.roleOf edge.sourceStageId = some slot.role) ∧
      ∀ edge ∈ pattern.edges, edge.targetStageId ∈ pattern.stageIds)
    ⟨fun ⟨slots, roles, sources, graph, shape, primary, known, targets⟩ =>
        ⟨slots, roles, sources, graph, shape, primary, known, targets⟩,
      fun ⟨slots, roles, sources, graph, shape, primary, known, targets⟩ =>
        ⟨slots, roles, sources, graph, shape, primary, known, targets⟩⟩

theorem drawable_of_certified : ∀ pattern ∈ certifiedPatterns, pattern.Drawable := by decide

/-! ## Requirements on roles -/

section Roles

variable {request : CompositionInstantiationRequest} {pattern : CertifiedCompositionPattern}
  {role : CompositionRole} {requirement : CompositionRoleRequirement}
  {roleRequirements : List CompositionRoleRequirement}

theorem mem_rolesOf : role ∈ rolesOf pattern ↔ ∃ slot ∈ pattern.slots, slot.role = role := by
  rw [rolesOf, List.mem_eraseDups, List.mem_map]

theorem derivedRoleRequirement_eq_ok_iff :
    derivedRoleRequirement request pattern role = .ok requirement ↔
      ∃ modalities, phase4Modalities request = .ok modalities ∧
        ∃ capabilities, derivedCapabilities (requiredCapabilities request) pattern role =
            .ok capabilities ∧
          roleRequirementOf request role modalities capabilities = requirement := by
  simp only [derivedRoleRequirement, bind_eq_ok, pure_eq_ok, Except.ok.injEq]

theorem role_of_roleRequirement (given : roleRequirement request pattern role = .ok requirement) :
    requirement.role = role := by
  unfold roleRequirement at given
  split at given
  · next explicit found =>
      obtain rfl := Except.ok.inj given
      exact (Dict.mem_of_indexed_get? found).2
  · obtain ⟨_, _, _, _, rfl⟩ := derivedRoleRequirement_eq_ok_iff.mp given
    rfl

theorem roles_of_derive (derived : deriveRoleRequirements request pattern = .ok roleRequirements) :
    roleRequirements.map CompositionRoleRequirement.role = rolesOf pattern := by
  rw [map_of_mapM_eq_ok (fun _ _ => role_of_roleRequirement) derived, List.map_id']

theorem requirementsByRole_eq_ok_iff
    (unique : (roleRequirements.map CompositionRoleRequirement.role).Nodup) :
    requirementsByRole roleRequirements role = .ok requirement ↔
      requirement ∈ roleRequirements ∧ requirement.role = role := by
  rw [← Dict.indexed_get?_eq_some_iff unique, requirementsByRole]
  cases (Dict.indexed CompositionRoleRequirement.role roleRequirements).get? role <;> simp

end Roles

/-! ## Candidates and bindings -/

section Bindings

variable {request : CompositionInstantiationRequest} {blocked : List CompositionRole}
  {requirement : CompositionRoleRequirement} {record : ModelCapabilityRecord}
  {roleRequirements : List CompositionRoleRequirement} {role : CompositionRole}

/-- The candidates for a role that is not blocked are the registered records that meet the
requirements on it. -/
theorem mem_candidatesFor : record ∈ candidatesFor request blocked requirement ↔
    requirement.role ∉ blocked ∧ record ∈ request.registry.records ∧
      (evaluateCompatibility record requirement.requirements).status = .compatible := by
  unfold candidatesFor
  split
  · next listed => simp [listed]
  · next free =>
      simp only [mem_sortOn, List.mem_map, mem_discoverCapabilities, free, not_false_eq_true,
        true_and]
      constructor
      · rintro ⟨result, ⟨registered, evaluated, compatible⟩, rfl⟩
        rw [evaluated] at compatible
        exact ⟨registered, compatible⟩
      · rintro ⟨registered, compatible⟩
        exact ⟨_, ⟨registered, rfl, compatible⟩, rfl⟩

theorem mem_candidatesByRole : record ∈ candidatesByRole request blocked roleRequirements role ↔
    ∃ requirement, requirementsByRole roleRequirements role = .ok requirement ∧
      record ∈ candidatesFor request blocked requirement := by
  unfold candidatesByRole requirementsByRole
  cases (Dict.indexed CompositionRoleRequirement.role roleRequirements).get? role <;> simp

/-- Stages of one group agree exactly when some choice of an identity for each group, which keeps
the choices already made, is the identity of each record bound in the group. -/
theorem groupsAgree_iff {bound : List (PatternSlot × ModelCapabilityRecord)}
    {groups : Dict String (String ×ₗ String ×ₗ String ×ₗ String)} :
    groupsAgree groups bound ↔ ∃ chosen : String → String ×ₗ String ×ₗ String ×ₗ String,
      (∀ group prior, groups.get? group = some prior → chosen group = prior) ∧
        ∀ entry ∈ bound, ∀ group, entry.1.identityGroup = some group →
          chosen group = entry.2.identity := by
  induction bound generalizing groups with
  | nil =>
      simp only [groupsAgree, List.not_mem_nil, false_implies, implies_true, and_true, true_iff]
      exact ⟨fun group => (groups.get? group).getD (toLex ("", toLex ("", toLex ("", "")))),
        fun group prior known => by simp [known]⟩
  | cons entry rest induction =>
      obtain ⟨slot, record⟩ := entry
      simp only [groupsAgree, List.forall_mem_cons]
      cases grouped : slot.identityGroup with
      | none => simp [induction]
      | some group =>
          simp only [Option.some.injEq, forall_eq']
          cases known : groups.get? group with
          | none =>
              simp only [induction]
              refine exists_congr fun chosen => ?_
              constructor
              · rintro ⟨keeps, fits⟩
                refine ⟨fun other prior given => keeps other prior ?_,
                  keeps group _ (Dict.get?_insert_self ..), fits⟩
                have different : other ≠ group := by
                  rintro rfl
                  exact absurd (known.symm.trans given) (by simp)
                rwa [Dict.get?_insert_of_ne _ different]
              · rintro ⟨keeps, here, fits⟩
                refine ⟨fun other prior given => ?_, fits⟩
                by_cases same : other = group
                · subst same
                  rw [Dict.get?_insert_self, Option.some.injEq] at given
                  exact here.trans given
                · rw [Dict.get?_insert_of_ne _ same] at given
                  exact keeps other prior given
          | some prior =>
              simp only [Bool.and_eq_true, decide_eq_true_eq, induction]
              constructor
              · rintro ⟨rfl, chosen, keeps, fits⟩
                exact ⟨chosen, keeps, keeps group _ known, fits⟩
              · rintro ⟨chosen, keeps, here, fits⟩
                exact ⟨(keeps group prior known).symm.trans here, chosen, keeps, fits⟩

/-- The stages are those of a pattern, each with the requirement on its role and a registered
record that meets it, and stages of one group have one identity. -/
structure Staged (request : CompositionInstantiationRequest) (pattern : CertifiedCompositionPattern)
    (roleRequirements : List CompositionRoleRequirement) (stages : List BoundStage) : Prop where
  /-- The pattern is certified. -/
  certified : pattern ∈ certifiedPatterns
  /-- There is one requirement for each role. -/
  roles : roleRequirements.map CompositionRoleRequirement.role = rolesOf pattern
  /-- The stages are those of the pattern. -/
  slots : stages.map BoundStage.slot = pattern.slots
  /-- Stages have the requirements on their roles. -/
  required : ∀ stage ∈ stages,
    requirementsByRole roleRequirements stage.slot.role = .ok stage.requirement
  /-- Records are registered. -/
  registered : ∀ stage ∈ stages, stage.record ∈ request.registry.records
  /-- Records meet the requirements. -/
  compatible : ∀ stage ∈ stages,
    (evaluateCompatibility stage.record stage.requirement.requirements).status = .compatible
  /-- Stages of one group have one identity. -/
  groups_agree : groupsAgree Dict.empty (stages.map fun stage => (stage.slot, stage.record))

theorem boundStage_eq_ok {bound : PatternSlot × ModelCapabilityRecord} {stage : BoundStage}
    (made : boundStage roleRequirements bound = .ok stage) :
    requirementsByRole roleRequirements stage.slot.role = .ok stage.requirement ∧
      (stage.slot, stage.record) = bound := by
  simp only [boundStage, bind_eq_ok, pure_eq_ok, Except.ok.injEq] at made
  obtain ⟨requirement, found, rfl⟩ := made
  exact ⟨found, rfl⟩

variable {pattern : CertifiedCompositionPattern}

theorem exists_staged (certified : pattern ∈ certifiedPatterns)
    (roles : roleRequirements.map CompositionRoleRequirement.role = rolesOf pattern)
    {binding : List ModelCapabilityRecord}
    (bound : binding ∈ bindings pattern (candidatesByRole request blocked roleRequirements)) :
    ∃ stages, boundStages pattern roleRequirements binding = .ok stages ∧
      Staged request pattern roleRequirements stages := by
  obtain ⟨chosen, agree⟩ := List.mem_filter.mp bound
  rw [mem_product, List.forall₂_map_right_iff] at chosen
  obtain ⟨sameLength, each⟩ := List.forall₂_iff_zip.mp chosen.flip
  have found : ∀ entry ∈ pattern.slots.zip binding, ∃ requirement,
      requirementsByRole roleRequirements entry.1.role = .ok requirement ∧
        entry.2 ∈ candidatesFor request blocked requirement := fun _ member =>
    mem_candidatesByRole.mp (each member)
  obtain ⟨stages, made⟩ : ∃ stages, boundStages pattern roleRequirements binding = .ok stages := by
    refine exists_mapM_eq_ok fun entry member => ?_
    obtain ⟨requirement, given, _⟩ := found entry member
    exact ⟨⟨entry.1, entry.2, requirement⟩, by simp [boundStage, given]⟩
  have pairs : stages.map (fun stage => (stage.slot, stage.record)) =
      pattern.slots.zip binding := by
    rw [map_of_mapM_eq_ok (fun _ _ made => (boundStage_eq_ok made).2) made, List.map_id']
  have candidate : ∀ stage ∈ stages,
      stage.record ∈ candidatesFor request blocked stage.requirement := by
    intro stage member
    obtain ⟨entry, inside, drawn⟩ := (mem_of_mapM_eq_ok made).mp member
    obtain ⟨required, rfl⟩ := boundStage_eq_ok drawn
    obtain ⟨requirement, given, candidate⟩ := found _ inside
    obtain rfl := Except.ok.inj (given.symm.trans required)
    exact candidate
  refine ⟨stages, made, ?_⟩
  exact
    { certified := certified
      roles := roles
      slots := by
        rw [← List.map_fst_zip sameLength.le, ← pairs, List.map_map]
        rfl
      required := fun stage member => by
        obtain ⟨entry, _, drawn⟩ := (mem_of_mapM_eq_ok made).mp member
        exact (boundStage_eq_ok drawn).1
      registered := fun stage member => (mem_candidatesFor.mp (candidate stage member)).2.1
      compatible := fun stage member => (mem_candidatesFor.mp (candidate stage member)).2.2
      groups_agree := pairs ▸ agree }

theorem exists_binding (certified : pattern ∈ certifiedPatterns)
    (roles : roleRequirements.map CompositionRoleRequirement.role = rolesOf pattern)
    (available : ∀ requirement ∈ roleRequirements,
      candidatesFor request blocked requirement ≠ []) :
    ∃ binding, binding ∈ bindings pattern (candidatesByRole request blocked roleRequirements) := by
  have drawable := drawable_of_certified pattern certified
  have unique : (roleRequirements.map CompositionRoleRequirement.role).Nodup :=
    roles ▸ drawable.roles_nodup
  have each : ∀ slot ∈ pattern.slots,
      candidatesByRole request blocked roleRequirements slot.role ≠ [] := by
    intro slot member
    have listed : slot.role ∈ roleRequirements.map CompositionRoleRequirement.role :=
      roles ▸ mem_rolesOf.mpr ⟨slot, member, rfl⟩
    obtain ⟨requirement, required, sameRole⟩ := List.mem_map.mp listed
    obtain ⟨record, candidate⟩ := List.exists_mem_of_ne_nil _ (available requirement required)
    exact List.ne_nil_of_mem (mem_candidatesByRole.mpr
      ⟨requirement, (requirementsByRole_eq_ok_iff unique).mpr ⟨required, sameRole⟩, candidate⟩)
  -- One record for each role, so that stages of one group agree.
  obtain ⟨first, isFirst⟩ := List.exists_mem_of_ne_nil _ drawable.slots_nonempty
  obtain ⟨fallback, _⟩ := List.exists_mem_of_ne_nil _ (each first isFirst)
  let pick := fun role => (candidatesByRole request blocked roleRequirements role).headD fallback
  refine ⟨pattern.slots.map fun slot => pick slot.role, List.mem_filter.mpr ⟨?_, ?_⟩⟩
  · rw [mem_product, List.forall₂_map_left_iff, List.forall₂_map_right_iff, List.forall₂_same]
    intro slot member
    obtain ⟨record, rest, listed⟩ := List.exists_cons_of_ne_nil (each slot member)
    simp only [pick, listed, List.headD_cons, List.mem_cons_self]
  · rw [groupsAgree_iff]
    refine ⟨fun _ => (pick .primary).identity, by simp, ?_⟩
    intro entry member group grouped
    rw [← List.map_id pattern.slots, List.map_map, List.zip_map'] at member
    obtain ⟨slot, inside, rfl⟩ := List.mem_map.mp member
    have shape := (certifiedPatterns_match pattern certified).identity_groups slot inside
    have primary : slot.role = .primary := by
      by_contra other
      simp [shape, other] at grouped
    simp only [Function.comp_apply, id, primary]

end Bindings

/-! ## Drawing a draft -/

section Drawing

variable {digest : Digest} {request : CompositionInstantiationRequest}
  {pattern : CertifiedCompositionPattern} {roleRequirements : List CompositionRoleRequirement}
  {assessments : List CapabilityEvidenceAssessment} {stages : List BoundStage}
  {edges : List CompositionEdge}

theorem draftEdge_eq_ok {edge : PatternEdge} {drawn : CompositionEdge}
    (made : draftEdge pattern roleRequirements edge = .ok drawn) :
    (drawn.sourceStageId, drawn.targetStageId, drawn.dependencyType) =
        (edge.sourceStageId, edge.targetStageId, edge.dependencyType) ∧
      ∃ role requirement, pattern.roleOf edge.sourceStageId = some role ∧
        requirementsByRole roleRequirements role = .ok requirement ∧
          drawn.artifactId = requirement.outputArtifacts.first.artifactId := by
  simp only [draftEdge, bind_eq_ok, pure_eq_ok, Except.ok.injEq] at made
  obtain ⟨role, known, requirement, required, rfl⟩ := made
  refine ⟨rfl, role, requirement, ?_, required, rfl⟩
  cases found : pattern.roleOf edge.sourceStageId with
  | none => simp [found] at known
  | some other => simpa [found] using known

namespace Staged

variable (staged : Staged request pattern roleRequirements stages)

include staged

theorem drawable : pattern.Drawable := drawable_of_certified pattern staged.certified

theorem roles_nodup : (roleRequirements.map CompositionRoleRequirement.role).Nodup :=
  staged.roles ▸ staged.drawable.roles_nodup

theorem stageIds_eq : stages.map (fun stage => stage.slot.stageId) = pattern.stageIds := by
  rw [CertifiedCompositionPattern.stageIds, ← staged.slots, List.map_map]
  rfl

theorem stageIds_nodup : (stages.map fun stage => stage.slot.stageId).Nodup :=
  staged.stageIds_eq ▸ (certifiedPatterns_match pattern staged.certified).stageIds_nodup

theorem stage_unique {stage other : BoundStage} (member : stage ∈ stages)
    (otherMember : other ∈ stages) (same : stage.slot.stageId = other.slot.stageId) :
    stage = other :=
  List.inj_on_of_nodup_map staged.stageIds_nodup member otherMember same

theorem requirement_mem {stage : BoundStage} (member : stage ∈ stages) :
    stage.requirement ∈ roleRequirements ∧ stage.requirement.role = stage.slot.role :=
  (requirementsByRole_eq_ok_iff staged.roles_nodup).mp (staged.required stage member)

theorem exists_stage_of_requirement {requirement : CompositionRoleRequirement}
    (required : requirement ∈ roleRequirements) :
    ∃ stage ∈ stages, stage.requirement = requirement := by
  have listed : requirement.role ∈ rolesOf pattern := staged.roles ▸ List.mem_map_of_mem required
  obtain ⟨slot, inside, sameRole⟩ := mem_rolesOf.mp listed
  rw [← staged.slots, List.mem_map] at inside
  obtain ⟨stage, member, rfl⟩ := inside
  have found := (requirementsByRole_eq_ok_iff staged.roles_nodup).mpr ⟨required, sameRole.symm⟩
  exact ⟨stage, member, Except.ok.inj ((staged.required stage member).symm.trans found)⟩

/-- The requirement on the source of a handoff is found. -/
theorem exists_source {edge : PatternEdge} (isEdge : edge ∈ pattern.edges) :
    ∃ stage ∈ stages, stage.slot.stageId = edge.sourceStageId ∧
      pattern.roleOf edge.sourceStageId = some stage.slot.role := by
  obtain ⟨slot, inside, sameId, role⟩ := staged.drawable.sources_known edge isEdge
  rw [← staged.slots, List.mem_map] at inside
  obtain ⟨stage, member, rfl⟩ := inside
  exact ⟨stage, member, sameId, role⟩

theorem exists_target {edge : PatternEdge} (isEdge : edge ∈ pattern.edges) :
    ∃ stage ∈ stages, stage.slot.stageId = edge.targetStageId := by
  have listed := staged.drawable.targets_known edge isEdge
  rw [← staged.stageIds_eq, List.mem_map] at listed
  exact listed

/-- Every handoff of the pattern is drawn. -/
theorem exists_draftEdges :
    ∃ edges, pattern.edges.mapM (draftEdge pattern roleRequirements) = .ok edges := by
  refine exists_mapM_eq_ok fun edge isEdge => ?_
  obtain ⟨stage, member, _, role⟩ := staged.exists_source isEdge
  exact ⟨_, by simp only [draftEdge, role, Option.elim_some, ok_bind,
    staged.required stage member]; rfl⟩

end Staged

/-- Drawn handoffs are already in order. -/
theorem canonical_draftEdges (drawable : pattern.Drawable)
    (drawn : pattern.edges.mapM (draftEdge pattern roleRequirements) = .ok edges) :
    canonical CompositionEdge.key edges = edges := by
  have sources : edges.map CompositionEdge.sourceStageId =
      pattern.edges.map PatternEdge.sourceStageId :=
    map_of_mapM_eq_ok (fun _ _ made => congrArg Prod.fst (draftEdge_eq_ok made).1) drawn
  have ordered := drawable.sources_sorted
  rw [← sources, List.pairwise_map] at ordered
  refine canonical_eq_self _ (ordered.imp ?_) (ordered.imp ?_)
  · intro left right before same
    exact lt_irrefl _ (same ▸ before)
  · intro left right before
    exact Prod.Lex.toLex_le_toLex.mpr (.inl before)

theorem links_draftEdges
    (drawn : pattern.edges.mapM (draftEdge pattern roleRequirements) = .ok edges) :
    edges.map (fun edge => (edge.sourceStageId, edge.targetStageId, edge.dependencyType)) =
      pattern.links :=
  map_of_mapM_eq_ok (fun _ _ made => (draftEdge_eq_ok made).1) drawn

theorem arrows_draftEdges
    (drawn : pattern.edges.mapM (draftEdge pattern roleRequirements) = .ok edges) :
    edges.map CompositionEdge.arrow = pattern.arrows := by
  refine map_of_mapM_eq_ok (fun _ _ made => ?_) drawn
  have same := (draftEdge_eq_ok made).1
  exact congrArg (fun link : Link => (link.1, link.2.1)) same

theorem stageIds_normalized (draft : DraftFields) :
    draft.normalized.stageIds = sortOn id draft.stageIds :=
  map_sortOn CompositionNode.stageId CompositionNode.stageId id (fun _ => rfl) draft.nodes

theorem isSha256Id_of_hexadecimal (hexadecimal : digest.Hexadecimal) (payload : Json) :
    IsSha256Id ("sha256:" ++ digest.hexdigest payload) := by
  obtain ⟨length, digits⟩ := hexadecimal payload
  have front : "sha256:".toList.length = 7 := by decide
  rw [IsSha256Id, String.toList_append, ← front, List.take_left, List.drop_left]
  exact ⟨rfl, length, digits⟩

theorem check_draftFields (staged : Staged request pattern roleRequirements stages)
    (hexadecimal : digest.Hexadecimal)
    (drawn : pattern.edges.mapM (draftEdge pattern roleRequirements) = .ok edges) :
    (draftFields digest request pattern roleRequirements stages edges assessments).check =
      .ok () := by
  have identities := request.intelligenceResult.identity_nonblank
  have graphTexts := request.graph.texts_nonblank
  have shape := certifiedPatterns_match pattern staged.certified
  have counted := shape.max_nodes
  have stageCount : stages.length = pattern.slots.length := by
    rw [← staged.slots, List.length_map]
  have someStage : stages ≠ [] := by
    intro none
    exact staged.drawable.slots_nonempty (by rw [← staged.slots, none, List.map_nil])
  have stageIds : (draftFields digest request pattern roleRequirements stages edges
      assessments).stageIds = pattern.stageIds := by
    rw [← staged.stageIds_eq]
    simp only [DraftFields.stageIds, draftFields, List.map_map]
    rfl
  have graph : checkStageGraph
      (draftFields digest request pattern roleRequirements stages edges
        assessments).normalized.stageIds
      (draftFields digest request pattern roleRequirements stages edges
        assessments).normalized.arrows = .ok () := by
    rw [stageIds_normalized, stageIds, DraftFields.arrows]
    simp only [DraftFields.normalized, draftFields, canonical_draftEdges staged.drawable drawn,
      arrows_draftEdges drawn]
    exact staged.drawable.graph_valid
  simp only [DraftFields.check, bind_eq_ok, rule_eq_ok, forEach_eq_ok, exists_const]
  refine ⟨rfl, ?_, isSha256Id_of_hexadecimal hexadecimal _, ?_, ?_, ?_, ?_, ?_, ?_, graph⟩
  · simp only [List.forall_mem_cons] at identities graphTexts
    have prefixed : Text.Nonblank (compositionIdOf digest request.intelligenceResult.requestId
        request.intelligenceResult.workloadId request.intelligenceResult.sessionId
        request.graph.graphId pattern (stages.map BoundStage.content)) :=
      Text.nonblank_append_left (by decide) _
    simp [draftFields, prefixed, identities, graphTexts, pattern.patternId_nonblank]
  · simpa [draftFields] using someStage
  · simp only [draftFields, List.length_map]
    omega
  · exact stageIds ▸ shape.stageIds_nodup
  · intro requirementId listed
    simp only [draftFields, mem_canonical, List.mem_flatMap] at listed
    obtain ⟨requirement, _, member⟩ := listed
    exact requirement.requirementIds_nonblank requirementId member
  · obtain ⟨stage, member⟩ := List.exists_mem_of_ne_nil _ someStage
    have listed : stage.requirement.requirementIds.first ∈
        roleRequirements.flatMap fun item => item.requirementIds.items :=
      List.mem_flatMap.mpr ⟨stage.requirement, (staged.requirement_mem member).1,
        stage.requirement.requirementIds.first_mem⟩
    exact canonical_ne_nil _ (List.ne_nil_of_mem listed)
  · simp [draftFields, draftProvenance]

theorem exists_draft {binding : List ModelCapabilityRecord} (hexadecimal : digest.Hexadecimal)
    (bound : boundStages pattern roleRequirements binding = .ok stages)
    (staged : Staged request pattern roleRequirements stages) :
    ∃ drawn, draft digest request pattern roleRequirements assessments binding = .ok drawn := by
  obtain ⟨edges, drawn⟩ := staged.exists_draftEdges
  simp only [draft, bound, drawn, ok_bind]
  exact ⟨⟨_, DraftFields.check_eq_ok_iff.mp (check_draftFields staged hexadecimal drawn)⟩,
    CompositionCandidateDraft.make_eq_ok_iff.mpr
      ⟨check_draftFields staged hexadecimal drawn, rfl⟩⟩

/-- A draft with the stages that it was drawn from. -/
structure Drawn (digest : Digest) (request : CompositionInstantiationRequest)
    (pattern : CertifiedCompositionPattern) (roleRequirements : List CompositionRoleRequirement)
    (assessments : List CapabilityEvidenceAssessment) (stages : List BoundStage)
    (draft : CompositionCandidateDraft) : Prop where
  /-- The stages are those of the pattern. -/
  staged : Staged request pattern roleRequirements stages
  /-- The draft has their fields, in canonical form. -/
  fields : ∃ edges, pattern.edges.mapM (draftEdge pattern roleRequirements) = .ok edges ∧
    draft.toDraftFields =
      (draftFields digest request pattern roleRequirements stages edges assessments).normalized

theorem drawn_of_draft {binding : List ModelCapabilityRecord} {drawn : CompositionCandidateDraft}
    (bound : boundStages pattern roleRequirements binding = .ok stages)
    (staged : Staged request pattern roleRequirements stages)
    (made : draft digest request pattern roleRequirements assessments binding = .ok drawn) :
    Drawn digest request pattern roleRequirements assessments stages drawn := by
  simp only [draft, bound, ok_bind, bind_eq_ok, CompositionCandidateDraft.make_eq_ok_iff] at made
  obtain ⟨edges, linked, _, fields⟩ := made
  exact ⟨staged, edges, linked, fields⟩

end Drawing

/-! ## Enumerated drafts -/

section Enumeration

variable {digest : Digest} {request : CompositionInstantiationRequest}
  {pattern : CertifiedCompositionPattern} {assessments : List CapabilityEvidenceAssessment}
  {blocked : List CompositionRole}

/-- Some registered record meets the requirements on each role of a pattern. -/
def HasCandidates (request : CompositionInstantiationRequest) (blocked : List CompositionRole)
    (roleRequirements : List CompositionRoleRequirement) : Prop :=
  ∀ requirement ∈ roleRequirements, candidatesFor request blocked requirement ≠ []

theorem instantiatePattern_eq {roleRequirements : List CompositionRoleRequirement}
    (derived : deriveRoleRequirements request pattern = .ok roleRequirements)
    (available : HasCandidates request blocked roleRequirements) :
    instantiatePattern digest request assessments blocked pattern =
      (fun drafts => (drafts, [])) <$>
        (bindings pattern (candidatesByRole request blocked roleRequirements)).mapM
          (draft digest request pattern roleRequirements assessments) := by
  have none : (roleRequirements.filter fun requirement =>
      (candidatesFor request blocked requirement).isEmpty) = [] := by
    rw [List.filter_eq_nil_iff]
    intro requirement required
    simpa using available requirement required
  simp only [instantiatePattern, derived, none]
  rfl

variable (digest assessments) in
theorem instantiatePattern_of_lacking {roleRequirements : List CompositionRoleRequirement}
    (derived : deriveRoleRequirements request pattern = .ok roleRequirements)
    (lacking : ¬ HasCandidates request blocked roleRequirements) :
    ∃ issues, instantiatePattern digest request assessments blocked pattern = .ok ([], issues) := by
  have some : (roleRequirements.filter fun requirement =>
      (candidatesFor request blocked requirement).isEmpty) ≠ [] := by
    simp only [HasCandidates, not_forall, not_not] at lacking
    obtain ⟨requirement, required, empty⟩ := lacking
    exact List.ne_nil_of_mem (List.mem_filter.mpr ⟨required, by simp [empty]⟩)
  exact ⟨_, by simp only [instantiatePattern, derived, if_pos some]; rfl⟩

theorem exists_instantiatePattern (hexadecimal : digest.Hexadecimal)
    (certified : pattern ∈ certifiedPatterns) :
    ∃ outcome, instantiatePattern digest request assessments blocked pattern = .ok outcome := by
  cases derived : deriveRoleRequirements request pattern with
  | error raised => exact ⟨_, by rw [instantiatePattern, derived]⟩
  | ok roleRequirements =>
      by_cases available : HasCandidates request blocked roleRequirements
      · obtain ⟨drafts, drawn⟩ : ∃ drafts,
            (bindings pattern (candidatesByRole request blocked roleRequirements)).mapM
              (draft digest request pattern roleRequirements assessments) = .ok drafts := by
          refine exists_mapM_eq_ok fun binding bound => ?_
          obtain ⟨stages, made, staged⟩ :=
            exists_staged certified (roles_of_derive derived) bound
          exact exists_draft hexadecimal made staged
        exact ⟨(drafts, []), by rw [instantiatePattern_eq derived available, drawn]; rfl⟩
      · obtain ⟨issues, outcome⟩ :=
          instantiatePattern_of_lacking digest assessments derived available
        exact ⟨_, outcome⟩

/-- The drafts of a pattern are those drawn from its stages, and there are some where each role
has candidates. -/
theorem drafts_of_instantiatePattern (certified : pattern ∈ certifiedPatterns)
    {outcome : List CompositionCandidateDraft × List InstantiationIssue}
    (made : instantiatePattern digest request assessments blocked pattern = .ok outcome) :
    (∀ draft ∈ outcome.1, ∃ roleRequirements stages,
      deriveRoleRequirements request pattern = .ok roleRequirements ∧
        HasCandidates request blocked roleRequirements ∧
        Drawn digest request pattern roleRequirements assessments stages draft) ∧
      ∀ roleRequirements, deriveRoleRequirements request pattern = .ok roleRequirements →
        HasCandidates request blocked roleRequirements → outcome.1 ≠ [] := by
  cases derived : deriveRoleRequirements request pattern with
  | error raised =>
      rw [instantiatePattern, derived, Except.ok.injEq] at made
      subst made
      simp
  | ok roleRequirements =>
      by_cases available : HasCandidates request blocked roleRequirements
      · rw [instantiatePattern_eq derived available] at made
        obtain ⟨drafts, drawn, rfl⟩ : ∃ drafts,
            (bindings pattern (candidatesByRole request blocked roleRequirements)).mapM
              (draft digest request pattern roleRequirements assessments) = .ok drafts ∧
              (drafts, []) = outcome := by
          rw [map_eq_pure_bind, bind_eq_ok] at made
          simpa using made
        constructor
        · intro draft member
          obtain ⟨binding, bound, drew⟩ := (mem_of_mapM_eq_ok drawn).mp member
          obtain ⟨stages, made, staged⟩ :=
            exists_staged certified (roles_of_derive derived) bound
          exact ⟨roleRequirements, stages, rfl, available, drawn_of_draft made staged drew⟩
        · rintro _ _ _ rfl
          obtain ⟨binding, bound⟩ := exists_binding certified (roles_of_derive derived) available
          rw [mapM_eq_ok_iff_forall₂, List.forall₂_nil_right_iff] at drawn
          simp [drawn] at bound
      · obtain ⟨issues, outcome⟩ := instantiatePattern_of_lacking digest assessments derived
          available
        obtain rfl := Except.ok.inj (outcome.symm.trans made)
        refine ⟨by simp, ?_⟩
        intro other same candidates
        obtain rfl := Except.ok.inj same
        exact absurd candidates available

/-- Where the evidence can be assessed, the instantiation answers, and what it answers with are the
drafts of the applicable patterns. -/
theorem exists_instantiate (hexadecimal : digest.Hexadecimal)
    (assessed : assessConstraints request = .ok assessments) :
    ∃ result, instantiate digest request = .ok result ∧ ∀ draft, draft ∈ result.drafts ↔
      ∃ pattern ∈ applicablePatterns request, ∃ outcome,
        instantiatePattern digest request assessments (blockedRoles request assessments) pattern =
          .ok outcome ∧ draft ∈ outcome.1 := by
  obtain ⟨outcomes, made⟩ : ∃ outcomes, (applicablePatterns request).mapM
      (instantiatePattern digest request assessments (blockedRoles request assessments)) =
        .ok outcomes :=
    exists_mapM_eq_ok fun pattern applicable =>
      exists_instantiatePattern hexadecimal (List.mem_of_mem_filter applicable)
  refine ⟨_, by simp only [instantiate, assessed, made, ok_bind]; rfl, fun draft => ?_⟩
  simp only [List.mem_flatMap, mem_of_mapM_eq_ok made]
  constructor
  · rintro ⟨outcome, ⟨pattern, applicable, answered⟩, member⟩
    exact ⟨pattern, applicable, outcome, answered, member⟩
  · rintro ⟨pattern, applicable, outcome, answered, member⟩
    exact ⟨outcome, ⟨pattern, applicable, answered⟩, member⟩

end Enumeration

end Composition
end MercuryX
