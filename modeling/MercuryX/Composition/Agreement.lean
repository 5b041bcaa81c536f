import MercuryX.Composition.Drafts
import MercuryX.Graph.Coverage

/-!
# Agreement of instantiation and validation

A draft drawn from a certified pattern passes every check of its validation, except that its
handoffs may not fit. Derived requirements let roles give out text alone, and take in what the
workload does, so handoffs fit exactly when the workload takes in text, and structured data where
structured output is required.
-/

namespace MercuryX
namespace Composition

open Foundation
open Intelligence
open Models

/-! ## What drawn drafts pass -/

theorem requirementIds_justifications (stage : BoundStage) :
    sortOn id (stage.justifications.items.map CapabilityJustification.requirementId) =
      stage.requirement.requirementIds.items := by
  let drawn := stage.requirement.requirementIds.items.attach.map fun item =>
    stage.justification item.1 item.2
  have kept : drawn.map CapabilityJustification.requirementId =
      stage.requirement.requirementIds.items := by
    rw [List.map_map]
    exact List.attach_map_subtype_val _
  have unique : stage.requirement.requirementIds.items.Nodup :=
    stage.requirement.requirementIds.canonical_eq ▸ canonical_nodup _ _
  have once : drawn.Nodup := List.Nodup.of_map _ (kept ▸ unique)
  have items : stage.justifications.items = sortOn CapabilityJustification.key drawn := by
    calc
      stage.justifications.items = canonical CapabilityJustification.key drawn := rfl
      _ = sortOn CapabilityJustification.key drawn := by rw [canonical, once.dedup]
  have perm : (stage.justifications.items.map CapabilityJustification.requirementId).Perm
      stage.requirement.requirementIds.items := by
    rw [items]
    exact kept ▸ (sortOn_perm _ _).map _
  have separate : Separates id
      (stage.justifications.items.map CapabilityJustification.requirementId) :=
    fun _ _ _ _ same => same
  have sorted := canonical_pairwise id stage.requirement.requirementIds.items
  rw [stage.requirement.requirementIds.canonical_eq] at sorted
  rw [sortOn_eq_of_perm separate perm, sortOn_eq_self id sorted]

namespace ArtifactTuple

theorem find?_first (artifacts : ArtifactTuple) :
    artifacts.items.find? (fun item => item.artifactId = artifacts.first.artifactId) =
      some artifacts.first := by
  obtain ⟨items, nonempty, unique, sorted⟩ := artifacts
  obtain ⟨head, tail, rfl⟩ := List.exists_cons_of_ne_nil nonempty
  simp [first]

end ArtifactTuple

theorem carryIssues_eq_nil_iff {edge : CompositionEdge} {outputs : ArtifactTuple}
    {inputs : List CompositionArtifactContract}
    (carries : edge.artifactId = outputs.first.artifactId) :
    carryIssues edge outputs.items inputs = [] ↔ sharesModality outputs.first inputs ∧
      (outputs.first.requiresStructuredOutput →
        inputs.any CompositionArtifactContract.isStructured) := by
  simp only [carryIssues, carries, outputs.find?_first, List.append_eq_nil_iff, issueIf_eq_nil,
    not_not, not_and]

theorem markerIssues_eq_nil_iff {edge : CompositionEdge} {role : CompositionRole} :
    markerIssues edge role = [] ↔ ∀ marker issueId, semanticRoles role = some (marker, issueId) →
      marker.toList <:+: edge.artifactId.toList := by
  unfold markerIssues
  cases named : semanticRoles role with
  | none => simp
  | some entry =>
      obtain ⟨marker, issueId⟩ := entry
      simp

/-- What one requirement gives out first is taken in by another. -/
structure HandsOff (source target : CompositionRoleRequirement) : Prop where
  /-- A modality of the artifact is taken in. -/
  modality : sharesModality source.outputArtifacts.first target.inputArtifacts.items
  /-- A structured artifact is taken in as such. -/
  structured : source.outputArtifacts.first.requiresStructuredOutput →
    target.inputArtifacts.items.any CompositionArtifactContract.isStructured
  /-- The artifact is named for the role that gives it out. -/
  marked : ∀ marker issueId, semanticRoles source.role = some (marker, issueId) →
    marker.toList <:+: source.outputArtifacts.first.artifactId.toList

namespace Drawn

variable {digest : Digest} {request : CompositionInstantiationRequest}
  {pattern : CertifiedCompositionPattern} {roleRequirements : List CompositionRoleRequirement}
  {assessments : List CapabilityEvidenceAssessment} {stages : List BoundStage}
  {draft : CompositionCandidateDraft}
  (drawn : Drawn digest request pattern roleRequirements assessments stages draft)

include drawn

theorem topology_eq : draft.topology = pattern.topology := by
  obtain ⟨edges, _, fields⟩ := drawn.fields
  rw [fields]
  rfl

theorem pattern_eq : getCertifiedPattern draft.topology = some pattern := by
  rw [drawn.topology_eq]
  exact getCertifiedPattern_topology pattern drawn.staged.certified

theorem nodes_eq : draft.nodes = sortOn CompositionNode.stageId (stages.map BoundStage.node) := by
  obtain ⟨edges, _, fields⟩ := drawn.fields
  rw [fields]
  rfl

theorem mem_nodes {node : CompositionNode} :
    node ∈ draft.nodes ↔ ∃ stage ∈ stages, stage.node = node := by
  rw [drawn.nodes_eq, mem_sortOn, List.mem_map]

theorem get?_node {stage : BoundStage} (member : stage ∈ stages) :
    (Dict.indexed CompositionNode.stageId draft.nodes).get? stage.slot.stageId =
      some stage.node :=
  (Dict.indexed_get?_eq_some_iff draft.valid.stageIds_nodup).mpr
    ⟨drawn.mem_nodes.mpr ⟨stage, member, rfl⟩, rfl⟩

theorem shape_eq : draft.shape = pattern.shape := by
  obtain ⟨edges, linked, fields⟩ := drawn.fields
  have slots : draft.nodes.map (fun node => (node.stageId, node.role)) =
      sortOn Prod.fst (pattern.slots.map fun slot => (slot.stageId, slot.role)) := by
    rw [drawn.nodes_eq, map_sortOn _ _ Prod.fst fun _ => rfl, ← drawn.staged.slots, List.map_map,
      List.map_map]
    rfl
  have links : draft.edges.map (fun edge =>
      (edge.sourceStageId, edge.targetStageId, edge.dependencyType)) = pattern.links := by
    rw [← links_draftEdges linked, fields]
    simp only [DraftFields.normalized, draftFields,
      canonical_draftEdges drawn.staged.drawable linked]
  rw [DraftFields.shape, slots, links, fields]
  rfl

/-- The records bound to the primary stages of a return topology have one identity. -/
theorem primaryRepeated_nodes (returns : pattern.topology ∈ returnTopologies) :
    primaryRepeated (primaryIdentities draft.nodes) := by
  obtain ⟨chosen, _, fits⟩ := groupsAgree_iff.mp drawn.staged.groups_agree
  have groups := (certifiedPatterns_match pattern drawn.staged.certified).identity_groups
  have same : ∀ identity ∈ primaryIdentities draft.nodes, identity = chosen "primary" := by
    intro identity listed
    obtain ⟨node, member, rfl⟩ := List.mem_map.mp listed
    obtain ⟨inside, primary⟩ := List.mem_filter.mp member
    obtain ⟨stage, isStage, rfl⟩ := drawn.mem_nodes.mp inside
    have slotMember : stage.slot ∈ pattern.slots :=
      drawn.staged.slots ▸ List.mem_map_of_mem isStage
    have isPrimary : stage.slot.role = .primary := of_decide_eq_true primary
    have grouped : stage.slot.identityGroup = some "primary" := by
      rw [groups stage.slot slotMember, if_pos ⟨returns, isPrimary⟩]
    exact (fits _ (List.mem_map_of_mem isStage) "primary" grouped).symm
  have twice : (primaryIdentities draft.nodes).length = 2 := by
    have counted := drawn.staged.drawable.primary_twice returns
    rw [← List.countP_eq_length_filter, ← drawn.staged.slots, List.countP_map] at counted
    rw [primaryIdentities, List.length_map, ← List.countP_eq_length_filter, drawn.nodes_eq,
      (sortOn_perm _ _).countP_eq, List.countP_map]
    exact counted
  obtain ⟨entry, exit, pair⟩ := List.length_eq_two.mp twice
  rw [pair] at same
  rw [pair, primaryRepeated, same entry (by simp), same exit (by simp), decide_eq_true rfl]

theorem identityAndCapabilityIssues_eq_nil :
    identityAndCapabilityIssues draft.toDraftFields (contextOf request draft) (some pattern) =
      [] := by
  obtain ⟨edges, _, fields⟩ := drawn.fields
  have identity : (draft.requestId, draft.workloadId, draft.sessionId, draft.graphId) =
      (request.intelligenceResult.requestId, request.intelligenceResult.workloadId,
        request.intelligenceResult.sessionId, request.graph.graphId) := by
    rw [fields]
    rfl
  have clean : draft.nodes.flatMap (stageIssues request.registry) = [] := by
    rw [List.flatMap_eq_nil_iff]
    intro node member
    obtain ⟨stage, isStage, rfl⟩ := drawn.mem_nodes.mp member
    have found := ModelCapabilityRegistry.lookup_identity (drawn.staged.registered stage isStage)
    have compatible := drawn.staged.compatible stage isStage
    simp [stageIssues, BoundStage.node, found, compatible]
  simp only [identityAndCapabilityIssues, contextOf, identity, clean, List.append_eq_nil_iff,
    issueIf_eq_nil, ne_eq, not_true_eq_false, not_false_eq_true, true_and, Option.any_some,
    decide_eq_true_eq, not_and, not_not]
  exact drawn.primaryRepeated_nodes

theorem requirements_justified :
    draft.satisfiedRequirementIds ⊆ justifiedIds draft.nodes := by
  intro requirementId listed
  obtain ⟨edges, _, fields⟩ := drawn.fields
  rw [fields] at listed
  simp only [DraftFields.normalized, draftFields, mem_canonical, List.mem_flatMap] at listed
  obtain ⟨requirement, required, member⟩ := listed
  obtain ⟨stage, isStage, rfl⟩ := drawn.staged.exists_stage_of_requirement required
  rw [← requirementIds_justifications, mem_sortOn] at member
  exact List.mem_flatMap.mpr ⟨stage.node, drawn.mem_nodes.mpr ⟨stage, isStage, rfl⟩, member⟩

/-- The validation finds the content that the identity was drawn from. -/
theorem stageContents_eq :
    pattern.slots.mapM (stageContent draft.nodes) = some (stages.map BoundStage.content) := by
  have each : ∀ stage ∈ stages, stageContent draft.nodes stage.slot = some stage.content := by
    intro stage member
    rw [stageContent, drawn.get?_node member, Option.map_some, Option.some_inj]
    simp only [BoundStage.content, BoundStage.node, requirementIds_justifications]
  rw [← drawn.staged.slots]
  clear drawn
  induction stages with
  | nil => rfl
  | cons stage stages induction =>
      rw [List.forall_mem_cons] at each
      simp [List.mapM_cons, each.1, induction each.2]

/-- The validation finds the id that the draft was given. -/
theorem semanticCompositionId_eq :
    semanticCompositionId digest draft.toDraftFields pattern = some draft.compositionId := by
  obtain ⟨edges, _, fields⟩ := drawn.fields
  rw [semanticCompositionId, drawn.stageContents_eq, Option.map_some, fields]
  rfl

/-- What a drawn handoff carries fits exactly when the requirements of its stages hand off. -/
theorem edgeIssues_eq_nil_iff {edge : PatternEdge} {made : CompositionEdge}
    {source target : BoundStage} (isSource : source ∈ stages) (isTarget : target ∈ stages)
    (leaves : source.slot.stageId = edge.sourceStageId)
    (enters : target.slot.stageId = edge.targetStageId) (isEdge : edge ∈ pattern.edges)
    (linked : draftEdge pattern roleRequirements edge = .ok made) :
    edgeIssues (Dict.indexed CompositionNode.stageId draft.nodes) made = [] ↔
      HandsOff source.requirement target.requirement := by
  obtain ⟨link, role, requirement, known, required, artifact⟩ := draftEdge_eq_ok linked
  simp only [Prod.mk.injEq] at link
  obtain ⟨sameSource, sameTarget, _⟩ := link
  obtain ⟨stage, isStage, sameId, roleKnown⟩ := drawn.staged.exists_source isEdge
  obtain rfl : stage = source := drawn.staged.stage_unique isStage isSource
    (sameId.trans leaves.symm)
  obtain rfl := Option.some_inj.mp (roleKnown.symm.trans known)
  obtain rfl := Except.ok.inj ((drawn.staged.required stage isStage).symm.trans required)
  have sourceNode := drawn.get?_node isSource
  have targetNode := drawn.get?_node isTarget
  rw [leaves, ← sameSource] at sourceNode
  rw [enters, ← sameTarget] at targetNode
  have sameRole : stage.node.role = stage.requirement.role :=
    (drawn.staged.requirement_mem isStage).2.symm
  have carries : made.artifactId = stage.node.outputArtifacts.first.artifactId := artifact
  simp only [edgeIssues, sourceNode, targetNode, List.append_eq_nil_iff]
  rw [carryIssues_eq_nil_iff carries, markerIssues_eq_nil_iff, artifact, sameRole]
  constructor
  · rintro ⟨⟨modality, structured⟩, marked⟩
    exact ⟨modality, structured, marked⟩
  · rintro ⟨modality, structured, marked⟩
    exact ⟨⟨modality, structured⟩, marked⟩

theorem handoffIssues_eq_nil_iff : handoffIssues draft.toDraftFields = [] ↔
    ∀ edge ∈ pattern.edges, ∀ source ∈ stages, ∀ target ∈ stages,
      source.slot.stageId = edge.sourceStageId → target.slot.stageId = edge.targetStageId →
        HandsOff source.requirement target.requirement := by
  obtain ⟨edges, linked, fields⟩ := drawn.fields
  have listed : draft.edges = edges := by
    rw [fields]
    exact canonical_draftEdges drawn.staged.drawable linked
  rw [handoffIssues, listed, List.flatMap_eq_nil_iff]
  constructor
  · intro clean edge isEdge source isSource target isTarget leaves enters
    obtain ⟨made, member, drew⟩ := exists_of_mapM_eq_ok linked isEdge
    exact (drawn.edgeIssues_eq_nil_iff isSource isTarget leaves enters isEdge drew).mp
      (clean made member)
  · intro handsOff made member
    obtain ⟨edge, isEdge, drew⟩ := (mem_of_mapM_eq_ok linked).mp member
    obtain ⟨source, isSource, leaves, _⟩ := drawn.staged.exists_source isEdge
    obtain ⟨target, isTarget, enters⟩ := drawn.staged.exists_target isEdge
    exact (drawn.edgeIssues_eq_nil_iff isSource isTarget leaves enters isEdge drew).mpr
      (handsOff edge isEdge source isSource target isTarget leaves enters)

/-- A draft without evidence to assess passes exactly when its handoffs fit. -/
theorem validate_pass_iff_handoffs (none : assessments = []) :
    (validateCompositionCandidate digest draft (contextOf request draft)).status = .pass ↔
      handoffIssues draft.toDraftFields = [] := by
  have shaped : topologyIssues draft.shape (some pattern) = [] :=
    drawn.shape_eq ▸ drawn.staged.drawable.shape_valid
  have unassessed : draft.evidenceAssessments = [] := by
    obtain ⟨edges, _, fields⟩ := drawn.fields
    rw [fields]
    simp [DraftFields.normalized, draftFields, relevantAssessments, none, canonical, sortOn]
  have covered : coverageAndEvidenceIssues draft.toDraftFields (contextOf request draft) = [] := by
    simp [coverageAndEvidenceIssues, unassessed, contextOf, drawn.requirements_justified]
  rw [validate_pass_iff, validationIssues_eq_nil_iff drawn.pattern_eq]
  simp [shaped, drawn.identityAndCapabilityIssues_eq_nil, covered, drawn.semanticCompositionId_eq]

end Drawn

/-! ## Derived requirements -/

section Derived

variable {request : CompositionInstantiationRequest} {pattern : CertifiedCompositionPattern}
  {role : CompositionRole} {requirement : CompositionRoleRequirement}
  {roleRequirements : List CompositionRoleRequirement}
  {capabilities : List ComputationalCapability}

/-- What models take in lets them take in what the models of earlier stages give out. -/
def HandoffsCarried (request : CompositionInstantiationRequest) : Prop :=
  ∀ modalities, phase4Modalities request = .ok modalities → .text ∈ modalities.items ∧
    (.structuredOutput ∈ requiredCapabilities request → .structuredData ∈ modalities.items)

theorem exists_derived (unstated : request.roleRequirements = [])
    (derived : deriveRoleRequirements request pattern = .ok roleRequirements)
    (required : requirement ∈ roleRequirements) :
    ∃ modalities, phase4Modalities request = .ok modalities ∧ ∃ capabilities,
      derivedCapabilities (requiredCapabilities request) pattern requirement.role =
        .ok capabilities ∧
      roleRequirementOf request requirement.role modalities capabilities = requirement := by
  obtain ⟨role, _, given⟩ := (mem_of_mapM_eq_ok derived).mp required
  obtain rfl := role_of_roleRequirement given
  simp only [roleRequirement, unstated] at given
  exact derivedRoleRequirement_eq_ok_iff.mp given

theorem marker_infix (role : CompositionRole) {marker issueId : String}
    (named : semanticRoles role = some (marker, issueId)) :
    marker.toList <:+: (role.value ++ "-output").toList := by
  cases role with
  | primary => nomatch named
  | verifier => nomatch named
  | critic => nomatch named
  | specialist =>
      obtain ⟨rfl, rfl⟩ := Prod.mk.inj (Option.some_inj.mp named)
      decide
  | retrievalAugmenter =>
      obtain ⟨rfl, rfl⟩ := Prod.mk.inj (Option.some_inj.mp named)
      decide
  | toolModel =>
      obtain ⟨rfl, rfl⟩ := Prod.mk.inj (Option.some_inj.mp named)
      decide

/-- Derived requirements hand off exactly when text is taken in, and structured data where the
source gives out structured text. -/
theorem handsOff_derived_iff {targetRole : CompositionRole}
    {modalities : CanonicalTuple ModelModality ModelModality.value}
    {targetCapabilities : List ComputationalCapability} :
    HandsOff (roleRequirementOf request role modalities capabilities)
        (roleRequirementOf request targetRole modalities targetCapabilities) ↔
      .text ∈ modalities.items ∧
        (.structuredOutput ∈ capabilities → .structuredData ∈ modalities.items) := by
  have shares : ∀ structured, sharesModality (outputArtifact role structured)
      [inputArtifact targetRole modalities] ↔ .text ∈ modalities.items := by
    intro structured
    simp [sharesModality, outputArtifact, inputArtifact, CanonicalTuple.of, canonical, sortOn]
  have structures : ([inputArtifact targetRole modalities].any
      CompositionArtifactContract.isStructured) ↔ .structuredData ∈ modalities.items := by
    simp [CompositionArtifactContract.isStructured, inputArtifact]
  constructor
  · rintro ⟨modality, structured, _⟩
    exact ⟨(shares _).mp modality, fun gives => structures.mp (structured (decide_eq_true gives))⟩
  · rintro ⟨modality, structured⟩
    exact
      { modality := (shares _).mpr modality
        structured := fun gives => structures.mpr (structured (of_decide_eq_true gives))
        marked := fun marker issueId named => marker_infix role named }

theorem structuredOutput_required {required : List ComputationalCapability}
    (derived : derivedCapabilities required pattern role = .ok capabilities)
    (gives : .structuredOutput ∈ capabilities) : .structuredOutput ∈ required := by
  cases role with
  | primary =>
      simp only [derivedCapabilities, Except.ok.injEq] at derived
      subst derived
      split at gives
      · exact List.mem_of_mem_filter gives
      · exact gives
  | specialist => nomatch derived
  | critic => nomatch derived
  | verifier =>
      simp only [derivedCapabilities, Except.ok.injEq, reduceCtorEq, and_false, if_false]
        at derived
      subst derived
      exact List.mem_of_mem_filter gives
  | retrievalAugmenter =>
      obtain rfl := Except.ok.inj derived
      simp at gives
  | toolModel =>
      simp only [derivedCapabilities, Except.ok.injEq, reduceCtorEq, and_false, if_false]
        at derived
      subst derived
      split at gives
      · simp at gives
      · exact List.mem_of_mem_filter gives

/-- The primary role gives out structured text wherever structured output is required. -/
theorem structuredOutput_primary {required : List ComputationalCapability}
    (derived : derivedCapabilities required pattern .primary = .ok capabilities)
    (listed : .structuredOutput ∈ required) : .structuredOutput ∈ capabilities := by
  simp only [derivedCapabilities, Except.ok.injEq] at derived
  subst derived
  split
  · exact List.mem_filter.mpr ⟨listed, by decide⟩
  · exact listed

/-- A pattern of several stages hands off from a primary stage. -/
theorem exists_primary_edge : ∀ pattern ∈ certifiedPatterns, 1 < pattern.slots.length →
    ∃ edge ∈ pattern.edges, pattern.roleOf edge.sourceStageId = some .primary := by
  decide

variable {digest : Digest} {stages : List BoundStage} {draft : CompositionCandidateDraft}
  {assessments : List CapabilityEvidenceAssessment}

/-- The handoffs of a draft of derived requirements fit exactly when it has several stages only
where handoffs are carried. -/
theorem Drawn.handoffIssues_derived_iff
    (drawn : Drawn digest request pattern roleRequirements assessments stages draft)
    (unstated : request.roleRequirements = [])
    (derived : deriveRoleRequirements request pattern = .ok roleRequirements) :
    handoffIssues draft.toDraftFields = [] ↔
      (1 < pattern.slots.length → HandoffsCarried request) := by
  have path := (certifiedPatterns_match pattern drawn.staged.certified).path
  rw [drawn.handoffIssues_eq_nil_iff]
  constructor
  · intro handsOff several modalities mapped
    obtain ⟨edge, isEdge, primary⟩ := exists_primary_edge pattern drawn.staged.certified several
    obtain ⟨source, isSource, leaves, known⟩ := drawn.staged.exists_source isEdge
    obtain ⟨target, isTarget, enters⟩ := drawn.staged.exists_target isEdge
    have fits := handsOff edge isEdge source isSource target isTarget leaves enters
    obtain ⟨sourceRequired, sourceRole⟩ := drawn.staged.requirement_mem isSource
    obtain ⟨targetRequired, _⟩ := drawn.staged.requirement_mem isTarget
    obtain ⟨found, foundMapped, capabilities, sourceDerived, sourceEq⟩ :=
      exists_derived unstated derived sourceRequired
    obtain ⟨other, otherMapped, targetCapabilities, _, targetEq⟩ :=
      exists_derived unstated derived targetRequired
    obtain rfl := Except.ok.inj (foundMapped.symm.trans mapped)
    obtain rfl := Except.ok.inj (otherMapped.symm.trans mapped)
    rw [← sourceEq, ← targetEq, handsOff_derived_iff] at fits
    have isPrimary : source.requirement.role = .primary :=
      sourceRole.trans (Option.some_inj.mp (known.symm.trans primary))
    rw [isPrimary] at sourceDerived
    exact ⟨fits.1, fun listed => fits.2 (structuredOutput_primary sourceDerived listed)⟩
  · intro carried edge isEdge source isSource target isTarget _ _
    have several : 1 < pattern.slots.length := by
      have someEdge := List.length_pos_of_mem isEdge
      omega
    obtain ⟨sourceRequired, _⟩ := drawn.staged.requirement_mem isSource
    obtain ⟨targetRequired, _⟩ := drawn.staged.requirement_mem isTarget
    obtain ⟨modalities, mapped, capabilities, sourceDerived, sourceEq⟩ :=
      exists_derived unstated derived sourceRequired
    obtain ⟨other, otherMapped, targetCapabilities, _, targetEq⟩ :=
      exists_derived unstated derived targetRequired
    obtain rfl := Except.ok.inj (otherMapped.symm.trans mapped)
    obtain ⟨text, structured⟩ := carried several other mapped
    rw [← sourceEq, ← targetEq, handsOff_derived_iff]
    exact ⟨text, fun gives => structured (structuredOutput_required sourceDerived gives)⟩

end Derived

/-! ## Agreement -/

section Agreement

variable {digest : Digest} {request : CompositionInstantiationRequest}
  {pattern : CertifiedCompositionPattern}

/-- Some registered record meets the requirements on each role of a pattern. -/
def HasCompatibleRecords (request : CompositionInstantiationRequest)
    (pattern : CertifiedCompositionPattern) : Prop :=
  ∃ roleRequirements, deriveRoleRequirements request pattern = .ok roleRequirements ∧
    ∀ requirement ∈ roleRequirements, ∃ record ∈ request.registry.records,
      (evaluateCompatibility record requirement.requirements).status = .compatible

/-- The drafts of a request agree with their validation. -/
structure DraftsAgree (digest : Digest) (request : CompositionInstantiationRequest)
    (drafts : List CompositionCandidateDraft) : Prop where
  /-- Every draft passes. -/
  passes : ∀ draft ∈ drafts,
    (validateCompositionCandidate digest draft (contextOf request draft)).status = .pass
  /-- The validation finds the id of every draft. -/
  same_id : ∀ draft ∈ drafts, (getCertifiedPattern draft.topology).bind
    (semanticCompositionId digest draft.toDraftFields) = some draft.compositionId
  /-- Every applicable pattern of several stages with compatible records has a valid candidate. -/
  yields : ∀ pattern ∈ applicablePatterns request, 1 < pattern.slots.length →
    HasCompatibleRecords request pattern → ∃ draft ∈ drafts, draft.topology = pattern.topology ∧
      (validateCompositionCandidate digest draft (contextOf request draft)).candidate.validity =
        .valid

/-- The instantiation of a request answers with drafts that agree with their validation. -/
def InstantiationAgreement (digest : Digest) (request : CompositionInstantiationRequest) : Prop :=
  ∃ drafts, iterCompositionCandidateDrafts digest request = .ok drafts ∧
    DraftsAgree digest request drafts

theorem hasCandidates_iff {roleRequirements : List CompositionRoleRequirement} :
    HasCandidates request [] roleRequirements ↔
      ∀ requirement ∈ roleRequirements, ∃ record ∈ request.registry.records,
        (evaluateCompatibility record requirement.requirements).status = .compatible := by
  refine forall₂_congr fun requirement _ => ?_
  constructor
  · intro nonempty
    obtain ⟨record, candidate⟩ := List.exists_mem_of_ne_nil _ nonempty
    exact ⟨record, (mem_candidatesFor.mp candidate).2⟩
  · rintro ⟨record, meets⟩
    exact List.ne_nil_of_mem (mem_candidatesFor.mpr ⟨List.not_mem_nil, meets⟩)

/-- What the instantiation of a request without constraints answers with: drafts drawn from
applicable patterns with compatible records, and some for each of these. -/
theorem exists_drafts (hexadecimal : digest.Hexadecimal)
    (unconstrained : request.evidenceConstraints = []) :
    ∃ drafts, iterCompositionCandidateDrafts digest request = .ok drafts ∧
      (∀ draft ∈ drafts, ∃ pattern ∈ applicablePatterns request, ∃ roleRequirements stages,
        deriveRoleRequirements request pattern = .ok roleRequirements ∧
          HasCompatibleRecords request pattern ∧
          Drawn digest request pattern roleRequirements [] stages draft) ∧
      ∀ pattern ∈ applicablePatterns request, HasCompatibleRecords request pattern →
        ∃ draft ∈ drafts, ∃ roleRequirements stages,
          deriveRoleRequirements request pattern = .ok roleRequirements ∧
            Drawn digest request pattern roleRequirements [] stages draft := by
  have assessed : assessConstraints request = .ok [] := by
    rw [assessConstraints, unconstrained]
    rfl
  have unblocked : blockedRoles request [] = [] := by simp [blockedRoles, unconstrained]
  obtain ⟨result, answered, members⟩ := exists_instantiate hexadecimal assessed
  rw [unblocked] at members
  refine ⟨result.drafts, by rw [iterCompositionCandidateDrafts, answered]; rfl, ?_, ?_⟩
  · intro draft member
    obtain ⟨pattern, applicable, outcome, made, inside⟩ := (members draft).mp member
    obtain ⟨roleRequirements, stages, derived, candidates, drawn⟩ :=
      (drafts_of_instantiatePattern (List.mem_of_mem_filter applicable) made).1 draft inside
    exact ⟨pattern, applicable, roleRequirements, stages, derived,
      ⟨roleRequirements, derived, hasCandidates_iff.mp candidates⟩, drawn⟩
  · rintro pattern applicable ⟨roleRequirements, derived, records⟩
    have certified := List.mem_of_mem_filter applicable
    obtain ⟨outcome, made⟩ : ∃ outcome,
        instantiatePattern digest request [] [] pattern = .ok outcome :=
      exists_instantiatePattern hexadecimal certified
    obtain ⟨drawnFrom, available⟩ := drafts_of_instantiatePattern certified made
    obtain ⟨draft, inside⟩ := List.exists_mem_of_ne_nil _
      (available roleRequirements derived (hasCandidates_iff.mpr records))
    obtain ⟨others, stages, sameDerived, _, drawn⟩ := drawnFrom draft inside
    exact ⟨draft, (members draft).mpr ⟨pattern, applicable, outcome, made, inside⟩, others, stages,
      sameDerived, drawn⟩

/-- Where drafts agree with their validation, handoffs are carried for every applicable pattern of
several stages with compatible records. -/
theorem handoffsCarried_of_agreement (hexadecimal : digest.Hexadecimal)
    (unstated : request.roleRequirements = []) (unconstrained : request.evidenceConstraints = [])
    (agreement : InstantiationAgreement digest request)
    (applicable : pattern ∈ applicablePatterns request) (several : 1 < pattern.slots.length)
    (records : HasCompatibleRecords request pattern) : HandoffsCarried request := by
  obtain ⟨drafts, enumerated, _, available⟩ := exists_drafts hexadecimal unconstrained
  obtain ⟨others, sameDrafts, agree⟩ := agreement
  obtain rfl := Except.ok.inj (enumerated.symm.trans sameDrafts)
  obtain ⟨draft, member, roleRequirements, stages, derived, drawn⟩ :=
    available pattern applicable records
  have fits := (drawn.validate_pass_iff_handoffs rfl).mp (agree.passes draft member)
  exact (drawn.handoffIssues_derived_iff unstated derived).mp fits several

/-- The drafts of a request without requirements and constraints of its own agree with their
validation exactly when every applicable pattern of several stages with compatible records has its
handoffs carried. -/
theorem instantiationAgreement_iff (unstated : request.roleRequirements = [])
    (unconstrained : request.evidenceConstraints = []) :
    InstantiationAgreement Digest.sha256 request ↔
      ∀ pattern ∈ applicablePatterns request, 1 < pattern.slots.length →
        HasCompatibleRecords request pattern → HandoffsCarried request := by
  constructor
  · intro agreement pattern applicable several records
    exact handoffsCarried_of_agreement Digest.sha256_hexadecimal unstated unconstrained agreement
      applicable several records
  · intro carried
    obtain ⟨drafts, enumerated, drawnFrom, available⟩ :=
      exists_drafts Digest.sha256_hexadecimal unconstrained
    have passes : ∀ draft ∈ drafts, (validateCompositionCandidate Digest.sha256 draft
        (contextOf request draft)).status = .pass := by
      intro draft member
      obtain ⟨pattern, applicable, roleRequirements, stages, derived, records, drawn⟩ :=
        drawnFrom draft member
      rw [drawn.validate_pass_iff_handoffs rfl, drawn.handoffIssues_derived_iff unstated derived]
      exact fun several => carried pattern applicable several records
    refine ⟨drafts, enumerated, passes, ?_, ?_⟩
    · intro draft member
      obtain ⟨pattern, _, roleRequirements, stages, _, _, drawn⟩ := drawnFrom draft member
      rw [drawn.pattern_eq]
      exact drawn.semanticCompositionId_eq
    · intro pattern applicable _ records
      obtain ⟨draft, member, _, _, _, drawn⟩ := available pattern applicable records
      exact ⟨draft, member, drawn.topology_eq, candidate_valid_iff.mpr (passes draft member)⟩

end Agreement

/-! ## Requests of the pipeline -/

section Pipeline

variable {result : WorkloadIntelligencePipelineResult} {profile : WorkloadIntelligenceProfile}
  {graph : Graph.ExecutionGraph} {request : CompositionInstantiationRequest}
  {pattern : CertifiedCompositionPattern}

/-- The readiness of a graph that is ready. -/
def readyFor (graph : Graph.ExecutionGraph) : GraphReadinessResult where
  graphId := graph.graphId
  requestId := graph.requestId
  workloadId := graph.workloadId
  sessionId := graph.sessionId
  status := .ready

theorem upstreamCertified_of_built (given : result.profile = some profile)
    (built : Graph.buildExecutionGraph result = .ok graph) :
    UpstreamCertified result graph (readyFor graph) := by
  obtain ⟨modality, _, created⟩ := Graph.buildExecutionGraph_eq_ok given built
  have preserved := Graph.intelligenceProfile_of_create created
  obtain ⟨acceptable, rfl⟩ := Graph.ExecutionGraphDraft.create_eq_ok_iff.mp created
  have accepted : result.status ≠ .fail := by
    simp only [Graph.buildExecutionGraph, Graph.requireValidPipeline, bind_eq_ok, require_eq_ok]
      at built
    obtain ⟨_, ⟨_, passed | degraded, _⟩, _⟩ := built
    · simp [passed]
    · simp [degraded]
  exact
    { not_failed := accepted
      ready := rfl
      graph_identity := rfl
      readiness_identity := rfl
      readiness_graph := rfl
      profile_preserved := preserved.trans given.symm }

/-- The request for compositions of a built graph, without requirements of its own. -/
def builtRequest (registry : ModelCapabilityRegistry) (given : result.profile = some profile)
    (built : Graph.buildExecutionGraph result = .ok graph) : CompositionInstantiationRequest where
  intelligenceResult := result
  graph := graph
  readinessResult := readyFor graph
  registry := registry
  upstream_certified := upstreamCertified_of_built given built

/-- A record of a model with every capability. -/
def capableRecord : ModelCapabilityRecord where
  modelId := "m"
  provider := "p"
  family := "f"
  revision := "1"
  inputModalities := .of ModelModality.value
    [.text, .image, .audio, .video, .embedding, .structuredData] (List.cons_ne_nil _ _)
  outputModalities := .of ModelModality.value
    [.text, .image, .audio, .video, .embedding, .structuredData] (List.cons_ne_nil _ _)
  reasoningCapabilities := [.code, .general, .longContext, .mathematical, .multiStep, .planning]
  supportsToolUse := true
  supportsRetrieval := true
  supportsCodeGeneration := true
  supportsCodeUnderstanding := true
  supportsStructuredToolArguments := true
  supportsToolResultConsumption := true
  supportsJsonOutput := true
  supportsSchemaConstrainedOutput := true
  supportsStreaming := true
  provenance := ⟨"s", "1", "e", .declared, by decide⟩
  identity_nonblank := by decide

/-- A record of every capability meets all requirements that set no limits. -/
theorem compatible_capableRecord {requirements : ModelCapabilityRequirements}
    (anyContext : requirements.minimumContextTokens = none)
    (anyOutput : requirements.minimumOutputTokens = none)
    (anyStatus : requirements.allowedStatuses = none) :
    (evaluateCompatibility capableRecord requirements).status = .compatible := by
  have input : memberIssues "input_modality" "input_modalities" ModelModality.value
      requirements.requiredInputModalities capableRecord.inputModalities.items = [] := by
    rw [memberIssues, List.filter_eq_nil_iff.mpr, List.map_nil]
    intro modality _
    cases modality <;> decide
  have output : memberIssues "output_modality" "output_modalities" ModelModality.value
      requirements.requiredOutputModalities capableRecord.outputModalities.items = [] := by
    rw [memberIssues, List.filter_eq_nil_iff.mpr, List.map_nil]
    intro modality _
    cases modality <;> decide
  have reasoning : memberIssues "reasoning_capability" "reasoning_capabilities"
      ReasoningCapability.value requirements.requiredReasoningCapabilities
      capableRecord.reasoningCapabilities = [] := by
    rw [memberIssues, List.filter_eq_nil_iff.mpr, List.map_nil]
    intro kind _
    cases kind <;> decide
  have clean : foundIssues capableRecord requirements = [] := by
    rw [foundIssues, input, output, reasoning]
    simp [booleanIssues, limitIssues, statusIssues, anyContext, anyOutput, anyStatus,
      capableRecord]
  simp [evaluateCompatibility, clean, sortOn]

/-- Patterns without roles that need explicit requirements have compatible records, where a record
of every capability is registered. -/
theorem hasCompatibleRecords_of_capable (unstated : request.roleRequirements = [])
    (registered : capableRecord ∈ request.registry.records)
    {modalities : CanonicalTuple ModelModality ModelModality.value}
    (mapped : phase4Modalities request = .ok modalities)
    (derivable : ∀ role ∈ rolesOf pattern, role ≠ .specialist ∧ role ≠ .critic) :
    HasCompatibleRecords request pattern := by
  obtain ⟨roleRequirements, derived⟩ : ∃ roleRequirements,
      deriveRoleRequirements request pattern = .ok roleRequirements := by
    refine exists_mapM_eq_ok fun role listed => ?_
    obtain ⟨capabilities, provided⟩ : ∃ capabilities,
        derivedCapabilities (requiredCapabilities request) pattern role = .ok capabilities := by
      cases role with
      | specialist => exact absurd rfl (derivable _ listed).1
      | critic => exact absurd rfl (derivable _ listed).2
      | primary => exact ⟨_, rfl⟩
      | verifier => exact ⟨_, rfl⟩
      | retrievalAugmenter => exact ⟨_, rfl⟩
      | toolModel => exact ⟨_, rfl⟩
    refine ⟨roleRequirementOf request role modalities capabilities, ?_⟩
    simp only [roleRequirement, unstated]
    exact derivedRoleRequirement_eq_ok_iff.mpr ⟨modalities, mapped, capabilities, provided, rfl⟩
  refine ⟨roleRequirements, derived, fun requirement required => ?_⟩
  obtain ⟨_, _, _, _, same⟩ := exists_derived unstated derived required
  rw [← same]
  exact ⟨capableRecord, registered, compatible_capableRecord rfl rfl rfl⟩

theorem items_of_phase4Modalities
    {modalities : CanonicalTuple ModelModality ModelModality.value}
    (mapped : phase4Modalities request = .ok modalities) :
    modalities.items = canonical ModelModality.value
      (request.profile.modalities.items.flatMap (modelModalities request.signals)) := by
  simp only [phase4Modalities] at mapped
  split at mapped
  · rw [← Except.ok.inj mapped]
    rfl
  · exact absurd mapped (by simp)

theorem exists_phase4Modalities
    (nonempty : request.profile.modalities.items.flatMap (modelModalities request.signals) ≠ []) :
    ∃ modalities, phase4Modalities request = .ok modalities :=
  ⟨_, dif_pos nonempty⟩

theorem profile_builtRequest (registry : ModelCapabilityRegistry)
    (given : result.profile = some profile)
    (built : Graph.buildExecutionGraph result = .ok graph) :
    (builtRequest registry given built).profile = profile :=
  Option.some_inj.mp ((Option.some_get _).trans given)

/-- The registry of the record of every capability. -/
def capableRegistry : ModelCapabilityRegistry where
  records := [capableRecord]

/-- The pattern of tools has several stages, none of which needs explicit requirements. -/
theorem exists_toolPattern : ∃ pattern ∈ certifiedPatterns,
    pattern.topology = .primaryToolPrimary ∧ 1 < pattern.slots.length ∧
      ∀ role ∈ rolesOf pattern, role ≠ .specialist ∧ role ≠ .critic := by
  decide

theorem toolPattern_applicable (registry : ModelCapabilityRegistry)
    (given : result.profile = some profile) (built : Graph.buildExecutionGraph result = .ok graph)
    (usesTools : .toolUse ∈ profile.requiredCapabilities.items)
    (certified : pattern ∈ certifiedPatterns) (isTool : pattern.topology = .primaryToolPrimary) :
    pattern ∈ applicablePatterns (builtRequest registry given built) := by
  obtain ⟨modality, _, created⟩ := Graph.buildExecutionGraph_eq_ok given built
  have asked : .tool ∈ (Graph.stages profile.requiredCapabilities modality
      profile.reasoningComplexity).map Graph.ExecutionGraphNode.nodeType :=
    Graph.mem_types_iff.mpr (.inr (.inr (.inl (.inl usesTools))))
  obtain ⟨node, isStage, ofTool⟩ := List.mem_map.mp asked
  have listed : .tool ∈ graph.nodes.map Graph.ExecutionGraphNode.nodeType :=
    List.mem_map.mpr ⟨node, (Graph.mem_nodes_iff created).mpr isStage, ofTool⟩
  refine List.mem_filter.mpr ⟨certified, ?_⟩
  rw [isTool]
  exact decide_eq_true listed

end Pipeline

/-- The drafts of a workload of text with tools agree with their validation. -/
theorem instantiationAgreement_text : ∃ request : CompositionInstantiationRequest,
    request.roleRequirements = [] ∧ request.evidenceConstraints = [] ∧
      (∃ pattern ∈ applicablePatterns request, 1 < pattern.slots.length ∧
        HasCompatibleRecords request pattern) ∧ InstantiationAgreement Digest.sha256 request := by
  let signals := Graph.plainSignals "text" (some true)
  have inferred : inferWorkloadIntelligence signals =
      .ok (inferredProfile signals .text .restricted) := rfl
  obtain ⟨result, graph, _, given, built⟩ := Graph.exists_built_of_inferred inferred (by decide)
  let request := builtRequest capableRegistry given built
  have sameProfile : request.profile = inferredProfile signals .text .restricted :=
    profile_builtRequest capableRegistry given built
  have taken : request.profile.modalities.items.flatMap (modelModalities request.signals) =
      [.text] := by
    rw [sameProfile]
    rfl
  obtain ⟨modalities, mapped⟩ : ∃ modalities, phase4Modalities request = .ok modalities :=
    exists_phase4Modalities (by simp [taken])
  obtain ⟨pattern, certified, isTool, several, derivable⟩ := exists_toolPattern
  have applicable : pattern ∈ applicablePatterns request :=
    toolPattern_applicable capableRegistry given built (by decide) certified isTool
  have records : HasCompatibleRecords request pattern :=
    hasCompatibleRecords_of_capable rfl List.mem_cons_self mapped derivable
  have unstructured : .structuredOutput ∉ requiredCapabilities request := by
    obtain ⟨modality, single, created⟩ := Graph.buildExecutionGraph_eq_ok given built
    obtain rfl : .text = modality := by
      simpa [inferredProfile, CanonicalTuple.of, canonical, sortOn] using single
    have stages : ∀ node ∈ Graph.stages (inferredCapabilities signals .text) .text .minimal,
        .structuredOutput ∉ node.requiredCapabilities.items := by decide
    simp only [requiredCapabilities, List.mem_append, List.mem_flatMap, not_or, not_exists, not_and]
    refine ⟨?_, fun node member => stages node ((Graph.mem_nodes_iff created).mp member)⟩
    rw [sameProfile]
    decide
  refine ⟨request, rfl, rfl, ⟨pattern, applicable, several, records⟩, ?_⟩
  rw [instantiationAgreement_iff rfl rfl]
  intro pattern _ _ _ found same
  refine ⟨?_, fun listed => absurd listed unstructured⟩
  rw [items_of_phase4Modalities same, mem_canonical, taken]
  exact List.mem_singleton_self _

/-- The drafts of a workload of an image with tools are rejected. -/
theorem drafts_rejected_for_images :
    ¬ ∀ request : CompositionInstantiationRequest, request.roleRequirements = [] →
      request.evidenceConstraints = [] → InstantiationAgreement Digest.sha256 request := by
  intro law
  let signals : WorkloadSignals :=
    { Graph.plainSignals "image" (some true) with imageInputPresent := some true }
  have inferred : inferWorkloadIntelligence signals =
      .ok (inferredProfile signals .image .restricted) := rfl
  obtain ⟨result, graph, _, given, built⟩ := Graph.exists_built_of_inferred inferred (by decide)
  let request := builtRequest capableRegistry given built
  have sameProfile : request.profile = inferredProfile signals .image .restricted :=
    profile_builtRequest capableRegistry given built
  have taken : request.profile.modalities.items.flatMap (modelModalities request.signals) =
      [.image] := by
    rw [sameProfile]
    rfl
  obtain ⟨modalities, mapped⟩ : ∃ modalities, phase4Modalities request = .ok modalities :=
    exists_phase4Modalities (by simp [taken])
  obtain ⟨pattern, certified, isTool, several, derivable⟩ := exists_toolPattern
  have applicable : pattern ∈ applicablePatterns request :=
    toolPattern_applicable capableRegistry given built (by decide) certified isTool
  have records : HasCompatibleRecords request pattern :=
    hasCompatibleRecords_of_capable rfl List.mem_cons_self mapped derivable
  have carried := handoffsCarried_of_agreement Digest.sha256_hexadecimal rfl rfl
    (law request rfl rfl) applicable several records
  have text := (carried modalities mapped).1
  rw [items_of_phase4Modalities mapped, mem_canonical, taken] at text
  exact absurd text (by decide)

end Composition
end MercuryX
