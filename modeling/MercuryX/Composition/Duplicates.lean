import MercuryX.Composition.Joins
import MercuryX.Foundation.Layouts

/-!
# Semantic duplicates

Drafts of one signature and one id that bind their stages to the same records are of one kind, so
merging them is a join, as far as their handoffs are told apart by more than their evidence and they
are for one request.
-/

namespace MercuryX
namespace Composition

open Foundation
open Foundation.Json (Distinct DistinctFields Fits FitsFields Layout)
open Intelligence (CanonicalTuple)
open Models

/-! ## Layouts -/

/-- The layout of what a signature covers of an artifact. -/
def artifactLayout : Layout := .record [
  ("artifact_id", .scalar), ("modalities", .list .scalar), ("requires_structured_output", .scalar)]

/-- The layouts of the fields of requirements other than the evidence. -/
def requirementFields : List (String × Layout) := [
  ("required_input_modalities", .list .scalar), ("required_output_modalities", .list .scalar),
  ("required_reasoning_capabilities", .list .scalar), ("requires_tool_use", .scalar),
  ("requires_retrieval", .scalar), ("requires_code_generation", .scalar),
  ("requires_code_understanding", .scalar), ("requires_structured_tool_arguments", .scalar),
  ("requires_tool_result_consumption", .scalar), ("requires_json_output", .scalar),
  ("requires_schema_constrained_output", .scalar), ("minimum_context_tokens", .scalar),
  ("minimum_output_tokens", .scalar), ("requires_streaming", .scalar),
  ("allowed_statuses", .optional (.list .scalar))]

/-- The layout of the identity of a model. -/
def identityLayout : Layout := .record [
  ("provider", .scalar), ("model_id", .scalar), ("family", .scalar), ("revision", .scalar)]

/-- The layout of what a signature covers of a stage. -/
def nodeLayout : Layout := .record [
  ("stage_id", .scalar), ("role", .scalar), ("model_identity", identityLayout),
  ("requirements", .record requirementFields), ("input_artifacts", .list artifactLayout),
  ("output_artifacts", .list artifactLayout)]

/-- The layout of what a signature covers of a handoff. -/
def edgeLayout : Layout := .record [
  ("source_stage_id", .scalar), ("target_stage_id", .scalar), ("dependency_type", .scalar),
  ("artifact_id", .scalar)]

/-- The layout of what a signature covers. -/
def signatureLayout : Layout := .record [
  ("schema_version", .scalar), ("topology", .scalar), ("pattern_id", .scalar),
  ("nodes", .list nodeLayout), ("edges", .list edgeLayout),
  ("assigned_hard_requirements", .list .scalar)]

theorem distinct_signatureLayout : Distinct signatureLayout := by
  simp [signatureLayout, nodeLayout, edgeLayout, identityLayout, artifactLayout, requirementFields,
    Distinct, DistinctFields]

theorem fits_artifactSemantics (artifact : CompositionArtifactContract) :
    Fits artifactLayout (artifactSemantics artifact) := by
  simp [artifactLayout, artifactSemantics, Fits, FitsFields]

theorem fits_requirementSemantics (requirements : ModelCapabilityRequirements) :
    Fits (.record requirementFields) (requirementSemantics requirements) := by
  simp only [requirementFields, requirementSemantics, ModelCapabilityRequirements.modelDump, ne_eq,
    decide_not, List.filter]
  cases requirements.allowedStatuses <;> simp [Fits, FitsFields]

theorem fits_nodeSemantics (node : CompositionNode) : Fits nodeLayout (nodeSemantics node) := by
  have requirements := fits_requirementSemantics node.requirements
  simpa [nodeLayout, identityLayout, nodeSemantics, ArtifactTuple.artifactsSemantics_eq,
    ArtifactTuple.kinds, Fits, FitsFields, fits_artifactSemantics] using requirements

theorem fits_signaturePayload (draft : DraftFields) :
    Fits signatureLayout (signaturePayload draft) := by
  simp [signatureLayout, edgeLayout, signaturePayload, edgeSemantics, Fits, FitsFields,
    fits_nodeSemantics]

/-! ## Duplicates are of one kind -/

/-- The stages that a signature covers are those of the draft. -/
theorem orderedNodes_perm (draft : CompositionCandidateDraft) :
    (orderedNodes draft.toDraftFields).Perm draft.nodes := by
  have byId := sortOn_perm CompositionNode.stageId draft.nodes
  simp only [orderedNodes]
  split
  · exact byId
  · next pattern found =>
      have certified := certifiedPatterns_match pattern (List.mem_of_find?_eq_some found)
      split_ifs with counted
      · have apart (left right : String) (node : CompositionNode)
            (inLeft : node ∈ (Dict.indexed CompositionNode.stageId draft.nodes).get? left)
            (inRight : node ∈ (Dict.indexed CompositionNode.stageId draft.nodes).get? right) :
            left = right :=
          (Dict.mem_of_indexed_get? inLeft).2.symm.trans (Dict.mem_of_indexed_get? inRight).2
        have distinct := certified.stageIds_nodup.filterMap apart
        rw [CertifiedCompositionPattern.stageIds, List.filterMap_map] at distinct
        refine (List.subperm_of_subset distinct fun node member => ?_).perm_of_length_le counted.ge
        obtain ⟨slot, _, present⟩ := List.mem_filterMap.mp member
        exact (Dict.mem_of_indexed_get? present).1
      · exact byId

/-- Drafts that are semantic duplicates, and bind their stages to the same records. -/
structure Duplicates (digest : Digest) (left right : CompositionCandidateDraft) : Prop where
  /-- The signatures are the same. -/
  signature : semanticCandidateSignature digest left = semanticCandidateSignature digest right
  /-- The ids are the same. -/
  compositionId : left.compositionId = right.compositionId
  /-- Stages of one id are bound to the same record. -/
  records : ∀ node ∈ left.nodes, ∀ other ∈ right.nodes, node.stageId = other.stageId →
    node.modelRecord = other.modelRecord

theorem signaturePayload_of_signature {digest : Digest} {left right : CompositionCandidateDraft}
    (tells : digest.Tells (signaturePayload left.toDraftFields)
      (signaturePayload right.toDraftFields))
    (same : semanticCandidateSignature digest left = semanticCandidateSignature digest right) :
    signaturePayload left.toDraftFields = signaturePayload right.toDraftFields :=
  tells.eq_of_fits distinct_signatureLayout (fits_signaturePayload _) (fits_signaturePayload _)
    ((String.append_right_inj _).mp same)

/-- Drafts whose stages have the same semantics in the order of the pattern have them in the order
of their ids. -/
theorem nodeSemantics_of_ordered {left right : CompositionCandidateDraft}
    (same : (orderedNodes left.toDraftFields).map nodeSemantics =
      (orderedNodes right.toDraftFields).map nodeSemantics) :
    left.nodes.map (fun node => (node.stageId, nodeSemantics node)) =
      right.nodes.map fun node => (node.stageId, nodeSemantics node) := by
  have ordered : (orderedNodes left.toDraftFields).map
      (fun node => (node.stageId, nodeSemantics node)) =
      (orderedNodes right.toDraftFields).map fun node => (node.stageId, nodeSemantics node) :=
    map_eq_map_of_coarser (fun _ _ equal => Prod.ext (of_nodeSemantics equal).1 equal) same
  have perm := ((orderedNodes_perm left).map _).symm.trans
    (ordered ▸ (orderedNodes_perm right).map _)
  have sorted (draft : CompositionCandidateDraft) :
      (draft.nodes.map fun node => (node.stageId, nodeSemantics node)).Pairwise
        fun one other => one.1 ≤ other.1 := by
    have increasing := List.pairwise_map.mp (nodes_keyed draft).increasing
    exact List.pairwise_map.mpr (increasing.imp le_of_lt)
  have distinct : ((left.nodes.map fun node => (node.stageId, nodeSemantics node)).map
      Prod.fst).Nodup := by
    rw [List.map_map]
    exact left.valid.stageIds_nodup
  have separates : Separates Prod.fst
      (left.nodes.map fun node => (node.stageId, nodeSemantics node)) :=
    fun one inside other present equal => List.inj_on_of_nodup_map distinct inside present equal
  exact eq_of_perm_of_sorted separates perm (sorted left) (sorted right)

theorem Duplicates.kind_eq {digest : Digest} {left right : CompositionCandidateDraft}
    (duplicates : Duplicates digest left right)
    (tells : digest.Tells (signaturePayload left.toDraftFields)
      (signaturePayload right.toDraftFields)) :
    left.kind = right.kind := by
  have payload := signaturePayload_of_signature tells duplicates.signature
  simp only [signaturePayload, edges_sorted, Json.obj.injEq, List.cons.injEq, Prod.mk.injEq,
    Json.str.injEq, Json.arr.injEq, Json.strs_injective.eq_iff, true_and, and_true] at payload
  obtain ⟨_, topology, patternId, ordered, edges, satisfied⟩ := payload
  have nodes := nodeSemantics_of_ordered ordered
  have handoffs : left.edges.map CompositionEdge.semanticKey =
      right.edges.map CompositionEdge.semanticKey :=
    map_eq_map_of_coarser (fun _ _ => edgeSemantics_eq_iff.mp) edges
  have lengths : left.nodes.length = right.nodes.length := by simpa using congrArg List.length nodes
  have kinds : left.nodes.map CompositionNode.kind = right.nodes.map CompositionNode.kind := by
    refine List.ext_getElem (by simpa using lengths) fun index inLeft inRight => ?_
    rw [List.length_map] at inLeft inRight
    have pair := List.getElem_of_eq nodes (by simpa using inLeft)
    simp only [List.getElem_map, Prod.mk.injEq] at pair ⊢
    have record :=
      duplicates.records _ (List.getElem_mem inLeft) _ (List.getElem_mem inRight) pair.1
    rw [CompositionNode.kind, CompositionNode.kind, pair.1, pair.2, record]
  have requirements : left.satisfiedRequirementIds = right.satisfiedRequirementIds := by
    have leftSorted := canonical_pairwise id left.satisfiedRequirementIds
    have rightSorted := canonical_pairwise id right.satisfiedRequirementIds
    rw [left.valid.requirements_canonical] at leftSorted
    rw [right.valid.requirements_canonical] at rightSorted
    rwa [sortOn_eq_self id leftSorted, sortOn_eq_self id rightSorted] at satisfied
  simp only [DraftFields.kind, duplicates.compositionId, patternId,
    CertifiedTopology.value_injective topology, requirements, kinds, handoffs]

/-! ## What validation reads of a draft -/

theorem exists_certifiedPattern (topology : CertifiedTopology) :
    ∃ pattern, getCertifiedPattern topology = some pattern := by
  cases topology <;> exact ⟨_, rfl⟩

theorem shape_of_kind {left right : DraftFields} (same : left.kind = right.kind) :
    left.shape = right.shape := by
  have slots : (left.nodes.map fun node => (node.stageId, node.role)) =
      right.nodes.map fun node => (node.stageId, node.role) :=
    map_eq_map_of_coarser (fun one other equal =>
      have semantics := of_nodeSemantics (semantics_of_kind equal)
      Prod.ext semantics.1 semantics.2.1) (DraftFields.nodes_of_kind same)
  have links : (left.edges.map fun edge =>
      (edge.sourceStageId, edge.targetStageId, edge.dependencyType)) =
      right.edges.map fun edge => (edge.sourceStageId, edge.targetStageId, edge.dependencyType) :=
    map_eq_map_of_coarser (fun one other equal => by
      simp only [CompositionEdge.semanticKey, EmbeddingLike.apply_eq_iff_eq, Prod.mk.injEq,
        GraphDependencyType.value_injective.eq_iff] at equal
      rw [equal.1, equal.2.1, equal.2.2.1]) (DraftFields.handoffs_of_kind same)
  rw [DraftFields.shape, DraftFields.shape, slots, links, DraftFields.patternId_of_kind same]

/-- Whether a record meets requirements does not depend on their evidence. -/
theorem compatibility_of_semantics (record : ModelCapabilityRecord)
    {left right : ModelCapabilityRequirements}
    (same : requirementSemantics left = requirementSemantics right) :
    (evaluateCompatibility record left).status = (evaluateCompatibility record right).status := by
  rw [← requirementsWithEvidence_of_semantics same]
  rfl

theorem stageIssues_of_kind (registry : ModelCapabilityRegistry) (left right : CompositionNode)
    (same : left.kind = right.kind) : stageIssues registry left = stageIssues registry right := by
  rw [stageIssues, stageIssues, stageId_of_kind left right same, record_of_kind same,
    compatibility_of_semantics _ (of_nodeSemantics (semantics_of_kind same)).2.2.1]

theorem primaryIdentities_of_kinds {lefts rights : List CompositionNode}
    (same : lefts.map CompositionNode.kind = rights.map CompositionNode.kind) :
    primaryIdentities lefts = primaryIdentities rights := by
  have roles : (lefts.map fun node => (node.role, node.modelRecord.identity)) =
      rights.map fun node => (node.role, node.modelRecord.identity) :=
    map_eq_map_of_coarser (fun one other equal =>
      have semantics := semantics_of_kind equal
      Prod.ext (of_nodeSemantics semantics).2.1 (identity_of_nodeSemantics semantics)) same
  have filtered (nodes : List CompositionNode) : primaryIdentities nodes =
      ((nodes.map fun node => (node.role, node.modelRecord.identity)).filter
        fun entry => entry.1 = CompositionRole.primary).map Prod.snd := by
    simp [primaryIdentities, List.filter_map, Function.comp_def]
  rw [filtered, filtered, roles]

theorem identityAndCapabilityIssues_of_kind {left right : DraftFields}
    (same : left.kind = right.kind) (origins : left.origin = right.origin)
    (context : CompositionValidationContext) (pattern : Option CertifiedCompositionPattern) :
    identityAndCapabilityIssues left context pattern =
      identityAndCapabilityIssues right context pattern := by
  have nodes := DraftFields.nodes_of_kind same
  have stages : left.nodes.flatMap (stageIssues context.registry) =
      right.nodes.flatMap (stageIssues context.registry) := by
    rw [List.flatMap_def, List.flatMap_def,
      map_eq_map_of_coarser (stageIssues_of_kind context.registry) nodes]
  simp only [DraftFields.origin] at origins
  simp only [identityAndCapabilityIssues, origins, stages, primaryIdentities_of_kinds nodes]

/-! ## Handoffs -/

/-- Evidence of one text. -/
def noted (text : String) : CanonicalTuple String id := .of id [text] (List.cons_ne_nil _ _)

theorem noted_nonblank {text : String} (visible : Text.Nonblank text) :
    ∀ member ∈ (noted text).items, Text.Nonblank member := by
  intro member inside
  rw [noted, CanonicalTuple.mem_of, List.mem_singleton] at inside
  rwa [inside]

theorem dash_nonblank : Text.Nonblank "-" := Text.nonblank_literal rfl

/-- The artifact with nothing but a placeholder for evidence. -/
def bare (artifact : CompositionArtifactContract) : CompositionArtifactContract :=
  artifact.withEvidence (noted "-") (noted_nonblank dash_nonblank)

theorem bare_of_semantics (left right : CompositionArtifactContract)
    (same : artifactSemantics left = artifactSemantics right) : bare left = bare right := by
  rw [← CompositionArtifactContract.withEvidence_of_semantics same]
  rfl

/-- What a handoff carries is judged without evidence. -/
theorem carryIssues_bare (edge : CompositionEdge)
    (outputs inputs : List CompositionArtifactContract) :
    carryIssues edge (outputs.map bare) (inputs.map bare) = carryIssues edge outputs inputs := by
  have structured (artifact : CompositionArtifactContract) :
      (bare artifact).isStructured = artifact.isStructured := rfl
  have ids (artifact : CompositionArtifactContract) :
      (bare artifact).artifactId = artifact.artifactId := rfl
  simp only [carryIssues, List.find?_map, List.any_map, Function.comp_def, structured, ids]
  cases outputs.find? fun item => item.artifactId = edge.artifactId with
  | none => rfl
  | some carried =>
      simp only [Option.map_some, sharesModality, List.any_map]
      rfl

theorem carryIssues_of_kinds (edge : CompositionEdge) {outputs inputs : ArtifactTuple}
    {otherOutputs otherInputs : ArtifactTuple} (outputKinds : outputs.kinds = otherOutputs.kinds)
    (inputKinds : inputs.kinds = otherInputs.kinds) :
    carryIssues edge outputs.items inputs.items =
      carryIssues edge otherOutputs.items otherInputs.items := by
  rw [← carryIssues_bare, map_eq_map_of_coarser bare_of_semantics outputKinds,
    map_eq_map_of_coarser bare_of_semantics inputKinds, carryIssues_bare]

theorem edgeIssues_of_kinds {lefts rights : List CompositionNode}
    (same : lefts.map CompositionNode.kind = rights.map CompositionNode.kind)
    (edge : CompositionEdge) :
    edgeIssues (Dict.indexed CompositionNode.stageId lefts) edge =
      edgeIssues (Dict.indexed CompositionNode.stageId rights) edge := by
  have sources := get?_of_kinds same edge.sourceStageId
  have targets := get?_of_kinds same edge.targetStageId
  simp only [edgeIssues]
  cases source : (Dict.indexed CompositionNode.stageId lefts).get? edge.sourceStageId with
  | none =>
      rw [source, Option.map_none] at sources
      simp only [Option.map_eq_none_iff.mp sources.symm]
  | some node =>
      rw [source, Option.map_some] at sources
      obtain ⟨other, found, sourceKind⟩ := Option.map_eq_some_iff.mp sources.symm
      cases target : (Dict.indexed CompositionNode.stageId lefts).get? edge.targetStageId with
      | none =>
          rw [target, Option.map_none] at targets
          simp only [Option.map_eq_none_iff.mp targets.symm, found]
      | some next =>
          rw [target, Option.map_some] at targets
          obtain ⟨otherNext, foundNext, targetKind⟩ := Option.map_eq_some_iff.mp targets.symm
          have ofSource := of_nodeSemantics (semantics_of_kind sourceKind)
          have ofTarget := of_nodeSemantics (semantics_of_kind targetKind)
          simp only [found, foundNext, ofSource.2.1,
            carryIssues_of_kinds edge ofSource.2.2.2.2 ofTarget.2.2.2.1]

theorem edgeIssues_of_semanticKey (nodesById : Dict String CompositionNode)
    (left right : CompositionEdge) (same : left.semanticKey = right.semanticKey) :
    edgeIssues nodesById left = edgeIssues nodesById right := by
  simp only [CompositionEdge.semanticKey, EmbeddingLike.apply_eq_iff_eq, Prod.mk.injEq] at same
  obtain ⟨source, target, _, artifactId⟩ := same
  simp only [edgeIssues, carryIssues, markerIssues, source, target, artifactId]

theorem handoffIssues_of_kind {left right : DraftFields} (same : left.kind = right.kind) :
    handoffIssues left = handoffIssues right := by
  have stages : edgeIssues (Dict.indexed CompositionNode.stageId left.nodes) =
      edgeIssues (Dict.indexed CompositionNode.stageId right.nodes) :=
    funext (edgeIssues_of_kinds (DraftFields.nodes_of_kind same))
  rw [handoffIssues, handoffIssues, stages, List.flatMap_def, List.flatMap_def,
    map_eq_map_of_coarser (edgeIssues_of_semanticKey _) (DraftFields.handoffs_of_kind same)]

/-! ## Coverage -/

theorem mem_justifiedIds_iff {draft : DraftFields} {requirementId : String} :
    requirementId ∈ justifiedIds draft.nodes ↔ ∃ stageId item,
      draft.Has (.stage stageId (.justification item)) ∧ item.requirementId = requirementId := by
  rw [justifiedIds, List.mem_flatMap]
  constructor
  · rintro ⟨node, member, justified⟩
    obtain ⟨item, inside, named⟩ := List.mem_map.mp justified
    exact ⟨node.stageId, item, ⟨node, member, rfl, inside⟩, named⟩
  · rintro ⟨_, item, ⟨node, member, _, inside⟩, named⟩
    exact ⟨node, member, List.mem_map.mpr ⟨item, inside, named⟩⟩

/-- A draft is what two drafts of one kind are merged to, for the request of the first. -/
structure Unites (left right merged : CompositionCandidateDraft) : Prop where
  /-- Both sides are of one kind. -/
  same : left.kind = right.kind
  /-- The kind is kept. -/
  kind : merged.kind = left.kind
  /-- The request is that of the left side. -/
  origin : merged.origin = left.origin
  /-- The parts are those of both sides. -/
  content : merged.content = left.content ∪ right.content

section

variable {left right merged : CompositionCandidateDraft} {context : CompositionValidationContext}

theorem Unites.has_iff (unites : Unites left right merged) (part : DraftPart) :
    merged.Has part ↔ left.Has part ∨ right.Has part :=
  Set.ext_iff.mp unites.content part

/-- What covers the requirements on two drafts covers those on what they are merged to. -/
theorem Unites.coverageAndEvidenceIssues (unites : Unites left right merged)
    (leftClean : coverageAndEvidenceIssues left.toDraftFields context = [])
    (rightClean : coverageAndEvidenceIssues right.toDraftFields context = []) :
    coverageAndEvidenceIssues merged.toDraftFields context = [] := by
  have satisfied := DraftFields.satisfied_of_kind unites.kind
  simp only [Composition.coverageAndEvidenceIssues, List.append_eq_nil_iff, issueIf_eq_nil, not_not,
    List.flatMap_eq_nil_iff] at leftClean rightClean ⊢
  obtain ⟨⟨covered, justified⟩, leftAssessed⟩ := leftClean
  obtain ⟨_, rightAssessed⟩ := rightClean
  refine ⟨⟨satisfied ▸ covered, fun requirementId required => ?_⟩, fun item assessed => ?_⟩
  · obtain ⟨stageId, item, present, named⟩ :=
      mem_justifiedIds_iff.mp (justified (satisfied ▸ required))
    exact mem_justifiedIds_iff.mpr ⟨stageId, item, (unites.has_iff _).mpr (.inl present), named⟩
  · rcases (unites.has_iff (.assessment item)).mp assessed with inLeft | inRight
    · exact leftAssessed item inLeft
    · exact rightAssessed item inRight

/-! ## Stages of a merged draft -/

theorem content_eq_has (draft : CompositionCandidateDraft) {node : CompositionNode}
    (member : node ∈ draft.nodes) :
    node.content = {part | draft.Has (.stage node.stageId part)} :=
  content_eq_of_nodup (nodes_keyed draft).nodup member

theorem Unites.stage_has_iff (unites : Unites left right merged)
    {node other found : CompositionNode} (inLeft : node ∈ left.nodes)
    (inRight : other ∈ right.nodes) (inMerged : found ∈ merged.nodes)
    (sameLeft : found.stageId = node.stageId) (sameRight : found.stageId = other.stageId)
    (part : StagePart) : found.Has part ↔ node.Has part ∨ other.Has part := by
  have ofMerged : found.Has part ↔ merged.Has (.stage found.stageId part) :=
    Set.ext_iff.mp (content_eq_has merged inMerged) part
  have ofLeft : node.Has part ↔ left.Has (.stage found.stageId part) :=
    sameLeft ▸ Set.ext_iff.mp (content_eq_has left inLeft) part
  have ofRight : other.Has part ↔ right.Has (.stage found.stageId part) :=
    sameRight ▸ Set.ext_iff.mp (content_eq_has right inRight) part
  rw [ofMerged, ofLeft, ofRight, unites.has_iff]

end

/-! ## Ids of drafts -/

/-- The layout of what the id of a draft covers of a stage. -/
def stageLayout : Layout := .record [
  ("stage_id", .scalar), ("role", .scalar), ("model_identity", identityLayout),
  ("requirement_ids", .list .scalar),
  ("requirements", .record (requirementFields ++ [("evidence", .list .scalar)]))]

/-- The layout of what the id of a draft covers. -/
def compositionLayout : Layout := .record [
  ("schema_version", .scalar), ("request_id", .scalar), ("workload_id", .scalar),
  ("session_id", .scalar), ("graph_id", .scalar), ("topology", .scalar),
  ("stages", .list stageLayout),
  ("edges", .list (.record [
    ("source", .scalar), ("target", .scalar), ("dependency_type", .scalar)]))]

theorem distinct_compositionLayout : Distinct compositionLayout := by
  simp [compositionLayout, stageLayout, identityLayout, requirementFields, Distinct, DistinctFields]

theorem fits_modelDump (requirements : ModelCapabilityRequirements) :
    Fits (.record (requirementFields ++ [("evidence", .list .scalar)])) requirements.modelDump := by
  simp only [requirementFields, ModelCapabilityRequirements.modelDump]
  cases requirements.allowedStatuses <;> simp [Fits, FitsFields]

theorem fits_stageContent {nodes : List CompositionNode} {slot : PatternSlot} {stage : StageContent}
    (given : stageContent nodes slot = some stage) : Fits stageLayout stage.payload := by
  obtain ⟨node, _, rfl⟩ := Option.map_eq_some_iff.mp given
  have dumped := fits_modelDump node.requirements
  simpa [stageLayout, identityLayout, StageContent.payload, Fits, FitsFields] using dumped

theorem fits_compositionPayloadOf (requestId workloadId sessionId graphId : String)
    (pattern : CertifiedCompositionPattern) {stages : List StageContent}
    (fits : ∀ stage ∈ stages, Fits stageLayout stage.payload) :
    Fits compositionLayout
      (compositionPayloadOf requestId workloadId sessionId graphId pattern stages) := by
  simpa [compositionLayout, compositionPayloadOf, Fits, FitsFields] using fits

/-- The digest tells apart what the ids of two drafts cover. -/
def TellsIds (digest : Digest) (left right : DraftFields) : Prop :=
  ∀ payload ∈ compositionPayload left, ∀ other ∈ compositionPayload right,
    digest.Tells payload other

theorem mem_compositionPayload {draft : DraftFields} {pattern : CertifiedCompositionPattern}
    (certified : getCertifiedPattern draft.topology = some pattern) {stages : List StageContent}
    (made : pattern.slots.mapM (stageContent draft.nodes) = some stages) :
    compositionPayloadOf draft.requestId draft.workloadId draft.sessionId draft.graphId pattern
      stages ∈ compositionPayload draft := by
  rw [compositionPayload, certified, Option.bind_some, made]
  rfl

/-- Drafts that share their composition id fill the slots of the pattern with stages of the same
payloads. -/
theorem payloads_of_compositionId {digest : Digest} {left right : DraftFields}
    (tells : TellsIds digest left right) {pattern : CertifiedCompositionPattern}
    (certifiedLeft : getCertifiedPattern left.topology = some pattern)
    (certifiedRight : getCertifiedPattern right.topology = some pattern) {compositionId : String}
    (ofLeft : semanticCompositionId digest left pattern = some compositionId)
    (ofRight : semanticCompositionId digest right pattern = some compositionId) :
    ∃ payloads : List Json,
      pattern.slots.map (fun slot => (stageContent left.nodes slot).map StageContent.payload) =
        payloads.map some ∧
      pattern.slots.map (fun slot => (stageContent right.nodes slot).map StageContent.payload) =
        payloads.map some := by
  obtain ⟨lefts, leftMade, leftId⟩ := Option.map_eq_some_iff.mp ofLeft
  obtain ⟨rights, rightMade, rightId⟩ := Option.map_eq_some_iff.mp ofRight
  have apart := tells _ (mem_compositionPayload certifiedLeft leftMade)
    _ (mem_compositionPayload certifiedRight rightMade)
  rw [mapM_eq_some_iff] at leftMade rightMade
  have fits {draft : DraftFields} {stages : List StageContent}
      (made : pattern.slots.map (stageContent draft.nodes) = stages.map some) :
      ∀ stage ∈ stages, Fits stageLayout stage.payload := by
    intro stage inside
    have present : some stage ∈ pattern.slots.map (stageContent draft.nodes) :=
      made ▸ List.mem_map_of_mem inside
    obtain ⟨_, _, given⟩ := List.mem_map.mp present
    exact fits_stageContent given
  have payloads := apart.eq_of_fits distinct_compositionLayout
    (fits_compositionPayloadOf left.requestId left.workloadId left.sessionId left.graphId pattern
      (fits leftMade))
    (fits_compositionPayloadOf right.requestId right.workloadId right.sessionId right.graphId
      pattern (fits rightMade)) ((String.append_right_inj _).mp (leftId.trans rightId.symm))
  simp only [compositionPayloadOf, Json.obj.injEq, List.cons.injEq, Prod.mk.injEq,
    Json.arr.injEq, true_and, and_true] at payloads
  have each {draft : DraftFields} {stages : List StageContent}
      (made : pattern.slots.map (stageContent draft.nodes) = stages.map some) :
      pattern.slots.map (fun slot => (stageContent draft.nodes slot).map StageContent.payload) =
        (stages.map StageContent.payload).map some := by
    have images := congrArg (List.map (Option.map StageContent.payload)) made
    simpa [Function.comp_def] using images
  exact ⟨_, each leftMade, payloads.2.2.2.2 ▸ each rightMade⟩

theorem stages_of_compositionId {digest : Digest} {left right : DraftFields}
    (tells : TellsIds digest left right) {pattern : CertifiedCompositionPattern}
    (certifiedLeft : getCertifiedPattern left.topology = some pattern)
    (certifiedRight : getCertifiedPattern right.topology = some pattern) {compositionId : String}
    (ofLeft : semanticCompositionId digest left pattern = some compositionId)
    (ofRight : semanticCompositionId digest right pattern = some compositionId)
    {slot : PatternSlot} (member : slot ∈ pattern.slots) :
    ∃ stage other, stageContent left.nodes slot = some stage ∧
      stageContent right.nodes slot = some other ∧ stage.payload = other.payload := by
  obtain ⟨payloads, lefts, rights⟩ :=
    payloads_of_compositionId tells certifiedLeft certifiedRight ofLeft ofRight
  have found := List.map_inj_left.mp (lefts.trans rights.symm) slot member
  have present : (stageContent left.nodes slot).map StageContent.payload ∈ payloads.map some :=
    lefts ▸ List.mem_map_of_mem member
  obtain ⟨payload, _, given⟩ := List.mem_map.mp present
  obtain ⟨stage, leftGiven, isLeft⟩ := Option.map_eq_some_iff.mp given.symm
  obtain ⟨other, rightGiven, isRight⟩ := Option.map_eq_some_iff.mp (given.trans found).symm
  exact ⟨stage, other, leftGiven, rightGiven, isLeft.trans isRight.symm⟩

theorem evidence_of_modelDump {left right : ModelCapabilityRequirements}
    (same : left.modelDump = right.modelDump) : left.evidence = right.evidence := by
  simp only [ModelCapabilityRequirements.modelDump, Json.obj.injEq, List.cons.injEq, Prod.mk.injEq,
    true_and, and_true] at same
  obtain ⟨_, _, _, _, _, _, _, _, _, _, _, _, _, _, _, evidence⟩ := same
  exact CanonicalTuple.ext_items (Json.strs_injective evidence)

theorem stage_of_compositionId {digest : Digest} {left right : DraftFields}
    (tells : TellsIds digest left right) {pattern : CertifiedCompositionPattern}
    (certifiedLeft : getCertifiedPattern left.topology = some pattern)
    (certifiedRight : getCertifiedPattern right.topology = some pattern) {compositionId : String}
    (ofLeft : semanticCompositionId digest left pattern = some compositionId)
    (ofRight : semanticCompositionId digest right pattern = some compositionId)
    {slot : PatternSlot} (member : slot ∈ pattern.slots) :
    ∃ node other, (Dict.indexed CompositionNode.stageId left.nodes).get? slot.stageId = some node ∧
      (Dict.indexed CompositionNode.stageId right.nodes).get? slot.stageId = some other ∧
      sortOn id (node.justifications.items.map CapabilityJustification.requirementId) =
        sortOn id (other.justifications.items.map CapabilityJustification.requirementId) ∧
      node.requirements.evidence = other.requirements.evidence := by
  obtain ⟨stage, next, leftGiven, rightGiven, payloads⟩ :=
    stages_of_compositionId tells certifiedLeft certifiedRight ofLeft ofRight member
  obtain ⟨node, inLeft, rfl⟩ := Option.map_eq_some_iff.mp leftGiven
  obtain ⟨other, inRight, rfl⟩ := Option.map_eq_some_iff.mp rightGiven
  simp only [StageContent.payload, Json.obj.injEq, List.cons.injEq, Prod.mk.injEq,
    Json.strs_injective.eq_iff, true_and, and_true] at payloads
  exact ⟨node, other, inLeft, inRight, payloads.2.1, evidence_of_modelDump payloads.2.2⟩

theorem exists_slot {draft : CompositionCandidateDraft} {pattern : CertifiedCompositionPattern}
    (shaped : topologyIssues draft.shape (some pattern) = []) {node : CompositionNode}
    (member : node ∈ draft.nodes) : ∃ slot ∈ pattern.slots, slot.stageId = node.stageId := by
  have distinct : (draft.shape.slots.map Prod.fst).Nodup := by
    rw [DraftFields.shape, List.map_map]
    exact draft.valid.stageIds_nodup
  have present : node.stageId ∈ draft.shape.slots.map Prod.fst := by
    rw [DraftFields.shape, List.map_map]
    exact List.mem_map_of_mem member
  simp only [topologyIssues] at shaped
  split_ifs at shaped
  simp only [List.append_eq_nil_iff, patternIssues, issueIf_eq_nil, not_or, not_not] at shaped
  have ids : (Dict.ofList draft.shape.slots).keys.toFinset = pattern.stageIds.toFinset :=
    shaped.2.1.2.1
  rw [Dict.keys, Dict.ofList_entries distinct] at ids
  rw [← List.mem_toFinset, ids, List.mem_toFinset] at present
  exact List.mem_map.mp present

/-! ## Validity of merged drafts -/

/-- Stages of one id carry the same justifications. -/
def JustifiedAlike (left right : CompositionCandidateDraft) : Prop :=
  ∀ node ∈ left.nodes, ∀ other ∈ right.nodes, node.stageId = other.stageId →
    node.justifications = other.justifications

section

variable {digest : Digest} {left right merged : CompositionCandidateDraft}
  {context : CompositionValidationContext}

/-- A stage that is justified alike and required on the same evidence in both drafts has the content
that it had. -/
theorem Unites.stageContent_eq (unites : Unites left right merged)
    (alike : JustifiedAlike left right) {slot : PatternSlot} {node other : CompositionNode}
    (inLeft : (Dict.indexed CompositionNode.stageId left.nodes).get? slot.stageId = some node)
    (inRight : (Dict.indexed CompositionNode.stageId right.nodes).get? slot.stageId = some other)
    (evidence : node.requirements.evidence = other.requirements.evidence) :
    stageContent merged.nodes slot = stageContent left.nodes slot := by
  have found := get?_of_kinds (DraftFields.nodes_of_kind unites.kind) slot.stageId
  rw [inLeft, Option.map_some] at found
  obtain ⟨stage, inMerged, kind⟩ := Option.map_eq_some_iff.mp found
  obtain ⟨leftMember, leftId⟩ := Dict.mem_of_indexed_get? inLeft
  obtain ⟨rightMember, rightId⟩ := Dict.mem_of_indexed_get? inRight
  obtain ⟨mergedMember, mergedId⟩ := Dict.mem_of_indexed_get? inMerged
  have parts := unites.stage_has_iff leftMember rightMember mergedMember
    (mergedId.trans leftId.symm) (mergedId.trans rightId.symm)
  have justified := alike node leftMember other rightMember (leftId.trans rightId.symm)
  have justifications : stage.justifications = node.justifications := by
    refine CanonicalTuple.ext_mem CapabilityJustification.key_injective fun item => ?_
    have either : item ∈ stage.justifications.items ↔
        item ∈ node.justifications.items ∨ item ∈ other.justifications.items :=
      parts (.justification item)
    rw [either, ← justified, or_self]
  have requirements : stage.requirements = node.requirements := by
    refine joins_mergeRequirements.ext trivial trivial
      (of_nodeSemantics (semantics_of_kind kind)).2.2.1 rfl (Set.ext fun text => ?_)
    have either : text ∈ requirementContent stage.requirements ↔
        text ∈ requirementContent node.requirements ∨
          text ∈ requirementContent other.requirements :=
      parts (.requirementEvidence text)
    rw [either, requirementContent, requirementContent, ← evidence, or_self]
  simp only [stageContent, inMerged, inLeft, Option.map_some, record_of_kind kind, justifications,
    requirements]

/-- Drafts with the same stages are merged to a draft whose id covers what theirs do. -/
theorem Unites.compositionPayload_eq (unites : Unites left right merged)
    (nodes : left.nodes = right.nodes) :
    compositionPayload merged.toDraftFields = compositionPayload left.toDraftFields := by
  have alike : JustifiedAlike left right := by
    intro node member other present same
    rw [← nodes] at present
    rw [List.inj_on_of_nodup_map left.valid.stageIds_nodup member present same]
  have stages (slot : PatternSlot) :
      stageContent merged.nodes slot = stageContent left.nodes slot := by
    cases inLeft : (Dict.indexed CompositionNode.stageId left.nodes).get? slot.stageId with
    | some node => exact unites.stageContent_eq alike inLeft (nodes ▸ inLeft) rfl
    | none =>
        have found := get?_of_kinds (DraftFields.nodes_of_kind unites.kind) slot.stageId
        rw [inLeft, Option.map_none, Option.map_eq_none_iff] at found
        rw [stageContent, stageContent, found, inLeft]
  have origin := unites.origin
  simp only [DraftFields.origin, Prod.mk.injEq] at origin
  rw [compositionPayload, compositionPayload, DraftFields.topology_of_kind unites.kind,
    origin.1, origin.2.1, origin.2.2.1, origin.2.2.2]
  simp only [mapM_congr fun slot _ => stages slot]

/-- Where stages are justified alike, drafts of one id are merged to a draft that their content
still names. -/
theorem Unites.semanticCompositionId (unites : Unites left right merged)
    (tells : TellsIds digest left.toDraftFields right.toDraftFields)
    (alike : JustifiedAlike left right) {pattern : CertifiedCompositionPattern}
    (certified : getCertifiedPattern left.topology = some pattern)
    (ofLeft : semanticCompositionId digest left.toDraftFields pattern = some left.compositionId)
    (ofRight : semanticCompositionId digest right.toDraftFields pattern =
      some left.compositionId) :
    semanticCompositionId digest merged.toDraftFields pattern = some left.compositionId := by
  have certifiedRight : getCertifiedPattern right.topology = some pattern :=
    DraftFields.topology_of_kind unites.same ▸ certified
  have stages : ∀ slot ∈ pattern.slots,
      stageContent merged.nodes slot = stageContent left.nodes slot := by
    intro slot member
    obtain ⟨node, other, inLeft, inRight, _, evidence⟩ :=
      stage_of_compositionId tells certified certifiedRight ofLeft ofRight member
    exact unites.stageContent_eq alike inLeft inRight evidence
  have origin := unites.origin
  simp only [DraftFields.origin, Prod.mk.injEq] at origin
  rw [← ofLeft, Composition.semanticCompositionId, Composition.semanticCompositionId,
    mapM_congr stages, origin.1, origin.2.1, origin.2.2.1, origin.2.2.2]

theorem clean_iff_of_kind {pattern : CertifiedCompositionPattern}
    (certified : getCertifiedPattern left.topology = some pattern) (same : left.kind = right.kind) :
    validationIssues digest right context = [] ↔
      topologyIssues right.shape (some pattern) = [] ∧
        identityAndCapabilityIssues right.toDraftFields context (some pattern) = [] ∧
        coverageAndEvidenceIssues right.toDraftFields context = [] ∧
        handoffIssues right.toDraftFields = [] ∧
        semanticCompositionId digest right.toDraftFields pattern = some left.compositionId := by
  rw [DraftFields.topology_of_kind same] at certified
  rw [validationIssues_eq_nil_iff certified, DraftFields.compositionId_of_kind same]

/-- Where stages are justified alike, drafts that pass are merged to a draft that passes. -/
theorem Unites.validationIssues (unites : Unites left right merged)
    (tells : TellsIds digest left.toDraftFields right.toDraftFields)
    (alike : JustifiedAlike left right)
    (leftClean : validationIssues digest left context = [])
    (rightClean : validationIssues digest right context = []) :
    validationIssues digest merged context = [] := by
  obtain ⟨pattern, certified⟩ := exists_certifiedPattern left.topology
  rw [validationIssues_eq_nil_iff certified] at leftClean
  rw [clean_iff_of_kind certified unites.same] at rightClean
  rw [clean_iff_of_kind certified unites.kind.symm]
  obtain ⟨leftShape, leftIdentity, leftCoverage, leftHandoffs, leftNamed⟩ := leftClean
  obtain ⟨_, _, rightCoverage, _, rightNamed⟩ := rightClean
  refine ⟨?_, ?_, unites.coverageAndEvidenceIssues leftCoverage rightCoverage, ?_,
    unites.semanticCompositionId tells alike certified leftNamed rightNamed⟩
  · rw [shape_of_kind unites.kind, leftShape]
  · rw [identityAndCapabilityIssues_of_kind unites.kind unites.origin, leftIdentity]
  · rw [handoffIssues_of_kind unites.kind, leftHandoffs]

/-- As many requirements are justified by one collection as by another that contains it only where
the two are the same. -/
theorem justifications_eq_of_subset {fewer more : CanonicalTuple CapabilityJustification
      CapabilityJustification.key} (inside : fewer.items ⊆ more.items)
    (same : sortOn id (more.items.map CapabilityJustification.requirementId) =
      sortOn id (fewer.items.map CapabilityJustification.requirementId)) : more = fewer := by
  have lengths : more.items.length = fewer.items.length := by
    simpa using congrArg List.length same
  have distinct : fewer.items.Nodup := fewer.canonical_eq ▸ canonical_nodup _ _
  have perm := (List.subperm_of_subset distinct inside).perm_of_length_le lengths.le
  exact CanonicalTuple.ext_mem CapabilityJustification.key_injective fun item => perm.mem_iff.symm

/-- Drafts that pass are merged to a draft that passes only where their stages are justified
alike. -/
theorem Unites.justifiedAlike (unites : Unites left right merged)
    (tells : TellsIds digest merged.toDraftFields left.toDraftFields)
    (otherTells : TellsIds digest merged.toDraftFields right.toDraftFields)
    (leftClean : Composition.validationIssues digest left context = [])
    (rightClean : Composition.validationIssues digest right context = [])
    (mergedClean : Composition.validationIssues digest merged context = []) :
    JustifiedAlike left right := by
  obtain ⟨pattern, certified⟩ := exists_certifiedPattern left.topology
  rw [validationIssues_eq_nil_iff certified] at leftClean
  rw [clean_iff_of_kind certified unites.same] at rightClean
  rw [clean_iff_of_kind certified unites.kind.symm] at mergedClean
  intro node leftMember other rightMember sameId
  have certifiedRight : getCertifiedPattern right.topology = some pattern :=
    DraftFields.topology_of_kind unites.same ▸ certified
  have certifiedMerged : getCertifiedPattern merged.topology = some pattern :=
    DraftFields.topology_of_kind unites.kind.symm ▸ certified
  obtain ⟨slot, member, named⟩ := exists_slot leftClean.1 leftMember
  obtain ⟨stage, found, inMerged, inLeft, leftIds, _⟩ :=
    stage_of_compositionId tells certifiedMerged certified mergedClean.2.2.2.2
      leftClean.2.2.2.2 member
  obtain ⟨again, next, inMergedAgain, inRight, rightIds, _⟩ :=
    stage_of_compositionId otherTells certifiedMerged certifiedRight mergedClean.2.2.2.2
      rightClean.2.2.2.2 member
  obtain rfl : stage = again := Option.some_inj.mp (inMerged.symm.trans inMergedAgain)
  have isLeft := (Dict.indexed_get?_eq_some_iff left.valid.stageIds_nodup).mpr
    ⟨leftMember, named.symm⟩
  have isRight := (Dict.indexed_get?_eq_some_iff right.valid.stageIds_nodup).mpr
    ⟨rightMember, sameId.symm.trans named.symm⟩
  obtain rfl : found = node := Option.some_inj.mp (inLeft.symm.trans isLeft)
  obtain rfl : next = other := Option.some_inj.mp (inRight.symm.trans isRight)
  obtain ⟨mergedMember, mergedName⟩ := Dict.mem_of_indexed_get? inMerged
  have parts := unites.stage_has_iff leftMember rightMember mergedMember (mergedName.trans named)
    ((mergedName.trans named).trans sameId)
  have ofLeft : stage.justifications = found.justifications :=
    justifications_eq_of_subset (fun item inside => (parts (.justification item)).mpr (.inl inside))
      leftIds
  have ofRight : stage.justifications = next.justifications :=
    justifications_eq_of_subset (fun item inside => (parts (.justification item)).mpr (.inr inside))
      rightIds
  exact ofLeft.symm.trans ofRight

end

end Composition
end MercuryX
