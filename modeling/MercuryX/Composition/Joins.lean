import MercuryX.Composition.Enumeration

/-!
# Merging as a join

Merging two artifacts, requirements, stages or handoffs keeps what the signature covers of them and
unites the rest: each merge is the join of what both sides contain. The merge of whole drafts is put
together from these joins, under the keys that stages and handoffs stand in.
-/

namespace MercuryX
namespace Composition

open Foundation
open MercuryX.Graph (GraphDependencyType)
open Intelligence (CanonicalTuple)
open Models

/-! ## Collections -/

section Collections

variable {α κ : Type} [DecidableEq α] [LinearOrder κ] {key : α → κ}

/-- Where the key tells the elements apart, canonical collections of the same members are equal. -/
theorem canonical_ext (told : Function.Injective key) {left right : List α}
    (leftCanonical : canonical key left = left) (rightCanonical : canonical key right = right)
    (same : ∀ item, item ∈ left ↔ item ∈ right) : left = right := by
  rw [← leftCanonical, ← rightCanonical]
  exact canonical_congr (fun _ _ _ _ equal => told equal) same

theorem CanonicalTuple.ext_mem (told : Function.Injective key) {left right : CanonicalTuple α key}
    (same : ∀ item, item ∈ left.items ↔ item ∈ right.items) : left = right :=
  CanonicalTuple.ext_items (canonical_ext told left.canonical_eq right.canonical_eq same)

@[simp] theorem mem_sortedUnion {left right : CanonicalTuple α key} {item : α} :
    item ∈ (sortedUnion left right).items ↔ item ∈ left.items ∨ item ∈ right.items := by
  rw [sortedUnion, CanonicalTuple.mem_of, List.mem_append]

end Collections

/-- A sorted list without repeated keys stands under strictly increasing keys. -/
theorem keyed_of_sorted {α κ : Type} [LinearOrder κ] {key : α → κ} {items : List α}
    (sorted : sortOn key items = items) (distinct : (items.map key).Nodup) :
    KeyedList key (fun _ => True) items where
  increasing := by
    have ordered := sortOn_pairwise key items
    rw [sorted, ← List.pairwise_map (R := (· ≤ ·))] at ordered
    exact (ordered.and distinct).imp fun both => lt_of_le_of_ne both.1 both.2
  admitted _ _ := trivial

/-- Lists under the same strictly increasing keys are merged item by item. -/
theorem mergeByKey_eq {α κ : Type} [DecidableEq κ] [LinearOrder κ] {key : α → κ}
    {merge : α → α → Except Fault α} {differ : Fault} {lefts rights : List α}
    (increasing : (lefts.map key).Pairwise (· < ·)) (keys : lefts.map key = rights.map key) :
    mergeByKey key merge differ lefts rights =
      (lefts.zip rights).mapM fun pair => merge pair.1 pair.2 := by
  have leftDistinct : (lefts.map key).Nodup := increasing.imp ne_of_lt
  have rightDistinct : (rights.map key).Nodup := keys ▸ leftDistinct
  have sorted : sortOn id (lefts.map key) = lefts.map key :=
    sortOn_eq_self id (increasing.imp le_of_lt)
  have lengths : lefts.length = rights.length := by simpa using congrArg List.length keys
  have paired : List.Forall₂ (fun left right => key left = key right) lefts rights := by
    rwa [← List.forall₂_eq_eq_eq, List.forall₂_map_left_iff, List.forall₂_map_right_iff] at keys
  simp only [mergeByKey, Dict.indexed_keys leftDistinct, Dict.indexed_keys rightDistinct, keys,
    require_of_true, ok_bind]
  have keysOf : lefts.map key = (lefts.zip rights).map fun pair => key pair.1 := by
    conv_lhs => rw [← List.map_fst_zip lengths.le]
    rw [List.map_map]
    rfl
  rw [← keys, sorted, keysOf, List.mapM_map]
  refine mapM_congr fun pair member => ?_
  obtain ⟨inLeft, inRight⟩ := List.of_mem_zip member
  have leftFound := (Dict.indexed_get?_eq_some_iff leftDistinct).mpr ⟨inLeft, rfl⟩
  have rightFound := (Dict.indexed_get?_eq_some_iff rightDistinct).mpr
    ⟨inRight, (List.forall₂_zip paired member).symm⟩
  simp only [Function.comp_apply, leftFound, rightFound]

/-! ## Artifacts and requirements -/

theorem ModelModality.value_injective : Function.Injective ModelModality.value := by
  intro left right same
  revert same
  cases left <;> cases right <;> decide

theorem ReasoningCapability.value_injective : Function.Injective ReasoningCapability.value := by
  intro left right same
  revert same
  cases left <;> cases right <;> decide

theorem CapabilityStatus.value_injective : Function.Injective CapabilityStatus.value := by
  intro left right same
  revert same
  cases left <;> cases right <;> decide

theorem optInt_injective : Function.Injective Json.optInt := by
  rintro (_ | left) (_ | right) same <;> simp_all [Json.optInt]

namespace CompositionArtifactContract

/-- The artifact with other evidence. -/
def withEvidence (artifact : CompositionArtifactContract) (evidence : CanonicalTuple String id)
    (visible : ∀ text ∈ evidence.items, Text.Nonblank text) : CompositionArtifactContract :=
  { artifact with evidence := evidence, evidence_nonblank := visible }

/-- What a signature covers of an artifact is all of it except its evidence. -/
theorem withEvidence_of_semantics {left right : CompositionArtifactContract}
    (same : artifactSemantics left = artifactSemantics right) :
    left.withEvidence right.evidence right.evidence_nonblank = right := by
  simp only [artifactSemantics, Json.obj.injEq, List.cons.injEq, Prod.mk.injEq, Json.str.injEq,
    Json.bool.injEq, Json.strs_injective.eq_iff, true_and, and_true] at same
  obtain ⟨artifactId, modalities, structured⟩ := same
  have sameModalities : left.modalities = right.modalities := by
    refine CanonicalTuple.ext_mem ModelModality.value_injective fun modality => ?_
    rw [← List.mem_map_of_injective ModelModality.value_injective, ← mem_sortOn id, modalities,
      mem_sortOn, List.mem_map_of_injective ModelModality.value_injective]
  cases left
  cases right
  simp_all [withEvidence]

/-- The evidence of an artifact. -/
def content (artifact : CompositionArtifactContract) : Set String :=
  {text | text ∈ artifact.evidence.items}

end CompositionArtifactContract

theorem artifactId_of_semantics (left right : CompositionArtifactContract)
    (same : artifactSemantics left = artifactSemantics right) :
    left.artifactId = right.artifactId := by
  rw [← CompositionArtifactContract.withEvidence_of_semantics same]
  rfl

theorem joins_mergeArtifact : Joins (fun _ => True) artifactSemantics (fun _ => ())
    CompositionArtifactContract.content mergeArtifact where
  ext := by
    rintro left right _ _ same _ contents
    have evidence : left.evidence = right.evidence :=
      CanonicalTuple.ext_mem Function.injective_id (Set.ext_iff.mp contents)
    have rebuilt := CompositionArtifactContract.withEvidence_of_semantics same
    simp only [← evidence] at rebuilt
    exact rebuilt
  join := by
    rintro left right _ _ same
    refine ⟨left.withEvidence (sortedUnion left.evidence right.evidence)
      (nonblank_sortedUnion left.evidence_nonblank right.evidence_nonblank), ?_, trivial, rfl, rfl,
      ?_⟩
    · rw [mergeArtifact, require_of_true same]
      rfl
    · ext text
      exact mem_sortedUnion

theorem allowedStatuses_injective
    {left right : Option (CanonicalTuple CapabilityStatus CapabilityStatus.value)}
    (same : (match left with
      | none => Json.null
      | some statuses => Json.strs (statuses.items.map CapabilityStatus.value)) =
      match right with
      | none => Json.null
      | some statuses => Json.strs (statuses.items.map CapabilityStatus.value)) : left = right := by
  rcases left with _ | left <;> rcases right with _ | right
  case none.none => rfl
  case none.some => simp [Json.strs] at same
  case some.none => simp [Json.strs] at same
  case some.some =>
    have items := List.map_injective_iff.mpr CapabilityStatus.value_injective
      (Json.strs_injective same)
    rw [CanonicalTuple.ext_items items]

/-- The requirements with other evidence. -/
def requirementsWithEvidence (requirements : ModelCapabilityRequirements)
    (evidence : CanonicalTuple String id) (visible : ∀ text ∈ evidence.items, Text.Nonblank text) :
    ModelCapabilityRequirements :=
  { requirements with evidence := evidence, evidence_nonblank := visible }

/-- What a signature covers of requirements is all of them except their evidence. -/
theorem requirementsWithEvidence_of_semantics {left right : ModelCapabilityRequirements}
    (same : requirementSemantics left = requirementSemantics right) :
    requirementsWithEvidence left right.evidence right.evidence_nonblank = right := by
  obtain ⟨⟩ := left
  obtain ⟨⟩ := right
  simp only [requirementSemantics, ModelCapabilityRequirements.modelDump, ne_eq, decide_not,
    String.reduceEq, decide_false, decide_true, Bool.not_false, Bool.not_true, List.filter,
    Json.obj.injEq, List.cons.injEq, Prod.mk.injEq, Json.strs_injective.eq_iff, Json.bool.injEq,
    true_and, and_true] at same
  obtain ⟨inputs, outputs, reasoning, rfl, rfl, rfl, rfl, rfl, rfl, rfl, rfl, context, output, rfl,
    statuses⟩ := same
  obtain rfl := List.map_injective_iff.mpr ModelModality.value_injective inputs
  obtain rfl := List.map_injective_iff.mpr ModelModality.value_injective outputs
  obtain rfl := List.map_injective_iff.mpr ReasoningCapability.value_injective reasoning
  obtain rfl := optInt_injective context
  obtain rfl := optInt_injective output
  obtain rfl := allowedStatuses_injective statuses
  rfl

/-- The evidence of requirements. -/
def requirementContent (requirements : ModelCapabilityRequirements) : Set String :=
  {text | text ∈ requirements.evidence.items}

theorem joins_mergeRequirements : Joins (fun _ => True) requirementSemantics (fun _ => ())
    requirementContent mergeRequirements where
  ext := by
    rintro left right _ _ same _ contents
    have evidence : left.evidence = right.evidence :=
      CanonicalTuple.ext_mem Function.injective_id (Set.ext_iff.mp contents)
    have rebuilt := requirementsWithEvidence_of_semantics same
    simp only [← evidence] at rebuilt
    exact rebuilt
  join := by
    rintro left right _ _ same
    refine ⟨requirementsWithEvidence left (sortedUnion left.evidence right.evidence)
      (nonblank_sortedUnion left.evidence_nonblank right.evidence_nonblank), ?_, trivial, rfl, rfl,
      ?_⟩
    · rw [mergeRequirements, require_of_true same]
      rfl
    · ext text
      exact mem_sortedUnion

/-! ## Artifacts of a stage -/

namespace ArtifactTuple

/-- What a signature covers of the artifacts, one by one. -/
def kinds (artifacts : ArtifactTuple) : List Json := artifacts.items.map artifactSemantics

/-- The evidence of the artifacts, under their ids. -/
def content (artifacts : ArtifactTuple) : Set (String × String) :=
  keyedContent CompositionArtifactContract.artifactId CompositionArtifactContract.content
    artifacts.items

theorem ext_items {left right : ArtifactTuple} (same : left.items = right.items) :
    left = right := by
  cases left
  cases right
  simpa using same

theorem keyed (artifacts : ArtifactTuple) :
    KeyedList CompositionArtifactContract.artifactId (fun _ => True) artifacts.items :=
  keyed_of_sorted artifacts.items_sorted artifacts.ids_nodup

theorem artifactsSemantics_eq (artifacts : ArtifactTuple) :
    artifactsSemantics artifacts = .arr artifacts.kinds := by
  rw [artifactsSemantics, artifacts.items_sorted, kinds]

theorem exists_mergeArtifactTuple {left right : ArtifactTuple}
    {items : List CompositionArtifactContract}
    (made : mergeByKey CompositionArtifactContract.artifactId mergeArtifact
      (.value "duplicate artifact contracts differ") left.items right.items = .ok items) :
    ∃ merged, mergeArtifactTuple left right = .ok merged ∧ merged.items = items := by
  unfold mergeArtifactTuple
  split
  · next raised failed => simp [made] at failed
  · next found merged =>
      obtain rfl := Except.ok.inj (merged.symm.trans made)
      exact ⟨_, rfl, rfl⟩

end ArtifactTuple

/-- Merging artifacts of the same ids unites their evidence, each under its id. -/
theorem joins_mergeArtifactTuple : Joins (fun _ => True) ArtifactTuple.kinds (fun _ => ())
    ArtifactTuple.content mergeArtifactTuple where
  ext := by
    rintro left right _ _ same _ contents
    exact ArtifactTuple.ext_items
      ((joins_mergeArtifact.keyed artifactId_of_semantics).ext left.keyed right.keyed same rfl
        contents)
  join := by
    rintro left right _ _ same
    obtain ⟨items, made, _, kinds, _, contents⟩ :=
      (joins_mergeArtifact.keyed artifactId_of_semantics).join left.keyed right.keyed same
    rw [← mergeByKey_eq left.keyed.increasing
      (map_eq_map_of_coarser artifactId_of_semantics same)] at made
    obtain ⟨merged, joined, rfl⟩ := ArtifactTuple.exists_mergeArtifactTuple made
    exact ⟨merged, joined, trivial, kinds, rfl, contents⟩

/-! ## Handoffs -/

/-- The evidence of a handoff. -/
def CompositionEdge.content (edge : CompositionEdge) : Set String :=
  {text | text ∈ edge.evidence.items}

/-- What a signature covers of a handoff is what handoffs are told apart by. -/
theorem edgeSemantics_eq_iff {left right : CompositionEdge} :
    edgeSemantics left = edgeSemantics right ↔ left.semanticKey = right.semanticKey := by
  simp only [edgeSemantics, CompositionEdge.semanticKey, Json.obj.injEq, List.cons.injEq,
    Prod.mk.injEq, Json.str.injEq, EmbeddingLike.apply_eq_iff_eq, true_and, and_true]

theorem GraphDependencyType.value_injective : Function.Injective GraphDependencyType.value := by
  intro left right same
  revert same
  cases left <;> cases right <;> decide

/-- Merging handoffs unites their evidence. -/
theorem joins_mergeEdge : Joins (fun _ => True) CompositionEdge.semanticKey (fun _ => ())
    CompositionEdge.content mergeEdge where
  ext := by
    rintro left right _ _ same _ contents
    have evidence : left.evidence = right.evidence :=
      CanonicalTuple.ext_mem Function.injective_id (Set.ext_iff.mp contents)
    simp only [CompositionEdge.semanticKey, EmbeddingLike.apply_eq_iff_eq, Prod.mk.injEq,
      GraphDependencyType.value_injective.eq_iff] at same
    cases left
    cases right
    simp_all
  join := by
    rintro left right _ _ same
    refine ⟨_, rfl, trivial, rfl, rfl, ?_⟩
    ext text
    exact mem_sortedUnion

/-! ## Stages -/

/-- One of the things that merging stages unites. -/
inductive StagePart where
  | requirementEvidence (text : String)
  | inputEvidence (artifactId text : String)
  | outputEvidence (artifactId text : String)
  | justification (item : CapabilityJustification)
  | provenance (item : CompositionProvenanceReference)

namespace CompositionNode

/-- A stage has a part. -/
def Has (node : CompositionNode) : StagePart → Prop
  | .requirementEvidence text => text ∈ requirementContent node.requirements
  | .inputEvidence artifactId text => (artifactId, text) ∈ node.inputArtifacts.content
  | .outputEvidence artifactId text => (artifactId, text) ∈ node.outputArtifacts.content
  | .justification item => item ∈ node.justifications.items
  | .provenance item => item ∈ node.provenance.items

/-- The parts of a stage. -/
def content (node : CompositionNode) : Set StagePart := {part | node.Has part}

/-- What two stages have to share to be merged. -/
def kind (node : CompositionNode) : String × Json × ModelCapabilityRecord :=
  (node.stageId, nodeSemantics node, node.modelRecord)

end CompositionNode

theorem stageId_of_kind (left right : CompositionNode) (same : left.kind = right.kind) :
    left.stageId = right.stageId :=
  congrArg Prod.fst same

theorem semantics_of_kind {left right : CompositionNode} (same : left.kind = right.kind) :
    nodeSemantics left = nodeSemantics right :=
  congrArg (·.2.1) same

theorem record_of_kind {left right : CompositionNode} (same : left.kind = right.kind) :
    left.modelRecord = right.modelRecord :=
  congrArg (·.2.2) same

theorem CompositionRole.value_injective : Function.Injective CompositionRole.value := by
  intro left right same
  revert same
  cases left <;> cases right <;> decide

theorem CapabilityJustification.key_injective : Function.Injective CapabilityJustification.key := by
  intro left right same
  simp only [CapabilityJustification.key, EmbeddingLike.apply_eq_iff_eq, Prod.mk.injEq] at same
  cases left
  cases right
  simpa using same

theorem CompositionProvenanceReference.key_injective :
    Function.Injective CompositionProvenanceReference.key := by
  intro left right same
  simp only [CompositionProvenanceReference.key, EmbeddingLike.apply_eq_iff_eq,
    Prod.mk.injEq] at same
  cases left
  cases right
  simpa using same

/-- What a signature covers of a stage. -/
theorem of_nodeSemantics {left right : CompositionNode}
    (same : nodeSemantics left = nodeSemantics right) :
    left.stageId = right.stageId ∧ left.role = right.role ∧
      requirementSemantics left.requirements = requirementSemantics right.requirements ∧
      left.inputArtifacts.kinds = right.inputArtifacts.kinds ∧
      left.outputArtifacts.kinds = right.outputArtifacts.kinds := by
  simp only [nodeSemantics, ArtifactTuple.artifactsSemantics_eq, Json.obj.injEq, List.cons.injEq,
    Prod.mk.injEq, Json.str.injEq, Json.arr.injEq, CompositionRole.value_injective.eq_iff,
    true_and, and_true] at same
  exact ⟨same.1, same.2.1, same.2.2.2⟩

/-- Merging stages unites their parts. -/
theorem joins_mergeNode : Joins (fun _ => True) CompositionNode.kind (fun _ => ())
    CompositionNode.content mergeNode where
  ext := by
    rintro left right _ _ same _ contents
    have record := record_of_kind same
    obtain ⟨stageId, role, requirementKinds, inputKinds, outputKinds⟩ :=
      of_nodeSemantics (semantics_of_kind same)
    have parts (part : StagePart) : left.Has part ↔ right.Has part := Set.ext_iff.mp contents part
    have requirements : left.requirements = right.requirements :=
      joins_mergeRequirements.ext trivial trivial requirementKinds rfl
        (Set.ext fun text => parts (.requirementEvidence text))
    have inputs : left.inputArtifacts = right.inputArtifacts :=
      joins_mergeArtifactTuple.ext trivial trivial inputKinds rfl
        (Set.ext fun entry => parts (.inputEvidence entry.1 entry.2))
    have outputs : left.outputArtifacts = right.outputArtifacts :=
      joins_mergeArtifactTuple.ext trivial trivial outputKinds rfl
        (Set.ext fun entry => parts (.outputEvidence entry.1 entry.2))
    have justifications : left.justifications = right.justifications :=
      CanonicalTuple.ext_mem CapabilityJustification.key_injective
        fun item => parts (.justification item)
    have provenance : left.provenance = right.provenance :=
      CanonicalTuple.ext_mem CompositionProvenanceReference.key_injective
        fun item => parts (.provenance item)
    cases left
    cases right
    simp_all
  join := by
    rintro left right _ _ same
    have semantics := semantics_of_kind same
    obtain ⟨_, _, requirementKinds, inputKinds, outputKinds⟩ := of_nodeSemantics semantics
    obtain ⟨requirements, merged, _, requirementKind, _, requirementContents⟩ :=
      joins_mergeRequirements.join trivial trivial requirementKinds
    obtain ⟨inputs, mergedInputs, _, inputKind, _, inputContents⟩ :=
      joins_mergeArtifactTuple.join trivial trivial inputKinds
    obtain ⟨outputs, mergedOutputs, _, outputKind, _, outputContents⟩ :=
      joins_mergeArtifactTuple.join trivial trivial outputKinds
    refine ⟨{ left with
      requirements := requirements
      inputArtifacts := inputs
      outputArtifacts := outputs
      justifications := sortedUnion left.justifications right.justifications
      provenance := sortedUnion left.provenance right.provenance }, ?_, trivial, ?_, rfl, ?_⟩
    · rw [mergeNode, require_of_true semantics, merged, mergedInputs, mergedOutputs]
      rfl
    · simp only [CompositionNode.kind, nodeSemantics, ArtifactTuple.artifactsSemantics_eq,
        requirementKind, inputKind, outputKind]
    · ext part
      cases part with
      | requirementEvidence text => exact Set.ext_iff.mp requirementContents text
      | inputEvidence artifactId text => exact Set.ext_iff.mp inputContents (artifactId, text)
      | outputEvidence artifactId text => exact Set.ext_iff.mp outputContents (artifactId, text)
      | justification item => exact mem_sortedUnion
      | provenance item => exact mem_sortedUnion

/-! ## Drafts -/

theorem semanticKey_le_of_key_le {left right : CompositionEdge} (below : left.key ≤ right.key) :
    left.semanticKey ≤ right.semanticKey := by
  simp only [CompositionEdge.key, CompositionEdge.semanticKey, Prod.Lex.toLex_le_toLex] at below ⊢
  rw [le_iff_lt_or_eq (a := left.artifactId)]
  tauto

theorem key_lt_of_semanticKey_lt {left right : CompositionEdge}
    (below : left.semanticKey < right.semanticKey) : left.key < right.key := by
  simp only [CompositionEdge.key, CompositionEdge.semanticKey, Prod.Lex.toLex_lt_toLex] at below ⊢
  tauto

/-- One of the things that merging drafts unites. -/
inductive DraftPart where
  | stage (stageId : String) (part : StagePart)
  | handoff (key : String ×ₗ String ×ₗ String ×ₗ String) (evidence : String)
  | assessment (item : CapabilityEvidenceAssessment)
  | provenance (item : CompositionProvenanceReference)

/-- What two drafts have to share to be merged. -/
structure DraftKind where
  compositionId : String
  patternId : String
  topology : CertifiedTopology
  satisfiedRequirementIds : List String
  nodes : List (String × Json × ModelCapabilityRecord)
  handoffs : List (String ×ₗ String ×ₗ String ×ₗ String)

namespace DraftFields

/-- A draft has a part. -/
def Has (draft : DraftFields) : DraftPart → Prop
  | .stage stageId part =>
      (stageId, part) ∈ keyedContent CompositionNode.stageId CompositionNode.content draft.nodes
  | .handoff key evidence =>
      (key, evidence) ∈ keyedContent CompositionEdge.semanticKey CompositionEdge.content draft.edges
  | .assessment item => item ∈ draft.evidenceAssessments
  | .provenance item => item ∈ draft.provenance

/-- The parts of a draft. -/
def content (draft : DraftFields) : Set DraftPart := {part | draft.Has part}

/-- What two drafts have to share to be merged. -/
def kind (draft : DraftFields) : DraftKind where
  compositionId := draft.compositionId
  patternId := draft.patternId
  topology := draft.topology
  satisfiedRequirementIds := draft.satisfiedRequirementIds
  nodes := draft.nodes.map CompositionNode.kind
  handoffs := draft.edges.map CompositionEdge.semanticKey

/-- The request, the workload, the session and the graph that a draft is for. -/
def origin (draft : DraftFields) : String × String × String × String :=
  (draft.requestId, draft.workloadId, draft.sessionId, draft.graphId)

/-! ### What drafts of one kind share -/

section Kind

variable {left right : DraftFields} (same : left.kind = right.kind)

include same

theorem compositionId_of_kind : left.compositionId = right.compositionId :=
  congrArg DraftKind.compositionId same

theorem patternId_of_kind : left.patternId = right.patternId := congrArg DraftKind.patternId same

theorem topology_of_kind : left.topology = right.topology := congrArg DraftKind.topology same

theorem satisfied_of_kind : left.satisfiedRequirementIds = right.satisfiedRequirementIds :=
  congrArg DraftKind.satisfiedRequirementIds same

theorem nodes_of_kind :
    left.nodes.map CompositionNode.kind = right.nodes.map CompositionNode.kind :=
  congrArg DraftKind.nodes same

theorem handoffs_of_kind : left.edges.map CompositionEdge.semanticKey =
    right.edges.map CompositionEdge.semanticKey :=
  congrArg DraftKind.handoffs same

end Kind

theorem Valid.normalized {draft : DraftFields} (valid : draft.Valid) :
    draft.normalized = draft := by
  rw [DraftFields.normalized, valid.nodes_sorted, valid.edges_canonical,
    valid.requirements_canonical, valid.assessments_canonical, valid.provenance_canonical]

end DraftFields

/-- No two handoffs of a draft are told apart by their evidence alone. -/
def HandoffsTold (draft : CompositionCandidateDraft) : Prop :=
  (draft.edges.map CompositionEdge.semanticKey).Nodup

theorem nodes_keyed (draft : CompositionCandidateDraft) :
    KeyedList CompositionNode.stageId (fun _ => True) draft.nodes :=
  keyed_of_sorted draft.valid.nodes_sorted draft.valid.stageIds_nodup

/-- Handoffs stand in the order of what they are told apart by. -/
theorem edges_sorted (draft : CompositionCandidateDraft) :
    sortOn CompositionEdge.semanticKey draft.edges = draft.edges := by
  have sorted := canonical_pairwise CompositionEdge.key draft.edges
  rw [draft.valid.edges_canonical] at sorted
  exact sortOn_eq_self _ (sorted.imp semanticKey_le_of_key_le)

theorem edges_keyed {draft : CompositionCandidateDraft} (told : HandoffsTold draft) :
    KeyedList CompositionEdge.semanticKey (fun _ => True) draft.edges :=
  keyed_of_sorted (edges_sorted draft) told


/-! ## Signatures of drafts of one kind -/

theorem get?_of_kinds {lefts rights : List CompositionNode}
    (same : lefts.map CompositionNode.kind = rights.map CompositionNode.kind) (stageId : String) :
    ((Dict.indexed CompositionNode.stageId lefts).get? stageId).map CompositionNode.kind =
      ((Dict.indexed CompositionNode.stageId rights).get? stageId).map CompositionNode.kind := by
  have kept (node : CompositionNode) : Prod.fst node.kind = node.stageId := rfl
  rw [← Dict.indexed_get?_map kept, same, Dict.indexed_get?_map kept]

/-- Drafts of the same topology whose stages are of the same kinds have the same stages in the order
of the pattern. -/
theorem orderedNodes_of_kind {left right : DraftFields} (topology : left.topology = right.topology)
    (nodes : left.nodes.map CompositionNode.kind = right.nodes.map CompositionNode.kind) :
    (orderedNodes left).map CompositionNode.kind =
      (orderedNodes right).map CompositionNode.kind := by
  have lengths : left.nodes.length = right.nodes.length := by simpa using congrArg List.length nodes
  have kept (node : CompositionNode) : Prod.fst node.kind = node.stageId := rfl
  have byId : (sortOn CompositionNode.stageId left.nodes).map CompositionNode.kind =
      (sortOn CompositionNode.stageId right.nodes).map CompositionNode.kind := by
    rw [map_sortOn CompositionNode.stageId CompositionNode.kind Prod.fst kept, nodes,
      ← map_sortOn CompositionNode.stageId CompositionNode.kind Prod.fst kept]
  simp only [orderedNodes, topology]
  cases getCertifiedPattern right.topology with
  | none => exact byId
  | some pattern =>
      have ordered : (pattern.slots.filterMap fun slot =>
            (Dict.indexed CompositionNode.stageId left.nodes).get? slot.stageId).map
              CompositionNode.kind =
          (pattern.slots.filterMap fun slot =>
            (Dict.indexed CompositionNode.stageId right.nodes).get? slot.stageId).map
              CompositionNode.kind := by
        rw [List.map_filterMap, List.map_filterMap]
        exact List.filterMap_congr fun slot _ => get?_of_kinds nodes slot.stageId
      have orderedLengths := congrArg List.length ordered
      rw [List.length_map, List.length_map] at orderedLengths
      simp only [orderedLengths, lengths]
      split_ifs
      · exact ordered
      · exact byId

theorem signaturePayload_of_kind {left right : CompositionCandidateDraft}
    (same : left.kind = right.kind) :
    signaturePayload left.toDraftFields = signaturePayload right.toDraftFields := by
  have topology := DraftFields.topology_of_kind same
  have nodes := orderedNodes_of_kind topology (DraftFields.nodes_of_kind same)
  have semantics : (orderedNodes left.toDraftFields).map nodeSemantics =
      (orderedNodes right.toDraftFields).map nodeSemantics :=
    map_eq_map_of_coarser (fun _ _ => semantics_of_kind) nodes
  have handoffs : left.edges.map edgeSemantics = right.edges.map edgeSemantics :=
    map_eq_map_of_coarser (fun _ _ => edgeSemantics_eq_iff.mpr) (DraftFields.handoffs_of_kind same)
  rw [signaturePayload, signaturePayload, left.valid.schema, right.valid.schema, topology,
    DraftFields.patternId_of_kind same, semantics, edges_sorted left, edges_sorted right, handoffs,
    DraftFields.satisfied_of_kind same]

/-! ## Merging drafts of one kind -/

theorem arrow_of_semanticKey (left right : CompositionEdge)
    (same : left.semanticKey = right.semanticKey) : left.arrow = right.arrow := by
  simp only [CompositionEdge.semanticKey, EmbeddingLike.apply_eq_iff_eq, Prod.mk.injEq] at same
  rw [CompositionEdge.arrow, CompositionEdge.arrow, same.1, same.2.1]

theorem edges_canonical_of_keyed {edges : List CompositionEdge}
    (keyed : KeyedList CompositionEdge.semanticKey (fun _ => True) edges) :
    canonical CompositionEdge.key edges = edges := by
  refine canonical_eq_self _ keyed.nodup.of_map ?_
  exact (List.pairwise_map.mp keyed.increasing).imp fun below =>
    (key_lt_of_semanticKey_lt below).le

theorem CompositionCandidateDraft.make_of_valid {fields : DraftFields} (valid : fields.Valid) :
    make fields = .ok ⟨fields, valid⟩ := by
  rw [make_eq_ok_iff, DraftFields.check_eq_ok_iff, valid.normalized]
  exact ⟨valid, rfl⟩

theorem valid_of_replaced (draft : CompositionCandidateDraft) {nodes : List CompositionNode}
    {edges : List CompositionEdge} (assessments : List CapabilityEvidenceAssessment)
    (provenance : List CompositionProvenanceReference)
    (nodesKeyed : KeyedList CompositionNode.stageId (fun _ => True) nodes)
    (stageIds : nodes.map CompositionNode.stageId = draft.nodes.map CompositionNode.stageId)
    (edgesKeyed : KeyedList CompositionEdge.semanticKey (fun _ => True) edges)
    (handoffs : edges.map CompositionEdge.semanticKey =
      draft.edges.map CompositionEdge.semanticKey) (sourced : provenance ≠ []) :
    DraftFields.Valid { draft.toDraftFields with
      nodes := nodes
      edges := edges
      evidenceAssessments := canonical CapabilityEvidenceAssessment.modelDumpJson assessments
      provenance := canonical CompositionProvenanceReference.key provenance } := by
  have lengths : nodes.length = draft.nodes.length := by simpa using congrArg List.length stageIds
  have arrows := map_eq_map_of_coarser arrow_of_semanticKey handoffs
  have valid := draft.valid
  have graph := valid.graph_valid
  refine
    { schema := valid.schema
      identities_nonblank := valid.identities_nonblank
      compositionId_sha256 := valid.compositionId_sha256
      nodes_nonempty := ?_
      nodes_bounded := lengths ▸ valid.nodes_bounded
      stageIds_nodup := nodesKeyed.nodup
      nodes_sorted := ?_
      edges_canonical := edges_canonical_of_keyed edgesKeyed
      requirements_nonempty := valid.requirements_nonempty
      requirements_nonblank := valid.requirements_nonblank
      requirements_canonical := valid.requirements_canonical
      assessments_canonical := canonical_canonical _ _
      provenance_nonempty := canonical_ne_nil _ sourced
      provenance_canonical := canonical_canonical _ _
      graph_valid := ?_ }
  · rintro rfl
    exact valid.nodes_nonempty (List.map_eq_nil_iff.mp stageIds.symm)
  · exact sortOn_eq_self _ ((List.pairwise_map.mp nodesKeyed.increasing).imp le_of_lt)
  · rw [DraftFields.stageIds, DraftFields.arrows] at graph ⊢
    rw [stageIds, arrows]
    exact graph

/-- Merging drafts of one kind unites their parts, and keeps the origin of the left draft. -/
theorem joins_mergeDuplicateDrafts (digest : Digest) :
    Joins HandoffsTold (fun draft => draft.kind) (fun draft => draft.origin)
      (fun draft => draft.content) (mergeDuplicateDrafts digest) where
  ext := by
    rintro left right leftTold rightTold kinds origins contents
    have parts (part : DraftPart) : left.Has part ↔ right.Has part := Set.ext_iff.mp contents part
    have nodes : left.nodes = right.nodes :=
      (joins_mergeNode.keyed stageId_of_kind).ext (nodes_keyed left) (nodes_keyed right)
        (DraftFields.nodes_of_kind kinds) rfl
        (Set.ext fun entry => parts (.stage entry.1 entry.2))
    have edges : left.edges = right.edges :=
      (joins_mergeEdge.keyed fun _ _ => id).ext (edges_keyed leftTold) (edges_keyed rightTold)
        (DraftFields.handoffs_of_kind kinds) rfl
        (Set.ext fun entry => parts (.handoff entry.1 entry.2))
    have assessments : left.evidenceAssessments = right.evidenceAssessments :=
      canonical_ext CapabilityEvidenceAssessment.modelDumpJson_injective
        left.valid.assessments_canonical right.valid.assessments_canonical
        fun item => parts (.assessment item)
    have provenance : left.provenance = right.provenance :=
      canonical_ext CompositionProvenanceReference.key_injective left.valid.provenance_canonical
        right.valid.provenance_canonical fun item => parts (.provenance item)
    have schema : left.schemaVersion = right.schemaVersion :=
      left.valid.schema.trans right.valid.schema.symm
    obtain ⟨⟨⟩, _⟩ := left
    obtain ⟨⟨⟩, _⟩ := right
    simp_all [DraftFields.kind, DraftFields.origin]
  join := by
    rintro left right leftTold rightTold same
    have compositionId := DraftFields.compositionId_of_kind same
    have signatures : semanticCandidateSignature digest left =
        semanticCandidateSignature digest right := by
      rw [semanticCandidateSignature, semanticCandidateSignature, signaturePayload_of_kind same]
    have nodeKinds := DraftFields.nodes_of_kind same
    have handoffs := DraftFields.handoffs_of_kind same
    obtain ⟨nodes, nodesMade, nodesKeyed, mergedKinds, _, nodeContent⟩ :=
      (joins_mergeNode.keyed stageId_of_kind).join (nodes_keyed left) (nodes_keyed right) nodeKinds
    obtain ⟨edges, edgesMade, edgesKeyed, mergedHandoffs, _, edgeContent⟩ :=
      (joins_mergeEdge.keyed fun _ _ => id).join (edges_keyed leftTold) (edges_keyed rightTold)
        handoffs
    rw [← mergeByKey_eq (nodes_keyed left).increasing
      (map_eq_map_of_coarser stageId_of_kind nodeKinds)] at nodesMade
    rw [← mergeByKey_eq (edges_keyed leftTold).increasing handoffs] at edgesMade
    have valid := valid_of_replaced left (left.evidenceAssessments ++ right.evidenceAssessments)
      (left.provenance ++ right.provenance) nodesKeyed
      (map_eq_map_of_coarser stageId_of_kind mergedKinds) edgesKeyed mergedHandoffs
      (by simp [left.valid.provenance_nonempty])
    refine ⟨⟨_, valid⟩, ?_, edgesKeyed.nodup, ?_, rfl, ?_⟩
    · rw [mergeDuplicateDrafts, require_of_true signatures, require_of_true compositionId, ok_bind,
        ok_bind, mergeNodes, nodesMade, ok_bind, mergeEdges, edgesMade, ok_bind]
      exact CompositionCandidateDraft.make_of_valid valid
    · simp only [DraftFields.kind, mergedKinds, mergedHandoffs]
    · ext part
      cases part with
      | stage stageId part => exact Set.ext_iff.mp nodeContent (stageId, part)
      | handoff key evidence => exact Set.ext_iff.mp edgeContent (key, evidence)
      | assessment item => exact (mem_canonical _).trans List.mem_append
      | provenance item => exact (mem_canonical _).trans List.mem_append

end Composition
end MercuryX
