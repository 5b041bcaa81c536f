import MercuryX.Composition.Drafts

/-!
# Semantic duplicates

The signature of a draft covers what it composes, and leaves out the evidence and the provenance of
its parts. Drafts of one signature are merged: the evidence, the justifications, the assessments
and the provenance of both are united, and everything else has to be the same.
-/

namespace MercuryX
namespace Composition

open Foundation
open Intelligence (CanonicalTuple)
open Models

/-! ## Semantics of the parts -/

/-- What a signature covers of an artifact. -/
def artifactSemantics (item : CompositionArtifactContract) : Json := .obj [
  ("artifact_id", .str item.artifactId),
  ("modalities", Json.strs (sortOn id (item.modalities.items.map ModelModality.value))),
  ("requires_structured_output", .bool item.requiresStructuredOutput)]

/-- What a signature covers of requirements: their dump without the evidence. -/
def requirementSemantics (requirements : ModelCapabilityRequirements) : Json :=
  match requirements.modelDump with
  | .obj members => .obj (members.filter fun member => member.1 ≠ "evidence")
  | other => other

/-- What a signature covers of artifacts, in the order of their ids. -/
def artifactsSemantics (artifacts : ArtifactTuple) : Json :=
  .arr ((sortOn CompositionArtifactContract.artifactId artifacts.items).map artifactSemantics)

/-- What a signature covers of a stage. -/
def nodeSemantics (node : CompositionNode) : Json := .obj [
  ("stage_id", .str node.stageId), ("role", .str node.role.value),
  ("model_identity", .obj [("provider", .str node.modelRecord.provider),
    ("model_id", .str node.modelRecord.modelId), ("family", .str node.modelRecord.family),
    ("revision", .str node.modelRecord.revision)]),
  ("requirements", requirementSemantics node.requirements),
  ("input_artifacts", artifactsSemantics node.inputArtifacts),
  ("output_artifacts", artifactsSemantics node.outputArtifacts)]

/-- What handoffs are told apart by, whatever their evidence. -/
def CompositionEdge.semanticKey (edge : CompositionEdge) :
    String ×ₗ String ×ₗ String ×ₗ String :=
  toLex (edge.sourceStageId, toLex (edge.targetStageId,
    toLex (edge.dependencyType.value, edge.artifactId)))

/-- What a signature covers of a handoff. -/
def edgeSemantics (edge : CompositionEdge) : Json := .obj [
  ("source_stage_id", .str edge.sourceStageId), ("target_stage_id", .str edge.targetStageId),
  ("dependency_type", .str edge.dependencyType.value), ("artifact_id", .str edge.artifactId)]

/-! ## Signatures -/

/-- The stages of a draft in the order of its pattern, or of their ids where they are not those of
the pattern. -/
def orderedNodes (draft : DraftFields) : List CompositionNode :=
  let byId := sortOn CompositionNode.stageId draft.nodes
  match getCertifiedPattern draft.topology with
  | none => byId
  | some pattern =>
      let ordered := pattern.slots.filterMap fun slot =>
        (Dict.indexed CompositionNode.stageId draft.nodes).get? slot.stageId
      if ordered.length = draft.nodes.length then ordered else byId

/-- What the signature of a draft covers. -/
def signaturePayload (draft : DraftFields) : Json := .obj [
  ("schema_version", .str draft.schemaVersion), ("topology", .str draft.topology.value),
  ("pattern_id", .str draft.patternId),
  ("nodes", .arr ((orderedNodes draft).map nodeSemantics)),
  ("edges", .arr ((sortOn CompositionEdge.semanticKey draft.edges).map edgeSemantics)),
  ("assigned_hard_requirements", Json.strs (sortOn id draft.satisfiedRequirementIds))]

/-- The signature of a draft. -/
def semanticCandidateSignature (digest : Digest) (draft : CompositionCandidateDraft) : String :=
  "sha256:" ++ digest.hexdigest (signaturePayload draft.toDraftFields)

/-! ## Merging -/

/-- The members of two collections, each once, in order. -/
def sortedUnion {α κ : Type} [DecidableEq α] [LinearOrder κ] {key : α → κ}
    (left right : CanonicalTuple α key) : CanonicalTuple α key :=
  .of key (left.items ++ right.items) (by simp [left.nonempty])

/-- Merge the items of two lists that share a key, in the order of the keys. -/
def mergeByKey {α κ : Type} [DecidableEq κ] [LinearOrder κ] (key : α → κ)
    (merge : α → α → Except Fault α) (differ : Fault) (left right : List α) :
    Except Fault (List α) := do
  let leftByKey := Dict.indexed key left
  let rightByKey := Dict.indexed key right
  require (leftByKey.keys.toFinset = rightByKey.keys.toFinset) differ
  (sortOn id leftByKey.keys).mapM fun index =>
    match leftByKey.get? index, rightByKey.get? index with
    | some item, some other => merge item other
    | _, _ => .error differ

theorem nonblank_sortedUnion {left right : CanonicalTuple String id}
    (leftVisible : ∀ text ∈ left.items, Text.Nonblank text)
    (rightVisible : ∀ text ∈ right.items, Text.Nonblank text) :
    ∀ text ∈ (sortedUnion left right).items, Text.Nonblank text := by
  intro text member
  rw [sortedUnion, CanonicalTuple.mem_of, List.mem_append] at member
  rcases member with inLeft | inRight
  · exact leftVisible text inLeft
  · exact rightVisible text inRight

/-- Merge two artifacts. -/
def mergeArtifact (left right : CompositionArtifactContract) :
    Except Fault CompositionArtifactContract := do
  require (artifactSemantics left = artifactSemantics right)
    (.value "duplicate artifact semantics differ")
  return { left with
    evidence := sortedUnion left.evidence right.evidence
    evidence_nonblank := nonblank_sortedUnion left.evidence_nonblank right.evidence_nonblank }

theorem artifactId_of_mergeArtifact {left right merged : CompositionArtifactContract}
    (made : mergeArtifact left right = .ok merged) : merged.artifactId = left.artifactId := by
  simp only [mergeArtifact, bind_eq_ok, pure_eq_ok, Except.ok.injEq] at made
  obtain ⟨_, _, rfl⟩ := made
  rfl

theorem map_key_of_mergeByKey {α κ : Type} [DecidableEq κ] [LinearOrder κ] {key : α → κ}
    {merge : α → α → Except Fault α} {differ : Fault} {left right made : List α}
    (kept : ∀ item other merged, merge item other = .ok merged → key merged = key item)
    (merged : mergeByKey key merge differ left right = .ok made) :
    made.map key = sortOn id (Dict.indexed key left).keys := by
  simp only [mergeByKey, bind_eq_ok] at merged
  obtain ⟨_, _, each⟩ := merged
  rw [map_of_mapM_eq_ok (fun index item made => ?_) each, List.map_id]
  split at made
  · next found _ =>
      rw [kept _ _ _ made]
      exact (Dict.mem_of_indexed_get? found).2
  · exact absurd made (by simp)

/-- Other artifacts of the same ids. -/
def ArtifactTuple.withItems (artifacts : ArtifactTuple) (items : List CompositionArtifactContract)
    (same : items.map CompositionArtifactContract.artifactId =
      artifacts.items.map CompositionArtifactContract.artifactId) : ArtifactTuple where
  items := items
  nonempty := by
    rintro rfl
    exact artifacts.nonempty (List.map_eq_nil_iff.mp same.symm)
  ids_nodup := same ▸ artifacts.ids_nodup
  items_sorted := by
    have sorted := sortOn_pairwise CompositionArtifactContract.artifactId artifacts.items
    rw [artifacts.items_sorted, ← List.pairwise_map (R := (· ≤ ·)), ← same, List.pairwise_map]
      at sorted
    exact sortOn_eq_self _ sorted

theorem ArtifactTuple.sorted_ids (artifacts : ArtifactTuple) :
    sortOn id (Dict.indexed CompositionArtifactContract.artifactId artifacts.items).keys =
      artifacts.items.map CompositionArtifactContract.artifactId := by
  rw [Dict.indexed_keys artifacts.ids_nodup,
    ← map_sortOn CompositionArtifactContract.artifactId CompositionArtifactContract.artifactId id
      (fun _ => rfl), artifacts.items_sorted]

/-- Merge the artifacts of two stages. -/
def mergeArtifactTuple (left right : ArtifactTuple) : Except Fault ArtifactTuple :=
  match merged : mergeByKey CompositionArtifactContract.artifactId mergeArtifact
      (.value "duplicate artifact contracts differ") left.items right.items with
  | .error raised => .error raised
  | .ok items => .ok (left.withItems items
      ((map_key_of_mergeByKey (fun _ _ _ => artifactId_of_mergeArtifact) merged).trans
        left.sorted_ids))

/-- Merge the requirements on two stages. -/
def mergeRequirements (left right : ModelCapabilityRequirements) :
    Except Fault ModelCapabilityRequirements := do
  require (requirementSemantics left = requirementSemantics right)
    (.value "duplicate hard requirements differ")
  return { left with
    evidence := sortedUnion left.evidence right.evidence
    evidence_nonblank := nonblank_sortedUnion left.evidence_nonblank right.evidence_nonblank }

/-- Merge two stages. -/
def mergeNode (left right : CompositionNode) : Except Fault CompositionNode := do
  require (nodeSemantics left = nodeSemantics right) (.value "duplicate stage semantics differ")
  let requirements ← mergeRequirements left.requirements right.requirements
  let inputArtifacts ← mergeArtifactTuple left.inputArtifacts right.inputArtifacts
  let outputArtifacts ← mergeArtifactTuple left.outputArtifacts right.outputArtifacts
  return { left with
    requirements := requirements
    inputArtifacts := inputArtifacts
    outputArtifacts := outputArtifacts
    justifications := sortedUnion left.justifications right.justifications
    provenance := sortedUnion left.provenance right.provenance }

/-- Merge the stages of two drafts. -/
def mergeNodes : List CompositionNode → List CompositionNode →
    Except Fault (List CompositionNode) :=
  mergeByKey CompositionNode.stageId mergeNode (.value "duplicate stage identities differ")

/-- Merge two handoffs. -/
def mergeEdge (left right : CompositionEdge) : Except Fault CompositionEdge :=
  .ok { left with
    evidence := sortedUnion left.evidence right.evidence
    evidence_nonblank := nonblank_sortedUnion left.evidence_nonblank right.evidence_nonblank }

/-- Merge the handoffs of two drafts. -/
def mergeEdges : List CompositionEdge → List CompositionEdge →
    Except Fault (List CompositionEdge) :=
  mergeByKey CompositionEdge.semanticKey mergeEdge (.value "duplicate edge semantics differ")

/-- Merge two drafts of one signature. -/
def mergeDuplicateDrafts (digest : Digest) (left right : CompositionCandidateDraft) :
    Except Fault CompositionCandidateDraft := do
  require (semanticCandidateSignature digest left = semanticCandidateSignature digest right)
    (.value "candidate drafts are not semantic duplicates")
  require (left.compositionId = right.compositionId)
    (.value "semantic duplicates must preserve one composition_id")
  let nodes ← mergeNodes left.nodes right.nodes
  let edges ← mergeEdges left.edges right.edges
  CompositionCandidateDraft.make { left.toDraftFields with
    nodes := nodes
    edges := edges
    evidenceAssessments := canonical CapabilityEvidenceAssessment.modelDumpJson
      (left.evidenceAssessments ++ right.evidenceAssessments)
    provenance := canonical CompositionProvenanceReference.key
      (left.provenance ++ right.provenance) }

end Composition
end MercuryX
