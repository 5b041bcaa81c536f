import MercuryX.Foundation.Kahn
import MercuryX.Foundation.Search
import MercuryX.Graph.Models
import MercuryX.Models.Compatibility
import MercuryX.Models.Evidence

/-!
# Composition contracts

Stages that bind model records to roles, the handoffs between them, and the drafts of compositions
that they make up. A draft is put in canonical form by its constructor, which rejects drafts that
are not connected and free of cycles.
-/

namespace MercuryX
namespace Composition

open Foundation
open MercuryX.Graph (GraphDependencyType)
open Intelligence (CanonicalTuple)
open Models

/-! ## Enumerations -/

/-- The version of the composition schema. -/
def compositionSchemaVersion : String := "mercury.model-composition/v1"

/-- The most stages that a composition has. -/
def maxCompositionNodes : Nat := 3

/-- What a stage does in a composition. -/
inductive CompositionRole where
  | primary
  | specialist
  | verifier
  | critic
  | retrievalAugmenter
  | toolModel
  deriving DecidableEq, Repr

/-- The text of a role. -/
def CompositionRole.value : CompositionRole → String
  | primary => "primary"
  | specialist => "specialist"
  | verifier => "verifier"
  | critic => "critic"
  | retrievalAugmenter => "retrieval_augmenter"
  | toolModel => "tool_model"

/-- The certified shapes of compositions. -/
inductive CertifiedTopology where
  | single
  | primaryVerifier
  | primaryCritic
  | primarySpecialistPrimary
  | primaryRetrievalPrimary
  | primaryToolPrimary
  | primarySpecialistVerifier
  deriving DecidableEq, Repr

/-- The text of a topology. -/
def CertifiedTopology.value : CertifiedTopology → String
  | single => "single"
  | primaryVerifier => "primary_verifier"
  | primaryCritic => "primary_critic"
  | primarySpecialistPrimary => "primary_specialist_primary"
  | primaryRetrievalPrimary => "primary_retrieval_primary"
  | primaryToolPrimary => "primary_tool_primary"
  | primarySpecialistVerifier => "primary_specialist_verifier"

/-- Whether a candidate passed its validation. -/
inductive CompositionValidity where
  | valid
  | rejected
  deriving DecidableEq, Repr

/-! ## Parts of a stage -/

/-- A reference to an artifact that a decision rests on. -/
structure CompositionProvenanceReference where
  sourcePhase : String
  artifactId : String
  evidence : String
  /-- The texts are nonblank. -/
  texts_nonblank : ∀ text ∈ [sourcePhase, artifactId, evidence], Text.Nonblank text

instance : DecidableEq CompositionProvenanceReference := fun left right =>
  decidable_of_iff (left.sourcePhase = right.sourcePhase ∧ left.artifactId = right.artifactId ∧
      left.evidence = right.evidence) (by
    cases left
    cases right
    simp)

/-- References are ordered by all their fields. -/
def CompositionProvenanceReference.key (item : CompositionProvenanceReference) :
    String ×ₗ String ×ₗ String :=
  toLex (item.sourcePhase, toLex (item.artifactId, item.evidence))

/-- A nonempty canonical collection of references. -/
abbrev ProvenanceTuple := CanonicalTuple CompositionProvenanceReference
  CompositionProvenanceReference.key

/-- What a stage takes in or gives out. -/
structure CompositionArtifactContract where
  artifactId : String
  modalities : CanonicalTuple ModelModality ModelModality.value
  requiresStructuredOutput : Bool := false
  evidence : CanonicalTuple String id
  /-- The id is nonblank. -/
  artifactId_nonblank : Text.Nonblank artifactId
  /-- Evidence is nonblank. -/
  evidence_nonblank : ∀ text ∈ evidence.items, Text.Nonblank text

instance : DecidableEq CompositionArtifactContract := fun left right =>
  decidable_of_iff (left.artifactId = right.artifactId ∧ left.modalities = right.modalities ∧
      left.requiresStructuredOutput = right.requiresStructuredOutput ∧
      left.evidence = right.evidence) (by
    cases left
    cases right
    simp)

/-- A nonempty collection of artifacts, at most one of each id, in the order of their ids. -/
structure ArtifactTuple where
  items : List CompositionArtifactContract
  /-- There is an artifact. -/
  nonempty : items ≠ []
  /-- No two artifacts share an id. -/
  ids_nodup : (items.map CompositionArtifactContract.artifactId).Nodup
  /-- Artifacts stand in the order of their ids. -/
  items_sorted : sortOn CompositionArtifactContract.artifactId items = items
  deriving DecidableEq

namespace ArtifactTuple

/-- One artifact. -/
def single (artifact : CompositionArtifactContract) : ArtifactTuple where
  items := [artifact]
  nonempty := List.cons_ne_nil _ _
  ids_nodup := List.nodup_singleton _
  items_sorted := rfl

/-- The artifact of the least id. -/
def first (artifacts : ArtifactTuple) : CompositionArtifactContract :=
  artifacts.items.head artifacts.nonempty

end ArtifactTuple

/-- Why a stage meets a requirement. -/
structure CapabilityJustification where
  requirementId : String
  capabilityField : String
  declaredValue : String
  reason : String
  /-- The texts are nonblank. -/
  texts_nonblank : ∀ text ∈ [requirementId, capabilityField, declaredValue, reason],
    Text.Nonblank text

instance : DecidableEq CapabilityJustification := fun left right =>
  decidable_of_iff (left.requirementId = right.requirementId ∧
      left.capabilityField = right.capabilityField ∧ left.declaredValue = right.declaredValue ∧
      left.reason = right.reason) (by
    cases left
    cases right
    simp)

/-- Justifications are ordered by all their fields. -/
def CapabilityJustification.key (item : CapabilityJustification) :
    String ×ₗ String ×ₗ String ×ₗ String :=
  toLex (item.requirementId, toLex (item.capabilityField, toLex (item.declaredValue, item.reason)))

/-! ## Stages and handoffs -/

/-- A stage of a composition. -/
structure CompositionNode where
  stageId : String
  role : CompositionRole
  modelRecord : ModelCapabilityRecord
  requirements : ModelCapabilityRequirements
  inputArtifacts : ArtifactTuple
  outputArtifacts : ArtifactTuple
  justifications : CanonicalTuple CapabilityJustification CapabilityJustification.key
  provenance : ProvenanceTuple
  /-- The stage id is nonblank. -/
  stageId_nonblank : Text.Nonblank stageId

instance : DecidableEq CompositionNode := fun left right =>
  decidable_of_iff (left.stageId = right.stageId ∧ left.role = right.role ∧
      left.modelRecord = right.modelRecord ∧ left.requirements = right.requirements ∧
      left.inputArtifacts = right.inputArtifacts ∧ left.outputArtifacts = right.outputArtifacts ∧
      left.justifications = right.justifications ∧ left.provenance = right.provenance) (by
    cases left
    cases right
    simp)

/-- A handoff of an artifact from one stage to another. -/
structure CompositionEdge where
  sourceStageId : String
  targetStageId : String
  dependencyType : GraphDependencyType
  artifactId : String
  evidence : CanonicalTuple String id
  /-- Identity fields are nonblank. -/
  identities_nonblank : ∀ text ∈ [sourceStageId, targetStageId, artifactId], Text.Nonblank text
  /-- Evidence is nonblank. -/
  evidence_nonblank : ∀ text ∈ evidence.items, Text.Nonblank text

instance : DecidableEq CompositionEdge := fun left right =>
  decidable_of_iff (left.sourceStageId = right.sourceStageId ∧
      left.targetStageId = right.targetStageId ∧ left.dependencyType = right.dependencyType ∧
      left.artifactId = right.artifactId ∧ left.evidence = right.evidence) (by
    cases left
    cases right
    simp)

namespace CompositionEdge

/-- Handoffs are ordered by all their fields. -/
def key (edge : CompositionEdge) : String ×ₗ String ×ₗ String ×ₗ String ×ₗ List String :=
  toLex (edge.sourceStageId, toLex (edge.targetStageId, toLex (edge.dependencyType.value,
    toLex (edge.artifactId, edge.evidence.items))))

/-- The arrow of a handoff. -/
def arrow (edge : CompositionEdge) : String × String := (edge.sourceStageId, edge.targetStageId)

end CompositionEdge

/-! ## Stage graphs -/

/-- The stages that an arrow joins to a stage, whatever its direction. -/
def neighborsOf (arrows : List (String × String)) (stageId : String) : List String :=
  arrows.flatMap fun arrow =>
    (if arrow.1 = stageId then [arrow.2] else []) ++ if arrow.2 = stageId then [arrow.1] else []

/-- Some stage has no neighbour. -/
def HasOrphan (stageIds : List String) (arrows : List (String × String)) : Prop :=
  ∃ stageId ∈ stageIds, neighborsOf arrows stageId = []

instance (stageIds : List String) (arrows : List (String × String)) :
    Decidable (HasOrphan stageIds arrows) :=
  inferInstanceAs (Decidable (∃ stageId ∈ stageIds, neighborsOf arrows stageId = []))

/-- The stages that are connected to the least. -/
def connectedStages (stageIds : List String) (arrows : List (String × String)) : List String :=
  let start := (sortOn id stageIds).take 1
  Search.explore (neighborsOf arrows) stageIds.length ⟨start, start⟩

/-- The stages in the order in which each follows its predecessors. -/
def stageOrder (stageIds : List String) (arrows : List (String × String)) : List String :=
  Kahn.drain (fun stageId => sortOn id (Kahn.successors arrows stageId)) (sortOn id)
    stageIds.length ⟨fun stageId => Kahn.indegree arrows stageId,
      sortOn id (stageIds.filter fun stageId => Kahn.indegree arrows stageId = 0)⟩

/-- The constraints on the stage graph of a draft: it is connected and has no cycle. -/
def checkStageGraph (stageIds : List String) (arrows : List (String × String)) :
    Except Fault Unit := do
  let contract := "CompositionCandidateDraft"
  forEach (fun arrow : String × String => do
    rule contract "" (arrow.1 ∈ stageIds ∧ arrow.2 ∈ stageIds)
      "edge references must identify existing stages"
    rule contract "" (arrow.1 ≠ arrow.2) "composition self-edges are not allowed") arrows
  rule contract "" (1 < stageIds.length → ¬ HasOrphan stageIds arrows)
    "composition contains an orphan stage"
  rule contract "" (1 < stageIds.length →
      (connectedStages stageIds arrows).toFinset = stageIds.toFinset)
    "composition stages must form one connected graph"
  rule contract "" ((stageOrder stageIds arrows).length = stageIds.length)
    "composition must be acyclic"

/-! ## Drafts -/

/-- A lower-case SHA-256 identifier. -/
def IsSha256Id (text : String) : Prop :=
  text.toList.take 7 = "sha256:".toList ∧ (text.toList.drop 7).length = 64 ∧
    ∀ c ∈ text.toList.drop 7, c ∈ "0123456789abcdef".toList

-- the characters of the text are checked, not every character there is
instance (text : String) : Decidable (IsSha256Id text) :=
  @instDecidableAnd _ _ _ (@instDecidableAnd _ _ _ (List.decidableBAll _ _))

/-- The fields of a draft. -/
structure DraftFields where
  schemaVersion : String := compositionSchemaVersion
  compositionId : String
  requestId : String
  workloadId : String
  sessionId : String
  graphId : String
  patternId : String
  topology : CertifiedTopology
  nodes : List CompositionNode
  edges : List CompositionEdge
  satisfiedRequirementIds : List String
  evidenceAssessments : List CapabilityEvidenceAssessment := []
  provenance : List CompositionProvenanceReference

namespace DraftFields

/-- The ids of the stages of a draft. -/
def stageIds (draft : DraftFields) : List String := draft.nodes.map CompositionNode.stageId

/-- The arrows of the handoffs of a draft. -/
def arrows (draft : DraftFields) : List (String × String) := draft.edges.map CompositionEdge.arrow

/-- The fields in canonical form. -/
def normalized (draft : DraftFields) : DraftFields :=
  { draft with
    nodes := sortOn CompositionNode.stageId draft.nodes
    edges := canonical CompositionEdge.key draft.edges
    satisfiedRequirementIds := canonical id draft.satisfiedRequirementIds
    evidenceAssessments :=
      canonical CapabilityEvidenceAssessment.modelDumpJson draft.evidenceAssessments
    provenance := canonical CompositionProvenanceReference.key draft.provenance }

/-- The constraints on a draft. -/
def check (draft : DraftFields) : Except Fault Unit := do
  let contract := "CompositionCandidateDraft"
  rule contract "schema_version" (draft.schemaVersion = compositionSchemaVersion)
    s!"Input should be '{compositionSchemaVersion}'"
  forEach (fun field => rule contract field.1 (Text.Nonblank field.2)
      "composition identity must be nonblank")
    [("composition_id", draft.compositionId), ("request_id", draft.requestId),
      ("workload_id", draft.workloadId), ("session_id", draft.sessionId),
      ("graph_id", draft.graphId), ("pattern_id", draft.patternId)]
  rule contract "composition_id" (IsSha256Id draft.compositionId)
    "composition_id must be a deterministic lowercase sha256 identifier"
  rule contract "nodes" (draft.nodes ≠ []) "nodes must not be empty"
  rule contract "nodes" (draft.nodes.length ≤ maxCompositionNodes)
    "composition exceeds MAX_COMPOSITION_NODES"
  rule contract "nodes" draft.stageIds.Nodup "stage ids must be unique"
  rule contract "satisfied_requirement_ids"
    (∀ requirementId ∈ draft.satisfiedRequirementIds, Text.Nonblank requirementId)
    "satisfied requirement ids must contain nonblank values"
  rule contract "satisfied_requirement_ids" (draft.satisfiedRequirementIds ≠ [])
    "satisfied_requirement_ids must not be empty"
  rule contract "provenance" (draft.provenance ≠ []) "provenance must not be empty"
  checkStageGraph draft.normalized.stageIds draft.normalized.arrows

/-- What the constructor of a draft establishes. -/
structure Valid (draft : DraftFields) : Prop where
  /-- The schema is that of this version. -/
  schema : draft.schemaVersion = compositionSchemaVersion
  /-- Identity fields are nonblank. -/
  identities_nonblank : ∀ text ∈ [draft.compositionId, draft.requestId, draft.workloadId,
    draft.sessionId, draft.graphId, draft.patternId], Text.Nonblank text
  /-- The composition id is a SHA-256 identifier. -/
  compositionId_sha256 : IsSha256Id draft.compositionId
  /-- There is a stage. -/
  nodes_nonempty : draft.nodes ≠ []
  /-- There are no more stages than allowed. -/
  nodes_bounded : draft.nodes.length ≤ maxCompositionNodes
  /-- No two stages share an id. -/
  stageIds_nodup : draft.stageIds.Nodup
  /-- Stages stand in the order of their ids. -/
  nodes_sorted : sortOn CompositionNode.stageId draft.nodes = draft.nodes
  /-- Handoffs stand once each, in order. -/
  edges_canonical : canonical CompositionEdge.key draft.edges = draft.edges
  /-- A requirement is satisfied. -/
  requirements_nonempty : draft.satisfiedRequirementIds ≠ []
  /-- Requirement ids are nonblank. -/
  requirements_nonblank : ∀ text ∈ draft.satisfiedRequirementIds, Text.Nonblank text
  /-- Requirement ids stand once each, in order. -/
  requirements_canonical :
    canonical id draft.satisfiedRequirementIds = draft.satisfiedRequirementIds
  /-- Assessments stand once each, in order. -/
  assessments_canonical : canonical CapabilityEvidenceAssessment.modelDumpJson
    draft.evidenceAssessments = draft.evidenceAssessments
  /-- There is provenance. -/
  provenance_nonempty : draft.provenance ≠ []
  /-- Provenance stands once each, in order. -/
  provenance_canonical :
    canonical CompositionProvenanceReference.key draft.provenance = draft.provenance
  /-- The stages form a connected graph without cycles. -/
  graph_valid : checkStageGraph draft.stageIds draft.arrows = .ok ()

theorem stageIds_normalized_perm (draft : DraftFields) :
    draft.normalized.stageIds.Perm draft.stageIds := (sortOn_perm _ _).map _

/-- The constraints hold exactly of the fields whose canonical form is valid. -/
theorem check_eq_ok_iff {draft : DraftFields} {done : Unit} :
    draft.check = .ok done ↔ draft.normalized.Valid := by
  have sameNodes : draft.normalized.nodes.Perm draft.nodes := sortOn_perm _ _
  simp only [check, bind_eq_ok, rule_eq_ok, forEach_eq_ok, exists_const]
  constructor
  · rintro ⟨schema, identities, hashed, nodes, bounded, distinct, visible, satisfied, provenance,
      graph⟩
    exact
      { schema := schema
        identities_nonblank := by simpa [normalized] using identities
        compositionId_sha256 := hashed
        nodes_nonempty := fun none => nodes (List.nil_perm.mp (none ▸ sameNodes))
        nodes_bounded := sameNodes.length_eq ▸ bounded
        stageIds_nodup := draft.stageIds_normalized_perm.nodup_iff.mpr distinct
        nodes_sorted := sortOn_eq_self _ (sortOn_pairwise _ _)
        edges_canonical := canonical_canonical _ _
        requirements_nonempty := canonical_ne_nil _ satisfied
        requirements_nonblank := fun text member => visible text ((mem_canonical id).mp member)
        requirements_canonical := canonical_canonical _ _
        assessments_canonical := canonical_canonical _ _
        provenance_nonempty := canonical_ne_nil _ provenance
        provenance_canonical := canonical_canonical _ _
        graph_valid := graph }
  · intro valid
    refine ⟨valid.schema, by simpa [normalized] using valid.identities_nonblank,
      valid.compositionId_sha256, ?_, sameNodes.length_eq ▸ valid.nodes_bounded,
      draft.stageIds_normalized_perm.nodup_iff.mp valid.stageIds_nodup, ?_, ?_, ?_,
      valid.graph_valid⟩
    · intro none
      exact valid.nodes_nonempty (List.perm_nil.mp (none ▸ sameNodes))
    · exact fun text member => valid.requirements_nonblank text ((mem_canonical id).mpr member)
    · intro none
      exact valid.requirements_nonempty (by simp [normalized, none, canonical, sortOn])
    · intro none
      exact valid.provenance_nonempty (by simp [normalized, none, canonical, sortOn])

end DraftFields

/-- A validated draft. -/
structure CompositionCandidateDraft extends DraftFields where
  /-- The draft passed its constructor. -/
  valid : toDraftFields.Valid

namespace CompositionCandidateDraft

/-- Put the fields of a draft in canonical form and check them. -/
def make (fields : DraftFields) : Except Fault CompositionCandidateDraft :=
  match checked : fields.check with
  | .error raised => .error raised
  | .ok _ => .ok ⟨fields.normalized, DraftFields.check_eq_ok_iff.mp checked⟩

theorem make_eq_ok_iff {fields : DraftFields} {draft : CompositionCandidateDraft} :
    make fields = .ok draft ↔
      fields.check = .ok () ∧ draft.toDraftFields = fields.normalized := by
  obtain ⟨given, valid⟩ := draft
  unfold make
  split
  case h_1 raised checked => simp [checked]
  case h_2 checked =>
    constructor
    · intro same
      exact ⟨checked,
        congrArg CompositionCandidateDraft.toDraftFields (Except.ok.inj same).symm⟩
    · rintro ⟨_, rfl⟩
      rfl

end CompositionCandidateDraft

/-! ## Candidates -/

/-- Why a candidate was rejected. -/
structure CompositionRejection where
  issueId : String
  stageId : Option String := none
  edgeReference : Option String := none
  violatedInvariant : String
  reason : String
  deriving DecidableEq

/-- Rejections are ordered by all their fields. -/
def CompositionRejection.key (item : CompositionRejection) :
    String ×ₗ String ×ₗ String ×ₗ String ×ₗ String :=
  toLex (item.issueId, toLex (item.stageId.getD "", toLex (item.edgeReference.getD "",
    toLex (item.violatedInvariant, item.reason))))

/-- A draft with the verdict of its validation. -/
structure CompositionCandidate extends CompositionCandidateDraft where
  validity : CompositionValidity
  rejectionReasons : List CompositionRejection
  /-- A candidate is rejected exactly for a reason. -/
  validity_matches : validity = .valid ↔ rejectionReasons = []

end Composition
end MercuryX
