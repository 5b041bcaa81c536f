import MercuryX.Composition.Requirements

/-!
# Instantiation of candidate drafts

For every applicable pattern, the registered records that meet the requirements on each role are
bound to the stages in all ways that keep repeated roles on one record, and each binding is drawn up
as a draft.
-/

namespace MercuryX
namespace Composition

open Foundation
open Intelligence (CanonicalTuple)
open Models

variable (digest : Digest)

/-! ## Evidence -/

/-- The assessments of the evidence constraints of a request, in their order. -/
def assessConstraints (request : CompositionInstantiationRequest) :
    Except Fault (List CapabilityEvidenceAssessment) :=
  request.evidenceConstraints.mapM fun item =>
    assessCapabilityEvidence item.evidence item.assessmentRequirements

/-- The roles whose required evidence is not acceptable. -/
def blockedRoles (request : CompositionInstantiationRequest)
    (assessments : List CapabilityEvidenceAssessment) : List CompositionRole :=
  let byClaim := Dict.indexed CapabilityEvidenceAssessment.capabilityClaim assessments
  (request.evidenceConstraints.filter fun item =>
    item.assessmentRequirements.requiresEvidence &&
      (byClaim.get? item.capabilityClaim).any fun assessment =>
        assessment.status ≠ .acceptable).map CompositionEvidenceConstraint.role

/-! ## Bindings -/

/-- All ways to choose one item of each list; the choice of the last list varies fastest. -/
def product {α : Type} : List (List α) → List (List α)
  | [] => [[]]
  | choices :: rest => choices.flatMap fun choice => (product rest).map (choice :: ·)

theorem mem_product {α : Type} {lists : List (List α)} {choices : List α} :
    choices ∈ product lists ↔ List.Forall₂ (fun choice list => choice ∈ list) choices lists := by
  induction lists generalizing choices with
  | nil => simp [product]
  | cons list lists induction =>
      simp only [product, List.mem_flatMap, List.mem_map, List.forall₂_cons_right_iff, induction]
      constructor
      · rintro ⟨choice, member, rest, chosen, rfl⟩
        exact ⟨choice, rest, member, chosen, rfl⟩
      · rintro ⟨choice, rest, member, chosen, rfl⟩
        exact ⟨choice, member, rest, chosen, rfl⟩

/-- Stages of one identity group are bound to records of one identity. -/
def groupsAgree (groups : Dict String (String ×ₗ String ×ₗ String ×ₗ String)) :
    List (PatternSlot × ModelCapabilityRecord) → Bool
  | [] => true
  | (slot, record) :: rest =>
      match slot.identityGroup with
      | none => groupsAgree groups rest
      | some group =>
          match groups.get? group with
          | none => groupsAgree (groups.insert group record.identity) rest
          | some prior => prior = record.identity && groupsAgree groups rest

/-- The ways to bind the stages of a pattern to the candidates for their roles. -/
def bindings (pattern : CertifiedCompositionPattern)
    (candidatesByRole : CompositionRole → List ModelCapabilityRecord) :
    List (List ModelCapabilityRecord) :=
  (product (pattern.slots.map fun slot => candidatesByRole slot.role)).filter fun combination =>
    groupsAgree Dict.empty (pattern.slots.zip combination)

/-! ## Identities -/

/-- What the identity of a composition covers of one stage. -/
structure StageContent where
  stageId : String
  role : CompositionRole
  provider : String
  modelId : String
  family : String
  revision : String
  requirementIds : List String
  requirements : Json

/-- The payload of one stage. -/
def StageContent.payload (stage : StageContent) : Json := .obj [
  ("stage_id", .str stage.stageId), ("role", .str stage.role.value),
  ("model_identity", .obj [("provider", .str stage.provider), ("model_id", .str stage.modelId),
    ("family", .str stage.family), ("revision", .str stage.revision)]),
  ("requirement_ids", Json.strs stage.requirementIds), ("requirements", stage.requirements)]

/-- The identity of a composition of a pattern. -/
def compositionIdOf (requestId workloadId sessionId graphId : String)
    (pattern : CertifiedCompositionPattern) (stages : List StageContent) : String :=
  "sha256:" ++ digest.hexdigest (.obj [
    ("schema_version", .str compositionSchemaVersion), ("request_id", .str requestId),
    ("workload_id", .str workloadId), ("session_id", .str sessionId),
    ("graph_id", .str graphId), ("topology", .str pattern.topology.value),
    ("stages", .arr (stages.map StageContent.payload)),
    ("edges", .arr (pattern.edges.map fun edge => .obj [
      ("source", .str edge.sourceStageId), ("target", .str edge.targetStageId),
      ("dependency_type", .str edge.dependencyType.value)]))])

/-! ## Drafts -/

/-- A stage of a pattern with the record bound to it and the requirements on its role. -/
structure BoundStage where
  slot : PatternSlot
  record : ModelCapabilityRecord
  requirement : CompositionRoleRequirement

namespace BoundStage

/-- What the identity of the composition covers of the stage. -/
def content (stage : BoundStage) : StageContent where
  stageId := stage.slot.stageId
  role := stage.slot.role
  provider := stage.record.provider
  modelId := stage.record.modelId
  family := stage.record.family
  revision := stage.record.revision
  requirementIds := stage.requirement.requirementIds.items
  requirements := stage.requirement.requirements.modelDump

/-- The identity of the record, as one text. -/
def identityText (stage : BoundStage) : String :=
  stage.record.provider ++ "/" ++ stage.record.modelId ++ "/" ++ stage.record.family ++ "/" ++
    stage.record.revision

/-- The reason why the record meets a requirement. -/
def justification (stage : BoundStage) (requirementId : String)
    (required : requirementId ∈ stage.requirement.requirementIds.items) :
    CapabilityJustification where
  requirementId := requirementId
  capabilityField := "phase4_compatibility"
  declaredValue := "compatible"
  reason := "Phase 4 discovery confirmed this exact record satisfies the hard requirement set"
  texts_nonblank := by
    have visible := stage.requirement.requirementIds_nonblank requirementId required
    simp only [List.forall_mem_cons, visible, true_and]
    decide

/-- The reasons why the record meets the requirements on the stage. -/
def justifications (stage : BoundStage) :
    CanonicalTuple CapabilityJustification CapabilityJustification.key :=
  .of CapabilityJustification.key
    (stage.requirement.requirementIds.items.attach.map fun item =>
      stage.justification item.1 item.2)
    (by simpa using stage.requirement.requirementIds.nonempty)

/-- Where the stage comes from. -/
def provenance (stage : BoundStage) : ProvenanceTuple :=
  .of CompositionProvenanceReference.key (stage.requirement.provenance.items ++ [
    provenanceReference "phase4" stage.identityText
      "exact model capability record preserved from registry" phase4_nonblank
      (Text.nonblank_append_right _ (stage.record.identity_nonblank _ (by simp))) (by decide),
    provenanceReference "phase4" ("compatibility:" ++ stage.identityText)
      "Phase 4 discovery admitted the exact compatible record" phase4_nonblank
      (Text.nonblank_append_left (by decide) _) (by decide)]) (by simp)

/-- The node of the stage. -/
def node (stage : BoundStage) : CompositionNode where
  stageId := stage.slot.stageId
  role := stage.slot.role
  modelRecord := stage.record
  requirements := stage.requirement.requirements
  inputArtifacts := stage.requirement.inputArtifacts
  outputArtifacts := stage.requirement.outputArtifacts
  justifications := stage.justifications
  provenance := stage.provenance
  stageId_nonblank := stage.slot.stageId_nonblank

end BoundStage

/-- The requirements on a role, by role. -/
def requirementsByRole (roleRequirements : List CompositionRoleRequirement)
    (role : CompositionRole) : Except Fault CompositionRoleRequirement :=
  match (Dict.indexed CompositionRoleRequirement.role roleRequirements).get? role with
  | some requirement => .ok requirement
  | none => .error (.missingKey role.value)

/-- A stage with the record bound to it and the requirements on its role. -/
def boundStage (roleRequirements : List CompositionRoleRequirement)
    (bound : PatternSlot × ModelCapabilityRecord) : Except Fault BoundStage := do
  let requirement ← requirementsByRole roleRequirements bound.1.role
  return ⟨bound.1, bound.2, requirement⟩

/-- The stages of a pattern with their records and requirements. -/
def boundStages (pattern : CertifiedCompositionPattern)
    (roleRequirements : List CompositionRoleRequirement) (binding : List ModelCapabilityRecord) :
    Except Fault (List BoundStage) :=
  (pattern.slots.zip binding).mapM (boundStage roleRequirements)

/-- A handoff of a draft: the source gives its first output artifact. -/
def draftEdge (pattern : CertifiedCompositionPattern)
    (roleRequirements : List CompositionRoleRequirement) (edge : PatternEdge) :
    Except Fault CompositionEdge := do
  let role ← (pattern.roleOf edge.sourceStageId).elim (.error (.missingKey edge.sourceStageId)) .ok
  let requirement ← requirementsByRole roleRequirements role
  return {
    sourceStageId := edge.sourceStageId
    targetStageId := edge.targetStageId
    dependencyType := edge.dependencyType
    artifactId := requirement.outputArtifacts.first.artifactId
    evidence := .of id ["certified pattern " ++ pattern.patternId ++
      " declares this logical handoff"] (List.cons_ne_nil _ _)
    identities_nonblank := by
      simp [edge.source_nonblank, edge.target_nonblank,
        requirement.outputArtifacts.first.artifactId_nonblank]
    evidence_nonblank := by
      intro text member
      rw [CanonicalTuple.mem_of, List.mem_singleton] at member
      exact member ▸ Text.nonblank_append_right _ (by decide) }

/-- Where a draft comes from. -/
def draftProvenance (request : CompositionInstantiationRequest)
    (pattern : CertifiedCompositionPattern) : List CompositionProvenanceReference := [
  provenanceReference "phase2" request.intelligenceResult.requestId
    "certified workload identity and intelligence preserved" phase2_nonblank
    request.requestId_nonblank (by decide),
  provenanceReference "phase3" request.graph.graphId
    "certified logical graph and readiness preserved" phase3_nonblank
    request.graphId_nonblank (by decide),
  provenanceReference "phase4" (request.registry.fingerprint digest)
    "exact immutable registry snapshot fingerprint preserved" phase4_nonblank
    (Text.nonblank_append_left (by decide) _) (by decide),
  provenanceReference "phase5" pattern.patternId
    "candidate instantiated from an exact certified pattern" (by decide)
    pattern.patternId_nonblank (by decide),
  provenanceReference "phase5" ("reason:" ++ pattern.topology.value)
    "explicit certified graph and role requirements made this topology applicable" (by decide)
    (Text.nonblank_append_left (by decide) _) (by decide)]

/-- The assessments of the constraints on the roles of a pattern. -/
def relevantAssessments (request : CompositionInstantiationRequest)
    (pattern : CertifiedCompositionPattern) (assessments : List CapabilityEvidenceAssessment) :
    List CapabilityEvidenceAssessment :=
  ((request.evidenceConstraints.zip assessments).filter fun entry =>
    entry.1.role ∈ pattern.slots.map PatternSlot.role).map Prod.snd

/-- The fields of the draft of a pattern with the given stages and handoffs. -/
def draftFields (request : CompositionInstantiationRequest) (pattern : CertifiedCompositionPattern)
    (roleRequirements : List CompositionRoleRequirement) (stages : List BoundStage)
    (edges : List CompositionEdge) (assessments : List CapabilityEvidenceAssessment) :
    DraftFields where
  compositionId := compositionIdOf digest request.intelligenceResult.requestId
    request.intelligenceResult.workloadId request.intelligenceResult.sessionId
    request.graph.graphId pattern (stages.map BoundStage.content)
  requestId := request.intelligenceResult.requestId
  workloadId := request.intelligenceResult.workloadId
  sessionId := request.intelligenceResult.sessionId
  graphId := request.graph.graphId
  patternId := pattern.patternId
  topology := pattern.topology
  nodes := stages.map BoundStage.node
  edges := edges
  satisfiedRequirementIds := canonical id
    (roleRequirements.flatMap fun item => item.requirementIds.items)
  evidenceAssessments := relevantAssessments request pattern assessments
  provenance := draftProvenance digest request pattern

/-- The draft of a pattern with a binding. -/
def draft (request : CompositionInstantiationRequest) (pattern : CertifiedCompositionPattern)
    (roleRequirements : List CompositionRoleRequirement)
    (assessments : List CapabilityEvidenceAssessment) (binding : List ModelCapabilityRecord) :
    Except Fault CompositionCandidateDraft := do
  let stages ← boundStages pattern roleRequirements binding
  let edges ← pattern.edges.mapM (draftEdge pattern roleRequirements)
  CompositionCandidateDraft.make
    (draftFields digest request pattern roleRequirements stages edges assessments)

/-! ## Enumeration -/

/-- Why a pattern or a role has no drafts. -/
structure InstantiationIssue where
  issueId : String
  role : Option CompositionRole := none
  topology : Option CertifiedTopology := none
  reason : String
  deriving DecidableEq

/-- The message of a fault. -/
def faultText : Fault → String
  | .value message => message
  | .validation _ _ message => message
  | .missingKey key => key

/-- The registered records for a role, in the order of their identities. -/
def candidatesFor (request : CompositionInstantiationRequest)
    (blocked : List CompositionRole) (requirement : CompositionRoleRequirement) :
    List ModelCapabilityRecord :=
  if requirement.role ∈ blocked then []
  else sortOn ModelCapabilityRecord.identity
    ((discoverCapabilities request.registry requirement.requirements).map
      CompatibilityResult.record)

/-- The registered records for each of some required roles. -/
def candidatesByRole (request : CompositionInstantiationRequest) (blocked : List CompositionRole)
    (roleRequirements : List CompositionRoleRequirement) (role : CompositionRole) :
    List ModelCapabilityRecord :=
  ((Dict.indexed CompositionRoleRequirement.role roleRequirements).get? role).elim []
    (candidatesFor request blocked)

/-- The issue of a role without records. -/
def roleIssue (blocked : List CompositionRole) (topology : CertifiedTopology)
    (role : CompositionRole) : InstantiationIssue :=
  if role ∈ blocked then
    ⟨"required_evidence_unacceptable", some role, some topology,
      "explicit hard evidence requirement is not acceptable"⟩
  else
    ⟨"no_compatible_record", some role, some topology,
      "Phase 4 discovery found no record satisfying the exact hard requirements"⟩

/-- The drafts of one pattern, and the issues with its roles. -/
def instantiatePattern (request : CompositionInstantiationRequest)
    (assessments : List CapabilityEvidenceAssessment) (blocked : List CompositionRole)
    (pattern : CertifiedCompositionPattern) :
    Except Fault (List CompositionCandidateDraft × List InstantiationIssue) :=
  match deriveRoleRequirements request pattern with
  | .error raised =>
      .ok ([], [⟨"unsupported_role_requirement", none, some pattern.topology, faultText raised⟩])
  | .ok roleRequirements => do
      let lacking := roleRequirements.filter fun requirement =>
        (candidatesFor request blocked requirement).isEmpty
      let issues := lacking.map fun requirement =>
        roleIssue blocked pattern.topology requirement.role
      if lacking ≠ [] then
        return ([], issues)
      let drafts ← (bindings pattern (candidatesByRole request blocked roleRequirements)).mapM
        (draft digest request pattern roleRequirements assessments)
      return (drafts, issues)

/-- What the instantiation of a request gives. -/
structure Instantiation where
  drafts : List CompositionCandidateDraft
  applicableTopologies : List CertifiedTopology
  evidenceAssessments : List CapabilityEvidenceAssessment
  issues : List InstantiationIssue

/-- Instantiate the applicable patterns of a request. -/
def instantiate (request : CompositionInstantiationRequest) : Except Fault Instantiation := do
  let patterns := applicablePatterns request
  let assessments ← assessConstraints request
  let blocked := blockedRoles request assessments
  let outcomes ← patterns.mapM (instantiatePattern digest request assessments blocked)
  return {
    drafts := outcomes.flatMap Prod.fst
    applicableTopologies := patterns.map CertifiedCompositionPattern.topology
    evidenceAssessments := assessments
    issues := outcomes.flatMap Prod.snd }

/-- The drafts of a request, in the order of patterns and identities. -/
def iterCompositionCandidateDrafts (request : CompositionInstantiationRequest) :
    Except Fault (List CompositionCandidateDraft) := do
  let result ← instantiate digest request
  return result.drafts

end Composition
end MercuryX
