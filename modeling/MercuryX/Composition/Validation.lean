import MercuryX.Composition.Instantiation

/-!
# Validation of drafts

A draft is checked apart from how it was made: its shape against the certified pattern of its
topology, its stages against the registry, its requirements, evidence and handoffs, and its id
against the content that it names.
-/

namespace MercuryX
namespace Composition

open Foundation
open MercuryX.Graph (ExecutionGraph GraphDependencyType)
open Intelligence (CanonicalTuple WorkloadIntelligencePipelineResult)
open Models

/-! ## Context and issues -/

/-- Whether a draft passed. -/
inductive CompositionValidationStatus where
  | pass
  | fail
  deriving DecidableEq, Repr

/-- What a draft violates, and where. -/
structure CompositionValidationIssue where
  issueId : String
  stageId : Option String := none
  edgeReference : Option String := none
  violatedField : String
  reason : String
  deriving DecidableEq

/-- Issues are ordered by all their fields. -/
def CompositionValidationIssue.key (item : CompositionValidationIssue) :
    String ×ₗ String ×ₗ String ×ₗ String ×ₗ String :=
  toLex (item.issueId, toLex (item.stageId.getD "", toLex (item.edgeReference.getD "",
    toLex (item.violatedField, item.reason))))

/-- What a draft is validated against. -/
structure CompositionValidationContext where
  intelligenceResult : WorkloadIntelligencePipelineResult
  graph : ExecutionGraph
  readinessResult : GraphReadinessResult
  registry : ModelCapabilityRegistry
  hardRequirementIds : CanonicalTuple String id
  /-- Requirement ids are nonblank. -/
  requirementIds_nonblank : ∀ text ∈ hardRequirementIds.items, Text.Nonblank text
  /-- The artifacts of the earlier phases are consistent. -/
  upstream_consistent : UpstreamConsistent intelligenceResult graph readinessResult

/-- The context of a request, with the requirements that a draft itself names. -/
def contextOf (request : CompositionInstantiationRequest) (draft : CompositionCandidateDraft) :
    CompositionValidationContext where
  intelligenceResult := request.intelligenceResult
  graph := request.graph
  readinessResult := request.readinessResult
  registry := request.registry
  hardRequirementIds := ⟨draft.satisfiedRequirementIds, draft.valid.requirements_nonempty,
    draft.valid.requirements_canonical⟩
  requirementIds_nonblank := draft.valid.requirements_nonblank
  upstream_consistent := request.upstream_certified.toUpstreamConsistent

/-- An issue when a condition holds. -/
def issueIf (condition : Prop) [Decidable condition] (issue : CompositionValidationIssue) :
    List CompositionValidationIssue :=
  if condition then [issue] else []

@[simp] theorem issueIf_eq_nil {condition : Prop} [Decidable condition]
    {issue : CompositionValidationIssue} : issueIf condition issue = [] ↔ ¬ condition := by
  simp [issueIf]

/-! ## Shape -/

/-- A handoff without what it carries: its source, its target and its kind. -/
abbrev Link := String × String × GraphDependencyType

/-- The handoff as a reference. -/
def edgeReference (source target : String) : Option String := some (source ++ "->" ++ target)

/-- What the check of the shape reads of a draft. -/
structure DraftShape where
  patternId : String
  slots : List (String × CompositionRole)
  links : List Link
  deriving DecidableEq

/-- The shape of a draft. -/
def DraftFields.shape (draft : DraftFields) : DraftShape where
  patternId := draft.patternId
  slots := draft.nodes.map fun node => (node.stageId, node.role)
  links := draft.edges.map fun edge =>
    (edge.sourceStageId, edge.targetStageId, edge.dependencyType)

/-- The links of a pattern. -/
def CertifiedCompositionPattern.links (pattern : CertifiedCompositionPattern) : List Link :=
  pattern.edges.map fun edge => (edge.sourceStageId, edge.targetStageId, edge.dependencyType)

/-- The issues with one link. -/
def linkIssues (stageIds : List String) (link : Link) : List CompositionValidationIssue :=
  if link.1 ∉ stageIds ∨ link.2.1 ∉ stageIds then
    [{ issueId := "dag_structure"
       edgeReference := edgeReference link.1 link.2.1
       violatedField := "edge_reference"
       reason := "edge references an undeclared stage" }]
  else
    issueIf (link.1 = link.2.1)
      { issueId := "dag_structure"
        stageId := some link.1
        edgeReference := edgeReference link.1 link.2.1
        violatedField := "self_edge"
        reason := "self-edges are forbidden" }

/-- The links between different stages. -/
def validLinks (stageIds : List String) (links : List Link) : List Link :=
  links.filter fun link => link.1 ∈ stageIds ∧ link.2.1 ∈ stageIds ∧ link.1 ≠ link.2.1

/-- The stages seen from a stack of pending stages; the fuel covers both ends of every arrow. -/
def seenStages (arrows : List (String × String)) : Nat → List String → List String → List String
  | 0, seen, _ => seen
  | _ + 1, seen, [] => seen
  | fuel + 1, seen, current :: pending =>
      if current ∈ seen then seenStages arrows fuel seen pending
      else
        let fresh := (neighborsOf arrows current).filter fun next => next ∉ current :: seen
        seenStages arrows fuel (current :: seen) (canonical id fresh ++ pending)

/-- The issues with the graph of the stages. -/
def dagIssues (stageIds : List String) (arrows : List (String × String)) :
    List CompositionValidationIssue :=
  let seen := seenStages arrows (2 * arrows.length + 1) [] ((sortOn id stageIds).take 1)
  let entries := stageIds.filter fun stageId => Kahn.indegree arrows stageId = 0
  let exits := stageIds.filter fun stageId => Kahn.successors arrows stageId = []
  issueIf (1 < stageIds.length ∧ HasOrphan stageIds arrows)
      { issueId := "dag_structure"
        violatedField := "orphan_stage"
        reason := "every stage must participate in the connected flow" } ++
    issueIf (seen.toFinset ≠ stageIds.toFinset)
      { issueId := "dag_structure"
        violatedField := "connectedness"
        reason := "candidate stages must form one connected graph" } ++
    if (stageOrder stageIds arrows).length ≠ stageIds.length then
      [{ issueId := "dag_structure"
         violatedField := "cycle"
         reason := "candidate graph must be acyclic" }]
    else
      issueIf (1 < stageIds.length ∧ (entries.length ≠ 1 ∨ exits.length ≠ 1))
        { issueId := "entry_exit_reachability"
          violatedField := "entry_exit"
          reason := "candidate requires one complete entry-to-exit path" }

/-- The issues with the pattern of a topology. -/
def patternIssues (shape : DraftShape) (links : List Link)
    (pattern : CertifiedCompositionPattern) : List CompositionValidationIssue :=
  let actualById := Dict.ofList shape.slots
  let actualSlots := pattern.slots.map fun slot => actualById.get? slot.stageId
  issueIf (shape.patternId ≠ pattern.patternId)
      { issueId := "pattern_conformance"
        violatedField := "pattern_id"
        reason := "pattern identity does not match certified topology" } ++
    issueIf (actualById.keys.toFinset ≠ pattern.stageIds.toFinset ∨
        actualSlots ≠ pattern.slots.map fun slot => some slot.role)
      { issueId := "pattern_conformance"
        violatedField := "slots"
        reason := "stage identities and roles must exactly match the certified pattern" } ++
    issueIf (links.toFinset ≠ pattern.links.toFinset ∨ links.length ≠ pattern.edges.length)
      { issueId := "pattern_conformance"
        violatedField := "edges"
        reason := "logical edges must exactly match the certified pattern" }

/-- The issues with the shape of a draft. -/
def topologyIssues (shape : DraftShape) (pattern : Option CertifiedCompositionPattern) :
    List CompositionValidationIssue :=
  let stageIds := shape.slots.map Prod.fst
  let validIds := stageIds.dedup
  let links := validLinks validIds shape.links
  if shape.slots = [] ∨ maxCompositionNodes < shape.slots.length then
    [{ issueId := "dag_structure"
       violatedField := "nodes"
       reason := "candidate must contain one to three stages" }]
  else
    issueIf (¬ stageIds.Nodup)
        { issueId := "dag_structure"
          violatedField := "stage_id"
          reason := "stage identifiers must be nonblank and unique" } ++
      shape.links.flatMap (linkIssues validIds) ++
      dagIssues validIds (links.map fun link => (link.1, link.2.1)) ++
      match pattern with
      | none =>
          [{ issueId := "pattern_conformance"
             violatedField := "topology"
             reason := "topology is not certified" }]
      | some pattern => patternIssues shape links pattern

/-! ## Stages -/

/-- The issues of a stage with the registry and its requirements. -/
def stageIssues (registry : ModelCapabilityRegistry) (node : CompositionNode) :
    List CompositionValidationIssue :=
  issueIf (registry.lookup node.modelRecord.identity ≠ some node.modelRecord)
      { issueId := "registry_identity"
        stageId := some node.stageId
        violatedField := "model_record"
        reason := "exact provider/model/family/revision record is absent or changed" } ++
    issueIf ((evaluateCompatibility node.modelRecord node.requirements).status ≠ .compatible)
      { issueId := "capability_compatibility"
        stageId := some node.stageId
        violatedField := "requirements"
        reason := "exact Phase 4 record does not cover the stage hard requirements" }

/-- The identities of the records that a draft binds to the primary role. -/
def primaryIdentities (nodes : List CompositionNode) :
    List (String ×ₗ String ×ₗ String ×ₗ String) :=
  (nodes.filter fun node => node.role = .primary).map fun node => node.modelRecord.identity

/-- Whether two primary stages are bound to one identity. -/
def primaryRepeated : List (String ×ₗ String ×ₗ String ×ₗ String) → Bool
  | [entry, exit] => entry = exit
  | _ => false

/-- The issues with the identities of a draft and its stages. -/
def identityAndCapabilityIssues (draft : DraftFields) (context : CompositionValidationContext)
    (pattern : Option CertifiedCompositionPattern) : List CompositionValidationIssue :=
  let upstream := (context.intelligenceResult.requestId, context.intelligenceResult.workloadId,
    context.intelligenceResult.sessionId, context.graph.graphId)
  issueIf ((draft.requestId, draft.workloadId, draft.sessionId, draft.graphId) ≠ upstream)
      { issueId := "identity_consistency"
        violatedField := "identity"
        reason := "candidate and certified upstream identities must match exactly" } ++
    draft.nodes.flatMap (stageIssues context.registry) ++
    issueIf ((pattern.any fun certified => certified.topology ∈ returnTopologies) ∧
        ¬ primaryRepeated (primaryIdentities draft.nodes))
      { issueId := "repeated_primary_identity"
        violatedField := "model_record"
        reason := "return topology PRIMARY stages must preserve one exact identity and revision" }

/-! ## Requirements and evidence -/

/-- Some switch of the requirements asks for evidence. -/
def explicitlyRequired (requirements : CapabilityEvidenceAssessmentRequirements) : Bool :=
  requirements.requiresEvidence || requirements.requiresCurrentValid ||
    requirements.requiresMeasuredOrObserved || requirements.requiresProductionEvidence ||
    requirements.rejectConflicts

/-- The issue with an assessment. -/
def assessmentIssues (assessment : CapabilityEvidenceAssessment) :
    List CompositionValidationIssue :=
  issueIf (explicitlyRequired assessment.requirements ∧ assessment.status ≠ .acceptable)
    { issueId := "required_evidence"
      violatedField := "evidence_assessments"
      reason := "required evidence for " ++ assessment.capabilityClaim ++ " is " ++
        assessment.status.value }

/-- The requirement ids that the stages justify. -/
def justifiedIds (nodes : List CompositionNode) : List String :=
  nodes.flatMap fun node => node.justifications.items.map CapabilityJustification.requirementId

/-- The issues with requirements and evidence; every stage has complete justifications. -/
def coverageAndEvidenceIssues (draft : DraftFields) (context : CompositionValidationContext) :
    List CompositionValidationIssue :=
  issueIf (¬ context.hardRequirementIds.items ⊆ draft.satisfiedRequirementIds)
      { issueId := "requirement_coverage"
        violatedField := "satisfied_requirement_ids"
        reason := "candidate does not cover every complete hard requirement id" } ++
    issueIf (¬ draft.satisfiedRequirementIds ⊆ justifiedIds draft.nodes)
      { issueId := "requirement_coverage"
        violatedField := "justifications"
        reason := "every satisfied hard requirement requires a stage justification" } ++
    draft.evidenceAssessments.flatMap assessmentIssues

/-! ## Handoffs -/

/-- The artifact is structured. -/
def CompositionArtifactContract.isStructured (artifact : CompositionArtifactContract) : Bool :=
  artifact.requiresStructuredOutput || .structuredData ∈ artifact.modalities.items

/-- The artifacts take in some modality of the carried one. -/
def sharesModality (carried : CompositionArtifactContract)
    (inputs : List CompositionArtifactContract) : Bool :=
  inputs.any fun input => carried.modalities.items.any fun modality =>
    modality ∈ input.modalities.items

/-- The issues with what a handoff carries from one stage to another. -/
def carryIssues (edge : CompositionEdge) (outputs inputs : List CompositionArtifactContract) :
    List CompositionValidationIssue :=
  let reference := edgeReference edge.sourceStageId edge.targetStageId
  match outputs.find? fun item => item.artifactId = edge.artifactId with
  | none =>
      { issueId := "handoff_compatibility"
        edgeReference := reference
        violatedField := "artifact_id"
        reason := "edge must carry an explicitly declared source output artifact" } ::
      issueIf (outputs.any CompositionArtifactContract.isStructured)
        { issueId := "structured_handoff"
          edgeReference := reference
          violatedField := "artifact_semantics"
          reason := "structured artifact cannot be replaced by an undeclared generic artifact" }
  | some carried =>
      issueIf (¬ sharesModality carried inputs)
          { issueId := "handoff_compatibility"
            edgeReference := reference
            violatedField := "modalities"
            reason := "source output and target input modalities are incompatible" } ++
        issueIf (carried.requiresStructuredOutput ∧
            ¬ inputs.any CompositionArtifactContract.isStructured)
          { issueId := "structured_handoff"
            edgeReference := reference
            violatedField := "artifact_semantics"
            reason := "structured artifact semantics must remain explicit at the target" }

/-- The word that the artifacts of a role carry in their ids, and the issue when they do not. -/
def semanticRoles : CompositionRole → Option (String × String)
  | .retrievalAugmenter => some ("retrieval", "retrieval_handoff")
  | .toolModel => some ("tool", "tool_handoff")
  | .specialist => some ("specialist", "specialist_handoff")
  | .primary | .verifier | .critic => none

/-- The issue with the artifact that a role hands off. -/
def markerIssues (edge : CompositionEdge) (role : CompositionRole) :
    List CompositionValidationIssue :=
  match semanticRoles role with
  | none => []
  | some (marker, issueId) =>
      issueIf (¬ marker.toList <:+: edge.artifactId.toList)
        { issueId := issueId
          stageId := some edge.sourceStageId
          edgeReference := edgeReference edge.sourceStageId edge.targetStageId
          violatedField := "artifact_semantics"
          reason := marker ++ " artifact cannot be replaced by generic text" }

/-- The issues with one handoff; a handoff between unknown stages has none. -/
def edgeIssues (nodesById : Dict String CompositionNode) (edge : CompositionEdge) :
    List CompositionValidationIssue :=
  match nodesById.get? edge.sourceStageId, nodesById.get? edge.targetStageId with
  | some source, some target =>
      carryIssues edge source.outputArtifacts.items target.inputArtifacts.items ++
        markerIssues edge source.role
  | _, _ => []

/-- The issues with the handoffs of a draft. -/
def handoffIssues (draft : DraftFields) : List CompositionValidationIssue :=
  draft.edges.flatMap (edgeIssues (Dict.indexed CompositionNode.stageId draft.nodes))

/-! ## Provenance and boundaries -/

/-- The issue with the provenance; every stage has provenance, and every reference is complete. -/
def provenanceIssues (draft : DraftFields) : List CompositionValidationIssue :=
  issueIf (draft.provenance = [])
    { issueId := "provenance"
      violatedField := "provenance"
      reason := "candidate provenance must be complete and nonempty" }

/-- The names of decisions that are not made here. -/
def forbiddenFields : List String := [
  "rank", "score", "winner", "best_model", "preferred_candidate", "selected_model",
  "fallback_ordering", "graph_node_assignment", "cost_optimization", "latency_optimization",
  "quality_optimization", "hardware", "device", "placement", "scheduler_assignment",
  "runtime_invocation"]

/-- The names of the fields of a draft itself. -/
def draftFieldNames : List String := [
  "schema_version", "composition_id", "request_id", "workload_id", "session_id", "graph_id",
  "pattern_id", "topology", "nodes", "edges", "satisfied_requirement_ids",
  "evidence_assessments", "provenance"]

/-- The names of the fields of a stage and its parts. -/
def nodeFieldNames : List String := [
  "stage_id", "role", "model_record", "requirements", "input_artifacts", "output_artifacts",
  "justifications", "provenance",
  -- The record and where it comes from.
  "schema_version", "model_id", "provider", "family", "revision", "input_modalities",
  "output_modalities", "reasoning_capabilities", "supports_tool_use", "supports_retrieval",
  "supports_code_generation", "supports_code_understanding",
  "supports_structured_tool_arguments", "supports_tool_result_consumption",
  "supports_json_output", "supports_schema_constrained_output", "max_context_tokens",
  "max_output_tokens", "supports_streaming", "supports_batching", "supports_deterministic_seed",
  "provenance", "status", "source", "source_revision", "evidence", "kind",
  -- The requirements on it.
  "required_input_modalities", "required_output_modalities",
  "required_reasoning_capabilities", "requires_tool_use", "requires_retrieval",
  "requires_code_generation", "requires_code_understanding",
  "requires_structured_tool_arguments", "requires_tool_result_consumption",
  "requires_json_output", "requires_schema_constrained_output", "minimum_context_tokens",
  "minimum_output_tokens", "requires_streaming", "allowed_statuses", "evidence",
  -- Artifacts, justifications and references.
  "artifact_id", "modalities", "requires_structured_output", "evidence", "requirement_id",
  "capability_field", "declared_value", "reason", "source_phase", "artifact_id", "evidence"]

/-- The names of the fields of a handoff. -/
def edgeFieldNames : List String := [
  "source_stage_id", "target_stage_id", "dependency_type", "artifact_id", "evidence"]

/-- The names of the fields of an assessment and its parts. -/
def assessmentFieldNames : List String := [
  "capability_claim", "requirements", "evidence", "status", "issues", "requires_evidence",
  "requires_current_valid", "requires_measured_or_observed", "requires_production_evidence",
  "allow_simulated", "reject_conflicts", "source", "source_revision", "reference_id", "detail",
  "kind", "state", "supports_claim", "issue_id", "reason"]

/-- The names of decisions among the fields of a draft. -/
def leakedFields (draft : DraftFields) : List String :=
  canonical id ((draftFieldNames ++ (draft.nodes.flatMap fun _ => nodeFieldNames) ++
    (draft.edges.flatMap fun _ => edgeFieldNames) ++
    draft.evidenceAssessments.flatMap fun _ => assessmentFieldNames).filter
      fun name => name ∈ forbiddenFields)

/-! ## Identity -/

variable (digest : Digest)

/-- What the identity of a draft covers of the stage of a slot. -/
def stageContent (nodes : List CompositionNode) (slot : PatternSlot) : Option StageContent :=
  ((Dict.indexed CompositionNode.stageId nodes).get? slot.stageId).map fun node =>
    { stageId := slot.stageId
      role := slot.role
      provider := node.modelRecord.provider
      modelId := node.modelRecord.modelId
      family := node.modelRecord.family
      revision := node.modelRecord.revision
      requirementIds :=
        sortOn id (node.justifications.items.map CapabilityJustification.requirementId)
      requirements := node.requirements.modelDump }

/-- The id that the content of a draft names. -/
def semanticCompositionId (draft : DraftFields) (pattern : CertifiedCompositionPattern) :
    Option String :=
  (pattern.slots.mapM (stageContent draft.nodes)).map fun stages =>
    compositionIdOf digest draft.requestId draft.workloadId draft.sessionId draft.graphId pattern
      stages

/-! ## Verdicts -/

/-- The issues with a draft, in the order they are found. -/
def validationIssues (draft : CompositionCandidateDraft) (context : CompositionValidationContext) :
    List CompositionValidationIssue :=
  let pattern := getCertifiedPattern draft.topology
  let expectedId := pattern.bind (semanticCompositionId digest draft.toDraftFields)
  let leaked := leakedFields draft.toDraftFields
  issueIf (draft.schemaVersion ≠ compositionSchemaVersion)
      { issueId := "schema_version"
        violatedField := "schema_version"
        reason := "composition schema version is unsupported" } ++
    topologyIssues draft.shape pattern ++
    identityAndCapabilityIssues draft.toDraftFields context pattern ++
    coverageAndEvidenceIssues draft.toDraftFields context ++
    handoffIssues draft.toDraftFields ++
    provenanceIssues draft.toDraftFields ++
    issueIf (expectedId ≠ some draft.compositionId)
      { issueId := "composition_id"
        violatedField := "composition_id"
        reason := "composition_id does not match canonical semantic content" } ++
    issueIf (leaked ≠ [])
      { issueId := "boundary_compliance"
        violatedField := "boundary"
        reason := "forbidden decision fields detected: " ++ ", ".intercalate leaked }

/-- The rejection that an issue gives rise to. -/
def CompositionValidationIssue.rejection (issue : CompositionValidationIssue) :
    CompositionRejection where
  issueId := issue.issueId
  stageId := issue.stageId
  edgeReference := issue.edgeReference
  violatedInvariant := issue.violatedField
  reason := issue.reason

/-- The candidate of a draft with the given issues. -/
def finalCandidate (draft : CompositionCandidateDraft)
    (issues : List CompositionValidationIssue) : CompositionCandidate :=
  { draft with
    validity := if issues = [] then .valid else .rejected
    rejectionReasons :=
      canonical CompositionRejection.key (issues.map CompositionValidationIssue.rejection)
    validity_matches := by
      by_cases clean : issues = []
      · simp [clean, canonical, sortOn]
      · simp only [if_neg clean, reduceCtorEq, false_iff]
        exact canonical_ne_nil _ (by simpa using clean) }

/-- The invariants that are checked. -/
def checkedInvariants : List String := canonical id [
  "schema_version", "identity_consistency", "composition_id", "pattern_conformance",
  "certified_role", "dag_structure", "entry_exit_reachability", "repeated_primary_identity",
  "registry_identity", "capability_compatibility", "requirement_coverage",
  "handoff_compatibility", "required_evidence", "provenance", "capability_justification",
  "boundary_compliance"]

/-- The verdict on a draft. -/
structure CompositionValidationResult where
  status : CompositionValidationStatus
  candidate : CompositionCandidate
  issues : List CompositionValidationIssue
  checkedInvariantIds : List String
  /-- A draft passes as a valid candidate without issues, and fails as a rejected one with. -/
  status_matches : (status = .pass ∧ candidate.validity = .valid ∧ issues = []) ∨
    (status = .fail ∧ candidate.validity = .rejected ∧ issues ≠ [])

/-- Validate a draft. -/
def validateCompositionCandidate (draft : CompositionCandidateDraft)
    (context : CompositionValidationContext) : CompositionValidationResult :=
  let issues := canonical CompositionValidationIssue.key (validationIssues digest draft context)
  { status := if issues = [] then .pass else .fail
    candidate := finalCandidate draft issues
    issues := issues
    checkedInvariantIds := checkedInvariants
    status_matches := by
      by_cases clean : issues = []
      · simp [finalCandidate, clean]
      · simp [finalCandidate, clean] }

/-! ## When a draft passes -/

variable {digest} {draft : CompositionCandidateDraft} {context : CompositionValidationContext}

theorem validate_pass_iff :
    (validateCompositionCandidate digest draft context).status = .pass ↔
      validationIssues digest draft context = [] := by
  have clean : canonical CompositionValidationIssue.key (validationIssues digest draft context) = []
      ↔ validationIssues digest draft context = [] := by
    constructor
    · intro empty
      by_contra found
      exact canonical_ne_nil _ found empty
    · intro none
      simp [none, canonical, sortOn]
  rw [← clean]
  simp [validateCompositionCandidate]

theorem candidate_valid_iff :
    (validateCompositionCandidate digest draft context).candidate.validity = .valid ↔
      (validateCompositionCandidate digest draft context).status = .pass := by
  rcases (validateCompositionCandidate digest draft context).status_matches with
    ⟨passed, valid, _⟩ | ⟨failed, rejected, _⟩
  · simp [passed, valid]
  · simp [failed, rejected]

theorem leakedFields_eq_nil (draft : DraftFields) : leakedFields draft = [] := by
  have own : ∀ name ∈ draftFieldNames, name ∉ forbiddenFields := by decide
  have ofNode : ∀ name ∈ nodeFieldNames, name ∉ forbiddenFields := by decide
  have ofEdge : ∀ name ∈ edgeFieldNames, name ∉ forbiddenFields := by decide
  have ofAssessment : ∀ name ∈ assessmentFieldNames, name ∉ forbiddenFields := by decide
  have harmless : ∀ name, name ∉ leakedFields draft := by
    intro name leaked
    simp only [leakedFields, mem_canonical, List.mem_filter, List.mem_append, List.mem_flatMap,
      decide_eq_true_eq] at leaked
    obtain ⟨((member | ⟨_, _, member⟩) | ⟨_, _, member⟩) | ⟨_, _, member⟩, forbidden⟩ := leaked
    · exact own name member forbidden
    · exact ofNode name member forbidden
    · exact ofEdge name member forbidden
    · exact ofAssessment name member forbidden
  exact List.eq_nil_iff_forall_not_mem.mpr harmless

/-- The checks that a draft passes when it passes its validation. -/
theorem validationIssues_eq_nil_iff {pattern : CertifiedCompositionPattern}
    (certified : getCertifiedPattern draft.topology = some pattern) :
    validationIssues digest draft context = [] ↔
      topologyIssues draft.shape (some pattern) = [] ∧
        identityAndCapabilityIssues draft.toDraftFields context (some pattern) = [] ∧
        coverageAndEvidenceIssues draft.toDraftFields context = [] ∧
        handoffIssues draft.toDraftFields = [] ∧
        semanticCompositionId digest draft.toDraftFields pattern = some draft.compositionId := by
  have supported : draft.schemaVersion = compositionSchemaVersion := draft.valid.schema
  have sourced : draft.provenance ≠ [] := draft.valid.provenance_nonempty
  simp only [validationIssues, certified, List.append_eq_nil_iff, issueIf_eq_nil, supported,
    provenanceIssues, sourced, leakedFields_eq_nil, ne_eq, not_true_eq_false, not_false_eq_true,
    not_not, and_true, true_and, Option.bind_some, and_assoc]

end Composition
end MercuryX
