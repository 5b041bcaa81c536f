import MercuryX.Composition.Patterns
import MercuryX.Foundation.Dict

/-!
# Role requirements

A request for compositions carries the certified artifacts of the earlier phases. The requirements
on each role of a pattern are taken from the request where it states them, and derived from the
workload and its graph otherwise.
-/

namespace MercuryX
namespace Composition

open Foundation
open MercuryX.Graph
open Intelligence
open Models

/-! ## Requests -/

/-- The requirements on the model of a role. -/
structure CompositionRoleRequirement where
  role : CompositionRole
  requirementIds : CanonicalTuple String id
  requirements : ModelCapabilityRequirements
  inputArtifacts : ArtifactTuple
  outputArtifacts : ArtifactTuple
  provenance : ProvenanceTuple
  /-- Requirement ids are nonblank. -/
  requirementIds_nonblank : ∀ text ∈ requirementIds.items, Text.Nonblank text

instance : DecidableEq CompositionRoleRequirement := fun left right =>
  decidable_of_iff (left.role = right.role ∧ left.requirementIds = right.requirementIds ∧
      left.requirements = right.requirements ∧ left.inputArtifacts = right.inputArtifacts ∧
      left.outputArtifacts = right.outputArtifacts ∧ left.provenance = right.provenance) (by
    cases left
    cases right
    simp)

/-- The evidence that a role needs for a capability claim. -/
structure CompositionEvidenceConstraint where
  role : CompositionRole
  capabilityClaim : String
  assessmentRequirements : CapabilityEvidenceAssessmentRequirements
  evidence : List CapabilityEvidence := []
  /-- Evidence stands once each, in order. -/
  evidence_canonical : canonical CapabilityEvidence.key evidence = evidence
  /-- Requirements and evidence are on the claim. -/
  claims_exact : assessmentRequirements.capabilityClaim = capabilityClaim ∧
    ∀ item ∈ evidence, item.capabilityClaim = capabilityClaim

/-- Whether a graph may leave its phase. -/
inductive GraphReadinessStatus where
  | ready
  | blocked
  deriving DecidableEq, Repr

/-- The readiness of a graph. -/
structure GraphReadinessResult where
  graphId : String
  requestId : String
  workloadId : String
  sessionId : String
  status : GraphReadinessStatus

/-- The artifacts of the earlier phases are of one request, and may be built on. -/
structure UpstreamConsistent (intelligenceResult : WorkloadIntelligencePipelineResult)
    (graph : ExecutionGraph) (readinessResult : GraphReadinessResult) : Prop where
  /-- The intelligence pipeline did not fail. -/
  not_failed : intelligenceResult.status ≠ .fail
  /-- The graph is ready. -/
  ready : readinessResult.status = .ready
  /-- The graph is of the request. -/
  graph_identity : (graph.requestId, graph.workloadId, graph.sessionId) =
    (intelligenceResult.requestId, intelligenceResult.workloadId, intelligenceResult.sessionId)
  /-- The readiness is of the request. -/
  readiness_identity :
    (readinessResult.requestId, readinessResult.workloadId, readinessResult.sessionId) =
      (intelligenceResult.requestId, intelligenceResult.workloadId, intelligenceResult.sessionId)
  /-- The readiness is of the graph. -/
  readiness_graph : readinessResult.graphId = graph.graphId

/-- The artifacts of the earlier phases are consistent, and the graph is of the workload. -/
structure UpstreamCertified (intelligenceResult : WorkloadIntelligencePipelineResult)
    (graph : ExecutionGraph) (readinessResult : GraphReadinessResult) : Prop
    extends UpstreamConsistent intelligenceResult graph readinessResult where
  /-- The graph keeps the profile. -/
  profile_preserved : graph.intelligenceProfile = intelligenceResult.profile

/-- A request for compositions. -/
structure CompositionInstantiationRequest where
  intelligenceResult : WorkloadIntelligencePipelineResult
  graph : ExecutionGraph
  readinessResult : GraphReadinessResult
  registry : ModelCapabilityRegistry
  roleRequirements : List CompositionRoleRequirement := []
  evidenceConstraints : List CompositionEvidenceConstraint := []
  compositionRequired : Bool := false
  /-- Roles have at most one explicit requirement. -/
  roles_nodup : (roleRequirements.map CompositionRoleRequirement.role).Nodup := by simp
  /-- Role requirements stand in the order of their roles. -/
  roles_sorted : sortOn (fun item => item.role.value) roleRequirements = roleRequirements := by rfl
  /-- A role has at most one constraint for a claim. -/
  constraints_nodup :
    (evidenceConstraints.map fun item => (item.role, item.capabilityClaim)).Nodup := by simp
  /-- Constraints stand in the order of their roles and claims. -/
  constraints_sorted : sortOn (fun item => toLex (item.role.value, item.capabilityClaim))
    evidenceConstraints = evidenceConstraints := by rfl
  /-- The artifacts of the earlier phases are certified. -/
  upstream_certified : UpstreamCertified intelligenceResult graph readinessResult

theorem phase2_nonblank : Text.Nonblank "phase2" := by decide

theorem phase3_nonblank : Text.Nonblank "phase3" := by decide

theorem phase4_nonblank : Text.Nonblank "phase4" := by decide

namespace CompositionInstantiationRequest

variable (request : CompositionInstantiationRequest)

theorem requestId_nonblank : Text.Nonblank request.intelligenceResult.requestId :=
  request.intelligenceResult.identity_nonblank _ (by simp)

theorem graphId_nonblank : Text.Nonblank request.graph.graphId :=
  request.graph.texts_nonblank _ (by simp)

/-- The workload profile. -/
def profile : WorkloadIntelligenceProfile :=
  request.intelligenceResult.profile.get
    (request.intelligenceResult.complete request.upstream_certified.not_failed).2.1

/-- The workload signals. -/
def signals : WorkloadSignals :=
  request.intelligenceResult.signals.get
    (request.intelligenceResult.complete request.upstream_certified.not_failed).1

end CompositionInstantiationRequest

/-! ## Modalities -/

/-- The modalities of a model that explicit texts name. -/
def explicitModelModalities (texts : List String) : List ModelModality :=
  texts.flatMap fun explicit =>
    match ModelModality.ofValue explicit with
    | some modality => [modality]
    | none => if explicit = WorkloadModality.code.value then [.text] else []

/-- The modalities of a model that a modality of a workload stands for. -/
def modelModalities (signals : WorkloadSignals) : WorkloadModality → List ModelModality
  | .multimodal => explicitModelModalities signals.explicitModalities
  | .code => [.text]
  | .text => [.text]
  | .image => [.image]
  | .audio => [.audio]
  | .video => [.video]
  | .structuredData => [.structuredData]

/-- The modalities that the models of a request take in. -/
def phase4Modalities (request : CompositionInstantiationRequest) :
    Except Fault (CanonicalTuple ModelModality ModelModality.value) :=
  let values := request.profile.modalities.items.flatMap (modelModalities request.signals)
  if nonempty : values ≠ [] then .ok (.of ModelModality.value values nonempty)
  else .error (.value "workload modalities cannot be mapped to Phase 4 contracts")

/-! ## Derived requirements -/

/-- The artifact that a role takes in. -/
def inputArtifact (role : CompositionRole)
    (modalities : CanonicalTuple ModelModality ModelModality.value) :
    CompositionArtifactContract where
  artifactId := role.value ++ "-input"
  modalities := modalities
  requiresStructuredOutput := false
  evidence := .of id ["derived from certified Phase 2 modality and Phase 3 graph contracts"]
    (List.cons_ne_nil _ _)
  artifactId_nonblank := Text.nonblank_append_right _ (by decide)
  evidence_nonblank := by decide

/-- The artifact that a role gives out. -/
def outputArtifact (role : CompositionRole) (structuredOutput : Bool) :
    CompositionArtifactContract where
  artifactId := role.value ++ "-output"
  modalities := .of ModelModality.value [.text] (List.cons_ne_nil _ _)
  requiresStructuredOutput := structuredOutput
  evidence := .of id ["derived from certified Phase 2 output and Phase 3 graph contracts"]
    (List.cons_ne_nil _ _)
  artifactId_nonblank := Text.nonblank_append_right _ (by decide)
  evidence_nonblank := by decide

/-- The artifacts that a role takes in and gives out. -/
def artifactContracts (role : CompositionRole)
    (modalities : CanonicalTuple ModelModality ModelModality.value) (structuredOutput : Bool) :
    ArtifactTuple × ArtifactTuple :=
  (.single (inputArtifact role modalities), .single (outputArtifact role structuredOutput))

/-- The capabilities that other roles than the primary provide. -/
def delegatedCapabilities : List ComputationalCapability := [.retrieval, .toolUse, .codeExecution]

/-- The capabilities that the profile and the graph require. -/
def requiredCapabilities (request : CompositionInstantiationRequest) :
    List ComputationalCapability :=
  request.profile.requiredCapabilities.items ++
    request.graph.nodes.flatMap fun graphNode => graphNode.requiredCapabilities.items

/-- The capabilities that a role of a pattern has to provide. -/
def derivedCapabilities (required : List ComputationalCapability)
    (pattern : CertifiedCompositionPattern) (role : CompositionRole) :
    Except Fault (List ComputationalCapability) :=
  let specialized := pattern.topology ≠ .single
  let capabilities := if specialized ∧ role = .primary then
      required.filter fun capability => capability ∉ delegatedCapabilities
    else required
  match role with
  | .retrievalAugmenter => .ok [.retrieval]
  | .toolModel =>
      let tools := capabilities.filter fun capability => capability ∈ [.toolUse, .codeExecution]
      .ok (if tools = [] then [.toolUse] else tools)
  | .verifier => .ok (capabilities.filter fun capability => capability ∉ delegatedCapabilities)
  | .specialist | .critic => .error (.value s!"{role.value} requires an explicit role requirement")
  | .primary => .ok capabilities

/-- The kinds of reasoning that capabilities ask for. -/
def derivedReasoning (complexity : ReasoningComplexity)
    (capabilities : List ComputationalCapability) : List ReasoningCapability :=
  if .reasoning ∈ capabilities then
    .general :: if complexity ∈ [.high, .deep] then [.multiStep] else []
  else []

/-- The modalities that a role has to give out. -/
def requiredOutput (structured : Bool) : List ModelModality :=
  if structured then [.structuredData] else [.text]

/-- The ids of derived requirements. -/
def derivedRequirementIds (capabilities : List ComputationalCapability)
    (modalities output : List ModelModality) : List String :=
  capabilities.map (fun item => "capability:" ++ item.value) ++
    modalities.map (fun item => "input:" ++ item.value) ++
    output.map fun item => "output:" ++ item.value

/-- A reference with a fixed phase and reason. -/
def provenanceReference (sourcePhase artifactId evidence : String)
    (phase : Text.Nonblank sourcePhase) (artifact : Text.Nonblank artifactId)
    (reason : Text.Nonblank evidence) : CompositionProvenanceReference where
  sourcePhase := sourcePhase
  artifactId := artifactId
  evidence := evidence
  texts_nonblank := by simp [phase, artifact, reason]

/-- The derived requirements on a role that provides the given capabilities. -/
def roleRequirementOf (request : CompositionInstantiationRequest) (role : CompositionRole)
    (modalities : CanonicalTuple ModelModality ModelModality.value)
    (capabilities : List ComputationalCapability) : CompositionRoleRequirement :=
  let structured : Bool := .structuredOutput ∈ capabilities
  let codeTool : Bool := .codeExecution ∈ capabilities
  let ids := derivedRequirementIds capabilities modalities.items (requiredOutput structured)
  { role := role
    requirementIds := .of id ids (by simp [ids, derivedRequirementIds, modalities.nonempty])
    requirements :=
      { requiredInputModalities := modalities.items
        requiredOutputModalities := requiredOutput structured
        requiredReasoningCapabilities := canonical ReasoningCapability.value
          (derivedReasoning request.profile.reasoningComplexity capabilities)
        requiresToolUse := .toolUse ∈ capabilities || role = .toolModel
        requiresRetrieval := .retrieval ∈ capabilities
        requiresCodeUnderstanding := codeTool
        requiresStructuredToolArguments := codeTool
        requiresToolResultConsumption := codeTool
        requiresJsonOutput := structured
        requiresSchemaConstrainedOutput := structured
        evidence := .of id ["deterministic " ++ role.value ++
          " requirements derived from certified Phase 2/3 contracts"] (List.cons_ne_nil _ _)
        modalities_canonical := by
          intro listed member
          rcases List.mem_pair.mp member with rfl | rfl
          · exact modalities.canonical_eq
          · cases structured <;> rfl
        reasoning_canonical := canonical_canonical _ _
        evidence_nonblank := by
          intro text member
          rw [CanonicalTuple.mem_of, List.mem_singleton] at member
          exact member ▸ Text.nonblank_append_right _ (by decide) }
    inputArtifacts := (artifactContracts role modalities structured).1
    outputArtifacts := (artifactContracts role modalities structured).2
    provenance := .of CompositionProvenanceReference.key [
      provenanceReference "phase2" request.intelligenceResult.requestId
        "requirements derived from certified workload intelligence" phase2_nonblank
        request.requestId_nonblank (by decide),
      provenanceReference "phase3" request.graph.graphId
        "requirements derived from certified logical graph" phase3_nonblank
        request.graphId_nonblank (by decide)] (List.cons_ne_nil _ _)
    requirementIds_nonblank := by
      intro text member
      rw [CanonicalTuple.mem_of] at member
      simp only [ids, derivedRequirementIds, List.mem_append, List.mem_map] at member
      rcases member with (⟨_, _, rfl⟩ | ⟨_, _, rfl⟩) | ⟨_, _, rfl⟩
      all_goals exact Text.nonblank_append_left (by decide) _ }

/-- The requirements on a role that the request does not state. -/
def derivedRoleRequirement (request : CompositionInstantiationRequest)
    (pattern : CertifiedCompositionPattern) (role : CompositionRole) :
    Except Fault CompositionRoleRequirement := do
  let modalities ← phase4Modalities request
  let capabilities ← derivedCapabilities (requiredCapabilities request) pattern role
  return roleRequirementOf request role modalities capabilities

/-- The requirements on a role of a pattern. -/
def roleRequirement (request : CompositionInstantiationRequest)
    (pattern : CertifiedCompositionPattern) (role : CompositionRole) :
    Except Fault CompositionRoleRequirement :=
  match (Dict.indexed CompositionRoleRequirement.role request.roleRequirements).get? role with
  | some explicit => .ok explicit
  | none => derivedRoleRequirement request pattern role

/-- The roles of a pattern, each once, in the order of their first slots. -/
def rolesOf (pattern : CertifiedCompositionPattern) : List CompositionRole :=
  (pattern.slots.map PatternSlot.role).eraseDups

/-- The requirements on each role of a pattern. -/
def deriveRoleRequirements (request : CompositionInstantiationRequest)
    (pattern : CertifiedCompositionPattern) : Except Fault (List CompositionRoleRequirement) :=
  (rolesOf pattern).mapM (roleRequirement request pattern)

/-! ## Applicability -/

/-- Whether the pattern of a topology applies to a request. -/
def applies (request : CompositionInstantiationRequest) (topology : CertifiedTopology) : Bool :=
  let nodeTypes := request.graph.nodes.map ExecutionGraphNode.nodeType
  let explicitRoles := request.roleRequirements.map CompositionRoleRequirement.role
  match topology with
  | .single => !request.compositionRequired
  | .primaryVerifier => .validation ∈ nodeTypes
  | .primaryCritic => .critic ∈ explicitRoles
  | .primarySpecialistPrimary => .specialist ∈ explicitRoles
  | .primaryRetrievalPrimary => .retrieval ∈ nodeTypes
  | .primaryToolPrimary => .tool ∈ nodeTypes
  | .primarySpecialistVerifier => .specialist ∈ explicitRoles && .validation ∈ nodeTypes

/-- The patterns that apply to a request. -/
def applicablePatterns (request : CompositionInstantiationRequest) :
    List CertifiedCompositionPattern :=
  certifiedPatterns.filter fun pattern => applies request pattern.topology

end Composition
end MercuryX
