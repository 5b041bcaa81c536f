import MercuryX.Graph.Coverage
import MercuryX.Graph.Idempotence

/-!
# Readiness of logical graphs

The gate behind which a logical graph leaves its phase. The gate validates the graph again, so a
verdict that was supplied opens it only for a graph that is sound, and it compares the graph of a
supplied transformation with the graph itself.
-/

namespace MercuryX
namespace Graph

open Foundation
open Intelligence

/-! ## Contracts -/

/-- The verdict of the gate. -/
inductive GraphReadinessStatus where
  | ready
  | blocked
  deriving DecidableEq, Repr

/-- Why a graph is blocked. -/
structure GraphReadinessIssue where
  invariant : String
  reason : String
  affectedArtifact : Option String := none
  /-- Invariant and reason are nonblank. -/
  texts_nonblank : ∀ text ∈ [invariant, reason], Text.Nonblank text

instance : DecidableEq GraphReadinessIssue := fun left right =>
  decidable_of_iff (left.invariant = right.invariant ∧ left.reason = right.reason ∧
      left.affectedArtifact = right.affectedArtifact) (by
    cases left
    cases right
    simp)

/-- Issues are ordered by invariant, artifact and reason. -/
def GraphReadinessIssue.key (issue : GraphReadinessIssue) : String ×ₗ String ×ₗ String :=
  toLex (issue.invariant, toLex (issue.affectedArtifact.getD "", issue.reason))

/-- The outcome of one check. -/
structure GraphReadinessEvidence where
  invariant : String
  passed : Bool
  reason : String
  /-- Invariant and reason are nonblank. -/
  texts_nonblank : ∀ text ∈ [invariant, reason], Text.Nonblank text

instance : DecidableEq GraphReadinessEvidence := fun left right =>
  decidable_of_iff (left.invariant = right.invariant ∧ left.passed = right.passed ∧
      left.reason = right.reason) (by
    cases left
    cases right
    simp)

/-- The result of the gate. -/
structure GraphReadinessResult where
  graphId : String
  requestId : String
  workloadId : String
  sessionId : String
  status : GraphReadinessStatus
  issues : List GraphReadinessIssue
  evidence : CanonicalTuple GraphReadinessEvidence GraphReadinessEvidence.invariant
  /-- Issues stand once each, in order. -/
  issues_canonical : canonical GraphReadinessIssue.key issues = issues
  /-- A ready graph has no issue. -/
  ready_clear : status = .ready → issues = []

/-! ## The checks -/

/-- One check of the gate. -/
structure ReadinessCheck where
  invariant : String
  passed : Bool
  reason : String
  artifact : String
  /-- Invariant and reason are nonblank. -/
  texts_nonblank : ∀ text ∈ [invariant, reason], Text.Nonblank text := by decide

/-- The evidence that a check leaves. -/
def ReadinessCheck.evidence (check : ReadinessCheck) : GraphReadinessEvidence :=
  ⟨check.invariant, check.passed, check.reason, check.texts_nonblank⟩

/-- The issue of a check that fails. -/
def ReadinessCheck.issue (check : ReadinessCheck) : GraphReadinessIssue :=
  ⟨check.invariant, check.reason, some check.artifact, check.texts_nonblank⟩

/-- The fields that a logical graph must not expose. -/
def forbiddenFields : List String :=
  ["model_id", "provider", "model_family", "concrete_model", "cpu", "gpu", "accelerator",
    "hardware", "device", "host", "region", "placement", "scheduler_assignment",
    "runtime_process", "container", "pod", "precision", "migration", "speculative_execution",
    "cost_optimization"]

/-- The fields of a graph. -/
def graphFields : List String :=
  ["graph_id", "request_id", "workload_id", "session_id", "nodes", "edges", "provenance",
    "intelligence_profile", "status", "version"]

/-- The fields of a node. -/
def nodeFields : List String :=
  ["node_id", "node_type", "purpose", "required_capabilities", "evidence", "input_references",
    "output_contract"]

/-- The fields of an edge. -/
def edgeFields : List String :=
  ["source_node_id", "target_node_id", "dependency_type", "evidence"]

/-- The fields of a transformation. -/
def transformationFields : List String := ["graph", "records", "changed"]

/-- The fields of the record of a transformation. -/
def recordFields : List String :=
  ["transformation_type", "affected_node_ids", "generated_node_ids", "reason", "changed"]

section Gate

variable (graph : ExecutionGraph) (validation : ExecutionGraphValidationResult)
  (transformation : Option ExecutionGraphTransformationResult)

/-- The fields of the artifacts at hand. -/
def artifactFields : List String :=
  graphFields ++ (graph.nodes.flatMap fun _ => nodeFields) ++
    (graph.edges.flatMap fun _ => edgeFields) ++
    match transformation with
    | none => []
    | some given => transformationFields ++ given.records.items.flatMap fun _ => recordFields

/-- The forbidden fields among those of the artifacts. -/
def leakedFields : List String :=
  canonical id (forbiddenFields.filter fun field => field ∈ artifactFields graph transformation)

/-- The identities are nonblank, and the validation is that of the graph. -/
def identityCheck : ReadinessCheck where
  invariant := "identity"
  passed := decide ((∀ text ∈ [graph.requestId, graph.workloadId, graph.sessionId, graph.graphId],
    Text.Nonblank text) ∧ validation.graphId = graph.graphId)
  reason := "graph and validation identities must be nonblank and consistent"
  artifact := "validation"

/-- The supplied validation passes, and so does the current one. -/
def validationCheck : ReadinessCheck where
  invariant := "semantic_validation"
  passed := decide (validation.status = .pass ∧ (validateExecutionGraph graph).status = .pass)
  reason := "supplied and current Task 3 semantic validation must PASS"
  artifact := "validation"

/-- The graph and its nodes have provenance. -/
def provenanceCheck : ReadinessCheck where
  invariant := "provenance"
  passed := decide (¬ MalformedEvidence graph.provenance ∧
    ∀ node ∈ graph.nodes, ¬ MalformedEvidence node.evidence)
  reason := "graph and logical nodes require nonblank provenance"
  artifact := "graph"

/-- A supplied transformation is one of the graph. -/
def transformationCheck : Option ExecutionGraphTransformationResult → ReadinessCheck
  | none =>
      { invariant := "transformation"
        passed := true
        reason := "no topology-changing transformation was supplied"
        artifact := "transformation" }
  | some given =>
      { invariant := "transformation"
        passed := decide (given.graph = graph ∧ given.records.items ≠ [] ∧ (given.changed = true →
          ∀ record ∈ given.records.items, Text.Nonblank record.reason))
        reason := "transformation artifact must preserve graph identity and nonblank records"
        artifact := "transformation" }

/-- No physical decision is exposed. -/
def boundaryCheck : ReadinessCheck where
  invariant := "phase_boundary"
  passed := decide (leakedFields graph transformation = [])
  reason := "logical graph must not expose physical execution decision fields"
  artifact := "graph"

/-- The checks of the gate, in order. -/
def readinessChecks : List ReadinessCheck :=
  [identityCheck graph validation, validationCheck graph validation, provenanceCheck graph,
    transformationCheck graph transformation, boundaryCheck graph transformation]

/-- The issues of the checks that fail. -/
def readinessIssues : List GraphReadinessIssue :=
  ((readinessChecks graph validation transformation).filter fun check => !check.passed).map
    ReadinessCheck.issue

/-- Determine whether a graph is ready. -/
def evaluateGraphReadiness : GraphReadinessResult where
  graphId := graph.graphId
  requestId := graph.requestId
  workloadId := graph.workloadId
  sessionId := graph.sessionId
  status := if readinessIssues graph validation transformation = [] then .ready else .blocked
  issues := canonical GraphReadinessIssue.key (readinessIssues graph validation transformation)
  evidence := .of GraphReadinessEvidence.invariant
    ((readinessChecks graph validation transformation).map ReadinessCheck.evidence)
    (List.cons_ne_nil _ _)
  issues_canonical := canonical_eq_self _ (canonical_nodup _ _) (canonical_pairwise _ _)
  ready_clear := by
    split
    · next none => simp [none, canonical, sortOn]
    · next some => exact fun ready => by contradiction

end Gate

/-! ## What opens the gate -/

section Exact

variable {graph : ExecutionGraph} {validation : ExecutionGraphValidationResult}
  {transformation : Option ExecutionGraphTransformationResult}

/-- None of the fields of logical artifacts is forbidden. -/
theorem leakedFields_eq_nil : leakedFields graph transformation = [] := by
  have logical : ∀ field ∈ graphFields ++ nodeFields ++ edgeFields ++ transformationFields ++
      recordFields, field ∉ forbiddenFields := by
    decide
  have inside : ∀ field ∈ artifactFields graph transformation, field ∈ graphFields ++ nodeFields ++
      edgeFields ++ transformationFields ++ recordFields := by
    intro field member
    simp only [artifactFields, List.mem_append, List.mem_flatMap] at member ⊢
    rcases member with (((isGraph | ⟨_, _, isNode⟩) | ⟨_, _, isEdge⟩) | isOther)
    · simp [isGraph]
    · simp [isNode]
    · simp [isEdge]
    · cases transformation with
      | none => contradiction
      | some given =>
          rcases List.mem_append.mp isOther with isResult | isRecord
          · simp [isResult]
          · obtain ⟨_, _, isRecord⟩ := List.mem_flatMap.mp isRecord
            simp [isRecord]
  have none : (forbiddenFields.filter fun field => field ∈ artifactFields graph transformation) =
      [] := by
    refine List.filter_eq_nil_iff.mpr fun field forbidden exposed => ?_
    exact logical field (inside field (of_decide_eq_true exposed)) forbidden
  rw [leakedFields, none]
  rfl

theorem identityCheck_passed : (identityCheck graph validation).passed = true ↔
    validation.graphId = graph.graphId := by
  refine decide_eq_true_iff.trans (and_iff_right fun text member => ?_)
  refine graph.texts_nonblank text ?_
  simp only [List.mem_cons, List.not_mem_nil, or_false] at member ⊢
  tauto

theorem provenanceCheck_passed : (provenanceCheck graph).passed = true :=
  decide_eq_true ⟨not_malformedEvidence _, fun _ _ => not_malformedEvidence _⟩

theorem transformationCheck_passed : (transformationCheck graph transformation).passed = true ↔
    ∀ given, transformation = some given → given.graph = graph := by
  cases transformation with
  | none => simp [transformationCheck]
  | some given =>
      simp only [Option.some.injEq, forall_eq']
      refine decide_eq_true_iff.trans (and_iff_left ⟨given.records.nonempty, fun _ record _ => ?_⟩)
      exact record.reason_nonblank

/-- The gate is open exactly for a sound graph, under a passing verdict on it, and with no
transformation but one that left it as it is. -/
theorem evaluateGraphReadiness_ready_iff :
    (evaluateGraphReadiness graph validation transformation).status = .ready ↔
      (validation.graphId = graph.graphId ∧ validation.status = .pass) ∧ Sound graph ∧
        ∀ given, transformation = some given → given.graph = graph := by
  have open_iff : (evaluateGraphReadiness graph validation transformation).status = .ready ↔
      readinessIssues graph validation transformation = [] := by
    rw [evaluateGraphReadiness]
    split <;> simp [*]
  have boundary : (boundaryCheck graph transformation).passed = true :=
    decide_eq_true leakedFields_eq_nil
  have validated : (validationCheck graph validation).passed = true ↔
      validation.status = .pass ∧ Sound graph := by
    rw [← validate_pass_iff]
    exact decide_eq_true_iff
  rw [open_iff, readinessIssues, List.map_eq_nil_iff, List.filter_eq_nil_iff]
  simp only [readinessChecks, List.forall_mem_cons, Bool.not_eq_true', Bool.not_eq_false,
    identityCheck_passed, validated, provenanceCheck_passed, transformationCheck_passed, boundary,
    true_and, List.not_mem_nil, false_implies, implies_true, and_true]
  constructor
  · rintro ⟨same, ⟨passes, sound⟩, kept⟩
    exact ⟨⟨same, passes⟩, sound, kept⟩
  · rintro ⟨⟨same, passes⟩, sound, kept⟩
    exact ⟨same, ⟨passes, sound⟩, kept⟩

theorem ready_validated_iff :
    (evaluateGraphReadiness graph (validateExecutionGraph graph) transformation).status = .ready ↔
      Sound graph ∧ ∀ given, transformation = some given → given.graph = graph := by
  rw [evaluateGraphReadiness_ready_iff, validate_pass_iff]
  exact ⟨fun ⟨_, rest⟩ => rest, fun ⟨sound, kept⟩ => ⟨⟨rfl, sound⟩, sound, kept⟩⟩

end Exact

/-! ## The gate after a transformation -/

section Transformed

variable {graph : ExecutionGraph} {result : ExecutionGraphTransformationResult}

theorem graph_ne_of_changed (transformed : transformExecutionGraph graph = .ok result)
    (changed : result.changed = true) : result.graph ≠ graph := by
  intro same
  obtain ⟨_, rewrite, inserted, outcome⟩ := transforms_cases transformed
  obtain ⟨records, created, _⟩ := outcome.resolve_left fun unchanged =>
    Bool.false_ne_true (unchanged.2.2.symm.trans changed)
  have kept {node : ExecutionGraphNode} (member : node ∈ rewrite.nodes) :
      node.nodeId ∈ graph.nodeIds := by
    obtain ⟨acceptable, built⟩ := ExecutionGraphDraft.create_eq_ok_iff.mp created
    refine List.mem_map_of_mem ?_
    rw [← same, ← built]
    exact (mem_sortOn _).mpr member
  cases chosen : decomposedNode graph with
  | some original =>
      -- the stages of a decomposed node have ids of their own
      have isStage : firstStage original ∈ (decomposeReasoning graph).nodes := by
        simp [decomposeReasoning, chosen, decompose]
      exact (stagesFresh_of_transforms transformed original chosen).1
        (kept ((insertAggregate_extends inserted).1.subset isStage))
  | none =>
      have rewritten : decomposeReasoning graph = ⟨graph.nodes, graph.edges, []⟩ := by
        simp [decomposeReasoning, chosen]
      rw [rewritten] at inserted
      cases joined : joinToWrap graph.nodes graph.edges with
      | none =>
          rw [insertAggregate_of_none joined, Except.ok.injEq] at inserted
          exact records (inserted ▸ rfl)
      | some target =>
          -- and so has the aggregate of a join
          obtain ⟨source, wrapped⟩ := @insertAggregate_of_some ⟨graph.nodes, graph.edges, []⟩ graph
            target (.refl _) (.refl _) joined
          obtain rfl := Except.ok.inj (wrapped.symm.trans inserted)
          have fresh := (needsAggregate_iff.mp (joinToWrap_eq_some joined).2.1).2.2.2
          exact fresh (kept (List.mem_append_right _ (List.mem_singleton_self _)))

theorem result_graph_eq_iff (transformed : transformExecutionGraph graph = .ok result) :
    result.graph = graph ↔ IsNormal graph := by
  constructor
  · intro same
    refine ⟨result, transformed, ?_, same⟩
    rw [Bool.eq_false_iff]
    exact fun changed => graph_ne_of_changed transformed changed same
  · rintro ⟨other, outcome, _, same⟩
    rwa [← Except.ok.inj (outcome.symm.trans transformed)]

end Transformed

/-! ## The gate after the builder -/

/-- At most one link of a chain leads to a stage. -/
theorem eq_of_target_chainEdges {nodes : List ExecutionGraphNode} (unique : (nodeIdsOf nodes).Nodup)
    {left right : ExecutionGraphEdge} (isLeft : left ∈ chainEdges nodes)
    (isRight : right ∈ chainEdges nodes) (same : left.targetNodeId = right.targetNodeId) :
    left = right := by
  induction nodes with
  | nil => contradiction
  | cons first rest induction =>
      cases rest with
      | nil => contradiction
      | cons second rest =>
          obtain ⟨_, later⟩ := List.nodup_cons.mp unique
          have onward {edge : ExecutionGraphEdge} (isEdge : edge ∈ chainEdges (second :: rest)) :
              edge.targetNodeId ≠ second.nodeId := by
            obtain ⟨⟨source, target⟩, isPair, rfl⟩ := List.mem_map.mp isEdge
            have inside : target ∈ rest := (List.of_mem_zip isPair).2
            exact fun back => (List.nodup_cons.mp later).1 (back ▸ List.mem_map_of_mem inside)
          rw [chainEdges_cons_cons, List.mem_cons] at isLeft isRight
          rcases isLeft with rfl | isLeft <;> rcases isRight with rfl | isRight
          · rfl
          · exact absurd same.symm (onward isRight)
          · exact absurd same (onward isLeft)
          · exact induction later isLeft isRight

section Built

variable {result : WorkloadIntelligencePipelineResult} {graph : ExecutionGraph}

/-- A chain has no join. -/
theorem IsChain.needsNoAggregate {first last : ExecutionGraphNode} {inner : List ExecutionGraphNode}
    (chain : IsChain graph first inner last) (nodeId : String) :
    needsAggregate graph.nodes graph.edges nodeId = false := by
  rw [Bool.eq_false_iff]
  intro needs
  obtain ⟨several, _⟩ := needsAggregate_iff.mp needs
  have unique : (incomingEdges graph.edges nodeId).Nodup := graph.edges_nodup.filter _
  have one : (incomingEdges graph.edges nodeId).toFinset.card ≤ 1 := by
    refine Finset.card_le_one.mpr fun left isLeft right isRight => ?_
    obtain ⟨leftEdge, leftTarget⟩ := mem_incomingEdges.mp (List.mem_toFinset.mp isLeft)
    obtain ⟨rightEdge, rightTarget⟩ := mem_incomingEdges.mp (List.mem_toFinset.mp isRight)
    exact eq_of_target_chainEdges chain.nodeIds_nodup ((chain.mem_edges left).mp leftEdge)
      ((chain.mem_edges right).mp rightEdge) (leftTarget.trans rightTarget.symm)
  rw [List.toFinset_card_of_nodup unique] at one
  omega

/-- The builder makes two reasoning stages where one would be decomposed. -/
theorem decomposedNode_created {profile : WorkloadIntelligenceProfile}
    {modality : WorkloadModality}
    (created : (graphDraft result profile modality).create = .ok graph) :
    decomposedNode graph = none := by
  rw [Option.eq_none_iff_forall_ne_some]
  intro original chosen
  obtain ⟨⟨own, given, deep⟩, only⟩ := decomposedNode_eq_some_iff.mp chosen
  obtain rfl := Option.some_inj.mp ((intelligenceProfile_of_create created).symm.trans given)
  have two : reasoningCount profile.requiredCapabilities profile.reasoningComplexity = 2 :=
    if_pos (decide_eq_true deep)
  have isOnly (index : Nat) (lower : 1 ≤ index) (upper : index ≤ 2) :
      reasoningStage profile.requiredCapabilities index = original := by
    have asked : reasoningStage profile.requiredCapabilities index ∈ reasoningStages
        profile.requiredCapabilities profile.reasoningComplexity :=
      mem_reasoningStages.mpr ⟨index, lower, two ▸ upper, rfl⟩
    have requested : reasoningStage profile.requiredCapabilities index ∈ requestedStages
        profile.requiredCapabilities modality profile.reasoningComplexity :=
      List.mem_append_right _ asked
    have isStage : reasoningStage profile.requiredCapabilities index ∈ stages
        profile.requiredCapabilities modality profile.reasoningComplexity := by
      have processing := mem_processingStages.mpr (.inl requested)
      simp only [stages, innerStages, List.mem_append, List.mem_cons]
      exact .inl (.inr (.inl processing))
    have kept : reasoningStage profile.requiredCapabilities index ∈
        graph.nodes.filter fun node => node.nodeType = .reasoning :=
      List.mem_filter.mpr ⟨(mem_nodes_iff created).mpr isStage, decide_eq_true rfl⟩
    rw [only] at kept
    exact List.mem_singleton.mp kept
  have alike := (isOnly 1 le_rfl (by decide)).trans (isOnly 2 (by decide) le_rfl).symm
  have same : "node-reasoning-" ++ toString 1 = "node-reasoning-" ++ toString 2 :=
    congrArg ExecutionGraphNode.nodeId alike
  exact absurd same (by decide)

theorem isNormal_of_built {profile : WorkloadIntelligenceProfile}
    (given : result.profile = some profile) (built : buildExecutionGraph result = .ok graph)
    (passes : (validateExecutionGraph graph).status = .pass) : IsNormal graph := by
  obtain ⟨modality, _, created⟩ := buildExecutionGraph_eq_ok given built
  exact (isNormal_iff passes (decomposedNode_created created)).mpr fun node _ =>
    (isChain_of_create created).needsNoAggregate node.nodeId

end Built

/-! ## The laws of the gate -/

/-- What the gate promises of a graph. -/
structure ReadinessLaw (graph : ExecutionGraph) : Prop where
  /-- Whatever verdict and transformation are supplied, the graph is ready exactly when it is sound,
  the verdict is a passing one on it, and the transformation left it as it is. -/
  exact : ∀ validation transformation,
    (evaluateGraphReadiness graph validation transformation).status = .ready ↔
      (validation.graphId = graph.graphId ∧ validation.status = .pass) ∧ Sound graph ∧
        ∀ given, transformation = some given → given.graph = graph
  /-- A check fails exactly when there is an issue under its name. -/
  reported : ∀ validation transformation,
    ∀ outcome ∈ (evaluateGraphReadiness graph validation transformation).evidence.items,
      outcome.passed = false ↔
        ∃ issue ∈ (evaluateGraphReadiness graph validation transformation).issues,
          issue.invariant = outcome.invariant
  /-- What a transformation returns is ready with it. -/
  transformed : ∀ result, transformExecutionGraph graph = .ok result →
    (evaluateGraphReadiness result.graph (validateExecutionGraph result.graph)
      (some result)).status = .ready
  /-- The graph itself is ready with its transformation exactly when it needed none. -/
  original : ∀ result, transformExecutionGraph graph = .ok result →
    ((evaluateGraphReadiness graph (validateExecutionGraph graph) (some result)).status = .ready ↔
      IsNormal graph)

theorem readinessChecks_names (graph : ExecutionGraph) (validation : ExecutionGraphValidationResult)
    (transformation : Option ExecutionGraphTransformationResult) :
    (readinessChecks graph validation transformation).map ReadinessCheck.invariant =
      ["identity", "semantic_validation", "provenance", "transformation", "phase_boundary"] := by
  cases transformation <;> rfl

/-- The gate keeps its promises of every graph. -/
theorem readinessLaw (graph : ExecutionGraph) : ReadinessLaw graph := by
  constructor
  case exact => exact fun _ _ => evaluateGraphReadiness_ready_iff
  case reported =>
    intro validation transformation outcome member
    have names : ((readinessChecks graph validation transformation).map
        ReadinessCheck.invariant).Nodup := by
      rw [readinessChecks_names]
      decide
    obtain ⟨check, isCheck, rfl⟩ := List.mem_map.mp ((mem_canonical _).mp member)
    have issues (issue : GraphReadinessIssue) :
        issue ∈ (evaluateGraphReadiness graph validation transformation).issues ↔
          ∃ failed ∈ readinessChecks graph validation transformation,
            failed.passed = false ∧ failed.issue = issue := by
      simp only [evaluateGraphReadiness, mem_canonical, readinessIssues, List.mem_map,
        List.mem_filter, Bool.not_eq_true', and_assoc]
    constructor
    · intro failed
      exact ⟨check.issue, (issues _).mpr ⟨check, isCheck, failed, rfl⟩, rfl⟩
    · rintro ⟨issue, listed, same⟩
      obtain ⟨other, isOther, failed, rfl⟩ := (issues _).mp listed
      rwa [List.inj_on_of_nodup_map names isOther isCheck same] at failed
  case transformed =>
    intro result transformed
    refine ready_validated_iff.mpr ⟨validate_pass_iff.mp ?_, fun given same => ?_⟩
    · obtain ⟨passes, _, _, outcome⟩ := transforms_cases transformed
      rcases outcome with ⟨_, same, _⟩ | ⟨_, _, sound, _⟩
      · rwa [same]
      · exact sound
    · rw [Option.some_inj.mp same]
  case original =>
    intro result transformed
    rw [ready_validated_iff, ← result_graph_eq_iff transformed]
    simp only [Option.some.injEq, forall_eq']
    exact and_iff_right (validate_pass_iff.mp (transforms_cases transformed).1)

/-- What holds of the way of a request from its signals through the builder to the gate. -/
structure GraphPhaseLaw (signals : WorkloadSignals) (graph : ExecutionGraph) : Prop where
  /-- A workload that is not structured data alone is ready, with and without its transformation,
  which leaves the graph as it was built. -/
  ready : signals.explicitModalities ≠ ["structured_data"] →
    (evaluateGraphReadiness graph (validateExecutionGraph graph) none).status = .ready ∧
      ∃ result, transformExecutionGraph graph = .ok result ∧ result.graph = graph ∧
        result.changed = false ∧
          (evaluateGraphReadiness graph (validateExecutionGraph graph) (some result)).status =
            .ready
  /-- Structured data alone is not transformed, and is blocked under every verdict. -/
  blocked : signals.explicitModalities = ["structured_data"] →
    (∀ result, transformExecutionGraph graph ≠ .ok result) ∧
      ∀ validation transformation,
        (evaluateGraphReadiness graph validation transformation).status = .blocked

/-- The law holds of every request that is analysed and built into a graph. -/
theorem graphPhaseLaw {signals : WorkloadSignals} {result : WorkloadIntelligencePipelineResult}
    {graph : ExecutionGraph} (analyzed : analyzeSignals signals = .ok result)
    (built : buildExecutionGraph result = .ok graph) : GraphPhaseLaw signals graph := by
  obtain ⟨profile, inferred, staged⟩ := bind_eq_ok.mp analyzed
  obtain ⟨_, given, _, _⟩ := fromStages_eq_ok staged
  have supported := validate_inferred_iff inferred given built
  constructor
  case ready =>
    intro other
    have passes := supported.mpr other
    have sound := validate_pass_iff.mp passes
    obtain ⟨transformation, transformed, unchanged, same⟩ := isNormal_of_built given built passes
    have plain : ∀ given : ExecutionGraphTransformationResult, none = some given →
        given.graph = graph := by
      simp
    have kept : ∀ given, some transformation = some given → given.graph = graph := by
      rintro _ ⟨⟩
      exact same
    exact ⟨ready_validated_iff.mpr ⟨sound, plain⟩, transformation, transformed, same, unchanged,
      ready_validated_iff.mpr ⟨sound, kept⟩⟩
  case blocked =>
    intro structured
    have fails : ¬ Sound graph := fun sound =>
      supported.mp (validate_pass_iff.mpr sound) structured
    refine ⟨fun transformation transformed =>
      fails (validate_pass_iff.mp (transforms_cases transformed).1),
      fun verdict transformation => ?_⟩
    cases outcome : (evaluateGraphReadiness graph verdict transformation).status with
    | blocked => rfl
    | ready => exact absurd (evaluateGraphReadiness_ready_iff.mp outcome).2.1 fails

/-- The law of a workload of text. -/
theorem graphPhaseLaw_text : ∃ result graph,
    analyzeSignals (plainSignals "text" none) = .ok result ∧
      buildExecutionGraph result = .ok graph ∧
        GraphPhaseLaw (plainSignals "text" none) graph := by
  have inferred : inferWorkloadIntelligence (plainSignals "text" none) =
      .ok (inferredProfile (plainSignals "text" none) .text .restricted) := rfl
  obtain ⟨result, graph, analyzed, _, built⟩ := exists_built_of_inferred inferred (by decide)
  exact ⟨result, graph, analyzed, built, graphPhaseLaw analyzed built⟩

end Graph
end MercuryX
