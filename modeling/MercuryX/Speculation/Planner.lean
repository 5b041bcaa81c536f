import MercuryX.Placement.Predictions
import MercuryX.Speculation.Contracts

/-!
# Planning a speculation

A speculation is planned on the placement candidates of a segment that is ready. Every candidate
with a typed context has to come with the path and the prediction that it was placed by, and the
plan records what each of them comes from. Neither the order of the candidates nor that of their
paths and predictions enters the plan.
-/

namespace MercuryX
namespace Speculation

open Foundation
open DisaggregatedExecution (ExecutionSegment)
open Placement (PlacementCandidate PlacementPrediction)
open MercuryX.Topology (PathResult)

/-! ## Dumps -/

/-- The text of a confidence band. -/
def bandValue : Placement.PlacementConfidenceBand → String
  | .low => "LOW"
  | .medium => "MEDIUM"
  | .high => "HIGH"

/-- The dump of a segment. -/
def segmentDump (segment : ExecutionSegment) : Json := .obj [
  ("segment_id", .str segment.segmentId), ("execution_plan_id", .str segment.executionPlanId),
  ("namespace_type", .str segment.namespaceType.value), ("namespace_id", .str segment.namespaceId),
  ("segment_type", .str segment.segmentType.value),
  ("input_artifact_ids", Json.strs segment.inputArtifactIds),
  ("output_contract_id", .str segment.outputContractId),
  ("model_requirement_id", Json.optStr segment.modelRequirementId),
  ("context_requirement_id", Json.optStr segment.contextRequirementId),
  ("kv_requirement_id", Json.optStr segment.kvRequirementId),
  ("dependency_segment_ids", Json.strs segment.dependencySegmentIds),
  ("required_handoff_ids", Json.strs segment.requiredHandoffIds),
  ("produced_handoff_ids", Json.strs segment.producedHandoffIds),
  ("handoff_policy_id", .str segment.handoffPolicyId),
  ("retry_policy_id", .str segment.retryPolicyId),
  ("verification_policy_id", .str segment.verificationPolicyId),
  ("creation_sequence", .int segment.creationSequence),
  ("execution_state", .str segment.executionState.value)]

/-- The dump of a candidate. -/
def candidateDump (candidate : PlacementCandidate) : Json := .obj [
  ("candidate_id", .str candidate.candidateId), ("segment_id", .str candidate.segmentId),
  ("topology_node_id", .str candidate.topologyNodeId),
  ("hardware_profile_id", .str candidate.hardwareProfileId), ("eligible", .bool candidate.eligible),
  ("reason_codes", Json.strs candidate.reasonCodes),
  ("topology_graph_id", Json.optStr candidate.topologyGraphId),
  ("topology_generation", Json.optInt candidate.topologyGeneration),
  ("hardware_profile_generation", Json.optInt candidate.hardwareProfileGeneration),
  ("hardware_profile_fingerprint", Json.optStr candidate.hardwareProfileFingerprint),
  ("path_result_id", Json.optStr candidate.pathResultId),
  ("path_result_fingerprint", Json.optStr candidate.pathResultFingerprint),
  ("evidence_ids", Json.strs candidate.evidenceIds)]

/-- The dump of a prediction. -/
def predictionDump (prediction : PlacementPrediction) : Json := .obj [
  ("prediction_id", .str prediction.predictionId), ("candidate_id", .str prediction.candidateId),
  ("raw_score", .float prediction.rawScore),
  ("confidence_band", .str (bandValue prediction.confidenceBand)),
  ("calibration_state", .str prediction.calibrationState.value),
  ("reason_codes", Json.strs prediction.reasonCodes), ("backend_id", .str prediction.backendId),
  ("backend_version", .str prediction.backendVersion),
  ("backend_kind", .str prediction.backendKind.value),
  ("uncertainty", .float prediction.uncertainty),
  ("calibration_artifact_id", Json.optStr prediction.calibrationArtifactId),
  ("calibration_dataset_id", Json.optStr prediction.calibrationDatasetId),
  ("evidence_ids", Json.strs prediction.evidenceIds),
  ("operating_domain", .str prediction.operatingDomain),
  ("artifact_version", Json.optStr prediction.artifactVersion),
  ("hardware_profile_generation", Json.optInt prediction.hardwareProfileGeneration),
  ("topology_generation", Json.optInt prediction.topologyGeneration)]

/-! ## The planner -/

/-- The arguments of the planner. -/
structure PlanCall where
  maxBranches : Int
  sourceSegmentId : Option String := none
  candidateIds : Option (List String) := none
  sourceSegment : Option ExecutionSegment := none
  placementCandidates : Option (List PlacementCandidate) := none
  verificationPolicyId : String := "verify"
  commitPolicyId : String := "first_verified"
  cancellationPolicyId : String := "cancel_losers"
  placementPredictions : List PlacementPrediction := []
  pathResults : List PathResult := []

namespace PlanCall

/-- The predictions by candidate. -/
def predictionsById (call : PlanCall) : Dict String PlacementPrediction :=
  .indexed PlacementPrediction.candidateId call.placementPredictions

/-- The paths by their ids. -/
def pathsById (call : PlanCall) : Dict String PathResult :=
  .indexed PathResult.pathResultId call.pathResults

end PlanCall

variable (digest : Digest)

/-- The fingerprint of a candidate. -/
def candidateFingerprint (candidate : PlacementCandidate) : String :=
  digest.hexdigest (.obj [("placement_candidate", candidateDump candidate)])

/-- A plan that is addressed by its fields. -/
def sealedPlan (values : SpeculationPlan) : SpeculationPlan :=
  let fingerprint := digest.hexdigest values.payload
  { values with
    speculationPlanId := digest.hexdigest (.obj [("plan", .str fingerprint)])
    fingerprint := fingerprint }

/-- Address a plan and validate it. -/
def sealPlan (values : SpeculationPlan) : Except Fault SpeculationPlan := do
  (sealedPlan digest values).validate digest
  return sealedPlan digest values

/-- A path is the one that a candidate records. -/
def RecordedPath (candidate : PlacementCandidate) (path : PathResult) : Prop :=
  some path.fingerprint = candidate.pathResultFingerprint ∧
    some path.fields.graphId = candidate.topologyGraphId ∧
    some path.fields.graphGeneration = candidate.topologyGeneration ∧
    path.fields.destinationNodeId = candidate.topologyNodeId

/-- A prediction was made on the generations that a candidate records. -/
def RecordedPrediction (candidate : PlacementCandidate) (prediction : PlacementPrediction) : Prop :=
  prediction.hardwareProfileGeneration = candidate.hardwareProfileGeneration ∧
    prediction.topologyGeneration = candidate.topologyGeneration

instance (candidate : PlacementCandidate) : DecidablePred (RecordedPath candidate) := fun _ =>
  inferInstanceAs (Decidable (_ ∧ _))

instance (candidate : PlacementCandidate) : DecidablePred (RecordedPrediction candidate) := fun _ =>
  inferInstanceAs (Decidable (_ ∧ _))

/-- The check of the path and the prediction of a candidate with a typed context. -/
def checkUpstream (call : PlanCall) (candidate : PlacementCandidate) : Except Fault Unit :=
  let pathResultId := candidate.pathResultId.getD ""
  match call.pathsById.get? pathResultId, call.predictionsById.get? candidate.candidateId with
  | none, _ => .error (.missingKey pathResultId)
  | _, none => .error (.missingKey candidate.candidateId)
  | some path, some prediction => do
      require (RecordedPath candidate path) (.value "foreign or stale path result")
      require (RecordedPrediction candidate prediction)
        (.value "placement prediction provenance mismatch")

/-- What a candidate comes from. Its typed context is complete, since it was constructed. -/
def upstreamOf (call : PlanCall) (candidate : PlacementCandidate) :
    SpeculationUpstreamProvenance where
  candidateId := candidate.candidateId
  candidateFingerprint := candidateFingerprint digest candidate
  hardwareProfileId := candidate.hardwareProfileId
  hardwareProfileGeneration := candidate.hardwareProfileGeneration.getD 0
  hardwareProfileFingerprint := candidate.hardwareProfileFingerprint.getD ""
  topologyGraphId := candidate.topologyGraphId.getD ""
  topologyGeneration := candidate.topologyGeneration.getD 0
  pathResultId := candidate.pathResultId.getD ""
  pathResultFingerprint := candidate.pathResultFingerprint.getD ""
  predictionId := (call.predictionsById.get? candidate.candidateId).map fun prediction =>
    prediction.predictionId
  predictionFingerprint := (call.predictionsById.get? candidate.candidateId).map fun prediction =>
    digest.hexdigest (.obj [("placement_prediction", predictionDump prediction)])

/-- A candidate has a typed context. -/
def Typed (candidate : PlacementCandidate) : Prop := candidate.pathResultId.isSome = true

instance : DecidablePred Typed := fun _ => inferInstanceAs (Decidable (_ = _))

/-- The fields of the plan for the candidates of a segment, in the order of their ids. -/
def plannedValues (call : PlanCall) (segment : ExecutionSegment)
    (candidates : List PlacementCandidate) : SpeculationPlan where
  speculationPlanId := ""
  sourceSegmentId := segment.segmentId
  placementCandidateIds := candidates.map PlacementCandidate.candidateId
  candidateFingerprints := candidates.map fun candidate =>
    (candidate.candidateId, candidateFingerprint digest candidate)
  maxBranches := call.maxBranches
  verificationPolicyId := call.verificationPolicyId
  commitPolicyId := call.commitPolicyId
  cancellationPolicyId := call.cancellationPolicyId
  fingerprint := ""
  sourceExecutionPlanId := some segment.executionPlanId
  namespaceType := some segment.namespaceType
  namespaceId := some segment.namespaceId
  sourceSegmentFingerprint :=
    some (digest.hexdigest (.obj [("execution_segment", segmentDump segment)]))
  upstreamProvenance := (candidates.filter fun candidate => Typed candidate).map
    (upstreamOf digest call)

/-- Plan on the candidates of a segment. -/
def typedPlan (call : PlanCall) (segment : ExecutionSegment) (given : List PlacementCandidate) :
    Except Fault SpeculationPlan := do
  require (call.sourceSegmentId = none ∧ call.candidateIds = none)
    (.value "typed plan inputs cannot mix with legacy identifiers")
  require (segment.executionState = .ready)
    (.value "speculation requires a READY Phase 12 segment")
  require (given ≠ []) (.value "placement candidates must be nonempty")
  let candidates ← given.mapM (PlacementCandidate.construct digest)
  require (∀ candidate ∈ candidates, candidate.eligible = true)
    (.value "speculation requires eligible Phase 15 candidates")
  require (∀ candidate ∈ candidates, candidate.segmentId = segment.segmentId)
    (.value "placement candidate segment does not match source segment")
  require (candidates.map PlacementCandidate.candidateId).Nodup
    (.value "duplicate placement candidate")
  let ordered := sortOn PlacementCandidate.candidateId candidates
  let ids := ordered.map PlacementCandidate.candidateId
  let predicted := call.predictionsById.keys
  require (predicted = [] ∨ predicted.toFinset = ids.toFinset)
    (.value "placement predictions must match candidate set")
  let typed := ordered.filter fun candidate => Typed candidate
  require (typed = [] ∨ predicted ≠ [] ∧ call.pathsById.keys.toFinset =
      (typed.map fun candidate => candidate.pathResultId.getD "").toFinset)
    (.value "typed candidates require exact path results and placement predictions")
  forEach (checkUpstream call) typed
  forEach (fun candidate => (upstreamOf digest call candidate).validate) typed
  sealPlan digest (plannedValues digest call segment ordered)

/-- The fields of a plan on bare identifiers. -/
def legacyValues (call : PlanCall) (segmentId : String) (ids : List String) : SpeculationPlan where
  speculationPlanId := ""
  sourceSegmentId := segmentId
  placementCandidateIds := ids
  candidateFingerprints := ids.map fun id =>
    (id, digest.hexdigest (.obj [("placement_candidate_id", .str id)]))
  maxBranches := call.maxBranches
  verificationPolicyId := call.verificationPolicyId
  commitPolicyId := call.commitPolicyId
  cancellationPolicyId := call.cancellationPolicyId
  fingerprint := ""

/-- Plan a speculation. -/
def buildSpeculationPlan (call : PlanCall) : Except Fault SpeculationPlan :=
  match call.sourceSegment, call.placementCandidates with
  | some segment, some given => typedPlan digest call segment given
  | none, none =>
      match call.sourceSegmentId, call.candidateIds with
      | some segmentId, some ids =>
          sealPlan digest (legacyValues digest call segmentId (sortOn id ids))
      | _, _ => .error
          (.value "legacy plan requires source segment and candidate identifiers")
  | _, _ => .error
      (.value "typed source segment and placement candidates must be supplied together")

/-! ## What is planned -/

section Planned

variable {digest} {call : PlanCall} {segment : ExecutionSegment}
  {candidates ordered : List PlacementCandidate}

theorem sealPlan_eq_ok_iff {values plan : SpeculationPlan} :
    sealPlan digest values = .ok plan ↔
      (sealedPlan digest values).Valid digest ∧ sealedPlan digest values = plan := by
  simp [sealPlan, SpeculationPlan.validate_eq_ok_iff]

/-- What the construction of a candidate establishes. -/
structure Constructed (candidate : PlacementCandidate) : Prop where
  /-- The identities that are given are nonblank. -/
  visible : ∀ field ∈ [some candidate.candidateId, some candidate.segmentId,
    some candidate.topologyNodeId, some candidate.hardwareProfileId, candidate.topologyGraphId,
    candidate.hardwareProfileFingerprint, candidate.pathResultId, candidate.pathResultFingerprint],
    ∀ text ∈ field, Text.Nonblank text
  /-- Generations start at one. -/
  counted : ∀ field ∈ [candidate.topologyGeneration, candidate.hardwareProfileGeneration],
    ∀ count ∈ field, 1 ≤ count
  /-- A typed context is whole. -/
  whole : Typed candidate → ∀ given ∈ candidate.contextGiven, given = true

theorem constructed_of_construct {draft candidate : PlacementCandidate}
    (made : draft.construct digest = .ok candidate) : Constructed candidate := by
  simp only [PlacementCandidate.construct, bind_eq_ok, forEach_eq_ok, rule_eq_ok, fieldGe_eq_ok,
    exists_const, pure_eq_ok, Except.ok.injEq] at made
  obtain ⟨visible, counted, _, _, _, _, whole, _, rfl⟩ := made
  refine ⟨?_, ?_, fun typed given member => ?_⟩
  · simpa only [List.forall_mem_cons, List.not_mem_nil, false_implies, implies_true] using visible
  · simpa only [List.forall_mem_cons, Option.mem_toList, Option.mem_def, List.not_mem_nil,
      false_implies, implies_true] using counted
  · by_contra missing
    refine whole ⟨List.any_eq_true.mpr ⟨true, ?_, rfl⟩, List.any_eq_true.mpr ⟨given, member, ?_⟩⟩
    · have typedGiven : Option.isSome draft.pathResultId = true := typed
      simp [PlacementCandidate.contextGiven, typedGiven]
    · simpa using missing

/-- Candidates in the order of their ids. -/
structure Ordered (ordered : List PlacementCandidate) : Prop where
  sorted : ordered.Pairwise fun left right => left.candidateId ≤ right.candidateId
  distinct : (ordered.map PlacementCandidate.candidateId).Nodup
  named : ∀ candidate ∈ ordered, Text.Nonblank candidate.candidateId

/-- A plan on candidates in order is valid where its bounds and its policies are, and all of the
candidates have a typed context or none has. -/
theorem valid_planned_iff (inOrder : Ordered ordered) :
    (sealedPlan digest (plannedValues digest call segment ordered)).Valid digest ↔
      (1 ≤ call.maxBranches ∧ call.maxBranches ≤ maxSpeculativeBranches) ∧ ordered ≠ [] ∧
      ordered.length ≤ call.maxBranches ∧
      (∀ text ∈ [call.verificationPolicyId, call.commitPolicyId, call.cancellationPolicyId],
        Text.Nonblank text) ∧
      (∀ candidate ∈ ordered, Typed candidate →
        (upstreamOf digest call candidate).validate = .ok ()) ∧
      ((∃ candidate ∈ ordered, Typed candidate) → ∀ candidate ∈ ordered, Typed candidate) := by
  have segmentVisible := segment.texts_nonblank
  simp only [List.forall_mem_cons] at segmentVisible
  constructor
  · intro valid
    refine ⟨valid.maxBranches_bounds, ?_, ?_, ?_, ?_, ?_⟩
    · exact fun empty => valid.candidates_nonempty (by simp [sealedPlan, plannedValues, empty])
    · simpa [sealedPlan, plannedValues] using valid.candidates_bound
    · have texts := valid.texts_nonblank
      simp only [List.forall_mem_cons] at texts
      simpa using ⟨texts.2.2.1, texts.2.2.2.1, texts.2.2.2.2.1⟩
    · intro candidate member typed
      refine valid.provenance_valid _ (List.mem_map_of_mem ?_)
      exact List.mem_filter.mpr ⟨member, decide_eq_true typed⟩
    · rintro ⟨first, firstMember, firstTyped⟩
      have kept : first ∈ ordered.filter fun candidate => Typed candidate :=
        List.mem_filter.mpr ⟨firstMember, decide_eq_true firstTyped⟩
      have filled : (sealedPlan digest (plannedValues digest call segment
          ordered)).upstreamProvenance ≠ [] :=
        List.ne_nil_of_mem (List.mem_map_of_mem kept)
      have lengths := congrArg List.length (valid.provenance_match filled)
      have all : (ordered.filter fun candidate => Typed candidate).length = ordered.length := by
        simpa [sealedPlan, plannedValues] using lengths
      intro candidate member
      exact of_decide_eq_true (List.length_filter_eq_length_iff.mp all candidate member)
  · rintro ⟨bounds, nonempty, bound, policies, upstream, whole⟩
    simp only [List.forall_mem_cons] at policies
    constructor
    case maxBranches_bounds => exact bounds
    case provenance_valid =>
      intro item member
      obtain ⟨candidate, inFilter, rfl⟩ := List.mem_map.mp member
      obtain ⟨inside, typed⟩ := List.mem_filter.mp inFilter
      exact upstream candidate inside (of_decide_eq_true typed)
    case texts_nonblank =>
      simp [sealedPlan, plannedValues, digest.nonblank, segmentVisible.1, policies.1, policies.2.1,
        policies.2.2.1]
    case candidates_nonempty => simpa [sealedPlan, plannedValues] using nonempty
    case candidates_nonblank =>
      simpa [sealedPlan, plannedValues] using inOrder.named
    case candidates_bound => simpa [sealedPlan, plannedValues] using bound
    case candidates_canonical =>
      exact (sortOn_eq_self id (List.pairwise_map.mpr inOrder.sorted)).symm
    case candidates_nodup => exact inOrder.distinct
    case fingerprints_match => simp [sealedPlan, plannedValues, Function.comp_def]
    case fingerprints_nonblank =>
      intro pair member
      obtain ⟨candidate, inside, rfl⟩ := List.mem_map.mp member
      exact ⟨inOrder.named candidate inside, digest.nonblank _⟩
    case context_complete =>
      simp [SpeculationPlan.CompleteTypedContext, sealedPlan, plannedValues]
    case context_nonblank =>
      simp [sealedPlan, plannedValues, digest.nonblank, segmentVisible.2.1, segmentVisible.2.2.1]
    case provenance_match =>
      intro filled
      obtain ⟨item, member⟩ := List.exists_mem_of_ne_nil _ filled
      obtain ⟨candidate, inFilter, rfl⟩ := List.mem_map.mp member
      obtain ⟨inside, typed⟩ := List.mem_filter.mp inFilter
      have all := whole ⟨candidate, inside, of_decide_eq_true typed⟩
      have kept : (ordered.filter fun candidate => Typed candidate) = ordered :=
        List.filter_eq_self.mpr fun candidate inside => decide_eq_true (all candidate inside)
      simp [sealedPlan, plannedValues, kept, Function.comp_def, upstreamOf]
    case fingerprint_eq => rfl
    case identity_eq => rfl

variable (digest call segment) in
/-- A segment that can be speculated on, with candidates for it. -/
structure Plannable (candidates : List PlacementCandidate) : Prop where
  /-- Nothing is given by a bare identifier. -/
  unmixed : call.sourceSegmentId = none ∧ call.candidateIds = none
  ready : segment.executionState = .ready
  nonempty : candidates ≠ []
  eligible : ∀ candidate ∈ candidates, candidate.eligible = true
  own : ∀ candidate ∈ candidates, candidate.segmentId = segment.segmentId
  distinct : (candidates.map PlacementCandidate.candidateId).Nodup
  /-- Predictions that are given are for these candidates. -/
  predicted : call.predictionsById.keys = [] ∨
    ∀ id, id ∈ call.predictionsById.keys ↔ ∃ candidate ∈ candidates, candidate.candidateId = id
  /-- Where a candidate has a typed context, all have, with predictions and exactly their paths. -/
  exact : (∃ candidate ∈ candidates, Typed candidate) →
    call.predictionsById.keys ≠ [] ∧ (∀ candidate ∈ candidates, Typed candidate) ∧
      ∀ id, id ∈ call.pathsById.keys ↔ ∃ candidate ∈ candidates, candidate.pathResultId = some id
  /-- The path and the prediction are those that the candidate records. -/
  recorded : ∀ candidate ∈ candidates, Typed candidate → checkUpstream call candidate = .ok ()
  named : ∀ candidate ∈ candidates, Typed candidate →
    (upstreamOf digest call candidate).validate = .ok ()
  /-- There are no more candidates than branches, and no more branches than a plan may have. -/
  bounded : (1 ≤ call.maxBranches ∧ call.maxBranches ≤ maxSpeculativeBranches) ∧
    candidates.length ≤ call.maxBranches
  policies : ∀ text ∈ [call.verificationPolicyId, call.commitPolicyId, call.cancellationPolicyId],
    Text.Nonblank text

theorem ordered_sortOn (distinct : (candidates.map PlacementCandidate.candidateId).Nodup)
    (named : ∀ candidate ∈ candidates, Text.Nonblank candidate.candidateId) :
    Ordered (sortOn PlacementCandidate.candidateId candidates) where
  sorted := sortOn_pairwise PlacementCandidate.candidateId candidates
  distinct := ((sortOn_perm _ candidates).map PlacementCandidate.candidateId).nodup_iff.mpr distinct
  named candidate member := named candidate ((mem_sortOn _).mp member)

theorem exists_typed_iff {id : String} :
    (∃ candidate, (candidate ∈ candidates ∧ Typed candidate) ∧
        candidate.pathResultId.getD "" = id) ↔
      ∃ candidate ∈ candidates, candidate.pathResultId = some id := by
  refine exists_congr fun candidate => ?_
  rw [and_assoc]
  refine and_congr_right fun _ => ?_
  rw [Typed]
  cases candidate.pathResultId <;> simp

theorem filter_typed_eq_nil_iff : ((sortOn PlacementCandidate.candidateId candidates).filter
    fun candidate => Typed candidate) = [] ↔ ¬ ∃ candidate ∈ candidates, Typed candidate := by
  simp [List.filter_eq_nil_iff]

theorem typedPlan_eq_ok_iff {given : List PlacementCandidate} {plan : SpeculationPlan} :
    typedPlan digest call segment given = .ok plan ↔
      ∃ candidates, given.mapM (PlacementCandidate.construct digest) = .ok candidates ∧
        Plannable digest call segment candidates ∧
        sealedPlan digest (plannedValues digest call segment
          (sortOn PlacementCandidate.candidateId candidates)) = plan := by
  have inOrder {candidates : List PlacementCandidate}
      (made : given.mapM (PlacementCandidate.construct digest) = .ok candidates)
      (distinct : (candidates.map PlacementCandidate.candidateId).Nodup) :
      Ordered (sortOn PlacementCandidate.candidateId candidates) :=
    ordered_sortOn distinct fun candidate member => by
      obtain ⟨draft, _, constructed⟩ := (mem_of_mapM_eq_ok made).mp member
      exact (constructed_of_construct constructed).visible _ List.mem_cons_self _ rfl
  have same_length {candidates : List PlacementCandidate}
      (made : given.mapM (PlacementCandidate.construct digest) = .ok candidates) :
      given = [] ↔ candidates = [] := by
    rw [← List.length_eq_zero_iff, ← List.length_eq_zero_iff,
      (mapM_eq_ok_iff_forall₂.mp made).length_eq]
  have sorted_nil {candidates : List PlacementCandidate} :
      sortOn PlacementCandidate.candidateId candidates = [] ↔ candidates = [] := by
    rw [← List.length_eq_zero_iff, ← List.length_eq_zero_iff, length_sortOn]
  simp only [typedPlan, bind_eq_ok, require_eq_ok, exists_const, forEach_eq_ok, sealPlan_eq_ok_iff,
    List.mem_filter, mem_sortOn, decide_eq_true_eq, and_imp, filter_typed_eq_nil_iff,
    Finset.ext_iff, List.mem_toFinset, List.mem_map, exists_typed_iff]
  constructor
  · rintro ⟨unmixed, ready, nonempty, candidates, made, eligible, own, distinct, predicted, exact,
      recorded, named, valid, rfl⟩
    obtain ⟨bounds, _, bound, policies, _, whole⟩ :=
      (valid_planned_iff (inOrder made distinct)).mp valid
    simp only [mem_sortOn, length_sortOn] at bound whole
    refine ⟨candidates, made, ?_, rfl⟩
    constructor
    case unmixed => exact unmixed
    case ready => exact ready
    case nonempty => exact (same_length made).not.mp nonempty
    case eligible => exact eligible
    case own => exact own
    case distinct => exact distinct
    case predicted => exact predicted
    case exact =>
      intro some_typed
      obtain ⟨predictions_given, keys⟩ := exact.resolve_left (not_not.mpr some_typed)
      exact ⟨predictions_given, whole some_typed, keys⟩
    case recorded => exact recorded
    case named => exact named
    case bounded => exact ⟨bounds, bound⟩
    case policies => exact policies
  · rintro ⟨candidates, made, plannable, rfl⟩
    refine ⟨plannable.unmixed, plannable.ready, (same_length made).not.mpr plannable.nonempty,
      candidates, made, plannable.eligible, plannable.own, plannable.distinct, plannable.predicted,
      ?_, plannable.recorded, plannable.named, ?_, rfl⟩
    · refine or_iff_not_imp_left.mpr fun some_typed => ?_
      obtain ⟨predictions_given, _, keys⟩ := plannable.exact (not_not.mp some_typed)
      exact ⟨predictions_given, keys⟩
    · refine (valid_planned_iff (inOrder made plannable.distinct)).mpr ?_
      simp only [mem_sortOn, length_sortOn, ne_eq, sorted_nil]
      exact ⟨plannable.bounded.1, plannable.nonempty, plannable.bounded.2, plannable.policies,
        plannable.named, fun some_typed => (plannable.exact some_typed).2.1⟩

end Planned

end Speculation
end MercuryX
