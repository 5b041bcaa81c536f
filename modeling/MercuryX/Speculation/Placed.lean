import MercuryX.Placement.Pipeline
import MercuryX.Speculation.Commit
import MercuryX.Speculation.Planner

/-!
# From placement to a committed winner

A plan on the candidates of a segment does not depend on the order in which they, their predictions
and their paths are given. It traces each of them to what it was placed by, and whatever is
committed under the plan runs on one of them, as it was when the plan was made. What placement
generates and scores for a segment can be planned on as it stands.
-/

namespace MercuryX
namespace Speculation

open Foundation DisaggregatedExecution Placement HardwarePersonality MercuryX.Topology

variable {digest : Digest} {call : PlanCall} {segment : ExecutionSegment}
  {candidates others given : List PlacementCandidate} {plan : SpeculationPlan}

/-! ## The order of what is given -/

section Order

theorem indexed_get?_perm {ν : Type} {key : ν → String} {records reordered : List ν}
    (perm : reordered.Perm records) (unique : (records.map key).Nodup) (id : String) :
    (Dict.indexed key reordered).get? id = (Dict.indexed key records).get? id := by
  have reorderedUnique : (reordered.map key).Nodup := (perm.map key).nodup_iff.mpr unique
  refine Option.ext fun record => ?_
  rw [Dict.indexed_get?_eq_some_iff reorderedUnique, Dict.indexed_get?_eq_some_iff unique,
    perm.mem_iff]

/-- The same call, with its candidates, predictions and paths in another order. -/
structure Reordered (other call : PlanCall) : Prop where
  ids : Option.Rel List.Perm other.candidateIds call.candidateIds
  candidates : Option.Rel List.Perm other.placementCandidates call.placementCandidates
  predictions : other.placementPredictions.Perm call.placementPredictions
  paths : other.pathResults.Perm call.pathResults
  same : { call with
    candidateIds := other.candidateIds
    placementCandidates := other.placementCandidates
    placementPredictions := other.placementPredictions
    pathResults := other.pathResults } = other

variable {other : PlanCall}

theorem Reordered.predictionsById (reordered : Reordered other call)
    (unique : (call.placementPredictions.map PlacementPrediction.candidateId).Nodup)
    (id : String) : other.predictionsById.get? id = call.predictionsById.get? id :=
  indexed_get?_perm reordered.predictions unique id

theorem Reordered.pathsById (reordered : Reordered other call)
    (unique : (call.pathResults.map PathResult.pathResultId).Nodup) (id : String) :
    other.pathsById.get? id = call.pathsById.get? id :=
  indexed_get?_perm reordered.paths unique id

theorem keys_eq_nil_iff {ν : Type} {dict : Dict String ν} :
    dict.keys = [] ↔ ∀ id, dict.get? id = none := by
  simp only [List.eq_nil_iff_forall_not_mem, Dict.get?_eq_none_iff]

/-- What can be planned on does not depend on the order in which it is given. -/
theorem Plannable.reordered (plannable : Plannable digest call segment candidates)
    (perm : others.Perm candidates) (reordered : Reordered other call)
    (predictionsUnique : (call.placementPredictions.map PlacementPrediction.candidateId).Nodup)
    (pathsUnique : (call.pathResults.map PathResult.pathResultId).Nodup) :
    Plannable digest other segment others ∧
      plannedValues digest other segment = plannedValues digest call segment := by
  have predictions := reordered.predictionsById predictionsUnique
  have paths := reordered.pathsById pathsUnique
  have checks (candidate : PlacementCandidate) :
      checkUpstream other candidate = checkUpstream call candidate := by
    simp only [checkUpstream, predictions, paths]
  have origins : upstreamOf digest other = upstreamOf digest call := by
    funext candidate
    simp only [upstreamOf, predictions]
  have predicted (id : String) : id ∈ other.predictionsById.keys ↔
      id ∈ call.predictionsById.keys := by
    simp only [Dict.mem_keys_iff, predictions]
  have routed (id : String) : id ∈ other.pathsById.keys ↔ id ∈ call.pathsById.keys := by
    simp only [Dict.mem_keys_iff, paths]
  have unpredicted : other.predictionsById.keys = [] ↔ call.predictionsById.keys = [] := by
    simp only [keys_eq_nil_iff, predictions]
  have same := reordered.same
  constructor
  · constructor
    case unmixed =>
      have ids := reordered.ids
      rw [plannable.unmixed.2] at ids
      refine ⟨same ▸ plannable.unmixed.1, ?_⟩
      cases given : other.candidateIds with
      | none => rfl
      | some _ => exact absurd (given ▸ ids) Option.not_rel_some_none
    case ready => exact plannable.ready
    case nonempty => exact fun empty => plannable.nonempty (empty ▸ perm).symm.eq_nil
    case eligible => simpa only [perm.mem_iff] using plannable.eligible
    case own => simpa only [perm.mem_iff] using plannable.own
    case distinct => exact (perm.map _).nodup_iff.mpr plannable.distinct
    case predicted => simpa only [perm.mem_iff, unpredicted, predicted] using plannable.predicted
    case exact =>
      simpa only [perm.mem_iff, unpredicted, routed, ne_eq] using plannable.exact
    case recorded => simpa only [perm.mem_iff, checks] using plannable.recorded
    case named => simpa only [perm.mem_iff, origins] using plannable.named
    case bounded =>
      rw [perm.length_eq, ← same]
      exact plannable.bounded
    case policies => rw [← same]; exact plannable.policies
  · funext candidates
    simp only [plannedValues, origins]
    rw [← same]

theorem typedPlan_of_reordered {reorderedGiven : List PlacementCandidate}
    (perm : reorderedGiven.Perm given) (reordered : Reordered other call)
    (predictionsUnique : (call.placementPredictions.map PlacementPrediction.candidateId).Nodup)
    (pathsUnique : (call.pathResults.map PathResult.pathResultId).Nodup)
    (planned : typedPlan digest call segment given = .ok plan) :
    typedPlan digest other segment reorderedGiven = .ok plan := by
  obtain ⟨candidates, made, plannable, rfl⟩ := typedPlan_eq_ok_iff.mp planned
  obtain ⟨others, othersMade, othersPerm⟩ :=
    List.perm_comp_forall₂ perm (mapM_eq_ok_iff_forall₂.mp made)
  obtain ⟨othersPlannable, values⟩ :=
    plannable.reordered othersPerm reordered predictionsUnique pathsUnique
  have separates : Separates PlacementCandidate.candidateId others :=
    fun _ left _ right same => List.inj_on_of_nodup_map othersPlannable.distinct left right same
  refine typedPlan_eq_ok_iff.mpr
    ⟨others, mapM_eq_ok_iff_forall₂.mpr othersMade, othersPlannable, ?_⟩
  rw [values, sortOn_eq_of_perm separates othersPerm]

/-- A plan does not depend on the order in which candidates, predictions and paths are given. -/
theorem buildSpeculationPlan_of_reordered (reordered : Reordered other call)
    (predictionsUnique : (call.placementPredictions.map PlacementPrediction.candidateId).Nodup)
    (pathsUnique : (call.pathResults.map PathResult.pathResultId).Nodup)
    (planned : buildSpeculationPlan digest call = .ok plan) :
    buildSpeculationPlan digest other = .ok plan := by
  have segmentSame : other.sourceSegment = call.sourceSegment := by rw [← reordered.same]
  have idSame : other.sourceSegmentId = call.sourceSegmentId := by rw [← reordered.same]
  have legacySame : legacyValues digest other = legacyValues digest call := by
    funext segmentId ids
    simp only [legacyValues]
    rw [← reordered.same]
  have candidatesPerm := reordered.candidates
  have idsPerm := reordered.ids
  rw [buildSpeculationPlan, segmentSame, idSame]
  rw [buildSpeculationPlan] at planned
  revert planned
  generalize call.placementCandidates = given, other.placementCandidates = otherGiven
    at candidatesPerm ⊢
  generalize call.candidateIds = ids, other.candidateIds = otherIds at idsPerm ⊢
  cases call.sourceSegment with
  | none =>
      cases candidatesPerm with
      | some _ => nofun
      | none =>
          cases call.sourceSegmentId with
          | none => nofun
          | some segmentId =>
              cases idsPerm with
              | none => nofun
              | some perm =>
                  have sorted := sortOn_eq_of_perm (separates_id _) perm
                  simp only [legacySame, sorted, imp_self]
  | some segment =>
      cases candidatesPerm with
      | none => nofun
      | some perm => exact typedPlan_of_reordered perm reordered predictionsUnique pathsUnique

end Order

/-! ## What a plan is made on -/

section Traced

/-- A plan traces a candidate to its hardware, its path and its prediction. -/
structure Traces (digest : Digest) (candidate : PlacementCandidate) (path : PathResult)
    (prediction : PlacementPrediction) (item : SpeculationUpstreamProvenance) : Prop where
  candidate_eq : item.candidateId = candidate.candidateId ∧
    item.candidateFingerprint = candidateFingerprint digest candidate
  hardware_eq : item.hardwareProfileId = candidate.hardwareProfileId ∧
    some item.hardwareProfileGeneration = candidate.hardwareProfileGeneration ∧
    some item.hardwareProfileFingerprint = candidate.hardwareProfileFingerprint
  topology_eq : item.topologyGraphId = path.fields.graphId ∧
    item.topologyGeneration = path.fields.graphGeneration
  path_eq : item.pathResultId = path.pathResultId ∧ item.pathResultFingerprint = path.fingerprint
  prediction_eq : item.predictionId = some prediction.predictionId ∧
    item.predictionFingerprint =
      some (digest.hexdigest (.obj [("placement_prediction", predictionDump prediction)]))

theorem exists_context {candidate : PlacementCandidate} (constructed : Constructed candidate)
    (typed : Typed candidate) :
    ((∃ graphId, candidate.topologyGraphId = some graphId) ∧
      ∃ generation, candidate.topologyGeneration = some generation) ∧
    ((∃ generation, candidate.hardwareProfileGeneration = some generation) ∧
      ∃ fingerprint, candidate.hardwareProfileFingerprint = some fingerprint) ∧
    (∃ pathId, candidate.pathResultId = some pathId) ∧
      ∃ fingerprint, candidate.pathResultFingerprint = some fingerprint := by
  have context := constructed.whole typed
  simp only [PlacementCandidate.contextGiven, List.forall_mem_cons, Option.isSome_iff_exists,
    List.not_mem_nil, false_implies, implies_true, and_true] at context
  simpa only [and_assoc] using context

theorem checkUpstream_eq_ok_iff {candidate : PlacementCandidate} {done : Unit} :
    checkUpstream call candidate = .ok done ↔
      ∃ path prediction, call.pathsById.get? (candidate.pathResultId.getD "") = some path ∧
        call.predictionsById.get? candidate.candidateId = some prediction ∧
        RecordedPath candidate path ∧ RecordedPrediction candidate prediction := by
  simp only [checkUpstream]
  cases call.pathsById.get? (candidate.pathResultId.getD "") <;>
    cases call.predictionsById.get? candidate.candidateId <;> simp

theorem exists_traces {candidate : PlacementCandidate} (constructed : Constructed candidate)
    (typed : Typed candidate)
    (recorded : checkUpstream call candidate = .ok ()) :
    ∃ path ∈ call.pathResults, ∃ prediction ∈ call.placementPredictions,
      prediction.candidateId = candidate.candidateId ∧
      candidate.pathResultId = some path.pathResultId ∧ RecordedPath candidate path ∧
      RecordedPrediction candidate prediction ∧
      Traces digest candidate path prediction (upstreamOf digest call candidate) := by
  obtain ⟨path, prediction, pathFound, predictionFound, pathRecorded, predictionRecorded⟩ :=
    checkUpstream_eq_ok_iff.mp recorded
  obtain ⟨inPaths, pathNamed⟩ := Dict.mem_of_indexed_get? pathFound
  obtain ⟨inPredictions, predictionNamed⟩ := Dict.mem_of_indexed_get? predictionFound
  obtain ⟨⟨⟨graphId, graphGiven⟩, generation, generationGiven⟩, ⟨⟨hardware, hardwareGiven⟩,
    content, contentGiven⟩, ⟨pathId, pathGiven⟩, fingerprint, fingerprintGiven⟩ :=
    exists_context constructed typed
  obtain ⟨sameFingerprint, sameGraph, sameGeneration, sameNode⟩ := pathRecorded
  rw [pathGiven] at pathNamed
  refine ⟨path, inPaths, prediction, inPredictions, predictionNamed, ?_,
    ⟨sameFingerprint, sameGraph, sameGeneration, sameNode⟩, predictionRecorded, ?_⟩
  · rw [pathGiven, pathNamed, Option.getD_some]
  · rw [fingerprintGiven, Option.some.injEq] at sameFingerprint
    rw [graphGiven, Option.some.injEq] at sameGraph
    rw [generationGiven, Option.some.injEq] at sameGeneration
    constructor <;>
      simp [upstreamOf, predictionFound, graphGiven, generationGiven, hardwareGiven, contentGiven,
        pathGiven, fingerprintGiven, pathNamed, sameFingerprint, sameGraph, sameGeneration]

/-- What a plan says of the candidates that it was made on. -/
structure MadeOn (digest : Digest) (call : PlanCall) (segment : ExecutionSegment)
    (candidates : List PlacementCandidate) (plan : SpeculationPlan) : Prop where
  /-- The segment was ready. -/
  ready : segment.executionState = .ready
  /-- The plan is for the segment as it was. -/
  source : plan.sourceSegmentId = segment.segmentId ∧
    plan.sourceExecutionPlanId = some segment.executionPlanId ∧
    plan.namespaceType = some segment.namespaceType ∧ plan.namespaceId = some segment.namespaceId ∧
    plan.sourceSegmentFingerprint =
      some (digest.hexdigest (.obj [("execution_segment", segmentDump segment)]))
  /-- The candidates were eligible and for the segment. -/
  eligible : ∀ candidate ∈ candidates,
    candidate.eligible = true ∧ candidate.segmentId = segment.segmentId
  /-- The plan holds each of them once, as it was. -/
  fingerprinted : plan.candidateFingerprints.Perm
    (candidates.map fun candidate => (candidate.candidateId, candidateFingerprint digest candidate))
  /-- Where one has a typed context, the plan traces all of them to the paths and the predictions
  that they were placed by. -/
  traced : (∃ candidate ∈ candidates, Typed candidate) → ∀ candidate ∈ candidates,
    ∃ path ∈ call.pathResults, ∃ prediction ∈ call.placementPredictions,
      prediction.candidateId = candidate.candidateId ∧
      candidate.pathResultId = some path.pathResultId ∧ RecordedPath candidate path ∧
      RecordedPrediction candidate prediction ∧
      ∃ item ∈ plan.upstreamProvenance, Traces digest candidate path prediction item
  /-- The plan is valid. -/
  valid : plan.Valid digest

theorem exists_madeOn (planned : typedPlan digest call segment given = .ok plan) :
    ∃ candidates, given.mapM (PlacementCandidate.construct digest) = .ok candidates ∧
      MadeOn digest call segment candidates plan := by
  obtain ⟨candidates, made, plannable, rfl⟩ := typedPlan_eq_ok_iff.mp planned
  have inOrder : Ordered (sortOn PlacementCandidate.candidateId candidates) :=
    ordered_sortOn plannable.distinct fun candidate member => by
      obtain ⟨draft, _, constructed⟩ := (mem_of_mapM_eq_ok made).mp member
      exact (constructed_of_construct constructed).visible _ List.mem_cons_self _ rfl
  refine ⟨candidates, made, plannable.ready, ⟨rfl, rfl, rfl, rfl, rfl⟩,
    fun candidate member => ⟨plannable.eligible candidate member, plannable.own candidate member⟩,
    (sortOn_perm _ candidates).map _, fun someTyped candidate member => ?_, ?_⟩
  · have typed := (plannable.exact someTyped).2.1 candidate member
    obtain ⟨draft, _, constructed⟩ := (mem_of_mapM_eq_ok made).mp member
    obtain ⟨path, inPaths, prediction, inPredictions, named, pathNamed, pathRecorded,
      predictionRecorded, traces⟩ :=
      exists_traces (constructed_of_construct constructed) typed
        (plannable.recorded candidate member typed)
    refine ⟨path, inPaths, prediction, inPredictions, named, pathNamed, pathRecorded,
      predictionRecorded, _, List.mem_map_of_mem (List.mem_filter.mpr ⟨?_, ?_⟩), traces⟩
    · exact (mem_sortOn _).mpr member
    · exact decide_eq_true typed
  · refine (valid_planned_iff inOrder).mpr ?_
    simp only [mem_sortOn, length_sortOn, ne_eq]
    refine ⟨plannable.bounded.1, fun empty => plannable.nonempty ?_, plannable.bounded.2,
      plannable.policies, plannable.named, fun someTyped => (plannable.exact someTyped).2.1⟩
    exact (empty ▸ sortOn_perm PlacementCandidate.candidateId candidates).symm.eq_nil

end Traced

/-! ## What is committed -/

section Committed

/-- The layout of what the fingerprint of a candidate covers. -/
def fingerprintLayout : Json.Layout := .record [("placement_candidate", .record [
  ("candidate_id", .scalar), ("segment_id", .scalar), ("topology_node_id", .scalar),
  ("hardware_profile_id", .scalar), ("eligible", .scalar), ("reason_codes", .list .scalar),
  ("topology_graph_id", .scalar), ("topology_generation", .scalar),
  ("hardware_profile_generation", .scalar), ("hardware_profile_fingerprint", .scalar),
  ("path_result_id", .scalar), ("path_result_fingerprint", .scalar),
  ("evidence_ids", .list .scalar)])]

theorem distinct_fingerprintLayout : Json.Distinct fingerprintLayout := by
  simp [fingerprintLayout, Json.Distinct, Json.DistinctFields]

theorem isScalar_optStr (text : Option String) : (Json.optStr text).IsScalar := by
  cases text <;> trivial

theorem optStr_injective : Function.Injective Json.optStr := by
  rintro (_ | left) (_ | right) same <;> simp_all [Json.optStr]

theorem optInt_injective : Function.Injective Json.optInt := by
  rintro (_ | left) (_ | right) same <;> simp_all [Json.optInt]

/-- What the fingerprint of a candidate is a digest of. -/
def fingerprintPayload (candidate : PlacementCandidate) : Json :=
  .obj [("placement_candidate", candidateDump candidate)]

theorem fits_fingerprintPayload (candidate : PlacementCandidate) :
    Json.Fits fingerprintLayout (fingerprintPayload candidate) := by
  simp [fingerprintLayout, fingerprintPayload, candidateDump, Json.Fits, Json.FitsFields,
    isScalar_optStr]

theorem eq_of_candidateFingerprint {left right : PlacementCandidate}
    (tells : digest.Tells (fingerprintPayload left) (fingerprintPayload right))
    (same : candidateFingerprint digest left = candidateFingerprint digest right) :
    left = right := by
  have dumps := tells.eq_of_fits distinct_fingerprintLayout (fits_fingerprintPayload left)
    (fits_fingerprintPayload right) same
  simp only [fingerprintPayload, candidateDump, Json.obj.injEq, List.cons.injEq, Prod.mk.injEq,
    Json.str.injEq, Json.bool.injEq, Json.strs_injective.eq_iff, optStr_injective.eq_iff,
    optInt_injective.eq_iff, true_and, and_true] at dumps
  cases left
  cases right
  simpa [and_assoc] using dumps

/-- A branch runs on one of the candidates that a plan was made on, as it was. -/
structure RunsOn (digest : Digest) (candidates : List PlacementCandidate) (plan : SpeculationPlan)
    (branch : SpeculativeBranch) : Prop where
  /-- The branch is one of the plan. -/
  own : branch.speculationPlanId = some plan.speculationPlanId ∧
    branch.sourceSegmentId = some plan.sourceSegmentId ∧
    branch.planFingerprint = some plan.fingerprint
  /-- It runs on a candidate. -/
  candidate : ∃ candidate ∈ candidates, branch.placementCandidateId = candidate.candidateId ∧
    branch.candidateFingerprint = some (candidateFingerprint digest candidate)
  /-- It runs on no other whose fingerprint does not collide with those of the plan. -/
  only : ∀ other, (∀ candidate ∈ candidates,
      digest.Tells (fingerprintPayload candidate) (fingerprintPayload other)) →
    branch.candidateFingerprint = some (candidateFingerprint digest other) → other ∈ candidates

theorem of_checkProvenance {branch : SpeculativeBranch} (valid : plan.Valid digest)
    (typed : plan.sourceExecutionPlanId.isSome = true)
    (checked : checkProvenance plan branch = .ok ()) :
    (branch.speculationPlanId = some plan.speculationPlanId ∧
      branch.sourceSegmentId = some plan.sourceSegmentId ∧
      branch.planFingerprint = some plan.fingerprint) ∧
    ∃ fingerprint, (branch.placementCandidateId, fingerprint) ∈ plan.candidateFingerprints ∧
      branch.candidateFingerprint = some fingerprint := by
  simp only [checkProvenance, bind_eq_ok, require_eq_ok, exists_const] at checked
  obtain ⟨given, provenance⟩ := checked
  have some_given : ∃ value ∈ branch.context, value ≠ none :=
    ⟨branch.speculationPlanId, List.mem_cons_self, fun missing =>
      given typed (missing ▸ List.mem_cons_self)⟩
  rw [if_pos some_given] at provenance
  simp only [bind_eq_ok, require_eq_ok, exists_const] at provenance
  obtain ⟨own, provenance⟩ := provenance
  cases found : (Dict.ofList plan.candidateFingerprints).get? branch.placementCandidateId with
  | none => simp [found] at provenance
  | some fingerprint =>
      simp only [found, require_eq_ok] at provenance
      have distinct : (plan.candidateFingerprints.map Prod.fst).Nodup :=
        valid.fingerprints_match ▸ valid.candidates_nodup
      rw [Dict.get?_eq_some_iff, Dict.ofList_entries distinct] at found
      exact ⟨own, fingerprint, found, provenance⟩

/-- What is committed runs on the candidates that the plan was made on. -/
theorem MadeOn.committed (madeOn : MadeOn digest call segment candidates plan)
    {branches : List SpeculativeBranch} {result : SpeculativeResult}
    (committed : commitVerifiedWinner digest plan branches = .ok result) :
    (branches.map SpeculativeBranch.placementCandidateId).Perm
        (candidates.map PlacementCandidate.candidateId) ∧
      (∀ branch ∈ branches, RunsOn digest candidates plan branch) ∧
      result.sourceSegmentId = segment.segmentId ∧
      ∃ winner ∈ branches, winner.Eligible ∧ winner.branchId = result.winningBranchId := by
  obtain ⟨winner, selects, rfl⟩ := commitVerifiedWinner_eq_ok_iff.mp committed
  have valid := madeOn.valid
  have ids : (plan.placementCandidateIds).Perm (candidates.map PlacementCandidate.candidateId) := by
    rw [← valid.fingerprints_match]
    simpa [Function.comp_def] using madeOn.fingerprinted.map Prod.fst
  have covered : plan.placementCandidateIds.Perm
      (branches.map SpeculativeBranch.placementCandidateId) := by
    refine (List.subperm_of_subset valid.candidates_nodup fun id member => ?_).perm_of_length_le
      (by rw [List.length_map, selects.counted])
    rw [← List.mem_toFinset, selects.covers, List.mem_toFinset]
    exact member
  have typed : plan.sourceExecutionPlanId.isSome = true := by
    rw [madeOn.source.2.1]
    rfl
  refine ⟨covered.symm.trans ids, fun branch member => ?_, madeOn.source.1,
    winner, selects.winner_mem, selects.winner_eligible.2, rfl⟩
  obtain ⟨own, fingerprint, entered, recorded⟩ :=
    of_checkProvenance valid typed (selects.provenance branch member)
  obtain ⟨candidate, inside, pair⟩ :=
    List.mem_map.mp (madeOn.fingerprinted.mem_iff.mp entered)
  obtain ⟨named, rfl⟩ := Prod.mk.inj pair
  refine ⟨own, ⟨candidate, inside, named.symm, recorded⟩, fun other tells made => ?_⟩
  have same := Option.some_inj.mp (recorded.symm.trans made)
  exact eq_of_candidateFingerprint (tells candidate inside) same ▸ inside

end Committed

/-! ## From placement to a plan -/

section Placed

theorem validate_upstreamOf {candidate : PlacementCandidate} (constructed : Constructed candidate)
    (typed : Typed candidate)
    (identified : ∀ prediction ∈ call.predictionsById.get? candidate.candidateId,
      Text.Nonblank prediction.predictionId) :
    (upstreamOf digest call candidate).validate = .ok () := by
  obtain ⟨⟨⟨graphId, graphGiven⟩, generation, generationGiven⟩, ⟨⟨hardware, hardwareGiven⟩,
    content, contentGiven⟩, ⟨pathId, pathGiven⟩, fingerprint, fingerprintGiven⟩ :=
    exists_context constructed typed
  have visible := constructed.visible
  have counted := constructed.counted
  simp only [List.forall_mem_cons, graphGiven, generationGiven, hardwareGiven, contentGiven,
    pathGiven, fingerprintGiven, Option.mem_def, Option.some.injEq, forall_eq', List.not_mem_nil,
    false_implies, implies_true, and_true] at visible counted
  simp only [SpeculationUpstreamProvenance.validate, upstreamOf, bind_eq_ok, fieldGe_eq_ok,
    forEach_eq_ok, nonblank_eq_ok, nonblankIfPresent_eq_ok, rule_eq_ok, exists_const, graphGiven,
    generationGiven, hardwareGiven, contentGiven, pathGiven, fingerprintGiven, Option.getD_some,
    List.forall_mem_cons, Option.isNone_map, Option.map_eq_some_iff, List.not_mem_nil,
    false_implies, implies_true, and_true]
  obtain ⟨named, _, _, hardwareNamed, graphNamed, contentNamed, routed⟩ := visible
  refine ⟨counted.2, counted.1, ⟨named, digest.nonblank _, hardwareNamed, contentNamed, graphNamed,
    routed⟩, trivial, ?_, ?_⟩
  · rintro text ⟨prediction, found, rfl⟩
    exact identified prediction found
  · rintro text ⟨prediction, _, rfl⟩
    exact digest.nonblank _

theorem records_of_extracted {requirement : HardwareRequirement} {graph : TopologyGraph digest}
    {sourceNodeId : String}
    {profilesByNode : Dict String (HardwarePersonalityProfile digest)}
    {candidate : PlacementCandidate} {path : PathResult}
    {profile : HardwarePersonalityProfile digest} {features : PlacementFeatures}
    (extracted : Extracted requirement graph sourceNodeId profilesByNode candidate path profile
      features) :
    RecordsPath candidate path ∧
      features.hardwareProfileGeneration = candidate.hardwareProfileGeneration ∧
      features.topologyGeneration = candidate.topologyGeneration := by
  have made := extracted.extracted
  simp only [extractTypedFeatures, bind_eq_ok, require_eq_ok, exists_const, forEach_eq_ok] at made
  obtain ⟨_, again, constructedAgain, _, recorded, _, _, _, _, _, constructed⟩ := made
  obtain ⟨fields, _, built⟩ := bind_eq_ok.mp extracted.built
  obtain rfl := eq_of_construct_again built constructedAgain
  obtain ⟨valid, rfl⟩ := checked_eq_ok_iff.mp constructed
  exact ⟨recorded, rfl, recorded.2.1.symm⟩

variable {requirement : HardwareRequirement} {graph : TopologyGraph digest} {sourceNodeId : String}
  {segments : List ExecutionSegment} {handoffs : List ExecutionHandoff}
  {profilesByNode : Dict String (HardwarePersonalityProfile digest)}

theorem of_generateTypedCandidates (hexadecimal : digest.Hexadecimal)
    (generated : generateTypedCandidates segment requirement graph sourceNodeId segments handoffs
      profilesByNode = .ok candidates) :
    segment.executionState = .planned ∧ ∀ candidate ∈ candidates,
      candidate.construct digest = .ok candidate ∧ candidate.segmentId = segment.segmentId ∧
        candidate.eligible = true ∧ Typed candidate := by
  simp only [generateTypedCandidates, bind_eq_ok, require_eq_ok, exists_const, pure_eq_ok,
    Except.ok.injEq] at generated
  obtain ⟨ready, _, answers, made, rfl⟩ := generated
  refine ⟨?_, fun candidate member => ?_⟩
  · simp only [evaluateSegmentReadiness, Bool.and_eq_true, decide_eq_true_eq] at ready
    exact ready.1.1
  · obtain ⟨entry, _, outcome⟩ :=
      (mem_of_mapM_eq_ok made).mp (List.reduceOption_mem_iff.mp member)
    obtain ⟨_, _, _, considered, path, built, _, rfl⟩ := node_of_candidateOf hexadecimal outcome
    rw [candidateOf, if_pos considered, built, ok_bind] at outcome
    obtain ⟨again, constructed, same⟩ := bind_eq_ok.mp outcome
    obtain rfl := Option.some_inj.mp (Except.ok.inj same)
    exact ⟨constructed, rfl, rfl, rfl⟩

/-- A call plans on the candidates and the predictions that placement made for a segment, with the
paths that it built. -/
structure Submits (digest : Digest) (segment : ExecutionSegment) (graph : TopologyGraph digest)
    (sourceNodeId : String) (candidates : List PlacementCandidate)
    (predictions : List PlacementPrediction) (call : PlanCall) : Prop where
  segment_given : call.sourceSegment = some segment
  candidates_given : call.placementCandidates = some candidates
  unmixed : call.sourceSegmentId = none ∧ call.candidateIds = none
  predictions_given : call.placementPredictions = predictions
  paths_given : candidates.mapM (fun candidate =>
    buildPathResult graph sourceNodeId candidate.topologyNodeId []) = .ok call.pathResults

/-- What a plan asks of the call that it is made by. -/
def Affordable (call : PlanCall) (candidates : List PlacementCandidate) : Prop :=
  candidates ≠ [] ∧ candidates.length ≤ call.maxBranches ∧
    call.maxBranches ≤ maxSpeculativeBranches ∧
    ∀ text ∈ [call.verificationPolicyId, call.commitPolicyId, call.cancellationPolicyId],
      Text.Nonblank text

variable {ready : ExecutionSegment} {predictions : List PlacementPrediction}

theorem recorded_of_submits
    (submits : Submits digest ready graph sourceNodeId candidates predictions call)
    (pipeline : Pipeline digest requirement graph sourceNodeId profilesByNode candidates
      predictions)
    (distinct : (candidates.map PlacementCandidate.candidateId).Nodup)
    (apart : (call.pathResults.map PathResult.pathResultId).Nodup)
    {candidate : PlacementCandidate} (member : candidate ∈ candidates) :
    (∀ path, buildPathResult graph sourceNodeId candidate.topologyNodeId [] = .ok path →
        candidate.pathResultId = some path.pathResultId) ∧
      checkUpstream call candidate = .ok () ∧
      ∀ prediction ∈ call.predictionsById.get? candidate.candidateId,
        Text.Nonblank prediction.predictionId := by
  obtain ⟨featuresById, predicted, traced⟩ := pipeline.traced
  obtain ⟨prediction, inPredictions, path, profile, features, trace⟩ := traced candidate member
  obtain ⟨recorded, hardware, topology⟩ := records_of_extracted trace.toExtracted
  obtain ⟨sameHardware, sameTopology, identified⟩ := generations_of_predictPlacements
    (predicted _ (.refl _)) inPredictions (trace.named ▸ trace.found)
  obtain ⟨other, inPaths, built⟩ := exists_of_mapM_eq_ok submits.paths_given member
  obtain rfl := Except.ok.inj (trace.built.symm.trans built)
  have unique : (call.placementPredictions.map PlacementPrediction.candidateId).Nodup := by
    rw [submits.predictions_given]
    exact pipeline.one_each.nodup_iff.mpr distinct
  have predictionFound : call.predictionsById.get? candidate.candidateId = some prediction :=
    (Dict.indexed_get?_eq_some_iff unique).mpr ⟨submits.predictions_given ▸ inPredictions,
      trace.named⟩
  obtain ⟨graphId, generation, pathId, fingerprint, node⟩ := recorded
  have pathFound : call.pathsById.get? (candidate.pathResultId.getD "") = some path :=
    (Dict.indexed_get?_eq_some_iff apart).mpr ⟨inPaths, by rw [pathId, Option.getD_some]⟩
  refine ⟨fun again builtAgain => ?_, checkUpstream_eq_ok_iff.mpr ⟨path, prediction, pathFound,
    predictionFound, ⟨fingerprint.symm, graphId.symm, generation.symm, node.symm⟩,
    sameHardware.trans hardware, sameTopology.trans topology⟩, fun found isFound => ?_⟩
  · rw [pathId, Except.ok.inj (builtAgain.symm.trans built)]
  · obtain rfl := Option.some_inj.mp (predictionFound.symm.trans isFound)
    exact identified

theorem plannable_iff (hexadecimal : digest.Hexadecimal)
    (generated : generateTypedCandidates segment requirement graph sourceNodeId segments handoffs
      profilesByNode = .ok candidates)
    (pipeline : Pipeline digest requirement graph sourceNodeId profilesByNode candidates
      predictions)
    (submits : Submits digest (segment.inState .ready) graph sourceNodeId candidates predictions
      call)
    (distinct : (candidates.map PlacementCandidate.candidateId).Nodup)
    (apart : (call.pathResults.map PathResult.pathResultId).Nodup) :
    Plannable digest call (segment.inState .ready) candidates ↔ Affordable call candidates := by
  obtain ⟨_, made⟩ := of_generateTypedCandidates hexadecimal generated
  have recorded {candidate : PlacementCandidate} (member : candidate ∈ candidates) :=
    recorded_of_submits submits pipeline distinct apart member
  have predictionIds : (call.predictionsById.keys).Perm
      (candidates.map PlacementCandidate.candidateId) := by
    have unique : (call.placementPredictions.map PlacementPrediction.candidateId).Nodup := by
      rw [submits.predictions_given]
      exact pipeline.one_each.nodup_iff.mpr distinct
    rw [PlanCall.predictionsById, Dict.indexed_keys unique, submits.predictions_given]
    exact pipeline.one_each
  constructor
  · intro plannable
    exact ⟨plannable.nonempty, plannable.bounded.2, plannable.bounded.1.2, plannable.policies⟩
  · rintro ⟨nonempty, few, bounded, policies⟩
    have some_candidate : 0 < candidates.length := List.length_pos_of_ne_nil nonempty
    constructor
    case unmixed => exact submits.unmixed
    case ready => rfl
    case nonempty => exact nonempty
    case eligible => exact fun candidate member => (made candidate member).2.2.1
    case own => exact fun candidate member => (made candidate member).2.1
    case distinct => exact distinct
    case predicted =>
      refine .inr fun id => ?_
      rw [predictionIds.mem_iff, List.mem_map]
    case exact =>
      refine fun _ => ⟨fun empty => ?_, fun candidate member => (made candidate member).2.2.2,
        fun id => ?_⟩
      · rw [empty] at predictionIds
        exact nonempty (List.map_eq_nil_iff.mp predictionIds.symm.eq_nil)
      · rw [PlanCall.pathsById, Dict.indexed_keys apart, List.mem_map]
        constructor
        · rintro ⟨path, inPaths, rfl⟩
          obtain ⟨candidate, member, built⟩ :=
            (mem_of_mapM_eq_ok submits.paths_given).mp inPaths
          exact ⟨candidate, member, (recorded member).1 path built⟩
        · rintro ⟨candidate, member, named⟩
          obtain ⟨path, inPaths, built⟩ := exists_of_mapM_eq_ok submits.paths_given member
          rw [(recorded member).1 path built] at named
          exact ⟨path, inPaths, Option.some_inj.mp named⟩
    case recorded => exact fun candidate member _ => (recorded member).2.1
    case named =>
      intro candidate member typed
      exact validate_upstreamOf (constructed_of_construct (made candidate member).1) typed
        (recorded member).2.2
    case bounded => exact ⟨⟨by omega, bounded⟩, few⟩
    case policies => exact policies

/-- A plan is made for what placement made exactly where the call affords it. -/
theorem exists_plan_iff (hexadecimal : digest.Hexadecimal)
    (generated : generateTypedCandidates segment requirement graph sourceNodeId segments handoffs
      profilesByNode = .ok candidates)
    (pipeline : Pipeline digest requirement graph sourceNodeId profilesByNode candidates
      predictions) {transition : TransitionCall}
    (moved : transitionSegmentState segment .ready transition = .ok ready)
    (submits : Submits digest ready graph sourceNodeId candidates predictions call)
    (distinct : (candidates.map PlacementCandidate.candidateId).Nodup)
    (apart : (call.pathResults.map PathResult.pathResultId).Nodup) :
    (∃ plan, buildSpeculationPlan digest call = .ok plan) ↔ Affordable call candidates := by
  obtain ⟨_, _, _, rfl⟩ := transition_eq_ok_iff.mp moved
  have settled := plannable_iff hexadecimal generated pipeline submits distinct apart
  have made : candidates.mapM (PlacementCandidate.construct digest) = .ok candidates :=
    mapM_eq_ok_iff_forall₂.mpr (List.forall₂_same.mpr fun candidate member =>
      ((of_generateTypedCandidates hexadecimal generated).2 candidate member).1)
  rw [buildSpeculationPlan, submits.segment_given, submits.candidates_given, ← settled]
  constructor
  · rintro ⟨plan, planned⟩
    obtain ⟨again, madeAgain, plannable, _⟩ := typedPlan_eq_ok_iff.mp planned
    obtain rfl := Except.ok.inj (made.symm.trans madeAgain)
    exact plannable
  · exact fun plannable => ⟨_, typedPlan_eq_ok_iff.mpr ⟨candidates, made, plannable, rfl⟩⟩

end Placed

/-! ## The law of speculation -/

/-- What a plan says of what was placed, and of what is committed under it. -/
structure SpeculationLaw (digest : Digest) : Prop where
  /-- A plan does not depend on the order in which candidates, predictions and paths are given. -/
  ordered : ∀ (call other : PlanCall) (plan : SpeculationPlan), Reordered other call →
    (call.placementPredictions.map PlacementPrediction.candidateId).Nodup →
    (call.pathResults.map PathResult.pathResultId).Nodup →
    buildSpeculationPlan digest call = .ok plan → buildSpeculationPlan digest other = .ok plan
  /-- A plan on candidates is for a ready segment and holds what they were, and all that is
  committed under it runs on them, one branch on each. -/
  committed : ∀ (call : PlanCall) (segment : ExecutionSegment) (given : List PlacementCandidate)
    (plan : SpeculationPlan), call.sourceSegment = some segment →
    call.placementCandidates = some given → buildSpeculationPlan digest call = .ok plan →
    ∃ candidates, given.mapM (PlacementCandidate.construct digest) = .ok candidates ∧
      MadeOn digest call segment candidates plan ∧
      ∀ branches result, commitVerifiedWinner digest plan branches = .ok result →
        (branches.map SpeculativeBranch.placementCandidateId).Perm
            (candidates.map PlacementCandidate.candidateId) ∧
          (∀ branch ∈ branches, RunsOn digest candidates plan branch) ∧
          result.sourceSegmentId = segment.segmentId ∧
          ∃ winner ∈ branches, winner.Eligible ∧ winner.branchId = result.winningBranchId
  /-- What placement generates and scores for a segment, with the paths that it built, can be
  planned on once the segment is ready, exactly where the call affords it. -/
  placed : ∀ (segment ready : ExecutionSegment) (requirement : HardwareRequirement)
    (graph : TopologyGraph digest) (sourceNodeId : String) (segments : List ExecutionSegment)
    (handoffs : List ExecutionHandoff)
    (profilesByNode : Dict String (HardwarePersonalityProfile digest))
    (candidates : List PlacementCandidate) (predictions : List PlacementPrediction)
    (transition : TransitionCall) (call : PlanCall),
    generateTypedCandidates segment requirement graph sourceNodeId segments handoffs
      profilesByNode = .ok candidates →
    Pipeline digest requirement graph sourceNodeId profilesByNode candidates predictions →
    transitionSegmentState segment .ready transition = .ok ready →
    Submits digest ready graph sourceNodeId candidates predictions call →
    (candidates.map PlacementCandidate.candidateId).Nodup →
    (call.pathResults.map PathResult.pathResultId).Nodup →
    ((∃ plan, buildSpeculationPlan digest call = .ok plan) ↔ Affordable call candidates)

theorem speculationLaw {digest : Digest} (hexadecimal : digest.Hexadecimal) :
    SpeculationLaw digest where
  ordered _ _ _ reordered predictionsUnique pathsUnique planned :=
    buildSpeculationPlan_of_reordered reordered predictionsUnique pathsUnique planned
  committed call segment given plan segmentGiven candidatesGiven planned := by
    rw [buildSpeculationPlan, segmentGiven, candidatesGiven] at planned
    obtain ⟨candidates, made, madeOn⟩ := exists_madeOn planned
    exact ⟨candidates, made, madeOn, fun _ _ committed => madeOn.committed committed⟩
  placed _ _ _ _ _ _ _ _ _ _ _ _ generated pipeline moved submits distinct apart :=
    exists_plan_iff hexadecimal generated pipeline moved submits distinct apart

/-- What is placed on two nodes of the line can be planned on, a branch on each. -/
theorem speculationLaw_line :
    ∃ predictions, ∃ call : PlanCall,
      Pipeline Digest.sha256 anyHardware (line true) "a" bothProfiled
        [lineCandidate middlePath, lineCandidate lastPath] predictions ∧
      call.placementCandidates = some [lineCandidate middlePath, lineCandidate lastPath] ∧
      ∃ plan, buildSpeculationPlan Digest.sha256 call = .ok plan := by
  obtain ⟨predictions, pipeline⟩ := exists_pipeline Digest.sha256_hexadecimal lineCandidates_made
    lineCandidates_nodup
  let call : PlanCall :=
    { maxBranches := 2
      sourceSegment := some (plannedSegment.inState .ready)
      placementCandidates := some [lineCandidate middlePath, lineCandidate lastPath]
      placementPredictions := predictions
      pathResults := [middlePath, lastPath] }
  have submits : Submits Digest.sha256 (plannedSegment.inState .ready) (line true) "a"
      [lineCandidate middlePath, lineCandidate lastPath] predictions call :=
    ⟨rfl, rfl, ⟨rfl, rfl⟩, rfl,
      mapM_eq_ok_iff_forall₂.mpr (.cons middlePath_built.1 (.cons lastPath_built.1 .nil))⟩
  refine ⟨predictions, call, pipeline, rfl, ?_⟩
  refine ((speculationLaw Digest.sha256_hexadecimal).placed plannedSegment
    (plannedSegment.inState .ready) anyHardware (line true) "a" [] [] bothProfiled _
    predictions {} call generateTypedCandidates_both pipeline rfl submits lineCandidates_nodup
    linePaths_nodup).mpr ?_
  have bounded : (2 : Int) ≤ maxSpeculativeBranches := by decide
  have policies : ∀ text ∈ ["verify", "first_verified", "cancel_losers"], Text.Nonblank text := by
    decide
  exact ⟨List.cons_ne_nil _ _, le_rfl, bounded, policies⟩

end Speculation
end MercuryX
