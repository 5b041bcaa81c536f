import MercuryX.Contracts.Addresses
import MercuryX.Foundation.Numerals
import MercuryX.Foundation.Product
import MercuryX.Placement.Features

/-!
# From a segment to predictions

The candidates for a segment are scored by the deterministic backend, each from the features that
are extracted for it. A score is trusted exactly as far as the path to the candidate is measured and
its locality is known.
-/

namespace MercuryX
namespace Placement

open Foundation DisaggregatedExecution HardwarePersonality MercuryX.Topology

/-! ## The deterministic backend -/

section Deterministic

/-- The fields of the result of the deterministic backend. -/
def deterministicFields (features : PlacementFeatures) : BackendResultFields where
  backendId := "deterministic-weighted"
  backendVersion := "v1"
  backendKind := .deterministic
  candidateId := features.candidateId
  score := scoreFeatures features
  uncertainty := 1
  calibrationState := .uncalibrated
  evidenceIds := features.evidenceIds
  operatingDomain := "certified-deterministic-baseline"
  hardwareProfileGeneration := features.hardwareProfileGeneration
  topologyGeneration := features.topologyGeneration

/-- What the deterministic backend answers. -/
def predictDeterministic (features : PlacementFeatures) : Except Fault PlacementBackendResult :=
  PlacementBackendResult.construct (deterministicFields features)

theorem deterministicPlacementBackend_eq :
    deterministicPlacementBackend = .predicting predictDeterministic := rfl

theorem scoreFeatures_bounded (features : PlacementFeatures) :
    0 ≤ scoreFeatures features ∧ scoreFeatures features ≤ 1 :=
  ⟨le_max_left _ _, max_le zero_le_one (min_le_left _ _)⟩

theorem deterministicFields_visible : ∀ text ∈ ["deterministic-weighted", "v1",
    "certified-deterministic-baseline"], Text.Nonblank text := by
  decide

theorem deterministicFields_valid {features : PlacementFeatures}
    (named : Text.Nonblank features.candidateId) : (deterministicFields features).Valid := by
  have visible := deterministicFields_visible
  have counts := features.counts_pos
  simp only [List.forall_mem_cons, List.not_mem_nil, false_implies, implies_true, and_true]
    at visible counts
  constructor
  case texts_nonblank => simp [BackendResultFields.texts, deterministicFields, visible, named]
  case score_bounded => exact scoreFeatures_bounded features
  case uncertainty_bounded => exact ⟨zero_le_one, le_rfl⟩
  case evidence_distinct =>
    obtain ⟨visible, canonical_eq⟩ := features.evidence_canonical
    have distinct : features.evidenceIds.Nodup :=
      canonical_eq ▸ canonical_nodup id features.evidenceIds
    exact ⟨distinct, visible⟩
  case generations_pos =>
    simpa [BackendResultFields.generations, deterministicFields] using ⟨counts.1, counts.2.1⟩
  case honest => exact ⟨rfl, rfl⟩
  case versioned => exact fun learned => nomatch learned

theorem scoreFeatures_eq {features : PlacementFeatures} {path : PathResult}
    (compatible : features.compatibilityScore = 1)
    (locality : features.localityScore = localityScore path.fields.locality)
    (evidence : features.evidenceScore = evidenceScore path)
    (penalty : features.uncertaintyPenalty = uncertaintyPenalty path) :
    scoreFeatures features = (if path.fields.metricEvidenceIds = [] then 10 / 100 else 70 / 100) +
      30 / 100 * localityScore path.fields.locality := by
  rw [scoreFeatures, compatible, locality, evidence, penalty, evidenceScore, uncertaintyPenalty]
  split <;> cases path.fields.locality <;> decide +kernel

/-- How far such a score is trusted. -/
theorem confidenceBand_eq (path : PathResult) :
    confidenceBand ((if path.fields.metricEvidenceIds = [] then 10 / 100 else 70 / 100) +
      30 / 100 * localityScore path.fields.locality) =
      if path.fields.metricEvidenceIds = [] then .low
      else if path.fields.locality = .unknown then .medium else .high := by
  split <;> cases path.fields.locality <;> decide +kernel

variable {digest : Digest} {candidates : List PlacementCandidate}
  {featuresById : Dict String PlacementFeatures} {backend : PlacementBackend}

theorem confidenceBand_of_predictPlacements {predictions : List PlacementPrediction}
    (made : predictPlacements digest candidates featuresById backend = .ok predictions)
    {prediction : PlacementPrediction} (member : prediction ∈ predictions) :
    prediction.confidenceBand = confidenceBand prediction.rawScore := by
  obtain ⟨out, each, sorted⟩ := bind_eq_ok.mp made
  obtain rfl := Except.ok.inj sorted
  obtain ⟨candidate, _, answered⟩ := (mem_of_mapM_eq_ok each).mp ((mem_sortOn _).mp member)
  simp only [predictPlacement, bind_eq_ok, PlacementPrediction.construct_eq_ok_iff] at answered
  obtain ⟨_, _, _, _, result, _, _, _, _, _, _, _, _, rfl⟩ := answered
  rfl

theorem generations_of_predictPlacements {predictions : List PlacementPrediction}
    (made : predictPlacements digest candidates featuresById backend = .ok predictions)
    {prediction : PlacementPrediction} (member : prediction ∈ predictions)
    {features : PlacementFeatures}
    (found : featuresById.get? prediction.candidateId = some features) :
    prediction.hardwareProfileGeneration = features.hardwareProfileGeneration ∧
      prediction.topologyGeneration = features.topologyGeneration ∧
      Text.Nonblank prediction.predictionId := by
  obtain ⟨out, each, sorted⟩ := bind_eq_ok.mp made
  obtain rfl := Except.ok.inj sorted
  obtain ⟨candidate, _, answered⟩ := (mem_of_mapM_eq_ok each).mp ((mem_sortOn _).mp member)
  rw [(eq_of_predictPlacement answered).1] at found
  simp only [predictPlacement, featuresOf, found, Option.elim_some, ok_bind, bind_eq_ok,
    require_eq_ok, exists_const, PlacementPrediction.construct_eq_ok_iff] at answered
  obtain ⟨_, result, _, _, generations, _, _, rfl⟩ := answered
  exact ⟨generations.1, generations.2, digest.nonblank _⟩

end Deterministic

/-! ## From a segment to predictions -/

section Pipeline

/-- What a prediction says of a candidate that a path leads to. -/
structure Scored (prediction : PlacementPrediction) (path : PathResult) : Prop where
  /-- A measured path scores higher, and so does a closer one. -/
  score : prediction.rawScore =
    (if path.fields.metricEvidenceIds = [] then 10 / 100 else 70 / 100) +
      30 / 100 * localityScore path.fields.locality
  /-- A score is trusted where the path is measured, highly where the locality is known too. -/
  band : prediction.confidenceBand = if path.fields.metricEvidenceIds = [] then .low
    else if path.fields.locality = .unknown then .medium else .high
  /-- The evidence is that of the path. -/
  evidence : prediction.evidenceIds = path.fields.metricEvidenceIds
  /-- No certainty is claimed. -/
  uncertain : prediction.uncertainty = 1 ∧ prediction.calibrationState = .uncalibrated

/-- The features of a candidate of a graph. -/
structure Extracted {digest : Digest} (requirement : HardwareRequirement)
    (graph : TopologyGraph digest) (sourceNodeId : String)
    (profilesByNode : Dict String (HardwarePersonalityProfile digest))
    (candidate : PlacementCandidate) (path : PathResult)
    (profile : HardwarePersonalityProfile digest) (features : PlacementFeatures) : Prop where
  /-- The path is the one to the node of the candidate. -/
  built : buildPathResult graph sourceNodeId candidate.topologyNodeId [] = .ok path
  /-- The profile is the one that is given for it. -/
  profiled : profilesByNode.get? candidate.topologyNodeId = some profile
  /-- The features are those of the candidate. -/
  extracted : extractTypedFeatures candidate path (some graph) (some profile) (some requirement) =
    .ok features
  /-- They describe the candidate. -/
  describes : Describes features candidate path profile requirement
  /-- They are scored by the evidence and the locality of the path. -/
  score : scoreFeatures features =
    (if path.fields.metricEvidenceIds = [] then 10 / 100 else 70 / 100) +
      30 / 100 * localityScore path.fields.locality

/-- Where the prediction for a candidate comes from. -/
structure Traced {digest : Digest} (requirement : HardwareRequirement)
    (graph : TopologyGraph digest) (sourceNodeId : String)
    (profilesByNode : Dict String (HardwarePersonalityProfile digest))
    (featuresById : Dict String PlacementFeatures) (candidate : PlacementCandidate)
    (prediction : PlacementPrediction) (path : PathResult)
    (profile : HardwarePersonalityProfile digest) (features : PlacementFeatures) : Prop extends
    Extracted requirement graph sourceNodeId profilesByNode candidate path profile features where
  /-- The prediction is made from the features. -/
  found : featuresById.get? candidate.candidateId = some features
  /-- It is for the candidate. -/
  named : prediction.candidateId = candidate.candidateId
  /-- It is scored by the path. -/
  scored : Scored prediction path

variable {digest : Digest} {segment : ExecutionSegment} {requirement : HardwareRequirement}
  {graph : TopologyGraph digest} {sourceNodeId : String}
  {segments : List ExecutionSegment} {handoffs : List ExecutionHandoff}
  {profilesByNode : Dict String (HardwarePersonalityProfile digest)}
  {candidates : List PlacementCandidate}

theorem exists_extracted (hexadecimal : digest.Hexadecimal) {candidate : PlacementCandidate}
    (made : ∃ entry ∈ profilesByNode.entries,
      candidateOf segment requirement graph sourceNodeId entry = .ok (some candidate)) :
    candidate.eligible = true ∧ Text.Nonblank candidate.candidateId ∧
      ∃ features path profile, Extracted requirement graph sourceNodeId profilesByNode candidate
        path profile features := by
  obtain ⟨⟨nodeId, profile⟩, inMap, outcome⟩ := made
  obtain ⟨node, inGraph, named, considered, path, built, _, rfl⟩ :=
    node_of_candidateOf hexadecimal outcome
  obtain ⟨other, otherBuilt, fit, identity, constructed, accepted, recorded⟩ :=
    exists_accepted_path hexadecimal considered.2.2
  obtain rfl := Except.ok.inj (built.symm.trans otherBuilt)
  obtain ⟨features, extracted, describes, compatible, locality, evidence, penalty⟩ :=
    exists_extractTypedFeatures fit identity constructed accepted (recorded segment profile)
      (compatible_iff.mp considered.2.1)
  exact ⟨rfl, (hexadecimal.trimmed _).nonblank, features, path, profile, built,
    Dict.get?_eq_some_iff.mpr inMap, extracted, describes,
    scoreFeatures_eq compatible locality evidence penalty⟩

/-- The layout of what the identity of a candidate covers. -/
def candidateLayout : Json.Layout := .record [("segment_id", .scalar),
  ("topology_graph_id", .scalar), ("topology_generation", .scalar), ("node_id", .scalar),
  ("hardware_profile_id", .scalar), ("hardware_profile_generation", .scalar),
  ("hardware_profile_fingerprint", .scalar), ("path_result_id", .scalar),
  ("path_result_fingerprint", .scalar)]

theorem distinct_candidateLayout : Json.Distinct candidateLayout := by
  simp [candidateLayout, Json.Distinct, Json.DistinctFields]

theorem nodeId_of_typedCandidate {nodeId otherNodeId : String}
    {profile otherProfile : HardwarePersonalityProfile digest} {path otherPath : PathResult}
    (tells : digest.Tells (typedCandidate segment graph nodeId profile path).identityPayload
      (typedCandidate segment graph otherNodeId otherProfile otherPath).identityPayload)
    (same : (typedCandidate segment graph nodeId profile path).candidateId =
      (typedCandidate segment graph otherNodeId otherProfile otherPath).candidateId) :
    nodeId = otherNodeId := by
  have fits (nodeId : String) (profile : HardwarePersonalityProfile digest) (path : PathResult) :
      Json.Fits candidateLayout
        (typedCandidate segment graph nodeId profile path).identityPayload := by
    simp [candidateLayout, PlacementCandidate.identityPayload, typedCandidate, typedDraft,
      Json.Fits, Json.FitsFields, Json.IsScalar, Json.optStr, Json.optInt]
  have contents := tells.eq_of_fits distinct_candidateLayout (fits _ _ _) (fits _ _ _) same
  simp only [PlacementCandidate.identityPayload, typedCandidate, typedDraft, Json.obj.injEq,
    List.cons.injEq, Prod.mk.injEq, Json.str.injEq, true_and, and_true] at contents
  exact contents.1

theorem candidateIds_nodup (hexadecimal : digest.Hexadecimal)
    (free : digest.CollisionFreeOn (candidates.map PlacementCandidate.identityPayload))
    (distinct : (candidates.map PlacementCandidate.topologyNodeId).Nodup)
    (made : ∀ candidate ∈ candidates, ∃ entry ∈ profilesByNode.entries,
      candidateOf segment requirement graph sourceNodeId entry = .ok (some candidate)) :
    (candidates.map PlacementCandidate.candidateId).Nodup := by
  refine List.pairwise_map.mpr ((List.pairwise_map.mp distinct).imp_of_mem ?_)
  intro left right leftMem rightMem apart same
  obtain ⟨_, _, leftMade⟩ := made left leftMem
  obtain ⟨_, _, rightMade⟩ := made right rightMem
  obtain ⟨_, _, _, _, _, _, _, rfl⟩ := node_of_candidateOf hexadecimal leftMade
  obtain ⟨_, _, _, _, _, _, _, rfl⟩ := node_of_candidateOf hexadecimal rightMade
  exact apart (nodeId_of_typedCandidate
    (free _ (List.mem_map_of_mem leftMem) _ (List.mem_map_of_mem rightMem)) same)

/-- Generated candidates with distinct ids do not collide. -/
theorem collisionFreeOn_of_candidateIds (hexadecimal : digest.Hexadecimal)
    (made : ∀ candidate ∈ candidates, ∃ entry ∈ profilesByNode.entries,
      candidateOf segment requirement graph sourceNodeId entry = .ok (some candidate))
    (distinct : (candidates.map PlacementCandidate.candidateId).Nodup) :
    digest.CollisionFreeOn (candidates.map PlacementCandidate.identityPayload) := by
  have named : ∀ candidate ∈ candidates,
      candidate.candidateId = digest.hexdigest candidate.identityPayload := by
    intro candidate member
    obtain ⟨_, _, outcome⟩ := made candidate member
    obtain ⟨_, _, _, _, _, _, _, rfl⟩ := node_of_candidateOf hexadecimal outcome
    rfl
  rw [List.map_congr_left named] at distinct
  exact Digest.collisionFreeOn_map_of_nodup distinct

theorem exists_featuresById (distinct : (candidates.map PlacementCandidate.candidateId).Nodup)
    (extracted : ∀ candidate ∈ candidates, ∃ features path profile,
      Extracted requirement graph sourceNodeId profilesByNode candidate path profile features) :
    ∃ featuresById : Dict String PlacementFeatures, ∀ candidate ∈ candidates,
      ∃ features path profile,
        Extracted requirement graph sourceNodeId profilesByNode candidate path profile features ∧
        featuresById.get? candidate.candidateId = some features := by
  obtain ⟨featuresList, each⟩ := exists_forall₂_of_forall_mem extracted
  have ids : featuresList.map PlacementFeatures.candidateId =
      candidates.map PlacementCandidate.candidateId := by
    have matched := List.forall₂_map_left_iff.mpr (List.forall₂_map_right_iff.mpr
      (each.imp fun _ _ ⟨_, _, extracted⟩ => extracted.describes.candidateId))
    rwa [List.forall₂_eq_eq_eq] at matched
  refine ⟨Dict.indexed PlacementFeatures.candidateId featuresList, fun candidate member => ?_⟩
  obtain ⟨features, inList, path, profile, extracted⟩ := exists_of_forall₂ each.flip member
  exact ⟨features, path, profile, extracted, (Dict.indexed_get?_eq_some_iff
    (ids.symm ▸ distinct)).mpr ⟨inList, extracted.describes.candidateId⟩⟩

theorem predictDeterministic_eq {features : PlacementFeatures}
    (visible : Text.Nonblank features.candidateId) :
    predictDeterministic features = .ok (.make _ (deterministicFields_valid visible)) := by
  rw [predictDeterministic, PlacementBackendResult.construct]
  exact checked_eq_ok_iff.mpr ⟨deterministicFields_valid visible, rfl⟩

variable {featuresById : Dict String PlacementFeatures}

theorem served_deterministic {candidateId : String} {features : PlacementFeatures}
    (visible : Text.Nonblank features.candidateId)
    (found : featuresById.get? candidateId = some features)
    (same : features.candidateId = candidateId) :
    Served featuresById predictDeterministic candidateId features
      (.make _ (deterministicFields_valid visible)) :=
  ⟨found, same, predictDeterministic_eq visible, same, rfl, rfl⟩

theorem exists_handedOver_deterministic (digest : Digest)
    (named : ∀ candidate ∈ candidates, Text.Nonblank candidate.candidateId)
    (indexed : ∀ candidate ∈ candidates, ∃ features : PlacementFeatures,
      featuresById.get? candidate.candidateId = some features ∧
        features.candidateId = candidate.candidateId) :
    ∃ predictions, HandedOver digest candidates featuresById predictDeterministic predictions := by
  refine (exists_handedOver_iff digest candidates featuresById _ fun candidate member _ => ?_).mpr
    fun candidate member _ features result served => ?_
  · obtain ⟨features, found, same⟩ := indexed candidate member
    exact ⟨features, _, served_deterministic (same ▸ named candidate member) found same⟩
  · have visible : Text.Nonblank features.candidateId :=
      served.features_match ▸ named candidate member
    obtain rfl := Except.ok.inj ((predictDeterministic_eq visible).symm.trans served.answered)
    rfl

theorem scored_of_extracted {predictions : List PlacementPrediction}
    (handedOver : HandedOver digest candidates featuresById predictDeterministic predictions)
    {prediction : PlacementPrediction} (inPredictions : prediction ∈ predictions)
    {candidate : PlacementCandidate} (named : prediction.candidateId = candidate.candidateId)
    (visible : Text.Nonblank candidate.candidateId) {path : PathResult}
    {profile : HardwarePersonalityProfile digest} {features : PlacementFeatures}
    (extracted : Extracted requirement graph sourceNodeId profilesByNode candidate path profile
      features) (found : featuresById.get? candidate.candidateId = some features) :
    Scored prediction path := by
  have same := extracted.describes.candidateId
  have carries := handedOver.carried prediction inPredictions _ _
    (served_deterministic (same ▸ visible) (named ▸ found) (same.trans named.symm))
  have score : prediction.rawScore = _ := carries.score.trans extracted.score
  refine ⟨score, ?_, ?_, carries.uncertainty, carries.calibrationState⟩
  · rw [confidenceBand_of_predictPlacements (handedOver.predicted _ (.refl _)) inPredictions,
      score, confidenceBand_eq]
  · have evidenceSorted : sortOn id features.evidenceIds = features.evidenceIds :=
      sortOn_of_canonical features.evidence_canonical.2
    exact (carries.evidenceIds.trans evidenceSorted).trans extracted.describes.evidence

theorem Scored.lt_of_measured {better worse : PlacementPrediction} {path other : PathResult}
    (betterScored : Scored better path) (worseScored : Scored worse other)
    (measured : better.evidenceIds ≠ []) (unmeasured : worse.evidenceIds = []) :
    worse.rawScore < better.rawScore := by
  rw [betterScored.evidence] at measured
  rw [worseScored.evidence] at unmeasured
  rw [betterScored.score, worseScored.score, if_neg measured, if_pos unmeasured]
  have high := (localityScore_bounded other.fields.locality).2
  have low := (localityScore_bounded path.fields.locality).1
  linarith

/-- Every candidate is scored by the path to it, and measured paths go first. -/
structure Pipeline (digest : Digest) (requirement : HardwareRequirement)
    (graph : TopologyGraph digest) (sourceNodeId : String)
    (profilesByNode : Dict String (HardwarePersonalityProfile digest))
    (candidates : List PlacementCandidate) (predictions : List PlacementPrediction) : Prop where
  /-- There is one prediction for each candidate. -/
  one_each : (predictions.map PlacementPrediction.candidateId).Perm
    (candidates.map PlacementCandidate.candidateId)
  /-- They stand in the order of their ids. -/
  sorted : predictions.Pairwise fun earlier later => earlier.candidateId ≤ later.candidateId
  /-- Features are extracted for every candidate, and its prediction is made from them, whatever the
  order of the candidates. -/
  traced : ∃ featuresById,
    (∀ others, List.Perm others candidates →
      predictPlacements digest others featuresById = .ok predictions) ∧
    ∀ candidate ∈ candidates, ∃ prediction ∈ predictions, ∃ path profile features,
      Traced requirement graph sourceNodeId profilesByNode featuresById candidate prediction path
        profile features
  /-- A candidate that a measured path leads to goes before any other. -/
  measured_first : ∀ better ∈ predictions, ∀ worse ∈ predictions, better.evidenceIds ≠ [] →
    worse.evidenceIds = [] → worse.rawScore < better.rawScore

/-- Generated candidates with distinct ids are scored. -/
theorem exists_pipeline (hexadecimal : digest.Hexadecimal)
    (made : ∀ candidate ∈ candidates, ∃ entry ∈ profilesByNode.entries,
      candidateOf segment requirement graph sourceNodeId entry = .ok (some candidate))
    (distinct : (candidates.map PlacementCandidate.candidateId).Nodup) :
    ∃ predictions, Pipeline digest requirement graph sourceNodeId profilesByNode candidates
      predictions := by
  have facts := fun candidate member => exists_extracted hexadecimal (made candidate member)
  obtain ⟨featuresById, indexed⟩ :=
    exists_featuresById distinct fun candidate member => (facts candidate member).2.2
  obtain ⟨predictions, handedOver⟩ := exists_handedOver_deterministic digest
    (fun candidate member => (facts candidate member).2.1) fun candidate member => by
      obtain ⟨features, _, _, extracted, found⟩ := indexed candidate member
      exact ⟨features, found, extracted.describes.candidateId⟩
  have oneEach := handedOver.one_each
  rw [List.filter_eq_self.mpr fun candidate member => (facts candidate member).1] at oneEach
  have scored : ∀ prediction ∈ predictions, ∀ candidate ∈ candidates,
      prediction.candidateId = candidate.candidateId → ∃ path profile features,
        Traced requirement graph sourceNodeId profilesByNode featuresById candidate prediction path
          profile features := by
    intro prediction inPredictions candidate member named
    obtain ⟨features, path, profile, extracted, found⟩ := indexed candidate member
    exact ⟨path, profile, features, extracted, found, named, scored_of_extracted handedOver
      inPredictions named (facts candidate member).2.1 extracted found⟩
  refine ⟨predictions, oneEach, handedOver.sorted, ⟨featuresById, ?_, fun candidate member => ?_⟩,
    fun better betterMem worse worseMem measured unmeasured => ?_⟩
  · rw [deterministicPlacementBackend_eq]
    exact handedOver.predicted
  · obtain ⟨prediction, inPredictions, named⟩ := List.mem_map.mp
      (oneEach.mem_iff.mpr (List.mem_map_of_mem member))
    exact ⟨prediction, inPredictions, scored prediction inPredictions candidate member named⟩
  · have path_of {prediction : PlacementPrediction} (inPredictions : prediction ∈ predictions) :
        ∃ path, Scored prediction path := by
      obtain ⟨candidate, member, named⟩ := List.mem_map.mp
        (oneEach.mem_iff.mp (List.mem_map_of_mem inPredictions))
      obtain ⟨path, _, _, traced⟩ :=
        scored prediction inPredictions candidate member named.symm
      exact ⟨path, traced.scored⟩
    obtain ⟨path, betterScored⟩ := path_of betterMem
    obtain ⟨other, worseScored⟩ := path_of worseMem
    exact betterScored.lt_of_measured worseScored measured unmeasured

end Pipeline

/-! ## The law of placement -/

/-- What placement does, from a segment to the predictions for its candidates. -/
structure PlacementLaw (digest : Digest) : Prop where
  /-- Features are only extracted from what a candidate records: the path that it names, as the
  graph gives it now, and the profile that it names. -/
  accepted : ∀ (candidate : PlacementCandidate) (pathResult : PathResult)
    (topologyGraph : Option (TopologyGraph digest))
    (hardwareProfile : Option (HardwarePersonalityProfile digest))
    (requirement : Option HardwareRequirement) (features : PlacementFeatures),
    extractTypedFeatures candidate pathResult topologyGraph hardwareProfile requirement =
      .ok features →
    Accepted candidate pathResult topologyGraph hardwareProfile features
  /-- For a ready segment and an active source, candidates are generated. Where no two of them
  collide their ids are distinct, and where the ids are distinct, each of them is scored by the path
  to it, and measured paths go first. -/
  placed : ∀ (segment : ExecutionSegment) (requirement : HardwareRequirement)
    (graph : TopologyGraph digest) (sourceNodeId : String) (segments : List ExecutionSegment)
    (handoffs : List ExecutionHandoff)
    (profilesByNode : Dict String (HardwarePersonalityProfile digest)),
    evaluateSegmentReadiness segment segments handoffs = true →
    (∃ node ∈ graph.nodes, node.topologyNodeId = sourceNodeId ∧ node.active = true) →
    ∃ candidates, generateTypedCandidates segment requirement graph sourceNodeId segments handoffs
        profilesByNode = .ok candidates ∧
      (digest.CollisionFreeOn (candidates.map PlacementCandidate.identityPayload) →
        (candidates.map PlacementCandidate.candidateId).Nodup) ∧
      ((candidates.map PlacementCandidate.candidateId).Nodup → ∃ predictions,
        Pipeline digest requirement graph sourceNodeId profilesByNode candidates predictions)

theorem placementLaw {digest : Digest} (hexadecimal : digest.Hexadecimal) :
    PlacementLaw digest where
  accepted _ _ _ _ _ _ extracted := accepted_of_extracted extracted
  placed segment requirement graph sourceNodeId segments handoffs profilesByNode ready source := by
    obtain ⟨candidates, generated, distinct, made⟩ :=
      @exists_generateTypedCandidates digest segment requirement graph sourceNodeId segments
        handoffs profilesByNode hexadecimal ready source
    have inMap := fun candidate member => (made candidate).mp member
    exact ⟨candidates, generated, fun free => candidateIds_nodup hexadecimal free distinct inMap,
      exists_pipeline hexadecimal inMap⟩

/-! ## Two candidates on the line -/

section Line

/-- The profile is given for the node in the middle too. -/
def bothProfiled : Dict String (HardwarePersonalityProfile Digest.sha256) :=
  lastProfiled.insert "b" processorProfile

/-- The path along the line to a node, with the nodes and links that it passes. -/
def linePath (nodeIds linkIds : List String) (nodeId : String) : PathResult :=
  let fields := { PathFields.routeless (line true) "a" nodeId [] with
    orderedNodeIds := nodeIds
    orderedLinkIds := linkIds }
  ⟨addressOf Digest.sha256 "path_result" (fields.fingerprint Digest.sha256), fields,
    fields.fingerprint Digest.sha256⟩

/-- The path to the node in the middle. -/
def middlePath : PathResult := linePath ["a", "b"] ["ab"] "b"

/-- The path to the last node. -/
def lastPath : PathResult := linePath ["a", "b", "c"] ["ab", "bc"] "c"

/-- The candidate at the end of a path. -/
def lineCandidate (path : PathResult) : PlacementCandidate :=
  typedCandidate plannedSegment (line true) path.fields.destinationNodeId processorProfile path

theorem linePaths_apart : middlePath.pathResultId ≠ lastPath.pathResultId ∧
    (lineCandidate middlePath).candidateId ≠ (lineCandidate lastPath).candidateId := by
  -- every digest is brought to light, so that it can be computed on numerals
  simp only [lineCandidate, typedCandidate, PlacementCandidate.typedId,
    PlacementCandidate.identityPayload, typedDraft, middlePath, lastPath, linePath,
    PathFields.routeless, PathFields.fingerprint, PathFields.payload, addressOf, line,
    topologyGraphFingerprint, makeTopologyGraphId, lineNodes, lineLinks, List.map,
    TopologyNode.dump, TopologyLink.dump, processorNode, processorProfile, makeProfileIdentity,
    makeHardwareProfileFingerprint, processorContent, processor, HardwareDescriptor.dump,
    Digest.sha256_eq_numeric]
  decide +kernel

theorem middle_trimmed : Text.Trimmed "b" := by
  decide

theorem last_trimmed : Text.Trimmed "c" := by
  decide

/-- A path that is found along the line is built, and the candidate at its end is generated. -/
theorem linePath_built {nodeIds linkIds : List String} {nodeId : String}
    {links : List TopologyLink} (trimmed : Text.Trimmed nodeId)
    (member : processorNode nodeId trimmed true ∈ (line true).nodes)
    (found : findPath (line true) "a" nodeId = some links)
    (made : pathFields (line true) "a" nodeId [] = .ok (linePath nodeIds linkIds nodeId).fields) :
    buildPathResult (line true) "a" nodeId [] = .ok (linePath nodeIds linkIds nodeId) ∧
      candidateOf plannedSegment anyHardware (line true) "a" (nodeId, processorProfile) =
        .ok (some (lineCandidate (linePath nodeIds linkIds nodeId))) := by
  have considered : Considered anyHardware (line true) "a" nodeId processorProfile :=
    (considered_iff member).mpr ⟨rfl, rfl, anyHardware_satisfied, links, found⟩
  obtain ⟨_, again, fit, _⟩ := pathFields_of_available considered.2.2
  obtain rfl := Except.ok.inj (again.symm.trans made)
  have built := build_of_settled Digest.sha256_hexadecimal made fit.settled
  obtain ⟨_, rebuilt, _, outcome⟩ := candidateOf_of_considered plannedSegment
    (nodeId, processorProfile) Digest.sha256_hexadecimal considered
  obtain rfl := Except.ok.inj (rebuilt.symm.trans built)
  exact ⟨built, outcome⟩

theorem middlePath_built : buildPathResult (line true) "a" "b" [] = .ok middlePath ∧
    candidateOf plannedSegment anyHardware (line true) "a" ("b", processorProfile) =
      .ok (some (lineCandidate middlePath)) :=
  linePath_built middle_trimmed (by simp [line, lineNodes]) rfl rfl

theorem lastPath_built : buildPathResult (line true) "a" "c" [] = .ok lastPath ∧
    candidateOf plannedSegment anyHardware (line true) "a" ("c", processorProfile) =
      .ok (some (lineCandidate lastPath)) :=
  linePath_built last_trimmed (by simp [line, lineNodes]) rfl rfl

theorem bothProfiled_sorted : sortOn Prod.fst bothProfiled.entries =
    [("b", processorProfile), ("c", processorProfile)] := rfl

theorem generateTypedCandidates_both :
    generateTypedCandidates plannedSegment anyHardware (line true) "a" [] [] bothProfiled =
      .ok [lineCandidate middlePath, lineCandidate lastPath] := by
  simp only [generateTypedCandidates, bothProfiled_sorted, List.mapM_cons, List.mapM_nil,
    middlePath_built.2, lastPath_built.2, ok_bind, pure_eq_ok]
  rfl

theorem lineCandidates_made : ∀ candidate ∈ [lineCandidate middlePath, lineCandidate lastPath],
    ∃ entry ∈ bothProfiled.entries,
      candidateOf plannedSegment anyHardware (line true) "a" entry = .ok (some candidate) := by
  have inMap : ∀ entry ∈ [("b", processorProfile), ("c", processorProfile)],
      entry ∈ bothProfiled.entries := by
    intro entry member
    rw [← bothProfiled_sorted] at member
    exact (mem_sortOn _).mp member
  refine List.forall_mem_cons.mpr ⟨⟨_, inMap _ List.mem_cons_self, middlePath_built.2⟩, ?_⟩
  exact List.forall_mem_singleton.mpr
    ⟨_, inMap _ (List.mem_cons_of_mem _ List.mem_cons_self), lastPath_built.2⟩

theorem lineCandidates_nodup :
    ([lineCandidate middlePath, lineCandidate lastPath].map
      PlacementCandidate.candidateId).Nodup :=
  List.nodup_cons.mpr
    ⟨fun same => linePaths_apart.2 (List.mem_singleton.mp same), List.nodup_singleton _⟩

theorem linePaths_nodup : ([middlePath, lastPath].map PathResult.pathResultId).Nodup :=
  List.nodup_cons.mpr
    ⟨fun same => linePaths_apart.1 (List.mem_singleton.mp same), List.nodup_singleton _⟩

/-- A segment is placed on two nodes of the line, and predicted on both. -/
theorem placementLaw_line : ∃ predictions,
    generateTypedCandidates plannedSegment anyHardware (line true) "a" [] [] bothProfiled =
      .ok [lineCandidate middlePath, lineCandidate lastPath] ∧
    Pipeline Digest.sha256 anyHardware (line true) "a" bothProfiled
      [lineCandidate middlePath, lineCandidate lastPath] predictions := by
  obtain ⟨candidates, again, distinct, predicted⟩ :=
    (placementLaw Digest.sha256_hexadecimal).placed plannedSegment anyHardware (line true) "a" []
      [] bothProfiled rfl (source_line true)
  obtain rfl := Except.ok.inj (again.symm.trans generateTypedCandidates_both)
  have free := collisionFreeOn_of_candidateIds Digest.sha256_hexadecimal lineCandidates_made
    lineCandidates_nodup
  obtain ⟨predictions, pipeline⟩ := predicted (distinct free)
  exact ⟨predictions, again, pipeline⟩

end Line

end Placement
end MercuryX
