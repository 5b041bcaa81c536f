import MercuryX.ContextPrediction.Features
import MercuryX.ContextPrediction.Predictions
import MercuryX.ContextPrediction.Sources
import MercuryX.ContextPrediction.Withdrawal
import MercuryX.Foundation.Numerals
import MercuryX.Foundation.Reading

/-!
# The ranking of predictions

With the default backend every candidate has at most one prediction: the one that its feature
vector gives it. Where candidates are about distinct contexts these predictions have one order,
which depends neither on how the candidates are listed nor on how their vectors are, and a request
is answered with the beginning of it.
-/

namespace MercuryX
namespace ContextPrediction

open Foundation GlobalMemory

set_option linter.dupNamespace false

/-! ## Identities -/

section Identities

variable {digest : Digest}

/-- Candidates that the digest tells apart are about one context when they have one identity. -/
theorem contextKey_eq_of_candidateId {left right : ContextPredictionCandidate digest}
    (tells : digest.Tells left.payload right.payload)
    (same : left.candidateId = right.candidateId) : left.contextKey = right.contextKey := by
  rw [left.valid.addressed, right.valid.addressed, CandidateContent.address,
    CandidateContent.address] at same
  have members := tells.normalMembers_eq same
    (by simp [Json.ExactMembers, Json.Exact, Json.exactItems_iff])
    (by simp [Json.ExactMembers, Json.Exact, Json.exactItems_iff]) rfl (by simp)
  simp only [Json.normalMembers, Json.normal, List.cons.injEq, Prod.mk.injEq, Json.str.injEq,
    true_and] at members
  exact members.2.2.1

/-- Predictions that the digest tells apart are about one context when they have one identity. -/
theorem contextKey_eq_of_predictionId {left right : ContextPrediction digest}
    (tells : digest.Tells left.payload right.payload)
    (same : left.predictionId = right.predictionId) : left.contextKey = right.contextKey := by
  rw [left.valid.addressed, right.valid.addressed, PredictionContent.address,
    PredictionContent.address] at same
  have members := tells.normalMembers_eq same
    (by simp [Json.ExactMembers, Json.Exact, Json.exactItems_iff])
    (by simp [Json.ExactMembers, Json.Exact, Json.exactItems_iff]) rfl (by simp)
  simp only [Json.normalMembers, Json.normal, List.cons.injEq, Prod.mk.injEq, Json.str.injEq,
    true_and] at members
  exact members.2.2.1

theorem contextKey_eq_of_key {left right : ContextPrediction digest}
    (same : left.key = right.key) : left.contextKey = right.contextKey := by
  have parts := congrArg (fun key => (ofLex (ofLex (ofLex (ofLex (ofLex key).2).2).2).2).1) same
  exact parts

end Identities

/-! ## The prediction of a candidate -/

section Predicted

variable {digest : Digest} (request : ContextPredictionRequest)
  (candidate : ContextPredictionCandidate digest) (vector : ContextPredictionFeatureVector)

theorem ContextPredictionReasonCode.value_injective {left right : ContextPredictionReasonCode}
    (same : left.value = right.value) : left = right := by
  revert same
  cases left <;> cases right <;> decide

theorem predictionContent_valid : (predictionContent request candidate (scored vector)).Valid where
  texts := by
    have content := candidate.valid.content
    have predictor := request.texts_nonblank request.predictorId (by simp)
    have version := request.texts_nonblank request.predictorVersion (by simp)
    simp [predictionContent, content.namespaceId, content.contextKey, predictor, version]
  confidence := confidenceOf_within vector
  creationSequence := candidate.valid.content.creationSequence
  globalIds := candidate.valid.content.globalIds
  phase8Ids := candidate.valid.content.phase8Ids
  reasons_nodup :=
    (canonical_nodup _ _).map fun _ _ => ContextPredictionReasonCode.value_injective
  reasons_sorted := by
    have sorted := map_sortOn ContextPredictionReasonCode.value ContextPredictionReasonCode.value
      id (fun _ => rfl) (reasonsOf vector)
    have alone : sortOn ContextPredictionReasonCode.value (reasonsOf vector) = reasonsOf vector :=
      sortOn_eq_self _ (canonical_pairwise _ _)
    rw [alone] at sorted
    exact sorted
  reasons_few := length_reasonsOf vector

theorem predictionFields_valid : (predictionFields request candidate (scored vector)
    ((predictionContent request candidate (scored vector)).address digest)).Valid digest where
  content := predictionContent_valid request candidate vector
  addressed := rfl
  rawScore := confidenceOf_within vector
  distinct := candidate.valid.distinct
  few := candidate.valid.few
  linked := candidate.valid.linked
  honest := ⟨fun _ => ⟨rfl, rfl⟩, nofun⟩
  calibrationEvidence := ⟨nofun, rfl⟩
  confidenceBand := rfl
  bounded := candidate.valid.bounded

/-- The prediction that a vector gives to its candidate. -/
def predicted : ContextPrediction digest :=
  .make _ (predictionFields_valid request candidate vector)

theorem contextPrediction_eq_ok (authorized : candidate.space = request.space) :
    contextPrediction request (candidate, scored vector) =
      .ok (predicted request candidate vector) := by
  have identity : makeContextPredictionId digest
      (predictionContent request candidate (scored vector)) =
        .ok ((predictionContent request candidate (scored vector)).address digest) :=
    makeContextPredictionId_eq_ok_iff.mpr
      ⟨predictionContent_valid request candidate vector, rfl⟩
  simp only [contextPrediction, require_of_true authorized, ok_bind, identity]
  exact ContextPrediction.construct_eq_ok_iff.mpr
    ⟨predictionFields_valid request candidate vector, rfl⟩

end Predicted

/-! ## What assembling answers -/

section Assembling

variable {digest : Digest} {request : ContextPredictionRequest}
  {candidates : List (ContextPredictionCandidate digest)}
  {features : List ContextPredictionFeatureVector}

/-- The candidates whose vectors look as far ahead as is asked for, with these vectors. -/
def askedCandidates (request : ContextPredictionRequest)
    (candidates : List (ContextPredictionCandidate digest))
    (features : List ContextPredictionFeatureVector) :
    List (ContextPredictionCandidate digest × ContextPredictionFeatureVector) :=
  candidates.filterMap fun candidate =>
    (askedVector features request.predictionHorizon candidate.candidateId).map (candidate, ·)

/-- The predictions of a request in canonical order. -/
def ranking (request : ContextPredictionRequest)
    (candidates : List (ContextPredictionCandidate digest))
    (features : List ContextPredictionFeatureVector) : List (ContextPrediction digest) :=
  sortOn ContextPrediction.key ((askedCandidates request candidates features).map
    fun entry => predicted request entry.1 entry.2)

theorem mem_askedCandidates_iff
    (distinct : (features.map fun vector => vector.candidateId).Nodup)
    {candidate : ContextPredictionCandidate digest} {vector : ContextPredictionFeatureVector} :
    (candidate, vector) ∈ askedCandidates request candidates features ↔
      candidate ∈ candidates ∧ (vector ∈ features ∧ vector.candidateId = candidate.candidateId) ∧
        Asked request.predictionHorizon vector := by
  simp only [askedCandidates, List.mem_filterMap, Option.map_eq_some_iff, Prod.mk.injEq,
    askedVector_eq_some_iff distinct]
  constructor
  · rintro ⟨_, member, _, asked, rfl, rfl⟩
    exact ⟨member, asked⟩
  · rintro ⟨member, asked⟩
    exact ⟨candidate, member, vector, asked, rfl, rfl⟩

theorem askedCandidates_sublist (request : ContextPredictionRequest)
    (candidates : List (ContextPredictionCandidate digest))
    (features : List ContextPredictionFeatureVector) :
    ((askedCandidates request candidates features).map Prod.fst).Sublist candidates := by
  induction candidates with
  | nil => exact .slnil
  | cons candidate candidates induction =>
      rw [askedCandidates, List.filterMap_cons]
      cases askedVector features request.predictionHorizon candidate.candidateId with
      | none => exact .cons _ induction
      | some vector => exact .cons_cons _ induction

/-- What a list of candidates needs to be predicted for a request. -/
structure Predictable (request : ContextPredictionRequest)
    (candidates : List (ContextPredictionCandidate digest)) : Prop where
  /-- The candidates are few enough. -/
  few : candidates.length ≤ maxPredictionCandidates
  /-- They are of the namespace of the request. -/
  authorized : ∀ candidate ∈ candidates, candidate.space = request.space
  /-- They are about distinct contexts. -/
  contexts : (candidates.map fun candidate => candidate.contextKey).Nodup

theorem Predictable.of_perm {others : List (ContextPredictionCandidate digest)}
    (predictable : Predictable request candidates) (perm : others.Perm candidates) :
    Predictable request others where
  few := perm.length_eq ▸ predictable.few
  authorized := fun candidate member => predictable.authorized candidate (perm.mem_iff.mp member)
  contexts := (perm.map _).nodup_iff.mpr predictable.contexts

theorem Predictable.candidateIds_nodup (predictable : Predictable request candidates)
    (free : digest.CollisionFreeOn (candidates.map fun candidate => candidate.payload)) :
    (candidates.map fun candidate => candidate.candidateId).Nodup :=
  List.pairwise_map.mpr ((List.pairwise_map.mp predictable.contexts).imp_of_mem
    fun left right apart same => apart (contextKey_eq_of_candidateId
      (free _ (List.mem_map_of_mem left) _ (List.mem_map_of_mem right)) same))

theorem Predictable.ranking_contexts (predictable : Predictable request candidates) :
    ((ranking request candidates features).map fun prediction => prediction.contextKey).Nodup := by
  have perm := (sortOn_perm ContextPrediction.key ((askedCandidates request candidates
    features).map fun entry => predicted request entry.1 entry.2)).map
      fun prediction : ContextPrediction digest => prediction.contextKey
  refine perm.nodup_iff.mpr ?_
  have contexts := predictable.contexts.sublist
    ((askedCandidates_sublist request candidates features).map _)
  rw [List.map_map] at contexts ⊢
  exact contexts

/-- The scores that the default backend gives to the candidates that are predicted. -/
def askedScores (request : ContextPredictionRequest)
    (candidates : List (ContextPredictionCandidate digest))
    (features : List ContextPredictionFeatureVector) : List ScoredContextPrediction :=
  (askedCandidates request candidates features).map fun entry => scored entry.2

theorem weighted_predict_eq_askedScores
    (matching : MatchingIdentities features
      (candidates.map fun candidate => candidate.candidateId)) :
    (deterministicWeightedPredictionBackend digest).predict features candidates
        request.predictionHorizon = .ok (askedScores request candidates features) := by
  rw [weighted_predict_eq_ok matching, askedScores, askedCandidates, List.map_filterMap]
  simp only [Option.map_map, Function.comp_def]

theorem askedScores_ids (distinct : (features.map fun vector => vector.candidateId).Nodup) :
    (askedScores request candidates features).map (fun score => score.candidateId) =
      ((askedCandidates request candidates features).map Prod.fst).map
        fun candidate => candidate.candidateId := by
  rw [askedScores, List.map_map, List.map_map]
  refine List.map_congr_left fun entry member => ?_
  exact ((mem_askedCandidates_iff distinct).mp member).2.1.2

theorem askedScores_ids_sublist
    (distinct : (features.map fun vector => vector.candidateId).Nodup) :
    ((askedScores request candidates features).map fun score => score.candidateId).Sublist
      (candidates.map fun candidate => candidate.candidateId) := by
  rw [askedScores_ids distinct]
  exact (askedCandidates_sublist request candidates features).map _

theorem scoresById_askedScores
    (distinct : (features.map fun vector => vector.candidateId).Nodup)
    (identities : (candidates.map fun candidate => candidate.candidateId).Nodup)
    {candidate : ContextPredictionCandidate digest} (member : candidate ∈ candidates) :
    (scoresById (askedScores request candidates features)).get? candidate.candidateId =
      (askedVector features request.predictionHorizon candidate.candidateId).map scored := by
  ext score
  rw [scoresById, Dict.indexed_get?_eq_some_iff
    (identities.sublist (askedScores_ids_sublist distinct)), Option.map_eq_some_iff]
  constructor
  · rintro ⟨among, named⟩
    obtain ⟨⟨other, vector⟩, asked, rfl⟩ := List.mem_map.mp among
    obtain ⟨_, ⟨given, _⟩, horizon⟩ := (mem_askedCandidates_iff distinct).mp asked
    exact ⟨vector, (askedVector_eq_some_iff distinct).mpr ⟨⟨given, named⟩, horizon⟩, rfl⟩
  · rintro ⟨vector, asked, rfl⟩
    obtain ⟨⟨given, named⟩, horizon⟩ := (askedVector_eq_some_iff distinct).mp asked
    exact ⟨List.mem_map.mpr ⟨(candidate, vector),
      (mem_askedCandidates_iff distinct).mpr ⟨member, ⟨given, named⟩, horizon⟩, rfl⟩, named⟩

theorem scoredCandidates_askedScores
    (distinct : (features.map fun vector => vector.candidateId).Nodup)
    (identities : (candidates.map fun candidate => candidate.candidateId).Nodup) :
    scoredCandidates candidates (askedScores request candidates features) =
      (askedCandidates request candidates features).map fun entry => (entry.1, scored entry.2) := by
  rw [scoredCandidates, askedCandidates, List.map_filterMap]
  refine List.filterMap_congr fun candidate member => ?_
  rw [scoresById_askedScores distinct identities member]
  simp only [Option.map_map, Function.comp_def]

/-- What the default backend answers passes the checks. -/
theorem checkScores_askedScores (matching : MatchingIdentities features
    (candidates.map fun candidate => candidate.candidateId))
    (identities : (candidates.map fun candidate => candidate.candidateId).Nodup) :
    checkScores request (candidates.map fun candidate => candidate.candidateId)
      (askedScores request candidates features) = .ok () := by
  have sublist : ((askedScores request candidates features).map
      fun score => score.candidateId).Sublist
        (candidates.map fun candidate => candidate.candidateId) :=
    askedScores_ids_sublist matching.1
  simp only [checkScores, bind_eq_ok, require_eq_ok, exists_const]
  refine ⟨⟨identities.sublist sublist, sublist.subset⟩, fun anyHorizon => ?_, ?_⟩
  · -- without a horizon every candidate is asked for
    refine Finset.Subset.antisymm (fun candidateId named => ?_) fun candidateId named => ?_
    · exact List.mem_toFinset.mpr (sublist.subset (List.mem_toFinset.mp named))
    have given := named
    rw [← matching.2, List.mem_toFinset] at given
    obtain ⟨vector, among, rfl⟩ := List.mem_map.mp given
    obtain ⟨candidate, member, same⟩ := List.mem_map.mp (List.mem_toFinset.mp named)
    rw [List.mem_toFinset, askedScores_ids matching.1, List.mem_map]
    exact ⟨candidate, List.mem_map.mpr ⟨(candidate, vector), (mem_askedCandidates_iff
      matching.1).mpr ⟨member, ⟨among, same.symm⟩, .inl anyHorizon⟩, rfl⟩, same⟩
  · intro horizon requested score among
    obtain ⟨⟨candidate, vector⟩, asked, rfl⟩ := List.mem_map.mp among
    rcases ((mem_askedCandidates_iff matching.1).mp asked).2.2 with anyHorizon | same
    · rw [anyHorizon] at requested
      contradiction
    · exact Option.some_inj.mp (same.symm.trans requested)

theorem assemble_eq_ok (predictable : Predictable request candidates)
    (identities : (candidates.map fun candidate => candidate.candidateId).Nodup)
    (free : digest.CollisionFreeOn
      ((ranking request candidates features).map fun prediction => prediction.payload))
    (matching : (features.map fun vector => vector.candidateId).Perm
      (candidates.map fun candidate => candidate.candidateId)) :
    ∃ result, assembleContextPredictions (deterministicWeightedPredictionBackend digest) request
        candidates features = .ok result ∧
      result.predictions = (ranking request candidates features).take request.limit := by
  have distinct := matching.nodup_iff.mpr identities
  have sets := List.toFinset_eq_of_perm _ _ matching
  have predictions : (scoredCandidates candidates (askedScores request candidates features)).mapM
      (contextPrediction request) = .ok ((askedCandidates request candidates features).map
        fun entry => predicted request entry.1 entry.2) := by
    rw [scoredCandidates_askedScores distinct identities, mapM_eq_ok_iff_forall₂,
      List.forall₂_map_left_iff, List.forall₂_map_right_iff]
    refine List.forall₂_same.mpr fun entry member => contextPrediction_eq_ok _ _ _ ?_
    exact predictable.authorized _ ((mem_askedCandidates_iff distinct).mp member).1
  have limited : min request.limit maxContextPredictions = request.limit :=
    min_eq_left request.limit_bounds.2
  have bounded : ((ranking request candidates features).take request.limit).length ≤
      maxContextPredictions :=
    (List.length_take_le _ _).trans request.limit_bounds.2
  have apart : (((ranking request candidates features).take request.limit).map
      fun prediction => prediction.predictionId).Nodup := by
    refine List.Nodup.sublist ((List.take_sublist _ _).map _) ?_
    exact List.pairwise_map.mpr ((List.pairwise_map.mp predictable.ranking_contexts).imp_of_mem
      fun left right apart same => apart (contextKey_eq_of_predictionId
        (free _ (List.mem_map_of_mem left) _ (List.mem_map_of_mem right)) same))
  refine ⟨⟨_, bounded, apart⟩, ?_, rfl⟩
  simp only [assembleContextPredictions, require_of_true predictable.few,
    require_of_true identities, require_of_true distinct, require_of_true sets,
    require_of_true predictable.authorized, ok_bind,
    weighted_predict_eq_askedScores ⟨distinct, sets⟩,
    checkScores_askedScores ⟨distinct, sets⟩ identities, predictions, limited]
  exact ContextPredictionResult.construct_eq_ok bounded apart

theorem Predictable.ranking_ordered (predictable : Predictable request candidates) :
    (ranking request candidates features).Pairwise fun left right => left.key < right.key := by
  have sorted := sortOn_pairwise ContextPrediction.key ((askedCandidates request candidates
    features).map fun entry => predicted request entry.1 entry.2)
  have contexts : ((ranking request candidates features).map
      fun prediction => prediction.contextKey).Nodup := predictable.ranking_contexts
  refine (sorted.and (List.pairwise_map.mp contexts)).imp fun both => ?_
  exact lt_of_le_of_ne both.1 fun same => both.2 (contextKey_eq_of_key same)

theorem Predictable.ranking_perm {others : List (ContextPredictionCandidate digest)}
    {otherFeatures : List ContextPredictionFeatureVector}
    (predictable : Predictable request candidates)
    (distinct : (features.map fun vector => vector.candidateId).Nodup)
    (perm : others.Perm candidates) (featurePerm : otherFeatures.Perm features) :
    ranking request others otherFeatures = ranking request candidates features := by
  have asked : (askedCandidates request others otherFeatures).Perm
      (askedCandidates request candidates features) := by
    simp only [askedCandidates, askedVector_perm featurePerm distinct]
    exact perm.filterMap _
  refine (sortOn_eq_of_perm ?_ (asked.map _).symm).symm
  have contexts : ((ranking request candidates features).map
      fun prediction => prediction.contextKey).Nodup := predictable.ranking_contexts
  rw [ranking, ((sortOn_perm _ _).map _).nodup_iff] at contexts
  exact fun left leftMember right rightMember same =>
    List.inj_on_of_nodup_map contexts leftMember rightMember (contextKey_eq_of_key same)

end Assembling

/-! ## The predictions of a call -/

/-- The request with another limit. -/
def ContextPredictionRequest.withLimit (request : ContextPredictionRequest) (limit : Nat)
    (bounds : 1 ≤ limit ∧ limit ≤ maxContextPredictions) : ContextPredictionRequest :=
  { request with limit := limit, limit_bounds := bounds }

section Calls

variable {digest : Digest} {request : ContextPredictionRequest} {call : PredictionCall}
  {candidates : List (ContextPredictionCandidate digest)}
  {features : List ContextPredictionFeatureVector}

/-- A prediction has the lineage of a candidate and the score of a vector. -/
structure Predicts (request : ContextPredictionRequest)
    (candidate : ContextPredictionCandidate digest) (vector : ContextPredictionFeatureVector)
    (prediction : ContextPrediction digest) : Prop where
  evidence : prediction.sourceEvidence = candidate.sourceEvidence
  globalIds : prediction.sourceGlobalRecordIds = candidate.sourceGlobalRecordIds
  phase8Ids : prediction.sourcePhase8RecordIds = candidate.sourcePhase8RecordIds
  namespaceType : prediction.namespaceType = candidate.namespaceType
  namespaceId : prediction.namespaceId = candidate.namespaceId
  context : prediction.contextKey = candidate.contextKey
  sequence : prediction.creationSequence = candidate.creationSequence
  score : scorePrediction vector = .ok ⟨prediction.predictionHorizon, prediction.confidence,
    prediction.confidenceBand, prediction.reasonCodes⟩
  predictorId : prediction.predictorId = request.predictorId
  predictorVersion : prediction.predictorVersion = request.predictorVersion

theorem predicts_predicted (request : ContextPredictionRequest)
    (candidate : ContextPredictionCandidate digest) (vector : ContextPredictionFeatureVector) :
    Predicts request candidate vector (predicted request candidate vector) where
  evidence := sortOn_eq_self _ candidate.evidence_sorted
  globalIds := rfl
  phase8Ids := rfl
  namespaceType := rfl
  namespaceId := rfl
  context := rfl
  sequence := rfl
  score := scorePrediction_eq_ok vector
  predictorId := rfl
  predictorVersion := rfl

/-- The predictions are those of the candidates whose vectors look as far ahead as is asked for,
one each, in canonical order. -/
structure Ranks (request : ContextPredictionRequest)
    (candidates : List (ContextPredictionCandidate digest))
    (features : List ContextPredictionFeatureVector)
    (predictions : List (ContextPrediction digest)) : Prop where
  /-- The predictions are in strict order. -/
  ordered : predictions.Pairwise fun left right => left.key < right.key
  /-- No context is predicted twice. -/
  contexts : (predictions.map fun prediction => prediction.contextKey).Nodup
  /-- A prediction is that of a candidate with its vector. -/
  origin : ∀ prediction ∈ predictions, ∃ candidate ∈ candidates, ∃ vector ∈ features,
    vector.candidateId = candidate.candidateId ∧ Asked request.predictionHorizon vector ∧
      Predicts request candidate vector prediction
  /-- A candidate whose vector looks as far ahead as is asked for has its prediction. -/
  covered : ∀ candidate ∈ candidates, ∀ vector ∈ features,
    vector.candidateId = candidate.candidateId → Asked request.predictionHorizon vector →
      ∃ prediction ∈ predictions, Predicts request candidate vector prediction

theorem Predictable.ranks (predictable : Predictable request candidates)
    (distinct : (features.map fun vector => vector.candidateId).Nodup) :
    Ranks request candidates features (ranking request candidates features) where
  ordered := predictable.ranking_ordered
  contexts := predictable.ranking_contexts
  origin := by
    intro prediction member
    rw [ranking, mem_sortOn] at member
    obtain ⟨⟨candidate, vector⟩, asked, rfl⟩ := List.mem_map.mp member
    obtain ⟨among, ⟨given, named⟩, horizon⟩ := (mem_askedCandidates_iff distinct).mp asked
    exact ⟨candidate, among, vector, given, named, horizon,
      predicts_predicted request candidate vector⟩
  covered := by
    intro candidate among vector given named horizon
    have asked := (mem_askedCandidates_iff distinct).mpr ⟨among, ⟨given, named⟩, horizon⟩
    exact ⟨_, (mem_sortOn _).mpr (List.mem_map_of_mem asked),
      predicts_predicted request candidate vector⟩

/-- What a call for candidates comes to, with the default backend. -/
structure CanonicalPredictions (call : PredictionCall)
    (candidates : List (ContextPredictionCandidate digest)) : Prop where
  /-- The candidates are those of the records of the session, in whatever order and however often
  these are listed. -/
  sessions : ∀ records, (∀ record, record ∈ records ↔ record ∈ call.sessionRecords) →
    buildPredictionCandidates digest { call with sessionRecords := records } = .ok candidates
  /-- The candidates trace the sources. -/
  traced : Traced call candidates
  /-- Any vectors of the candidates rank their predictions, and every limit is answered with the
  beginning of the ranking, in whatever order candidates and vectors are listed, when the ids of
  the predictions do not collide. -/
  assembled : ∀ features : List ContextPredictionFeatureVector,
    (features.map fun vector => vector.candidateId).Perm
      (candidates.map fun candidate => candidate.candidateId) →
    digest.CollisionFreeOn
      ((ranking call.request candidates features).map fun prediction => prediction.payload) →
    ∃ ranked, Ranks call.request candidates features ranked ∧
      ∀ limit bounds others otherFeatures, others.Perm candidates →
        otherFeatures.Perm features → ∃ result,
          assembleContextPredictions (deterministicWeightedPredictionBackend digest)
            (call.request.withLimit limit bounds) others otherFeatures = .ok result ∧
          result.predictions = ranked.take limit

theorem Sourced.predictable {kept : List Adapted} (sourced : Sourced call candidates kept) :
    Predictable call.request candidates where
  few := sourced.length_le
  authorized := fun _ among => sourced.space_eq among
  contexts := sourced.ordered.imp ne_of_lt

theorem Predictable.withLimit (predictable : Predictable request candidates) {limit : Nat}
    (bounds : 1 ≤ limit ∧ limit ≤ maxContextPredictions) :
    Predictable (request.withLimit limit bounds) candidates :=
  ⟨predictable.few, predictable.authorized, predictable.contexts⟩

/-- The predictions of a call that answers are canonical, when the ids of its candidates do not
collide. -/
theorem canonicalPredictions (outcome : buildPredictionCandidates digest call = .ok candidates)
    (free : digest.CollisionFreeOn (candidates.map fun candidate => candidate.payload)) :
    CanonicalPredictions call candidates := by
  obtain ⟨kept, sourced⟩ := exists_sourced outcome
  have predictable := sourced.predictable
  refine ⟨fun records same => buildPredictionCandidates_of_same_records same outcome,
    sourced.traced, fun features matching rankingFree => ?_⟩
  have identities := predictable.candidateIds_nodup free
  have distinct := matching.nodup_iff.mpr identities
  refine ⟨ranking call.request candidates features, predictable.ranks distinct, ?_⟩
  intro limit bounds others otherFeatures perm featurePerm
  have otherMatching : (otherFeatures.map fun vector => vector.candidateId).Perm
      (others.map fun candidate => candidate.candidateId) :=
    (featurePerm.map _).trans (matching.trans (perm.map _).symm)
  have otherIdentities : (others.map fun candidate => candidate.candidateId).Nodup :=
    (perm.map _).nodup_iff.mpr identities
  have same : ranking (call.request.withLimit limit bounds) others otherFeatures =
      ranking call.request candidates features :=
    predictable.ranking_perm distinct perm featurePerm
  obtain ⟨result, assembled, predictions⟩ :=
    assemble_eq_ok ((predictable.of_perm perm).withLimit bounds) otherIdentities
      (same ▸ rankingFree) otherMatching
  exact ⟨result, assembled, predictions.trans (congrArg (List.take limit) same)⟩

/-! ## A store with two contexts -/

theorem secondContext_texts : ∀ text ∈ ["p", "t", "s", "phase8", "d", "promotion", "retention"],
    Text.Nonblank text := by
  decide

/-- A record of the sample project about a second context. -/
def secondContext : GlobalContextRecord :=
  { sampleContext with
    globalRecordId := "t"
    contextKey := "d"
    texts_nonblank := secondContext_texts }

/-- A call for candidates from the store with both records. -/
def twoContexts : PredictionCall where
  request := projectRequest
  globalStore := some (machine.run .empty
    ([ownRegistration sampleContext, ownRegistration secondContext].map .register))

/-- What is known about candidates from the first of the contexts. -/
def projectFeatures (candidates : List (ContextPredictionCandidate digest)) :
    List ContextPredictionFeatureVector :=
  candidates.map fun candidate =>
    vectorOf { currentContextKey := some sampleContext.contextKey } candidate
      (recencyAmong candidates candidate)

theorem twoContexts_apart :
    ∃ candidates, buildPredictionCandidates .sha256 twoContexts = .ok candidates ∧
      candidates.length = 2 ∧ (candidates.map fun candidate => candidate.candidateId).Nodup ∧
        ((ranking projectRequest candidates (projectFeatures candidates)).map
          fun prediction => prediction.predictionId).Nodup := by
  rw [Digest.sha256_eq_numeric]
  decide +kernel

theorem candidates_free {candidates : List (ContextPredictionCandidate digest)}
    (apart : (candidates.map fun candidate => candidate.candidateId).Nodup) :
    digest.CollisionFreeOn (candidates.map fun candidate => candidate.payload) := by
  refine Digest.collisionFreeOn_map_of_nodup ?_
  rwa [← List.map_congr_left fun candidate _ => candidate.valid.addressed]

theorem predictions_free {predictions : List (ContextPrediction digest)}
    (apart : (predictions.map fun prediction => prediction.predictionId).Nodup) :
    digest.CollisionFreeOn (predictions.map fun prediction => prediction.payload) := by
  refine Digest.collisionFreeOn_map_of_nodup ?_
  rwa [← List.map_congr_left fun prediction _ => prediction.valid.addressed]

/-- The call on the two contexts has canonical predictions, and those from the first of them do not
collide. -/
theorem canonicalPredictions_project : ∃ candidates,
    buildPredictionCandidates Digest.sha256 twoContexts = .ok candidates ∧
      candidates.length = 2 ∧ CanonicalPredictions twoContexts candidates ∧
      Digest.sha256.CollisionFreeOn
        ((ranking projectRequest candidates (projectFeatures candidates)).map
          fun prediction => prediction.payload) := by
  obtain ⟨candidates, outcome, two, apart, rankedApart⟩ := twoContexts_apart
  exact ⟨candidates, outcome, two, canonicalPredictions outcome (candidates_free apart),
    predictions_free rankedApart⟩

end Calls

end ContextPrediction
end MercuryX
