import MercuryX.ContextPrediction.Features
import MercuryX.ContextPrediction.Ranking

/-!
# Predicting contexts

A call for predictions gathers the candidates, measures the age of every source against the latest
source of its domain, extracts the features of all candidates and ranks their predictions. The
references that the ages are measured against always fit the sources, so that nothing fails for
them, and the recency of no candidate is unknown. The context that the session is in comes first.
-/

namespace MercuryX
namespace ContextPrediction

open Foundation GlobalMemory

set_option linter.dupNamespace false

/-! ## Calls -/

/-- The arguments of a prediction, the backend apart. -/
structure ContextCall extends PredictionCall where
  currentContextKey : Option String := none
  recentContextKeys : List String := []
  currentArtifactIds : List String := []
  currentPhase8RecordIds : List String := []

/-- The signals of a call. -/
def ContextCall.signals (call : ContextCall) : PredictionSignals where
  currentContextKey := call.currentContextKey
  recentContextKeys := call.recentContextKeys
  dependencyContextKeys := call.dependencyContextKeys
  currentArtifactIds := call.currentArtifactIds
  currentPhase8RecordIds := call.currentPhase8RecordIds

variable {digest : Digest}

variable (digest) in
/-- Predict contexts. -/
def predictContext (call : ContextCall)
    (backend : Option (ContextPredictionBackend digest) := none) :
    Except Fault (ContextPredictionResult digest) := do
  let candidates ← buildPredictionCandidates digest call.toPredictionCall
  let features ← candidates.mapM fun candidate =>
    extractPredictionFeatures candidate call.signals (some (referenceSequences candidates))
  assembleContextPredictions (backend.getD (deterministicWeightedPredictionBackend digest))
    call.request candidates features

/-! ## Ages -/

section Ages

variable {candidates : List (ContextPredictionCandidate digest)}
  {candidate : ContextPredictionCandidate digest}

theorem referenceSequences_valid (candidates : List (ContextPredictionCandidate digest)) :
    ValidReferences (referenceSequences candidates) := by
  rintro ⟨domain, reference⟩ member
  obtain ⟨source, among, rfl, rfl⟩ :=
    Dict.exists_of_maxima (Dict.get?_eq_some_iff.mpr member)
  obtain ⟨candidate, _, _⟩ := List.mem_flatMap.mp among
  exact ⟨source.valid.texts source.sequenceScope (by simp), source.valid.counters.2⟩

theorem sourceAge_referenceSequences (member : candidate ∈ candidates)
    {source : ContextPredictionSourceEvidence} (carried : source ∈ candidate.sourceEvidence) :
    sourceAge (referenceSequences candidates) source =
      .ok (some (ageAmong candidates source)) := by
  have among : source ∈ candidates.flatMap fun candidate => candidate.sourceEvidence :=
    List.mem_flatMap.mpr ⟨candidate, member, carried⟩
  obtain ⟨latest, found, within⟩ : ∃ latest,
      (referenceSequences candidates).get? source.domain = some latest ∧
        source.creationSequence ≤ latest := Dict.exists_maxima among
  simp only [sourceAge, ageAmong, found, require_of_true within, ok_bind, pure_eq_ok,
    Option.getD_some]

/-- Against the latest sources every age is known. -/
theorem extractRecency_referenceSequences (member : candidate ∈ candidates) :
    extractRecency candidate.sourceEvidence (referenceSequences candidates) =
      .ok (recencyAmong candidates candidate) := by
  have ages : candidate.sourceEvidence.mapM (sourceAge (referenceSequences candidates)) =
      .ok (candidate.sourceEvidence.map fun source => some (ageAmong candidates source)) := by
    rw [mapM_eq_ok_iff_forall₂, List.forall₂_map_right_iff]
    exact List.forall₂_same.mpr fun source carried =>
      sourceAge_referenceSequences member carried
  simp only [extractRecency, require_of_true (referenceSequences_valid candidates), ok_bind, ages,
    recencyAmong, pure_eq_ok]

theorem mean_pos {shares : List Share} (given : shares ≠ [])
    (positive : ∀ share ∈ shares, 0 < share.val) : 0 < mean shares := by
  have sum : 0 < (shares.map Subtype.val).sum := by
    refine List.sum_pos _ (fun value member => ?_) (given ∘ List.map_eq_nil_iff.mp)
    obtain ⟨share, inside, rfl⟩ := List.mem_map.mp member
    exact positive share inside
  exact div_pos sum (by exact_mod_cast List.length_pos_of_ne_nil given)

theorem exists_recencyAmong (candidates : List (ContextPredictionCandidate digest))
    (given : candidate.sourceEvidence ≠ []) :
    ∃ recency, recencyAmong candidates candidate = some recency ∧ 0 < recency.val := by
  have known : (candidate.sourceEvidence.map fun source =>
      some (ageAmong candidates source)).reduceOption =
        candidate.sourceEvidence.map (ageAmong candidates) := by
    rw [List.reduceOption, List.filterMap_map, ← List.filterMap_eq_map]
    rfl
  refine ⟨⟨mean _, mean_within _⟩, if_pos ⟨by simpa using given, by simp⟩, ?_⟩
  simp only [known]
  refine mean_pos (by simpa using given) fun share member => ?_
  obtain ⟨source, _, rfl⟩ := List.mem_map.mp member
  exact one_div_pos.mpr (by positivity)

end Ages

/-! ## What a call answers -/

section Answers

variable {call : ContextCall} {candidates : List (ContextPredictionCandidate digest)}

/-- The features of the candidates of a call. -/
def contextFeatures (call : ContextCall) (candidates : List (ContextPredictionCandidate digest)) :
    List ContextPredictionFeatureVector :=
  candidates.map fun candidate =>
    vectorOf call.signals candidate (recencyAmong candidates candidate)

theorem contextFeatures_ids (call : ContextCall)
    (candidates : List (ContextPredictionCandidate digest)) :
    (contextFeatures call candidates).map (fun vector => vector.candidateId) =
      candidates.map fun candidate => candidate.candidateId := by
  rw [contextFeatures, List.map_map]
  rfl

theorem mapM_extractPredictionFeatures_eq_ok_iff {features : List ContextPredictionFeatureVector} :
    (candidates.mapM fun candidate => extractPredictionFeatures candidate call.signals
        (some (referenceSequences candidates))) = .ok features ↔
      (candidates = [] ∨ call.signals.Visible) ∧ contextFeatures call candidates = features := by
  have extracted (candidate : ContextPredictionCandidate digest) (member : candidate ∈ candidates)
      (vector : ContextPredictionFeatureVector) :
      extractPredictionFeatures candidate call.signals (some (referenceSequences candidates)) =
          .ok vector ↔
        call.signals.Visible ∧
          vectorOf call.signals candidate (recencyAmong candidates candidate) = vector := by
    simp [extractPredictionFeatures_eq_ok_iff, extractRecency_referenceSequences member]
  have answers (given : candidates = [] ∨ call.signals.Visible) :
      (candidates.mapM fun candidate => extractPredictionFeatures candidate call.signals
        (some (referenceSequences candidates))) = .ok (contextFeatures call candidates) := by
    rw [mapM_eq_ok_iff_forall₂, contextFeatures, List.forall₂_map_right_iff]
    refine List.forall₂_same.mpr fun candidate member => ?_
    rcases given with rfl | visible
    · contradiction
    · exact (extracted candidate member _).mpr ⟨visible, rfl⟩
  constructor
  · intro outcome
    have given : candidates = [] ∨ call.signals.Visible := by
      cases candidates with
      | nil => exact .inl rfl
      | cons candidate rest =>
          obtain ⟨vector, _, made⟩ := exists_of_mapM_eq_ok outcome List.mem_cons_self
          exact .inr ((extracted candidate List.mem_cons_self vector).mp made).1
    exact ⟨given, Except.ok.inj ((answers given).symm.trans outcome)⟩
  · rintro ⟨given, rfl⟩
    exact answers given

/-! ## The current context -/

/-- A prediction that is nearer than all others comes first. -/
theorem Ranks.eq_cons_of_nearest {request : ContextPredictionRequest}
    {features : List ContextPredictionFeatureVector} {ranked : List (ContextPrediction digest)}
    (ranks : Ranks request candidates features ranked) {nearest : ContextPrediction digest}
    (member : nearest ∈ ranked) (near : nearest.predictionHorizon = .nextTurn)
    (alone : ∀ other ∈ ranked, other.predictionHorizon = .nextTurn → other = nearest) :
    ∃ rest, ranked = nearest :: rest := by
  cases ranked with
  | nil => contradiction
  | cons first rest =>
      rcases List.mem_cons.mp member with rfl | later
      · exact ⟨rest, rfl⟩
      · have before := List.rel_of_pairwise_cons ranks.ordered later
        have order : horizonOrder first.predictionHorizon ≤ horizonOrder .nextTurn := by
          rw [← near]
          rcases Prod.Lex.toLex_lt_toLex.mp before with less | ⟨same, _⟩
          · exact less.le
          · exact same.le
        have firstNear : first.predictionHorizon = .nextTurn := by
          cases horizon : first.predictionHorizon <;> simp_all [horizonOrder]
        rw [alone first List.mem_cons_self firstNear]
        exact ⟨rest, rfl⟩

theorem Predicts.horizon {request : ContextPredictionRequest}
    {candidate : ContextPredictionCandidate digest} {vector : ContextPredictionFeatureVector}
    {prediction : ContextPrediction digest}
    (predicts : Predicts request candidate vector prediction) :
    prediction.predictionHorizon = horizonOf vector := by
  have score := predicts.score
  rw [scorePrediction_eq_ok] at score
  have same := congrArg PredictionScore.horizon (Except.ok.inj score)
  exact same.symm

end Answers

/-! ## Calls that ask for the same -/

/-- The calls list the same records and the same signals. -/
structure ContextCall.Same (left right : ContextCall) : Prop where
  /-- The requests are the same. -/
  request : left.request = right.request
  /-- The stores are the same. -/
  globalStore : left.globalStore = right.globalStore
  /-- The session is bound in the same way. -/
  sessionScope : left.sessionScope = right.sessionScope
  /-- The records of the session are the same, in whatever order and however often listed. -/
  sessionRecords : ∀ record, record ∈ left.sessionRecords ↔ record ∈ right.sessionRecords
  /-- The signals are the same. -/
  signals : left.signals.Same right.signals

section Law

variable {call other : ContextCall} {candidates : List (ContextPredictionCandidate digest)}

theorem ContextCall.Same.build (same : other.Same call)
    (outcome : buildPredictionCandidates digest call.toPredictionCall = .ok candidates) :
    buildPredictionCandidates digest other.toPredictionCall = .ok candidates := by
  have sessions := buildPredictionCandidates_of_same_records same.sessionRecords outcome
  have named : (∀ key ∈ other.dependencyContextKeys, Text.Nonblank key) ↔
      ∀ key ∈ call.dependencyContextKeys, Text.Nonblank key := by
    have keys := same.signals.dependencies
    simp only [ContextCall.signals] at keys
    simp only [← List.mem_toFinset, keys]
  simp only [buildPredictionCandidates] at sessions ⊢
  simpa only [named, same.request, same.globalStore, same.sessionScope] using sessions

/-- What holds of a call whose records give some candidates. -/
structure ContextLaw (call : ContextCall) (candidates : List (ContextPredictionCandidate digest)) :
    Prop where
  /-- The call answers exactly when its signals are visible, unless there is nothing to predict. -/
  answers : (∃ result, predictContext digest call = .ok result) ↔
    candidates = [] ∨ call.signals.Visible
  /-- Every candidate has a positive recency. -/
  known : ∀ vector ∈ contextFeatures call candidates,
    ∃ recency, vector.recency = some recency ∧ 0 < recency
  /-- What is answered is the beginning of the ranking of all candidates. -/
  ranked : ∃ ranked, Ranks call.request candidates (contextFeatures call candidates) ranked ∧
    ∀ result, predictContext digest call = .ok result →
      result.predictions = ranked.take call.request.limit
  /-- The current context comes first, and no other is predicted for the next turn. -/
  current : ∀ result, predictContext digest call = .ok result → ∀ candidate ∈ candidates,
    call.currentContextKey = some candidate.contextKey →
      call.request.predictionHorizon ∈ [none, some .nextTurn] →
        ∃ first rest, result.predictions = first :: rest ∧
          first.contextKey = candidate.contextKey ∧ first.predictionHorizon = .nextTurn ∧
          ∀ prediction ∈ rest, prediction.predictionHorizon ≠ .nextTurn
  /-- Calls that ask for the same are answered alike. -/
  stable : ∀ other : ContextCall, other.Same call →
    predictContext digest other = predictContext digest call

theorem current_of_nextTurn {ranked : List (ContextPrediction digest)}
    (ranks : Ranks call.request candidates (contextFeatures call candidates) ranked)
    (identities : (candidates.map fun candidate => candidate.candidateId).Nodup)
    {prediction : ContextPrediction digest} (member : prediction ∈ ranked) :
    prediction.predictionHorizon = .nextTurn ↔
      call.currentContextKey = some prediction.contextKey := by
  obtain ⟨candidate, among, vector, extracted, named, _, predicts⟩ :=
    ranks.origin prediction member
  obtain ⟨own, ownAmong, rfl⟩ := List.mem_map.mp extracted
  obtain rfl : own = candidate :=
    List.inj_on_of_nodup_map identities ownAmong among named
  rw [predicts.horizon, horizonOf_vectorOf_iff, predicts.context]
  rfl

/-- The current context is ranked first, and no other is predicted for the next turn. -/
theorem exists_cons_of_current {ranked : List (ContextPrediction digest)}
    (ranks : Ranks call.request candidates (contextFeatures call candidates) ranked)
    (identities : (candidates.map fun candidate => candidate.candidateId).Nodup)
    {candidate : ContextPredictionCandidate digest} (among : candidate ∈ candidates)
    (current : call.currentContextKey = some candidate.contextKey)
    (horizon : call.request.predictionHorizon ∈ [none, some .nextTurn]) :
    ∃ nearest rest, ranked = nearest :: rest ∧ nearest.contextKey = candidate.contextKey ∧
      nearest.predictionHorizon = .nextTurn ∧
        ∀ prediction ∈ rest, prediction.predictionHorizon ≠ .nextTurn := by
  have near : horizonOf (vectorOf call.signals candidate (recencyAmong candidates candidate)) =
      .nextTurn := horizonOf_vectorOf_iff.mpr current
  have asked : Asked call.request.predictionHorizon
      (vectorOf call.signals candidate (recencyAmong candidates candidate)) := by
    rw [Asked, near]
    simpa using horizon
  obtain ⟨nearest, member, predicts⟩ :=
    ranks.covered candidate among _ (List.mem_map_of_mem among) rfl asked
  have only : ∀ prediction ∈ ranked, prediction.predictionHorizon = .nextTurn →
      prediction = nearest := by
    intro prediction inside nextTurn
    have context := (current_of_nextTurn ranks identities inside).mp nextTurn
    rw [current, ← predicts.context] at context
    exact List.inj_on_of_nodup_map ranks.contexts inside member (Option.some_inj.mp context).symm
  obtain ⟨rest, rfl⟩ := ranks.eq_cons_of_nearest member (predicts.horizon.trans near) only
  refine ⟨nearest, rest, rfl, predicts.context, predicts.horizon.trans near, ?_⟩
  intro prediction later nextTurn
  obtain rfl := only prediction (List.mem_cons_of_mem _ later) nextTurn
  have contexts := ranks.contexts
  rw [List.map_cons, List.nodup_cons] at contexts
  exact contexts.1 (List.mem_map_of_mem later)

/-- The law holds of every call that has candidates, when neither their ids nor those of their
predictions collide. -/
theorem contextLaw
    (built : buildPredictionCandidates digest call.toPredictionCall = .ok candidates)
    (free : digest.CollisionFreeOn (candidates.map fun candidate => candidate.payload))
    (rankingFree : digest.CollisionFreeOn
      ((ranking call.request candidates (contextFeatures call candidates)).map
        fun prediction => prediction.payload)) :
    ContextLaw call candidates := by
  obtain ⟨kept, sourced⟩ := exists_sourced built
  have predictable := sourced.predictable
  have identities := predictable.candidateIds_nodup free
  have distinct : ((contextFeatures call candidates).map fun vector => vector.candidateId).Nodup :=
    contextFeatures_ids call candidates ▸ identities
  have ranks := predictable.ranks distinct
  obtain ⟨expected, assembled, predictions⟩ :=
    assemble_eq_ok predictable identities rankingFree
      (.of_eq (contextFeatures_ids call candidates))
  have answered (result : ContextPredictionResult digest) :
      predictContext digest call = .ok result ↔
        (candidates = [] ∨ call.signals.Visible) ∧ expected = result := by
    simp only [predictContext, built, ok_bind, bind_eq_ok,
      mapM_extractPredictionFeatures_eq_ok_iff]
    constructor
    · rintro ⟨_, ⟨given, rfl⟩, outcome⟩
      exact ⟨given, Except.ok.inj (assembled.symm.trans outcome)⟩
    · rintro ⟨given, rfl⟩
      exact ⟨_, ⟨given, rfl⟩, assembled⟩
  constructor
  case answers =>
    constructor
    · rintro ⟨result, outcome⟩
      exact ((answered result).mp outcome).1
    · exact fun given => ⟨expected, (answered expected).mpr ⟨given, rfl⟩⟩
  case known =>
    intro vector member
    obtain ⟨candidate, among, rfl⟩ := List.mem_map.mp member
    obtain ⟨source, carried, _⟩ := (sourced.traced.sequence candidate among).1
    obtain ⟨recency, known, positive⟩ :=
      exists_recencyAmong candidates (List.ne_nil_of_mem carried)
    exact ⟨recency, by simp [vectorOf, featuresOf, known], positive⟩
  case ranked =>
    refine ⟨_, ranks, fun result outcome => ?_⟩
    obtain ⟨_, rfl⟩ := (answered result).mp outcome
    exact predictions
  case current =>
    intro result outcome candidate among current horizon
    obtain ⟨_, rfl⟩ := (answered result).mp outcome
    obtain ⟨nearest, rest, shape, context, nextTurn, others⟩ :=
      exists_cons_of_current ranks identities among current horizon
    obtain ⟨limit, limited⟩ := Nat.exists_eq_succ_of_ne_zero
      (Nat.one_le_iff_ne_zero.mp call.request.limit_bounds.1)
    rw [predictions, shape, limited, List.take_succ_cons]
    exact ⟨nearest, rest.take limit, rfl, context, nextTurn,
      fun prediction inside => others prediction (List.mem_of_mem_take inside)⟩
  case stable =>
    intro other same
    simp only [predictContext, built, same.build built, ok_bind, same.request,
      extractPredictionFeatures_congr same.signals]

/-- The call on two contexts of the sample project, from the first of them. -/
def projectContextCall : ContextCall where
  toPredictionCall := twoContexts
  currentContextKey := some sampleContext.contextKey

/-- The law holds of the call on the sample project. -/
theorem contextLaw_project : ∃ candidates,
    buildPredictionCandidates Digest.sha256 projectContextCall.toPredictionCall =
        .ok candidates ∧ candidates.length = 2 ∧ ContextLaw projectContextCall candidates := by
  obtain ⟨candidates, outcome, two, apart, rankedApart⟩ := twoContexts_apart
  exact ⟨candidates, outcome, two,
    contextLaw outcome (candidates_free apart) (predictions_free rankedApart)⟩

end Law

end ContextPrediction
end MercuryX
