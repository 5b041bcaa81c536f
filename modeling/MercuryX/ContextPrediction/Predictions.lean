import MercuryX.ContextPrediction.Backend

/-!
# Predictions

A prediction is content-addressed: its identity covers the records that it cites, its score and who
made it. Assembling takes candidates with their feature vectors to the predictions of a request:
every candidate that the backend scored has its prediction, and the first of them in canonical
order are returned.
-/

namespace MercuryX
namespace ContextPrediction

open Foundation GlobalMemory

set_option linter.dupNamespace false

/-! ## The contract of predictions -/

/-- What the identity of a prediction covers. -/
structure PredictionContent where
  namespaceType : GlobalMemoryNamespace
  namespaceId : String
  contextKey : String
  sourceGlobalRecordIds : List String
  sourcePhase8RecordIds : List String
  predictionHorizon : ContextPredictionHorizon
  confidence : ℚ
  confidenceBand : ContextConfidenceBand
  reasonCodes : List ContextPredictionReasonCode
  creationSequence : Nat
  predictorId : String
  predictorVersion : String

/-- The texts of the reasons. -/
def PredictionContent.reasonValues (content : PredictionContent) : List String :=
  content.reasonCodes.map ContextPredictionReasonCode.value

/-- What is asked of the content of a prediction. -/
structure PredictionContent.Valid (content : PredictionContent) : Prop where
  /-- The namespace, the context and the predictor are named. -/
  texts : ∀ text ∈ [content.namespaceId, content.contextKey, content.predictorId,
    content.predictorVersion], Text.Nonblank text
  /-- The confidence is between zero and one. -/
  confidence : 0 ≤ content.confidence ∧ content.confidence ≤ 1
  /-- Sequence numbers start at one. -/
  creationSequence : 1 ≤ content.creationSequence
  /-- Global records are cited in canonical form. -/
  globalIds : CanonicalTexts content.sourceGlobalRecordIds
  /-- Session records are cited in canonical form. -/
  phase8Ids : CanonicalTexts content.sourcePhase8RecordIds
  /-- No reason is given twice. -/
  reasons_nodup : content.reasonValues.Nodup
  /-- The reasons stand in the order of their texts. -/
  reasons_sorted : content.reasonValues = sortOn id content.reasonValues
  /-- The reasons are not too many. -/
  reasons_few : content.reasonCodes.length ≤ maxReasonCodes

/-- What the identity of a prediction is made of. -/
def PredictionContent.payload (content : PredictionContent) : Json :=
  .obj [
    ("namespace_type", .str content.namespaceType.value),
    ("namespace_id", .str content.namespaceId),
    ("context_key", .str content.contextKey),
    ("source_global_record_ids", .arr (content.sourceGlobalRecordIds.map .str)),
    ("source_phase8_record_ids", .arr (content.sourcePhase8RecordIds.map .str)),
    ("prediction_horizon", .str content.predictionHorizon.value),
    ("confidence", .str (fixedText 12 content.confidence)),
    ("confidence_band", .str content.confidenceBand.value),
    ("reason_codes", .arr (content.reasonValues.map .str)),
    ("creation_sequence", .int content.creationSequence),
    ("predictor_id", .str content.predictorId),
    ("predictor_version", .str content.predictorVersion)]

variable (digest : Digest)

/-- The identity of a prediction with a given content. -/
def PredictionContent.address (content : PredictionContent) : String :=
  digest.hexdigest content.payload

/-- Make the identity of a prediction, from content that passes its checks. -/
def makeContextPredictionId (content : PredictionContent) : Except Fault String := do
  require (Text.Nonblank content.namespaceId) (.value "namespace_id must be nonblank")
  require (Text.Nonblank content.contextKey) (.value "context_key must be nonblank")
  require (Text.Nonblank content.predictorId) (.value "predictor_id must be nonblank")
  require (Text.Nonblank content.predictorVersion) (.value "predictor_version must be nonblank")
  require (0 ≤ content.confidence ∧ content.confidence ≤ 1) (.value "confidence must be bounded")
  require (1 ≤ content.creationSequence) (.value "creation_sequence must be positive")
  requireCanonicalTextTuple content.sourceGlobalRecordIds "source_global_record_ids"
  requireCanonicalTextTuple content.sourcePhase8RecordIds "source_phase8_record_ids"
  require content.reasonValues.Nodup (.value "reason_codes must not contain duplicates")
  require (content.reasonValues = sortOn id content.reasonValues)
    (.value "reason_codes must use canonical order")
  require (content.reasonCodes.length ≤ maxReasonCodes) (.value "too many reason codes")
  return content.address digest

variable {digest}

theorem makeContextPredictionId_eq_ok_iff {content : PredictionContent} {made : String} :
    makeContextPredictionId digest content = .ok made ↔
      content.Valid ∧ content.address digest = made := by
  simp only [makeContextPredictionId, bind_eq_ok, require_eq_ok, requireCanonicalTextTuple_eq_ok,
    pure_eq_ok, Except.ok.injEq, exists_and_left, exists_const]
  constructor
  · rintro ⟨space, context, predictor, version, confidence, sequence, globals, phase8, nodup,
      sorted, few, same⟩
    exact ⟨⟨by simp [space, context, predictor, version], confidence, sequence, globals, phase8,
      nodup, sorted, few⟩, same⟩
  · rintro ⟨valid, same⟩
    exact ⟨valid.texts _ (by simp), valid.texts _ (by simp), valid.texts _ (by simp),
      valid.texts _ (by simp), valid.confidence, valid.creationSequence, valid.globalIds,
      valid.phase8Ids, valid.reasons_nodup, valid.reasons_sorted, valid.reasons_few, same⟩

/-- A prediction, as it is given. A raw score that is not given is the confidence. -/
structure PredictionFields extends PredictionContent where
  predictionId : String
  sourceEvidence : List ContextPredictionSourceEvidence := []
  rawScore : ℚ := confidence
  calibrationStatus : ContextCalibrationStatus := .uncalibrated
  calibrationEvidence : List String := []

/-- The evidence that is carried, if any, names exactly the records that are cited. -/
def PredictionFields.EvidenceLinked (given : PredictionFields) : Prop :=
  given.sourceEvidence ≠ [] →
    (recordIdsOf .global given.sourceEvidence).toFinset = given.sourceGlobalRecordIds.toFinset ∧
      (phase8IdsOf given.sourceEvidence).toFinset = given.sourcePhase8RecordIds.toFinset

instance (given : PredictionFields) : Decidable given.EvidenceLinked :=
  inferInstanceAs (Decidable (_ → _))

/-- A confidence that is not calibrated is the raw score, without evidence; one that is has
evidence. -/
def PredictionFields.Honest (given : PredictionFields) : Prop :=
  (given.calibrationStatus = .uncalibrated →
    given.rawScore = given.confidence ∧ given.calibrationEvidence = []) ∧
  (given.calibrationStatus = .empiricallyCalibrated → given.calibrationEvidence ≠ [])

instance (given : PredictionFields) : Decidable given.Honest :=
  inferInstanceAs (Decidable (_ ∧ _))

variable (digest) in
/-- What the contract asks of a prediction. -/
structure PredictionFields.Valid (given : PredictionFields) : Prop where
  /-- The content passes its checks. -/
  content : given.toPredictionContent.Valid
  /-- The identity is that of the content. -/
  addressed : given.predictionId = given.toPredictionContent.address digest
  /-- The raw score is between zero and one. -/
  rawScore : 0 ≤ given.rawScore ∧ given.rawScore ≤ 1
  /-- No record has two pieces of evidence. -/
  distinct : (given.sourceEvidence.map (·.identity)).Nodup
  /-- The evidence is bounded. -/
  few : given.sourceEvidence.length ≤ maxSourceRecordsPerPrediction
  /-- The evidence names what is cited. -/
  linked : given.EvidenceLinked
  /-- The confidence claims no more than it has evidence for. -/
  honest : given.Honest
  /-- The evidence of calibration stands in canonical form. -/
  calibrationEvidence : CanonicalTexts given.calibrationEvidence
  /-- The band is that of the confidence. -/
  confidenceBand : given.confidenceBand = band given.confidence
  /-- The records cited are bounded. -/
  bounded : given.sourceGlobalRecordIds.length + given.sourcePhase8RecordIds.length ≤
    maxSourceRecordsPerPrediction

/-- The message for a confidence that claims more than it has evidence for. -/
def PredictionFields.dishonesty (given : PredictionFields) : String :=
  match given.calibrationStatus with
  | .uncalibrated => "uncalibrated confidence must equal raw score without empirical claims"
  | .empiricallyCalibrated => "empirical calibration requires evidence"

variable (digest) in
/-- The check of a prediction. -/
def PredictionFields.check (given : PredictionFields) : Except Fault Unit := do
  let contract := "ContextPrediction"
  rule contract "prediction_id" (Text.Nonblank given.predictionId) "text must be nonblank"
  rule contract "source_evidence" (given.sourceEvidence.map (·.identity)).Nodup
    "duplicate source evidence"
  rule contract "source_evidence" (given.sourceEvidence.length ≤ maxSourceRecordsPerPrediction)
    "too many source evidence records"
  fieldWithin contract "raw_score" 0 1 given.rawScore
  rule contract "namespace_id" (Text.Nonblank given.namespaceId) "text must be nonblank"
  rule contract "context_key" (Text.Nonblank given.contextKey) "text must be nonblank"
  validateSourceIds contract "source_global_record_ids" given.sourceGlobalRecordIds
  validateSourceIds contract "source_phase8_record_ids" given.sourcePhase8RecordIds
  fieldWithin contract "confidence" 0 1 given.confidence
  rule contract "reason_codes" (given.reasonCodes.length ≤ maxReasonCodes) "too many reason codes"
  rule contract "reason_codes" given.reasonValues.Nodup "duplicate reason code"
  rule contract "reason_codes" (given.reasonValues = sortOn id given.reasonValues)
    "reason codes must use canonical order"
  fieldGe contract "creation_sequence" 1 given.creationSequence
  rule contract "predictor_id" (Text.Nonblank given.predictorId) "text must be nonblank"
  rule contract "predictor_version" (Text.Nonblank given.predictorVersion) "text must be nonblank"
  rule contract "" given.EvidenceLinked "source evidence does not match source identities"
  rule contract "" given.Honest given.dishonesty
  rule contract "" (∀ text ∈ given.calibrationEvidence, Text.Nonblank text)
    "calibration evidence must be nonblank"
  rule contract "" given.calibrationEvidence.Nodup
    "calibration evidence must not contain duplicates"
  rule contract "" (given.calibrationEvidence = sortOn id given.calibrationEvidence)
    "calibration evidence must use canonical order"
  rule contract "" (given.confidenceBand = band given.confidence)
    "confidence band inconsistent with score"
  rule contract "" (given.sourceGlobalRecordIds.length + given.sourcePhase8RecordIds.length ≤
    maxSourceRecordsPerPrediction) "too many prediction source records"
  let expectedId ← makeContextPredictionId digest given.toPredictionContent
  rule contract "" (given.predictionId = expectedId) "prediction identity mismatch"

theorem PredictionFields.check_eq_ok {given : PredictionFields} {done : Unit} :
    given.check digest = .ok done ↔ given.Valid digest := by
  simp only [check, bind_eq_ok, rule_eq_ok, fieldGe_eq_ok, fieldWithin_eq_ok,
    validateSourceIds_eq_ok, makeContextPredictionId_eq_ok_iff, exists_and_left, exists_const]
  constructor
  · rintro ⟨_, distinct, few, rawScore, _, _, _, _, _, _, _, _, _, _, _, linked, honest, visible,
      nodup, sorted, confidenceBand, bounded, _, ⟨content, rfl⟩, addressed⟩
    exact ⟨content, addressed, rawScore, distinct, few, linked, honest,
      canonicalTexts_iff.mpr ⟨visible, nodup, sorted⟩, confidenceBand, bounded⟩
  · intro valid
    have content := valid.content
    have named : Text.Nonblank given.predictionId := valid.addressed ▸ digest.nonblank _
    obtain ⟨visible, nodup, sorted⟩ := canonicalTexts_iff.mp valid.calibrationEvidence
    exact ⟨named, valid.distinct, valid.few, valid.rawScore, content.texts _ (by simp),
      content.texts _ (by simp), content.globalIds, content.phase8Ids, content.confidence,
      content.reasons_few, content.reasons_nodup, content.reasons_sorted,
      by exact_mod_cast content.creationSequence, content.texts _ (by simp),
      content.texts _ (by simp), valid.linked, valid.honest, visible, nodup, sorted,
      valid.confidenceBand, valid.bounded, _, ⟨content, rfl⟩, valid.addressed⟩

variable (digest) in
/-- A prediction of one context. -/
structure ContextPrediction extends PredictionFields where
  /-- The contract holds. -/
  valid : toPredictionFields.Valid digest
  /-- Evidence stands in the order of kinds and ids. -/
  evidence_sorted : sourceEvidence.Pairwise fun left right => left.key ≤ right.key

namespace ContextPrediction

/-- The prediction that valid fields make: its evidence is put in order. -/
def make (given : PredictionFields) (valid : given.Valid digest) : ContextPrediction digest where
  toPredictionFields := { given with
    sourceEvidence := sortOn ContextPredictionSourceEvidence.key given.sourceEvidence }
  valid := {
    content := valid.content
    addressed := valid.addressed
    rawScore := valid.rawScore
    distinct := ((sortOn_perm _ given.sourceEvidence).map _).nodup_iff.mpr valid.distinct
    few := by simpa using valid.few
    linked := by
      intro cited
      have perm := sortOn_perm ContextPredictionSourceEvidence.key given.sourceEvidence
      have carried : given.sourceEvidence ≠ [] := fun empty => cited (by simp [empty, sortOn])
      obtain ⟨globals, sessions⟩ := valid.linked carried
      have sameOf (kind : SourceKind) := (perm.filter
        fun evidence : ContextPredictionSourceEvidence => evidence.sourceKind = kind).map
          fun evidence => evidence.recordId
      exact ⟨globals ▸ List.toFinset_eq_of_perm _ _ (sameOf _), sessions ▸
        List.toFinset_eq_of_perm _ _ ((sameOf _).append (perm.flatMap_right _))⟩
    honest := valid.honest
    calibrationEvidence := valid.calibrationEvidence
    confidenceBand := valid.confidenceBand
    bounded := valid.bounded }
  evidence_sorted := sortOn_pairwise _ _

/-- Construct a prediction. -/
def construct (given : PredictionFields) : Except Fault (ContextPrediction digest) :=
  checked (PredictionFields.check digest) PredictionFields.check_eq_ok make given

theorem construct_eq_ok_iff {given : PredictionFields} {prediction : ContextPrediction digest} :
    construct given = .ok prediction ↔ ∃ valid, make given valid = prediction :=
  checked_eq_ok_iff

end ContextPrediction

/-! ## Results -/

variable (digest) in
/-- What is predicted for a request. -/
structure ContextPredictionResult where
  predictions : List (ContextPrediction digest)
  /-- The predictions are bounded. -/
  bounded : predictions.length ≤ maxContextPredictions
  /-- No prediction is made twice. -/
  distinct : (predictions.map fun prediction => prediction.predictionId).Nodup

/-- Construct a result. -/
def ContextPredictionResult.construct (predictions : List (ContextPrediction digest)) :
    Except Fault (ContextPredictionResult digest) :=
  if bounded : predictions.length ≤ maxContextPredictions then
    if distinct : (predictions.map fun prediction => prediction.predictionId).Nodup then
      .ok ⟨predictions, bounded, distinct⟩
    else .error (.validation "ContextPredictionResult" "predictions"
      "Value error, duplicate prediction")
  else .error (.validation "ContextPredictionResult" "predictions"
    "Value error, too many predictions")

theorem ContextPredictionResult.construct_eq_ok {predictions : List (ContextPrediction digest)}
    (bounded : predictions.length ≤ maxContextPredictions)
    (distinct : (predictions.map fun prediction => prediction.predictionId).Nodup) :
    construct predictions = .ok ⟨predictions, bounded, distinct⟩ := by
  rw [construct, dif_pos bounded, dif_pos distinct]

/-! ## Assembling -/

/-- The rank of a horizon: the nearer comes first. -/
def horizonOrder : ContextPredictionHorizon → Nat
  | .nextTurn => 0
  | .nextTask => 1
  | .sessionNearTerm => 2

/-- The order of predictions: by horizon, then the more confident first, then by name. -/
def ContextPrediction.key (prediction : ContextPrediction digest) :
    ℕ ×ₗ ℚ ×ₗ String ×ₗ String ×ₗ String ×ₗ String :=
  toLex (horizonOrder prediction.predictionHorizon, toLex (-prediction.confidence,
    toLex (prediction.namespaceType.value, toLex (prediction.namespaceId,
      toLex (prediction.contextKey, prediction.predictionId)))))

/-- The content of the prediction of a candidate with its score. -/
def predictionContent (request : ContextPredictionRequest)
    (candidate : ContextPredictionCandidate digest) (score : ScoredContextPrediction) :
    PredictionContent where
  namespaceType := candidate.namespaceType
  namespaceId := candidate.namespaceId
  contextKey := candidate.contextKey
  sourceGlobalRecordIds := candidate.sourceGlobalRecordIds
  sourcePhase8RecordIds := candidate.sourcePhase8RecordIds
  predictionHorizon := score.predictionHorizon
  confidence := score.rawScore
  confidenceBand := score.confidenceBand
  reasonCodes := score.reasonCodes
  creationSequence := candidate.creationSequence
  predictorId := request.predictorId
  predictorVersion := request.predictorVersion

/-- The namespace of a candidate. -/
def ContextPredictionCandidate.space (candidate : ContextPredictionCandidate digest) :
    GlobalMemoryNamespace × String := (candidate.namespaceType, candidate.namespaceId)

/-- What is given as the prediction of a candidate with its score. -/
def predictionFields (request : ContextPredictionRequest)
    (candidate : ContextPredictionCandidate digest) (score : ScoredContextPrediction)
    (predictionId : String) : PredictionFields where
  toPredictionContent := predictionContent request candidate score
  predictionId := predictionId
  sourceEvidence := candidate.sourceEvidence
  rawScore := score.rawScore
  calibrationStatus := score.calibrationStatus
  calibrationEvidence := score.calibrationEvidence

/-- The prediction of a candidate with its score. -/
def contextPrediction (request : ContextPredictionRequest)
    (entry : ContextPredictionCandidate digest × ScoredContextPrediction) :
    Except Fault (ContextPrediction digest) := do
  require (entry.1.space = request.space) (.value "candidate namespace authorization mismatch")
  let predictionId ← makeContextPredictionId digest (predictionContent request entry.1 entry.2)
  ContextPrediction.construct (predictionFields request entry.1 entry.2 predictionId)

/-- The scores by their candidates. -/
def scoresById (scores : List ScoredContextPrediction) : Dict String ScoredContextPrediction :=
  Dict.indexed (fun score => score.candidateId) scores

/-- The candidates that have a score, with their scores. -/
def scoredCandidates (candidates : List (ContextPredictionCandidate digest))
    (scores : List ScoredContextPrediction) :
    List (ContextPredictionCandidate digest × ScoredContextPrediction) :=
  candidates.filterMap fun candidate =>
    ((scoresById scores).get? candidate.candidateId).map fun score => (candidate, score)

/-- The checks of what a backend answers. -/
def checkScores (request : ContextPredictionRequest) (candidateIds : List String)
    (scores : List ScoredContextPrediction) : Except Fault Unit := do
  let scoreIds : List String := scores.map fun score => score.candidateId
  require (scoreIds.Nodup ∧ scoreIds ⊆ candidateIds)
    (.value "foreign or duplicate backend candidate score")
  require (request.predictionHorizon = none → scoreIds.toFinset = candidateIds.toFinset)
    (.value "missing backend score")
  require (∀ horizon ∈ request.predictionHorizon, ∀ score ∈ scores,
    score.predictionHorizon = horizon) (.value "backend horizon mismatch")

/-- The first predictions of a request in canonical order. -/
def assembleContextPredictions (backend : ContextPredictionBackend digest)
    (request : ContextPredictionRequest) (candidates : List (ContextPredictionCandidate digest))
    (features : List ContextPredictionFeatureVector) :
    Except Fault (ContextPredictionResult digest) := do
  require (candidates.length ≤ maxPredictionCandidates) (.value "too many prediction candidates")
  let candidateIds : List String := candidates.map fun candidate => candidate.candidateId
  require candidateIds.Nodup (.value "duplicate prediction candidate")
  let featureIds : List String := features.map fun vector => vector.candidateId
  require featureIds.Nodup (.value "duplicate prediction feature vector")
  require (featureIds.toFinset = candidateIds.toFinset)
    (.value "candidate and feature identities must match exactly")
  require (∀ candidate ∈ candidates, candidate.space = request.space)
    (.value "candidate namespace authorization mismatch")
  let scores ← backend.predict features candidates request.predictionHorizon
  checkScores request candidateIds scores
  let predictions ← (scoredCandidates candidates scores).mapM (contextPrediction request)
  let ordered := sortOn ContextPrediction.key predictions
  ContextPredictionResult.construct (ordered.take (min request.limit maxContextPredictions))

end ContextPrediction
end MercuryX
