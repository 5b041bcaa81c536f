import MercuryX.Foundation.Rounding
import MercuryX.Placement.Candidates

/-!
# Placement predictions

A backend scores the features of each eligible candidate, and the result is handed over in a
prediction. A result is honest about its calibration, and so is a prediction; but every prediction
is handed over as uncalibrated, so that a calibrated result is refused.
-/

namespace MercuryX
namespace Placement

open Foundation

/-! ## Enumerations -/

/-- How much a score is trusted. -/
inductive PlacementConfidenceBand where
  | low
  | medium
  | high
  deriving DecidableEq, Repr

/-- Whether a score is calibrated against measurements. -/
inductive PlacementCalibrationState where
  | uncalibrated
  | empiricallyCalibrated
  deriving DecidableEq, Repr

/-- The text of a calibration state. -/
def PlacementCalibrationState.value : PlacementCalibrationState → String
  | uncalibrated => "UNCALIBRATED"
  | empiricallyCalibrated => "EMPIRICALLY_CALIBRATED"

/-- How a backend comes to its scores. -/
inductive PlacementBackendKind where
  | deterministic
  | empirical
  | learned
  deriving DecidableEq, Repr

/-- The text of a backend kind. -/
def PlacementBackendKind.value : PlacementBackendKind → String
  | deterministic => "DETERMINISTIC"
  | empirical => "EMPIRICAL"
  | learned => "LEARNED"

/-- Whether something that a candidate needs is supported. -/
inductive PlacementSupportState where
  | supported
  | unsupported
  | unknown
  deriving DecidableEq, Repr

/-! ## Features -/

/-- What is known about a candidate for its score. -/
structure PlacementFeatures where
  candidateId : String
  compatibilityScore : ℚ
  localityScore : ℚ
  evidenceScore : ℚ
  uncertaintyPenalty : ℚ
  hardwareProfileId : Option String := none
  hardwareProfileGeneration : Option Int := none
  topologyGraphId : Option String := none
  topologyGeneration : Option Int := none
  pathBandwidthBytesPerS : Option Int := none
  pathLatencyUs : Option ℚ := none
  pathResultId : Option String := none
  pathResultFingerprint : Option String := none
  memoryHeadroomBytes : Option Int := none
  memorySupport : PlacementSupportState := .unknown
  precisionSupport : PlacementSupportState := .unknown
  runtimeSupport : PlacementSupportState := .unknown
  softwareStackSupport : PlacementSupportState := .unknown
  hardwareTrust : PlacementSupportState := .unknown
  topologyLocality : Option String := none
  pathCapability : PlacementSupportState := .unknown
  topologyUncertainty : ℚ := 1
  featureProvenance : List (String × List String) := []
  evidenceIds : List String := []
  /-- Scores lie between zero and one. -/
  scores_bounded : ∀ score ∈ [compatibilityScore, localityScore, evidenceScore, uncertaintyPenalty,
    topologyUncertainty], 0 ≤ score ∧ score ≤ 1
  /-- Generations and bandwidths start at one. -/
  counts_pos : ∀ field ∈ [hardwareProfileGeneration, topologyGeneration, pathBandwidthBytesPerS],
    ∀ count ∈ field, 1 ≤ count
  /-- Latencies are positive. -/
  latency_pos : ∀ latency ∈ pathLatencyUs, 0 < latency
  /-- Headroom is not negative. -/
  headroom_nonneg : ∀ headroom ∈ memoryHeadroomBytes, 0 ≤ headroom
  /-- Evidence stands in canonical form. -/
  evidence_canonical : CanonicalTexts evidenceIds
  /-- Provenance is nonblank, and stands in order, each feature once. -/
  provenance_canonical : (∀ entry ∈ featureProvenance, Text.Nonblank entry.1 ∧
      (∀ text ∈ entry.2, Text.Nonblank text) ∧ sortOn id entry.2 = entry.2) ∧
    featureProvenance.Pairwise fun left right => left.1 < right.1

/-! ## Backend results -/

/-- The fields of a backend result. -/
structure BackendResultFields where
  backendId : String
  backendVersion : String
  backendKind : PlacementBackendKind
  candidateId : String
  score : ℚ
  uncertainty : ℚ
  calibrationState : PlacementCalibrationState
  calibrationArtifactId : Option String := none
  calibrationDatasetId : Option String := none
  evidenceIds : List String := []
  operatingDomain : String
  artifactVersion : Option String := none
  hardwareProfileGeneration : Option Int := none
  topologyGeneration : Option Int := none

namespace BackendResultFields

/-- The dump of a result. -/
def dump (given : BackendResultFields) : Json := .obj [
  ("backend_id", .str given.backendId), ("backend_version", .str given.backendVersion),
  ("backend_kind", .str given.backendKind.value), ("candidate_id", .str given.candidateId),
  ("score", .float given.score), ("uncertainty", .float given.uncertainty),
  ("calibration_state", .str given.calibrationState.value),
  ("calibration_artifact_id", Json.optStr given.calibrationArtifactId),
  ("calibration_dataset_id", Json.optStr given.calibrationDatasetId),
  ("evidence_ids", Json.strs given.evidenceIds),
  ("operating_domain", .str given.operatingDomain),
  ("artifact_version", Json.optStr given.artifactVersion),
  ("hardware_profile_generation", Json.optInt given.hardwareProfileGeneration),
  ("topology_generation", Json.optInt given.topologyGeneration)]

/-- The text fields of a result that are given, by name. -/
def texts (given : BackendResultFields) : List (String × Option String) := [
  ("backend_id", some given.backendId), ("backend_version", some given.backendVersion),
  ("candidate_id", some given.candidateId), ("operating_domain", some given.operatingDomain),
  ("calibration_artifact_id", given.calibrationArtifactId),
  ("calibration_dataset_id", given.calibrationDatasetId),
  ("artifact_version", given.artifactVersion)]

/-- The generations of a result, by name. -/
def generations (given : BackendResultFields) : List (String × Option Int) := [
  ("hardware_profile_generation", given.hardwareProfileGeneration),
  ("topology_generation", given.topologyGeneration)]

/-- A result claims calibration exactly with an artifact, a dataset and evidence. -/
def HonestCalibration (given : BackendResultFields) : Prop :=
  if given.calibrationState = .empiricallyCalibrated then
    given.calibrationArtifactId ≠ none ∧ given.calibrationDatasetId ≠ none ∧
      given.evidenceIds ≠ []
  else given.calibrationArtifactId = none ∧ given.calibrationDatasetId = none

instance (given : BackendResultFields) : Decidable given.HonestCalibration :=
  inferInstanceAs (Decidable (ite _ _ _))

/-- What the constructor of a result establishes. -/
structure Valid (given : BackendResultFields) : Prop where
  /-- Texts are nonblank. -/
  texts_nonblank : ∀ field ∈ given.texts, ∀ text ∈ field.2, Text.Nonblank text
  /-- The score lies between zero and one. -/
  score_bounded : 0 ≤ given.score ∧ given.score ≤ 1
  /-- So does the uncertainty. -/
  uncertainty_bounded : 0 ≤ given.uncertainty ∧ given.uncertainty ≤ 1
  /-- Evidence is distinct and nonblank. -/
  evidence_distinct : given.evidenceIds.Nodup ∧ ∀ text ∈ given.evidenceIds, Text.Nonblank text
  /-- Generations start at one. -/
  generations_pos : ∀ field ∈ given.generations, ∀ generation ∈ field.2, 1 ≤ generation
  /-- Calibration is honest. -/
  honest : given.HonestCalibration
  /-- A learned result names the version of its artifact. -/
  versioned : given.backendKind = .learned → given.artifactVersion ≠ none

/-- The checks of the constructor of a result. -/
def check (given : BackendResultFields) : Except Fault Unit := do
  let contract := "PlacementBackendResult"
  forEach (fun field => forEach (fun text => rule contract field.1 (Text.Nonblank text)
      (field.1 ++ " must be nonblank")) field.2.toList) given.texts
  fieldWithin contract "score" 0 1 given.score
  fieldWithin contract "uncertainty" 0 1 given.uncertainty
  rule contract "evidence_ids"
    (given.evidenceIds.Nodup ∧ ∀ text ∈ given.evidenceIds, Text.Nonblank text)
    "backend evidence must be unique and nonblank"
  forEach (fun field => forEach (fieldGe contract field.1 1) field.2.toList) given.generations
  rule contract "" given.HonestCalibration
    (if given.calibrationState = .empiricallyCalibrated then
      "empirical calibration requires artifact, dataset, and evidence"
    else "uncalibrated result cannot claim calibration artifacts")
  rule contract "" (given.backendKind = .learned → given.artifactVersion ≠ none)
    "learned backend result requires artifact version"

theorem check_eq_ok_iff {given : BackendResultFields} {done : Unit} :
    given.check = .ok done ↔ given.Valid := by
  simp only [check, bind_eq_ok, forEach_eq_ok, rule_eq_ok, fieldGe_eq_ok, fieldWithin_eq_ok,
    Option.mem_toList, exists_const]
  constructor
  · rintro ⟨texts, score, uncertainty, evidence, generations, honest, versioned⟩
    exact ⟨texts, score, uncertainty, evidence, generations, honest, versioned⟩
  · rintro ⟨texts, score, uncertainty, evidence, generations, honest, versioned⟩
    exact ⟨texts, score, uncertainty, evidence, generations, honest, versioned⟩

/-- The fields with their evidence in order. -/
def sorted (given : BackendResultFields) : BackendResultFields :=
  { given with evidenceIds := sortOn id given.evidenceIds }

theorem Valid.sorted {given : BackendResultFields} (valid : given.Valid) : given.sorted.Valid := by
  have perm : (sortOn id given.evidenceIds).Perm given.evidenceIds := sortOn_perm id _
  refine ⟨valid.texts_nonblank, valid.score_bounded, valid.uncertainty_bounded,
    ⟨perm.nodup_iff.mpr valid.evidence_distinct.1, fun text member =>
      valid.evidence_distinct.2 text (perm.mem_iff.mp member)⟩, valid.generations_pos, ?_,
    valid.versioned⟩
  have evidence : given.sorted.evidenceIds = [] ↔ given.evidenceIds = [] := by
    rw [← List.length_eq_zero_iff, ← List.length_eq_zero_iff]
    exact iff_of_eq (congrArg (· = 0) perm.length_eq)
  simp only [HonestCalibration, Ne, evidence]
  exact valid.honest

end BackendResultFields

/-- What a backend answers for a candidate. -/
structure PlacementBackendResult where
  fields : BackendResultFields
  /-- The fields pass the checks of the constructor. -/
  valid : fields.Valid
  /-- Evidence stands in order. -/
  evidence_sorted : sortOn id fields.evidenceIds = fields.evidenceIds

namespace PlacementBackendResult

/-- The result of valid fields. -/
def make (given : BackendResultFields) (valid : given.Valid) : PlacementBackendResult where
  fields := given.sorted
  valid := valid.sorted
  evidence_sorted := sortOn_eq_self id (sortOn_pairwise id _)

/-- Construct a result from its fields. -/
def construct (given : BackendResultFields) : Except Fault PlacementBackendResult :=
  checked BackendResultFields.check BackendResultFields.check_eq_ok_iff make given

theorem construct_fields (result : PlacementBackendResult) :
    construct result.fields = .ok result := by
  refine checked_eq_ok_iff.mpr ⟨result.valid, ?_⟩
  obtain ⟨fields, valid, sorted⟩ := result
  have same : fields.sorted = fields := by
    rw [BackendResultFields.sorted, sorted]
  simp only [make, same]

theorem exists_construct_iff {given : BackendResultFields} :
    (∃ result, construct given = .ok result) ↔ given.Valid := by
  simp only [construct, checked_eq_ok_iff]
  exact ⟨fun ⟨_, valid, _⟩ => valid, fun valid => ⟨_, valid, rfl⟩⟩

end PlacementBackendResult

/-! ## Predictions -/

/-- A prediction of how well a candidate serves. -/
structure PlacementPrediction where
  predictionId : String
  candidateId : String
  rawScore : ℚ
  confidenceBand : PlacementConfidenceBand
  calibrationState : PlacementCalibrationState := .uncalibrated
  reasonCodes : List String := []
  backendId : String := "deterministic-weighted"
  backendVersion : String := "v1"
  backendKind : PlacementBackendKind := .deterministic
  uncertainty : ℚ := 1
  calibrationArtifactId : Option String := none
  calibrationDatasetId : Option String := none
  evidenceIds : List String := []
  operatingDomain : String := "certified-baseline"
  artifactVersion : Option String := none
  hardwareProfileGeneration : Option Int := none
  topologyGeneration : Option Int := none

namespace PlacementPrediction

/-- The fields of the backend result that a prediction stands for. -/
def resultFields (prediction : PlacementPrediction) : BackendResultFields where
  backendId := prediction.backendId
  backendVersion := prediction.backendVersion
  backendKind := prediction.backendKind
  candidateId := prediction.candidateId
  score := prediction.rawScore
  uncertainty := prediction.uncertainty
  calibrationState := prediction.calibrationState
  calibrationArtifactId := prediction.calibrationArtifactId
  calibrationDatasetId := prediction.calibrationDatasetId
  evidenceIds := prediction.evidenceIds
  operatingDomain := prediction.operatingDomain
  artifactVersion := prediction.artifactVersion
  hardwareProfileGeneration := prediction.hardwareProfileGeneration
  topologyGeneration := prediction.topologyGeneration

/-- A failure of a contract that a validator constructs, as the enclosing contract reports it. -/
def insideValidator {α : Type} : Except Fault α → Except Fault α
  | .error (.validation _ _ message) => .error (.validation "PlacementPrediction" "" message)
  | outcome => outcome

/-- Construct a prediction: a backend result has to be constructed from it. -/
def construct (draft : PlacementPrediction) : Except Fault PlacementPrediction := do
  let contract := "PlacementPrediction"
  forEach (fun field => rule contract field.1 (Text.Nonblank field.2)
      "placement backend identity must be nonblank")
    [("backend_id", draft.backendId), ("backend_version", draft.backendVersion)]
  fieldWithin contract "uncertainty" 0 1 draft.uncertainty
  forEach (fun field => forEach (fieldGe contract field.1 1) field.2.toList)
    draft.resultFields.generations
  let _ ← insideValidator (PlacementBackendResult.construct draft.resultFields)
  return draft

@[simp] theorem insideValidator_eq_ok {α : Type} {outcome : Except Fault α} {answer : α} :
    insideValidator outcome = .ok answer ↔ outcome = .ok answer := by
  unfold insideValidator
  split <;> simp

theorem construct_eq_ok_iff {draft made : PlacementPrediction} :
    draft.construct = .ok made ↔ draft.resultFields.Valid ∧ draft = made := by
  simp only [construct, bind_eq_ok, forEach_eq_ok, rule_eq_ok, fieldGe_eq_ok, fieldWithin_eq_ok,
    Option.mem_toList, exists_const, insideValidator_eq_ok, pure_eq_ok, Except.ok.injEq]
  constructor
  · rintro ⟨_, _, _, result, constructed, rfl⟩
    exact ⟨PlacementBackendResult.exists_construct_iff.mp ⟨result, constructed⟩, rfl⟩
  · rintro ⟨valid, rfl⟩
    obtain ⟨result, constructed⟩ := PlacementBackendResult.exists_construct_iff.mpr valid
    have texts := valid.texts_nonblank
    simp only [BackendResultFields.texts, List.forall_mem_cons] at texts
    have identity : Text.Nonblank draft.backendId ∧ Text.Nonblank draft.backendVersion :=
      ⟨texts.1 _ rfl, texts.2.1 _ rfl⟩
    exact ⟨by simpa using identity, valid.uncertainty_bounded, valid.generations_pos, result,
      constructed, rfl⟩

end PlacementPrediction

/-! ## Backends -/

/-- The score of features, to six decimal places. -/
def scoreFeatures (features : PlacementFeatures) : ℚ :=
  let raw := 45 / 100 * features.compatibilityScore + 30 / 100 * features.localityScore +
    25 / 100 * features.evidenceScore - 35 / 100 * features.uncertaintyPenalty
  max 0 (min 1 (roundTo 6 raw))

/-- A backend: one that answers with a result, or one that only scores. -/
inductive PlacementBackend where
  /-- A backend with `predict`. -/
  | predicting (predict : PlacementFeatures → Except Fault PlacementBackendResult)
  /-- A backend with `score`, and with the identity that it states, if any. -/
  | scoring (backendId backendVersion : Option String) (score : PlacementFeatures → Except Fault ℚ)

/-- The backend that is taken where none is given. -/
def deterministicPlacementBackend : PlacementBackend :=
  .predicting fun features => PlacementBackendResult.construct {
    backendId := "deterministic-weighted"
    backendVersion := "v1"
    backendKind := .deterministic
    candidateId := features.candidateId
    score := scoreFeatures features
    uncertainty := 1
    calibrationState := .uncalibrated
    evidenceIds := features.evidenceIds
    operatingDomain := "certified-deterministic-baseline"
    hardwareProfileGeneration := features.hardwareProfileGeneration
    topologyGeneration := features.topologyGeneration }

/-- The result of a backend for the features of a candidate. -/
def PlacementBackend.resultFor (features : PlacementFeatures) (candidateId : String) :
    PlacementBackend → Except Fault PlacementBackendResult
  | predicting predict => do
      let result ← predict features
      PlacementBackendResult.construct result.fields
  | scoring backendId backendVersion score => do
      let score ← score features
      require (0 ≤ score ∧ score ≤ 1)
        (.value "placement backend score must be bounded between zero and one")
      PlacementBackendResult.construct {
        backendId := backendId.getD "external-unidentified"
        backendVersion := backendVersion.getD "unknown"
        backendKind := .empirical
        candidateId := candidateId
        score := score
        uncertainty := 1
        calibrationState := .uncalibrated
        operatingDomain := "legacy-external-uncalibrated"
        hardwareProfileGeneration := features.hardwareProfileGeneration
        topologyGeneration := features.topologyGeneration }

/-- How much a score is trusted. -/
def confidenceBand (score : ℚ) : PlacementConfidenceBand :=
  if 75 / 100 ≤ score then .high else if 45 / 100 ≤ score then .medium else .low

/-! ## Handing over -/

section Predictor

variable (digest : Digest)

/-- The prediction that a result is handed over in. -/
def predictionOf (candidateId : String) (result : BackendResultFields) : PlacementPrediction where
  predictionId := digest.hexdigest (.obj [("backend_result", result.dump)])
  candidateId := candidateId
  rawScore := result.score
  confidenceBand := confidenceBand result.score
  calibrationState := .uncalibrated
  reasonCodes := ["DETERMINISTIC_BASELINE"]
  backendId := result.backendId
  backendVersion := result.backendVersion
  backendKind := result.backendKind
  uncertainty := result.uncertainty
  calibrationArtifactId := result.calibrationArtifactId
  calibrationDatasetId := result.calibrationDatasetId
  evidenceIds := result.evidenceIds
  operatingDomain := result.operatingDomain
  artifactVersion := result.artifactVersion
  hardwareProfileGeneration := result.hardwareProfileGeneration
  topologyGeneration := result.topologyGeneration

/-- The features of a candidate. -/
def featuresOf (featuresById : Dict String PlacementFeatures) (candidateId : String) :
    Except Fault PlacementFeatures :=
  (featuresById.get? candidateId).elim (.error (.missingKey candidateId)) .ok

/-- The prediction for an eligible candidate. -/
def predictPlacement (featuresById : Dict String PlacementFeatures) (backend : PlacementBackend)
    (candidateId : String) : Except Fault PlacementPrediction := do
  let features ← featuresOf featuresById candidateId
  require (features.candidateId = candidateId) (.value "placement feature candidate mismatch")
  let result ← backend.resultFor features candidateId
  require (result.fields.candidateId = candidateId)
    (.value "placement backend candidate mismatch")
  require (result.fields.hardwareProfileGeneration = features.hardwareProfileGeneration ∧
      result.fields.topologyGeneration = features.topologyGeneration)
    (.value "placement backend provenance generation mismatch")
  require (0 ≤ result.fields.score ∧ result.fields.score ≤ 1)
    (.value "placement backend score must be bounded between zero and one")
  (predictionOf digest candidateId result.fields).construct

/-- The predictions for the eligible candidates, in the order of their ids. -/
def predictPlacements (candidates : List PlacementCandidate)
    (featuresById : Dict String PlacementFeatures)
    (backend : PlacementBackend := deterministicPlacementBackend) :
    Except Fault (List PlacementPrediction) := do
  let out ← (candidates.filter PlacementCandidate.eligible).mapM fun candidate =>
    predictPlacement digest featuresById backend candidate.candidateId
  return sortOn PlacementPrediction.candidateId out

end Predictor

/-! ## What is handed over -/

section HandOver

variable {digest : Digest} {featuresById : Dict String PlacementFeatures}
  {predict : PlacementFeatures → Except Fault PlacementBackendResult} {candidateId : String}

/-- A candidate has features, and for them the backend answers with a result of that candidate and
of their generations. -/
structure Served (featuresById : Dict String PlacementFeatures)
    (predict : PlacementFeatures → Except Fault PlacementBackendResult) (candidateId : String)
    (features : PlacementFeatures) (result : PlacementBackendResult) : Prop where
  features_found : featuresById.get? candidateId = some features
  features_match : features.candidateId = candidateId
  answered : predict features = .ok result
  result_match : result.fields.candidateId = candidateId
  hardware_generation :
    result.fields.hardwareProfileGeneration = features.hardwareProfileGeneration
  topology_generation : result.fields.topologyGeneration = features.topologyGeneration

theorem Served.unique {features otherFeatures : PlacementFeatures}
    {result other : PlacementBackendResult}
    (served : Served featuresById predict candidateId features result)
    (alsoServed : Served featuresById predict candidateId otherFeatures other) :
    result = other := by
  have sameFeatures := Option.some_inj.mp
    (served.features_found.symm.trans alsoServed.features_found)
  exact Except.ok.inj (served.answered.symm.trans (sameFeatures ▸ alsoServed.answered))

/-- The prediction for a candidate that is served is made from its result. -/
theorem predictPlacement_of_served {features : PlacementFeatures} {result : PlacementBackendResult}
    (served : Served featuresById predict candidateId features result) :
    predictPlacement digest featuresById (.predicting predict) candidateId =
      (predictionOf digest candidateId result.fields).construct := by
  simp only [predictPlacement, featuresOf, served.features_found, Option.elim_some, ok_bind,
    PlacementBackend.resultFor, served.answered, PlacementBackendResult.construct_fields,
    require_of_true served.features_match, require_of_true served.result_match,
    require_of_true (And.intro served.hardware_generation served.topology_generation),
    require_of_true result.valid.score_bounded]

theorem eq_of_predictPlacement {backend : PlacementBackend} {prediction : PlacementPrediction}
    (made : predictPlacement digest featuresById backend candidateId = .ok prediction) :
    prediction.candidateId = candidateId ∧ prediction.calibrationState = .uncalibrated := by
  simp only [predictPlacement, bind_eq_ok, PlacementPrediction.construct_eq_ok_iff] at made
  obtain ⟨features, _, _, _, result, _, _, _, _, _, _, _, _, rfl⟩ := made
  exact ⟨rfl, rfl⟩

theorem construct_predictionOf_iff {result : PlacementBackendResult}
    (same : result.fields.candidateId = candidateId) :
    (∃ prediction, (predictionOf digest candidateId result.fields).construct = .ok prediction) ↔
      result.fields.calibrationState = .uncalibrated := by
  have kept : (predictionOf digest candidateId result.fields).resultFields =
      { result.fields with calibrationState := .uncalibrated } := by
    rw [← same]
    rfl
  simp only [PlacementPrediction.construct_eq_ok_iff, exists_and_left, exists_eq', and_true, kept]
  constructor
  · intro valid
    have unclaimed := valid.honest
    have honest := result.valid.honest
    simp only [BackendResultFields.HonestCalibration, reduceCtorEq, if_false] at unclaimed
    by_contra calibrated
    have claimed : result.fields.calibrationState = .empiricallyCalibrated := by
      cases state : result.fields.calibrationState <;> simp_all
    rw [BackendResultFields.HonestCalibration, if_pos claimed] at honest
    exact honest.1 unclaimed.1
  · intro uncalibrated
    have unchanged : { result.fields with calibrationState := .uncalibrated } = result.fields := by
      rw [← uncalibrated]
    rw [unchanged]
    exact result.valid

/-- A prediction carries what a result says. -/
structure Carries (prediction : PlacementPrediction) (result : BackendResultFields) : Prop where
  score : prediction.rawScore = result.score
  uncertainty : prediction.uncertainty = result.uncertainty
  calibrationState : prediction.calibrationState = result.calibrationState
  calibrationArtifactId : prediction.calibrationArtifactId = result.calibrationArtifactId
  calibrationDatasetId : prediction.calibrationDatasetId = result.calibrationDatasetId
  evidenceIds : prediction.evidenceIds = result.evidenceIds

/-- The predictions for some candidates: those of the eligible ones, in the order of their ids,
whatever the order of the candidates, each with the result of its candidate. -/
structure HandedOver (digest : Digest) (candidates : List PlacementCandidate)
    (featuresById : Dict String PlacementFeatures)
    (predict : PlacementFeatures → Except Fault PlacementBackendResult)
    (predictions : List PlacementPrediction) : Prop where
  /-- They are made in any order of the candidates. -/
  predicted : ∀ others, List.Perm others candidates →
    predictPlacements digest others featuresById (.predicting predict) = .ok predictions
  /-- There is one for each eligible candidate. -/
  one_each : (predictions.map PlacementPrediction.candidateId).Perm
    ((candidates.filter PlacementCandidate.eligible).map PlacementCandidate.candidateId)
  /-- They stand in the order of their ids. -/
  sorted : predictions.Pairwise fun earlier later => earlier.candidateId ≤ later.candidateId
  /-- Each carries the result of its candidate. -/
  carried : ∀ prediction ∈ predictions, ∀ features result,
    Served featuresById predict prediction.candidateId features result →
      Carries prediction result.fields

variable {candidates : List PlacementCandidate}

theorem predictPlacements_perm {others : List PlacementCandidate} {backend : PlacementBackend}
    {predictions : List PlacementPrediction} (perm : others.Perm candidates)
    (made : predictPlacements digest candidates featuresById backend = .ok predictions) :
    predictPlacements digest others featuresById backend = .ok predictions := by
  obtain ⟨out, each, sorted⟩ := bind_eq_ok.mp made
  obtain rfl := Except.ok.inj sorted
  obtain ⟨otherOut, otherEach, outPerm⟩ :=
    List.perm_comp_forall₂ (perm.filter _) (mapM_eq_ok_iff_forall₂.mp each)
  have otherMade := mapM_eq_ok_iff_forall₂.mpr otherEach
  have separates : Separates PlacementPrediction.candidateId otherOut := by
    intro left leftMem right rightMem same
    obtain ⟨first, _, leftMade⟩ := (mem_of_mapM_eq_ok otherMade).mp leftMem
    obtain ⟨second, _, rightMade⟩ := (mem_of_mapM_eq_ok otherMade).mp rightMem
    have sameCandidate : first.candidateId = second.candidateId := by
      rw [← (eq_of_predictPlacement leftMade).1, same, (eq_of_predictPlacement rightMade).1]
    exact Except.ok.inj (leftMade.symm.trans (sameCandidate ▸ rightMade))
  simp only [predictPlacements, otherMade, ok_bind, sortOn_eq_of_perm separates outPerm]
  rfl

/-- Where every eligible candidate is served, the predictions are handed over exactly where no
result is calibrated. -/
theorem exists_handedOver_iff (digest : Digest) (candidates : List PlacementCandidate)
    (featuresById : Dict String PlacementFeatures)
    (predict : PlacementFeatures → Except Fault PlacementBackendResult)
    (served : ∀ candidate ∈ candidates, candidate.eligible = true →
      ∃ features result, Served featuresById predict candidate.candidateId features result) :
    (∃ predictions, HandedOver digest candidates featuresById predict predictions) ↔
      ∀ candidate ∈ candidates, candidate.eligible = true → ∀ features result,
        Served featuresById predict candidate.candidateId features result →
          result.fields.calibrationState = .uncalibrated := by
  constructor
  · rintro ⟨predictions, handedOver⟩ candidate member eligible features result isServed
    obtain ⟨out, each, sorted⟩ := bind_eq_ok.mp (handedOver.predicted candidates (.refl _))
    obtain rfl := Except.ok.inj sorted
    obtain ⟨prediction, inOut, made⟩ :=
      exists_of_mapM_eq_ok each (List.mem_filter.mpr ⟨member, eligible⟩)
    obtain ⟨same, uncalibrated⟩ := eq_of_predictPlacement made
    have carries := handedOver.carried prediction ((mem_sortOn _).mpr inOut) features result
      (same.symm ▸ isServed)
    exact carries.calibrationState.symm.trans uncalibrated
  · intro uncalibrated
    have each : ∀ candidate ∈ candidates.filter PlacementCandidate.eligible, ∃ prediction,
        predictPlacement digest featuresById (.predicting predict) candidate.candidateId =
          .ok prediction := by
      intro candidate inFilter
      obtain ⟨member, eligible⟩ := List.mem_filter.mp inFilter
      obtain ⟨features, result, isServed⟩ := served candidate member eligible
      rw [predictPlacement_of_served isServed, construct_predictionOf_iff isServed.result_match]
      exact uncalibrated candidate member eligible features result isServed
    obtain ⟨out, made⟩ := exists_mapM_eq_ok each
    have predicted : predictPlacements digest candidates featuresById (.predicting predict) =
        .ok (sortOn PlacementPrediction.candidateId out) := by
      rw [predictPlacements, made]
      rfl
    have ids := map_of_mapM_eq_ok (fun _ _ answered => (eq_of_predictPlacement answered).1) made
    refine ⟨_, fun others perm => predictPlacements_perm perm predicted,
      ids ▸ (sortOn_perm _ out).map _, sortOn_pairwise _ out, ?_⟩
    intro prediction inSorted features result isServed
    obtain ⟨candidate, inFilter, answered⟩ :=
      (mem_of_mapM_eq_ok made).mp ((mem_sortOn _).mp inSorted)
    obtain ⟨member, eligible⟩ := List.mem_filter.mp inFilter
    have same := (eq_of_predictPlacement answered).1
    rw [same] at isServed
    have state := uncalibrated candidate member eligible features result isServed
    rw [predictPlacement_of_served isServed, PlacementPrediction.construct_eq_ok_iff] at answered
    obtain ⟨_, rfl⟩ := answered
    exact ⟨rfl, rfl, state.symm, rfl, rfl, rfl⟩

end HandOver

/-! ## A measured candidate -/

section Measured

/-- An eligible candidate. -/
def measuredCandidate : PlacementCandidate where
  candidateId := "candidate"
  segmentId := "segment"
  topologyNodeId := "node"
  hardwareProfileId := "profile"
  eligible := true

theorem measuredFeatures_bounded : ∀ score ∈ [(1 : ℚ), 0, 0, 1, 1], 0 ≤ score ∧ score ≤ 1 := by
  decide +kernel

theorem measuredFeatures_unknown : (∀ field ∈ [(none : Option Int), none, none],
      ∀ count ∈ field, 1 ≤ count) ∧ (∀ latency ∈ (none : Option ℚ), 0 < latency) ∧
    ∀ headroom ∈ (none : Option Int), 0 ≤ headroom := by
  simp

theorem measuredFeatures_canonical : CanonicalTexts [] := by
  decide

theorem measuredFeatures_provenance :
    (∀ entry ∈ ([] : List (String × List String)), Text.Nonblank entry.1 ∧
      (∀ text ∈ entry.2, Text.Nonblank text) ∧ sortOn id entry.2 = entry.2) ∧
    ([] : List (String × List String)).Pairwise fun left right => left.1 < right.1 :=
  ⟨nofun, .nil⟩

/-- Its features. -/
def measuredFeatures : PlacementFeatures where
  candidateId := "candidate"
  compatibilityScore := 1
  localityScore := 0
  evidenceScore := 0
  uncertaintyPenalty := 1
  scores_bounded := measuredFeatures_bounded
  counts_pos := measuredFeatures_unknown.1
  latency_pos := measuredFeatures_unknown.2.1
  headroom_nonneg := measuredFeatures_unknown.2.2
  evidence_canonical := measuredFeatures_canonical
  provenance_canonical := measuredFeatures_provenance

/-- A result for it, with an artifact and a dataset where it is calibrated. -/
def measuredFields (state : PlacementCalibrationState) : BackendResultFields where
  backendId := "empirical"
  backendVersion := "1"
  backendKind := .empirical
  candidateId := "candidate"
  score := 1 / 2
  uncertainty := 1 / 10
  calibrationState := state
  calibrationArtifactId := if state = .uncalibrated then none else some "artifact"
  calibrationDatasetId := if state = .uncalibrated then none else some "dataset"
  evidenceIds := ["measurement"]
  operatingDomain := "fixture"

theorem measuredFields_visible : ∀ text ∈ ["empirical", "1", "candidate", "fixture", "artifact",
    "dataset", "measurement"], Text.Nonblank text := by
  decide

theorem measuredFields_valid (state : PlacementCalibrationState) :
    (measuredFields state).Valid := by
  have visible := measuredFields_visible
  simp only [List.forall_mem_cons, List.not_mem_nil, false_implies, implies_true, and_true]
    at visible
  constructor
  case texts_nonblank => cases state <;> simp [BackendResultFields.texts, measuredFields, visible]
  case score_bounded => norm_num [measuredFields]
  case uncertainty_bounded => norm_num [measuredFields]
  case evidence_distinct => simp [measuredFields, visible]
  case generations_pos => simp [BackendResultFields.generations, measuredFields]
  case honest => cases state <;> simp [BackendResultFields.HonestCalibration, measuredFields]
  case versioned => simp [measuredFields]

/-- The result of the fields. -/
def measuredResult (state : PlacementCalibrationState) : PlacementBackendResult :=
  .make (measuredFields state) (measuredFields_valid state)

/-- The features by candidate. -/
def measuredFeaturesById : Dict String PlacementFeatures :=
  Dict.indexed PlacementFeatures.candidateId [measuredFeatures]

theorem served_measured (state : PlacementCalibrationState) :
    Served measuredFeaturesById (fun _ => .ok (measuredResult state)) "candidate" measuredFeatures
      (measuredResult state) :=
  ⟨rfl, rfl, rfl, rfl, rfl, rfl⟩

/-- A calibrated result makes the prediction fail. -/
theorem predictPlacements_calibrated (digest : Digest) (predictions : List PlacementPrediction) :
    predictPlacements digest [measuredCandidate] measuredFeaturesById
      (.predicting fun _ => .ok (measuredResult .empiricallyCalibrated)) ≠ .ok predictions := by
  intro made
  obtain ⟨out, each, _⟩ := bind_eq_ok.mp made
  obtain ⟨prediction, _, answered⟩ :=
    exists_of_mapM_eq_ok each (List.mem_singleton_self measuredCandidate)
  have isServed := served_measured .empiricallyCalibrated
  have constructed := (predictPlacement_of_served isServed).symm.trans answered
  have state := (construct_predictionOf_iff isServed.result_match).mp ⟨prediction, constructed⟩
  nomatch state

/-- A calibrated result is valid and matches its candidate, and is not handed over. -/
theorem calibrated_result_refused :
    Served measuredFeaturesById (fun _ => .ok (measuredResult .empiricallyCalibrated)) "candidate"
        measuredFeatures (measuredResult .empiricallyCalibrated) ∧
      (∀ predictions, predictPlacements Digest.sha256 [measuredCandidate] measuredFeaturesById
        (.predicting fun _ => .ok (measuredResult .empiricallyCalibrated)) ≠ .ok predictions) ∧
      ¬ ∃ predictions, HandedOver Digest.sha256 [measuredCandidate] measuredFeaturesById
        (fun _ => .ok (measuredResult .empiricallyCalibrated)) predictions := by
  have refused := predictPlacements_calibrated Digest.sha256
  refine ⟨served_measured .empiricallyCalibrated, refused, ?_⟩
  rintro ⟨predictions, handedOver⟩
  exact refused predictions (handedOver.predicted _ (.refl _))

/-- A second eligible candidate. -/
def standbyCandidate : PlacementCandidate := { measuredCandidate with candidateId := "standby" }

/-- Its features. -/
def standbyFeatures : PlacementFeatures := { measuredFeatures with candidateId := "standby" }

theorem standbyFields_valid :
    ({ measuredFields .uncalibrated with candidateId := "standby" } :
      BackendResultFields).Valid := by
  have visible : Text.Nonblank "standby" := by decide
  have measured := measuredFields_valid .uncalibrated
  refine { measured with texts_nonblank := ?_ }
  have texts := measured.texts_nonblank
  simp only [BackendResultFields.texts, measuredFields] at texts ⊢
  simp_all

/-- An uncalibrated result for it. -/
def standbyResult : PlacementBackendResult := .make _ standbyFields_valid

/-- The features of both candidates. -/
def bothFeaturesById : Dict String PlacementFeatures :=
  Dict.indexed PlacementFeatures.candidateId [measuredFeatures, standbyFeatures]

/-- A backend that measures both candidates. -/
def predictBoth (features : PlacementFeatures) : Except Fault PlacementBackendResult :=
  .ok (if features.candidateId = "standby" then standbyResult else measuredResult .uncalibrated)

theorem served_both {candidate : PlacementCandidate}
    (member : candidate ∈ [measuredCandidate, standbyCandidate]) :
    ∃ features result, Served bothFeaturesById predictBoth candidate.candidateId features result ∧
      result.fields.calibrationState = .uncalibrated := by
  rcases List.mem_pair.mp member with rfl | rfl
  · exact ⟨measuredFeatures, measuredResult .uncalibrated, ⟨rfl, rfl, rfl, rfl, rfl, rfl⟩, rfl⟩
  · exact ⟨standbyFeatures, standbyResult, ⟨rfl, rfl, rfl, rfl, rfl, rfl⟩, rfl⟩

/-- Uncalibrated results for two candidates are handed over. -/
theorem exists_handedOver_uncalibrated :
    ∃ predictions, HandedOver Digest.sha256 [measuredCandidate, standbyCandidate] bothFeaturesById
      predictBoth predictions := by
  refine (exists_handedOver_iff Digest.sha256 [measuredCandidate, standbyCandidate]
    bothFeaturesById predictBoth fun candidate member _ => ?_).mpr
      fun candidate member _ features result alsoServed => ?_
  · obtain ⟨features, result, isServed, _⟩ := served_both member
    exact ⟨features, result, isServed⟩
  · obtain ⟨_, _, isServed, uncalibrated⟩ := served_both member
    rw [← isServed.unique alsoServed]
    exact uncalibrated

end Measured

end Placement
end MercuryX
