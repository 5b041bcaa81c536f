import MercuryX.DisaggregatedExecution.Contracts
import MercuryX.Foundation.LastWins

/-!
# Stitching results together

The results of the terminal segments of a plan are put together. Results are found by segment id,
the last one under each id, whatever plan and namespace they are of.
-/

namespace MercuryX
namespace DisaggregatedExecution

open Foundation GlobalMemory

/-! ## Results -/

/-- The result of one attempt at a segment. -/
structure SegmentExecutionResult where
  segmentResultId : String
  executionPlanId : String
  segmentId : String
  namespaceType : GlobalMemoryNamespace
  namespaceId : String
  succeeded : Bool
  verified : Bool
  outputArtifactIds : List String := []
  failureCategory : Option ExecutionFailureCategory := none
  attempt : Nat
  resultFingerprint : String
  /-- Identity fields are nonblank. -/
  texts_nonblank : ∀ text ∈ [segmentResultId, executionPlanId, segmentId, namespaceId,
    resultFingerprint], Text.Nonblank text
  /-- Artifacts stand in canonical form, and there are not too many. -/
  outputs_canonical : CanonicalTexts outputArtifactIds ∧
    outputArtifactIds.length ≤ maxExecutionArtifactsPerSegment
  /-- There is an attempt, and there are not too many. -/
  attempt_bounds : 1 ≤ attempt ∧ attempt ≤ maxRetryAttempts
  /-- A successful result is verified. -/
  verified_of_succeeded : succeeded = true → verified = true
  /-- Exactly the failed results have a failure category. -/
  failure : succeeded = true ↔ failureCategory = none

/-- A result is successful and verified. -/
def verifySegmentResult (result : SegmentExecutionResult) : Bool :=
  result.succeeded && result.verified

theorem verifySegmentResult_iff {result : SegmentExecutionResult} :
    verifySegmentResult result = true ↔ result.succeeded = true ∧ result.verified = true := by
  simp [verifySegmentResult]

/-- The fields of a stitched result. -/
structure StitchedFields where
  stitchedResultId : String
  executionPlanId : String
  namespaceType : GlobalMemoryNamespace
  namespaceId : String
  terminalSegmentIds : List String
  terminalResultIds : List String
  artifactLineage : List String
  verificationStatus : Bool
  stitchingPolicyId : String
  resultFingerprint : String
  deriving DecidableEq

namespace StitchedFields

/-- The check of a tuple that has to be canonical. -/
def checkTuple (field : String) (values : List String) : Except Fault Unit := do
  let contract := "StitchedExecutionResult"
  rule contract field (∀ value ∈ values, Text.Nonblank value) s!"{field} must be nonblank"
  rule contract field values.Nodup s!"{field} contains duplicates"
  rule contract field (values = sortOn id values) s!"{field} must be canonical"

/-- The constraints on a stitched result. -/
def validate (fields : StitchedFields) : Except Fault Unit := do
  forEach (fun field => rule "StitchedExecutionResult" field.1 (Text.Nonblank field.2)
      "stitched result field must be nonblank")
    [("stitched_result_id", fields.stitchedResultId),
      ("execution_plan_id", fields.executionPlanId), ("namespace_id", fields.namespaceId)]
  forEach (fun field => checkTuple field.1 field.2)
    [("terminal_segment_ids", fields.terminalSegmentIds),
      ("terminal_result_ids", fields.terminalResultIds),
      ("artifact_lineage", fields.artifactLineage)]
  forEach (fun field => rule "StitchedExecutionResult" field.1 (Text.Nonblank field.2)
      "stitched result field must be nonblank")
    [("stitching_policy_id", fields.stitchingPolicyId),
      ("result_fingerprint", fields.resultFingerprint)]

/-- What the validation of a stitched result establishes. -/
structure Valid (fields : StitchedFields) : Prop where
  /-- Identity fields are nonblank. -/
  texts_nonblank : ∀ text ∈ [fields.stitchedResultId, fields.executionPlanId, fields.namespaceId,
    fields.stitchingPolicyId, fields.resultFingerprint], Text.Nonblank text
  /-- Tuples hold nonblank texts, each once and in order. -/
  tuples_canonical : ∀ values ∈ [fields.terminalSegmentIds, fields.terminalResultIds,
    fields.artifactLineage],
    (∀ value ∈ values, Text.Nonblank value) ∧ values.Nodup ∧ values = sortOn id values

theorem validate_eq_ok_iff {fields : StitchedFields} {done : Unit} :
    fields.validate = .ok done ↔ fields.Valid := by
  simp only [validate, checkTuple, bind_eq_ok, forEach_eq_ok, rule_eq_ok, exists_const,
    List.forall_mem_cons, List.not_mem_nil, false_imp_iff, implies_true, and_true]
  constructor
  · rintro ⟨⟨stitched, plan, space⟩, tuples, policy, fingerprint⟩
    exact ⟨by simpa using ⟨stitched, plan, space, policy, fingerprint⟩, by simpa using tuples⟩
  · rintro ⟨texts, tuples⟩
    simp only [List.forall_mem_cons, List.not_mem_nil, false_imp_iff, implies_true,
      and_true] at texts tuples
    obtain ⟨stitched, plan, space, policy, fingerprint⟩ := texts
    exact ⟨⟨stitched, plan, space⟩, tuples, policy, fingerprint⟩

end StitchedFields

/-- A validated stitched result. -/
structure StitchedExecutionResult extends StitchedFields where
  /-- The result passed its validators. -/
  valid : toStitchedFields.Valid

/-- Validate the fields of a stitched result. -/
def StitchedExecutionResult.construct (fields : StitchedFields) :
    Except Fault StitchedExecutionResult :=
  checked StitchedFields.validate StitchedFields.validate_eq_ok_iff StitchedExecutionResult.mk
    fields

theorem StitchedExecutionResult.construct_eq_ok_iff {fields : StitchedFields}
    {stitched : StitchedExecutionResult} : construct fields = .ok stitched ↔
      fields.Valid ∧ stitched.toStitchedFields = fields := by
  rw [construct, checked_eq_ok_iff]
  constructor
  · rintro ⟨valid, rfl⟩
    exact ⟨valid, rfl⟩
  · rintro ⟨valid, rfl⟩
    exact ⟨valid, rfl⟩

/-! ## Stitching -/

/-- What is to be stitched, the results apart. -/
structure StitchRequest where
  executionPlanId : String
  namespaceType : GlobalMemoryNamespace
  namespaceId : String
  terminalSegmentIds : List String
  stitchingPolicyId : String

/-- SHA-256 of a text, in hexadecimal. -/
def sha256Text (text : String) : String :=
  String.ofList (Sha256.hexdigest (text.toList.map fun c => UInt8.ofNat c.toNat))

theorem nonblank_sha256Text (text : String) : Text.Nonblank (sha256Text text) := by
  rw [Text.nonblank_iff, sha256Text, String.toList_ofList]
  exact Sha256.exists_visible_hexdigest _

/-- The results that are put together: the last one under each terminal segment. -/
def selectedResults (terminalSegmentIds : List String) (results : List SegmentExecutionResult) :
    List SegmentExecutionResult :=
  (sortOn id terminalSegmentIds).filterMap
    (Dict.indexed SegmentExecutionResult.segmentId results).get?

/-- The stitched result of selected results, before validation. -/
def stitchedFields (digest : Digest) (request : StitchRequest)
    (selected : List SegmentExecutionResult) : StitchedFields :=
  let terminalSegmentIds := sortOn id request.terminalSegmentIds
  let terminalResultIds := sortOn id (selected.map SegmentExecutionResult.segmentResultId)
  let artifactLineage := canonical id (selected.flatMap SegmentExecutionResult.outputArtifactIds)
  let resultFingerprint := digest.hexdigest (.obj [
    ("execution_plan_id", .str request.executionPlanId),
    ("namespace_type", .str request.namespaceType.value),
    ("namespace_id", .str request.namespaceId),
    ("terminal_segment_ids", Json.strs terminalSegmentIds),
    ("terminal_result_ids", Json.strs terminalResultIds),
    ("artifact_lineage", Json.strs artifactLineage), ("verification_status", .bool true),
    ("stitching_policy_id", .str request.stitchingPolicyId)])
  { stitchedResultId := sha256Text ("stitched:" ++ resultFingerprint)
    executionPlanId := request.executionPlanId
    namespaceType := request.namespaceType
    namespaceId := request.namespaceId
    terminalSegmentIds := terminalSegmentIds
    terminalResultIds := terminalResultIds
    artifactLineage := artifactLineage
    verificationStatus := true
    stitchingPolicyId := request.stitchingPolicyId
    resultFingerprint := resultFingerprint }

/-- Put the results of the terminal segments together. -/
def stitchExecutionResults (digest : Digest) (request : StitchRequest)
    (results : List SegmentExecutionResult) : Except Fault StitchedExecutionResult := do
  let resultBySegment := Dict.indexed SegmentExecutionResult.segmentId results
  require (∀ segmentId ∈ request.terminalSegmentIds, segmentId ∈ resultBySegment.keys)
    (.value "missing terminal segment result")
  let selected := selectedResults request.terminalSegmentIds results
  require (∀ result ∈ selected, verifySegmentResult result = true)
    (.value "terminal result not verified")
  StitchedExecutionResult.construct (stitchedFields digest request selected)

/-! ## When stitching succeeds -/

/-- What a stitched result can express: the terminal segments are distinct and the request is
named. -/
structure StitchRequest.Expressible (request : StitchRequest) : Prop where
  /-- No terminal segment is listed twice. -/
  terminals_nodup : request.terminalSegmentIds.Nodup
  /-- Identity fields are nonblank. -/
  texts_nonblank : ∀ text ∈ [request.executionPlanId, request.namespaceId,
    request.stitchingPolicyId], Text.Nonblank text

/-- Every terminal segment has a result. -/
def Covered (request : StitchRequest) (results : List SegmentExecutionResult) : Prop :=
  ∀ segmentId ∈ request.terminalSegmentIds, ∃ result ∈ results, result.segmentId = segmentId

section Success

variable {digest : Digest} {request : StitchRequest} {results : List SegmentExecutionResult}

theorem mem_keys_indexed_iff {segmentId : String} :
    segmentId ∈ (Dict.indexed SegmentExecutionResult.segmentId results).keys ↔
      ∃ result ∈ results, result.segmentId = segmentId := by
  simp [Dict.mem_keys_iff, Dict.indexed_get?_eq_find?, ← Option.isSome_iff_exists,
    List.find?_isSome]

theorem mem_of_mem_selectedResults {terminals : List String} {result : SegmentExecutionResult}
    (selected : result ∈ selectedResults terminals results) :
    result ∈ results ∧ result.segmentId ∈ terminals := by
  obtain ⟨segmentId, terminal, found⟩ := List.mem_filterMap.mp selected
  obtain ⟨inside, rfl⟩ := Dict.mem_of_indexed_get? found
  exact ⟨inside, (mem_sortOn id).mp terminal⟩

/-- A stitched result of covered terminal segments is valid exactly when the request can be
expressed and no two of the selected results share an id. -/
theorem valid_stitchedFields_iff (covered : Covered request results) :
    (stitchedFields digest request
        (selectedResults request.terminalSegmentIds results)).Valid ↔
      request.Expressible ∧ ((selectedResults request.terminalSegmentIds results).map
        SegmentExecutionResult.segmentResultId).Nodup := by
  have terminals := sortOn_perm id request.terminalSegmentIds
  have ids := sortOn_perm id ((selectedResults request.terminalSegmentIds results).map
    SegmentExecutionResult.segmentResultId)
  constructor
  · intro valid
    have distinct := (valid.tuples_canonical (sortOn id request.terminalSegmentIds)
      (by simp [stitchedFields])).2.1
    have apart := (valid.tuples_canonical _ (List.mem_cons_of_mem _ List.mem_cons_self)).2.1
    refine ⟨⟨terminals.nodup_iff.mp distinct, fun text member => ?_⟩, ids.nodup_iff.mp apart⟩
    refine valid.texts_nonblank text ?_
    simp only [stitchedFields, List.mem_cons, List.not_mem_nil, or_false] at member ⊢
    tauto
  · rintro ⟨expressible, apart⟩
    constructor
    case texts_nonblank =>
      have texts := expressible.texts_nonblank
      simp only [List.forall_mem_cons, List.not_mem_nil, false_imp_iff, implies_true,
        and_true] at texts
      obtain ⟨plan, space, policy⟩ := texts
      simpa [stitchedFields, digest.nonblank] using ⟨nonblank_sha256Text _, plan, space, policy⟩
    case tuples_canonical =>
      simp only [stitchedFields, List.forall_mem_cons, List.not_mem_nil, false_imp_iff,
        implies_true, and_true]
      refine ⟨⟨fun segmentId member => ?_, terminals.nodup_iff.mpr expressible.terminals_nodup,
        (sortOn_eq_self id (sortOn_pairwise id _)).symm⟩, ⟨fun resultId member => ?_,
        ids.nodup_iff.mpr apart, (sortOn_eq_self id (sortOn_pairwise id _)).symm⟩,
        ⟨fun artifact member => ?_, canonical_nodup id _,
        (sortOn_eq_self id (canonical_pairwise id _)).symm⟩⟩
      · obtain ⟨result, _, rfl⟩ := covered segmentId (terminals.mem_iff.mp member)
        exact result.texts_nonblank _ (by simp)
      · obtain ⟨result, _, rfl⟩ := List.mem_map.mp (ids.mem_iff.mp member)
        exact result.texts_nonblank _ (by simp)
      · obtain ⟨result, _, output⟩ := List.mem_flatMap.mp ((mem_canonical id).mp member)
        exact result.outputs_canonical.1.1 artifact output

/-- Stitching succeeds exactly when the terminal segments are covered, the selected results are
successful and verified and no two share an id, and the request can be expressed. -/
theorem stitchExecutionResults_eq_ok_iff {stitched : StitchedExecutionResult} :
    stitchExecutionResults digest request results = .ok stitched ↔
      Covered request results ∧
        (∀ result ∈ selectedResults request.terminalSegmentIds results,
          result.succeeded = true ∧ result.verified = true) ∧
        (request.Expressible ∧ ((selectedResults request.terminalSegmentIds results).map
          SegmentExecutionResult.segmentResultId).Nodup) ∧
        stitched.toStitchedFields =
          stitchedFields digest request (selectedResults request.terminalSegmentIds results) := by
  simp only [stitchExecutionResults, bind_eq_ok, require_eq_ok, exists_const,
    mem_keys_indexed_iff, verifySegmentResult_iff,
    StitchedExecutionResult.construct_eq_ok_iff]
  refine and_congr_right fun covered => and_congr_right fun _ => and_congr_left fun _ => ?_
  exact valid_stitchedFields_iff covered

end Success

/-! ## What stitching should do -/

/-- A result of the plan and the namespace of a request. -/
def StitchRequest.Own (request : StitchRequest) (result : SegmentExecutionResult) : Prop :=
  result.executionPlanId = request.executionPlanId ∧
    result.namespaceType = request.namespaceType ∧ result.namespaceId = request.namespaceId

/-- Every terminal segment has a successful and verified result of the plan and the namespace. -/
def Complete (request : StitchRequest) (results : List SegmentExecutionResult) : Prop :=
  ∀ segmentId ∈ request.terminalSegmentIds, ∃ result ∈ results, result.segmentId = segmentId ∧
    request.Own result ∧ result.succeeded = true ∧ result.verified = true

/-- Stitching does what it should, in whatever order the results come. -/
structure StitchLaw (digest : Digest) (request : StitchRequest)
    (results : List SegmentExecutionResult) : Prop where
  /-- Only results of the plan and the namespace are used. -/
  own : ∀ others, List.Perm others results → ∀ stitched,
    stitchExecutionResults digest request others = .ok stitched →
      ∀ result ∈ selectedResults request.terminalSegmentIds others, request.Own result
  /-- Stitching succeeds exactly on complete results. -/
  succeeds_iff : ∀ others, List.Perm others results →
    ((∃ stitched, stitchExecutionResults digest request others = .ok stitched) ↔
      Complete request results)
  /-- The order of the results does not matter. -/
  permuted : ∀ others, List.Perm others results → ∀ stitched,
    stitchExecutionResults digest request others = .ok stitched ↔
      stitchExecutionResults digest request results = .ok stitched
  /-- The lineage is the union of the artifacts of the results used. -/
  lineage : ∀ others, List.Perm others results → ∀ stitched,
    stitchExecutionResults digest request others = .ok stitched → ∀ artifact,
      artifact ∈ stitched.artifactLineage ↔
        ∃ result ∈ selectedResults request.terminalSegmentIds others,
          artifact ∈ result.outputArtifactIds

/-- The results for the terminal segments leave no choice that matters. -/
structure Settled (request : StitchRequest) (results : List SegmentExecutionResult) : Prop where
  /-- The request can be expressed. -/
  expressible : request.Expressible
  /-- Each is of the plan and the namespace, successful and verified. -/
  sound : ∀ result ∈ results, result.segmentId ∈ request.terminalSegmentIds →
    request.Own result ∧ result.succeeded = true ∧ result.verified = true
  /-- Two share an id exactly when they are for the same segment. -/
  identified : ∀ left ∈ results, ∀ right ∈ results,
    left.segmentId ∈ request.terminalSegmentIds → right.segmentId ∈ request.terminalSegmentIds →
      (left.segmentResultId = right.segmentResultId ↔ left.segmentId = right.segmentId)
  /-- An artifact of any of them is one of all those for some segment. -/
  common : ∀ result ∈ results, result.segmentId ∈ request.terminalSegmentIds →
    ∀ artifact ∈ result.outputArtifactIds, ∃ segmentId ∈ request.terminalSegmentIds,
      ∀ other ∈ results, other.segmentId = segmentId → artifact ∈ other.outputArtifactIds

/-- A choice of one result for each terminal segment. -/
abbrev StitchRequest.Chooses (request : StitchRequest) (results : List SegmentExecutionResult)
    (choice : String → Option SegmentExecutionResult) : Prop :=
  Dict.Chooses SegmentExecutionResult.segmentId results request.terminalSegmentIds choice

/-- No choice of one result for each terminal segment can be put together: one of them is not
successful and verified, or two share an id. -/
def Hopeless (request : StitchRequest) (results : List SegmentExecutionResult) : Prop :=
  ∀ choice, request.Chooses results choice →
    ¬ ((∀ segmentId ∈ request.terminalSegmentIds, ∀ result ∈ choice segmentId,
        result.succeeded = true ∧ result.verified = true) ∧
      ∀ left ∈ request.terminalSegmentIds, ∀ right ∈ request.terminalSegmentIds,
        ∀ leftResult ∈ choice left, ∀ rightResult ∈ choice right,
          leftResult.segmentResultId = rightResult.segmentResultId → left = right)

section Law

variable {digest : Digest} {request : StitchRequest} {results others : List SegmentExecutionResult}
  {choice : String → Option SegmentExecutionResult}

/-- The results that a choice selects. -/
def chosenResults (request : StitchRequest) (choice : String → Option SegmentExecutionResult) :
    List SegmentExecutionResult :=
  (sortOn id request.terminalSegmentIds).filterMap choice

theorem mem_chosenResults {result : SegmentExecutionResult} :
    result ∈ chosenResults request choice ↔
      ∃ segmentId ∈ request.terminalSegmentIds, result ∈ choice segmentId := by
  simp [chosenResults]

theorem map_segmentId_chosenResults (chooses : request.Chooses results choice) :
    (chosenResults request choice).map SegmentExecutionResult.segmentId =
      sortOn id request.terminalSegmentIds :=
  Dict.map_key_of_chooses fun segmentId member => chooses segmentId ((mem_sortOn id).mp member)

/-- No two chosen results share an id exactly when the ids tell the segments apart. -/
theorem nodup_chosenResults_iff (distinct : request.terminalSegmentIds.Nodup)
    (chooses : request.Chooses results choice) :
    ((chosenResults request choice).map SegmentExecutionResult.segmentResultId).Nodup ↔
      ∀ left ∈ request.terminalSegmentIds, ∀ right ∈ request.terminalSegmentIds,
        ∀ leftResult ∈ choice left, ∀ rightResult ∈ choice right,
          leftResult.segmentResultId = rightResult.segmentResultId → left = right := by
  have segments : ((chosenResults request choice).map SegmentExecutionResult.segmentId).Nodup := by
    rw [map_segmentId_chosenResults chooses]
    exact (sortOn_perm id _).nodup_iff.mpr distinct
  constructor
  · intro apart left leftTerminal right rightTerminal leftResult leftChosen rightResult rightChosen
      same
    obtain rfl := List.inj_on_of_nodup_map apart
      (mem_chosenResults.mpr ⟨left, leftTerminal, leftChosen⟩)
      (mem_chosenResults.mpr ⟨right, rightTerminal, rightChosen⟩) same
    exact (chooses.of_mem leftTerminal leftChosen).2.symm.trans
      (chooses.of_mem rightTerminal rightChosen).2
  · intro tells
    refine List.Nodup.map_on (fun leftResult leftMember rightResult rightMember same => ?_)
      (List.Nodup.of_map _ segments)
    obtain ⟨left, leftTerminal, leftChosen⟩ := mem_chosenResults.mp leftMember
    obtain ⟨right, rightTerminal, rightChosen⟩ := mem_chosenResults.mp rightMember
    have sameSegment := tells left leftTerminal right rightTerminal leftResult leftChosen
      rightResult rightChosen same
    refine List.inj_on_of_nodup_map segments leftMember rightMember ?_
    rw [(chooses.of_mem leftTerminal leftChosen).2, (chooses.of_mem rightTerminal rightChosen).2,
      sameSegment]

/-- The order of covered results makes a choice. -/
theorem chooses_of_perm (covered : Covered request results) (perm : List.Perm others results) :
    request.Chooses results (Dict.indexed SegmentExecutionResult.segmentId others).get? :=
  Dict.chooses_indexed perm covered

theorem exists_order_of_choice (distinct : request.terminalSegmentIds.Nodup)
    (chooses : request.Chooses results choice) : ∃ others, List.Perm others results ∧
      selectedResults request.terminalSegmentIds others = chosenResults request choice := by
  obtain ⟨others, perm, found⟩ := Dict.exists_order_of_chooses distinct chooses
  exact ⟨others, perm, List.filterMap_congr fun segmentId member =>
    found segmentId ((mem_sortOn id).mp member)⟩

theorem Covered.of_perm (covered : Covered request results) (perm : List.Perm others results) :
    Covered request others := by
  intro segmentId terminal
  obtain ⟨result, inside, named⟩ := covered segmentId terminal
  exact ⟨result, perm.mem_iff.mpr inside, named⟩

theorem Complete.covered (complete : Complete request results) : Covered request results := by
  intro segmentId terminal
  obtain ⟨result, inside, named, _⟩ := complete segmentId terminal
  exact ⟨result, inside, named⟩

theorem exists_stitched_iff :
    (∃ stitched, stitchExecutionResults digest request results = .ok stitched) ↔
      Covered request results ∧
        (∀ result ∈ selectedResults request.terminalSegmentIds results,
          result.succeeded = true ∧ result.verified = true) ∧
        request.Expressible ∧ ((selectedResults request.terminalSegmentIds results).map
          SegmentExecutionResult.segmentResultId).Nodup := by
  simp only [stitchExecutionResults_eq_ok_iff]
  constructor
  · rintro ⟨_, covered, sound, fit, _⟩
    exact ⟨covered, sound, fit⟩
  · rintro ⟨covered, sound, fit⟩
    exact ⟨⟨_, (@valid_stitchedFields_iff digest _ _ covered).mpr fit⟩, covered, sound, fit, rfl⟩

/-! ## Lawful results are settled -/

theorem StitchLaw.of_choice (law : StitchLaw digest request results)
    (complete : Complete request results) {stitched : StitchedExecutionResult}
    (made : stitchExecutionResults digest request results = .ok stitched)
    (chooses : request.Chooses results choice) :
    (∀ result ∈ chosenResults request choice,
        request.Own result ∧ result.succeeded = true ∧ result.verified = true) ∧
      ((chosenResults request choice).map SegmentExecutionResult.segmentResultId).Nodup ∧
      (∀ resultId, resultId ∈ stitched.terminalResultIds ↔
        ∃ result ∈ chosenResults request choice, result.segmentResultId = resultId) ∧
      ∀ artifact, artifact ∈ stitched.artifactLineage ↔
        ∃ result ∈ chosenResults request choice, artifact ∈ result.outputArtifactIds := by
  obtain ⟨_, _, ⟨expressible, _⟩, _⟩ := stitchExecutionResults_eq_ok_iff.mp made
  obtain ⟨others, perm, selected⟩ := exists_order_of_choice expressible.terminals_nodup chooses
  obtain ⟨other, answered⟩ := (law.succeeds_iff others perm).mpr complete
  obtain rfl := Except.ok.inj (((law.permuted others perm other).mp answered).symm.trans made)
  have own := law.own others perm other answered
  obtain ⟨_, sound, ⟨_, apart⟩, fields⟩ := stitchExecutionResults_eq_ok_iff.mp answered
  rw [selected] at own sound apart fields
  refine ⟨fun result member => ⟨own result member, sound result member⟩, apart, ?_, ?_⟩
  · simp [fields, stitchedFields]
  · simp [fields, stitchedFields]

theorem StitchLaw.settled (law : StitchLaw digest request results)
    (complete : Complete request results) : Settled request results := by
  obtain ⟨stitched, made⟩ := (law.succeeds_iff results (.refl _)).mpr complete
  have expressible := (stitchExecutionResults_eq_ok_iff.mp made).2.2.1.1
  have base := chooses_of_perm complete.covered (.refl results)
  have each := fun choice => @StitchLaw.of_choice digest request results choice law complete _ made
  have apart : ∀ choice, request.Chooses results choice → _ := fun choice chooses =>
    (nodup_chosenResults_iff expressible.terminals_nodup chooses).mp (each choice chooses).2.1
  have updated : ∀ result : SegmentExecutionResult,
      result.segmentId ∈ request.terminalSegmentIds → ∀ choice,
        result ∈ chosenResults request (Function.update choice result.segmentId (some result)) :=
    fun result terminal choice => mem_chosenResults.mpr ⟨result.segmentId, terminal, by simp⟩
  constructor
  case expressible => exact expressible
  case sound =>
    intro result member terminal
    exact (each _ (base.update member)).1 result (updated result terminal _)
  case identified =>
    intro left leftMember right rightMember leftTerminal rightTerminal
    constructor
    · intro same
      by_contra different
      refine different (apart _ ((base.update leftMember).update rightMember) left.segmentId
        leftTerminal right.segmentId rightTerminal left ?_ right (by simp) same)
      rw [Function.update_of_ne different]
      simp
    · intro same
      -- the id of the left result is one of those chosen when the right one replaces it
      have listed := ((each _ (base.update leftMember)).2.2.1 left.segmentResultId).mpr
        ⟨left, updated left leftTerminal _, rfl⟩
      obtain ⟨other, otherMember, otherId⟩ :=
        ((each _ (base.update rightMember)).2.2.1 left.segmentResultId).mp listed
      obtain ⟨segmentId, terminal, chosen⟩ := mem_chosenResults.mp otherMember
      by_cases replaced : segmentId = right.segmentId
      · subst replaced
        rw [Function.update_self] at chosen
        rw [← otherId, Option.some_inj.mp chosen]
      · rw [Function.update_of_ne replaced] at chosen
        have other_apart : segmentId ≠ left.segmentId := fun equal => replaced (equal.trans same)
        refine absurd (apart _ (base.update leftMember) segmentId terminal left.segmentId
          leftTerminal other ?_ left (by simp) otherId) other_apart
        rwa [Function.update_of_ne other_apart]
  case common =>
    intro result member terminal artifact output
    by_contra missing
    push Not at missing
    choose lacking inside named lacks using missing
    let choice : String → Option SegmentExecutionResult := fun segmentId =>
      if listed : segmentId ∈ request.terminalSegmentIds then some (lacking segmentId listed)
      else none
    have chooses : request.Chooses results choice := fun segmentId listed =>
      ⟨lacking segmentId listed, by simp [choice, listed], inside segmentId listed,
        named segmentId listed⟩
    have kept := ((each _ (base.update member)).2.2.2 artifact).mpr
      ⟨result, updated result terminal _, output⟩
    obtain ⟨other, otherMember, otherOutput⟩ := ((each choice chooses).2.2.2 artifact).mp kept
    obtain ⟨segmentId, listed, chosen⟩ := mem_chosenResults.mp otherMember
    simp only [choice, listed, dif_pos, Option.mem_def, Option.some.injEq] at chosen
    exact lacks segmentId listed (chosen ▸ otherOutput)

/-! ## Settled results are lawful -/

/-- Every order of complete and settled results is put together to the same result. -/
theorem Settled.selected (settled : Settled request results) (complete : Complete request results)
    (perm : List.Perm others results) :
    (∀ result ∈ selectedResults request.terminalSegmentIds others,
        request.Own result ∧ result.succeeded = true ∧ result.verified = true) ∧
      ((selectedResults request.terminalSegmentIds others).map
        SegmentExecutionResult.segmentResultId).Nodup ∧
      stitchedFields digest request (selectedResults request.terminalSegmentIds others) =
        stitchedFields digest request (selectedResults request.terminalSegmentIds results) := by
  have chooses := chooses_of_perm complete.covered perm
  have base := chooses_of_perm complete.covered (.refl results)
  refine ⟨fun result member => ?_, ?_, ?_⟩
  · obtain ⟨inside, terminal⟩ := mem_of_mem_selectedResults member
    exact settled.sound result (perm.mem_iff.mp inside) terminal
  · refine (nodup_chosenResults_iff settled.expressible.terminals_nodup chooses).mpr ?_
    intro left leftTerminal right rightTerminal leftResult leftChosen rightResult rightChosen same
    obtain ⟨leftInside, rfl⟩ := chooses.of_mem leftTerminal leftChosen
    obtain ⟨rightInside, rfl⟩ := chooses.of_mem rightTerminal rightChosen
    exact (settled.identified leftResult leftInside rightResult rightInside leftTerminal
      rightTerminal).mp same
  · have ids : (selectedResults request.terminalSegmentIds others).map
        SegmentExecutionResult.segmentResultId =
        (selectedResults request.terminalSegmentIds results).map
          SegmentExecutionResult.segmentResultId := by
      rw [selectedResults, selectedResults, List.map_filterMap, List.map_filterMap]
      refine List.filterMap_congr fun segmentId member => ?_
      have terminal := (mem_sortOn id).mp member
      obtain ⟨left, leftChosen, leftInside, rfl⟩ := chooses segmentId terminal
      obtain ⟨right, rightChosen, rightInside, same⟩ := base left.segmentId terminal
      rw [Option.mem_def.mp leftChosen, Option.mem_def.mp rightChosen, Option.map_some,
        Option.map_some, (settled.identified left leftInside right rightInside terminal
          (same ▸ terminal)).mpr same.symm]
    have lineage : canonical id ((selectedResults request.terminalSegmentIds others).flatMap
        SegmentExecutionResult.outputArtifactIds) =
        canonical id ((selectedResults request.terminalSegmentIds results).flatMap
          SegmentExecutionResult.outputArtifactIds) := by
      have widened : ∀ {first second : List SegmentExecutionResult},
          List.Perm first results → List.Perm second results → ∀ artifact,
            artifact ∈ (selectedResults request.terminalSegmentIds first).flatMap
              SegmentExecutionResult.outputArtifactIds →
            artifact ∈ (selectedResults request.terminalSegmentIds second).flatMap
              SegmentExecutionResult.outputArtifactIds := by
        intro first second firstPerm secondPerm artifact output
        obtain ⟨result, member, output⟩ := List.mem_flatMap.mp output
        obtain ⟨inside, terminal⟩ := mem_of_mem_selectedResults member
        obtain ⟨segmentId, listed, outputs⟩ := settled.common result
          (firstPerm.mem_iff.mp inside) terminal artifact output
        obtain ⟨other, chosen, otherInside, named⟩ :=
          chooses_of_perm complete.covered secondPerm segmentId listed
        exact List.mem_flatMap.mpr ⟨other, List.mem_filterMap.mpr
          ⟨segmentId, (mem_sortOn id).mpr listed, chosen⟩, outputs other otherInside named⟩
      exact canonical_congr (fun _ _ _ _ same => same) fun artifact =>
        ⟨widened perm (.refl _) artifact, widened (.refl _) perm artifact⟩
    simp only [stitchedFields, ids, lineage]

/-- The lineage is always the union of the artifacts of the results used. -/
theorem mem_artifactLineage_iff {stitched : StitchedExecutionResult}
    (made : stitchExecutionResults digest request results = .ok stitched) (artifact : String) :
    artifact ∈ stitched.artifactLineage ↔
      ∃ result ∈ selectedResults request.terminalSegmentIds results,
        artifact ∈ result.outputArtifactIds := by
  simp [(stitchExecutionResults_eq_ok_iff.mp made).2.2.2, stitchedFields]

theorem Settled.stitchLaw (settled : Settled request results)
    (complete : Complete request results) : StitchLaw digest request results := by
  have ok_iff : ∀ others, List.Perm others results → ∀ stitched,
      stitchExecutionResults digest request others = .ok stitched ↔
        stitched.toStitchedFields =
          stitchedFields digest request (selectedResults request.terminalSegmentIds results) := by
    intro others perm stitched
    obtain ⟨sound, apart, same⟩ := @Settled.selected digest _ _ _ settled complete perm
    rw [stitchExecutionResults_eq_ok_iff, same]
    exact ⟨fun made => made.2.2.2, fun fields => ⟨complete.covered.of_perm perm,
      fun result member => (sound result member).2, ⟨settled.expressible, apart⟩, fields⟩⟩
  constructor
  case own =>
    intro others perm _ _ result member
    exact ((@Settled.selected digest _ _ _ settled complete perm).1 result member).1
  case succeeds_iff =>
    intro others perm
    refine iff_of_true ?_ complete
    obtain ⟨sound, apart, _⟩ := @Settled.selected digest _ _ _ settled complete perm
    exact exists_stitched_iff.mpr ⟨complete.covered.of_perm perm,
      fun result member => (sound result member).2, settled.expressible, apart⟩
  case permuted =>
    intro others perm stitched
    rw [ok_iff others perm, ok_iff results (.refl _)]
  case lineage => exact fun _ _ _ made => mem_artifactLineage_iff made

/-- Incomplete results are refused in every order exactly when no choice can be put together. -/
theorem stitchLaw_iff_hopeless (incomplete : ¬ Complete request results) :
    StitchLaw digest request results ↔ (request.Expressible → Hopeless request results) := by
  constructor
  · rintro law expressible choice chooses ⟨sound, tells⟩
    obtain ⟨others, perm, selected⟩ :=
      exists_order_of_choice expressible.terminals_nodup chooses
    refine incomplete ((law.succeeds_iff others perm).mp (exists_stitched_iff.mpr ⟨?_, ?_,
      expressible, ?_⟩))
    · intro segmentId terminal
      obtain ⟨result, _, inside, named⟩ := chooses segmentId terminal
      exact ⟨result, perm.mem_iff.mpr inside, named⟩
    · intro result member
      obtain ⟨segmentId, terminal, chosen⟩ := mem_chosenResults.mp (selected ▸ member)
      exact sound segmentId terminal result chosen
    · rw [selected]
      exact (nodup_chosenResults_iff expressible.terminals_nodup chooses).mpr tells
  · intro hopeless
    have refused : ∀ others, List.Perm others results → ∀ stitched,
        stitchExecutionResults digest request others ≠ .ok stitched := by
      intro others perm stitched made
      obtain ⟨covered, sound, ⟨expressible, apart⟩, _⟩ :=
        stitchExecutionResults_eq_ok_iff.mp made
      have chooses := chooses_of_perm (covered.of_perm perm.symm) perm
      refine hopeless expressible _ chooses ⟨fun segmentId terminal result chosen => ?_,
        (nodup_chosenResults_iff expressible.terminals_nodup chooses).mp apart⟩
      exact sound result (mem_chosenResults.mpr ⟨segmentId, terminal, chosen⟩)
    constructor
    case own => exact fun others perm stitched made => absurd made (refused others perm stitched)
    case succeeds_iff =>
      exact fun others perm => iff_of_false
        (fun ⟨stitched, made⟩ => refused others perm stitched made) incomplete
    case permuted =>
      exact fun others perm stitched => iff_of_false (refused others perm stitched)
        (refused results (.refl _) stitched)
    case lineage =>
      exact fun others perm stitched made => absurd made (refused others perm stitched)

/-- Stitching does what it should exactly on complete results that are settled, and on incomplete
ones of which no choice can be put together. -/
theorem stitchLaw_iff (digest : Digest) (request : StitchRequest)
    (results : List SegmentExecutionResult) : StitchLaw digest request results ↔
      (Complete request results → Settled request results) ∧
        (¬ Complete request results → request.Expressible → Hopeless request results) := by
  by_cases complete : Complete request results
  · constructor
    · exact fun law => ⟨law.settled, fun incomplete => absurd complete incomplete⟩
    · exact fun condition => (condition.1 complete).stitchLaw complete
  · rw [stitchLaw_iff_hopeless complete]
    exact ⟨fun refused => ⟨fun holds => absurd holds complete, fun _ => refused⟩,
      fun condition => condition.2 complete⟩

end Law

/-! ## A result of another plan -/

/-- A request for the one terminal segment of a plan. -/
def onePlan : StitchRequest where
  executionPlanId := "plan"
  namespaceType := .tenant
  namespaceId := "a"
  terminalSegmentIds := ["segment"]
  stitchingPolicyId := "policy"

theorem foreignResult_attempt : (1 : Nat) ≤ 1 ∧ 1 ≤ maxRetryAttempts := by
  decide

/-- A successful result for the segment, of another plan and another tenant. -/
def foreignResult : SegmentExecutionResult where
  segmentResultId := "result"
  executionPlanId := "other"
  segmentId := "segment"
  namespaceType := .tenant
  namespaceId := "b"
  succeeded := true
  verified := true
  outputArtifactIds := ["artifact"]
  attempt := 1
  resultFingerprint := "fp"
  texts_nonblank := by decide
  outputs_canonical := by decide
  attempt_bounds := foreignResult_attempt
  verified_of_succeeded := fun _ => rfl
  failure := by simp

/-- A result of another plan and another tenant is stitched. -/
theorem foreignResult_stitched : ¬ StitchLaw .sha256 onePlan [foreignResult] := by
  intro law
  have selected : selectedResults onePlan.terminalSegmentIds [foreignResult] = [foreignResult] :=
    rfl
  obtain ⟨stitched, made⟩ := (@exists_stitched_iff .sha256 onePlan [foreignResult]).mpr
    ⟨by simp [Covered, onePlan, foreignResult], by rw [selected]; simp [foreignResult],
      ⟨by simp [onePlan], by decide⟩, by simp [selected]⟩
  have own := law.own _ (.refl _) stitched made foreignResult (by simp [selected])
  exact absurd own.1 (by decide)

end DisaggregatedExecution
end MercuryX
