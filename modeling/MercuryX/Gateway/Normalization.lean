import MercuryX.Gateway.Reordering

/-!
# Normalization

Normalization strips the texts of a request and keeps each hardware constraint once. What it calls
normalized is then brought into canonical form by another stage, which strips again behind the
prefix of a region and does not accept a region without a name.
-/

namespace MercuryX
namespace Gateway

open Foundation

/-! ## Envelopes -/

/-- Whether validation accepted a request. -/
inductive GatewayValidationStatus where
  | accepted
  | rejected
  deriving DecidableEq, Repr

/-- The evidence of a validation. -/
structure GatewayValidationEvidence where
  status : GatewayValidationStatus
  reasons : List String
  /-- Reasons are nonblank. -/
  reasons_nonblank : ∀ reason ∈ reasons, Text.Nonblank reason
  /-- There are reasons exactly when the request was rejected. -/
  reasons_iff : reasons ≠ [] ↔ status = .rejected

/-- A request on its way through the gateway. -/
structure GatewayRequestEnvelope where
  gatewayRequestId : String
  identity : GatewayIdentity
  workloadRequest : WorkloadRequest
  normalized : Bool
  validationStatus : GatewayValidationStatus
  validationEvidence : GatewayValidationEvidence
  /-- The id is nonblank. -/
  gatewayRequestId_nonblank : Text.Nonblank gatewayRequestId
  /-- The status is that of the evidence. -/
  status_evident : validationStatus = validationEvidence.status
  /-- The identity names the workload and the session of the request. -/
  named : Names identity workloadRequest

/-! ## Normalization -/

/-- The stripped constraints, each once and where it is first; blank ones are left out. -/
def normalizedConstraints (raw : List String) : List String :=
  raw.foldl (fun kept text =>
    let constraint := Text.strip text
    if constraint = "" ∨ constraint ∈ kept then kept else kept ++ [constraint]) []

/-- The request with its texts stripped. -/
def normalizedRequest (request : WorkloadRequest)
    (given : Text.strip request.taskType ≠ "" ∧ Text.strip request.privacyLevel ≠ "") :
    WorkloadRequest :=
  { request with
    taskType := Text.strip request.taskType
    privacyLevel := Text.strip request.privacyLevel
    hardwareConstraints := normalizedConstraints request.hardwareConstraints
    texts_nonempty := by
      have workload := request.texts_nonempty request.workloadId (by simp)
      simp [workload, given.1, given.2] }

/-- A field that is too short. -/
def tooShort (fieldName : String) (visible : Text.Nonblank fieldName) : NormalizationIssue where
  fieldName := fieldName
  code := "string_too_short"
  message := "String should have at least 1 character"
  severity := .error
  texts_nonblank := List.forall_mem_cons.mpr ⟨visible, by decide⟩

/-- The issues of the fields that strip to nothing. -/
def blankFields (request : WorkloadRequest) : List NormalizationIssue :=
  (if Text.strip request.taskType = "" then
    [tooShort "task_type" (Text.nonblank_literal rfl)] else []) ++
  (if Text.strip request.privacyLevel = "" then
    [tooShort "privacy_level" (Text.nonblank_literal rfl)] else [])

/-- Normalize the request of an envelope. -/
def normalizeGatewayRequest (envelope : GatewayRequestEnvelope) : NormalizationResult :=
  let request := envelope.workloadRequest
  if given : Text.strip request.taskType ≠ "" ∧ Text.strip request.privacyLevel ≠ "" then
    { requestId := envelope.identity.requestId
      workloadId := envelope.identity.workloadId
      sessionId := envelope.identity.sessionId
      normalized := true
      normalizedRequest := some (normalizedRequest request given)
      issues := []
      identity_nonblank := envelope.identity.texts_nonblank
      request_iff := rfl
      failure_explained := fun failed => Bool.noConfusion failed }
  else
    { requestId := envelope.identity.requestId
      workloadId := envelope.identity.workloadId
      sessionId := envelope.identity.sessionId
      normalized := false
      normalizedRequest := none
      issues := blankFields request
      identity_nonblank := envelope.identity.texts_nonblank
      request_iff := rfl
      failure_explained := fun _ => by
        by_cases task : Text.strip request.taskType = ""
        · simp [blankFields, task]
        · have privacy : Text.strip request.privacyLevel = "" := by
            by_contra present
            exact given ⟨task, present⟩
          simp [blankFields, privacy] }

/-! ## Normalized constraints -/

section Constraints

variable {raw : List String}

theorem normalizedConstraints_concat (raw : List String) (text : String) :
    normalizedConstraints (raw ++ [text]) =
      if Text.strip text = "" ∨ Text.strip text ∈ normalizedConstraints raw then
        normalizedConstraints raw
      else normalizedConstraints raw ++ [Text.strip text] := by
  rw [normalizedConstraints, List.foldl_concat]
  rfl

theorem mem_normalizedConstraints {constraint : String} :
    constraint ∈ normalizedConstraints raw ↔ constraint ≠ "" ∧ constraint ∈ raw.map Text.strip := by
  induction raw using List.reverseRecOn with
  | nil => simp [normalizedConstraints]
  | append_singleton raw text induction =>
      rw [normalizedConstraints_concat, List.map_append, List.mem_append, List.map_singleton,
        List.mem_singleton]
      split
      · next skipped =>
          rw [induction]
          refine and_congr_right fun given => ⟨.inl, fun present => present.elim id ?_⟩
          rintro rfl
          exact (induction.mp (skipped.resolve_left given)).2
      · next fresh =>
          rw [List.mem_append, List.mem_singleton, induction, and_or_left]
          refine or_congr_right ⟨fun same => ⟨?_, same⟩, And.right⟩
          rw [same]
          exact (not_or.mp fresh).1

/-- What is kept stands in the order in which it is first. -/
theorem pairwise_normalizedConstraints (raw : List String) :
    (normalizedConstraints raw).Pairwise fun left right =>
      (raw.map Text.strip).idxOf left < (raw.map Text.strip).idxOf right := by
  induction raw using List.reverseRecOn with
  | nil => exact .nil
  | append_singleton raw text induction =>
      have within {constraint : String} (member : constraint ∈ normalizedConstraints raw) :
          ((raw ++ [text]).map Text.strip).idxOf constraint =
            (raw.map Text.strip).idxOf constraint := by
        rw [List.map_append, List.idxOf_append_of_mem (mem_normalizedConstraints.mp member).2]
      have before : (normalizedConstraints raw).Pairwise fun left right =>
          ((raw ++ [text]).map Text.strip).idxOf left <
            ((raw ++ [text]).map Text.strip).idxOf right := by
        refine induction.imp_of_mem fun leftMember rightMember earlier => ?_
        rwa [within leftMember, within rightMember]
      rw [normalizedConstraints_concat]
      split
      · exact before
      · next fresh =>
          obtain ⟨given, absent⟩ := not_or.mp fresh
          refine List.pairwise_append.mpr ⟨before, List.pairwise_singleton _ _, ?_⟩
          intro constraint member last isLast
          obtain rfl := List.mem_singleton.mp isLast
          have new : Text.strip text ∉ raw.map Text.strip := fun present =>
            absent (mem_normalizedConstraints.mpr ⟨given, present⟩)
          rw [within member, List.map_append, List.idxOf_append_of_notMem new]
          exact Nat.lt_of_lt_of_le
            (List.idxOf_lt_length_of_mem (mem_normalizedConstraints.mp member).2)
            (Nat.le_add_right _ _)

theorem nodup_normalizedConstraints (raw : List String) : (normalizedConstraints raw).Nodup :=
  (pairwise_normalizedConstraints raw).imp fun earlier same => by
    rw [same] at earlier
    exact absurd earlier (Nat.lt_irrefl _)

theorem strip_of_mem_normalizedConstraints {constraint : String}
    (member : constraint ∈ normalizedConstraints raw) : Text.strip constraint = constraint := by
  obtain ⟨text, _, rfl⟩ := List.mem_map.mp (mem_normalizedConstraints.mp member).2
  exact Text.strip_strip text

theorem normalizedConstraints_eq_self (stripped : ∀ text ∈ raw, Text.strip text = text)
    (given : ∀ text ∈ raw, text ≠ "") (distinct : raw.Nodup) : normalizedConstraints raw = raw := by
  induction raw using List.reverseRecOn with
  | nil => rfl
  | append_singleton raw text induction =>
      obtain ⟨front, last⟩ := List.forall_mem_append.mp stripped
      obtain ⟨frontGiven, lastGiven⟩ := List.forall_mem_append.mp given
      rw [← List.concat_eq_append, List.nodup_concat] at distinct
      have own : Text.strip text = text := last text (List.mem_singleton_self text)
      rw [normalizedConstraints_concat, induction front frontGiven distinct.2, own]
      exact if_neg (not_or.mpr ⟨lastGiven text (List.mem_singleton_self text), distinct.1⟩)

theorem normalizedConstraints_normalizedConstraints (raw : List String) :
    normalizedConstraints (normalizedConstraints raw) = normalizedConstraints raw :=
  normalizedConstraints_eq_self (fun _ => strip_of_mem_normalizedConstraints)
    (fun _ member => (mem_normalizedConstraints.mp member).1) (nodup_normalizedConstraints raw)

end Constraints

/-! ## Constraints that can be constructed -/

section Constructed

variable {workload : WorkloadRequest}

theorem valid_hardwareConstraint_iff {workloadId : String} {entry : String × Nat}
    (stripped : Text.strip entry.1 = entry.1) (given : entry.1 ≠ "") :
    (hardwareConstraint workloadId entry).Valid ↔ entry.1 ≠ "region:" := by
  have visible : Text.Nonblank entry.1 := fun blank => given (stripped.symm.trans blank)
  have texts (kind : ConstraintKind) :
      ∀ text ∈ [s!"{workloadId}:{kind.value}:{entry.2}", "equals", "hardware_constraints"] ++
        (none : Option String).toList, Text.Nonblank text := by
    have colon : Text.Nonblank ":" := by decide
    simp only [Option.toList_none, List.append_nil, List.forall_mem_cons, List.not_mem_nil,
      false_implies, implies_true, and_true]
    refine ⟨?_, by decide, by decide⟩
    exact Text.nonblank_append_left (Text.nonblank_append_left (Text.nonblank_append_left
      (Text.nonblank_append_right _ colon) _) _) _
  simp only [hardwareConstraint, stripped]
  cases split : entry.1.toList.dropPrefix? "region:".toList with
  | none =>
      have other : entry.1 ≠ "region:" := by
        intro bare
        rw [bare] at split
        exact absurd split (by decide)
      refine iff_of_true ⟨texts .capability, ?_⟩ other
      rintro text ⟨⟩
      exact visible
  | some rest =>
      have whole : entry.1.toList = "region:".toList ++ rest := by
        obtain ⟨front, whole, same⟩ := List.dropPrefix?_eq_some_iff.mp split
        rwa [eq_of_beq same] at whole
      have bare : entry.1 = "region:" ↔ rest = [] := by
        rw [← String.toList_inj, whole]
        exact List.append_right_eq_self
      rw [ne_eq, bare]
      constructor
      · rintro valid rfl
        exact valid.2 "" rfl rfl
      · intro named
        refine ⟨texts .region, ?_⟩
        rintro text ⟨⟩
        exact Text.nonblank_strip (Text.nonblank_of_stripped stripped whole named)

theorem valid_iff_value {fields : ConstraintFields} (suffix : String)
    (named : fields.constraintId = workload.workloadId ++ suffix)
    (texts : ∀ text ∈ [suffix, fields.operator, fields.sourceField] ++ fields.unit.toList,
      Text.Nonblank text) :
    fields.Valid ↔ ∀ text, fields.value = .text text → Text.Nonblank text := by
  refine and_iff_right ?_
  simp only [List.cons_append, List.forall_mem_cons] at texts ⊢
  rw [named]
  exact ⟨Text.nonblank_append_right _ texts.1, texts.2⟩

theorem ofBound_ne_text (limit : WithTop ℚ) (text : String) :
    ConstraintValue.ofBound limit ≠ .text text := by
  cases limit <;> exact ConstraintValue.noConfusion

theorem valid_constraintFields_iff :
    (∀ fields ∈ constraintFields workload, fields.Valid) ↔
      Text.Nonblank workload.privacyLevel ∧ ∀ entry ∈ workload.hardwareConstraints.zipIdx,
        (hardwareConstraint workload.workloadId entry).Valid := by
  simp only [constraintFields, List.forall_mem_append, List.forall_mem_cons, List.forall_mem_map,
    List.not_mem_nil, false_implies, implies_true, and_true]
  refine and_congr_left fun _ => ⟨?_, fun visible => ⟨⟨?_, ?_, ?_, ?_⟩, ?_⟩⟩
  · rintro ⟨⟨_, _, privacy, _⟩, _⟩
    exact privacy.2 _ rfl
  · refine (valid_iff_value ":latency" rfl (by dsimp only; decide)).mpr fun text isText => ?_
    exact absurd isText (ofBound_ne_text _ text)
  · exact (valid_iff_value ":quality" rfl (by dsimp only; decide)).mpr fun _ isText =>
      ConstraintValue.noConfusion isText
  · refine (valid_iff_value ":privacy" rfl (by dsimp only; decide)).mpr ?_
    rintro text ⟨⟩
    exact visible
  · exact (valid_iff_value ":priority" rfl (by dsimp only; decide)).mpr fun _ isText =>
      ConstraintValue.noConfusion isText
  · intro fields member
    obtain ⟨budget, _, rfl⟩ := Option.map_eq_some_iff.mp (Option.mem_toList.mp member)
    refine (valid_iff_value ":cost" rfl (by dsimp only; decide)).mpr fun text isText => ?_
    exact absurd isText (ofBound_ne_text budget text)

/-- The constraints of a request can be derived exactly when each can be constructed. -/
theorem exists_workloadConstraints_iff :
    (∃ own, workloadConstraints workload = .ok own) ↔
      ∀ fields ∈ constraintFields workload, fields.Valid := by
  constructor
  · rintro ⟨own, derived⟩ fields member
    obtain ⟨constraint, _, made⟩ := exists_of_mapM_eq_ok derived member
    obtain ⟨valid, _⟩ := checked_eq_ok_iff.mp made
    exact valid
  · intro valid
    exact exists_mapM_eq_ok fun fields member =>
      ⟨_, checked_eq_ok_iff.mpr ⟨valid fields member, rfl⟩⟩

end Constructed

/-! ## The law of normalization -/

/-- What is promised of a request that is normalized. -/
structure NormalizationLaw (envelope : GatewayRequestEnvelope) (request : WorkloadRequest) :
    Prop where
  /-- Normalizing an envelope that carries the request returns it. -/
  idempotent : ∀ other : GatewayRequestEnvelope, other.workloadRequest = request →
    (normalizeGatewayRequest other).normalizedRequest = some request
  /-- The constraints are the stripped ones that are not blank. -/
  members : ∀ constraint, constraint ∈ request.hardwareConstraints ↔
    constraint ≠ "" ∧ constraint ∈ envelope.workloadRequest.hardwareConstraints.map Text.strip
  /-- They stand in the order in which they are first, each once. -/
  ordered : request.hardwareConstraints.Pairwise fun left right =>
    (envelope.workloadRequest.hardwareConstraints.map Text.strip).idxOf left <
      (envelope.workloadRequest.hardwareConstraints.map Text.strip).idxOf right
  /-- Canonicalization returns, and has a constraint for each of them. -/
  canonicalizable : ∀ identity : GatewayIdentity, ∃ result,
    canonicalizeGatewayConstraints identity request [] = .ok result ∧
      ∀ entry ∈ request.hardwareConstraints.zipIdx, ∃ constraint ∈ result.constraints,
        constraint.semanticKey = (hardwareConstraint request.workloadId entry).semanticKey

section Law

variable {envelope : GatewayRequestEnvelope} {request : WorkloadRequest}

theorem normalizedRequest_eq_some_iff :
    (normalizeGatewayRequest envelope).normalizedRequest = some request ↔
      ∃ given, normalizedRequest envelope.workloadRequest given = request := by
  unfold normalizeGatewayRequest
  dsimp only
  split
  · next given =>
      rw [Option.some_inj]
      exact ⟨fun same => ⟨given, same⟩, fun ⟨_, same⟩ => same⟩
  · next blank =>
      refine iff_of_false (Option.some_ne_none request).symm ?_
      rintro ⟨given, _⟩
      exact blank given

theorem normalizedRequest_normalizedRequest {workload : WorkloadRequest}
    (given : Text.strip workload.taskType ≠ "" ∧ Text.strip workload.privacyLevel ≠ "")
    (again : Text.strip (normalizedRequest workload given).taskType ≠ "" ∧
      Text.strip (normalizedRequest workload given).privacyLevel ≠ "") :
    normalizedRequest (normalizedRequest workload given) again =
      normalizedRequest workload given := by
  simp only [normalizedRequest, Text.strip_strip, normalizedConstraints_normalizedConstraints]

theorem stripped_given {workload : WorkloadRequest}
    (given : Text.strip workload.taskType ≠ "" ∧ Text.strip workload.privacyLevel ≠ "") :
    Text.strip (normalizedRequest workload given).taskType ≠ "" ∧
      Text.strip (normalizedRequest workload given).privacyLevel ≠ "" := by
  simpa [normalizedRequest] using given

/-- The constraints of a normalized request can be derived exactly when none is the bare prefix of
a region. -/
theorem derivable_iff {workload : WorkloadRequest}
    (given : Text.strip workload.taskType ≠ "" ∧ Text.strip workload.privacyLevel ≠ "") :
    (∃ own, workloadConstraints (normalizedRequest workload given) = .ok own) ↔
      ∀ constraint ∈ workload.hardwareConstraints, Text.strip constraint ≠ "region:" := by
  have privacy : Text.Nonblank (normalizedRequest workload given).privacyLevel :=
    Text.nonblank_strip given.2
  have each {entry : String × Nat}
      (member : entry ∈ (normalizedConstraints workload.hardwareConstraints).zipIdx) :
      (hardwareConstraint workload.workloadId entry).Valid ↔ entry.1 ≠ "region:" := by
    have inside := List.fst_mem_of_mem_zipIdx member
    exact valid_hardwareConstraint_iff (strip_of_mem_normalizedConstraints inside)
      (mem_normalizedConstraints.mp inside).1
  rw [exists_workloadConstraints_iff, valid_constraintFields_iff, and_iff_right privacy]
  constructor
  · intro valid constraint member bare
    have kept : "region:" ∈ normalizedConstraints workload.hardwareConstraints :=
      mem_normalizedConstraints.mpr ⟨by decide, List.mem_map.mpr ⟨constraint, member, bare⟩⟩
    obtain ⟨index, inside, isIndex⟩ := List.mem_iff_getElem.mp kept
    have entry : ("region:", index) ∈
        (normalizedConstraints workload.hardwareConstraints).zipIdx := by
      rw [List.mem_zipIdx_iff_getElem?, List.getElem?_eq_getElem inside, isIndex]
    exact (each entry).mp (valid _ entry) rfl
  · intro named entry member
    refine (each member).mpr fun bare => ?_
    obtain ⟨constraint, inside, stripped⟩ := List.mem_map.mp
      (mem_normalizedConstraints.mp (List.fst_mem_of_mem_zipIdx member)).2
    exact named constraint inside (stripped.trans bare)

theorem exists_canonicalized {own : List CanonicalConstraint} (identity : GatewayIdentity)
    (derived : workloadConstraints request = .ok own) :
    ∃ result, canonicalizeGatewayConstraints identity request [] = .ok result ∧
      ∀ entry ∈ request.hardwareConstraints.zipIdx, ∃ constraint ∈ result.constraints,
        constraint.semanticKey = (hardwareConstraint request.workloadId entry).semanticKey := by
  refine ⟨_, canonicalize_eq derived, fun entry member => ?_⟩
  have candidate : hardwareConstraint request.workloadId entry ∈ constraintFields request :=
    List.mem_append_right _ (List.mem_map_of_mem member)
  obtain ⟨constraint, inside, made⟩ := exists_of_mapM_eq_ok derived candidate
  have merged : Merged.all CanonicalConstraint.constraintId CanonicalConstraint.semanticKey own =
      ⟨firstMeanings own, []⟩ := Merged.all_of_nodup (own_ids_nodup derived)
  have covered := (Merged.covers_all own).covered (congrArg Merged.conflicts merged) constraint
    inside
  rw [merged] at covered
  obtain ⟨kept, isKept, same⟩ := List.mem_map.mp covered
  refine ⟨kept, isKept, same.trans ?_⟩
  rw [← CanonicalConstraint.fields_of_construct made]
  rfl

/-- What is normalized keeps the law exactly where no hardware constraint strips to the bare prefix
of a region. -/
theorem normalization_iff (envelope : GatewayRequestEnvelope) :
    (∀ request, (normalizeGatewayRequest envelope).normalizedRequest = some request →
        NormalizationLaw envelope request) ↔
      Text.strip envelope.workloadRequest.taskType = "" ∨
        Text.strip envelope.workloadRequest.privacyLevel = "" ∨
        ∀ constraint ∈ envelope.workloadRequest.hardwareConstraints,
          Text.strip constraint ≠ "region:" := by
  rw [← or_assoc, or_iff_not_imp_left, not_or]
  constructor
  · intro law given
    have normalized := law _ (normalizedRequest_eq_some_iff.mpr ⟨given, rfl⟩)
    obtain ⟨result, returned, _⟩ := normalized.canonicalizable envelope.identity
    rw [canonicalizeGatewayConstraints, bind_eq_ok] at returned
    obtain ⟨own, derived, _⟩ := returned
    exact (derivable_iff given).mp ⟨own, derived⟩
  · intro named request normalized
    obtain ⟨given, rfl⟩ := normalizedRequest_eq_some_iff.mp normalized
    constructor
    case idempotent =>
      rintro ⟨⟩ rfl
      exact normalizedRequest_eq_some_iff.mpr
        ⟨stripped_given given, normalizedRequest_normalizedRequest given _⟩
    case members => exact fun _ => mem_normalizedConstraints
    case ordered => exact pairwise_normalizedConstraints _
    case canonicalizable =>
      intro identity
      obtain ⟨own, derived⟩ := (derivable_iff given).mpr (named given)
      exact exists_canonicalized identity derived

end Law

/-! ## A region without a name -/

/-- A request whose only hardware constraint is the prefix of a region. -/
def unnamedRegion : WorkloadRequest := { modestRequest with hardwareConstraints := ["region: "] }

theorem modestIdentity_names : Names modestIdentity unnamedRegion := ⟨rfl, rfl⟩

/-- The evidence of a validation that found nothing. -/
def acceptedEvidence : GatewayValidationEvidence where
  status := .accepted
  reasons := []
  reasons_nonblank := List.forall_mem_nil _
  reasons_iff := by decide

/-- The request on its way. -/
def unnamedEnvelope : GatewayRequestEnvelope where
  gatewayRequestId := "gateway-1"
  identity := modestIdentity
  workloadRequest := unnamedRegion
  normalized := false
  validationStatus := .accepted
  validationEvidence := acceptedEvidence
  gatewayRequestId_nonblank := Text.nonblank_literal rfl
  status_evident := rfl
  named := modestIdentity_names

/-- Normalization accepts a region without a name, and canonicalization does not. -/
theorem unnamed_region_normalized :
    ¬ ∀ (envelope : GatewayRequestEnvelope) (request : WorkloadRequest),
      (normalizeGatewayRequest envelope).normalizedRequest = some request →
        NormalizationLaw envelope request := by
  intro law
  have given : Text.strip unnamedRegion.taskType ≠ "" ∧
      Text.strip unnamedRegion.privacyLevel ≠ "" := by decide
  have normalized := law unnamedEnvelope _ (normalizedRequest_eq_some_iff.mpr ⟨given, rfl⟩)
  obtain ⟨result, returned, _⟩ := normalized.canonicalizable modestIdentity
  rw [canonicalizeGatewayConstraints, bind_eq_ok] at returned
  obtain ⟨own, derived, _⟩ := returned
  have named := (derivable_iff given).mp ⟨own, derived⟩ "region: " (List.mem_singleton_self _)
  exact named (by decide)

end Gateway
end MercuryX
