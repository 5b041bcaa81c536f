import MercuryX.Foundation.Reading
import MercuryX.SessionMemory.Store

/-!
# Compaction of session memory

Active records of one session are compacted into a summary. The id of the summary is the digest of
the ids of its sources, the method and the target scope, joined with bars; the session and the
target task and turn have no part in it, and a bar inside a text looks like a bar between texts.
-/

namespace MercuryX
namespace SessionMemory

open Foundation

/-- The most records that are compacted at once. -/
def maxCompactionInputRecords : Nat := 128

/-! ## Contracts -/

/-- The text of a scope. -/
def SessionMemoryScope.value : SessionMemoryScope → String
  | turn => "TURN"
  | task => "TASK"
  | session => "SESSION"

theorem SessionMemoryScope.value_injective : Function.Injective SessionMemoryScope.value := by
  intro left right same
  revert same
  cases left <;> cases right <;> decide

/-- A request to compact named records of a session. A turn scope asks for a target turn only where
one is written out, so it may be missing for every scope. -/
structure SessionMemoryCompactionRequest where
  sessionId : String
  sourceRecordIds : List String
  targetScope : SessionMemoryScope
  compactionMethodId : String
  compactionMethodVersion : String
  targetTaskId : Option String := none
  targetTurnId : Option String := none
  /-- Session and method are nonblank. -/
  texts_nonblank : ∀ text ∈ [sessionId, compactionMethodId, compactionMethodVersion],
    Text.Nonblank text
  /-- The targets that are given are nonblank. -/
  targets_nonblank : ∀ text ∈ targetTaskId.toList ++ targetTurnId.toList, Text.Nonblank text
  /-- Some source is named. -/
  sources_given : sourceRecordIds ≠ []
  /-- Source ids are nonblank and stand once each, in order. -/
  sources_canonical : CanonicalTexts sourceRecordIds

/-- What a compaction returns. -/
structure SessionMemoryCompactionResult where
  status : SessionMemoryPhaseStatus
  record : Option SessionMemoryRecord := none
  reason : Option String := none
  sourceRecordIds : List String := []
  sourceRecordVersions : List Nat := []
  sourceLineageIds : List String := []
  targetScope : Option SessionMemoryScope := none
  compactionMethodId : Option String := none
  compactionMethodVersion : Option String := none
  /-- Versions start at one. -/
  versions_pos : ∀ version ∈ sourceRecordVersions, 0 < version

/-! ## Compaction -/

/-- The texts that the id of a summary is made of. -/
def SessionMemoryCompactionRequest.payloadTexts (request : SessionMemoryCompactionRequest) :
    List String :=
  request.sourceRecordIds ++
    [request.compactionMethodId, request.compactionMethodVersion, request.targetScope.value]

/-- Collect the sources under their ids; each has to be an active record of the session. -/
def collectSource (request : SessionMemoryCompactionRequest)
    (collected : Dict String SessionMemoryRecord) (source : SessionMemoryRecord) :
    Except Fault (Dict String SessionMemoryRecord) := do
  require (source.sessionId = request.sessionId ∧ source.lifecycle = .active)
    (.value "source is not eligible")
  Dict.assign SessionMemoryRecord.recordId (fun existing other => existing ≠ other)
    (.value "conflicting source identity") collected source

section Compaction

variable (hexdigest : String → String)

/-- The id of a summary. -/
def compactedId (request : SessionMemoryCompactionRequest) : String :=
  "sha256:" ++ hexdigest ("|".intercalate request.payloadTexts)

/-- The summary that a request makes of sources, listed in the order of their ids. -/
def compactedRecord (request : SessionMemoryCompactionRequest)
    (ordered : List SessionMemoryRecord) (given : ordered ≠ []) : SessionMemoryRecord :=
  let first := ordered.head given
  let sequences := ordered.map SessionMemoryRecord.creationSequence
  { sessionId := request.sessionId
    taskId := request.targetTaskId.getD first.taskId
    turnId := request.targetTurnId.getD first.turnId
    recordId := compactedId hexdigest request
    recordVersion := 1
    sourcePhase := "phase8"
    sourceArtifactId := "compaction:" ++ request.compactionMethodId
    memoryType := .compactedSummary
    scope := request.targetScope
    creationSequence := sequences.max (by simpa [sequences] using given) + 1
    lifecycle := .compacted
    sourceLineageId := some ("|".intercalate
      (sortOn id (ordered.map fun source => source.sourceLineageId.getD "")))
    -- Every source has provenance, so the stand-in "source provenance" is never needed.
    provenance := canonical id (ordered.flatMap SessionMemoryRecord.provenance)
    texts_nonblank := by
      have own := request.texts_nonblank
      have targets := request.targets_nonblank
      have inherited := first.texts_nonblank
      simp only [List.forall_mem_cons] at own inherited ⊢
      refine ⟨own.1, ?_, ?_, Text.nonblank_append_left (by decide) _, by decide,
        Text.nonblank_append_left (by decide) _, List.forall_mem_nil _⟩
      · cases target : request.targetTaskId with
        | none => exact inherited.2.1
        | some taskId => exact targets taskId (by simp [target])
      · cases target : request.targetTurnId with
        | none => exact inherited.2.2.1
        | some turnId => exact targets turnId (by simp [target])
    recordVersion_pos := Nat.one_pos
    creationSequence_pos := Nat.succ_pos _
    provenance_given := by
      obtain ⟨evidence, member⟩ := List.exists_mem_of_ne_nil _ first.provenance_given.1
      have kept : evidence ∈ canonical id (ordered.flatMap SessionMemoryRecord.provenance) :=
        (mem_canonical id).mpr (List.mem_flatMap.mpr ⟨first, List.head_mem given, member⟩)
      refine ⟨List.ne_nil_of_mem kept, fun other inside => ?_⟩
      obtain ⟨source, _, own⟩ := List.mem_flatMap.mp ((mem_canonical id).mp inside)
      exact source.provenance_given.2 other own
    provenance_canonical :=
      canonical_eq_self id (canonical_nodup id _) (canonical_pairwise id _) }

/-- What a compaction reports of sources, listed in the order of their ids. -/
def compactionResult (request : SessionMemoryCompactionRequest)
    (ordered : List SessionMemoryRecord) (given : ordered ≠ []) :
    SessionMemoryCompactionResult where
  status := .ready
  record := some (compactedRecord hexdigest request ordered given)
  sourceRecordIds := request.sourceRecordIds
  sourceRecordVersions := ordered.map SessionMemoryRecord.recordVersion
  sourceLineageIds := ordered.map fun source => source.sourceLineageId.getD ""
  targetScope := some request.targetScope
  compactionMethodId := some request.compactionMethodId
  compactionMethodVersion := some request.compactionMethodVersion
  versions_pos := List.forall_mem_map.mpr fun source _ => source.recordVersion_pos

theorem SessionMemoryCompactionRequest.ordered_ne_nil {request : SessionMemoryCompactionRequest}
    {ordered : List SessionMemoryRecord}
    (named : ordered.map SessionMemoryRecord.recordId = request.sourceRecordIds) :
    ordered ≠ [] := by
  rintro rfl
  exact request.sources_given named.symm

/-- Compact the records that a request names. -/
def compactSessionMemory (request : SessionMemoryCompactionRequest)
    (sources : List SessionMemoryRecord) (authorizedSessionId : String) :
    Except Fault SessionMemoryCompactionResult := do
  require (request.sessionId = authorizedSessionId ∧ sources ≠ [] ∧
    sources.length ≤ maxCompactionInputRecords) (.value "session or source bounds invalid")
  let collected ← sources.foldlM (collectSource request) Dict.empty
  let ordered := sortOn SessionMemoryRecord.recordId collected.values
  if named : ordered.map SessionMemoryRecord.recordId = request.sourceRecordIds then
    require (request.targetScope = .task →
      ∀ source ∈ ordered, some source.taskId = request.targetTaskId)
      (.value "cross-task compaction rejected")
    require (request.targetScope = .turn →
      ∀ source ∈ ordered, some source.turnId = request.targetTurnId)
      (.value "incompatible turn compaction rejected")
    return compactionResult hexdigest request ordered
      (SessionMemoryCompactionRequest.ordered_ne_nil named)
  else .error (.value "request source identities must exactly match sources")

end Compaction

/-! ## Summaries apart -/

/-- The texts that the id of a summary is made of, cut at every bar. -/
def SessionMemoryCompactionRequest.pieces (request : SessionMemoryCompactionRequest) :
    List (List Char) :=
  (request.payloadTexts.map String.toList).flatMap (List.splitOn '|')

/-- Both records can be registered in one store. -/
def Coexist (left right : SessionMemoryRecord) : Prop :=
  ∃ first second,
    registerSessionMemoryRecord .empty ⟨left, left.sessionId⟩ = .ok first ∧
      registerSessionMemoryRecord first ⟨right, right.sessionId⟩ = .ok second ∧
      left ∈ second.records ∧ right ∈ second.records

section Apart

variable {hexdigest : String → String} {request other : SessionMemoryCompactionRequest}
  {sources otherSources : List SessionMemoryRecord} {authorized otherAuthorized : String}
  {result otherResult : SessionMemoryCompactionResult}

theorem compactSessionMemory_eq_ok_iff :
    compactSessionMemory hexdigest request sources authorized = .ok result ↔
      (request.sessionId = authorized ∧ sources ≠ [] ∧
        sources.length ≤ maxCompactionInputRecords) ∧
      ∃ collected, sources.foldlM (collectSource request) Dict.empty = .ok collected ∧
        ∃ named : (sortOn SessionMemoryRecord.recordId collected.values).map
            SessionMemoryRecord.recordId = request.sourceRecordIds,
          (request.targetScope = .task → ∀ source ∈ sortOn SessionMemoryRecord.recordId
            collected.values, some source.taskId = request.targetTaskId) ∧
          (request.targetScope = .turn → ∀ source ∈ sortOn SessionMemoryRecord.recordId
            collected.values, some source.turnId = request.targetTurnId) ∧
          compactionResult hexdigest request (sortOn SessionMemoryRecord.recordId
            collected.values) (SessionMemoryCompactionRequest.ordered_ne_nil named) = result := by
  simp only [compactSessionMemory, bind_eq_ok, require_eq_ok, exists_const]
  refine and_congr_right fun _ => exists_congr fun collected => and_congr_right fun _ => ?_
  split
  · next named => simp [bind_eq_ok, named]
  · next unnamed => simp [unnamed]

theorem exists_record
    (accepted : compactSessionMemory hexdigest request sources authorized = .ok result) :
    ∃ ordered given, result.record = some (compactedRecord hexdigest request ordered given) := by
  obtain ⟨_, collected, _, named, _, _, rfl⟩ := compactSessionMemory_eq_ok_iff.mp accepted
  exact ⟨_, SessionMemoryCompactionRequest.ordered_ne_nil named, rfl⟩

theorem SessionMemoryCompactionRequest.payloadTexts_ne_nil
    (request : SessionMemoryCompactionRequest) :
    request.payloadTexts.map String.toList ≠ [] := by
  simp [payloadTexts]

/-- Summaries share an id exactly when their texts have the same pieces. -/
theorem compactedId_eq_iff (injective : Function.Injective hexdigest) :
    compactedId hexdigest request = compactedId hexdigest other ↔
      request.pieces = other.pieces := by
  rw [compactedId, compactedId, String.append_right_inj, injective.eq_iff, ← String.toList_inj,
    String.toList_intercalate, String.toList_intercalate]
  exact joined_eq_iff request.payloadTexts_ne_nil other.payloadTexts_ne_nil

theorem SessionMemoryCompactionRequest.pieces_eq_iff_of_plain
    (plain : ∀ text ∈ request.payloadTexts, '|' ∉ text.toList)
    (otherPlain : ∀ text ∈ other.payloadTexts, '|' ∉ text.toList) :
    request.pieces = other.pieces ↔
      request.sourceRecordIds = other.sourceRecordIds ∧
        request.compactionMethodId = other.compactionMethodId ∧
        request.compactionMethodVersion = other.compactionMethodVersion ∧
        request.targetScope = other.targetScope := by
  rw [pieces, pieces, flatMap_splitOn_of_plain (List.forall_mem_map.mpr plain),
    flatMap_splitOn_of_plain (List.forall_mem_map.mpr otherPlain),
    (List.map_injective_iff.mpr fun _ _ => String.toList_injective).eq_iff, payloadTexts,
    payloadTexts]
  constructor
  · intro same
    obtain ⟨ids, rest⟩ := List.append_inj' same rfl
    simp only [List.cons.injEq, and_true] at rest
    exact ⟨ids, rest.1, rest.2.1, SessionMemoryScope.value_injective rest.2.2⟩
  · rintro ⟨ids, method, version, scope⟩
    rw [ids, method, version, scope]

/-- Records of different ids can be registered in one store. -/
theorem coexist_of_ne {left right : SessionMemoryRecord} (apart : left.recordId ≠ right.recordId) :
    Coexist left right := by
  obtain ⟨first, second, entered, enteredNext, leftMember, rightMember⟩ :=
    Registry.exists_registered_pair SessionMemoryRecord.key SessionMemoryRecord.recordId
      (fun records => records.length ≤ maxSessionMemoryRecords) (fun same => absurd same apart)
      fun _ few => few.trans (by decide)
  have registered : registerSessionMemoryRecord .empty ⟨left, left.sessionId⟩ =
      .ok ⟨first, []⟩ :=
    (register_eq_ok_iff certified_empty).mpr ⟨rfl, rfl, entered, rfl⟩
  have certified := certified_of_register certified_empty registered
  exact ⟨_, ⟨second, []⟩, registered, (register_eq_ok_iff certified).mpr
    ⟨rfl, rfl, enteredNext, rfl⟩, leftMember, rightMember⟩

/-- The two results hold summaries of different ids, which fit in one store. -/
def SummariesApart (result otherResult : SessionMemoryCompactionResult) : Prop :=
  ∃ left right, result.record = some left ∧ otherResult.record = some right ∧
    left.recordId ≠ right.recordId ∧ Coexist left right

/-- The summaries of two different requests are apart exactly when the texts of the requests have
different pieces. -/
theorem summaries_apart_iff (injective : Function.Injective hexdigest)
    (accepted : compactSessionMemory hexdigest request sources authorized = .ok result)
    (otherAccepted :
      compactSessionMemory hexdigest other otherSources otherAuthorized = .ok otherResult) :
    (request ≠ other → SummariesApart result otherResult) ↔
      (request ≠ other → request.pieces ≠ other.pieces) := by
  obtain ⟨ordered, given, made⟩ := exists_record accepted
  obtain ⟨otherOrdered, otherGiven, otherMade⟩ := exists_record otherAccepted
  have ids : (compactedRecord hexdigest request ordered given).recordId =
      (compactedRecord hexdigest other otherOrdered otherGiven).recordId ↔
        request.pieces = other.pieces := compactedId_eq_iff injective
  refine imp_congr_right fun _ => ?_
  constructor
  · rintro ⟨left, right, isLeft, isRight, apart, _⟩ same
    obtain rfl := Option.some.inj (isLeft.symm.trans made)
    obtain rfl := Option.some.inj (isRight.symm.trans otherMade)
    exact apart (ids.mpr same)
  · intro different
    have apart := mt ids.mp different
    exact ⟨_, _, made, otherMade, apart, coexist_of_ne apart⟩

end Apart

/-! ## One note in two sessions -/

/-- SHA-256 of the UTF-8 bytes of a text, in lower-case hexadecimal. -/
def sha256Text (text : String) : String :=
  String.ofList (Sha256.hexdigest text.toUTF8.data.toList)

theorem exists_compaction_single (hexdigest : String → String)
    {request : SessionMemoryCompactionRequest} (source : SessionMemoryRecord)
    (session : source.sessionId = request.sessionId) (active : source.lifecycle = .active)
    (named : [source.recordId] = request.sourceRecordIds)
    (scope : request.targetScope = .session) :
    ∃ result, compactSessionMemory hexdigest request [source] request.sessionId = .ok result := by
  have collected : [source].foldlM (collectSource request) Dict.empty =
      .ok (Dict.empty.insert source.recordId source) := by
    simp [collectSource, session, active, require, Dict.assign, Dict.get?, Dict.empty]
  have ordered : sortOn SessionMemoryRecord.recordId
      (Dict.empty.insert source.recordId source).values = [source] := by
    simp [Dict.insert, Dict.keys, Dict.values, Dict.empty, sortOn]
  refine ⟨_, compactSessionMemory_eq_ok_iff.mpr ⟨⟨rfl, List.cons_ne_nil source [], by simp
    [maxCompactionInputRecords]⟩, _, collected, ?_, ?_, ?_, rfl⟩⟩
  · rw [ordered]
    exact named
  · simp [scope]
  · simp [scope]

/-- A note of a session. -/
def sessionNote (sessionId : String) (given : Text.Nonblank sessionId) : SessionMemoryRecord where
  sessionId := sessionId
  taskId := "task"
  turnId := "turn"
  recordId := "note"
  recordVersion := 1
  sourcePhase := "phase7"
  sourceArtifactId := "artifact"
  memoryType := .observation
  scope := .session
  creationSequence := 1
  lifecycle := .active
  provenance := ["evidence"]
  texts_nonblank := List.forall_mem_cons.mpr ⟨given, by decide⟩
  recordVersion_pos := Nat.one_pos
  creationSequence_pos := Nat.one_pos
  provenance_given := by decide
  provenance_canonical := rfl

/-- A request to compact the note of a session. -/
def noteCompaction (sessionId methodVersion : String) (given : Text.Nonblank sessionId)
    (versionGiven : Text.Nonblank methodVersion) : SessionMemoryCompactionRequest where
  sessionId := sessionId
  sourceRecordIds := ["note"]
  targetScope := .session
  compactionMethodId := "outline"
  compactionMethodVersion := methodVersion
  texts_nonblank := List.forall_mem_cons.mpr ⟨given, List.forall_mem_cons.mpr
    ⟨Text.nonblank_literal rfl, List.forall_mem_singleton.mpr versionGiven⟩⟩
  targets_nonblank := List.forall_mem_nil _
  sources_given := List.cons_ne_nil "note" []
  sources_canonical := by decide

theorem exists_noteCompaction (hexdigest : String → String) {sessionId methodVersion : String}
    (given : Text.Nonblank sessionId) (versionGiven : Text.Nonblank methodVersion) :
    ∃ result, compactSessionMemory hexdigest
      (noteCompaction sessionId methodVersion given versionGiven) [sessionNote sessionId given]
      sessionId = .ok result :=
  exists_compaction_single hexdigest (sessionNote sessionId given) rfl rfl rfl rfl

theorem morning_nonblank : Text.Nonblank "morning" := Text.nonblank_literal rfl

theorem evening_nonblank : Text.Nonblank "evening" := Text.nonblank_literal rfl

theorem summaries_apart_versions : ∃ result otherResult,
    compactSessionMemory id (noteCompaction "morning" "1" morning_nonblank
        (Text.nonblank_literal rfl)) [sessionNote "morning" morning_nonblank] "morning" =
        .ok result ∧
      compactSessionMemory id (noteCompaction "morning" "2" morning_nonblank
        (Text.nonblank_literal rfl)) [sessionNote "morning" morning_nonblank] "morning" =
        .ok otherResult ∧
      SummariesApart result otherResult := by
  obtain ⟨result, accepted⟩ := exists_noteCompaction id morning_nonblank
    (show Text.Nonblank "1" from Text.nonblank_literal rfl)
  obtain ⟨otherResult, otherAccepted⟩ := exists_noteCompaction id morning_nonblank
    (show Text.Nonblank "2" from Text.nonblank_literal rfl)
  have versions : noteCompaction "morning" "1" morning_nonblank (Text.nonblank_literal rfl) ≠
      noteCompaction "morning" "2" morning_nonblank (Text.nonblank_literal rfl) := by
    intro same
    exact absurd (congrArg SessionMemoryCompactionRequest.compactionMethodVersion same) (by decide)
  exact ⟨result, otherResult, accepted, otherAccepted,
    (summaries_apart_iff Function.injective_id accepted otherAccepted).mpr
      (fun _ => by decide) versions⟩

/-- Compactions of one note id in two sessions give summaries of one id. -/
theorem sessions_share_summary :
    ¬ ∀ (request other : SessionMemoryCompactionRequest)
        (sources otherSources : List SessionMemoryRecord) (authorized otherAuthorized : String)
        (result otherResult : SessionMemoryCompactionResult),
      compactSessionMemory sha256Text request sources authorized = .ok result →
      compactSessionMemory sha256Text other otherSources otherAuthorized = .ok otherResult →
      request ≠ other → SummariesApart result otherResult := by
  intro law
  obtain ⟨result, accepted⟩ := exists_noteCompaction sha256Text morning_nonblank
    (show Text.Nonblank "1" from Text.nonblank_literal rfl)
  obtain ⟨otherResult, otherAccepted⟩ := exists_noteCompaction sha256Text evening_nonblank
    (show Text.Nonblank "1" from Text.nonblank_literal rfl)
  obtain ⟨left, right, isLeft, isRight, apart, _⟩ := law _ _ _ _ _ _ _ _ accepted otherAccepted (by
    intro same
    exact absurd (congrArg SessionMemoryCompactionRequest.sessionId same) (by decide))
  obtain ⟨_, _, made⟩ := exists_record accepted
  obtain ⟨_, _, otherMade⟩ := exists_record otherAccepted
  obtain rfl := Option.some.inj (isLeft.symm.trans made)
  obtain rfl := Option.some.inj (isRight.symm.trans otherMade)
  exact apart rfl

end SessionMemory
end MercuryX
