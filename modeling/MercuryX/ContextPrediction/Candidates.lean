import MercuryX.ContextPrediction.Contracts
import MercuryX.Foundation.Grouping
import MercuryX.GlobalMemory.Retrieval
import MercuryX.SessionMemory.Contracts

/-!
# Prediction candidates

The records of a session and of a global store are adapted one after another to evidence of one
kind, and the evidence of active records is gathered under their context keys. Each key with an
active source becomes one candidate. Whether a record is active is read off the record itself: a
version chain is not followed, neither to a newer version nor to an older one.
-/

namespace MercuryX
namespace ContextPrediction

open Foundation GlobalMemory SessionMemory

/-! ## Adapters -/

/-- A source record. -/
inductive PredictionSource where
  /-- A record of the session. -/
  | session (record : SessionMemoryRecord)
  /-- A record of the global store. -/
  | global (record : GlobalContextRecord)
  deriving DecidableEq

/-- The content by which repeated records are compared: provenance and lineage count as sets. The
provenance of a session record is canonical already. -/
def PredictionSource.canonical : PredictionSource → PredictionSource
  | .session record => .session record
  | .global record => .global { record with
      provenance := Foundation.canonical id record.provenance
      sourcePhase8RecordIds := Foundation.canonical id record.sourcePhase8RecordIds
      sourceArtifactIds := Foundation.canonical id record.sourceArtifactIds }

theorem PredictionSource.lifecycle_eq_of_canonical {left right : GlobalContextRecord}
    (same : (PredictionSource.global left).canonical = (PredictionSource.global right).canonical) :
    left.lifecycle = right.lifecycle := by
  simp only [PredictionSource.canonical, PredictionSource.global.injEq] at same
  have kept := congrArg GlobalContextRecord.lifecycle same
  exact kept

/-- What an adapter makes of a record. -/
structure Adapted where
  source : PredictionSource
  key : String
  evidence : ContextPredictionSourceEvidence
  active : Bool

/-- The evidence of a session record. -/
def sessionEvidence (record : SessionMemoryRecord) : SourceEvidenceFields where
  sourceKind := .session
  recordId := record.recordId
  recordVersion := record.recordVersion
  sequenceScope := record.sessionId
  creationSequence := record.creationSequence
  sourceArtifactIds := [record.sourceArtifactId]
  provenance := record.provenance

/-- Adapt a record of the session that the scope binds. -/
def sessionSource (scope : SessionPredictionScope) (record : SessionMemoryRecord) :
    Except Fault Adapted := do
  require (record.schemaVersion = "mercury.session-memory/v1")
    (.value "unsupported session source schema")
  require (record.sessionId = scope.sessionId) (.value "session scope mismatch")
  let key := record.retrievalKey.getD ""
  require (Text.Nonblank key) (.value "explicit session retrieval_key required")
  let evidence ← ContextPredictionSourceEvidence.construct (sessionEvidence record)
  return ⟨.session record, key, evidence, record.lifecycle = .active⟩

/-- The evidence of a global record. -/
def globalEvidence (record : GlobalContextRecord) : SourceEvidenceFields where
  sourceKind := .global
  recordId := record.globalRecordId
  recordVersion := record.recordVersion
  sequenceScope := record.namespaceId
  creationSequence := record.creationSequence
  sourceArtifactIds := record.sourceArtifactIds
  sourcePhase8RecordIds := record.sourcePhase8RecordIds
  provenance := record.provenance
  conflictState := some record.conflictState

/-- Adapt a global record, which has to be of the namespace of the request. -/
def globalSource (request : ContextPredictionRequest) (record : GlobalContextRecord) :
    Except Fault Adapted := do
  require (record.space = request.space) (.value "cross-namespace source forbidden")
  let evidence ← ContextPredictionSourceEvidence.construct (globalEvidence record)
  return ⟨.global record, record.contextKey, evidence, record.lifecycle = .active⟩

/-! ## Gathering -/

/-- The records met so far, and the evidence of the active ones under their keys. -/
structure Gathered where
  identities : Dict (SourceKind × String) PredictionSource
  grouped : Dict String (List ContextPredictionSourceEvidence)

/-- Nothing met yet. -/
def Gathered.empty : Gathered := ⟨.empty, .empty⟩

/-- The next state for a record that is met for the first time. -/
def Gathered.add (gathered : Gathered) (item : Adapted) : Gathered where
  identities := gathered.identities.insert item.evidence.identity item.source.canonical
  grouped := if item.active then gathered.grouped.push item.key item.evidence else gathered.grouped

/-- Take in one adapted record. -/
def Gathered.admitItem (gathered : Gathered) (item : Adapted) : Except Fault Gathered :=
  match gathered.identities.get? item.evidence.identity with
  | some known => do
      require (known = item.source.canonical) (.value "conflicting duplicate source identity")
      return gathered
  | none => do
      require (item.active = true →
          (gathered.add item).grouped.keys.length ≤ maxPredictionCandidates)
        (.value "too many prediction candidates")
      return gathered.add item

/-- Take in records one after another. -/
def gather {Record : Type} (adapter : Record → Except Fault Adapted) (gathered : Gathered)
    (records : List Record) : Except Fault Gathered :=
  records.foldlM (fun gathered record => adapter record >>= gathered.admitItem) gathered

/-! ## Candidates -/

/-- The content of the candidate of a key with its sources. -/
def candidateContent (request : ContextPredictionRequest) (key : String)
    (sources : List ContextPredictionSourceEvidence) : CandidateContent where
  namespaceType := request.namespaceType
  namespaceId := request.namespaceId
  contextKey := key
  sourceGlobalRecordIds := sortOn id (recordIdsOf .global sources)
  sourcePhase8RecordIds := canonical id (phase8IdsOf sources)
  sourceArtifactIds := canonical id (sources.flatMap fun evidence => evidence.sourceArtifactIds)
  conflictPresent := sources.any fun evidence => evidence.conflictState = some .conflicting
  creationSequence := (sources.map fun evidence => evidence.creationSequence).foldr max 0

variable (digest : Digest)

/-- The candidate of a key with its sources. -/
def predictionCandidate (request : ContextPredictionRequest)
    (entry : String × List ContextPredictionSourceEvidence) :
    Except Fault (ContextPredictionCandidate digest) := do
  let content := candidateContent request entry.1 entry.2
  require (content.sourceGlobalRecordIds.length + content.sourcePhase8RecordIds.length ≤
    maxSourceRecordsPerPrediction) (.value "too many source records for prediction candidate")
  let candidateId ← makeContextPredictionCandidateId digest content
  ContextPredictionCandidate.construct
    { toCandidateContent := content, candidateId := candidateId, sourceEvidence := entry.2 }

/-- The arguments of a call for candidates. -/
structure PredictionCall where
  request : ContextPredictionRequest
  sessionRecords : List SessionMemoryRecord := []
  globalStore : Option GlobalContextStore := none
  sessionScope : Option SessionPredictionScope := none
  dependencyContextKeys : List String := []

/-- The check of the scope that binds a session to the namespace of a request. -/
def checkSessionScope (request : ContextPredictionRequest) (scope : SessionPredictionScope) :
    Except Fault Unit :=
  require ((scope.namespaceType, scope.namespaceId) = request.space)
    (.value "session namespace scope mismatch")

/-- The records of the store, whose closures are sound and which has not closed the namespace of the
request. -/
def predictableRecords (request : ContextPredictionRequest) (store : GlobalContextStore) :
    Except Fault (List GlobalContextRecord) := do
  forEach (fun closure => require (Text.Nonblank closure.namespaceId ∧
      Text.Nonblank closure.closureReason ∧ closure.closed = true ∧ 1 ≤ closure.closureSequence)
    (.value "malformed namespace closure")) store.closedNamespaces
  let closed ← store.isNamespaceClosed request.namespaceType request.namespaceId
  require (closed = false) (.value "closed namespace cannot produce predictions")
  return store.records

/-- The candidates of a request, in the order of their keys. -/
def buildPredictionCandidates (call : PredictionCall) :
    Except Fault (List (ContextPredictionCandidate digest)) := do
  require (∀ key ∈ call.dependencyContextKeys, Text.Nonblank key)
    (.value "dependency context key must be nonblank")
  forEach (checkSessionScope call.request) call.sessionScope.toList
  require (call.sessionRecords = [] ∨ call.sessionScope.isSome)
    (.value "explicit session scope required")
  let globals ← call.globalStore.elim (.ok []) (predictableRecords call.request)
  let sessions ← call.sessionScope.elim (.ok .empty) fun scope =>
    gather (sessionSource scope) .empty call.sessionRecords
  let gathered ← gather (globalSource call.request) sessions globals
  (sortOn Prod.fst gathered.grouped.entries).mapM (predictionCandidate digest call.request)

/-! ## What the adapters make -/

section Adapters

variable {item : Adapted}

theorem sessionSource_eq_ok {scope : SessionPredictionScope} {record : SessionMemoryRecord}
    (adapted : sessionSource scope record = .ok item) :
    item.source = .session record ∧
      item.evidence.identity = (SourceKind.session, record.recordId) := by
  simp only [sessionSource, bind_eq_ok, require_eq_ok, pure_eq_ok, Except.ok.injEq,
    ContextPredictionSourceEvidence.construct_eq_ok_iff, exists_and_left, exists_const] at adapted
  obtain ⟨_, _, _, evidence, ⟨valid, rfl⟩, rfl⟩ := adapted
  exact ⟨rfl, rfl⟩

theorem globalSource_eq_ok_iff {request : ContextPredictionRequest}
    {record : GlobalContextRecord} :
    globalSource request record = .ok item ↔
      record.space = request.space ∧ ∃ valid : (globalEvidence record).Valid,
        ⟨.global record, record.contextKey, .make (globalEvidence record) valid,
          record.lifecycle = .active⟩ = item := by
  simp only [globalSource, bind_eq_ok, require_eq_ok, pure_eq_ok, Except.ok.injEq,
    ContextPredictionSourceEvidence.construct_eq_ok_iff, exists_and_left, exists_const]
  refine and_congr_right fun _ => ⟨?_, ?_⟩
  · rintro ⟨evidence, ⟨valid, rfl⟩, rfl⟩
    exact ⟨valid, rfl⟩
  · rintro ⟨valid, rfl⟩
    exact ⟨_, ⟨valid, rfl⟩, rfl⟩

end Adapters

/-! ## What gathering keeps -/

/-- The evidence of the active records among those that were kept, with their keys. -/
def activeEntries (kept : List Adapted) : List (String × ContextPredictionSourceEvidence) :=
  (kept.filter fun item => item.active).map fun item => (item.key, item.evidence)

theorem mem_activeEntries {kept : List Adapted} {key : String}
    {evidence : ContextPredictionSourceEvidence} :
    (key, evidence) ∈ activeEntries kept ↔
      ∃ item ∈ kept, item.active = true ∧ item.key = key ∧ item.evidence = evidence := by
  simp [activeEntries, and_assoc]

theorem activeEntries_append (kept added : List Adapted) :
    activeEntries (kept ++ added) = activeEntries kept ++ activeEntries added := by
  simp [activeEntries]

namespace Gathered

/-- The state that keeping a list of adapted records leaves. -/
structure Holds (kept : List Adapted) (gathered : Gathered) : Prop where
  /-- Each kept record is known under its identity. -/
  identities : gathered.identities.entries =
    kept.map fun item => (item.evidence.identity, item.source.canonical)
  /-- The evidence of the active ones is gathered under their keys. -/
  grouped : gathered.grouped = Dict.grouped (activeEntries kept)

theorem holds_empty : Holds [] empty := ⟨rfl, rfl⟩

variable {kept : List Adapted} {gathered next : Gathered} {item : Adapted}

theorem Holds.get?_eq_some_iff (holds : Holds kept gathered) {identity : SourceKind × String}
    {content : PredictionSource} :
    gathered.identities.get? identity = some content ↔
      ∃ other ∈ kept, other.evidence.identity = identity ∧ other.source.canonical = content := by
  simp [Dict.get?_eq_some_iff, holds.identities]

theorem Holds.get?_eq_none_iff (holds : Holds kept gathered) {identity : SourceKind × String} :
    gathered.identities.get? identity = none ↔
      identity ∉ kept.map fun other => other.evidence.identity := by
  rw [Dict.get?_eq_none_iff, Dict.keys, holds.identities, List.map_map]
  rfl

theorem Holds.add (holds : Holds kept gathered)
    (fresh : item.evidence.identity ∉ kept.map fun other => other.evidence.identity) :
    Holds (kept ++ [item]) (gathered.add item) where
  identities := by
    have absent : item.evidence.identity ∉ gathered.identities.keys :=
      Dict.get?_eq_none_iff.mp (holds.get?_eq_none_iff.mpr fresh)
    rw [Gathered.add, Dict.insert_entries_of_not_mem absent, holds.identities, List.map_append,
      List.map_singleton]
  grouped := by
    rw [Gathered.add, activeEntries_append, holds.grouped]
    cases active : item.active with
    | true => simp [activeEntries, active, Dict.grouped_concat]
    | false => simp [activeEntries, active]

/-- A record is taken in when it repeats a kept one, or when it is new and its key has room. -/
theorem Holds.admitItem_eq_ok_iff (holds : Holds kept gathered) :
    gathered.admitItem item = .ok next ↔
      (∃ other ∈ kept, other.evidence.identity = item.evidence.identity ∧
          other.source.canonical = item.source.canonical) ∧ gathered = next ∨
        (item.evidence.identity ∉ kept.map fun other => other.evidence.identity) ∧
          (item.active = true →
            (gathered.add item).grouped.keys.length ≤ maxPredictionCandidates) ∧
          gathered.add item = next := by
  rw [← holds.get?_eq_some_iff, ← holds.get?_eq_none_iff]
  unfold admitItem
  split
  · next known found => simp [found]
  · next found => simp [found]

end Gathered

section Gathering

open Gathered

variable {Record : Type} {adapter : Record → Except Fault Adapted} {kept : List Adapted}
  {start final : Gathered} {records : List Record}

/-- What gathering keeps are adapted records, and every record is kept or repeats a kept one. -/
theorem exists_kept_of_gather (holds : Holds kept start)
    (outcome : gather adapter start records = .ok final) :
    ∃ added, Holds (kept ++ added) final ∧
      (∀ item ∈ added, ∃ record ∈ records, adapter record = .ok item) ∧
      ∀ record ∈ records, ∃ item, adapter record = .ok item ∧ ∃ other ∈ kept ++ added,
        other.evidence.identity = item.evidence.identity ∧
          other.source.canonical = item.source.canonical := by
  induction records generalizing kept start with
  | nil =>
      obtain rfl : start = final := by simpa [gather] using outcome
      exact ⟨[], by simpa using holds, by simp, by simp⟩
  | cons record records induction =>
      simp only [gather, List.foldlM_cons, bind_eq_ok] at outcome
      obtain ⟨next, ⟨item, adapted, admitted⟩, rest⟩ := outcome
      rcases holds.admitItem_eq_ok_iff.mp admitted with ⟨repeated, rfl⟩ | ⟨fresh, room, rfl⟩
      · obtain ⟨added, finally', origin, covered⟩ := induction holds rest
        refine ⟨added, finally', fun other member => ?_, ?_⟩
        · obtain ⟨source, inside, made⟩ := origin other member
          exact ⟨source, List.mem_cons_of_mem _ inside, made⟩
        · rw [List.forall_mem_cons]
          obtain ⟨other, member, same⟩ := repeated
          exact ⟨⟨item, adapted, other, List.mem_append_left _ member, same⟩, covered⟩
      · obtain ⟨added, finally', origin, covered⟩ := induction (holds.add fresh) rest
        rw [List.append_assoc, List.singleton_append] at finally' covered
        refine ⟨item :: added, finally', ?_, ?_⟩
        · rw [List.forall_mem_cons]
          refine ⟨⟨record, List.mem_cons_self, adapted⟩, fun other member => ?_⟩
          obtain ⟨source, inside, made⟩ := origin other member
          exact ⟨source, List.mem_cons_of_mem _ inside, made⟩
        · rw [List.forall_mem_cons]
          exact ⟨⟨item, adapted, item, by simp, rfl, rfl⟩, covered⟩

theorem exists_gather (holds : Holds kept start) {items : List Adapted}
    (adapted : List.Forall₂ (fun record item => adapter record = .ok item) records items)
    (distinct : ((kept ++ items).map fun item => item.evidence.identity).Nodup)
    (room : ((activeEntries (kept ++ items)).map Prod.fst).dedup.length ≤
      maxPredictionCandidates) :
    ∃ final, gather adapter start records = .ok final ∧ Holds (kept ++ items) final := by
  induction adapted generalizing kept start with
  | nil => exact ⟨start, rfl, by simpa using holds⟩
  | @cons record item records items made rest induction =>
      rw [List.append_cons] at distinct room ⊢
      have fresh : item.evidence.identity ∉ kept.map fun other => other.evidence.identity := by
        rw [List.map_append, List.map_append, List.append_assoc] at distinct
        intro taken
        exact (List.nodup_append.mp distinct).2.2 _ taken _ (by simp) rfl
      have few : (start.add item).grouped.keys.length ≤ maxPredictionCandidates := by
        rw [(holds.add fresh).grouped, Dict.length_keys_grouped]
        rw [activeEntries_append, List.map_append] at room
        refine le_trans (List.Subperm.length_le ((List.nodup_dedup _).subperm ?_)) room
        exact fun key member =>
          List.mem_dedup.mpr (List.mem_append_left _ (List.mem_dedup.mp member))
      have admitted : start.admitItem item = .ok (start.add item) :=
        holds.admitItem_eq_ok_iff.mpr (.inr ⟨fresh, fun _ => few, rfl⟩)
      obtain ⟨final, outcome, finally'⟩ := induction (holds.add fresh) distinct room
      refine ⟨final, ?_, finally'⟩
      simp only [gather, List.foldlM_cons, made, ok_bind, admitted]
      exact outcome

end Gathering

/-! ## What a candidate cites -/

section Candidates

variable {digest : Digest} {request : ContextPredictionRequest}
  {entry : String × List ContextPredictionSourceEvidence}

theorem predictionCandidate_eq_ok {candidate : ContextPredictionCandidate digest}
    (outcome : predictionCandidate digest request entry = .ok candidate) :
    candidate.toCandidateContent = candidateContent request entry.1 entry.2 ∧
      candidate.sourceEvidence = sortOn ContextPredictionSourceEvidence.key entry.2 := by
  simp only [predictionCandidate, bind_eq_ok, require_eq_ok,
    makeContextPredictionCandidateId_eq_ok_iff, ContextPredictionCandidate.construct_eq_ok_iff,
    exists_and_left, exists_const] at outcome
  obtain ⟨_, _, _, _, rfl⟩ := outcome
  exact ⟨rfl, rfl⟩

theorem mem_recordIdsOf {kind : SourceKind} {sources : List ContextPredictionSourceEvidence}
    {recordId : String} :
    recordId ∈ recordIdsOf kind sources ↔
      ∃ evidence ∈ sources, evidence.identity = (kind, recordId) := by
  simp [recordIdsOf, ContextPredictionSourceEvidence.identity, and_assoc]

theorem recordIdsOf_nodup {sources : List ContextPredictionSourceEvidence}
    (distinct : (sources.map (·.identity)).Nodup) (kind : SourceKind) :
    (recordIdsOf kind sources).Nodup := by
  rw [recordIdsOf, List.Nodup, List.pairwise_map]
  refine ((List.pairwise_map.mp distinct).filter _).imp_of_mem fun left right apart same => ?_
  have leftKind := of_decide_eq_true (List.mem_filter.mp left).2
  have rightKind := of_decide_eq_true (List.mem_filter.mp right).2
  exact apart (Prod.ext (leftKind.trans rightKind.symm) same)

theorem recordIdsOf_nonblank {sources : List ContextPredictionSourceEvidence} {kind : SourceKind} :
    ∀ recordId ∈ recordIdsOf kind sources, Text.Nonblank recordId := by
  intro recordId cited
  obtain ⟨evidence, _, same⟩ := mem_recordIdsOf.mp cited
  obtain ⟨_, rfl⟩ := Prod.mk.inj same
  exact evidence.valid.texts _ (by simp)

theorem length_le_cited {sources : List ContextPredictionSourceEvidence}
    (distinct : (sources.map (·.identity)).Nodup) :
    sources.length ≤ (recordIdsOf .global sources).length + (phase8IdsOf sources).dedup.length := by
  have others : (sources.filter fun evidence => !decide (evidence.sourceKind = .global)) =
      sources.filter fun evidence => evidence.sourceKind = .session := by
    refine List.filter_congr fun evidence _ => ?_
    cases evidence.sourceKind <;> rfl
  have sessions : (recordIdsOf .session sources).length ≤ (phase8IdsOf sources).dedup.length := by
    refine ((recordIdsOf_nodup distinct .session).subperm fun recordId cited => ?_).length_le
    exact List.mem_dedup.mpr (List.mem_append_left _ cited)
  have split := List.length_eq_length_filter_add (l := sources) fun evidence =>
    decide (evidence.sourceKind = .global)
  rw [others] at split
  simp only [recordIdsOf, List.length_map] at sessions ⊢
  omega

theorem candidateContent_valid (visible : Text.Nonblank entry.1) (present : entry.2 ≠ [])
    (distinct : (entry.2.map (·.identity)).Nodup) :
    (candidateContent request entry.1 entry.2).Valid where
  namespaceId := request.texts_nonblank request.namespaceId (by simp)
  contextKey := visible
  creationSequence := by
    obtain ⟨first, rest, same⟩ := List.exists_cons_of_ne_nil present
    rw [candidateContent, same]
    exact le_max_of_le_left first.valid.counters.2
  globalIds := by
    have canonicalIds : CanonicalTexts (canonical id (recordIdsOf .global entry.2)) :=
      canonicalTexts_canonical recordIdsOf_nonblank
    rwa [canonical, (recordIdsOf_nodup distinct _).dedup] at canonicalIds
  phase8Ids := by
    refine canonicalTexts_canonical fun recordId cited => ?_
    rcases List.mem_append.mp cited with own | inherited
    · exact recordIdsOf_nonblank recordId own
    · obtain ⟨evidence, _, member⟩ := List.mem_flatMap.mp inherited
      exact evidence.valid.members evidence.sourcePhase8RecordIds (by simp) recordId member
  artifactIds := by
    refine canonicalTexts_canonical fun artifactId cited => ?_
    obtain ⟨evidence, _, member⟩ := List.mem_flatMap.mp cited
    exact evidence.valid.members evidence.sourceArtifactIds (by simp) artifactId member

/-- A key with distinct sources has its candidate unless the sources are too many. -/
theorem exists_predictionCandidate (visible : Text.Nonblank entry.1) (present : entry.2 ≠ [])
    (distinct : (entry.2.map (·.identity)).Nodup)
    (few : (recordIdsOf .global entry.2).length + (phase8IdsOf entry.2).dedup.length ≤
      maxSourceRecordsPerPrediction) :
    ∃ candidate, predictionCandidate digest request entry = .ok candidate := by
  have content : (candidateContent request entry.1 entry.2).Valid :=
    candidateContent_valid visible present distinct
  have bounded : (candidateContent request entry.1 entry.2).sourceGlobalRecordIds.length +
      (candidateContent request entry.1 entry.2).sourcePhase8RecordIds.length ≤
      maxSourceRecordsPerPrediction := by
    simpa [candidateContent, canonical] using few
  have valid : CandidateFields.Valid digest
      { toCandidateContent := candidateContent request entry.1 entry.2
        candidateId := (candidateContent request entry.1 entry.2).address digest
        sourceEvidence := entry.2 } := {
    content := content
    addressed := rfl
    distinct := distinct
    few := (length_le_cited distinct).trans few
    linked := fun _ => ⟨by ext; simp [candidateContent], by ext; simp [candidateContent]⟩
    bounded := bounded }
  refine ⟨.make _ valid, ?_⟩
  simp only [predictionCandidate, require_of_true bounded, ok_bind,
    makeContextPredictionCandidateId_eq_ok_iff.mpr ⟨content, rfl⟩]
  exact ContextPredictionCandidate.construct_eq_ok_iff.mpr ⟨valid, rfl⟩

end Candidates

/-! ## What a request rests on -/

section Requests

variable {digest : Digest} {call : PredictionCall}
  {candidates : List (ContextPredictionCandidate digest)} {kept : List Adapted}

/-- A kept record stands for an adapted record: it has the same identity and content. -/
def StandsFor (kept : List Adapted) (item : Adapted) : Prop :=
  ∃ other ∈ kept, other.evidence.identity = item.evidence.identity ∧
    other.source.canonical = item.source.canonical

/-- The candidates of a call are those of the records that were kept. -/
structure Rests (call : PredictionCall) (candidates : List (ContextPredictionCandidate digest))
    (kept : List Adapted) : Prop where
  /-- Each key with an active record has its candidate. -/
  candidates : (sortOn Prod.fst (Dict.grouped (activeEntries kept)).entries).mapM
    (predictionCandidate digest call.request) = .ok candidates
  /-- What is kept was given. -/
  origin : ∀ item ∈ kept,
    (∃ scope, ∃ record ∈ call.sessionRecords, sessionSource scope record = .ok item) ∨
      ∃ store, call.globalStore = some store ∧
        ∃ record ∈ store.records, globalSource call.request record = .ok item
  /-- Every record of the store is adapted and stood for. -/
  globals : ∀ store, call.globalStore = some store → ∀ record ∈ store.records,
    ∃ item, globalSource call.request record = .ok item ∧ StandsFor kept item

theorem exists_rests (outcome : buildPredictionCandidates digest call = .ok candidates) :
    ∃ kept, Rests call candidates kept := by
  simp only [buildPredictionCandidates, bind_eq_ok, require_eq_ok, exists_and_left,
    exists_const] at outcome
  obtain ⟨_, _, _, _, globals, records, sessions, fromSessions, gathered, fromGlobals, made⟩ :=
    outcome
  have recordsOf (store : GlobalContextStore) (given : call.globalStore = some store) :
      globals = store.records := by
    simp only [given, Option.elim_some, predictableRecords, bind_eq_ok, pure_eq_ok,
      Except.ok.injEq] at records
    obtain ⟨_, _, _, _, _, _, same⟩ := records
    exact same.symm
  obtain ⟨first, held, firstOrigin⟩ : ∃ first, Gathered.Holds first sessions ∧ ∀ item ∈ first,
      ∃ scope, ∃ record ∈ call.sessionRecords, sessionSource scope record = .ok item := by
    cases bound : call.sessionScope with
    | none =>
        rw [bound, Option.elim_none, Except.ok.injEq] at fromSessions
        subst fromSessions
        exact ⟨[], Gathered.holds_empty, by simp⟩
    | some scope =>
        rw [bound, Option.elim_some] at fromSessions
        obtain ⟨added, held, origin, _⟩ :=
          exists_kept_of_gather Gathered.holds_empty fromSessions
        exact ⟨added, held, fun item member => ⟨scope, origin item member⟩⟩
  obtain ⟨added, finally', origin, covered⟩ := exists_kept_of_gather held fromGlobals
  refine ⟨first ++ added, finally'.grouped ▸ made, fun item member => ?_, ?_⟩
  · rcases List.mem_append.mp member with early | late
    · exact .inl (firstOrigin item early)
    · obtain ⟨record, inside, adapted⟩ := origin item late
      cases given : call.globalStore with
      | none =>
          rw [given, Option.elim_none, Except.ok.injEq] at records
          exact absurd (records ▸ inside) List.not_mem_nil
      | some store => exact .inr ⟨store, rfl, record, recordsOf store given ▸ inside, adapted⟩
  · intro store given record member
    exact covered record (recordsOf store given ▸ member)

theorem Rests.cited_iff (rests : Rests call candidates kept) {recordId : String} :
    (∃ candidate ∈ candidates, recordId ∈ candidate.sourceGlobalRecordIds) ↔
      ∃ item ∈ kept, item.active = true ∧ item.evidence.identity = (.global, recordId) := by
  have citedIn {entry : String × List ContextPredictionSourceEvidence}
      {candidate : ContextPredictionCandidate digest}
      (made : predictionCandidate digest call.request entry = .ok candidate) :
      recordId ∈ candidate.sourceGlobalRecordIds ↔
        ∃ evidence ∈ entry.2, evidence.identity = (.global, recordId) := by
    rw [(predictionCandidate_eq_ok made).1, candidateContent, mem_sortOn, mem_recordIdsOf]
  constructor
  · rintro ⟨candidate, member, cited⟩
    obtain ⟨⟨key, sources⟩, inside, made⟩ := (mem_of_mapM_eq_ok rests.candidates).mp member
    obtain ⟨evidence, source, same⟩ := (citedIn made).mp cited
    rw [mem_sortOn, Dict.mem_entries_grouped] at inside
    obtain ⟨_, rfl⟩ := inside
    obtain ⟨item, present, active, _, rfl⟩ := mem_activeEntries.mp (Dict.mem_valuesOf.mp source)
    exact ⟨item, present, active, same⟩
  · rintro ⟨item, present, active, same⟩
    have gathered : (item.key, item.evidence) ∈ activeEntries kept :=
      mem_activeEntries.mpr ⟨item, present, active, rfl, rfl⟩
    have inside : (item.key, Dict.valuesOf (activeEntries kept) item.key) ∈
        sortOn Prod.fst (Dict.grouped (activeEntries kept)).entries := by
      rw [mem_sortOn, Dict.mem_entries_grouped]
      exact ⟨List.mem_map.mpr ⟨_, gathered, rfl⟩, rfl⟩
    obtain ⟨candidate, member, made⟩ := exists_of_mapM_eq_ok rests.candidates inside
    exact ⟨candidate, member,
      (citedIn made).mpr ⟨item.evidence, Dict.mem_valuesOf.mpr gathered, same⟩⟩

/-- The candidates of a call on a store cite exactly the records that are active by themselves. -/
theorem cited_iff_active {store : GlobalContextStore} (given : call.globalStore = some store)
    (outcome : buildPredictionCandidates digest call = .ok candidates) {recordId : String} :
    (∃ candidate ∈ candidates, recordId ∈ candidate.sourceGlobalRecordIds) ↔
      ∃ record ∈ store.records, record.globalRecordId = recordId ∧ record.lifecycle = .active := by
  obtain ⟨kept, rests⟩ := exists_rests outcome
  rw [rests.cited_iff]
  constructor
  · rintro ⟨item, member, active, same⟩
    rcases rests.origin item member with ⟨scope, record, _, adapted⟩ | ⟨other, named, record,
      inside, adapted⟩
    · rw [(sessionSource_eq_ok adapted).2] at same
      exact absurd (congrArg Prod.fst same) nofun
    · obtain rfl : store = other := Option.some_inj.mp (given.symm.trans named)
      obtain ⟨_, _, rfl⟩ := globalSource_eq_ok_iff.mp adapted
      exact ⟨record, inside, congrArg Prod.snd same, of_decide_eq_true active⟩
  · rintro ⟨record, inside, rfl, active⟩
    obtain ⟨item, adapted, other, member, sameIdentity, sameContent⟩ :=
      rests.globals store given record inside
    obtain ⟨_, _, rfl⟩ := globalSource_eq_ok_iff.mp adapted
    refine ⟨other, member, ?_, sameIdentity⟩
    rcases rests.origin other member with ⟨scope, repeated, _, made⟩ | ⟨_, _, repeated, _, made⟩
    · rw [(sessionSource_eq_ok made).2] at sameIdentity
      exact absurd (congrArg Prod.fst sameIdentity) nofun
    · obtain ⟨_, _, rfl⟩ := globalSource_eq_ok_iff.mp made
      exact decide_eq_true ((PredictionSource.lifecycle_eq_of_canonical sameContent).trans active)

end Requests

end ContextPrediction
end MercuryX
