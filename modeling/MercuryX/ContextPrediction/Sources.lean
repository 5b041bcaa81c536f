import MercuryX.ContextPrediction.Candidates

/-!
# The sources of candidates

The sources of a call are the records of its session and of its store. An adapter says of a source
what its record says: its context, its evidence and whether it is active. Gathering keeps one
record for each identity among the sources. So which records are offered decides the candidates;
in which order, and how often, does not.
-/

namespace MercuryX
namespace ContextPrediction

open Foundation GlobalMemory SessionMemory

/-! ## Sources -/

namespace PredictionSource

/-- What a source is about: the kind and the id of its record. -/
def identity : PredictionSource → SourceKind × String
  | .session record => (.session, record.recordId)
  | .global record => (.global, record.globalRecordId)

/-- The context of a source. -/
def key : PredictionSource → String
  | .session record => record.retrievalKey.getD ""
  | .global record => record.contextKey

/-- The record of the source is active. -/
def Active : PredictionSource → Prop
  | .session record => record.lifecycle = .active
  | .global record => record.lifecycle = .active

instance : DecidablePred Active
  | .session record => inferInstanceAs (Decidable (record.lifecycle = .active))
  | .global record => inferInstanceAs (Decidable (record.lifecycle = .active))

/-- What is given as the evidence of a source. -/
def evidenceFields : PredictionSource → SourceEvidenceFields
  | .session record => sessionEvidence record
  | .global record => globalEvidence record

/-- The evidence is that of the source. -/
def Gives (source : PredictionSource) (evidence : ContextPredictionSourceEvidence) : Prop :=
  ∃ valid, .make source.evidenceFields valid = evidence

variable {source left right : PredictionSource}
  {evidence leftEvidence rightEvidence : ContextPredictionSourceEvidence}

theorem Gives.identity_eq (gives : source.Gives evidence) :
    evidence.identity = source.identity := by
  obtain ⟨valid, rfl⟩ := gives
  cases source <;> rfl

theorem Gives.unique (first : source.Gives leftEvidence) (second : source.Gives rightEvidence) :
    leftEvidence = rightEvidence := by
  obtain ⟨_, rfl⟩ := first
  obtain ⟨_, rfl⟩ := second
  rfl

/-- The evidence does not tell lists apart that are one set. -/
theorem Gives.canonical (gives : source.Gives evidence) : source.canonical.Gives evidence := by
  obtain ⟨valid, rfl⟩ := gives
  cases source with
  | session record => exact ⟨valid, rfl⟩
  | global record =>
      refine ⟨(ContextPredictionSourceEvidence.make _ valid).valid, ?_⟩
      simp [PredictionSource.canonical, evidenceFields, ContextPredictionSourceEvidence.make,
        globalEvidence]

theorem Gives.eq_of_canonical (first : left.Gives leftEvidence)
    (second : right.Gives rightEvidence) (same : left.canonical = right.canonical) :
    leftEvidence = rightEvidence :=
  first.canonical.unique (same ▸ second.canonical)

theorem key_canonical (source : PredictionSource) : source.canonical.key = source.key := by
  cases source <;> rfl

theorem active_canonical (source : PredictionSource) :
    source.canonical.Active ↔ source.Active := by
  cases source <;> rfl

end PredictionSource

/-- An adapted record says what its source says. -/
structure Adapted.Faithful (item : Adapted) : Prop where
  key : item.key = item.source.key
  active : item.active = decide item.source.Active
  evidence : item.source.Gives item.evidence

theorem Adapted.Faithful.identity_eq {item : Adapted} (faithful : item.Faithful) :
    item.evidence.identity = item.source.identity :=
  faithful.evidence.identity_eq

/-- Faithful items with one source are one item. -/
theorem Adapted.Faithful.eq_of_source {left right : Adapted} (leftFaithful : left.Faithful)
    (rightFaithful : right.Faithful) (same : left.source = right.source) : left = right := by
  obtain ⟨source, key, evidence, active⟩ := left
  obtain ⟨otherSource, otherKey, otherEvidence, otherActive⟩ := right
  obtain rfl : source = otherSource := same
  obtain rfl : key = otherKey := leftFaithful.key.trans rightFaithful.key.symm
  obtain rfl : active = otherActive := leftFaithful.active.trans rightFaithful.active.symm
  obtain rfl : evidence = otherEvidence := leftFaithful.evidence.unique rightFaithful.evidence
  rfl

theorem sessionSource_faithful {scope : SessionPredictionScope} {record : SessionMemoryRecord}
    {item : Adapted} (adapted : sessionSource scope record = .ok item) :
    item.source = .session record ∧ item.Faithful := by
  simp only [sessionSource, bind_eq_ok, require_eq_ok, pure_eq_ok, Except.ok.injEq,
    ContextPredictionSourceEvidence.construct_eq_ok_iff, exists_and_left, exists_const] at adapted
  obtain ⟨_, _, _, evidence, ⟨valid, rfl⟩, rfl⟩ := adapted
  exact ⟨rfl, rfl, rfl, valid, rfl⟩

theorem globalSource_faithful {request : ContextPredictionRequest} {record : GlobalContextRecord}
    {item : Adapted} (adapted : globalSource request record = .ok item) :
    item.source = .global record ∧ item.Faithful := by
  obtain ⟨_, valid, rfl⟩ := globalSource_eq_ok_iff.mp adapted
  exact ⟨rfl, rfl, rfl, valid, rfl⟩

/-- The sources of a call. -/
def PredictionCall.sources (call : PredictionCall) : List PredictionSource :=
  call.sessionRecords.map .session ++
    (call.globalStore.elim [] GlobalContextStore.records).map .global

/-! ## What gathering depends on -/

/-- The contexts of the active records among those kept are few enough. -/
def Roomy (kept : List Adapted) : Prop :=
  ((activeEntries kept).map Prod.fst).dedup.length ≤ maxPredictionCandidates

theorem roomy_nil : Roomy [] := by simp [Roomy, activeEntries]

theorem Roomy.of_subset {kept part : List Adapted} (room : Roomy kept) (inside : part ⊆ kept) :
    Roomy part := by
  refine le_trans (List.Subperm.length_le ((List.nodup_dedup _).subperm fun key member => ?_)) room
  obtain ⟨entry, among, rfl⟩ := List.mem_map.mp (List.mem_dedup.mp member)
  obtain ⟨item, keptItem, active, same, _⟩ := mem_activeEntries.mp among
  exact List.mem_dedup.mpr (List.mem_map.mpr
    ⟨_, mem_activeEntries.mpr ⟨item, inside keptItem, active, rfl, rfl⟩, same⟩)

section Gathering

open Gathered

variable {Record : Type} {adapter : Record → Except Fault Adapted} {kept : List Adapted}
  {start final : Gathered} {record : Record} {records : List Record}

/-- No two kept records are about one record. -/
theorem Gathered.Holds.distinct (holds : Holds kept start) :
    (kept.map fun item => item.evidence.identity).Nodup := by
  have unique := start.identities.nodup
  rwa [holds.identities, List.map_map] at unique

theorem Gathered.Holds.room_iff (holds : Holds kept start) :
    start.grouped.keys.length ≤ maxPredictionCandidates ↔ Roomy kept := by
  rw [Roomy, holds.grouped, Dict.length_keys_grouped]

theorem gather_cons_eq_ok_iff : gather adapter start (record :: records) = .ok final ↔
    ∃ item, adapter record = .ok item ∧ ∃ next, start.admitItem item = .ok next ∧
      gather adapter next records = .ok final := by
  simp only [gather, List.foldlM_cons, bind_eq_ok]
  constructor
  · rintro ⟨next, ⟨item, adapted, admitted⟩, rest⟩
    exact ⟨item, adapted, next, admitted, rest⟩
  · rintro ⟨item, adapted, next, admitted, rest⟩
    exact ⟨next, ⟨item, adapted, admitted⟩, rest⟩

/-- Gathering never takes in more contexts than there is room for. -/
theorem roomy_of_gather {all : List Adapted} (holds : Holds kept start) (room : Roomy kept)
    (outcome : gather adapter start records = .ok final) (held : Holds all final) :
    Roomy all := by
  induction records generalizing kept start with
  | nil =>
      obtain rfl : start = final := by simpa [gather] using outcome
      exact held.room_iff.mp (holds.room_iff.mpr room)
  | cons record records induction =>
      obtain ⟨item, _, next, admitted, rest⟩ := gather_cons_eq_ok_iff.mp outcome
      rcases holds.admitItem_eq_ok_iff.mp admitted with ⟨_, rfl⟩ | ⟨fresh, few, rfl⟩
      · exact induction holds room rest
      · refine induction (holds.add fresh) ?_ rest
        cases active : item.active with
        | true => exact (holds.add fresh).room_iff.mp (few active)
        | false =>
            refine (holds.add fresh).room_iff.mp ?_
            rw [Gathered.add, active, if_neg Bool.false_ne_true]
            exact holds.room_iff.mpr room

theorem exists_gather_within {all : List Adapted} (holds : Holds kept start)
    (inside : kept ⊆ all) (distinct : (all.map fun item => item.evidence.identity).Nodup)
    (room : Roomy all) (known : ∀ record ∈ records, ∃ item ∈ all, adapter record = .ok item) :
    ∃ final added, gather adapter start records = .ok final ∧ Holds (kept ++ added) final ∧
      kept ++ added ⊆ all ∧
        ∀ record ∈ records, ∃ item ∈ kept ++ added, adapter record = .ok item := by
  induction records generalizing kept start with
  | nil => exact ⟨start, [], rfl, by simpa using holds, by simpa using inside, by simp⟩
  | cons record records induction =>
      obtain ⟨⟨item, member, adapted⟩, others⟩ := List.forall_mem_cons.mp known
      by_cases repeated : item.evidence.identity ∈ kept.map fun other => other.evidence.identity
      · obtain ⟨other, present, same⟩ := List.mem_map.mp repeated
        obtain rfl : other = item :=
          List.inj_on_of_nodup_map distinct (inside present) member same
        have admitted : start.admitItem other = .ok start :=
          holds.admitItem_eq_ok_iff.mpr (.inl ⟨⟨other, present, rfl, rfl⟩, rfl⟩)
        obtain ⟨final, added, outcome, held, within, covered⟩ := induction holds inside others
        exact ⟨final, added, gather_cons_eq_ok_iff.mpr ⟨other, adapted, start, admitted, outcome⟩,
          held, within, List.forall_mem_cons.mpr
            ⟨⟨other, List.mem_append_left _ present, adapted⟩, covered⟩⟩
      · have extended : kept ++ [item] ⊆ all := by
          simpa [List.append_subset] using ⟨inside, member⟩
        have admitted : start.admitItem item = .ok (start.add item) :=
          holds.admitItem_eq_ok_iff.mpr (.inr ⟨repeated,
            fun _ => (holds.add repeated).room_iff.mpr (room.of_subset extended), rfl⟩)
        obtain ⟨final, added, outcome, held, within, covered⟩ :=
          induction (holds.add repeated) extended others
        rw [List.append_assoc] at held within covered
        exact ⟨final, _, gather_cons_eq_ok_iff.mpr ⟨item, adapted, _, admitted, outcome⟩, held,
          within, List.forall_mem_cons.mpr ⟨⟨item, by simp, adapted⟩, covered⟩⟩

/-- Gathering on top of one set of records adds the same, however the set is ordered. -/
theorem exists_gather_of_perm {other : List Adapted} {otherStart : Gathered}
    (holds : Holds kept start) (otherHolds : Holds other otherStart) (perm : kept.Perm other)
    (outcome : gather adapter start records = .ok final) :
    ∃ otherFinal added, gather adapter otherStart records = .ok otherFinal ∧
      Holds (kept ++ added) final ∧ Holds (other ++ added) otherFinal := by
  induction records generalizing kept other start otherStart with
  | nil =>
      obtain rfl : start = final := by simpa [gather] using outcome
      exact ⟨otherStart, [], rfl, by simpa using holds, by simpa using otherHolds⟩
  | cons record records induction =>
      obtain ⟨item, adapted, next, admitted, rest⟩ := gather_cons_eq_ok_iff.mp outcome
      rcases holds.admitItem_eq_ok_iff.mp admitted with
        ⟨⟨known, member, same⟩, rfl⟩ | ⟨fresh, few, rfl⟩
      · have repeated : otherStart.admitItem item = .ok otherStart :=
          otherHolds.admitItem_eq_ok_iff.mpr (.inl ⟨⟨known, perm.subset member, same⟩, rfl⟩)
        obtain ⟨otherFinal, added, again, held, otherHeld⟩ :=
          induction holds otherHolds perm rest
        exact ⟨otherFinal, added,
          gather_cons_eq_ok_iff.mpr ⟨item, adapted, _, repeated, again⟩, held, otherHeld⟩
      · have otherFresh : item.evidence.identity ∉ other.map fun other => other.evidence.identity :=
          fun taken => fresh ((perm.map _).mem_iff.mpr taken)
        have larger := perm.append_right [item]
        have otherFew : item.active = true →
            (otherStart.add item).grouped.keys.length ≤ maxPredictionCandidates := fun active =>
          (otherHolds.add otherFresh).room_iff.mpr
            (((holds.add fresh).room_iff.mp (few active)).of_subset larger.symm.subset)
        have taken : otherStart.admitItem item = .ok (otherStart.add item) :=
          otherHolds.admitItem_eq_ok_iff.mpr (.inr ⟨otherFresh, otherFew, rfl⟩)
        obtain ⟨otherFinal, added, again, held, otherHeld⟩ :=
          induction (holds.add fresh) (otherHolds.add otherFresh) larger rest
        rw [List.append_assoc] at held otherHeld
        exact ⟨otherFinal, _, gather_cons_eq_ok_iff.mpr ⟨item, adapted, _, taken, again⟩, held,
          otherHeld⟩

end Gathering

/-! ## What candidates depend on -/

section Candidates

variable {digest : Digest} {request : ContextPredictionRequest} {key : String}
  {lefts rights : List ContextPredictionSourceEvidence}

theorem ContextPredictionSourceEvidence.identity_eq_of_key
    {left right : ContextPredictionSourceEvidence} (same : left.key = right.key) :
    left.identity = right.identity := by
  obtain ⟨kinds, ids⟩ := Prod.mk.inj (toLex.injective same)
  exact Prod.ext (SourceKind.value_injective kinds) ids

theorem separates_evidence (distinct : (lefts.map (·.identity)).Nodup) :
    Separates ContextPredictionSourceEvidence.key lefts := fun _ left _ right same =>
  List.inj_on_of_nodup_map distinct left right
    (ContextPredictionSourceEvidence.identity_eq_of_key same)

theorem recordIdsOf_perm (perm : lefts.Perm rights) (kind : SourceKind) :
    (recordIdsOf kind lefts).Perm (recordIdsOf kind rights) :=
  (perm.filter _).map _

theorem phase8IdsOf_perm (perm : lefts.Perm rights) :
    (phase8IdsOf lefts).Perm (phase8IdsOf rights) :=
  (recordIdsOf_perm perm _).append (perm.flatMap_right _)

theorem separates_id {α : Type} (values : List α) : Separates id values :=
  fun _ _ _ _ same => same

/-- The content of a candidate does not depend on the order of its sources. -/
theorem candidateContent_perm (perm : lefts.Perm rights) :
    candidateContent request key lefts = candidateContent request key rights := by
  have globals : sortOn id (recordIdsOf .global lefts) = sortOn id (recordIdsOf .global rights) :=
    sortOn_eq_of_perm (separates_id _) (recordIdsOf_perm perm _)
  have phase8 : canonical id (phase8IdsOf lefts) = canonical id (phase8IdsOf rights) :=
    canonical_congr (separates_id _) fun _ => (phase8IdsOf_perm perm).mem_iff
  have artifacts : canonical id (lefts.flatMap fun evidence => evidence.sourceArtifactIds) =
      canonical id (rights.flatMap fun evidence => evidence.sourceArtifactIds) :=
    canonical_congr (separates_id _) fun _ => (perm.flatMap_right _).mem_iff
  have conflict : (lefts.any fun evidence => evidence.conflictState = some .conflicting) =
      rights.any fun evidence => evidence.conflictState = some .conflicting := by
    rw [Bool.eq_iff_iff, List.any_eq_true, List.any_eq_true]
    simp only [perm.mem_iff]
  have latest : (lefts.map fun evidence => evidence.creationSequence).foldr max 0 =
      (rights.map fun evidence => evidence.creationSequence).foldr max 0 :=
    (perm.map _).foldr_eq 0
  simp only [candidateContent, globals, phase8, artifacts, conflict, latest]

theorem ContextPredictionCandidate.eq_of_fields {left right : ContextPredictionCandidate digest}
    (same : left.toCandidateFields = right.toCandidateFields) : left = right := by
  cases left
  cases right
  simpa using same

/-- A candidate does not depend on the order of its sources. -/
theorem predictionCandidate_perm (perm : lefts.Perm rights)
    {candidate : ContextPredictionCandidate digest}
    (made : predictionCandidate digest request (key, lefts) = .ok candidate) :
    predictionCandidate digest request (key, rights) = .ok candidate := by
  simp only [predictionCandidate, bind_eq_ok, require_eq_ok,
    makeContextPredictionCandidateId_eq_ok_iff, ContextPredictionCandidate.construct_eq_ok_iff,
    exists_and_left, exists_const, candidateContent_perm perm] at made ⊢
  obtain ⟨bounded, candidateId, addressed, valid, rfl⟩ := made
  have identities := perm.map (·.identity)
  have reordered : CandidateFields.Valid digest
      { toCandidateContent := candidateContent request key rights
        candidateId := candidateId
        sourceEvidence := rights } := {
    content := valid.content
    addressed := valid.addressed
    distinct := identities.nodup_iff.mp valid.distinct
    few := perm.length_eq ▸ valid.few
    linked := by
      intro carried
      have given : lefts ≠ [] := fun empty => carried (by simpa [empty] using perm)
      obtain ⟨globals, phase8⟩ := valid.linked given
      exact ⟨(List.toFinset_eq_of_perm _ _ (recordIdsOf_perm perm _)).symm.trans globals,
        (List.toFinset_eq_of_perm _ _ (phase8IdsOf_perm perm)).symm.trans phase8⟩
    bounded := valid.bounded }
  refine ⟨bounded, candidateId, addressed, reordered, ?_⟩
  refine ContextPredictionCandidate.eq_of_fields ?_
  have sorted := sortOn_eq_of_perm (separates_evidence valid.distinct) perm
  simp only [ContextPredictionCandidate.make, ← sorted]

/-- The candidates do not depend on the order in which records were kept. -/
theorem candidates_perm {kept other : List Adapted} (perm : kept.Perm other)
    {candidates : List (ContextPredictionCandidate digest)}
    (made : (sortOn Prod.fst (Dict.grouped (activeEntries kept)).entries).mapM
      (predictionCandidate digest request) = .ok candidates) :
    (sortOn Prod.fst (Dict.grouped (activeEntries other)).entries).mapM
      (predictionCandidate digest request) = .ok candidates := by
  have entries : (activeEntries kept).Perm (activeEntries other) := (perm.filter _).map _
  have keys : sortOn id (Dict.grouped (activeEntries kept)).keys =
      sortOn id (Dict.grouped (activeEntries other)).keys :=
    sortOn_eq_of_perm (separates_id _) (Dict.keys_grouped_perm entries)
  rw [Dict.sortOn_entries_grouped, mapM_eq_ok_iff_forall₂, List.forall₂_map_left_iff] at made ⊢
  rw [← keys]
  exact made.imp fun key candidate answered =>
    predictionCandidate_perm (Dict.valuesOf_perm entries key) answered

end Candidates

/-! ## What a call depends on -/

section Calls

open Gathered

variable {digest : Digest} {call : PredictionCall} {scope : SessionPredictionScope}
  {candidates : List (ContextPredictionCandidate digest)} {sessions : Gathered}
  {records : List SessionMemoryRecord}

theorem exists_kept_of_sessions
    (outcome : gather (sessionSource scope) .empty records = .ok sessions) :
    ∃ kept, Holds kept sessions ∧ Roomy kept ∧
      (∀ item ∈ kept, ∃ record ∈ records, sessionSource scope record = .ok item) ∧
      ∀ record ∈ records, ∃ item ∈ kept, sessionSource scope record = .ok item := by
  obtain ⟨kept, held, origin, covered⟩ := exists_kept_of_gather holds_empty outcome
  refine ⟨kept, held, ?_, origin, fun record member => ?_⟩
  · exact roomy_of_gather holds_empty roomy_nil outcome held
  · obtain ⟨item, adapted, other, present, _, same⟩ := covered record member
    obtain ⟨source, among, made⟩ := origin other present
    obtain ⟨itemSource, faithful⟩ := sessionSource_faithful adapted
    obtain ⟨otherSource, otherFaithful⟩ := sessionSource_faithful made
    rw [itemSource, otherSource] at same
    have equal : other = item :=
      otherFaithful.eq_of_source faithful (otherSource.trans (same.trans itemSource.symm))
    exact ⟨item, equal ▸ present, adapted⟩

theorem exists_sessions_of_same_records {others : List SessionMemoryRecord}
    (same : ∀ record, record ∈ others ↔ record ∈ records)
    (outcome : gather (sessionSource scope) .empty records = .ok sessions) :
    ∃ otherSessions kept other, gather (sessionSource scope) .empty others = .ok otherSessions ∧
      Holds kept sessions ∧ Holds other otherSessions ∧ kept.Perm other := by
  obtain ⟨kept, held, room, origin, covered⟩ := exists_kept_of_sessions outcome
  obtain ⟨otherSessions, other, again, otherHeld, within, known⟩ :=
    exists_gather_within holds_empty (List.nil_subset kept) held.distinct room
      fun record member => covered record ((same record).mp member)
  refine ⟨otherSessions, kept, other, again, held, otherHeld, ?_⟩
  refine (List.perm_ext_iff_of_nodup held.distinct.of_map otherHeld.distinct.of_map).mpr ?_
  refine fun item => ⟨fun member => ?_, fun member => within member⟩
  obtain ⟨record, among, adapted⟩ := origin item member
  obtain ⟨found, present, made⟩ := known record ((same record).mpr among)
  obtain rfl : item = found := Except.ok.inj (adapted.symm.trans made)
  exact present

theorem buildPredictionCandidates_of_same_records
    (same : ∀ record, record ∈ records ↔ record ∈ call.sessionRecords)
    (outcome : buildPredictionCandidates digest call = .ok candidates) :
    buildPredictionCandidates digest { call with sessionRecords := records } =
      .ok candidates := by
  simp only [buildPredictionCandidates, bind_eq_ok, require_eq_ok, exists_and_left,
    exists_const] at outcome ⊢
  obtain ⟨dependencies, checked, bound, inScope, globals, found, sessions, fromSessions, gathered,
    fromGlobals, made⟩ := outcome
  have given : records = [] ∨ call.sessionScope.isSome := by
    refine inScope.imp_left fun empty => List.eq_nil_iff_forall_not_mem.mpr fun record member => ?_
    exact absurd ((same record).mp member) (empty ▸ List.not_mem_nil)
  obtain ⟨otherSessions, kept, other, again, held, otherHeld, perm⟩ : ∃ otherSessions kept other,
      (call.sessionScope.elim (.ok .empty) fun scope =>
        gather (sessionSource scope) .empty records) = .ok otherSessions ∧
      Holds kept sessions ∧ Holds other otherSessions ∧ kept.Perm other := by
    cases session : call.sessionScope with
    | none =>
        rw [session, Option.elim_none, Except.ok.injEq] at fromSessions
        subst fromSessions
        exact ⟨.empty, [], [], rfl, holds_empty, holds_empty, .refl _⟩
    | some scope =>
        rw [session, Option.elim_some] at fromSessions
        exact exists_sessions_of_same_records same fromSessions
  obtain ⟨otherGathered, added, further, all, otherAll⟩ :=
    exists_gather_of_perm held otherHeld perm fromGlobals
  refine ⟨dependencies, checked, bound, given, globals, found, otherSessions, again, otherGathered,
    further, ?_⟩
  rw [all.grouped] at made
  rw [otherAll.grouped]
  exact candidates_perm (perm.append_right added) made

end Calls

/-! ## What candidates say of the sources -/

section Tracing

open Gathered

variable {digest : Digest} {call : PredictionCall}
  {candidates : List (ContextPredictionCandidate digest)} {kept : List Adapted}

/-- The candidates of a call are those of one item for each record that its sources are about. -/
structure Sourced (call : PredictionCall) (candidates : List (ContextPredictionCandidate digest))
    (kept : List Adapted) : Prop where
  /-- Each context of an active item has its candidate. -/
  candidates : (sortOn Prod.fst (Dict.grouped (activeEntries kept)).entries).mapM
    (predictionCandidate digest call.request) = .ok candidates
  /-- Their contexts are few enough. -/
  room : Roomy kept
  /-- The items are about distinct records. -/
  distinct : (kept.map fun item => item.evidence.identity).Nodup
  /-- The items are those of sources. -/
  origin : ∀ item ∈ kept, item.source ∈ call.sources ∧ item.Faithful
  /-- Every source has its item. -/
  covered : ∀ source ∈ call.sources, ∃ item ∈ kept,
    item.source.canonical = source.canonical ∧ source.Gives item.evidence

theorem exists_session_items {sessions : Gathered}
    (inScope : call.sessionRecords = [] ∨ call.sessionScope.isSome)
    (outcome : (call.sessionScope.elim (.ok .empty) fun scope =>
      gather (sessionSource scope) .empty call.sessionRecords) = .ok sessions) :
    ∃ items, Holds items sessions ∧ Roomy items ∧
      (∀ item ∈ items, ∃ record ∈ call.sessionRecords, item.source = .session record ∧
        item.Faithful) ∧
      ∀ record ∈ call.sessionRecords, ∃ item ∈ items, item.source = .session record ∧
        item.Faithful := by
  cases session : call.sessionScope with
  | none =>
      rw [session, Option.elim_none, Except.ok.injEq] at outcome
      subst outcome
      have unscoped : call.sessionRecords = [] := by simpa [session] using inScope
      exact ⟨[], holds_empty, roomy_nil, by simp, by simp [unscoped]⟩
  | some scope =>
      rw [session, Option.elim_some] at outcome
      obtain ⟨items, held, room, origin, covered⟩ := exists_kept_of_sessions outcome
      refine ⟨items, held, room, fun item member => ?_, fun record member => ?_⟩
      · obtain ⟨record, among, adapted⟩ := origin item member
        exact ⟨record, among, sessionSource_faithful adapted⟩
      · obtain ⟨item, present, adapted⟩ := covered record member
        exact ⟨item, present, sessionSource_faithful adapted⟩

theorem eq_records_of_predictable {globals : List GlobalContextRecord}
    (outcome : call.globalStore.elim (.ok []) (predictableRecords call.request) = .ok globals) :
    globals = call.globalStore.elim [] GlobalContextStore.records := by
  cases given : call.globalStore with
  | none => simpa [given, eq_comm] using outcome
  | some store =>
      simp only [given, Option.elim_some, predictableRecords, bind_eq_ok, pure_eq_ok,
        Except.ok.injEq] at outcome
      obtain ⟨_, _, _, _, _, _, same⟩ := outcome
      exact same.symm

theorem exists_sourced (outcome : buildPredictionCandidates digest call = .ok candidates) :
    ∃ kept, Sourced call candidates kept := by
  simp only [buildPredictionCandidates, bind_eq_ok, require_eq_ok, exists_and_left,
    exists_const] at outcome
  obtain ⟨_, _, _, inScope, globals, stored, sessions, fromSessions, gathered, fromGlobals, made⟩ :=
    outcome
  obtain ⟨first, held, room, sessionOrigin, sessionCovered⟩ :=
    exists_session_items inScope fromSessions
  obtain ⟨added, all, origin, covered⟩ := exists_kept_of_gather held fromGlobals
  have records := eq_records_of_predictable stored
  have faithful : ∀ item ∈ first ++ added, item.source ∈ call.sources ∧ item.Faithful := by
    intro item member
    rcases List.mem_append.mp member with early | late
    · obtain ⟨record, among, source, faithful⟩ := sessionOrigin item early
      exact ⟨source ▸ List.mem_append_left _ (List.mem_map_of_mem among), faithful⟩
    · obtain ⟨record, among, adapted⟩ := origin item late
      obtain ⟨source, faithful⟩ := globalSource_faithful adapted
      exact ⟨source ▸ List.mem_append_right _ (List.mem_map_of_mem (records ▸ among)), faithful⟩
  have filled : Roomy (first ++ added) := roomy_of_gather held room fromGlobals all
  refine ⟨first ++ added, all.grouped ▸ made, filled, all.distinct, faithful,
    fun source member => ?_⟩
  rcases List.mem_append.mp member with session | global
  · obtain ⟨record, among, rfl⟩ := List.mem_map.mp session
    obtain ⟨item, present, same, own⟩ := sessionCovered record among
    exact ⟨item, List.mem_append_left _ present, by rw [same], same ▸ own.evidence⟩
  · -- another record of the same content may have been kept for this one
    obtain ⟨record, among, rfl⟩ := List.mem_map.mp global
    obtain ⟨item, adapted, other, present, _, same⟩ := covered record (records ▸ among)
    obtain ⟨source, own⟩ := globalSource_faithful adapted
    have evidence : other.evidence = item.evidence :=
      (faithful other present).2.evidence.eq_of_canonical own.evidence same
    exact ⟨other, present, source ▸ same, source ▸ evidence ▸ own.evidence⟩

/-- What the candidates of a call say of its sources. -/
structure Traced (call : PredictionCall)
    (candidates : List (ContextPredictionCandidate digest)) : Prop where
  /-- The candidates are about distinct contexts, in their order. -/
  ordered : (candidates.map fun candidate => candidate.contextKey).Pairwise (· < ·)
  /-- An active source is evidence of the candidate of its context, once, and of no other. -/
  active : ∀ source ∈ call.sources, source.Active → ∃ candidate ∈ candidates,
    candidate.contextKey = source.key ∧
      (∃ evidence ∈ candidate.sourceEvidence, source.Gives evidence) ∧
      (candidate.sourceEvidence.map (·.identity)).count source.identity = 1 ∧
      ∀ other ∈ candidates, source.identity ∈ other.sourceEvidence.map (·.identity) →
        other = candidate
  /-- A source that is not active is no evidence. -/
  inactive : ∀ source ∈ call.sources, ¬source.Active → ∀ candidate ∈ candidates,
    source.identity ∉ candidate.sourceEvidence.map (·.identity)
  /-- All evidence is that of active sources of the context. -/
  evidence : ∀ candidate ∈ candidates, ∀ evidence ∈ candidate.sourceEvidence,
    ∃ source ∈ call.sources, source.Active ∧ source.key = candidate.contextKey ∧
      source.Gives evidence
  /-- A candidate is in conflict when one of its sources is. -/
  conflict : ∀ candidate ∈ candidates, (candidate.conflictPresent = true ↔
    ∃ evidence ∈ candidate.sourceEvidence, evidence.conflictState = some .conflicting)
  /-- A candidate is as late as the latest of its sources. -/
  sequence : ∀ candidate ∈ candidates,
    (∃ evidence ∈ candidate.sourceEvidence,
      evidence.creationSequence = candidate.creationSequence) ∧
      ∀ evidence ∈ candidate.sourceEvidence,
        evidence.creationSequence ≤ candidate.creationSequence

theorem latest_mem {values : List Nat} (given : values ≠ []) : values.foldr max 0 ∈ values :=
  List.maximum_mem (List.foldr_max_of_ne_nil given).symm

namespace Sourced

variable (sourced : Sourced call candidates kept)

include sourced

theorem exists_key {candidate : ContextPredictionCandidate digest}
    (member : candidate ∈ candidates) :
    ∃ key ∈ (activeEntries kept).map Prod.fst,
      candidate.toCandidateContent = candidateContent call.request key
        (Dict.valuesOf (activeEntries kept) key) ∧
      candidate.sourceEvidence = sortOn ContextPredictionSourceEvidence.key
        (Dict.valuesOf (activeEntries kept) key) := by
  obtain ⟨⟨key, values⟩, inside, made⟩ := (mem_of_mapM_eq_ok sourced.candidates).mp member
  rw [mem_sortOn, Dict.mem_entries_grouped] at inside
  obtain ⟨present, rfl⟩ := inside
  exact ⟨key, present, predictionCandidate_eq_ok made⟩

theorem mem_sourceEvidence_iff {candidate : ContextPredictionCandidate digest}
    (member : candidate ∈ candidates) {evidence : ContextPredictionSourceEvidence} :
    evidence ∈ candidate.sourceEvidence ↔
      ∃ item ∈ kept, item.active = true ∧ item.key = candidate.contextKey ∧
        item.evidence = evidence := by
  obtain ⟨key, _, content, carried⟩ := sourced.exists_key member
  have context : candidate.contextKey = key := congrArg CandidateContent.contextKey content
  rw [carried, context, mem_sortOn, Dict.mem_valuesOf, mem_activeEntries]

theorem contextKeys : candidates.map (fun candidate => candidate.contextKey) =
    sortOn id (Dict.grouped (activeEntries kept)).keys := by
  have entries := map_of_mapM_eq_ok (fun entry candidate made => congrArg
    CandidateContent.contextKey (predictionCandidate_eq_ok made).1) sourced.candidates
  rw [entries, Dict.sortOn_entries_grouped, List.map_map]
  exact List.map_id _

theorem ordered : (candidates.map fun candidate => candidate.contextKey).Pairwise (· < ·) := by
  rw [sourced.contextKeys]
  have distinct : (sortOn id (Dict.grouped (activeEntries kept)).keys).Nodup :=
    (sortOn_perm id _).nodup_iff.mpr (Dict.grouped (activeEntries kept)).nodup
  refine ((sortOn_pairwise id _).and distinct).imp fun both => ?_
  exact lt_of_le_of_ne both.1 both.2

theorem eq_of_contextKey {left right : ContextPredictionCandidate digest}
    (leftMember : left ∈ candidates) (rightMember : right ∈ candidates)
    (same : left.contextKey = right.contextKey) : left = right :=
  List.inj_on_of_nodup_map (sourced.ordered.imp ne_of_lt) leftMember rightMember same

theorem exists_item {source : PredictionSource} (member : source ∈ call.sources) :
    ∃ item ∈ kept, item.key = source.key ∧ item.active = decide source.Active ∧
      item.evidence.identity = source.identity ∧ source.Gives item.evidence := by
  obtain ⟨item, present, same, gives⟩ := sourced.covered source member
  have faithful := (sourced.origin item present).2
  refine ⟨item, present, ?_, ?_, gives.identity_eq, gives⟩
  · rw [faithful.key, ← PredictionSource.key_canonical, same, PredictionSource.key_canonical]
  · rw [faithful.active, decide_eq_decide, ← PredictionSource.active_canonical, same,
      PredictionSource.active_canonical]

theorem eq_of_identity {left right : Adapted} (leftMember : left ∈ kept)
    (rightMember : right ∈ kept) (same : left.evidence.identity = right.evidence.identity) :
    left = right :=
  List.inj_on_of_nodup_map sourced.distinct leftMember rightMember same

theorem identity_mem_iff {source : PredictionSource} (member : source ∈ call.sources)
    {candidate : ContextPredictionCandidate digest} (among : candidate ∈ candidates) :
    source.identity ∈ candidate.sourceEvidence.map (·.identity) ↔
      source.Active ∧ source.key = candidate.contextKey := by
  obtain ⟨item, present, key, active, identity, _⟩ := sourced.exists_item member
  constructor
  · rw [List.mem_map]
    rintro ⟨evidence, carried, same⟩
    obtain ⟨other, otherPresent, otherActive, context, rfl⟩ :=
      (sourced.mem_sourceEvidence_iff among).mp carried
    obtain rfl : other = item :=
      sourced.eq_of_identity otherPresent present (same.trans identity.symm)
    exact ⟨of_decide_eq_true (active.symm.trans otherActive), key.symm.trans context⟩
  · rintro ⟨isActive, context⟩
    have carried : item.evidence ∈ candidate.sourceEvidence :=
      (sourced.mem_sourceEvidence_iff among).mpr
        ⟨item, present, active.trans (decide_eq_true isActive), key.trans context, rfl⟩
    exact List.mem_map.mpr ⟨item.evidence, carried, identity⟩

theorem exists_candidate {source : PredictionSource} (member : source ∈ call.sources)
    (active : source.Active) :
    ∃ candidate ∈ candidates, candidate.contextKey = source.key := by
  obtain ⟨item, present, key, isActive, _, _⟩ := sourced.exists_item member
  have among : source.key ∈ candidates.map fun candidate => candidate.contextKey := by
    rw [sourced.contextKeys, mem_sortOn]
    refine Dict.mem_keys_grouped.mpr (List.mem_map.mpr ⟨(item.key, item.evidence), ?_, key⟩)
    exact mem_activeEntries.mpr
      ⟨item, present, isActive.trans (decide_eq_true active), rfl, rfl⟩
  exact List.mem_map.mp among

theorem space_eq {candidate : ContextPredictionCandidate digest}
    (among : candidate ∈ candidates) :
    (candidate.namespaceType, candidate.namespaceId) = call.request.space := by
  obtain ⟨_, _, content, _⟩ := sourced.exists_key among
  rw [content]
  rfl

theorem length_le : candidates.length ≤ maxPredictionCandidates := by
  have keys := congrArg List.length sourced.contextKeys
  rw [List.length_map, length_sortOn, Dict.length_keys_grouped] at keys
  exact keys ▸ sourced.room

theorem traced : Traced call candidates where
  ordered := sourced.ordered
  active := by
    intro source member active
    obtain ⟨candidate, among, context⟩ := sourced.exists_candidate member active
    obtain ⟨item, present, key, isActive, identity, gives⟩ := sourced.exists_item member
    have carried : item.evidence ∈ candidate.sourceEvidence :=
      (sourced.mem_sourceEvidence_iff among).mpr
        ⟨item, present, isActive.trans (decide_eq_true active), key.trans context.symm, rfl⟩
    refine ⟨candidate, among, context, ⟨item.evidence, carried, gives⟩, ?_, ?_⟩
    · exact List.count_eq_one_of_mem candidate.valid.distinct
        (List.mem_map.mpr ⟨item.evidence, carried, identity⟩)
    · intro other otherAmong cited
      have same := ((sourced.identity_mem_iff member otherAmong).mp cited).2
      exact sourced.eq_of_contextKey otherAmong among (same.symm.trans context.symm)
  inactive := fun source member inactive candidate among cited =>
    inactive ((sourced.identity_mem_iff member among).mp cited).1
  evidence := by
    intro candidate among evidence carried
    obtain ⟨item, present, active, key, rfl⟩ := (sourced.mem_sourceEvidence_iff among).mp carried
    obtain ⟨source, faithful⟩ := sourced.origin item present
    exact ⟨item.source, source, of_decide_eq_true (faithful.active.symm.trans active),
      faithful.key.symm.trans key, faithful.evidence⟩
  conflict := by
    intro candidate among
    obtain ⟨key, _, content, carried⟩ := sourced.exists_key among
    rw [congrArg CandidateContent.conflictPresent content, carried]
    simp [candidateContent]
  sequence := by
    intro candidate among
    obtain ⟨key, present, content, carried⟩ := sourced.exists_key among
    have latest := congrArg CandidateContent.creationSequence content
    have given : Dict.valuesOf (activeEntries kept) key ≠ [] := by
      obtain ⟨entry, inside, rfl⟩ := List.mem_map.mp present
      exact List.ne_nil_of_mem (Dict.mem_valuesOf.mpr inside)
    rw [latest, carried]
    simp only [mem_sortOn, candidateContent]
    refine ⟨List.mem_map.mp (latest_mem (by simpa using given)), fun evidence member => ?_⟩
    exact List.le_max_of_le (List.mem_map_of_mem member) le_rfl

end Sourced

end Tracing

end ContextPrediction
end MercuryX
