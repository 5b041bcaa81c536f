import MercuryX.ContextPrediction.Candidates

/-!
# Withdrawn context in predictions

Expiring, revoking or tombstoning a record makes a further record of that lifecycle. A prediction
never cites the further record. Whether it cites the record that was withdrawn is a matter of the
lifecycle under which that record itself stands in the store, which the withdrawal leaves alone.
-/

namespace MercuryX
namespace ContextPrediction

open Foundation GlobalMemory

variable {digest : Digest}

/-! ## Small stores -/

section Answered

variable {request : ContextPredictionRequest} {store : GlobalContextStore}

theorem valuesOf_activeEntries_sublist (kept : List Adapted) (key : String) :
    (Dict.valuesOf (activeEntries kept) key).Sublist (kept.map fun item => item.evidence) := by
  have active : ((activeEntries kept).map Prod.snd).Sublist
      (kept.map fun item => item.evidence) := by
    rw [activeEntries, List.map_map]
    exact List.filter_sublist.map _
  exact (List.filter_sublist.map Prod.snd).trans active

theorem identities_of_adapted {records : List GlobalContextRecord} {items : List Adapted}
    (made : records.mapM (globalSource request) = .ok items) :
    items.map (fun item => item.evidence.identity) =
      records.map fun record => (SourceKind.global, record.globalRecordId) := by
  refine map_of_mapM_eq_ok (fun record item outcome => ?_) made
  obtain ⟨_, _, rfl⟩ := globalSource_eq_ok_iff.mp outcome
  rfl

/-- Adapted global records rest on the session records of their lineage only. -/
theorem phase8Ids_inside {records : List GlobalContextRecord} {items : List Adapted}
    (made : records.mapM (globalSource request) = .ok items)
    {sources : List ContextPredictionSourceEvidence}
    (inside : sources ⊆ items.map fun item => item.evidence) :
    phase8IdsOf sources ⊆ records.flatMap fun record => record.sourcePhase8RecordIds := by
  have origin {evidence : ContextPredictionSourceEvidence} (source : evidence ∈ sources) :
      ∃ record ∈ records, ∃ valid, .make (globalEvidence record) valid = evidence := by
    obtain ⟨item, member, rfl⟩ := List.mem_map.mp (inside source)
    obtain ⟨record, among, outcome⟩ := (mem_of_mapM_eq_ok made).mp member
    obtain ⟨_, valid, rfl⟩ := globalSource_eq_ok_iff.mp outcome
    exact ⟨record, among, valid, rfl⟩
  intro recordId cited
  rcases List.mem_append.mp cited with own | inherited
  · obtain ⟨evidence, source, same⟩ := mem_recordIdsOf.mp own
    obtain ⟨_, _, _, rfl⟩ := origin source
    exact absurd (congrArg Prod.fst same) nofun
  · obtain ⟨evidence, source, member⟩ := List.mem_flatMap.mp inherited
    obtain ⟨record, among, _, rfl⟩ := origin source
    exact List.mem_flatMap.mpr ⟨record, among, (mem_canonical id).mp member⟩

/-- A request on an open namespace is answered from a store of this namespace alone, when all its
records give evidence and they are few. -/
theorem exists_candidates (certified : Certified store) (isOpen : store.closedNamespaces = [])
    (adapted : ∀ record ∈ store.records,
      record.space = request.space ∧ (globalEvidence record).Valid)
    (few : store.records.length +
      (store.records.flatMap fun record => record.sourcePhase8RecordIds).length ≤
        maxSourceRecordsPerPrediction) :
    ∃ candidates, buildPredictionCandidates digest { request, globalStore := some store } =
      .ok candidates := by
  obtain ⟨items, made⟩ : ∃ items, store.records.mapM (globalSource request) = .ok items := by
    refine exists_mapM_eq_ok fun record member => ?_
    obtain ⟨inSpace, valid⟩ := adapted record member
    exact ⟨_, globalSource_eq_ok_iff.mpr ⟨inSpace, valid, rfl⟩⟩
  have identities := identities_of_adapted made
  have distinct : (items.map fun item => item.evidence.identity).Nodup := by
    rw [identities, List.Nodup, List.pairwise_map]
    exact (List.pairwise_map.mp certified.records.unique).imp
      fun apart same => apart (congrArg Prod.snd same)
  have length_items : items.length = store.records.length := by
    simpa using congrArg List.length identities
  have room : ((activeEntries items).map Prod.fst).dedup.length ≤ maxPredictionCandidates := by
    calc ((activeEntries items).map Prod.fst).dedup.length
        ≤ ((activeEntries items).map Prod.fst).length := (List.dedup_sublist _).length_le
      _ ≤ items.length := by
          rw [activeEntries, List.length_map, List.length_map]
          exact List.length_filter_le _ _
      _ ≤ maxSourceRecordsPerPrediction := by omega
      _ ≤ maxPredictionCandidates := by decide
  obtain ⟨final, gathered, held⟩ := exists_gather Gathered.holds_empty
    (mapM_eq_ok_iff_forall₂.mp made) distinct room
  obtain ⟨candidates, answered⟩ : ∃ candidates, (sortOn Prod.fst final.grouped.entries).mapM
      (predictionCandidate digest request) = .ok candidates := by
    refine exists_mapM_eq_ok fun entry member => ?_
    obtain ⟨key, sources⟩ := entry
    rw [mem_sortOn, held.grouped, List.nil_append, Dict.mem_entries_grouped] at member
    obtain ⟨present, rfl⟩ := member
    obtain ⟨⟨_, evidence⟩, inside, rfl⟩ := List.mem_map.mp present
    obtain ⟨item, among, _, rfl, _⟩ := mem_activeEntries.mp inside
    obtain ⟨record, _, outcome⟩ := (mem_of_mapM_eq_ok made).mp among
    have sublist := valuesOf_activeEntries_sublist items item.key
    refine exists_predictionCandidate ?_ (List.ne_nil_of_mem (Dict.mem_valuesOf.mpr inside)) ?_ ?_
    · obtain ⟨_, _, rfl⟩ := globalSource_eq_ok_iff.mp outcome
      exact record.texts_nonblank record.contextKey (by simp)
    · refine distinct.sublist ?_
      rw [show (fun item : Adapted => item.evidence.identity) =
        ContextPredictionSourceEvidence.identity ∘ fun item => item.evidence from rfl,
        ← List.map_map]
      exact sublist.map _
    · have own : (recordIdsOf .global (Dict.valuesOf (activeEntries items) item.key)).length ≤
          store.records.length := by
        rw [recordIdsOf, List.length_map, ← length_items]
        exact (List.length_filter_le _ _).trans (by simpa using sublist.length_le)
      have inherited := (List.nodup_dedup _).subperm fun recordId cited =>
        phase8Ids_inside made sublist.subset (List.mem_dedup.mp cited)
      exact (Nat.add_le_add own inherited.length_le).trans few
  refine ⟨candidates, ?_⟩
  have records : predictableRecords request store = .ok store.records := by
    have named : Text.Nonblank request.namespaceId :=
      request.texts_nonblank request.namespaceId (by simp)
    simp [predictableRecords, isOpen, forEach, GlobalContextStore.isNamespaceClosed,
      validateNamespaceIdentity, named]
  simp [buildPredictionCandidates, forEach, records, gathered, answered, require_of_true]

end Answered

/-! ## Withdrawal -/

/-- What the withdrawal of a record means for the candidates of a store. -/
structure WithdrawalLaw (store : GlobalContextStore) (record successor : GlobalContextRecord)
    (candidates : List (ContextPredictionCandidate digest)) : Prop where
  /-- The record that the withdrawal made is not cited. -/
  withheld : ∀ candidate ∈ candidates,
    successor.globalRecordId ∉ candidate.sourceGlobalRecordIds
  /-- The withdrawn record is cited exactly when it stands in the store as active. -/
  cited : (∃ candidate ∈ candidates, record.globalRecordId ∈ candidate.sourceGlobalRecordIds) ↔
    ∃ stored ∈ store.records, stored.globalRecordId = record.globalRecordId ∧
      stored.lifecycle = .active
  /-- Whatever is cited stands in the store as active. -/
  active : ∀ candidate ∈ candidates, ∀ recordId ∈ candidate.sourceGlobalRecordIds,
    ∃ stored ∈ store.records, stored.globalRecordId = recordId ∧ stored.lifecycle = .active

/-- In every store that a run reaches, a registered withdrawal is not cited, and the record it
withdraws is cited by the lifecycle under which it is stored. -/
theorem withdrawalLaw {store : GlobalContextStore} {record successor : GlobalContextRecord}
    {call : PredictionCall} {candidates : List (ContextPredictionCandidate digest)}
    (reach : machine.Reachable .empty store) (withdrawn : Withdrawn digest record successor)
    (registered : successor ∈ store.records) (given : call.globalStore = some store)
    (outcome : buildPredictionCandidates digest call = .ok candidates) :
    WithdrawalLaw store record successor candidates where
  withheld := by
    intro candidate member cited
    obtain ⟨stored, inside, same, active⟩ :=
      (cited_iff_active given outcome).mp ⟨candidate, member, cited⟩
    have certified := certified_of_reachable reach certified_empty
    obtain rfl := Registry.eq_of_identity_eq certified.records.unique inside registered same
    exact withdrawn.not_active active
  cited := cited_iff_active given outcome
  active := by
    intro candidate member recordId cited
    exact (cited_iff_active given outcome).mp ⟨candidate, member, cited⟩

/-! ## A revoked record -/

section Sample

variable (digest)

/-- A request on the sample project. -/
def projectRequest : ContextPredictionRequest where
  namespaceType := .project
  namespaceId := "p"
  authorizedNamespaceType := .project
  authorizedNamespaceId := "p"
  predictorId := "predictor"
  predictorVersion := "1"
  texts_nonblank := by decide
  limit_bounds := by decide
  authorized := rfl

/-- A call for candidates from the store with the record and its revocation. -/
def projectCall : PredictionCall where
  request := projectRequest
  globalStore := some (sampleNext digest)

theorem mem_sampleNext {record : GlobalContextRecord} :
    record ∈ (sampleNext digest).records ↔
      record = sampleRevoked digest ∨ record = sampleContext := by
  have certified := certified_of_reachable sampleStore_reachable certified_empty
  rw [← List.mem_singleton (b := sampleContext)]
  exact Registry.mem_entered certified.records.unique (sampleRevoked_free digest)

theorem registrations_reach_sampleNext :
    machine.run .empty ([ownRegistration sampleContext,
      ownRegistration (sampleRevoked digest)].map .register) = sampleNext digest := by
  have first : GlobalContextStore.apply .empty (.register (ownRegistration sampleContext)) =
      .ok sampleStore := by decide
  rw [List.map_cons, Machine.run_cons, List.map_cons, Machine.run_cons, List.map_nil,
    Machine.run_nil]
  have firstAfter : machine.after .empty (.register (ownRegistration sampleContext)) =
      sampleStore := Machine.ofFunction_after first
  rw [firstAfter]
  exact Machine.ofFunction_after (sampleNext_registered digest)

theorem globalEvidence_valid {record : GlobalContextRecord}
    (member : record ∈ (sampleNext digest).records) : (globalEvidence record).Valid := by
  have sources : record.sourcePhase8RecordIds = ["m"] ∧ record.sourceArtifactIds = ["a"] ∧
      record.provenance = ["e"] := by
    rcases (mem_sampleNext digest).mp member with rfl | rfl
    · exact ⟨rfl, rfl, rfl⟩
    · exact ⟨rfl, rfl, rfl⟩
  obtain ⟨phase8, artifacts, provenance⟩ := sources
  refine ⟨?_, ⟨record.recordVersion_pos, record.creationSequence_pos⟩, ?_, ?_, ?_, nofun⟩
  · have texts := record.texts_nonblank
    simp only [List.mem_cons, List.not_mem_nil, or_false, forall_eq_or_imp, forall_eq] at texts
    simp [globalEvidence, texts]
  · simp [globalEvidence, artifacts, provenance]
  · have visible : ∀ texts ∈ [["a"], ["m"], ["e"]], ∀ text ∈ texts, Text.Nonblank text := by
      decide
    simpa only [globalEvidence, phase8, artifacts, provenance] using visible
  · simp [globalEvidence, phase8]

theorem projectCall_answered :
    ∃ candidates, buildPredictionCandidates digest (projectCall digest) = .ok candidates := by
  have before := certified_of_reachable sampleStore_reachable certified_empty
  have reach : machine.Reachable .empty (sampleNext digest) :=
    ⟨_, registrations_reach_sampleNext digest⟩
  refine exists_candidates (certified_of_reachable reach certified_empty) rfl ?_ ?_
  · intro record member
    refine ⟨?_, globalEvidence_valid digest member⟩
    rcases (mem_sampleNext digest).mp member with rfl | rfl
    · rfl
    · rfl
  · have few : (sampleNext digest).records.length ≤ 1 + 1 :=
      Registry.length_entered_le before.records.unique (sampleRevoked_free digest)
    have single : ((sampleNext digest).records.flatMap fun record =>
        record.sourcePhase8RecordIds).length = (sampleNext digest).records.length := by
      rw [List.length_flatMap, List.map_congr_left (g := fun _ => 1), List.map_const',
        List.sum_replicate, smul_eq_mul, mul_one]
      intro record member
      rcases (mem_sampleNext digest).mp member with rfl | rfl
      · rfl
      · rfl
    rw [single]
    exact (Nat.add_le_add few few).trans (by decide)

end Sample

/-- The withdrawn record stays cited once its revocation is registered. -/
theorem withdrawalLaw_revoked : ∃ candidates,
    buildPredictionCandidates Digest.sha256 (projectCall Digest.sha256) = .ok candidates ∧
      WithdrawalLaw (sampleNext Digest.sha256) sampleContext (sampleRevoked Digest.sha256)
        candidates := by
  obtain ⟨candidates, outcome⟩ := projectCall_answered Digest.sha256
  refine ⟨candidates, outcome, withdrawalLaw ?_
    (.revoked sampleCall (sampleRevoked_made Digest.sha256)) ?_ rfl outcome⟩
  · exact ⟨_, registrations_reach_sampleNext Digest.sha256⟩
  · exact (mem_sampleNext Digest.sha256).mpr (.inl rfl)

/-- Records with a registered withdrawal are not cited. -/
def WithdrawnNeverPredicts (digest : Digest) : Prop :=
  ∀ (registrations : List Registration) (record successor : GlobalContextRecord)
    (call : PredictionCall) (candidates : List (ContextPredictionCandidate digest)),
    Withdrawn digest record successor →
    successor ∈ (machine.run .empty (registrations.map .register)).records →
    call.globalStore = some (machine.run .empty (registrations.map .register)) →
    call.request.space = record.space → buildPredictionCandidates digest call = .ok candidates →
    ∀ candidate ∈ candidates, record.globalRecordId ∉ candidate.sourceGlobalRecordIds

/-- A record with a registered revocation is still cited. -/
theorem revoked_still_predicts : ¬ WithdrawnNeverPredicts Digest.sha256 := by
  intro never
  obtain ⟨candidates, outcome⟩ := projectCall_answered Digest.sha256
  obtain ⟨candidate, member, cited⟩ : ∃ candidate ∈ candidates,
      sampleContext.globalRecordId ∈ candidate.sourceGlobalRecordIds :=
    (cited_iff_active rfl outcome).mpr
      ⟨sampleContext, (mem_sampleNext Digest.sha256).mpr (.inr rfl), rfl, rfl⟩
  have same := registrations_reach_sampleNext Digest.sha256
  refine never _ _ (sampleRevoked Digest.sha256) _ candidates
    (.revoked sampleCall (sampleRevoked_made Digest.sha256)) ?_ (congrArg some same.symm) rfl
    outcome candidate member cited
  rw [same]
  exact (mem_sampleNext Digest.sha256).mpr (.inl rfl)

end ContextPrediction
end MercuryX
