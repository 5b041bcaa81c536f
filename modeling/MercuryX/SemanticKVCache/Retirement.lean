import MercuryX.SemanticKVCache.Governance
import MercuryX.SemanticKVCache.Lookup

/-!
# Retirement of cache entries

A successor is a further entry beside the entry it succeeds, and a look-up goes by the state of
each entry alone. Registering a successor therefore takes nothing out of reuse: an entry is never
returned again exactly when, in every look-up it is reusable for, as many others stand before it
as the look-up returns at most.
-/

namespace MercuryX
namespace SemanticKVCache

open Foundation GlobalMemory

/-! ## Rivals -/

/-- The other entry is reusable, in the same mode or a better one, wherever the entry is, and
stands before it. -/
structure Rival (entry other : SemanticKVCacheEntry) : Prop where
  /-- Both are of one namespace. -/
  space : other.space = entry.space
  /-- The rival is active. -/
  active : other.state = .active
  /-- Both have one semantic key. -/
  semanticKey : other.semanticKey = entry.semanticKey
  /-- Both have one fingerprint. -/
  fingerprint : other.semanticFingerprint = entry.semanticFingerprint
  /-- The rival has a payload of the same form where the entry has one. -/
  physical : entry.payload ≠ none → other.physicalFields = entry.physicalFields ∧
    other.contextGeneration = entry.contextGeneration ∧ other.payload ≠ none
  /-- The rival stands before the entry. -/
  before : other.orderKey < entry.orderKey

instance (entry other : SemanticKVCacheEntry) : Decidable (Rival entry other) :=
  decidable_of_iff
    (other.space = entry.space ∧ other.state = .active ∧ other.semanticKey = entry.semanticKey ∧
      other.semanticFingerprint = entry.semanticFingerprint ∧
      (entry.payload ≠ none → other.physicalFields = entry.physicalFields ∧
        other.contextGeneration = entry.contextGeneration ∧ other.payload ≠ none) ∧
      other.orderKey < entry.orderKey)
    ⟨fun ⟨space, active, semanticKey, fingerprint, physical, before⟩ =>
      ⟨space, active, semanticKey, fingerprint, physical, before⟩,
    fun ⟨space, active, semanticKey, fingerprint, physical, before⟩ =>
      ⟨space, active, semanticKey, fingerprint, physical, before⟩⟩

/-- The hint, if any, is a prediction of the entry. -/
def Hints (hint : Option String) (entry : SemanticKVCacheEntry) : Prop :=
  ∀ id ∈ hint, id ∈ entry.sourcePredictionIds

instance (hint : Option String) (entry : SemanticKVCacheEntry) : Decidable (Hints hint entry) := by
  unfold Hints
  infer_instance

/-- Without a hint, and with each prediction of the entry as the hint, the store has as many rivals
with that hint as a look-up returns at most. -/
def CrowdedOut (store : SemanticKVCacheStore) (entry : SemanticKVCacheEntry) : Prop :=
  ∀ hint, Hints hint entry →
    maxCacheLookupResults ≤ store.entries.countP fun other => Rival entry other ∧ Hints hint other

/-- In every store that further registrations reach, the entry is stored and no look-up returns
it. -/
def Retired (store : SemanticKVCacheStore) (entry : SemanticKVCacheEntry) : Prop :=
  ∀ later, machine.Reachable store later → entry ∈ later.entries ∧
    ∀ request predictionIds result, lookupSemanticKVCache request later predictionIds = .ok result →
      ∀ found ∈ result.matches, found.entry ≠ entry

/-! ## Rivals stand before an entry -/

section Order

variable {request : SemanticKVLookupRequest} {entry other : SemanticKVCacheEntry}
  {hints : List String}

theorem key_lt_iff : (evaluated request other).key hints < (evaluated request entry).key hints ↔
    reuseOrder (evaluated request other).compatibility.reuseMode <
        reuseOrder (evaluated request entry).compatibility.reuseMode ∨
      reuseOrder (evaluated request other).compatibility.reuseMode =
        reuseOrder (evaluated request entry).compatibility.reuseMode ∧
      (hinted hints other < hinted hints entry ∨
        hinted hints other = hinted hints entry ∧ other.orderKey < entry.orderKey) := by
  rw [SemanticKVLookupMatch.key, SemanticKVLookupMatch.key, Prod.Lex.toLex_lt_toLex,
    Prod.Lex.toLex_lt_toLex]
  rfl

/-- A reusable entry ranks first when it is physically equal and second otherwise. -/
theorem reuseOrder_of_reusable (reusable : Reusable request entry) :
    reuseOrder (evaluated request entry).compatibility.reuseMode = 0 ↔
      PhysicallyEqual request entry := by
  have decided := decided_evaluate request entry
  rw [← and_iff_right (b := PhysicallyEqual request entry) reusable, ← decided.exact]
  cases mode : (evaluateSemanticKVCompatibility request entry).reuseMode <;>
    simp [evaluated, mode, reuseOrder]

theorem reuseOrder_le_one (reusable : Reusable request entry) :
    reuseOrder (evaluated request entry).compatibility.reuseMode ≤ 1 := by
  have reused := (decided_evaluate request entry).reused.mpr reusable
  cases mode : (evaluateSemanticKVCompatibility request entry).reuseMode with
  | exact => simp [evaluated, mode, reuseOrder]
  | semanticCompatible => simp [evaluated, mode, reuseOrder]
  | noReuse => exact absurd mode reused

theorem Rival.reusable (rival : Rival entry other) (reusable : Reusable request entry) :
    Reusable request other where
  space := rival.space.trans reusable.space
  active := rival.active
  semanticKey := rival.semanticKey.trans reusable.semanticKey
  fingerprint fingerprint requested :=
    rival.fingerprint.trans (reusable.fingerprint fingerprint requested)

theorem Rival.physicallyEqual (rival : Rival entry other) (equal : PhysicallyEqual request entry) :
    PhysicallyEqual request other := by
  obtain ⟨fields, generation, payload⟩ := rival.physical equal.payload
  exact ⟨fields.trans equal.fields, equal.complete, generation.trans equal.generation, payload⟩

/-- A rival that is hinted where the entry is stands before it. -/
theorem Rival.key_lt (rival : Rival entry other) (reusable : Reusable request entry)
    (hint : hinted hints other ≤ hinted hints entry) :
    (evaluated request other).key hints < (evaluated request entry).key hints := by
  have mode : reuseOrder (evaluated request other).compatibility.reuseMode ≤
      reuseOrder (evaluated request entry).compatibility.reuseMode := by
    by_cases equal : PhysicallyEqual request entry
    · rw [(reuseOrder_of_reusable (rival.reusable reusable)).mpr (rival.physicallyEqual equal)]
      exact Nat.zero_le _
    · have second := mt (reuseOrder_of_reusable reusable).mp equal
      have first := reuseOrder_le_one (rival.reusable reusable)
      omega
  rw [key_lt_iff]
  rcases mode.lt_or_eq with better | same
  · exact .inl better
  · exact .inr ⟨same, hint.lt_or_eq.imp id fun same => ⟨same, rival.before⟩⟩

/-- Whatever the hints of a look-up, no hint or one prediction of the entry makes hinted what the
hints do. -/
theorem exists_hint (entry : SemanticKVCacheEntry) (hints : List String) :
    ∃ hint, Hints hint entry ∧ ∀ other, Hints hint other →
      hinted hints other ≤ hinted hints entry := by
  by_cases shared : ∃ id ∈ entry.sourcePredictionIds, id ∈ hints
  · obtain ⟨id, own, given⟩ := shared
    refine ⟨some id, ?_, fun other shares => ?_⟩
    · rintro _ ⟨⟩
      exact own
    · rw [hinted, if_pos ⟨id, shares id rfl, given⟩]
      exact Nat.zero_le _
  · refine ⟨none, by rintro _ ⟨⟩, fun other _ => ?_⟩
    rw [hinted, hinted, if_neg shared]
    split <;> omega

/-- An entry that is crowded out is not among the matches of any look-up. -/
theorem not_returned_of_crowdedOut {store later : SemanticKVCacheStore}
    (grown : store.entries <+: later.entries) (crowded : CrowdedOut store entry)
    {predictionIds : List String} {result : SemanticKVLookupResult}
    (outcome : lookupSemanticKVCache request later predictionIds = .ok result)
    {found : SemanticKVLookupMatch} (member : found ∈ result.matches) : found.entry ≠ entry := by
  rintro rfl
  rw [← (lookup_eq_ok_iff.mp outcome).2] at member
  have same := (mem_candidates.mp ((mem_sortOn _).mp (List.mem_of_mem_take member))).2.2
  rw [same] at member
  obtain ⟨_, reusable, few⟩ := mem_take_ordered_iff.mp member
  obtain ⟨hint, own, leading⟩ := exists_hint found.entry (canonical id predictionIds)
  refine absurd few (not_lt.mpr ?_)
  calc request.limit
      ≤ maxCacheLookupResults := request.limit_bounds.2
    _ ≤ store.entries.countP fun other => Rival found.entry other ∧ Hints hint other :=
      crowded hint own
    _ ≤ later.entries.countP fun other => Rival found.entry other ∧ Hints hint other :=
      grown.sublist.countP_le
    _ ≤ _ := by
      refine List.countP_mono_left fun other _ rival => ?_
      obtain ⟨ahead, shares⟩ := of_decide_eq_true rival
      exact decide_eq_true ⟨ahead.reusable reusable, ahead.key_lt reusable (leading other shares)⟩

end Order

/-! ## The request that favours an entry -/

section Favour

/-- The request that an entry answers best: of its fingerprint, and of its physical form where it
has a payload. -/
def requestFor (entry : SemanticKVCacheEntry) : SemanticKVLookupRequest where
  namespaceType := entry.namespaceType
  namespaceId := entry.namespaceId
  authorizedNamespaceType := entry.namespaceType
  authorizedNamespaceId := entry.namespaceId
  semanticKey := entry.semanticKey
  semanticFingerprint := some entry.semanticFingerprint
  modelId := entry.payload.bind fun _ => entry.modelId
  modelVersion := entry.payload.bind fun _ => entry.modelVersion
  tokenizerId := entry.payload.bind fun _ => entry.tokenizerId
  attentionLayout := entry.payload.bind fun _ => entry.attentionLayout
  kvFormat := entry.payload.bind fun _ => entry.kvFormat
  precision := entry.payload.bind fun _ => entry.precision
  contextGeneration := entry.contextGeneration
  texts_nonblank := by
    have visible := entry.texts_nonblank
    simp only [List.forall_mem_cons] at visible ⊢
    exact ⟨visible.2.1, visible.2.1, visible.2.2.1, nofun⟩
  optional_nonblank := by
    have visible := entry.texts_nonblank
    have optional := entry.optional_nonblank
    simp only [List.forall_mem_cons, Option.mem_def, Option.bind_eq_some_iff] at visible optional ⊢
    obtain ⟨modelId, modelVersion, tokenizerId, attentionLayout, kvFormat, precision, _⟩ := optional
    refine ⟨?_, ?_, ?_, ?_, ?_, ?_, ?_, nofun⟩
    · rintro _ ⟨⟩
      exact visible.2.2.2.1
    · exact fun text ⟨_, _, given⟩ => modelId text given
    · exact fun text ⟨_, _, given⟩ => modelVersion text given
    · exact fun text ⟨_, _, given⟩ => tokenizerId text given
    · exact fun text ⟨_, _, given⟩ => attentionLayout text given
    · exact fun text ⟨_, _, given⟩ => kvFormat text given
    · exact fun text ⟨_, _, given⟩ => precision text given
  contextGeneration_pos := entry.counters_pos _ (by simp)
  limit_bounds := by decide
  authorized := ⟨rfl, rfl⟩

variable {entry other : SemanticKVCacheEntry}

theorem requestFor_physicalFields (given : entry.payload ≠ none) :
    (requestFor entry).physicalFields = entry.physicalFields := by
  obtain ⟨payload, present⟩ := Option.ne_none_iff_exists'.mp given
  simp [requestFor, SemanticKVLookupRequest.physicalFields, SemanticKVCacheEntry.physicalFields,
    present]

theorem reusable_requestFor (active : entry.state = .active) :
    Reusable (requestFor entry) entry where
  space := rfl
  active := active
  semanticKey := rfl
  fingerprint _ requested := Option.some_inj.mp requested

/-- An entry with a payload is physically equal to what its own request asks for. -/
theorem physicallyEqual_requestFor (given : entry.payload ≠ none) :
    PhysicallyEqual (requestFor entry) entry where
  fields := (requestFor_physicalFields given).symm
  complete := by
    rw [requestFor_physicalFields given]
    exact entry.payload_complete given
  generation := rfl
  payload := given

/-- What stands before an entry in the look-up that favours it is a rival. -/
theorem rival_of_key_lt {hint : Option String} (active : entry.state = .active)
    (own : Hints hint entry) (reusable : Reusable (requestFor entry) other)
    (before : (evaluated (requestFor entry) other).key hint.toList <
      (evaluated (requestFor entry) entry).key hint.toList) :
    Rival entry other ∧ Hints hint other := by
  have ownReusable := reusable_requestFor active
  have physical (given : entry.payload ≠ none) : PhysicallyEqual (requestFor entry) other := by
    have first := (reuseOrder_of_reusable ownReusable).mpr (physicallyEqual_requestFor given)
    rw [← reuseOrder_of_reusable reusable]
    rw [key_lt_iff] at before
    omega
  have same : reuseOrder (evaluated (requestFor entry) other).compatibility.reuseMode =
      reuseOrder (evaluated (requestFor entry) entry).compatibility.reuseMode := by
    by_cases given : entry.payload = none
    · have incomplete (any : SemanticKVCacheEntry) : ¬ PhysicallyEqual (requestFor entry) any :=
        fun equal => equal.complete none (by
          simp [requestFor, SemanticKVLookupRequest.physicalFields, given]) rfl
      have otherSecond := mt (reuseOrder_of_reusable reusable).mp (incomplete other)
      have second := mt (reuseOrder_of_reusable ownReusable).mp (incomplete entry)
      have otherBound := reuseOrder_le_one reusable
      have bound := reuseOrder_le_one ownReusable
      omega
    · rw [(reuseOrder_of_reusable reusable).mpr (physical given),
        (reuseOrder_of_reusable ownReusable).mpr (physicallyEqual_requestFor given)]
  rw [key_lt_iff, same, or_iff_right (lt_irrefl _), and_iff_right rfl] at before
  have hinting : Hints hint other ∧ other.orderKey < entry.orderKey := by
    cases hint with
    | none =>
        have unhinted (any : SemanticKVCacheEntry) :
            hinted (none : Option String).toList any = 1 := by
          simp [hinted]
        rw [unhinted, unhinted] at before
        exact ⟨by rintro _ ⟨⟩, before.elim (absurd · (lt_irrefl _)) And.right⟩
    | some id =>
        have first : hinted (some id).toList entry = 0 := by
          simpa [hinted] using own id rfl
        rw [first] at before
        obtain ⟨zero, ahead⟩ := before.resolve_left (Nat.not_lt_zero _)
        have shares : id ∈ other.sourcePredictionIds := by
          simpa [hinted] using zero
        refine ⟨?_, ahead⟩
        rintro _ ⟨⟩
        exact shares
  refine ⟨⟨reusable.space, reusable.active, reusable.semanticKey, reusable.fingerprint _ rfl, ?_,
    hinting.2⟩, hinting.1⟩
  intro given
  have equal := physical given
  exact ⟨equal.fields.trans (requestFor_physicalFields given), equal.generation, equal.payload⟩

end Favour

/-! ## Registered successors -/

section Succession

variable {store next : SemanticKVCacheStore} {entry successor : SemanticKVCacheEntry}
  {registration : Registration}

/-- What is crowded out stays retired whatever is registered. -/
theorem retired_of_crowdedOut (member : entry ∈ store.entries)
    (registered : registerCacheEntry store registration = .ok next)
    (crowded : CrowdedOut store entry) : Retired next entry := by
  intro later reach
  have step : machine.Reachable store next := Machine.ofFunction_reachable registered
  have grown := prefix_of_reachable (step.trans reach)
  refine ⟨grown.subset member, fun request predictionIds result outcome found returned => ?_⟩
  exact not_returned_of_crowdedOut grown crowded outcome returned

/-- An active entry that is retired by registering an entry that is not active was crowded out. -/
theorem crowdedOut_of_retired (active : entry.state = .active)
    (ended : registration.entry.state ≠ .active)
    (registered : registerCacheEntry store registration = .ok next)
    (retired : Retired next entry) : CrowdedOut store entry := by
  intro hint own
  obtain ⟨kept, unreturned⟩ := retired next (.refl next)
  have visible : ∀ id ∈ hint.toList, Text.Nonblank id := by
    intro id member
    have lineage := entry.lineage_canonical entry.sourcePredictionIds (by simp)
    exact lineage.1 id (own id (Option.mem_toList.mp member))
  have hints : canonical id hint.toList = hint.toList := by cases hint <;> rfl
  obtain ⟨result, outcome⟩ : ∃ result,
      lookupSemanticKVCache (requestFor entry) next hint.toList = .ok result :=
    lookup_answers_iff.mpr visible
  have first := (lookup_eq_ok_iff.mp outcome).2
  rw [hints] at first
  by_contra few
  refine unreturned _ _ result outcome (evaluated (requestFor entry) entry) ?_ rfl
  rw [← first]
  refine mem_take_ordered_iff.mpr ⟨kept, reusable_requestFor active, ?_⟩
  refine lt_of_le_of_lt ?_ (not_le.mp few)
  have rivals (entries : List SemanticKVCacheEntry) :
      (entries.countP fun other => Reusable (requestFor entry) other ∧
        (evaluated (requestFor entry) other).key hint.toList <
          (evaluated (requestFor entry) entry).key hint.toList) ≤
      entries.countP fun other => Rival entry other ∧ Hints hint other := by
    refine List.countP_mono_left fun other _ ahead => ?_
    obtain ⟨reusable, before⟩ := of_decide_eq_true ahead
    exact decide_eq_true (rival_of_key_lt active own reusable before)
  refine (rivals next.entries).trans (le_of_eq ?_)
  rcases entries_of_register registered with ⟨same, _⟩ | appended
  · rw [same]
  · rw [appended, List.countP_append, List.countP_singleton, if_neg, Nat.add_zero]
    simp only [decide_eq_true_eq]
    exact fun both => ended both.1.active

/-- The registration of a successor retires an active entry exactly when the entry was crowded out
before. -/
theorem retired_iff_crowdedOut {digest : Digest} (member : entry ∈ store.entries)
    (active : entry.state = .active) (made : Successor digest entry successor)
    (registers : registration.entry = successor)
    (registered : registerCacheEntry store registration = .ok next) :
    Retired next entry ↔ CrowdedOut store entry := by
  have ended : registration.entry.state ≠ .active := registers ▸ made.state_ne_active
  exact ⟨crowdedOut_of_retired active ended registered, retired_of_crowdedOut member registered⟩

end Succession

/-! ## A successor that retires nothing -/

section Sample

theorem sample_metadata : ∀ field ∈ [(none : Option String), none, none, none, none, none, none],
    ∀ text ∈ field, Text.Nonblank text := by
  decide

theorem sample_counters : ∀ counter ∈ [1, 1, 1], 1 ≤ counter := by
  decide

theorem sample_sources : ([] : List String).length + ([] : List String).length +
    ([] : List String).length ≤ maxSourceRecordsPerCacheEntry := by
  decide

theorem sample_payload : (none : Option SemanticKVPayloadReference) ≠ none →
    ∀ field ∈ [(none : Option String), none, none, none, none, none], field ≠ none := by
  decide

theorem sample_valid : SemanticKVCacheState.active = .invalidated ↔
    (none : Option String) ≠ none := by
  decide

theorem withdrawn_nonblank : ∀ text ∈ some "withdrawn", Text.Nonblank text := by
  decide

theorem withdrawn_reason : SemanticKVCacheState.invalidated = .invalidated ↔
    some "withdrawn" ≠ none := by
  decide

/-- A context of a project, without a payload. -/
def sampleCacheEntry : SemanticKVCacheEntry where
  cacheEntryId := "e"
  namespaceType := .project
  namespaceId := "p"
  cacheGeneration := 1
  semanticKey := "k"
  semanticFingerprint := "f"
  creationSequence := 1
  texts_nonblank := by decide
  optional_nonblank := sample_metadata
  counters_pos := sample_counters
  lineage_canonical := by decide
  sources_bounded := sample_sources
  dependencies_bounded := by decide
  payload_complete := sample_payload
  invalidation := sample_valid

/-- The registration of the entry. -/
def sampleAdmission : Registration := ⟨sampleCacheEntry, .project, "p", none⟩

/-- The store that holds the entry. -/
def sampleStore : SemanticKVCacheStore :=
  SemanticKVCacheStore.empty.add sampleAdmission.entry List.not_mem_nil (by decide)

theorem sample_stored : sampleCacheEntry ∈ sampleStore.entries := List.mem_cons_self

theorem sampleStore_reachable : machine.Reachable .empty sampleStore := by
  have small : validateCacheMetadataSize sampleAdmission.entry = .ok () :=
    require_of_true (by decide +kernel) _
  have registered : registerCacheEntry .empty sampleAdmission = .ok sampleStore :=
    register_fresh small rfl rfl List.not_mem_nil _
  exact Machine.ofFunction_reachable registered

variable {digest : Digest}

variable (digest) in
/-- The registration of the invalidated entry. -/
def sampleRegistration : Registration where
  entry := sampleCacheEntry.transitioned digest .invalidated (some "withdrawn") withdrawn_nonblank
    withdrawn_reason
  authorizedNamespaceType := .project
  authorizedNamespaceId := "p"

theorem sample_successor :
    Successor digest sampleCacheEntry (sampleRegistration digest).entry := by
  refine .invalidated "withdrawn" (.project, "p") ?_
  simp only [invalidateCacheEntry, transition, bind_eq_ok, require_eq_ok]
  exact ⟨(), by decide, (), rfl, (), by decide, dif_pos (by decide)⟩

theorem sample_fresh (hex : ∀ payload, (digest.hexdigest payload).toList.length = 64) :
    (sampleRegistration digest).entry.cacheEntryId ∉
      sampleStore.entries.map SemanticKVCacheEntry.cacheEntryId := by
  intro member
  have same : (sampleRegistration digest).entry.cacheEntryId = "e" := List.mem_singleton.mp member
  have length : (sampleRegistration digest).entry.cacheEntryId.toList.length = 64 := hex _
  rw [same] at length
  exact absurd length (by decide)

theorem sample_small (hex : ∀ payload, (digest.hexdigest payload).toList.length = 64) :
    validateCacheMetadataSize (sampleRegistration digest).entry = .ok () := by
  refine require_of_true ?_ _
  have length : (sampleRegistration digest).entry.cacheEntryId.toList.length = 64 := hex _
  have id := Json.length_quote_le (sampleRegistration digest).entry.cacheEntryId
  rw [length] at id
  have name : (Json.quote "cache_entry_id").length = 16 := by decide
  have others : ((Json.dumpsMembers (identityMembers sampleCacheEntry .invalidated 2
      (some "withdrawn"))).map fun member =>
        (Json.quote member.1).length + member.2.length + 2).sum ≤ 2000 := by decide +kernel
  have whole := Json.length_dumps_obj_le
    (("cache_entry_id", .str (sampleRegistration digest).entry.cacheEntryId) ::
      identityMembers sampleCacheEntry .invalidated 2 (some "withdrawn"))
  simp only [Json.dumpsMembers, List.map_cons, List.sum_cons, Json.dumps, name] at whole
  exact whole.trans (by rw [maxCacheMetadataBytes]; omega)

theorem sample_room : (sampleStore.namespaceEntries
    (sampleRegistration digest).entry.space).length < maxKVCacheEntriesPerNamespace := by
  have few : (sampleStore.namespaceEntries (.project, "p")).length <
    maxKVCacheEntriesPerNamespace := by decide
  exact few

/-- The store that holds the invalidated entry besides. -/
def sampleNext (hex : ∀ payload, (digest.hexdigest payload).toList.length = 64) :
    SemanticKVCacheStore :=
  sampleStore.add (sampleRegistration digest).entry (sample_fresh hex) sample_room

theorem sampleNext_registered (hex : ∀ payload, (digest.hexdigest payload).toList.length = 64) :
    registerCacheEntry sampleStore (sampleRegistration digest) = .ok (sampleNext hex) :=
  register_fresh (sample_small hex) rfl rfl (sample_fresh hex) sample_room

/-- The entry is retired by its invalidation if and only if it was crowded out. -/
theorem retired_iff_crowdedOut_sample :
    Retired (sampleNext Digest.length_sha256) sampleCacheEntry ↔
      CrowdedOut sampleStore sampleCacheEntry :=
  retired_iff_crowdedOut sample_stored rfl sample_successor rfl
    (sampleNext_registered Digest.length_sha256)

/-- The registration of a successor retires each active entry of a store that registrations
reach. -/
def SuccessorsRetire (digest : Digest) : Prop :=
  ∀ (store next : SemanticKVCacheStore) (entry successor : SemanticKVCacheEntry)
    (registration : Registration), machine.Reachable .empty store → entry ∈ store.entries →
    entry.state = .active → Successor digest entry successor → registration.entry = successor →
    registerCacheEntry store registration = .ok next → Retired next entry

/-- A lone entry is still returned after its invalidation is registered. -/
theorem successors_do_not_retire : ¬ SuccessorsRetire Digest.sha256 := by
  intro retire
  have registered := sampleNext_registered Digest.length_sha256
  have retired : Retired (sampleNext Digest.length_sha256) sampleCacheEntry :=
    retire _ _ _ _ _ sampleStore_reachable sample_stored rfl sample_successor rfl registered
  have crowded : CrowdedOut sampleStore sampleCacheEntry :=
    crowdedOut_of_retired rfl sample_successor.state_ne_active registered retired
  have many := (crowded none (by rintro _ ⟨⟩)).trans List.countP_le_length
  exact absurd many (by decide)

end Sample

end SemanticKVCache
end MercuryX
