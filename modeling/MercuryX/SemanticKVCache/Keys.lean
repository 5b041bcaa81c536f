import MercuryX.Foundation.Layouts
import MercuryX.Foundation.Numerals
import MercuryX.SemanticKVCache.Retirement

/-!
# Keys of meanings

A semantic key digests what a cached context means: its namespace, its text and its generation, and
which records and artifacts it comes from. Where no two of the keys concerned collide, the cache is
a map from meanings: under the key of a meaning a look-up returns what was registered with that
meaning, whatever else the store took in.
-/

namespace MercuryX
namespace SemanticKVCache

open Foundation GlobalMemory

/-! ## Keys -/

/-- What a semantic key is made from. -/
structure KeyCall where
  namespaceType : GlobalMemoryNamespace
  namespaceId : String
  contextKey : String
  normalizedContext : String
  sourceRecordIds : List String := []
  sourceArtifactIds : List String := []
  contextGeneration : Int := 1

/-- The part of a call that its key covers. -/
def KeyCall.payload (call : KeyCall) : Json := .obj [
  ("namespace_type", .str call.namespaceType.value), ("namespace_id", .str call.namespaceId),
  ("context_key", .str call.contextKey), ("normalized_context", .str call.normalizedContext),
  ("source_record_ids", Json.strs (canonical id call.sourceRecordIds)),
  ("source_artifact_ids", Json.strs (canonical id call.sourceArtifactIds)),
  ("context_generation", .int call.contextGeneration)]

/-- Make a semantic key. -/
def makeSemanticCacheKey (digest : Digest) (call : KeyCall) : Except Fault String := do
  require (Text.Nonblank call.namespaceId) (.value "namespace_id must be nonblank")
  require (Text.Nonblank call.contextKey) (.value "context_key must be nonblank")
  require (Text.Nonblank call.normalizedContext) (.value "normalized_context must be nonblank")
  require (1 ≤ call.contextGeneration) (.value "context_generation must be positive")
  let recordIds := canonical id call.sourceRecordIds
  let artifactIds := canonical id call.sourceArtifactIds
  require (∀ text ∈ recordIds ++ artifactIds, Text.Nonblank text)
    (.value "semantic identity sources must be nonblank")
  return digest.hexdigest call.payload

/-! ## Meanings -/

/-- What a semantic key stands for. -/
structure Meaning where
  space : GlobalMemoryNamespace × String
  contextKey : String
  normalizedContext : String
  records : Finset String
  artifacts : Finset String
  contextGeneration : Int

/-- The meaning of a call: the order and the repetition of its sources are left out. -/
def KeyCall.meaning (call : KeyCall) : Meaning where
  space := (call.namespaceType, call.namespaceId)
  contextKey := call.contextKey
  normalizedContext := call.normalizedContext
  records := call.sourceRecordIds.toFinset
  artifacts := call.sourceArtifactIds.toFinset
  contextGeneration := call.contextGeneration

section Keys

variable {digest : Digest} {call other : KeyCall} {key otherKey : String}

theorem makeSemanticCacheKey_eq (made : makeSemanticCacheKey digest call = .ok key) :
    digest.hexdigest call.payload = key := by
  simp only [makeSemanticCacheKey, bind_eq_ok, pure_eq_ok, Except.ok.injEq] at made
  obtain ⟨_, _, _, _, _, _, _, _, _, _, same⟩ := made
  exact same

theorem canonical_eq_iff {lefts rights : List String} :
    canonical id lefts = canonical id rights ↔ lefts.toFinset = rights.toFinset := by
  rw [Finset.ext_iff]
  simp only [List.mem_toFinset]
  constructor
  · intro same text
    rw [← mem_canonical id, same, mem_canonical]
  · exact canonical_congr fun _ _ _ _ same => same

theorem payload_eq_iff : call.payload = other.payload ↔ call.meaning = other.meaning := by
  simp only [KeyCall.payload, KeyCall.meaning, Json.obj.injEq, List.cons.injEq, Prod.mk.injEq,
    Json.str.injEq, Json.int.injEq, Json.strs_injective.eq_iff, canonical_eq_iff,
    Meaning.mk.injEq, true_and, and_true, and_assoc]
  refine and_congr_left' ⟨GlobalMemoryNamespace.value_injective, fun same => ?_⟩
  rw [same]

/-- The layout of payloads. -/
def keyLayout : Json.Layout := .record [
  ("namespace_type", .scalar), ("namespace_id", .scalar), ("context_key", .scalar),
  ("normalized_context", .scalar), ("source_record_ids", .list .scalar),
  ("source_artifact_ids", .list .scalar), ("context_generation", .scalar)]

theorem distinct_keyLayout : Json.Distinct keyLayout := by
  simp [keyLayout, Json.Distinct, Json.DistinctFields]

theorem fits_payload (call : KeyCall) : Json.Fits keyLayout call.payload := by
  simp [keyLayout, KeyCall.payload, Json.Fits, Json.FitsFields, Json.IsScalar]

theorem key_eq_iff (tells : digest.Tells call.payload other.payload)
    (made : makeSemanticCacheKey digest call = .ok key)
    (otherMade : makeSemanticCacheKey digest other = .ok otherKey) :
    key = otherKey ↔ call.meaning = other.meaning := by
  rw [← makeSemanticCacheKey_eq made, ← makeSemanticCacheKey_eq otherMade, ← payload_eq_iff]
  constructor
  · exact tells.eq_of_fits distinct_keyLayout (fits_payload call) (fits_payload other)
  · intro same
    rw [same]

end Keys

/-! ## The cache as a map from meanings -/

section Runs

/-- Every entry of a run is under the key that was made of what it means. -/
def Keyed (digest : Digest) (means : SemanticKVCacheEntry → KeyCall) (ops : List Registration) :
    Prop :=
  ∀ registration ∈ ops,
    makeSemanticCacheKey digest (means registration.entry) = .ok registration.entry.semanticKey

/-- What the keys of a run and the key that is asked for are digests of. -/
def keyPayloads (means : SemanticKVCacheEntry → KeyCall) (ops : List Registration)
    (call : KeyCall) : List Json :=
  call.payload :: ops.map fun registration => (means registration.entry).payload

/-- An entry that was registered in a run answers to a meaning. -/
structure Answers (means : SemanticKVCacheEntry → KeyCall) (ops : List Registration)
    (request : SemanticKVLookupRequest) (meaning : Meaning) (entry : SemanticKVCacheEntry) :
    Prop where
  /-- The entry was registered. -/
  registered : ∃ registration ∈ machine.succeeded .empty ops, registration.entry = entry
  /-- It has the meaning. -/
  meaning_eq : (means entry).meaning = meaning
  /-- It is of the namespace that is asked. -/
  space : entry.space = request.space
  /-- It is active. -/
  active : entry.state = .active
  /-- It has the fingerprint that is asked for, if any. -/
  fingerprint : ∀ fingerprint, request.semanticFingerprint = some fingerprint →
    entry.semanticFingerprint = fingerprint

theorem mem_run_iff (ops : List Registration) (entry : SemanticKVCacheEntry) :
    entry ∈ (machine.run .empty ops).entries ↔
      ∃ registration ∈ machine.succeeded .empty ops, registration.entry = entry := by
  refine machine.run_trace (fun past (store : SemanticKVCacheStore) =>
    entry ∈ store.entries ↔ ∃ registration ∈ past, registration.entry = entry)
    .empty ops (by simp [SemanticKVCacheStore.empty]) ?_
  intro past store registration answer next held step
  have kept : entry ∈ next.entries ↔ entry ∈ store.entries ∨ registration.entry = entry := by
    rcases entries_of_register (Machine.ofFunction_step_ok.mp step) with ⟨same, present⟩ | appended
    · rw [same]
      refine ⟨.inl, fun either => either.elim id ?_⟩
      rintro rfl
      exact present
    · rw [appended, List.mem_append, List.mem_singleton, eq_comm (a := entry)]
  rw [kept, held]
  simp only [List.mem_append, List.mem_singleton, or_and_right, exists_or, exists_eq_left]

variable {digest : Digest} {means : SemanticKVCacheEntry → KeyCall} {ops : List Registration}
  {request : SemanticKVLookupRequest} {call : KeyCall}

theorem answers_iff (free : digest.CollisionFreeOn (keyPayloads means ops call))
    (keyed : Keyed digest means ops)
    (asked : makeSemanticCacheKey digest call = .ok request.semanticKey)
    {entry : SemanticKVCacheEntry} :
    entry ∈ (machine.run .empty ops).entries ∧ Reusable request entry ↔
      Answers means ops request call.meaning entry := by
  rw [mem_run_iff]
  have same_key (registered : ∃ registration ∈ machine.succeeded .empty ops,
      registration.entry = entry) :
      entry.semanticKey = request.semanticKey ↔ (means entry).meaning = call.meaning := by
    obtain ⟨registration, succeeded, rfl⟩ := registered
    obtain ⟨front, back, rfl, _⟩ := machine.mem_succeeded_iff.mp succeeded
    have tells : digest.Tells (means registration.entry).payload call.payload :=
      free _ (by simp [keyPayloads]) _ (by simp [keyPayloads])
    exact key_eq_iff tells (keyed registration (by simp)) asked
  constructor
  · rintro ⟨registered, reusable⟩
    exact ⟨registered, (same_key registered).mp reusable.semanticKey, reusable.space,
      reusable.active, reusable.fingerprint⟩
  · intro answers
    exact ⟨answers.registered, answers.space, answers.active,
      (same_key answers.registered).mpr answers.meaning_eq, answers.fingerprint⟩

/-- The matches depend on the reusable entries alone, and not on their order. -/
theorem ordered_eq_of_reusable {store other : SemanticKVCacheStore}
    (same : ∀ entry, Reusable request entry → (entry ∈ store.entries ↔ entry ∈ other.entries))
    (hints : List String) : ordered request store hints = ordered request other hints := by
  have perm : (candidates request store).Perm (candidates request other) := by
    refine (List.perm_ext_iff_of_nodup candidates_nodup candidates_nodup).mpr fun found => ?_
    simp only [mem_candidates]
    exact and_congr_left fun ⟨reusable, _⟩ => same found.entry reusable
  exact sortOn_eq_of_perm candidates_separates perm

variable (digest means ops) in
/-- What a look-up under the key of a meaning returns after a run without a collision between the
keys. -/
structure KeyedLaw : Prop where
  /-- Whatever is returned answers to the meaning. -/
  sound : ∀ (request : SemanticKVLookupRequest) (call : KeyCall) (hints : List String) result,
    digest.CollisionFreeOn (keyPayloads means ops call) →
    makeSemanticCacheKey digest call = .ok request.semanticKey →
    lookupSemanticKVCache request (machine.run .empty ops) hints = .ok result →
    ∀ found ∈ result.matches, Answers means ops request call.meaning found.entry
  /-- Whatever answers to it is returned, unless the limit is reached. -/
  complete : ∀ (request : SemanticKVLookupRequest) (call : KeyCall) (hints : List String) result,
    digest.CollisionFreeOn (keyPayloads means ops call) →
    makeSemanticCacheKey digest call = .ok request.semanticKey →
    lookupSemanticKVCache request (machine.run .empty ops) hints = .ok result →
    (∀ entry, Answers means ops request call.meaning entry →
      ∃ found ∈ result.matches, found.entry = entry) ∨ result.matches.length = request.limit
  /-- Nothing that is registered with another meaning changes what is returned. -/
  undisturbed : ∀ (request : SemanticKVLookupRequest) (call : KeyCall) (hints : List String)
    (later : List Registration), digest.CollisionFreeOn (keyPayloads means (ops ++ later) call) →
    makeSemanticCacheKey digest call = .ok request.semanticKey → Keyed digest means later →
    (∀ registration ∈ later, (means registration.entry).meaning ≠ call.meaning) →
    lookupSemanticKVCache request (machine.run .empty (ops ++ later)) hints =
      lookupSemanticKVCache request (machine.run .empty ops) hints
  /-- Runs that register the same with a meaning return the same under its key. -/
  determined : ∀ (request : SemanticKVLookupRequest) (call : KeyCall) (hints : List String)
    (others : List Registration), digest.CollisionFreeOn (keyPayloads means ops call) →
    digest.CollisionFreeOn (keyPayloads means others call) →
    makeSemanticCacheKey digest call = .ok request.semanticKey → Keyed digest means others →
    (∀ entry, Answers means others request call.meaning entry ↔
      Answers means ops request call.meaning entry) →
    lookupSemanticKVCache request (machine.run .empty others) hints =
      lookupSemanticKVCache request (machine.run .empty ops) hints

variable {hints : List String}

theorem answers_of_lookup (free : digest.CollisionFreeOn (keyPayloads means ops call))
    (keyed : Keyed digest means ops)
    (asked : makeSemanticCacheKey digest call = .ok request.semanticKey)
    {result : SemanticKVLookupResult}
    (outcome : lookupSemanticKVCache request (machine.run .empty ops) hints = .ok result)
    {found : SemanticKVLookupMatch} (member : found ∈ result.matches) :
    Answers means ops request call.meaning found.entry := by
  rw [← (lookup_eq_ok_iff.mp outcome).2] at member
  obtain ⟨stored, reusable, _⟩ :=
    mem_candidates.mp ((mem_sortOn _).mp (List.mem_of_mem_take member))
  exact (answers_iff free keyed asked).mp ⟨stored, reusable⟩

/-- What answers to a meaning is among the matches, before the limit cuts them. -/
theorem evaluated_mem_ordered (free : digest.CollisionFreeOn (keyPayloads means ops call))
    (keyed : Keyed digest means ops)
    (asked : makeSemanticCacheKey digest call = .ok request.semanticKey)
    {entry : SemanticKVCacheEntry} (answers : Answers means ops request call.meaning entry) :
    evaluated request entry ∈ ordered request (machine.run .empty ops) hints := by
  obtain ⟨stored, reusable⟩ := (answers_iff free keyed asked).mpr answers
  exact (mem_sortOn _).mpr (mem_candidates.mpr ⟨stored, reusable, rfl⟩)

theorem lookup_eq_of_answers (free : digest.CollisionFreeOn (keyPayloads means ops call))
    (keyed : Keyed digest means ops) {others : List Registration}
    (otherFree : digest.CollisionFreeOn (keyPayloads means others call))
    (otherKeyed : Keyed digest means others)
    (asked : makeSemanticCacheKey digest call = .ok request.semanticKey)
    (same : ∀ entry, Answers means others request call.meaning entry ↔
      Answers means ops request call.meaning entry) :
    lookupSemanticKVCache request (machine.run .empty others) hints =
      lookupSemanticKVCache request (machine.run .empty ops) hints := by
  have agree (entry : SemanticKVCacheEntry) (reusable : Reusable request entry) :
      entry ∈ (machine.run .empty others).entries ↔ entry ∈ (machine.run .empty ops).entries := by
    rw [← and_iff_left (a := entry ∈ (machine.run .empty others).entries) reusable,
      ← and_iff_left (a := entry ∈ (machine.run .empty ops).entries) reusable,
      answers_iff otherFree otherKeyed asked, answers_iff free keyed asked, same]
  simp only [lookupSemanticKVCache, ordered_eq_of_reusable agree]

theorem answers_append_iff {later : List Registration} {meaning : Meaning}
    (others : ∀ registration ∈ later, (means registration.entry).meaning ≠ meaning)
    (entry : SemanticKVCacheEntry) :
    Answers means (ops ++ later) request meaning entry ↔
      Answers means ops request meaning entry := by
  have registered_iff (same : (means entry).meaning = meaning) :
      (∃ registration ∈ machine.succeeded .empty (ops ++ later), registration.entry = entry) ↔
        ∃ registration ∈ machine.succeeded .empty ops, registration.entry = entry := by
    simp only [Machine.succeeded_append, List.mem_append, or_and_right, exists_or]
    refine or_iff_left ?_
    rintro ⟨registration, succeeded, rfl⟩
    obtain ⟨front, back, rfl, _⟩ := machine.mem_succeeded_iff.mp succeeded
    exact others registration (by simp) same
  constructor
  · intro answers
    exact { answers with registered := (registered_iff answers.meaning_eq).mp answers.registered }
  · intro answers
    exact { answers with registered := (registered_iff answers.meaning_eq).mpr answers.registered }

/-- A keyed run obeys the law. -/
theorem keyedLaw (keyed : Keyed digest means ops) : KeyedLaw digest means ops where
  sound _ _ _ _ free asked outcome _ member := answers_of_lookup free keyed asked outcome member
  complete := by
    intro request call hints result free asked outcome
    rw [← (lookup_eq_ok_iff.mp outcome).2]
    rcases le_total (ordered request (machine.run .empty ops) (canonical id hints)).length
      request.limit with few | many
    · refine .inl fun entry answers => ⟨evaluated request entry, ?_, rfl⟩
      rw [List.take_of_length_le few]
      exact evaluated_mem_ordered free keyed asked answers
    · exact .inr (List.length_take_of_le many)
  undisturbed := by
    intro request call hints later free asked laterKeyed others
    have before : keyPayloads means ops call ⊆ keyPayloads means (ops ++ later) call :=
      List.cons_subset_cons _ (List.map_subset _ (List.subset_append_left _ _))
    refine lookup_eq_of_answers (free.mono before) keyed free ?_ asked (answers_append_iff others)
    intro registration member
    exact (List.mem_append.mp member).elim (keyed registration) (laterKeyed registration)
  determined _ _ _ _ free otherFree asked otherKeyed same :=
    lookup_eq_of_answers free keyed otherFree otherKeyed asked same

end Runs

/-! ## A keyed run -/

section Sample

/-- The call for the key of a context of a project. -/
def sampleKeyCall (contextKey : String) : KeyCall where
  namespaceType := .project
  namespaceId := "p"
  contextKey := contextKey
  normalizedContext := "from main"

/-- The key of a context. -/
def sampleKey (contextKey : String) : String :=
  Digest.sha256.hexdigest (sampleKeyCall contextKey).payload

theorem sampleKeyTexts_nonblank : Text.Nonblank "p" ∧ Text.Nonblank "from main" := by
  decide

theorem sampleKey_made {contextKey : String} (visible : Text.Nonblank contextKey) :
    makeSemanticCacheKey .sha256 (sampleKeyCall contextKey) = .ok (sampleKey contextKey) := by
  have sources : ∀ text ∈ canonical id ([] : List String) ++ canonical id [],
      Text.Nonblank text := by
    decide
  simp only [makeSemanticCacheKey, bind_eq_ok, require_eq_ok, pure_eq_ok]
  exact ⟨(), sampleKeyTexts_nonblank.1, (), visible, (), sampleKeyTexts_nonblank.2, (), le_rfl,
    (), sources, rfl⟩

theorem keyedEntry_nonblank {contextKey : String} (visible : Text.Nonblank contextKey) :
    ∀ text ∈ [contextKey, "p", sampleKey contextKey, "f"], Text.Nonblank text := by
  have key : Text.Nonblank (sampleKey contextKey) := Digest.sha256.nonblank _
  simp only [List.forall_mem_cons]
  exact ⟨visible, by decide, key, by decide, List.forall_mem_nil _⟩

/-- The entry of a context. -/
def keyedEntry (contextKey : String) (visible : Text.Nonblank contextKey) : SemanticKVCacheEntry :=
  { sampleCacheEntry with
    cacheEntryId := contextKey
    semanticKey := sampleKey contextKey
    texts_nonblank := keyedEntry_nonblank visible }

theorem deploy_nonblank : Text.Nonblank "deploy" := Text.nonblank_literal rfl

theorem rollback_nonblank : Text.Nonblank "rollback" := Text.nonblank_literal rfl

/-- The registration of the entry of a context. -/
def keyedRegistration (contextKey : String) (visible : Text.Nonblank contextKey) : Registration :=
  ⟨keyedEntry contextKey visible, .project, "p", none⟩

theorem keyed_sample {contextKey : String} (visible : Text.Nonblank contextKey) :
    Keyed .sha256 (fun entry => sampleKeyCall entry.cacheEntryId)
      [keyedRegistration contextKey visible] := by
  intro registration member
  rw [List.mem_singleton.mp member]
  exact sampleKey_made visible

theorem uncollided_sample : Digest.sha256.CollisionFreeOn
    (keyPayloads (fun entry => sampleKeyCall entry.cacheEntryId)
      ([keyedRegistration "deploy" deploy_nonblank] ++
        [keyedRegistration "rollback" rollback_nonblank]) (sampleKeyCall "deploy")) := by
  refine Digest.collisionFreeOn_of_nodup ?_
  rw [Digest.sha256_eq_numeric]
  decide +kernel

/-- What is registered for a rollback does not change what is found for a deployment. -/
theorem keyedLaw_sample :
    lookupSemanticKVCache (requestFor (keyedEntry "deploy" deploy_nonblank)) (machine.run .empty
        ([keyedRegistration "deploy" deploy_nonblank] ++
          [keyedRegistration "rollback" rollback_nonblank])) [] =
      lookupSemanticKVCache (requestFor (keyedEntry "deploy" deploy_nonblank))
        (machine.run .empty [keyedRegistration "deploy" deploy_nonblank]) [] := by
  refine (keyedLaw (keyed_sample deploy_nonblank)).undisturbed _ (sampleKeyCall "deploy") [] _
    uncollided_sample (sampleKey_made deploy_nonblank) (keyed_sample rollback_nonblank) ?_
  intro registration member
  rw [List.mem_singleton.mp member]
  exact fun same => absurd (congrArg Meaning.contextKey same) (by decide)

end Sample

end SemanticKVCache
end MercuryX
