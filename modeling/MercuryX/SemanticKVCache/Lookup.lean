import MercuryX.SemanticKVCache.Compatibility
import MercuryX.SemanticKVCache.Store

/-!
# Look-ups in the semantic KV cache

A look-up ranks the reusable entries of its namespace and returns the first of them, up to its
limit. Exact matches stand first; prediction hints order the matches of one mode and decide
nothing else.
-/

namespace MercuryX
namespace SemanticKVCache

open Foundation GlobalMemory

/-! ## The look-up -/

/-- The rank of a reuse mode. -/
def reuseOrder : SemanticKVReuseMode → Nat
  | .exact => 0
  | .semanticCompatible => 1
  | .noReuse => 2

/-- Entries of one mode and hint are ordered by what they are, then by age. -/
def SemanticKVCacheEntry.orderKey (entry : SemanticKVCacheEntry) :
    String ×ₗ String ×ₗ String ×ₗ Nat ×ₗ Nat ×ₗ String :=
  toLex (entry.semanticKey, toLex (entry.modelId.getD "", toLex (entry.modelVersion.getD "",
    toLex (entry.contextGeneration, toLex (entry.creationSequence, entry.cacheEntryId)))))

/-- Hinted entries stand first. -/
def hinted (hints : List String) (entry : SemanticKVCacheEntry) : Nat :=
  if ∃ id ∈ entry.sourcePredictionIds, id ∈ hints then 0 else 1

/-- The order of the matches of a look-up. -/
def SemanticKVLookupMatch.key (hints : List String) (found : SemanticKVLookupMatch) :
    Nat ×ₗ Nat ×ₗ String ×ₗ String ×ₗ String ×ₗ Nat ×ₗ Nat ×ₗ String :=
  toLex (reuseOrder found.compatibility.reuseMode,
    toLex (hinted hints found.entry, found.entry.orderKey))

/-- An entry with its compatibility. -/
def evaluated (request : SemanticKVLookupRequest) (entry : SemanticKVCacheEntry) :
    SemanticKVLookupMatch :=
  ⟨entry, evaluateSemanticKVCompatibility request entry⟩

/-- The matches of a request, in the order of the store. -/
def candidates (request : SemanticKVLookupRequest) (store : SemanticKVCacheStore) :
    List SemanticKVLookupMatch :=
  ((store.namespaceEntries request.space).map (evaluated request)).filter fun found =>
    found.compatibility.reuseMode ≠ .noReuse

/-- All matches of a request, in their order. -/
def ordered (request : SemanticKVLookupRequest) (store : SemanticKVCacheStore)
    (hints : List String) : List SemanticKVLookupMatch :=
  sortOn (SemanticKVLookupMatch.key hints) (candidates request store)

theorem candidates_entryIds_nodup (request : SemanticKVLookupRequest)
    (store : SemanticKVCacheStore) :
    ((candidates request store).map fun found => found.entry.cacheEntryId).Nodup := by
  have inside : ((candidates request store).map fun found => found.entry.cacheEntryId).Sublist
      (store.entries.map SemanticKVCacheEntry.cacheEntryId) := by
    have same : (store.namespaceEntries request.space).map SemanticKVCacheEntry.cacheEntryId =
        ((store.namespaceEntries request.space).map (evaluated request)).map
          fun found => found.entry.cacheEntryId := by
      rw [List.map_map]
      rfl
    refine (List.filter_sublist.map _).trans ?_
    rw [← same]
    exact List.filter_sublist.map _
  exact inside.nodup store.entryIds_nodup

theorem ordered_entryIds_nodup (request : SemanticKVLookupRequest) (store : SemanticKVCacheStore)
    (hints : List String) :
    ((ordered request store hints).map fun found => found.entry.cacheEntryId).Nodup :=
  ((sortOn_perm _ _).map _).nodup_iff.mpr (candidates_entryIds_nodup request store)

/-- Look up the entries that a request may reuse. -/
def lookupSemanticKVCache (request : SemanticKVLookupRequest) (store : SemanticKVCacheStore)
    (predictionIds : List String) : Except Fault SemanticKVLookupResult := do
  let hints := canonical id predictionIds
  require (∀ hint ∈ hints, Text.Nonblank hint) (.value "prediction hint must be nonblank")
  let limit := min request.limit maxCacheLookupResults
  return {
    «matches» := (ordered request store hints).take limit
    matches_bounded := (List.length_take_le _ _).trans (Nat.min_le_right _ _)
    matches_distinct :=
      ((List.take_sublist _ _).map _).nodup (ordered_entryIds_nodup request store hints) }

/-! ## What a look-up returns -/

section Ranking

variable {request : SemanticKVLookupRequest} {store : SemanticKVCacheStore} {hints : List String}

instance (entry : SemanticKVCacheEntry) : Decidable (Reusable request entry) :=
  decidable_of_iff _ (decided_evaluate request entry).reused

theorem candidates_eq : candidates request store =
    (store.entries.filter fun entry => Reusable request entry).map (evaluated request) := by
  rw [candidates, SemanticKVCacheStore.namespaceEntries, List.filter_map, List.filter_filter]
  congr 1
  refine List.filter_congr fun entry _ => ?_
  have reused := (decided_evaluate request entry).reused
  rw [Bool.eq_iff_iff, Bool.and_eq_true, decide_eq_true_iff, Function.comp_apply,
    decide_eq_true_iff, decide_eq_true_iff]
  exact ⟨fun both => reused.mp both.1, fun reusable => ⟨reused.mpr reusable, reusable.space⟩⟩

theorem mem_candidates {found : SemanticKVLookupMatch} :
    found ∈ candidates request store ↔
      found.entry ∈ store.entries ∧ Reusable request found.entry ∧
        found = evaluated request found.entry := by
  rw [candidates_eq, List.mem_map]
  simp only [List.mem_filter, decide_eq_true_eq]
  constructor
  · rintro ⟨entry, ⟨stored, reusable⟩, rfl⟩
    exact ⟨stored, reusable, rfl⟩
  · rintro ⟨stored, reusable, same⟩
    exact ⟨found.entry, ⟨stored, reusable⟩, same.symm⟩

theorem candidates_separates : Separates (SemanticKVLookupMatch.key hints)
    (candidates request store) := by
  intro left leftMember right rightMember same
  have ids : left.entry.cacheEntryId = right.entry.cacheEntryId := by
    simp only [SemanticKVLookupMatch.key, SemanticKVCacheEntry.orderKey,
      EmbeddingLike.apply_eq_iff_eq, Prod.mk.injEq] at same
    exact same.2.2.2.2.2.2.2
  obtain ⟨leftStored, _, leftIs⟩ := mem_candidates.mp leftMember
  obtain ⟨rightStored, _, rightIs⟩ := mem_candidates.mp rightMember
  rw [leftIs, rightIs, SemanticKVCacheStore.eq_of_cacheEntryId_eq leftStored rightStored ids]

theorem candidates_nodup : (candidates request store).Nodup :=
  List.Nodup.of_map _ (candidates_entryIds_nodup request store)

theorem lookup_eq_ok_iff {predictionIds : List String} {result : SemanticKVLookupResult} :
    lookupSemanticKVCache request store predictionIds = .ok result ↔
      (∀ hint ∈ predictionIds, Text.Nonblank hint) ∧
        (ordered request store (canonical id predictionIds)).take request.limit =
          result.matches := by
  obtain ⟨found, _, _⟩ := result
  simp only [lookupSemanticKVCache, bind_eq_ok, require_eq_ok, pure_eq_ok, Except.ok.injEq,
    exists_and_left, exists_const, mem_canonical, SemanticKVLookupResult.mk.injEq,
    Nat.min_eq_left request.limit_bounds.2]

theorem lookup_answers_iff {predictionIds : List String} :
    (∃ result, lookupSemanticKVCache request store predictionIds = .ok result) ↔
      ∀ hint ∈ predictionIds, Text.Nonblank hint := by
  constructor
  · rintro ⟨result, outcome⟩
    exact (lookup_eq_ok_iff.mp outcome).1
  · intro visible
    have made := require_of_true (fun hint (member : hint ∈ canonical id predictionIds) =>
      visible hint ((mem_canonical id).mp member)) (Fault.value "prediction hint must be nonblank")
    exact ⟨_, by rw [lookupSemanticKVCache, made]; rfl⟩

/-- An entry is among the first matches exactly when it is stored and reusable, and fewer matches
stand before it. -/
theorem mem_take_ordered_iff {entry : SemanticKVCacheEntry} {limit : Nat} :
    evaluated request entry ∈ (ordered request store hints).take limit ↔
      entry ∈ store.entries ∧ Reusable request entry ∧
        (store.entries.countP fun other => Reusable request other ∧
          (evaluated request other).key hints < (evaluated request entry).key hints) < limit := by
  have perm := sortOn_perm (SemanticKVLookupMatch.key hints) (candidates request store)
  have ahead : (ordered request store hints).countP
        (fun other => other.key hints < (evaluated request entry).key hints) =
      store.entries.countP fun other => Reusable request other ∧
        (evaluated request other).key hints < (evaluated request entry).key hints := by
    rw [ordered, perm.countP_eq, candidates_eq, List.countP_map, List.countP_filter]
    refine List.countP_congr fun other _ => ?_
    simp [and_comm]
  have found : evaluated request entry ∈ ordered request store hints ↔
      entry ∈ store.entries ∧ Reusable request entry := by
    rw [ordered, mem_sortOn, mem_candidates]
    exact and_congr_right fun _ => and_iff_left rfl
  have rank (member : evaluated request entry ∈ ordered request store hints) :=
    mem_take_iff (candidates_separates.of_perm perm.symm) (perm.nodup_iff.mpr candidates_nodup)
      (sortOn_pairwise _ _) member limit
  rw [← and_assoc, ← found, ← ahead]
  constructor
  · intro returned
    have member := List.mem_of_mem_take returned
    exact ⟨member, (rank member).mp returned⟩
  · rintro ⟨member, few⟩
    exact (rank member).mpr few

/-- The modes of the ordered matches never decrease. -/
theorem ordered_modes_sorted :
    ((ordered request store hints).map fun found => found.compatibility.reuseMode).Pairwise
      fun left right => reuseOrder left ≤ reuseOrder right := by
  rw [List.pairwise_map]
  refine (sortOn_pairwise (SemanticKVLookupMatch.key hints) (candidates request store)).imp ?_
  intro left right below
  exact ((Prod.Lex.monotone_fst _ _) below)

theorem reuseOrder_injective : Function.Injective reuseOrder := by
  intro left right same
  cases left <;> cases right <;> first | rfl | contradiction

/-- Other hints give the same matches in another order. -/
theorem ordered_perm (others : List String) :
    (ordered request store others).Perm (ordered request store hints) :=
  (sortOn_perm _ _).trans (sortOn_perm _ _).symm

/-- Other hints leave the mode at each place as it is. -/
theorem ordered_modes (others : List String) :
    ((ordered request store others).map fun found => found.compatibility.reuseMode) =
      (ordered request store hints).map fun found => found.compatibility.reuseMode := by
  refine List.Perm.eq_of_pairwise ?_ ordered_modes_sorted ordered_modes_sorted
    ((ordered_perm others).map _)
  intro left right _ _ below above
  exact reuseOrder_injective (le_antisymm below above)

end Ranking

/-! ## The law of look-ups -/

/-- Two stores hold the same entries of a namespace. -/
def Agree (space : GlobalMemoryNamespace × String) (left right : SemanticKVCacheStore) : Prop :=
  ∀ entry : SemanticKVCacheEntry, entry.space = space →
    (entry ∈ left.entries ↔ entry ∈ right.entries)

/-- The matches depend on the entries of the namespace alone, and not on their order. -/
theorem ordered_eq_of_agree {request : SemanticKVLookupRequest}
    {store other : SemanticKVCacheStore} (agree : Agree request.space store other)
    (hints : List String) : ordered request other hints = ordered request store hints := by
  have perm : (candidates request other).Perm (candidates request store) := by
    refine (List.perm_ext_iff_of_nodup candidates_nodup candidates_nodup).mpr fun found => ?_
    simp only [mem_candidates]
    constructor
    · rintro ⟨stored, reusable, same⟩
      exact ⟨(agree _ reusable.space).mpr stored, reusable, same⟩
    · rintro ⟨stored, reusable, same⟩
      exact ⟨(agree _ reusable.space).mp stored, reusable, same⟩
  exact sortOn_eq_of_perm candidates_separates perm

/-- What a look-up with given hints returns. -/
structure LookupLaw (request : SemanticKVLookupRequest) (store : SemanticKVCacheStore)
    (predictionIds : List String) : Prop where
  /-- The look-up answers exactly when no hint is blank. -/
  answers : (∃ result, lookupSemanticKVCache request store predictionIds = .ok result) ↔
    ∀ hint ∈ predictionIds, Text.Nonblank hint
  /-- The first of the reusable entries in canonical order are returned, up to the limit. -/
  ranked : ∀ result, lookupSemanticKVCache request store predictionIds = .ok result →
    result.matches =
      (sortOn (SemanticKVLookupMatch.key (canonical id predictionIds))
        ((store.entries.filter fun entry => Reusable request entry).map
          (evaluated request))).take request.limit
  /-- A match is exact, and its payload reused, exactly for a physically equal entry. -/
  exact : ∀ result, lookupSemanticKVCache request store predictionIds = .ok result →
    ∀ found ∈ result.matches,
      (found.compatibility.reuseMode = .exact ↔ PhysicallyEqual request found.entry) ∧
      (found.compatibility.physicalKVReuseAllowed = true ↔ PhysicallyEqual request found.entry)
  /-- Neither other namespaces nor the order of registration matter. -/
  isolated : ∀ other, Agree request.space store other →
    lookupSemanticKVCache request other predictionIds =
      lookupSemanticKVCache request store predictionIds
  /-- Other hints permute the matches within their modes. -/
  hints : ∀ others,
    (ordered request store (canonical id others)).Perm
        (ordered request store (canonical id predictionIds)) ∧
      ((ordered request store (canonical id others)).map fun found =>
          found.compatibility.reuseMode) =
        (ordered request store (canonical id predictionIds)).map fun found =>
          found.compatibility.reuseMode
  /-- While all reusable entries are returned, other hints return the same matches. -/
  unchanged : (store.entries.countP fun entry => Reusable request entry) ≤ request.limit →
    ∀ others result otherResult,
      lookupSemanticKVCache request store predictionIds = .ok result →
      lookupSemanticKVCache request store others = .ok otherResult →
      otherResult.matches.Perm result.matches

/-- Every look-up obeys the law. -/
theorem lookupLaw (request : SemanticKVLookupRequest) (store : SemanticKVCacheStore)
    (predictionIds : List String) : LookupLaw request store predictionIds where
  answers := lookup_answers_iff
  ranked := by
    intro result outcome
    rw [← (lookup_eq_ok_iff.mp outcome).2, ordered, candidates_eq]
  exact := by
    intro result outcome found member
    rw [← (lookup_eq_ok_iff.mp outcome).2] at member
    obtain ⟨_, reusable, same⟩ :=
      mem_candidates.mp ((mem_sortOn _).mp (List.mem_of_mem_take member))
    have decided := decided_evaluate request found.entry
    rw [same]
    exact ⟨decided.exact.trans (and_iff_right reusable),
      decided.physical.trans (and_iff_right reusable)⟩
  isolated := by
    intro other agree
    simp only [lookupSemanticKVCache, ordered_eq_of_agree agree]
  hints := fun others => ⟨ordered_perm _, ordered_modes _⟩
  unchanged := by
    intro few others result otherResult outcome otherOutcome
    have all (hints : List String) :
        (ordered request store hints).take request.limit = ordered request store hints := by
      refine List.take_of_length_le ?_
      rw [ordered, length_sortOn, candidates_eq, List.length_map, ← List.countP_eq_length_filter]
      exact few
    rw [← (lookup_eq_ok_iff.mp outcome).2, ← (lookup_eq_ok_iff.mp otherOutcome).2, all, all]
    exact ordered_perm _

end SemanticKVCache
end MercuryX
