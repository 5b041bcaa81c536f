import MercuryX.SemanticKVCache.Governance

/-!
# Invalidation of dependent entries

When an entry was invalidated, the entries of its namespace that declare it as a dependency are
invalidated as well, one after another. An entry that is invalidated already stops the whole
propagation, and every propagation that invalidates something is stopped by its own result.
-/

namespace MercuryX
namespace SemanticKVCache

open Foundation GlobalMemory

/-- An entry of the namespace that declares a dependency on the id. -/
def Dependent (invalidatedCacheEntryId : String) (authorized : GlobalMemoryNamespace × String)
    (entry : SemanticKVCacheEntry) : Prop :=
  entry.space = authorized ∧ invalidatedCacheEntryId ∈ entry.dependencyCacheEntryIds

instance (invalidatedCacheEntryId : String) (authorized : GlobalMemoryNamespace × String) :
    DecidablePred (Dependent invalidatedCacheEntryId authorized) := fun _ =>
  inferInstanceAs (Decidable (_ ∧ _))

section Propagation

variable (digest : Digest) (invalidatedCacheEntryId reason : String)
  (authorized : GlobalMemoryNamespace × String)

/-- Invalidate an entry where it is in the namespace and depends on the id. -/
def invalidateDependent (entry : SemanticKVCacheEntry) : Except Fault SemanticKVCacheEntry :=
  if entry.space ≠ authorized then .ok entry
  else if invalidatedCacheEntryId ∈ entry.dependencyCacheEntryIds then
    invalidateCacheEntry digest entry reason authorized
  else .ok entry

/-- Invalidate the entries of the namespace that depend on the id. -/
def invalidateCacheDependencies (entries : List SemanticKVCacheEntry) :
    Except Fault (List SemanticKVCacheEntry) :=
  entries.mapM (invalidateDependent digest invalidatedCacheEntryId reason authorized)

/-- What propagation should make of an entry: a dependent entry becomes invalidated, and another
one stays as it is. -/
def Becomes (entry next : SemanticKVCacheEntry) : Prop :=
  (Dependent invalidatedCacheEntryId authorized entry → next.state = .invalidated) ∧
    (¬ Dependent invalidatedCacheEntryId authorized entry → next = entry)

/-- Propagation succeeds, with what it should make of each entry in its place. -/
def Propagates (entries : List SemanticKVCacheEntry) : Prop :=
  ∃ result, invalidateCacheDependencies digest invalidatedCacheEntryId reason authorized entries =
      .ok result ∧ List.Forall₂ (Becomes invalidatedCacheEntryId authorized) entries result

/-- Propagation succeeds, with what it should make of each entry in its place, and changes nothing
of its own result. -/
def PropagatesOnce (entries : List SemanticKVCacheEntry) : Prop :=
  ∃ result, invalidateCacheDependencies digest invalidatedCacheEntryId reason authorized entries =
      .ok result ∧ List.Forall₂ (Becomes invalidatedCacheEntryId authorized) entries result ∧
    invalidateCacheDependencies digest invalidatedCacheEntryId reason authorized result = .ok result

variable {digest invalidatedCacheEntryId reason authorized} {entry next : SemanticKVCacheEntry}
  {entries : List SemanticKVCacheEntry}

/-- An entry is invalidated where it is not already, for a reason and in its namespace; the
invalidated entry keeps the namespace and the dependencies. -/
theorem exists_invalidated (visible : Text.Nonblank reason) (space : entry.space = authorized)
    (standing : entry.state ≠ .invalidated) : ∃ next,
      invalidateCacheEntry digest entry reason authorized = .ok next ∧
        next.state = .invalidated ∧ next.space = entry.space ∧
        next.dependencyCacheEntryIds = entry.dependencyCacheEntryIds := by
  have reusable : entry.state ∈ [.active, .stale] := by
    cases state : entry.state with
    | active => simp
    | stale => simp
    | invalidated => exact absurd state standing
  have given : (some reason).any fun text => Text.Nonblank text := decide_eq_true visible
  refine ⟨entry.transitioned digest .invalidated (some reason) ?_ ?_, ?_, rfl, rfl, rfl⟩
  · simpa using visible
  · simp
  · simp only [invalidateCacheEntry, transition, bind_eq_ok, require_eq_ok, exists_const]
    exact ⟨reusable, space, standing, dif_pos given⟩

theorem standing_of_invalidate
    (outcome : invalidateCacheEntry digest entry reason authorized = .ok next) :
    entry.state ≠ .invalidated := by
  simp only [invalidateCacheEntry, bind_eq_ok, require_eq_ok, exists_const] at outcome
  intro invalidated
  simp [invalidated] at outcome

theorem invalidateDependent_of_not
    (independent : ¬ Dependent invalidatedCacheEntryId authorized entry) :
    invalidateDependent digest invalidatedCacheEntryId reason authorized entry = .ok entry := by
  unfold invalidateDependent
  split
  · rfl
  next inside =>
    exact if_neg fun depends => independent ⟨not_not.mp inside, depends⟩

theorem invalidateDependent_of_dependent
    (dependent : Dependent invalidatedCacheEntryId authorized entry) :
    invalidateDependent digest invalidatedCacheEntryId reason authorized entry =
      invalidateCacheEntry digest entry reason authorized :=
  (if_neg (not_not.mpr dependent.1)).trans (if_pos dependent.2)

/-- What happens to an entry, when propagation does not stop at it. -/
theorem becomes_of_invalidateDependent (visible : Text.Nonblank reason)
    (outcome : invalidateDependent digest invalidatedCacheEntryId reason authorized entry =
      .ok next) :
    Becomes invalidatedCacheEntryId authorized entry next ∧
      (Dependent invalidatedCacheEntryId authorized entry → entry.state ≠ .invalidated ∧
        Dependent invalidatedCacheEntryId authorized next) := by
  by_cases dependent : Dependent invalidatedCacheEntryId authorized entry
  · rw [invalidateDependent_of_dependent dependent] at outcome
    have standing := standing_of_invalidate outcome
    obtain ⟨made, answered, invalidated, space, dependencies⟩ :=
      @exists_invalidated digest _ _ _ visible dependent.1 standing
    obtain rfl := Except.ok.inj (answered.symm.trans outcome)
    exact ⟨⟨fun _ => invalidated, fun independent => absurd dependent independent⟩,
      fun _ => ⟨standing, space.trans dependent.1, dependencies ▸ dependent.2⟩⟩
  · rw [invalidateDependent_of_not dependent] at outcome
    obtain rfl := Except.ok.inj outcome
    exact ⟨⟨fun isDependent => absurd isDependent dependent, fun _ => rfl⟩,
      fun isDependent => absurd isDependent dependent⟩

theorem exists_invalidateDependent_iff (visible : Text.Nonblank reason) :
    (∃ next, invalidateDependent digest invalidatedCacheEntryId reason authorized entry =
      .ok next) ↔
      (Dependent invalidatedCacheEntryId authorized entry → entry.state ≠ .invalidated) := by
  constructor
  · rintro ⟨next, outcome⟩ dependent
    exact ((becomes_of_invalidateDependent visible outcome).2 dependent).1
  · intro standing
    by_cases dependent : Dependent invalidatedCacheEntryId authorized entry
    · rw [invalidateDependent_of_dependent dependent]
      obtain ⟨next, answered, _⟩ :=
        @exists_invalidated digest _ _ _ visible dependent.1 (standing dependent)
      exact ⟨next, answered⟩
    · exact ⟨entry, invalidateDependent_of_not dependent⟩

theorem propagates_iff (visible : Text.Nonblank reason) :
    Propagates digest invalidatedCacheEntryId reason authorized entries ↔
      ∀ entry ∈ entries, Dependent invalidatedCacheEntryId authorized entry →
        entry.state ≠ .invalidated := by
  constructor
  · rintro ⟨result, propagated, _⟩ entry member
    obtain ⟨next, _, outcome⟩ := exists_of_mapM_eq_ok propagated member
    exact (exists_invalidateDependent_iff visible).mp ⟨next, outcome⟩
  · intro standing
    obtain ⟨result, propagated⟩ := exists_mapM_eq_ok fun entry member =>
      (@exists_invalidateDependent_iff digest _ _ _ _ visible).mpr (standing entry member)
    exact ⟨result, propagated, (mapM_eq_ok_iff_forall₂.mp propagated).imp fun _ _ outcome =>
      (becomes_of_invalidateDependent visible outcome).1⟩

theorem propagatesOnce_iff_none (visible : Text.Nonblank reason) :
    PropagatesOnce digest invalidatedCacheEntryId reason authorized entries ↔
      ∀ entry ∈ entries, ¬ Dependent invalidatedCacheEntryId authorized entry := by
  constructor
  · rintro ⟨result, propagated, becomes, again⟩ entry member dependent
    obtain ⟨next, inside, outcome⟩ := exists_of_mapM_eq_ok propagated member
    obtain ⟨became, kept⟩ := becomes_of_invalidateDependent visible outcome
    obtain ⟨_, _, repeated⟩ := exists_of_mapM_eq_ok again inside
    exact (exists_invalidateDependent_iff visible).mp ⟨_, repeated⟩ (kept dependent).2
      (became.1 dependent)
  · intro independent
    have unchanged : invalidateCacheDependencies digest invalidatedCacheEntryId reason authorized
        entries = .ok entries :=
      mapM_eq_ok_iff_forall₂.mpr (List.forall₂_same.mpr fun entry member =>
        invalidateDependent_of_not (independent entry member))
    exact ⟨entries, unchanged, List.forall₂_same.mpr fun entry member =>
      ⟨fun dependent => absurd dependent (independent entry member), fun _ => rfl⟩, unchanged⟩

/-- For a reason, propagation does what it should to every entry exactly when no dependent entry is
invalidated already, and it can be repeated exactly when there is no dependent entry at all. -/
theorem propagation_iff (digest : Digest) (invalidatedCacheEntryId reason : String)
    (authorized : GlobalMemoryNamespace × String) (entries : List SemanticKVCacheEntry)
    (visible : Text.Nonblank reason) :
    (PropagatesOnce digest invalidatedCacheEntryId reason authorized entries ↔
      ∀ entry ∈ entries, ¬ Dependent invalidatedCacheEntryId authorized entry) ∧
    (Propagates digest invalidatedCacheEntryId reason authorized entries ↔
      ∀ entry ∈ entries, Dependent invalidatedCacheEntryId authorized entry →
        entry.state ≠ .invalidated) :=
  ⟨propagatesOnce_iff_none visible, propagates_iff visible⟩

end Propagation

/-! ## A dependent entry -/

/-- An active entry that depends on another. -/
def derivedEntry : SemanticKVCacheEntry where
  cacheEntryId := "child"
  namespaceType := .project
  namespaceId := "p"
  cacheGeneration := 1
  semanticKey := "k"
  semanticFingerprint := "f"
  dependencyCacheEntryIds := ["parent"]
  creationSequence := 1
  texts_nonblank := by decide
  optional_nonblank := by decide
  counters_pos := by decide
  lineage_canonical := by decide
  sources_bounded := by decide
  dependencies_bounded := by decide
  payload_complete := by decide
  invalidation := by decide

/-- The entry, invalidated before. -/
def withdrawnEntry (digest : Digest) : SemanticKVCacheEntry :=
  derivedEntry.transitioned digest .invalidated (some "withdrawn") (by decide) (by decide)

theorem derivedEntry_dependent : Dependent "parent" (.project, "p") derivedEntry :=
  ⟨rfl, List.mem_singleton_self _⟩

/-- Entries that do not depend on the invalidated one are left as they are, however often, and one
that does is invalidated with it. -/
theorem propagation_leaves_independent :
    PropagatesOnce .sha256 "other" "upstream changed" (.project, "p") [derivedEntry] ∧
      Propagates .sha256 "parent" "upstream changed" (.project, "p") [derivedEntry] := by
  have visible : Text.Nonblank "upstream changed" := by decide
  constructor
  · refine (propagation_iff .sha256 "other" "upstream changed" (.project, "p") [derivedEntry]
      visible).1.mpr fun entry member dependent => ?_
    obtain rfl := List.mem_singleton.mp member
    exact absurd dependent.2 (by decide)
  · refine (propagation_iff .sha256 "parent" "upstream changed" (.project, "p") [derivedEntry]
      visible).2.mpr fun entry member _ => ?_
    obtain rfl := List.mem_singleton.mp member
    decide

/-- An entry invalidated before stops the propagation to another one, and so does the result of a
propagation. -/
theorem propagation_stops :
    ¬ Propagates .sha256 "parent" "upstream changed" (.project, "p")
        [withdrawnEntry .sha256, derivedEntry] ∧
      ¬ PropagatesOnce .sha256 "parent" "upstream changed" (.project, "p") [derivedEntry] := by
  constructor
  · rw [propagates_iff (by decide)]
    intro standing
    exact standing (withdrawnEntry .sha256) List.mem_cons_self
      ⟨rfl, List.mem_singleton_self _⟩ rfl
  · rw [propagatesOnce_iff_none (by decide)]
    exact fun independent =>
      independent derivedEntry List.mem_cons_self derivedEntry_dependent

end SemanticKVCache
end MercuryX
