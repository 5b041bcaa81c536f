import MercuryX.SemanticKVCache.Store

/-!
# Governance of the cache

Marking an entry stale and invalidating it each make a further entry, of the new state and under a
new id. The prior entry keeps its own state, and the store is not touched.
-/

namespace MercuryX
namespace SemanticKVCache

open Foundation GlobalMemory

variable (digest : Digest)

/-- The entry of a transition: the next in sequence, of the target state. -/
def SemanticKVCacheEntry.transitioned (entry : SemanticKVCacheEntry)
    (targetState : SemanticKVCacheState) (invalidationReason : Option String)
    (visible : ∀ text ∈ invalidationReason, Text.Nonblank text)
    (reasoned : targetState = .invalidated ↔ invalidationReason ≠ none) : SemanticKVCacheEntry :=
  { entry with
    cacheEntryId := makeSemanticKVCacheEntryId digest entry targetState
      (entry.creationSequence + 1) invalidationReason
    state := targetState
    creationSequence := entry.creationSequence + 1
    invalidationReason := invalidationReason
    texts_nonblank := by
      rintro text (_ | ⟨_, member⟩)
      · exact digest.nonblank _
      · exact entry.texts_nonblank text (List.mem_cons_of_mem _ member)
    optional_nonblank := by
      have given := entry.optional_nonblank
      simp only [List.forall_mem_cons, List.not_mem_nil, false_imp_iff, implies_true,
        and_true] at given ⊢
      obtain ⟨modelId, modelVersion, tokenizerId, attentionLayout, kvFormat, precision, _⟩ := given
      exact ⟨modelId, modelVersion, tokenizerId, attentionLayout, kvFormat, precision, visible⟩
    counters_pos := by
      have positive := entry.counters_pos
      simp only [List.forall_mem_cons, List.not_mem_nil, false_imp_iff, implies_true,
        and_true] at positive ⊢
      exact ⟨positive.1, positive.2.1, Nat.le_add_left _ _⟩
    invalidation := reasoned }

/-- Make the entry of a transition to a state. -/
def transition (entry : SemanticKVCacheEntry) (targetState : SemanticKVCacheState)
    (reason : Option String) (authorized : GlobalMemoryNamespace × String) :
    Except Fault SemanticKVCacheEntry := do
  require (entry.space = authorized) (.value "namespace authorization mismatch")
  require (entry.state ≠ .invalidated) (.value "invalidated cache entry is terminal")
  match targetState with
  | .active => .error (.value "governance cannot reactivate cache entry")
  | .stale => .ok (entry.transitioned digest .stale none (by simp) (by simp))
  | .invalidated =>
      if visible : reason.any fun text => Text.Nonblank text then
        .ok (entry.transitioned digest .invalidated reason
          (fun text given => by
            obtain rfl : reason = some text := given
            simpa using visible)
          (iff_of_true rfl fun absent => by simp [absent] at visible))
      else .error (.value "invalidation reason required")

/-- Mark an entry as stale. -/
def markCacheEntryStale (entry : SemanticKVCacheEntry)
    (authorized : GlobalMemoryNamespace × String) : Except Fault SemanticKVCacheEntry := do
  require (entry.state = .active) (.value "only ACTIVE entry may become STALE")
  transition digest entry .stale none authorized

/-- Invalidate an entry. -/
def invalidateCacheEntry (entry : SemanticKVCacheEntry) (reason : String)
    (authorized : GlobalMemoryNamespace × String) : Except Fault SemanticKVCacheEntry := do
  require (entry.state ∈ [.active, .stale]) (.value "cache entry cannot be invalidated")
  transition digest entry .invalidated (some reason) authorized

/-- The entries that marking an entry stale or invalidating it makes. -/
inductive Successor (entry : SemanticKVCacheEntry) : SemanticKVCacheEntry → Prop where
  /-- The stale entry. -/
  | stale {next : SemanticKVCacheEntry} (authorized : GlobalMemoryNamespace × String)
      (outcome : markCacheEntryStale digest entry authorized = .ok next) : Successor entry next
  /-- The invalidated entry. -/
  | invalidated {next : SemanticKVCacheEntry} (reason : String)
      (authorized : GlobalMemoryNamespace × String)
      (outcome : invalidateCacheEntry digest entry reason authorized = .ok next) :
      Successor entry next

variable {digest} {entry next : SemanticKVCacheEntry}

theorem state_of_transition {targetState : SemanticKVCacheState} {reason : Option String}
    {authorized : GlobalMemoryNamespace × String}
    (outcome : transition digest entry targetState reason authorized = .ok next) :
    next.state ≠ .active := by
  simp only [transition, bind_eq_ok, require_eq_ok] at outcome
  obtain ⟨_, _, _, _, outcome⟩ := outcome
  split at outcome
  · contradiction
  · obtain rfl := Except.ok.inj outcome
    exact SemanticKVCacheState.noConfusion
  · split at outcome
    · obtain rfl := Except.ok.inj outcome
      exact SemanticKVCacheState.noConfusion
    · contradiction

theorem Successor.state_ne_active (successor : Successor digest entry next) :
    next.state ≠ .active := by
  cases successor with
  | stale authorized outcome =>
      simp only [markCacheEntryStale, bind_eq_ok] at outcome
      obtain ⟨_, _, outcome⟩ := outcome
      exact state_of_transition outcome
  | invalidated reason authorized outcome =>
      simp only [invalidateCacheEntry, bind_eq_ok] at outcome
      obtain ⟨_, _, outcome⟩ := outcome
      exact state_of_transition outcome

end SemanticKVCache
end MercuryX
