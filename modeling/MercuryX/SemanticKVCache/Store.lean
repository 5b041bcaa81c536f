import MercuryX.Foundation.Fallible
import MercuryX.Foundation.Registry
import MercuryX.GlobalMemory.Store
import MercuryX.SemanticKVCache.Identity

/-!
# The semantic KV cache store

The store keeps its entries in the order they were registered. Entries are only ever added, under
an id that no other entry has and while their namespace has room: a store with two entries of one
id or with a namespace beyond its capacity cannot be built.
-/

namespace MercuryX
namespace SemanticKVCache

open Foundation GlobalMemory

/-! ## The store -/

/-- The number of entries of a namespace. -/
def namespaceCount (entries : List SemanticKVCacheEntry)
    (space : GlobalMemoryNamespace × String) : Nat :=
  entries.countP fun entry => entry.space = space

/-- The entries of all namespaces, oldest first. -/
structure SemanticKVCacheStore where
  entries : List SemanticKVCacheEntry
  /-- No two entries have one id. -/
  entryIds_nodup : (entries.map SemanticKVCacheEntry.cacheEntryId).Nodup
  /-- No namespace holds more than it may. -/
  within : ∀ space, namespaceCount entries space ≤ maxKVCacheEntriesPerNamespace

namespace SemanticKVCacheStore

/-- The store without entries. -/
def empty : SemanticKVCacheStore := ⟨[], List.nodup_nil, fun _ => Nat.zero_le _⟩

/-- The entries of a namespace. -/
def namespaceEntries (store : SemanticKVCacheStore) (space : GlobalMemoryNamespace × String) :
    List SemanticKVCacheEntry :=
  store.entries.filter fun entry => entry.space = space

theorem nodup (store : SemanticKVCacheStore) : store.entries.Nodup :=
  List.Nodup.of_map _ store.entryIds_nodup

theorem eq_of_cacheEntryId_eq {store : SemanticKVCacheStore} {left right : SemanticKVCacheEntry}
    (leftMember : left ∈ store.entries) (rightMember : right ∈ store.entries)
    (same : left.cacheEntryId = right.cacheEntryId) : left = right :=
  Registry.eq_of_identity_eq store.entryIds_nodup leftMember rightMember same

/-- A store with one more entry, of a new id and into a namespace with room. -/
def add (store : SemanticKVCacheStore) (entry : SemanticKVCacheEntry)
    (fresh : entry.cacheEntryId ∉ store.entries.map SemanticKVCacheEntry.cacheEntryId)
    (room : (store.namespaceEntries entry.space).length < maxKVCacheEntriesPerNamespace) :
    SemanticKVCacheStore where
  entries := store.entries ++ [entry]
  entryIds_nodup := by
    rw [List.map_append, List.map_singleton, List.nodup_append]
    refine ⟨store.entryIds_nodup, List.nodup_singleton _, fun id member other isEntry => ?_⟩
    rw [List.mem_singleton.mp isEntry]
    rintro rfl
    exact fresh member
  within := by
    intro space
    rw [namespaceEntries, ← List.countP_eq_length_filter] at room
    rw [namespaceCount, List.countP_append, List.countP_singleton]
    by_cases same : entry.space = space
    · subst same
      simpa using room
    · simpa [namespaceCount, same] using store.within space

end SemanticKVCacheStore

/-- An entry, the namespace that the caller is authorized for, and the store that knows which
namespaces are closed, if there is one. -/
structure Registration where
  entry : SemanticKVCacheEntry
  authorizedNamespaceType : GlobalMemoryNamespace
  authorizedNamespaceId : String
  globalContextStore : Option GlobalContextStore := none

/-- Append an entry of a new id to a namespace with room; the same entry again changes nothing. -/
def SemanticKVCacheStore.admitEntry (store : SemanticKVCacheStore) (entry : SemanticKVCacheEntry) :
    Except Fault SemanticKVCacheStore :=
  if fresh : entry.cacheEntryId ∉ store.entries.map SemanticKVCacheEntry.cacheEntryId then
    if room : (store.namespaceEntries entry.space).length < maxKVCacheEntriesPerNamespace then
      .ok (store.add entry fresh room)
    else .error (.value "cache namespace capacity exceeded")
  else if entry ∈ store.entries then .ok store
  else .error (.value "conflicting duplicate cache identity")

/-- Register an entry. -/
def registerCacheEntry (store : SemanticKVCacheStore) (registration : Registration) :
    Except Fault SemanticKVCacheStore := do
  let entry := registration.entry
  require (entry.space =
      (registration.authorizedNamespaceType, registration.authorizedNamespaceId))
    (.value "namespace authorization mismatch")
  let closed ← registration.globalContextStore.elim (.ok false) fun global =>
    global.isNamespaceClosed entry.namespaceType entry.namespaceId
  require (closed = false) (.value "closed namespace cannot accept cache entry")
  validateCacheMetadataSize entry
  store.admitEntry entry

/-- The store as a machine of registrations. -/
def machine : Machine SemanticKVCacheStore Registration Unit Fault :=
  .ofFunction registerCacheEntry

/-! ## What a registration changes -/

variable {store next : SemanticKVCacheStore} {registration : Registration}

theorem entries_of_register (outcome : registerCacheEntry store registration = .ok next) :
    next.entries = store.entries ∧ registration.entry ∈ store.entries ∨
      next.entries = store.entries ++ [registration.entry] := by
  simp only [registerCacheEntry, bind_eq_ok] at outcome
  obtain ⟨_, _, _, _, _, _, _, _, outcome⟩ := outcome
  unfold SemanticKVCacheStore.admitEntry at outcome
  split at outcome
  · split at outcome
    · obtain rfl := Except.ok.inj outcome
      exact .inr rfl
    · cases outcome
  · split at outcome
    · next present =>
        obtain rfl := Except.ok.inj outcome
        exact .inl ⟨rfl, present⟩
    · cases outcome

/-- A small entry of a new id is appended where there is room, unless a store that knows of
closures is asked. -/
theorem register_fresh (small : validateCacheMetadataSize registration.entry = .ok ())
    (authorized : registration.entry.space =
      (registration.authorizedNamespaceType, registration.authorizedNamespaceId))
    (unasked : registration.globalContextStore = none)
    (fresh : registration.entry.cacheEntryId ∉
      store.entries.map SemanticKVCacheEntry.cacheEntryId)
    (room : (store.namespaceEntries registration.entry.space).length <
      maxKVCacheEntriesPerNamespace) :
    registerCacheEntry store registration = .ok (store.add registration.entry fresh room) := by
  simp only [registerCacheEntry, require_of_true authorized, unasked, Option.elim_none, ok_bind,
    require_of_true trivial, small, SemanticKVCacheStore.admitEntry, dif_pos fresh, dif_pos room]

/-- Registrations only append. -/
theorem prefix_of_reachable {later : SemanticKVCacheStore}
    (reach : machine.Reachable store later) : store.entries <+: later.entries := by
  let grown : SemanticKVCacheStore → Prop := fun state => store.entries <+: state.entries
  have extended : grown later := by
    refine reach.invariant (List.prefix_refl _) ?_
    intro state registration answer next longer step
    rcases entries_of_register (Machine.ofFunction_step_ok.mp step) with ⟨same, _⟩ | appended
    · exact longer.trans (by rw [same])
    · exact longer.trans (by rw [appended]; exact List.prefix_append _ _)
  exact extended

end SemanticKVCache
end MercuryX
