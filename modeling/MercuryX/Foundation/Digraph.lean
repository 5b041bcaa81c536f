import Mathlib.Data.Finset.Basic
import Mathlib.Logic.Relation
import Mathlib.Order.WellFoundedSet
import Mathlib.Tactic

/-!
# Directed graphs given by a list of arrows

Paths, cycles, and the splitting of a vertex: a vertex is replaced by an entry and an exit with one
arrow between them, its incoming arrows lead to the entry and its outgoing arrows leave the exit.
Splitting preserves which vertices lead to which, and it creates no cycle.
-/

namespace Foundation

variable {α : Type*}

/-- There is an arrow from one vertex to another. -/
def Linked (arrows : List (α × α)) (source target : α) : Prop := (source, target) ∈ arrows

/-- There is a path of at least one arrow. -/
def Leads (arrows : List (α × α)) : α → α → Prop := Relation.TransGen (Linked arrows)

/-- There is a path, possibly without an arrow. -/
def Reaches (arrows : List (α × α)) : α → α → Prop := Relation.ReflTransGen (Linked arrows)

/-- No vertex leads back to itself. -/
def Acyclic (arrows : List (α × α)) : Prop := ∀ vertex, ¬ Leads arrows vertex vertex

/-- A finite set of vertices of an acyclic graph has a member without predecessors in the set. -/
theorem Acyclic.exists_source {arrows : List (α × α)} (acyclic : Acyclic arrows)
    {vertices : Finset α} (nonempty : vertices.Nonempty) :
    ∃ first ∈ vertices, ∀ source ∈ vertices, ¬ Linked arrows source first := by
  have order : IsStrictOrder α (Leads arrows) :=
    { irrefl := acyclic
      trans := fun _ _ _ first second => first.trans second }
  have founded : (vertices : Set α).WellFoundedOn (Leads arrows) :=
    vertices.finite_toSet.wellFoundedOn
  obtain ⟨first, member, least⟩ :=
    founded.has_min Set.univ ⟨⟨nonempty.choose, nonempty.choose_spec⟩, trivial⟩
  exact ⟨first.1, first.2, fun source inside linked =>
    least ⟨source, inside⟩ trivial (.single linked)⟩

theorem linked_swap {arrows : List (α × α)} {source target : α} :
    Linked (arrows.map Prod.swap) source target ↔ Linked arrows target source := by
  simp only [Linked, List.mem_map, Prod.exists, Prod.swap_prod_mk, Prod.mk.injEq]
  constructor
  · rintro ⟨_, _, member, rfl, rfl⟩
    exact member
  · exact fun member => ⟨_, _, member, rfl, rfl⟩

theorem Acyclic.swap {arrows : List (α × α)} (acyclic : Acyclic arrows) :
    Acyclic (arrows.map Prod.swap) := by
  intro vertex cycle
  have reversed : Relation.TransGen (Function.swap (Linked arrows)) vertex vertex :=
    Relation.TransGen.mono (fun _ _ => linked_swap.mp) _ _ cycle
  exact acyclic vertex (Relation.transGen_swap.mp reversed)

/-- A finite set of vertices of an acyclic graph has a member without successors in the set. -/
theorem Acyclic.exists_sink {arrows : List (α × α)} (acyclic : Acyclic arrows)
    {vertices : Finset α} (nonempty : vertices.Nonempty) :
    ∃ last ∈ vertices, ∀ target ∈ vertices, ¬ Linked arrows last target := by
  obtain ⟨last, member, least⟩ := acyclic.swap.exists_source nonempty
  exact ⟨last, member, fun target inside linked => least target inside (linked_swap.mpr linked)⟩

/-- In an acyclic graph, what holds where no arrow leaves the set and passes back along the arrows
holds on the whole set. -/
theorem Acyclic.forall_of_sinks {arrows : List (α × α)} (acyclic : Acyclic arrows)
    {vertices : Finset α} {property : α → Prop}
    (passes : ∀ source target, Linked arrows source target → property target → property source)
    (sinks : ∀ vertex ∈ vertices, (∀ target ∈ vertices, ¬ Linked arrows vertex target) →
      property vertex) : ∀ vertex ∈ vertices, property vertex := by
  classical
  by_contra missing
  push Not at missing
  obtain ⟨vertex, inside, fails⟩ := missing
  have nonempty : (vertices.filter fun vertex => ¬ property vertex).Nonempty :=
    ⟨vertex, Finset.mem_filter.mpr ⟨inside, fails⟩⟩
  obtain ⟨last, member, least⟩ := acyclic.exists_sink nonempty
  obtain ⟨lastInside, lastFails⟩ := Finset.mem_filter.mp member
  refine lastFails (sinks last lastInside fun target targetInside linked => ?_)
  have targetHolds : property target := by
    by_contra targetFails
    exact least target (Finset.mem_filter.mpr ⟨targetInside, targetFails⟩) linked
  exact lastFails (passes last target linked targetHolds)

/-- Whether a graph has cycles depends on which arrows there are. -/
theorem acyclic_congr {arrows others : List (α × α)}
    (same : ∀ source target, Linked arrows source target ↔ Linked others source target) :
    Acyclic arrows ↔ Acyclic others := by
  have equal : Linked arrows = Linked others := by
    ext source target
    exact same source target
  rw [Acyclic, Acyclic, Leads, Leads, equal]

/-- A graph whose arrows all go up some ranking has no cycle. -/
theorem acyclic_of_rank {arrows : List (α × α)} (rank : α → Nat)
    (rising : ∀ source target, Linked arrows source target → rank source < rank target) :
    Acyclic arrows := by
  have climbs {source target : α} (path : Leads arrows source target) :
      rank source < rank target := by
    induction path with
    | single linked => exact rising _ _ linked
    | tail _ linked induction => exact induction.trans (rising _ _ linked)
  exact fun vertex cycle => lt_irrefl _ (climbs cycle)

theorem not_self_of_acc {relation : α → α → Prop} {vertex : α} (accessible : Acc relation vertex) :
    ¬ relation vertex vertex := by
  induction accessible with
  | intro vertex _ induction => exact fun self => induction vertex self self

/-- A graph has no cycle where every vertex with a predecessor is accessible. -/
theorem acyclic_of_acc {arrows : List (α × α)}
    (accessible : ∀ source target, Linked arrows source target → Acc (Linked arrows) target) :
    Acyclic arrows := by
  intro vertex cycle
  obtain ⟨source, _, linked⟩ := Relation.TransGen.tail'_iff.mp cycle
  exact not_self_of_acc (accessible source vertex linked).transGen cycle

/-- Where no vertex leads back to itself, every way along the arrows ends. -/
theorem Acyclic.accessible {arrows : List (α × α)} (acyclic : Acyclic arrows) (vertex : α) :
    Acc (fun target source => Linked arrows source target) vertex := by
  classical
  have order : IsStrictOrder α (Function.swap (Leads arrows)) :=
    { irrefl := acyclic
      trans := fun _ _ _ first second => second.trans first }
  have founded : ((arrows.map Prod.snd).toFinset : Set α).WellFoundedOn
      (Function.swap (Leads arrows)) := Finset.wellFoundedOn _
  have isTarget {source target : α} (linked : Linked arrows source target) :
      target ∈ ((arrows.map Prod.snd).toFinset : Set α) := by
    simpa using ⟨source, linked⟩
  have below : ∀ target ∈ ((arrows.map Prod.snd).toFinset : Set α),
      Acc (fun target source => Linked arrows source target) target := by
    intro target member
    refine founded.induction member fun inner _ induction => .intro _ fun next linked => ?_
    exact induction next (isTarget linked) (.single linked)
  exact .intro _ fun target linked => below target (isTarget linked)

theorem Reaches.leads_of_ne {arrows : List (α × α)} {source target : α}
    (path : Reaches arrows source target) (different : source ≠ target) :
    Leads arrows source target :=
  (Relation.reflTransGen_iff_eq_or_transGen.mp path).resolve_left fun same => different same.symm

/-! ## Splitting a vertex -/

section Split

variable [DecidableEq α]

/-- The vertex that incoming arrows lead to once a vertex is split. -/
def entryOf (vertex entry : α) (v : α) : α := if v = vertex then entry else v

/-- The vertex that outgoing arrows leave once a vertex is split. -/
def exitOf (vertex exit : α) (v : α) : α := if v = vertex then exit else v

/-- The vertices that stand for a vertex once one is split. -/
def Represents (vertex entry exit : α) (v a : α) : Prop :=
  a = entryOf vertex entry v ∨ a = exitOf vertex exit v

/-- The second list of arrows is the first with a vertex split into an entry and an exit. -/
structure Splits (vertex entry exit : α) (arrows split : List (α × α)) : Prop where
  /-- The arrows of the result are the moved arrows and the one inside the split vertex. -/
  linked_iff : ∀ a b, Linked split a b ↔
    (∃ u v, Linked arrows u v ∧ a = exitOf vertex exit u ∧ b = entryOf vertex entry v) ∨
      (a = entry ∧ b = exit)
  /-- The entry is new. -/
  entry_fresh : ∀ u v, Linked arrows u v → u ≠ entry ∧ v ≠ entry
  /-- The exit is new, unless it is the split vertex itself. -/
  exit_fresh : exit = vertex ∨ ∀ u v, Linked arrows u v → u ≠ exit ∧ v ≠ exit
  /-- Entry and exit differ. -/
  entry_ne_exit : entry ≠ exit
  /-- The entry is not the split vertex. -/
  entry_ne_vertex : entry ≠ vertex

/-- The vertex that a vertex of the result stands for. -/
def contract (vertex entry exit : α) (a : α) : α := if a = entry ∨ a = exit then vertex else a

variable {vertex entry exit : α} {arrows split : List (α × α)}

theorem exitOf_self : exitOf vertex exit vertex = exit := by simp [exitOf]

theorem entryOf_self : entryOf vertex entry vertex = entry := by simp [entryOf]

/-- Where the exit is the split vertex itself, nothing moves. -/
@[simp] theorem exitOf_vertex {v : α} : exitOf vertex vertex v = v := by
  unfold exitOf
  split
  · next same => exact same.symm
  · rfl

theorem exitOf_of_ne {v : α} (different : v ≠ vertex) : exitOf vertex exit v = v := by
  simp [exitOf, different]

theorem entryOf_of_ne {v : α} (different : v ≠ vertex) : entryOf vertex entry v = v := by
  simp [entryOf, different]

namespace Splits

variable (splits : Splits vertex entry exit arrows split)
include splits

theorem contract_exitOf {u v : α} (linked : Linked arrows u v) :
    contract vertex entry exit (exitOf vertex exit u) = u := by
  by_cases same : u = vertex
  · simp [same, exitOf_self, contract]
  · rw [exitOf_of_ne same]
    have notExit : u ≠ exit := by
      rcases splits.exit_fresh with equal | fresh
      · exact fun isExit => same (isExit.trans equal)
      · exact (fresh u v linked).1
    simp [contract, (splits.entry_fresh u v linked).1, notExit]

theorem contract_entryOf {u v : α} (linked : Linked arrows u v) :
    contract vertex entry exit (entryOf vertex entry v) = v := by
  by_cases same : v = vertex
  · simp [same, entryOf_self, contract]
  · rw [entryOf_of_ne same]
    have notExit : v ≠ exit := by
      rcases splits.exit_fresh with equal | fresh
      · exact fun isExit => same (isExit.trans equal)
      · exact (fresh u v linked).2
    simp [contract, (splits.entry_fresh u v linked).2, notExit]

theorem linked_inside : Linked split entry exit :=
  (splits.linked_iff _ _).mpr (.inr ⟨rfl, rfl⟩)

theorem linked_moved {u v : α} (linked : Linked arrows u v) :
    Linked split (exitOf vertex exit u) (entryOf vertex entry v) :=
  (splits.linked_iff _ _).mpr (.inl ⟨u, v, linked, rfl, rfl⟩)

/-- An arrow of the result is the one inside, or stands for an arrow. -/
theorem linked_contract {a b : α} (linked : Linked split a b) :
    (a = entry ∧ b = exit) ∨
      Linked arrows (contract vertex entry exit a) (contract vertex entry exit b) := by
  rcases (splits.linked_iff a b).mp linked with ⟨u, v, original, rfl, rfl⟩ | inside
  · right
    rwa [splits.contract_exitOf original, splits.contract_entryOf original]
  · exact .inl inside

theorem leads_contract {a b : α} (path : Leads split a b) :
    (a = entry ∧ b = exit) ∨
      Leads arrows (contract vertex entry exit a) (contract vertex entry exit b) := by
  have insideSame : contract vertex entry exit entry = contract vertex entry exit exit := by
    simp [contract]
  induction path with
  | single linked =>
      exact (splits.linked_contract linked).imp_right .single
  | tail _ linked induction =>
      rcases induction with ⟨rfl, rfl⟩ | earlier
      · rcases splits.linked_contract linked with ⟨equal, _⟩ | moved
        · exact absurd equal.symm splits.entry_ne_exit
        · exact .inr (insideSame ▸ .single moved)
      · rcases splits.linked_contract linked with ⟨rfl, rfl⟩ | moved
        · exact .inr (insideSame ▸ earlier)
        · exact .inr (earlier.tail moved)

theorem acyclic (noCycle : Acyclic arrows) : Acyclic split := by
  intro a cycle
  rcases splits.leads_contract cycle with ⟨rfl, equal⟩ | path
  · exact splits.entry_ne_exit equal
  · exact noCycle _ path

theorem reaches_inside {v : α} : Reaches split (entryOf vertex entry v) (exitOf vertex exit v) := by
  by_cases same : v = vertex
  · subst same
    rw [entryOf_self, exitOf_self]
    exact .single splits.linked_inside
  · rw [entryOf_of_ne same, exitOf_of_ne same]
    exact .refl

/-- A path lifts from the exit of its source to the entry of its target. -/
theorem leads_moved {u v : α} (path : Leads arrows u v) :
    Leads split (exitOf vertex exit u) (entryOf vertex entry v) := by
  induction path with
  | single linked => exact .single (splits.linked_moved linked)
  | tail _ linked induction =>
      exact Relation.TransGen.tail'
        (induction.to_reflTransGen.trans splits.reaches_inside) (splits.linked_moved linked)

theorem leads_of_leads {u v a b : α} (path : Leads arrows u v)
    (source : Represents vertex entry exit u a) (target : Represents vertex entry exit v b) :
    Leads split a b := by
  have lifted := splits.leads_moved path
  have fromSource : Reaches split a (exitOf vertex exit u) := by
    rcases source with rfl | rfl
    · exact splits.reaches_inside
    · exact .refl
  have toTarget : Reaches split (entryOf vertex entry v) b := by
    rcases target with rfl | rfl
    · exact .refl
    · exact splits.reaches_inside
  exact Relation.TransGen.trans_left (Relation.TransGen.trans_right fromSource lifted) toTarget

omit splits in
theorem contract_represents {u a : α} (notEntry : u ≠ entry) (notExit : u = vertex ∨ u ≠ exit)
    (source : Represents vertex entry exit u a) : contract vertex entry exit a = u := by
  by_cases same : u = vertex
  · subst same
    rcases source with rfl | rfl
    · simp [entryOf_self, contract]
    · simp [exitOf_self, contract]
  · have stays : a = u := by
      rcases source with rfl | rfl
      · exact entryOf_of_ne same
      · exact exitOf_of_ne same
    rw [stays]
    simp [contract, notEntry, notExit.resolve_left same]

theorem leads_iff {u v a b : α} (different : u ≠ v)
    (sourceKept : u ≠ entry ∧ (u = vertex ∨ u ≠ exit))
    (targetKept : v ≠ entry ∧ (v = vertex ∨ v ≠ exit))
    (source : Represents vertex entry exit u a) (target : Represents vertex entry exit v b) :
    Leads split a b ↔ Leads arrows u v := by
  refine ⟨fun path => ?_, fun path => splits.leads_of_leads path source target⟩
  have sourceOf := contract_represents sourceKept.1 sourceKept.2 source
  have targetOf := contract_represents targetKept.1 targetKept.2 target
  rcases splits.leads_contract path with ⟨rfl, rfl⟩ | contracted
  · refine absurd ?_ different
    rw [← sourceOf, ← targetOf]
    simp [contract]
  · rwa [sourceOf, targetOf] at contracted

end Splits
end Split
end Foundation
