import Mathlib.Data.List.Sort
import Mathlib.Data.List.Dedup
import Mathlib.Data.Prod.Lex
import Mathlib.Data.String.Basic
import Mathlib.Tactic

/-!
# Canonical order

Stable sorting by a key, and the canonical form of a collection: its distinct elements, sorted.
Where the key separates the elements, the result depends on the collection alone, not on the
order in which it was listed.
-/

namespace Foundation

/-- Stable sort by the value of a key. -/
def sortOn {α κ : Type*} [LinearOrder κ] (key : α → κ) (xs : List α) : List α :=
  xs.insertionSort fun left right => key left ≤ key right

/-- The distinct elements of a list, sorted by a key. -/
def canonical {α κ : Type*} [LinearOrder κ] [DecidableEq α] (key : α → κ) (xs : List α) :
    List α :=
  sortOn key xs.dedup

/-- The key tells apart any two elements of the list. -/
def Separates {α κ : Type*} (key : α → κ) (xs : List α) : Prop :=
  ∀ left ∈ xs, ∀ right ∈ xs, key left = key right → left = right

instance {α κ : Type*} [DecidableEq α] [DecidableEq κ] (key : α → κ) (xs : List α) :
    Decidable (Separates key xs) :=
  inferInstanceAs (Decidable (∀ left ∈ xs, ∀ right ∈ xs, key left = key right → left = right))

theorem Separates.of_perm {α κ : Type*} {key : α → κ} {xs ys : List α}
    (separates : Separates key xs) (perm : xs.Perm ys) : Separates key ys :=
  fun left hleft right hright =>
    separates left (perm.mem_iff.mpr hleft) right (perm.mem_iff.mpr hright)

theorem Separates.of_subset {α κ : Type*} {key : α → κ} {xs ys : List α}
    (separates : Separates key xs) (inside : ys ⊆ xs) : Separates key ys :=
  fun left leftMember right rightMember =>
    separates left (inside leftMember) right (inside rightMember)

section Sorting

variable {α κ : Type*} [LinearOrder κ] (key : α → κ)

theorem sortOn_perm (xs : List α) : (sortOn key xs).Perm xs :=
  List.perm_insertionSort _ xs

@[simp] theorem mem_sortOn {xs : List α} {x : α} : x ∈ sortOn key xs ↔ x ∈ xs :=
  (sortOn_perm key xs).mem_iff

@[simp] theorem length_sortOn (xs : List α) : (sortOn key xs).length = xs.length :=
  (sortOn_perm key xs).length_eq

theorem sortOn_pairwise (xs : List α) :
    (sortOn key xs).Pairwise fun left right => key left ≤ key right := by
  have total : Std.Total fun left right : α => key left ≤ key right :=
    ⟨fun left right => le_total (key left) (key right)⟩
  have transitive : IsTrans α fun left right => key left ≤ key right :=
    ⟨fun _ _ _ first second => le_trans first second⟩
  exact List.pairwise_insertionSort _ xs

theorem sortOn_eq_self {xs : List α}
    (sorted : xs.Pairwise fun left right => key left ≤ key right) : sortOn key xs = xs :=
  sorted.insertionSort_eq

theorem map_sortOn {β : Type*} (image : α → β) (imageKey : β → κ)
    (kept : ∀ x, imageKey (image x) = key x) (xs : List α) :
    (sortOn key xs).map image = sortOn imageKey (xs.map image) :=
  List.map_insertionSort _ _ image xs fun left _ right _ => by rw [kept, kept]

variable {key}

/-- Two lists in canonical order with the same elements are equal. -/
theorem eq_of_perm_of_sorted {xs ys : List α} (separates : Separates key xs) (perm : xs.Perm ys)
    (hxs : xs.Pairwise fun left right => key left ≤ key right)
    (hys : ys.Pairwise fun left right => key left ≤ key right) : xs = ys := by
  refine List.Perm.eq_of_pairwise ?_ hxs hys perm
  intro left right hleft hright below above
  exact separates left hleft right (perm.mem_iff.mpr hright) (le_antisymm below above)

theorem sortOn_eq_of_perm {xs ys : List α} (separates : Separates key xs) (perm : xs.Perm ys) :
    sortOn key xs = sortOn key ys := by
  have sortedPerm : (sortOn key xs).Perm (sortOn key ys) :=
    (sortOn_perm key xs).trans (perm.trans (sortOn_perm key ys).symm)
  exact eq_of_perm_of_sorted (separates.of_perm (sortOn_perm key xs).symm) sortedPerm
    (sortOn_pairwise key xs) (sortOn_pairwise key ys)

variable [DecidableEq α] (key)

@[simp] theorem mem_canonical {xs : List α} {x : α} : x ∈ canonical key xs ↔ x ∈ xs := by
  simp [canonical]

theorem canonical_nodup (xs : List α) : (canonical key xs).Nodup :=
  (sortOn_perm key xs.dedup).nodup_iff.mpr xs.nodup_dedup

theorem canonical_pairwise (xs : List α) :
    (canonical key xs).Pairwise fun left right => key left ≤ key right :=
  sortOn_pairwise key xs.dedup

theorem canonical_ne_nil {xs : List α} (nonempty : xs ≠ []) : canonical key xs ≠ [] := by
  obtain ⟨head, tail, rfl⟩ := List.exists_cons_of_ne_nil nonempty
  exact List.ne_nil_of_mem ((mem_canonical key).mpr (List.mem_cons_self (a := head)))

/-- Canonical form is idempotent. -/
theorem canonical_eq_self {xs : List α} (nodup : xs.Nodup)
    (sorted : xs.Pairwise fun left right => key left ≤ key right) : canonical key xs = xs := by
  rw [canonical, nodup.dedup, sortOn_eq_self key sorted]

@[simp] theorem canonical_canonical (xs : List α) :
    canonical key (canonical key xs) = canonical key xs :=
  canonical_eq_self key (canonical_nodup key xs) (canonical_pairwise key xs)

variable {key}

/-- The canonical form depends on the elements alone, where the key separates them. -/
theorem canonical_congr {xs ys : List α} (separates : Separates key xs)
    (same : ∀ x, x ∈ xs ↔ x ∈ ys) : canonical key xs = canonical key ys := by
  have perm : xs.dedup.Perm ys.dedup :=
    (List.perm_ext_iff_of_nodup xs.nodup_dedup ys.nodup_dedup).mpr (by simpa using same)
  exact sortOn_eq_of_perm (separates.of_subset xs.dedup_subset) perm

end Sorting

/-! ## Counting before the cut of a sorted list -/

section Prefix

variable {α κ : Type*} [LinearOrder κ] {key : α → κ}

/-- In a list sorted by a separating key, an element is among the first `n` exactly when fewer
than `n` elements have a smaller key. -/
theorem mem_take_iff {xs : List α} (separates : Separates key xs) (nodup : xs.Nodup)
    (sorted : xs.Pairwise fun left right => key left ≤ key right) {x : α} (member : x ∈ xs)
    (n : Nat) : x ∈ xs.take n ↔ xs.countP (fun y => decide (key y < key x)) < n := by
  induction xs generalizing n with
  | nil => simp at member
  | cons head tail induction =>
      have tailSorted := (List.pairwise_cons.mp sorted).2
      have headLeast := (List.pairwise_cons.mp sorted).1
      have headFresh := (List.nodup_cons.mp nodup).1
      rcases List.mem_cons.mp member with rfl | inTail
      · have noneBelow : (x :: tail).countP (fun y => decide (key y < key x)) = 0 := by
          rw [List.countP_eq_zero]
          intro y hy
          rcases List.mem_cons.mp hy with rfl | hy
          · simp
          · simpa using headLeast y hy
        rw [noneBelow]
        cases n with
        | zero => simp
        | succ n => simp
      · have headBelow : key head < key x := by
          refine lt_of_le_of_ne (headLeast x inTail) fun same => headFresh ?_
          have equal := separates head List.mem_cons_self x (List.mem_cons_of_mem _ inTail) same
          exact equal ▸ inTail
        have tailSeparates : Separates key tail := fun left hleft right hright =>
          separates left (List.mem_cons_of_mem _ hleft) right (List.mem_cons_of_mem _ hright)
        have different : x ≠ head := fun same => headFresh (same ▸ inTail)
        rw [List.countP_cons_of_pos (by simpa using headBelow)]
        cases n with
        | zero => simp
        | succ n =>
            rw [List.take_succ_cons, List.mem_cons, or_iff_right different,
              induction tailSeparates (List.nodup_cons.mp nodup).2 tailSorted inTail n]
            omega

/-- A bounded query returns a record of a list exactly when the record meets the query and fewer
records that do stand before it. -/
theorem mem_take_sortOn_filter_iff {xs : List α} (separates : Separates key xs) (nodup : xs.Nodup)
    (meets : α → Bool) {x : α} (bound : Nat) :
    x ∈ (sortOn key (xs.filter meets)).take bound ↔
      x ∈ xs ∧ meets x ∧ xs.countP (fun y => meets y && decide (key y < key x)) < bound := by
  have perm := sortOn_perm key (xs.filter meets)
  have inside : sortOn key (xs.filter meets) ⊆ xs := fun y member =>
    List.mem_of_mem_filter (perm.mem_iff.mp member)
  have ahead : (sortOn key (xs.filter meets)).countP (fun y => decide (key y < key x)) =
      xs.countP fun y => meets y && decide (key y < key x) := by
    rw [perm.countP_eq, List.countP_filter]
    simp only [Bool.and_comm]
  have found : x ∈ sortOn key (xs.filter meets) ↔ x ∈ xs ∧ meets x := by
    rw [mem_sortOn, List.mem_filter]
  constructor
  · intro returned
    have member := List.mem_of_mem_take returned
    have few := (mem_take_iff (separates.of_subset inside) (perm.nodup_iff.mpr (nodup.filter _))
      (sortOn_pairwise key _) member bound).mp returned
    exact ⟨(found.mp member).1, (found.mp member).2, ahead ▸ few⟩
  · rintro ⟨present, meetsIt, few⟩
    exact (mem_take_iff (separates.of_subset inside) (perm.nodup_iff.mpr (nodup.filter _))
      (sortOn_pairwise key _) (found.mpr ⟨present, meetsIt⟩) bound).mpr (ahead.symm ▸ few)

end Prefix

example : canonical id [3, 1, 3, 2] = [1, 2, 3] := by decide

end Foundation
