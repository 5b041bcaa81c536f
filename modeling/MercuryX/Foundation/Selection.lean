import MercuryX.Foundation.Canonical

/-!
# Selection

The first element of a list sorted by a key. Sorting is stable, so it is the first of those with
the least key: everything before it in the list has a greater key and nothing after it has a
smaller one. An element that is added is either selected itself or changes nothing.
-/

namespace Foundation

variable {α κ : Type*} [LinearOrder κ] {key : α → κ}

/-- The first element with the least key. -/
def Leading (key : α → κ) (xs : List α) (best : α) : Prop :=
  ∃ front back, xs = front ++ best :: back ∧
    (∀ other ∈ front, key best < key other) ∧ ∀ other ∈ back, key best ≤ key other

theorem Leading.mem {xs : List α} {best : α} (leads : Leading key xs best) : best ∈ xs := by
  obtain ⟨front, back, rfl, -, -⟩ := leads
  exact List.mem_append_right front List.mem_cons_self

theorem Leading.le {xs : List α} {best : α} (leads : Leading key xs best) :
    ∀ other ∈ xs, key best ≤ key other := by
  obtain ⟨front, back, rfl, before, after⟩ := leads
  intro other member
  rcases List.mem_append.mp member with inFront | inRest
  · exact (before other inFront).le
  · rcases List.mem_cons.mp inRest with rfl | inBack
    · exact le_rfl
    · exact after other inBack

/-- One more element at the front leads where its key is not greater. -/
theorem Leading.cons {xs : List α} {best : α} (leads : Leading key xs best) (x : α) :
    Leading key (x :: xs) (if key x ≤ key best then x else best) := by
  split
  case isTrue below =>
    exact ⟨[], xs, rfl, by simp, fun other member => below.trans (leads.le other member)⟩
  case isFalse above =>
    obtain ⟨front, back, rfl, before, after⟩ := leads
    refine ⟨x :: front, back, rfl, ?_, after⟩
    exact List.forall_mem_cons.mpr ⟨not_le.mp above, before⟩

theorem Leading.unique {xs : List α} {best other : α} (leads : Leading key xs best)
    (leadsToo : Leading key xs other) : best = other := by
  obtain ⟨front, back, split, before, after⟩ := leads
  obtain ⟨front', back', split', before', after'⟩ := leadsToo
  -- The one that stands first has a key below the other's, so the other does not lead.
  rcases List.append_eq_append_iff.mp (split.symm.trans split') with
    ⟨between, front_eq, rest_eq⟩ | ⟨between, front_eq, rest_eq⟩
  · cases between with
    | nil => exact (List.cons.inj rest_eq).1
    | cons head between =>
        obtain ⟨rfl, back_eq⟩ := List.cons.inj rest_eq
        have later : other ∈ back := by simp [back_eq]
        have earlier : best ∈ front' := by simp [front_eq]
        exact absurd (after other later) (not_le.mpr (before' best earlier))
  · cases between with
    | nil => exact (List.cons.inj rest_eq).1.symm
    | cons head between =>
        obtain ⟨rfl, back_eq⟩ := List.cons.inj rest_eq
        have later : best ∈ back' := by simp [back_eq]
        have earlier : other ∈ front := by simp [front_eq]
        exact absurd (after' best later) (not_le.mpr (before other earlier))

theorem head?_sortOn_cons (x : α) (xs : List α) :
    (sortOn key (x :: xs)).head? = some
      (match (sortOn key xs).head? with
      | none => x
      | some best => if key x ≤ key best then x else best) := by
  change (List.orderedInsert _ x (sortOn key xs)).head? = _
  cases sortOn key xs with
  | nil => rfl
  | cons best rest =>
      rw [List.orderedInsert_cons, List.head?_cons]
      split <;> simp_all

/-- The first element of the sorted list is the first with the least key. -/
theorem head?_sortOn_eq_some_iff {xs : List α} {best : α} :
    (sortOn key xs).head? = some best ↔ Leading key xs best := by
  have leads : ∀ {xs : List α} {best : α}, (sortOn key xs).head? = some best →
      Leading key xs best := by
    intro xs
    induction xs with
    | nil => simp [sortOn]
    | cons x xs induction =>
        intro best first
        rw [head?_sortOn_cons, Option.some.injEq] at first
        match outcome : (sortOn key xs).head? with
        | none =>
            have empty : sortOn key xs = [] := List.head?_eq_none_iff.mp outcome
            have none_left := congrArg List.length empty
            obtain rfl : xs = [] := List.eq_nil_of_length_eq_zero (by simpa using none_left)
            obtain rfl : x = best := by simpa [outcome] using first
            exact ⟨[], [], rfl, by simp, by simp⟩
        | some least =>
            rw [outcome] at first
            exact first ▸ (induction outcome).cons x
  refine ⟨leads, fun given => ?_⟩
  match outcome : (sortOn key xs).head? with
  | none =>
      have empty : sortOn key xs = [] := List.head?_eq_none_iff.mp outcome
      have member : best ∈ sortOn key xs := (mem_sortOn key).mpr given.mem
      exact absurd (empty ▸ member) List.not_mem_nil
  | some first => rw [(leads outcome).unique given]

end Foundation
