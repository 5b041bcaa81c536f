import Mathlib.Order.WellFoundedSet
import Mathlib.Tactic

/-!
# Frontiers

The items of a list that no item of it beats. Where beating is a strict order, every item that is
left out is beaten by one that stays.
-/

namespace Foundation

variable {α : Type*} (beats : α → α → Prop)

/-- No item of a list beats the item. -/
def Unbeaten (items : List α) (item : α) : Prop := ∀ other ∈ items, ¬ beats other item

variable {beats}

theorem exists_unbeaten [IsStrictOrder α beats] {items : List α} {item : α}
    (member : item ∈ items) :
    Unbeaten beats items item ∨ ∃ best ∈ items, Unbeaten beats items best ∧ beats best item := by
  have wellFounded : {other | other ∈ items}.WellFoundedOn beats :=
    (List.finite_toSet items).wellFoundedOn
  refine wellFounded.induction (P := fun item => Unbeaten beats items item ∨
    ∃ best ∈ items, Unbeaten beats items best ∧ beats best item) member fun item _ induction => ?_
  by_cases unbeaten : Unbeaten beats items item
  · exact .inl unbeaten
  · rw [Unbeaten] at unbeaten
    push Not at unbeaten
    obtain ⟨other, inside, beaten⟩ := unbeaten
    rcases induction other inside beaten with stays | ⟨best, bestMem, stays, above⟩
    · exact .inr ⟨other, inside, stays, beaten⟩
    · exact .inr ⟨best, bestMem, stays, trans_of beats above beaten⟩

end Foundation
