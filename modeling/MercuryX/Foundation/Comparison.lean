import Mathlib.Order.Basic
import Mathlib.Tactic

/-!
# Comparisons with a threshold

A requirement on a value that compares it with a threshold, and when one requirement entails
another. Operators other than the five comparisons are kept by name; what they mean is left open.
-/

namespace Foundation

/-- How a value is compared with a threshold. -/
inductive Comparison where
  /-- At least the threshold. -/
  | atLeast
  /-- Above the threshold. -/
  | above
  /-- At most the threshold. -/
  | atMost
  /-- Below the threshold. -/
  | below
  /-- Equal to the threshold. -/
  | equal
  /-- An operator that is known by its name alone. -/
  | named (name : String)
  deriving DecidableEq, Repr

namespace Comparison

/-- The comparison that an operator is read as. -/
def ofOperator : String → Comparison
  | ">=" => atLeast
  | ">" => above
  | "<=" => atMost
  | "<" => below
  | "==" => equal
  | name => named name

variable {α : Type*} [LinearOrder α]

/-- A value meets a comparison with a threshold, under a meaning of the named operators. -/
def Holds (meaning : String → α → α → Prop) : Comparison → α → α → Prop
  | atLeast, threshold, value => threshold ≤ value
  | above, threshold, value => threshold < value
  | atMost, threshold, value => value ≤ threshold
  | below, threshold, value => value < threshold
  | equal, threshold, value => value = threshold
  | named name, threshold, value => meaning name threshold value

/-- A comparison with a threshold is at least as tight as another: its bound lies on the same side
and no further out, and is not attained where the other is strict. -/
def entails : Comparison → α → Comparison → α → Bool
  | atLeast, new, atLeast, old => old ≤ new
  | above, new, atLeast, old => old ≤ new
  | equal, new, atLeast, old => old ≤ new
  | atLeast, new, above, old => old < new
  | above, new, above, old => old ≤ new
  | equal, new, above, old => old < new
  | atMost, new, atMost, old => new ≤ old
  | below, new, atMost, old => new ≤ old
  | equal, new, atMost, old => new ≤ old
  | atMost, new, below, old => new < old
  | below, new, below, old => new ≤ old
  | equal, new, below, old => new < old
  | equal, new, equal, old => new = old
  | named newName, new, named oldName, old => newName = oldName && new = old
  | _, _, _, _ => false

theorem Holds.of_entails {meaning : String → α → α → Prop} {new old : Comparison}
    {newThreshold oldThreshold value : α} (holds : new.Holds meaning newThreshold value)
    (entailed : new.entails newThreshold old oldThreshold) :
    old.Holds meaning oldThreshold value := by
  cases new <;> cases old <;> simp only [entails, Holds, decide_eq_true_eq, Bool.and_eq_true,
    Bool.false_eq_true] at holds entailed ⊢
  case named.named =>
    obtain ⟨rfl, rfl⟩ := entailed
    exact holds
  all_goals order

/-! ## Values that tell two comparisons apart -/

section Apart

variable [DenselyOrdered α] [NoMinOrder α] [NoMaxOrder α]

omit [DenselyOrdered α] in
/-- An operator that is known by its name alone may mean anything. -/
private theorem exists_apart_named {new : Comparison} {newThreshold oldThreshold : α}
    {name : String} (loose : ¬ new.entails newThreshold (named name) oldThreshold) :
    ∃ meaning value, new.Holds meaning newThreshold value ∧
      ¬ (named name).Holds meaning oldThreshold value := by
  cases new with
  | named other =>
      refine ⟨fun operator threshold _ => operator = other ∧ threshold = newThreshold,
        newThreshold, ⟨rfl, rfl⟩, ?_⟩
      rintro ⟨rfl, rfl⟩
      simp [entails] at loose
  | atLeast => exact ⟨fun _ _ _ => False, newThreshold, le_rfl, id⟩
  | above =>
      obtain ⟨value, larger⟩ := exists_gt newThreshold
      exact ⟨fun _ _ _ => False, value, larger, id⟩
  | atMost => exact ⟨fun _ _ _ => False, newThreshold, le_rfl, id⟩
  | below =>
      obtain ⟨value, smaller⟩ := exists_lt newThreshold
      exact ⟨fun _ _ _ => False, value, smaller, id⟩
  | equal => exact ⟨fun _ _ _ => False, newThreshold, rfl, id⟩

omit [DenselyOrdered α] in
private theorem exists_apart_equal {new : Comparison} {newThreshold oldThreshold : α}
    (loose : ¬ new.entails newThreshold equal oldThreshold) :
    ∃ meaning value, new.Holds meaning newThreshold value ∧
      ¬ equal.Holds meaning oldThreshold value := by
  obtain ⟨lowest, low⟩ := exists_lt (min newThreshold oldThreshold)
  obtain ⟨highest, high⟩ := exists_gt (max newThreshold oldThreshold)
  rw [lt_min_iff] at low
  rw [max_lt_iff] at high
  refine ⟨fun _ _ _ => True, ?_⟩
  cases new with
  | atLeast | above | named => exact ⟨highest, by simp [Holds, high.1, high.1.le], high.2.ne'⟩
  | atMost | below => exact ⟨lowest, by simp [Holds, low.1, low.1.le], low.2.ne⟩
  | equal => exact ⟨newThreshold, rfl, by simpa [entails, Holds] using loose⟩

omit [NoMaxOrder α] in
/-- Values far down, or just below a lower bound, fall short of it. -/
private theorem exists_apart_lower {new old : Comparison} {newThreshold oldThreshold : α}
    (lower : old = atLeast ∨ old = above)
    (loose : ¬ new.entails newThreshold old oldThreshold) :
    ∃ meaning value, new.Holds meaning newThreshold value ∧
      ¬ old.Holds meaning oldThreshold value := by
  obtain ⟨lowest, low⟩ := exists_lt (min newThreshold oldThreshold)
  rw [lt_min_iff] at low
  refine ⟨fun _ _ _ => True, ?_⟩
  cases new with
  | atMost | below | named =>
      refine ⟨lowest, by simp [Holds, low.1, low.1.le], ?_⟩
      rcases lower with rfl | rfl <;> simp [Holds, low.2, low.2.le]
  | atLeast | equal =>
      refine ⟨newThreshold, by simp [Holds], ?_⟩
      rcases lower with rfl | rfl <;> simpa [entails, Holds] using loose
  | above =>
      have under : newThreshold < oldThreshold := by
        rcases lower with rfl | rfl <;> simpa [entails] using loose
      obtain ⟨value, larger, short⟩ := exists_between under
      refine ⟨value, larger, ?_⟩
      rcases lower with rfl | rfl <;> simp [Holds, short, short.le]

omit [NoMinOrder α] in
/-- Values far up, or just above an upper bound, exceed it. -/
private theorem exists_apart_upper {new old : Comparison} {newThreshold oldThreshold : α}
    (upper : old = atMost ∨ old = below)
    (loose : ¬ new.entails newThreshold old oldThreshold) :
    ∃ meaning value, new.Holds meaning newThreshold value ∧
      ¬ old.Holds meaning oldThreshold value := by
  obtain ⟨highest, high⟩ := exists_gt (max newThreshold oldThreshold)
  rw [max_lt_iff] at high
  refine ⟨fun _ _ _ => True, ?_⟩
  cases new with
  | atLeast | above | named =>
      refine ⟨highest, by simp [Holds, high.1, high.1.le], ?_⟩
      rcases upper with rfl | rfl <;> simp [Holds, high.2, high.2.le]
  | atMost | equal =>
      refine ⟨newThreshold, by simp [Holds], ?_⟩
      rcases upper with rfl | rfl <;> simpa [entails, Holds] using loose
  | below =>
      have beyond : oldThreshold < newThreshold := by
        rcases upper with rfl | rfl <;> simpa [entails] using loose
      obtain ⟨value, exceeding, smaller⟩ := exists_between beyond
      refine ⟨value, smaller, ?_⟩
      rcases upper with rfl | rfl <;> simp [Holds, exceeding, exceeding.le]

/-- One comparison entails another exactly when, whatever the named operators mean, every value
that meets the first meets the second. -/
theorem entails_iff {new old : Comparison} {newThreshold oldThreshold : α} :
    new.entails newThreshold old oldThreshold ↔ ∀ meaning value,
      new.Holds meaning newThreshold value → old.Holds meaning oldThreshold value := by
  constructor
  · exact fun entailed meaning value holds => holds.of_entails entailed
  · intro tight
    by_contra loose
    have apart : ∃ meaning value, new.Holds meaning newThreshold value ∧
        ¬ old.Holds meaning oldThreshold value := by
      cases old with
      | atLeast => exact exists_apart_lower (.inl rfl) loose
      | above => exact exists_apart_lower (.inr rfl) loose
      | atMost => exact exists_apart_upper (.inl rfl) loose
      | below => exact exists_apart_upper (.inr rfl) loose
      | equal => exact exists_apart_equal loose
      | named => exact exists_apart_named loose
    obtain ⟨meaning, value, holds, fails⟩ := apart
    exact fails (tight meaning value holds)

end Apart

example : above.entails (1 : ℚ) atLeast 1 = true := by decide

end Comparison
end Foundation
