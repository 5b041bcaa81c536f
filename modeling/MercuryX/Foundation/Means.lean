import Mathlib.Algebra.Order.BigOperators.Group.List
import Mathlib.Tactic

/-!
# Means and spreads

The mean of some values lies between them and rises with them, and their spread is the greatest
difference between any two of them.
-/

namespace Foundation

/-- The mean of values. -/
def mean (values : List ℚ) : ℚ := values.sum / values.length

/-- The difference between the greatest and the least value. -/
def spread (values : List ℚ) : ℚ := values.max?.getD 0 - values.min?.getD 0

section Means

variable {values others : List ℚ}

theorem length_pos_of_mem {value : ℚ} (member : value ∈ values) : (0 : ℚ) < values.length := by
  exact_mod_cast List.length_pos_of_mem member

theorem exists_mean_between (nonempty : values ≠ []) :
    ∃ low ∈ values, ∃ high ∈ values, low ≤ mean values ∧ mean values ≤ high := by
  obtain ⟨first, member⟩ := List.exists_mem_of_ne_nil values nonempty
  have positive := length_pos_of_mem member
  have scaled : mean values * values.length = values.sum := div_mul_cancel₀ _ positive.ne'
  have below : ∃ low ∈ values, low ≤ mean values := by
    by_contra above
    push Not at above
    have sum := List.sum_lt_sum_of_ne_nil nonempty (fun _ => mean values) id above
    rw [List.map_const', List.sum_replicate, nsmul_eq_mul, List.map_id] at sum
    linarith
  have above : ∃ high ∈ values, mean values ≤ high := by
    by_contra below
    push Not at below
    have sum := List.sum_lt_sum_of_ne_nil nonempty id (fun _ => mean values) below
    rw [List.map_const', List.sum_replicate, nsmul_eq_mul, List.map_id] at sum
    linarith
  obtain ⟨low, lowMember, low_le⟩ := below
  obtain ⟨high, highMember, le_high⟩ := above
  exact ⟨low, lowMember, high, highMember, low_le, le_high⟩

theorem mean_mono (raised : List.Forall₂ (· ≤ ·) values others) : mean values ≤ mean others := by
  rw [mean, mean, raised.length_eq]
  exact div_le_div_of_nonneg_right raised.sum_le_sum (Nat.cast_nonneg _)

theorem mean_perm (perm : values.Perm others) : mean values = mean others := by
  rw [mean, mean, perm.sum_eq, perm.length_eq]

theorem spread_le_iff (nonempty : values ≠ []) {bound : ℚ} :
    spread values ≤ bound ↔ ∀ left ∈ values, ∀ right ∈ values, left - right ≤ bound := by
  obtain ⟨greatest, isGreatest⟩ : ∃ greatest, values.max? = some greatest :=
    Option.ne_none_iff_exists'.mp (mt List.max?_eq_none_iff.mp nonempty)
  obtain ⟨least, isLeast⟩ : ∃ least, values.min? = some least :=
    Option.ne_none_iff_exists'.mp (mt List.min?_eq_none_iff.mp nonempty)
  obtain ⟨greatestMember, above⟩ := List.max?_eq_some_iff.mp isGreatest
  obtain ⟨leastMember, below⟩ := List.min?_eq_some_iff.mp isLeast
  rw [spread, isGreatest, isLeast, Option.getD_some, Option.getD_some]
  constructor
  · intro within left leftMember right rightMember
    have := above left leftMember
    have := below right rightMember
    linarith
  · intro within
    exact within greatest greatestMember least leastMember

end Means

end Foundation
