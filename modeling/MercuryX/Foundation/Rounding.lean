import Mathlib.Data.Rat.Floor
import Mathlib.Tactic

/-!
# Rounding to decimal places

Rounding to the nearest number with a given count of decimal places, ties to even.
-/

namespace Foundation

/-- The nearest integer, the even one where two are as near. -/
def roundEven (value : ℚ) : ℤ :=
  if value - ⌊value⌋ < 1 / 2 then ⌊value⌋
  else if 1 / 2 < value - ⌊value⌋ then ⌊value⌋ + 1
  else ⌊value⌋ + ⌊value⌋ % 2

/-- The nearest number with a count of decimal places. -/
def roundTo (places : ℕ) (value : ℚ) : ℚ := roundEven (value * 10 ^ places) / 10 ^ places

theorem roundEven_nonneg {value : ℚ} (nonneg : 0 ≤ value) : 0 ≤ roundEven value := by
  have below : 0 ≤ ⌊value⌋ := Int.floor_nonneg.mpr nonneg
  unfold roundEven
  split_ifs <;> omega

/-- Rounding keeps the sign. -/
theorem roundTo_nonneg {places : ℕ} {value : ℚ} (nonneg : 0 ≤ value) :
    0 ≤ roundTo places value := by
  have scaled : (0 : ℚ) ≤ value * 10 ^ places := by positivity
  have rounded : (0 : ℚ) ≤ roundEven (value * 10 ^ places) := by
    exact_mod_cast roundEven_nonneg scaled
  exact div_nonneg rounded (by positivity)

/-- The nearest integer is at most a half away, and less where it is odd. -/
theorem roundEven_bounds (value : ℚ) :
    (roundEven value : ℚ) - 1 / 2 ≤ value ∧ value ≤ roundEven value + 1 / 2 ∧
      (roundEven value % 2 = 1 →
        (roundEven value : ℚ) - 1 / 2 < value ∧ value < roundEven value + 1 / 2) := by
  have below := Int.floor_le value
  have above := Int.lt_floor_add_one value
  unfold roundEven
  split_ifs with small large
  · exact ⟨by linarith, by linarith, fun _ => ⟨by linarith, by linarith⟩⟩
  · push_cast
    exact ⟨by linarith, by linarith, fun _ => ⟨by linarith, by linarith⟩⟩
  · have tie : value = ⌊value⌋ + 1 / 2 := by linarith
    rcases Int.emod_two_eq_zero_or_one ⌊value⌋ with even | odd
    · rw [even]
      exact ⟨by push_cast; linarith, by push_cast; linarith, fun odd => by omega⟩
    · rw [odd]
      exact ⟨by push_cast; linarith, by push_cast; linarith, fun even => by omega⟩

theorem roundEven_le {value : ℚ} {bound : ℤ} (small : value ≤ bound) : roundEven value ≤ bound := by
  have near := (roundEven_bounds value).1
  have close : (roundEven value : ℚ) < bound + 1 := by linarith
  exact Int.lt_add_one_iff.mp (by exact_mod_cast close)

theorem roundTo_le {places : ℕ} {value : ℚ} {bound : ℤ} (small : value ≤ bound) :
    roundTo places value ≤ bound := by
  have scale : (0 : ℚ) < 10 ^ places := by positivity
  have scaled : value * 10 ^ places ≤ (bound * 10 ^ places : ℤ) := by
    push_cast
    exact mul_le_mul_of_nonneg_right small scale.le
  have rounded : (roundEven (value * 10 ^ places) : ℚ) ≤ bound * 10 ^ places := by
    exact_mod_cast roundEven_le scaled
  exact (div_le_iff₀ scale).mpr rounded

theorem lt_roundEven {value : ℚ} {bound : ℤ} (far : bound + 1 / 2 < value) :
    bound < roundEven value := by
  have near := (roundEven_bounds value).2.1
  exact_mod_cast (by linarith : (bound : ℚ) < roundEven value)

theorem roundEven_lt {value : ℚ} {bound : ℤ} (far : value < bound - 1 / 2) :
    roundEven value < bound := by
  have near := (roundEven_bounds value).1
  exact_mod_cast (by linarith : (roundEven value : ℚ) < bound)

/-- Rounding keeps the order. -/
theorem roundEven_mono : Monotone roundEven := by
  intro left right below
  by_contra above
  have next : (roundEven right : ℚ) + 1 ≤ roundEven left := by exact_mod_cast not_le.mp above
  have low := (roundEven_bounds left).1
  have high := (roundEven_bounds right).2.1
  have same : left = right := by linarith
  exact above (by rw [same])

theorem roundTo_mono (places : ℕ) : Monotone (roundTo places) := by
  intro left right below
  have scaled : left * 10 ^ places ≤ right * 10 ^ places := by gcongr
  have rounded : (roundEven (left * 10 ^ places) : ℚ) ≤ roundEven (right * 10 ^ places) := by
    exact_mod_cast roundEven_mono scaled
  exact div_le_div_of_nonneg_right rounded (by positivity)

theorem roundEven_add_even (value : ℚ) (half : ℤ) :
    roundEven (value + 2 * half) = roundEven value + 2 * half := by
  have floor : ⌊value + 2 * half⌋ = ⌊value⌋ + 2 * half := by
    rw [← Int.floor_add_intCast]
    push_cast
    rfl
  have rest : value + 2 * half - (⌊value⌋ + 2 * half : ℤ) = value - ⌊value⌋ := by
    push_cast
    ring
  unfold roundEven
  rw [floor, rest]
  split_ifs <;> omega

/-- An even number is its own nearest. -/
theorem roundEven_even (half : ℤ) : roundEven (2 * half) = 2 * half := by
  have shifted := roundEven_add_even 0 half
  rw [zero_add] at shifted
  rw [shifted, show roundEven 0 = 0 by decide +kernel, zero_add]

example : roundTo 1 (25 / 100) = 2 / 10 := by decide +kernel

/-- The text of a number with a count of decimal places. -/
def fixedText (places : ℕ) (value : ℚ) : String :=
  let scaled := (roundEven (|value| * 10 ^ places)).toNat
  let part := Nat.toDigits 10 (scaled % 10 ^ places)
  String.ofList ((if value < 0 then [ '-'] else []) ++ Nat.toDigits 10 (scaled / 10 ^ places) ++
    [ '.'] ++ List.replicate (places - part.length) '0' ++ part)

end Foundation
