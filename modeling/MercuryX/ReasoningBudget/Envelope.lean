import MercuryX.ReasoningBudget.Lifecycle

/-!
# The envelope of an allocation

The compute of a candidate is divided into five shares, and each is rounded to six decimal places on
its own. What rounding adds depends on the compute alone, counted in millionths, and on how many
shares stay below their caps: the total exceeds the compute for some remainders after the last ten
millionths.
-/

namespace MercuryX
namespace ReasoningBudget

open Foundation

/-- How many of the shares of verification and speculation are a fifth of the compute, below their
caps. -/
def uncappedShares (candidate : ReasoningBudgetCandidate) : ℕ :=
  (if candidate.computeUnits * (2 / 10) ≤ candidate.verificationDepth * (15 / 10) then 1 else 0) +
    if candidate.computeUnits * (2 / 10) ≤ max 0 (candidate.speculationWidth - 1 : Int) * 2
    then 1 else 0

/-- The remainders, in millionths after the last ten, that rounding does not exceed, for a number of
shares below their caps. -/
def FitsRemainder : ℕ → ℚ → Prop
  | 0, rest => rest ≤ 5 / 8 ∨ (1 ≤ rest ∧ rest < 15 / 8) ∨ (2 ≤ rest ∧ rest < 5) ∨
      (8 ≤ rest ∧ rest ≤ 65 / 8) ∨ (9 ≤ rest ∧ rest < 75 / 8)
  | 1, rest => rest ≤ 5 / 6 ∨ (1 ≤ rest ∧ rest ≤ 5 / 2) ∨ (3 ≤ rest ∧ rest < 5) ∨
      (7 ≤ rest ∧ rest < 15 / 2) ∨ (9 ≤ rest ∧ rest < 55 / 6)
  | _ + 2, rest => rest ≤ 5 / 2 ∨ (3 ≤ rest ∧ rest < 15 / 4) ∨ (4 ≤ rest ∧ rest < 5) ∨
      (6 ≤ rest ∧ rest ≤ 25 / 4) ∨ (7 ≤ rest ∧ rest < 15 / 2)

/-- The compute of a candidate, in millionths. -/
def microUnits (candidate : ReasoningBudgetCandidate) : ℚ := candidate.computeUnits * 10 ^ 6

/-- The rounded shares of a candidate fit into its compute: exactly five millionths are left after
an even number of tens, or the remainder is one that rounding does not exceed. -/
def Enveloped (candidate : ReasoningBudgetCandidate) : Prop :=
  let tens := ⌊microUnits candidate / 10⌋
  let rest := microUnits candidate - 10 * tens
  (rest = 5 ∧ tens % 2 = 0) ∨ FitsRemainder (uncappedShares candidate) rest

/-! ## Rounding a remainder -/

section Remainders

variable {tens : ℤ} {rest : ℚ}

/-- A tenth of the compute is rounded up where more than five millionths are left, or five after an
odd number of tens. -/
theorem roundEven_tenth (lower : 0 ≤ rest) (upper : rest < 10) :
    roundEven ((10 * tens + rest) / 10) =
      tens + if rest < 5 ∨ (rest = 5 ∧ tens % 2 = 0) then 0 else 1 := by
  have floor : ⌊(10 * tens + rest) / 10⌋ = tens := by
    rw [Int.floor_eq_iff]
    constructor <;> linarith
  have part : (10 * tens + rest) / 10 - tens = rest / 10 := by ring
  rw [roundEven, floor, part]
  rcases lt_trichotomy rest 5 with small | rfl | large
  · rw [if_pos (by linarith), if_pos (.inl small), add_zero]
  · norm_num
    split_ifs <;> omega
  · have notTie : ¬ (rest < 5 ∨ (rest = 5 ∧ tens % 2 = 0)) := by
      rintro (small | ⟨equal, _⟩) <;> linarith
    rw [if_neg (by linarith), if_pos (by linarith), if_neg notTie]

/-! Each pair of rounded shares leaves one interval of remainders, and most leave none. -/

/-- What the rounded shares come to after the last ten millionths, where both shares are at their
caps. -/
theorem rounded_rest_le_iff_none (lower : 0 ≤ rest) (upper : rest < 10) {up : ℤ}
    (rounded : (up = 0 ∧ rest < 5) ∨ (up = 1 ∧ 5 < rest)) :
    (2 * up + roundEven (4 * rest / 5) : ℚ) ≤ rest ↔ FitsRemainder 0 rest := by
  have low : -1 < roundEven (4 * rest / 5) := lt_roundEven (by push_cast; linarith)
  have high : roundEven (4 * rest / 5) < 9 := roundEven_lt (by push_cast; linarith)
  obtain ⟨below, above, odd⟩ := roundEven_bounds (4 * rest / 5)
  generalize roundEven (4 * rest / 5) = main at *
  interval_cases main <;> norm_num at below above odd <;>
    rcases rounded with ⟨rfl, side⟩ | ⟨rfl, side⟩ <;> norm_num [FitsRemainder] <;> grind

/-- The same where one share is below its cap. -/
theorem rounded_rest_le_iff_one (lower : 0 ≤ rest) (upper : rest < 10) {up : ℤ}
    (rounded : (up = 0 ∧ rest < 5) ∨ (up = 1 ∧ 5 < rest)) :
    (2 * up + roundEven (rest / 5) + roundEven (3 * rest / 5) : ℚ) ≤ rest ↔
      FitsRemainder 1 rest := by
  have low : -1 < roundEven (3 * rest / 5) := lt_roundEven (by push_cast; linarith)
  have high : roundEven (3 * rest / 5) < 7 := roundEven_lt (by push_cast; linarith)
  have fifthLow : -1 < roundEven (rest / 5) := lt_roundEven (by push_cast; linarith)
  have fifthHigh : roundEven (rest / 5) < 3 := roundEven_lt (by push_cast; linarith)
  obtain ⟨below, above, odd⟩ := roundEven_bounds (3 * rest / 5)
  obtain ⟨fifthBelow, fifthAbove, fifthOdd⟩ := roundEven_bounds (rest / 5)
  generalize roundEven (3 * rest / 5) = main at *
  generalize roundEven (rest / 5) = fifth at *
  interval_cases main <;> norm_num at below above odd <;>
    interval_cases fifth <;> norm_num at fifthBelow fifthAbove fifthOdd <;>
    first
    | (exfalso; linarith)
    | (rcases rounded with ⟨rfl, side⟩ | ⟨rfl, side⟩ <;> norm_num [FitsRemainder] <;> grind)

/-- The same where both shares are below their caps. -/
theorem rounded_rest_le_iff_two (lower : 0 ≤ rest) (upper : rest < 10) {up : ℤ}
    (rounded : (up = 0 ∧ rest < 5) ∨ (up = 1 ∧ 5 < rest)) :
    (2 * up + 2 * roundEven (rest / 5) + roundEven (2 * rest / 5) : ℚ) ≤ rest ↔
      FitsRemainder 2 rest := by
  have low : -1 < roundEven (2 * rest / 5) := lt_roundEven (by push_cast; linarith)
  have high : roundEven (2 * rest / 5) < 5 := roundEven_lt (by push_cast; linarith)
  have fifthLow : -1 < roundEven (rest / 5) := lt_roundEven (by push_cast; linarith)
  have fifthHigh : roundEven (rest / 5) < 3 := roundEven_lt (by push_cast; linarith)
  obtain ⟨below, above, odd⟩ := roundEven_bounds (2 * rest / 5)
  obtain ⟨fifthBelow, fifthAbove, fifthOdd⟩ := roundEven_bounds (rest / 5)
  generalize roundEven (2 * rest / 5) = main at *
  generalize roundEven (rest / 5) = fifth at *
  interval_cases main <;> norm_num at below above odd <;>
    interval_cases fifth <;> norm_num at fifthBelow fifthAbove fifthOdd <;>
    first
    | (exfalso; linarith)
    | (rcases rounded with ⟨rfl, side⟩ | ⟨rfl, side⟩ <;> norm_num [FitsRemainder] <;> grind)

end Remainders

/-! ## The total of an allocation -/

section Total

variable {candidate : ReasoningBudgetCandidate}

/-- A share in millionths is a fifth of the compute below its cap, and an even number at it. -/
theorem verificationShare_cases (candidate : ReasoningBudgetCandidate) :
    (candidate.computeUnits * (2 / 10) ≤ candidate.verificationDepth * (15 / 10) ∧
      verificationShare candidate * 10 ^ 6 = microUnits candidate / 5) ∨
    (¬ candidate.computeUnits * (2 / 10) ≤ candidate.verificationDepth * (15 / 10) ∧
      ∃ half : ℤ, verificationShare candidate * 10 ^ 6 = 2 * half) := by
  by_cases below : candidate.computeUnits * (2 / 10) ≤ candidate.verificationDepth * (15 / 10)
  · refine .inl ⟨below, ?_⟩
    rw [verificationShare, min_eq_left below, microUnits]
    ring
  · refine .inr ⟨below, 750000 * candidate.verificationDepth, ?_⟩
    rw [verificationShare, min_eq_right (not_le.mp below).le]
    push_cast
    ring

theorem speculationShare_cases (candidate : ReasoningBudgetCandidate) :
    (candidate.computeUnits * (2 / 10) ≤ max 0 (candidate.speculationWidth - 1 : Int) * 2 ∧
      speculationShare candidate * 10 ^ 6 = microUnits candidate / 5) ∨
    (¬ candidate.computeUnits * (2 / 10) ≤ max 0 (candidate.speculationWidth - 1 : Int) * 2 ∧
      ∃ half : ℤ, speculationShare candidate * 10 ^ 6 = 2 * half) := by
  by_cases below : candidate.computeUnits * (2 / 10) ≤
    max 0 (candidate.speculationWidth - 1 : Int) * 2
  · refine .inl ⟨below, ?_⟩
    rw [speculationShare, min_eq_left below, microUnits]
    ring
  · refine .inr ⟨below, 1000000 * max 0 (candidate.speculationWidth - 1), ?_⟩
    rw [speculationShare, min_eq_right (not_le.mp below).le]
    push_cast
    ring

theorem roundTo_six_mul (value : ℚ) : roundTo 6 value * 10 ^ 6 = roundEven (value * 10 ^ 6) := by
  rw [roundTo, div_mul_cancel₀]
  positivity

theorem primaryShare_eq (candidate : ReasoningBudgetCandidate) :
    max 0 (candidate.computeUnits - verificationShare candidate - speculationShare candidate -
      candidate.computeUnits * (1 / 10) - candidate.computeUnits * (1 / 10)) * 10 ^ 6 =
      4 * microUnits candidate / 5 - verificationShare candidate * 10 ^ 6 -
        speculationShare candidate * 10 ^ 6 := by
  have positive := candidate.compute_pos
  have verification : verificationShare candidate ≤ candidate.computeUnits * (2 / 10) :=
    min_le_left _ _
  have speculation : speculationShare candidate ≤ candidate.computeUnits * (2 / 10) :=
    min_le_left _ _
  rw [max_eq_right (by linarith), microUnits]
  ring

theorem total_allocation (candidate : ReasoningBudgetCandidate) :
    (allocation candidate).total * 10 ^ 6 =
      roundEven (4 * microUnits candidate / 5 - verificationShare candidate * 10 ^ 6 -
        speculationShare candidate * 10 ^ 6) +
      roundEven (verificationShare candidate * 10 ^ 6) +
      roundEven (speculationShare candidate * 10 ^ 6) +
      2 * roundEven (microUnits candidate / 10) := by
  have tenth : candidate.computeUnits * (1 / 10) * 10 ^ 6 = microUnits candidate / 10 := by
    rw [microUnits]
    ring
  simp only [BudgetAllocation.total, allocation, add_mul, roundTo_six_mul, primaryShare_eq, tenth]
  ring

/-- An even number is taken out of a rounded number. -/
theorem roundEven_sub_even (value : ℚ) (half : ℤ) :
    roundEven (value - 2 * half) = roundEven value - 2 * half := by
  have shifted := roundEven_add_even (value - 2 * half) half
  rw [sub_add_cancel] at shifted
  omega

/-- Caps do not matter to the total, but for how many shares are below them. -/
theorem total_eq (candidate : ReasoningBudgetCandidate) :
    (allocation candidate).total * 10 ^ 6 =
      2 * roundEven (microUnits candidate / 10) +
        uncappedShares candidate * roundEven (microUnits candidate / 5) +
        roundEven ((4 - uncappedShares candidate) * microUnits candidate / 5) := by
  rw [total_allocation, uncappedShares]
  rcases verificationShare_cases candidate with ⟨below, share⟩ | ⟨above, half, share⟩ <;>
    rcases speculationShare_cases candidate with
      ⟨otherBelow, otherShare⟩ | ⟨otherAbove, otherHalf, otherShare⟩
  · have rest : 4 * microUnits candidate / 5 - microUnits candidate / 5 -
        microUnits candidate / 5 = (4 - (2 : ℕ)) * microUnits candidate / 5 := by
      push_cast
      ring
    rw [share, otherShare, if_pos below, if_pos otherBelow, rest]
    push_cast
    ring
  · have rest : 4 * microUnits candidate / 5 - microUnits candidate / 5 =
        (4 - (1 : ℕ)) * microUnits candidate / 5 := by
      push_cast
      ring
    rw [share, otherShare, if_pos below, if_neg otherAbove, roundEven_sub_even, roundEven_even,
      rest]
    push_cast
    ring
  · have rest : 4 * microUnits candidate / 5 - 2 * half - microUnits candidate / 5 =
        (4 - (1 : ℕ)) * microUnits candidate / 5 - 2 * half := by
      push_cast
      ring
    rw [share, otherShare, if_neg above, if_pos otherBelow, rest, roundEven_sub_even,
      roundEven_even]
    push_cast
    ring
  · rw [share, otherShare, if_neg above, if_neg otherAbove, roundEven_sub_even, roundEven_sub_even,
      roundEven_even, roundEven_even]
    push_cast
    simp only [add_zero, sub_zero, zero_mul]
    ring

theorem uncappedShares_le (candidate : ReasoningBudgetCandidate) :
    uncappedShares candidate ≤ 2 := by
  unfold uncappedShares
  split_ifs <;> decide

/-- After the last ten millionths, the total exceeds the tens as the rounded remainder does. -/
theorem total_eq_tens_add {tens : ℤ} {rest : ℚ} (split : microUnits candidate = 10 * tens + rest)
    (lower : 0 ≤ rest) (upper : rest < 10) :
    (allocation candidate).total * 10 ^ 6 = 10 * tens +
      (2 * (if rest < 5 ∨ (rest = 5 ∧ tens % 2 = 0) then 0 else 1 : ℤ) +
        uncappedShares candidate * roundEven (rest / 5) +
        roundEven ((4 - uncappedShares candidate) * rest / 5) : ℚ) := by
  have fifth : (10 * tens + rest) / 5 = rest / 5 + 2 * tens := by ring
  have main : (4 - uncappedShares candidate) * (10 * tens + rest) / 5 =
      (4 - uncappedShares candidate) * rest / 5 +
        2 * ((4 - uncappedShares candidate) * tens : ℤ) := by
    push_cast
    ring
  rw [total_eq, split, roundEven_tenth lower upper, fifth, main, roundEven_add_even,
    roundEven_add_even]
  push_cast
  ring

/-- Five millionths left are rounded up after an odd number of tens only. -/
theorem rounded_five_le_iff {uncapped : ℕ} (few : uncapped ≤ 2) (up : ℤ) :
    (2 * up + uncapped * roundEven (5 / 5) + roundEven ((4 - uncapped) * 5 / 5) : ℚ) ≤ 5 ↔
      2 * up ≤ 1 := by
  have one : roundEven (5 / 5) = 1 := by decide +kernel
  have main : roundEven ((4 - uncapped) * 5 / 5 : ℚ) = 4 - uncapped := by
    interval_cases uncapped <;> decide +kernel
  rw [one, main]
  push_cast
  constructor
  · intro within
    exact_mod_cast (by linarith : (2 * up : ℚ) ≤ 1)
  · intro within
    have cast : (2 * up : ℚ) ≤ 1 := by exact_mod_cast within
    linarith

theorem not_fitsRemainder_five (uncapped : ℕ) : ¬ FitsRemainder uncapped 5 := by
  match uncapped with
  | 0 | 1 | _ + 2 => norm_num [FitsRemainder]

/-- The total of an allocation is within the compute of the candidate exactly where the rounded
shares fit into it. -/
theorem total_le_iff : (allocation candidate).total ≤ candidate.computeUnits ↔
    Enveloped candidate := by
  have scaled : (allocation candidate).total ≤ candidate.computeUnits ↔
      (allocation candidate).total * 10 ^ 6 ≤ microUnits candidate :=
    (mul_le_mul_iff_of_pos_right (by positivity)).symm
  have few := uncappedShares_le candidate
  let tens := ⌊microUnits candidate / 10⌋
  let rest := microUnits candidate - 10 * tens
  have split : microUnits candidate = 10 * tens + rest := (add_sub_cancel _ _).symm
  have lower : 0 ≤ rest := by
    have floor : (tens : ℚ) ≤ microUnits candidate / 10 := Int.floor_le _
    linarith
  have upper : rest < 10 := by
    have floor : microUnits candidate / 10 < tens + 1 := Int.lt_floor_add_one _
    linarith
  rw [scaled, total_eq_tens_add split lower upper]
  change _ ↔ (rest = 5 ∧ tens % 2 = 0) ∨ FitsRemainder (uncappedShares candidate) rest
  rw [split, add_le_add_iff_left]
  clear_value rest tens
  rcases eq_or_ne rest 5 with rfl | apart
  · rw [rounded_five_le_iff few, or_iff_left (not_fitsRemainder_five _)]
    by_cases even : tens % 2 = 0 <;> simp [even]
  · have notFive : ¬ (rest = 5 ∧ tens % 2 = 0) := fun five => apart five.1
    rw [or_iff_right notFive]
    have rounded : ((if rest < 5 ∨ (rest = 5 ∧ tens % 2 = 0) then 0 else 1 : ℤ) = 0 ∧ rest < 5) ∨
        ((if rest < 5 ∨ (rest = 5 ∧ tens % 2 = 0) then 0 else 1 : ℤ) = 1 ∧ 5 < rest) := by
      rcases lt_or_gt_of_ne apart with below | above
      · exact .inl ⟨if_pos (.inl below), below⟩
      · exact .inr ⟨if_neg (by simp [above.le, apart]), above⟩
    generalize (if rest < 5 ∨ (rest = 5 ∧ tens % 2 = 0) then 0 else 1 : ℤ) = up at *
    generalize uncappedShares candidate = uncapped at *
    interval_cases uncapped
    · simpa using rounded_rest_le_iff_none lower upper rounded
    · have one : (4 - (1 : ℕ) : ℚ) = 3 := by norm_num
      rw [one, Nat.cast_one, one_mul]
      exact rounded_rest_le_iff_one lower upper rounded
    · have two : (4 - (2 : ℕ) : ℚ) = 2 := by norm_num
      rw [two, Nat.cast_ofNat]
      exact rounded_rest_le_iff_two lower upper rounded

end Total

/-! ## Within the envelope -/

/-- An allocation keeps within the envelope: its units are not negative, and together they are
within the compute of the candidate and within the ceiling of the request. -/
structure KeepsEnvelope (request : ReasoningBudgetRequest) (candidate : ReasoningBudgetCandidate)
    (made : BudgetAllocation) : Prop where
  nonneg : ∀ units ∈ [made.primaryReasoningUnits, made.verificationUnits, made.speculationUnits,
    made.escalationUnits, made.aggregationUnits], 0 ≤ units
  within_candidate : made.total ≤ candidate.computeUnits
  within_request : made.total ≤ request.maxComputeUnits

theorem allocateBudget_eq_ok_iff {request : ReasoningBudgetRequest}
    {candidate : ReasoningBudgetCandidate} {made : BudgetAllocation} :
    allocateBudget request candidate = .ok made ↔
      candidate.computeUnits ≤ request.maxComputeUnits ∧
        request.verificationDepthMin ≤ candidate.verificationDepth ∧
        allocation candidate = made := by
  simp [allocateBudget]

/-- An allocation that is made keeps within the envelope exactly where the rounded shares fit into
the compute of the candidate. -/
theorem keepsEnvelope_iff (request : ReasoningBudgetRequest) (candidate : ReasoningBudgetCandidate)
    (made : BudgetAllocation) (accepted : allocateBudget request candidate = .ok made) :
    KeepsEnvelope request candidate made ↔ Enveloped candidate := by
  obtain ⟨affordable, _, rfl⟩ := allocateBudget_eq_ok_iff.mp accepted
  rw [← total_le_iff]
  exact ⟨fun keeps => keeps.within_candidate, fun within =>
    ⟨(allocation candidate).units_nonneg, within, within.trans affordable⟩⟩

/-- One unit of compute is kept within. -/
theorem keepsEnvelope_modest : KeepsEnvelope strictRequest modest (allocation modest) := by
  have accepted : allocateBudget strictRequest modest = .ok (allocation modest) :=
    allocateBudget_eq_ok_iff.mpr ⟨modest_checked.compute, modest_checked.verification, rfl⟩
  refine (keepsEnvelope_iff strictRequest modest (allocation modest) accepted).mpr (.inr ?_)
  have micro : microUnits modest = 10 * (100000 : ℤ) := by
    norm_num [microUnits, modest, candidateWith]
  have tens : ⌊microUnits modest / 10⌋ = 100000 := by
    rw [micro]
    norm_num
  have uncapped : uncappedShares modest = 0 := by decide +kernel
  rw [tens, micro, sub_self, uncapped]
  norm_num [FitsRemainder]

/-! ## Eight millionths more -/

theorem drifting_pos : (0 : ℚ) < 1000008 / 1000000 := by
  norm_num

theorem drifting_amounts : ∀ amount ∈ [(1 : Int), 1, 2], 1 ≤ amount := by
  decide

/-- A request with just the compute of the candidate. -/
def driftingRequest : ReasoningBudgetRequest :=
  { strictRequest with maxComputeUnits := 1000008 / 1000000, compute_pos := drifting_pos }

/-- A candidate with verification and two branches, of one unit of compute and eight millionths. -/
def driftingCandidate : ReasoningBudgetCandidate :=
  { modest with
    computeUnits := 1000008 / 1000000
    verificationDepth := 1
    speculationWidth := 2
    compute_pos := drifting_pos
    verification_nonneg := zero_le_one
    amounts_pos := drifting_amounts }

/-- The rounded shares come to nine millionths more than one unit. -/
theorem total_drifting : (allocation driftingCandidate).total = 1000009 / 1000000 := by
  decide +kernel

/-- An allocation that is made exceeds the compute of its candidate, and the ceiling. -/
theorem allocation_exceeds_compute :
    allocateBudget driftingRequest driftingCandidate = .ok (allocation driftingCandidate) ∧
      driftingCandidate.computeUnits < (allocation driftingCandidate).total ∧
      driftingRequest.maxComputeUnits < (allocation driftingCandidate).total := by
  refine ⟨allocateBudget_eq_ok_iff.mpr ⟨le_rfl, zero_le_one, rfl⟩, ?_, ?_⟩
  · rw [total_drifting]
    norm_num [driftingCandidate]
  · rw [total_drifting]
    norm_num [driftingRequest]

end ReasoningBudget
end MercuryX
