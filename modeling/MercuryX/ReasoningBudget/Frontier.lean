import MercuryX.Foundation.Frontier
import MercuryX.ReasoningBudget.Contracts

/-!
# The budget frontier

A candidate dominates another where no figure of it is worse and one is better. The frontier keeps
the candidates that no other dominates; a candidate without a quality estimate is never compared.
-/

namespace MercuryX
namespace ReasoningBudget

open Foundation

/-- The latency that a candidate is compared by; an unknown one counts as long. A known latency is
never zero, so the source's `or` replaces an unknown one only. -/
def comparedLatency (candidate : ReasoningBudgetCandidate) : Int :=
  candidate.expectedLatencyMs.getD (10 ^ 18)

/-- No figure of a candidate of some quality is worse than that of another. -/
def NoWorse (left right : ReasoningBudgetCandidate) (leftQuality rightQuality : ℚ) : Prop :=
  rightQuality ≤ leftQuality ∧ comparedLatency left ≤ comparedLatency right ∧
    left.computeUnits ≤ right.computeUnits ∧ right.verificationDepth ≤ left.verificationDepth ∧
    left.uncertainty ≤ right.uncertainty

/-- Some figure is better. -/
def Strictly (left right : ReasoningBudgetCandidate) (leftQuality rightQuality : ℚ) : Prop :=
  rightQuality < leftQuality ∨ comparedLatency left < comparedLatency right ∨
    left.computeUnits < right.computeUnits ∨ right.verificationDepth < left.verificationDepth ∨
    left.uncertainty < right.uncertainty

/-- A candidate dominates another: both have a quality estimate, and it is no worse in any figure
and better in one. -/
def Dominates (left right : ReasoningBudgetCandidate) : Prop :=
  match left.expectedQualityLow, right.expectedQualityLow with
  | some leftQuality, some rightQuality =>
      NoWorse left right leftQuality rightQuality ∧ Strictly left right leftQuality rightQuality
  | _, _ => False

instance (left right : ReasoningBudgetCandidate) (leftQuality rightQuality : ℚ) :
    Decidable (NoWorse left right leftQuality rightQuality) :=
  inferInstanceAs (Decidable (_ ∧ _))

instance (left right : ReasoningBudgetCandidate) (leftQuality rightQuality : ℚ) :
    Decidable (Strictly left right leftQuality rightQuality) :=
  inferInstanceAs (Decidable (_ ∨ _))

theorem dominates_of_qualities {left right : ReasoningBudgetCandidate}
    {leftQuality rightQuality : ℚ} (leftKnown : left.expectedQualityLow = some leftQuality)
    (rightKnown : right.expectedQualityLow = some rightQuality) :
    Dominates left right ↔
      NoWorse left right leftQuality rightQuality ∧
        Strictly left right leftQuality rightQuality := by
  simp only [Dominates, leftKnown, rightKnown]

theorem not_dominates_of_unknown {left right : ReasoningBudgetCandidate}
    (unknown : left.expectedQualityLow = none ∨ right.expectedQualityLow = none) :
    ¬ Dominates left right := by
  rcases unknown with unknown | unknown <;> simp [Dominates, unknown]

instance : DecidableRel Dominates := fun left right =>
  match leftKnown : left.expectedQualityLow, rightKnown : right.expectedQualityLow with
  | some _, some _ => decidable_of_iff' _ (dominates_of_qualities leftKnown rightKnown)
  | none, _ => .isFalse (not_dominates_of_unknown (.inl leftKnown))
  | some _, none => .isFalse (not_dominates_of_unknown (.inr rightKnown))

/-- The candidates that no other dominates, in the order of their ids. -/
def buildBudgetFrontier (candidates : List ReasoningBudgetCandidate) :
    List ReasoningBudgetCandidate :=
  let ordered := sortOn ReasoningBudgetCandidate.candidateId candidates
  ordered.filter fun candidate => ¬ ∃ other ∈ ordered,
    other.candidateId ≠ candidate.candidateId ∧ Dominates other candidate

/-! ## Dominance is a strict order -/

/-- The figures of a candidate of some quality, less being better. -/
def figures (candidate : ReasoningBudgetCandidate) (quality : ℚ) :
    ℚᵒᵈ × Int × ℚ × Intᵒᵈ × ℚ :=
  (OrderDual.toDual quality, comparedLatency candidate, candidate.computeUnits,
    OrderDual.toDual candidate.verificationDepth, candidate.uncertainty)

theorem dominates_iff {left right : ReasoningBudgetCandidate} :
    Dominates left right ↔ ∃ leftQuality ∈ left.expectedQualityLow,
      ∃ rightQuality ∈ right.expectedQualityLow,
        figures left leftQuality < figures right rightQuality := by
  cases leftKnown : left.expectedQualityLow with
  | none => simp [not_dominates_of_unknown (.inl leftKnown)]
  | some leftQuality =>
      cases rightKnown : right.expectedQualityLow with
      | none => simp [not_dominates_of_unknown (.inr rightKnown)]
      | some rightQuality =>
          rw [dominates_of_qualities leftKnown rightKnown]
          simp only [Option.mem_def, Option.some.injEq, exists_eq_left', figures,
            lt_iff_le_not_ge, Prod.mk_le_mk, OrderDual.toDual_le_toDual, NoWorse, Strictly]
          refine and_congr_right fun _ => ?_
          simp only [not_and_or, not_le]
          tauto

instance : IsStrictOrder ReasoningBudgetCandidate Dominates where
  irrefl candidate := by
    rw [dominates_iff]
    rintro ⟨quality, known, other, alsoKnown, below⟩
    obtain rfl := Option.mem_unique known alsoKnown
    exact lt_irrefl _ below
  trans first second third := by
    simp only [dominates_iff]
    rintro ⟨firstQuality, firstKnown, secondQuality, secondKnown, below⟩
      ⟨quality, known, thirdQuality, thirdKnown, above⟩
    obtain rfl := Option.mem_unique secondKnown known
    exact ⟨firstQuality, firstKnown, thirdQuality, thirdKnown, below.trans above⟩

/-! ## The frontier -/

/-- The frontier of some candidates: the maximal ones under dominance. -/
structure BudgetFrontier (candidates frontier : List ReasoningBudgetCandidate) : Prop where
  /-- It keeps exactly the candidates that no candidate dominates. -/
  exact : ∀ candidate, candidate ∈ frontier ↔
    candidate ∈ candidates ∧ Unbeaten Dominates candidates candidate
  /-- Each is kept once, in the order of the ids. -/
  sorted : frontier.Pairwise fun earlier later => earlier.candidateId < later.candidateId
  /-- No candidate kept dominates another. -/
  apart : ∀ candidate ∈ frontier, ∀ other ∈ frontier, ¬ Dominates other candidate
  /-- Every candidate left out is dominated by one that is kept. -/
  covered : ∀ candidate ∈ candidates, candidate ∉ frontier →
    ∃ best ∈ frontier, Dominates best candidate
  /-- A candidate without a quality estimate is kept. -/
  unestimated : ∀ candidate ∈ candidates, candidate.expectedQualityLow = none →
    candidate ∈ frontier

variable {candidates : List ReasoningBudgetCandidate}

/-- Among candidates with distinct ids, exactly the undominated ones are kept. -/
theorem mem_buildBudgetFrontier_iff
    (distinct : (candidates.map ReasoningBudgetCandidate.candidateId).Nodup)
    {candidate : ReasoningBudgetCandidate} : candidate ∈ buildBudgetFrontier candidates ↔
      candidate ∈ candidates ∧ Unbeaten Dominates candidates candidate := by
  simp only [buildBudgetFrontier, List.mem_filter, mem_sortOn, decide_eq_true_eq, Unbeaten]
  refine and_congr_right fun member => ?_
  constructor
  · intro undominated other otherMember dominates
    refine undominated ⟨other, otherMember, fun same => ?_, dominates⟩
    obtain rfl := List.inj_on_of_nodup_map distinct otherMember member same
    exact irrefl_of Dominates other dominates
  · rintro undominated ⟨other, otherMember, _, dominates⟩
    exact undominated other otherMember dominates

theorem sorted_buildBudgetFrontier
    (distinct : (candidates.map ReasoningBudgetCandidate.candidateId).Nodup) :
    (buildBudgetFrontier candidates).Pairwise fun earlier later =>
      earlier.candidateId < later.candidateId := by
  refine List.Pairwise.filter _ ?_
  have sorted := sortOn_pairwise ReasoningBudgetCandidate.candidateId candidates
  have apart := ((sortOn_perm ReasoningBudgetCandidate.candidateId candidates).map
    ReasoningBudgetCandidate.candidateId).nodup_iff.mpr distinct
  exact (sorted.and (List.pairwise_map.mp apart)).imp fun order => lt_of_le_of_ne order.1 order.2

/-- The frontier of candidates with distinct ids holds the maximal ones under dominance, a strict
order, whatever the order of the candidates. -/
theorem budgetFrontier_buildBudgetFrontier (candidates : List ReasoningBudgetCandidate)
    (distinct : (candidates.map ReasoningBudgetCandidate.candidateId).Nodup) :
    IsStrictOrder ReasoningBudgetCandidate Dominates ∧
      BudgetFrontier candidates (buildBudgetFrontier candidates) ∧
      ∀ others, List.Perm others candidates →
        buildBudgetFrontier others = buildBudgetFrontier candidates := by
  refine ⟨inferInstance, ?_, fun others perm => ?_⟩
  case refine_1 =>
    constructor
    case exact => exact fun candidate => mem_buildBudgetFrontier_iff distinct
    case sorted => exact sorted_buildBudgetFrontier distinct
    case apart =>
      intro candidate kept other otherKept
      have undominated := ((mem_buildBudgetFrontier_iff distinct).mp kept).2
      exact undominated other ((mem_buildBudgetFrontier_iff distinct).mp otherKept).1
    case covered =>
      intro candidate member leftOut
      rw [mem_buildBudgetFrontier_iff distinct] at leftOut
      rcases @exists_unbeaten _ Dominates _ _ _ member with stays | ⟨best, inside, stays, beats⟩
      · exact absurd ⟨member, stays⟩ leftOut
      · exact ⟨best, (mem_buildBudgetFrontier_iff distinct).mpr ⟨inside, stays⟩, beats⟩
    case unestimated =>
      intro candidate member unknown
      exact (mem_buildBudgetFrontier_iff distinct).mpr
        ⟨member, fun other _ => not_dominates_of_unknown (.inr unknown)⟩
  case refine_2 =>
    have same := sortOn_eq_of_perm (fun _ left _ right equal => List.inj_on_of_nodup_map
      ((perm.map _).nodup_iff.mpr distinct) left right equal) perm
    rw [buildBudgetFrontier, buildBudgetFrontier, same]

/-! ## Two candidates -/

section Priced

variable (candidateId : String) (compute : ℚ) (positive : 0 < compute)

theorem priced_amounts : ∀ amount ∈ [(1 : Int), 1, 1], 1 ≤ amount := by
  decide

theorem priced_shares : ∀ share ∈ (some 1).toList ++ (none : Option ℚ).toList ++ [0],
    (0 : ℚ) ≤ share ∧ share ≤ 1 := by
  simp

theorem priced_latency : ∀ latency ∈ (none : Option Int), 1 ≤ latency := by
  simp

theorem priced_verification : (0 : Int) ≤ 0 := le_rfl

theorem priced_range : ∀ low ∈ some (1 : ℚ), ∀ high ∈ (none : Option ℚ), low ≤ high := by
  simp

/-- A candidate of full quality at a price. -/
def pricedCandidate : ReasoningBudgetCandidate where
  candidateId := candidateId
  reasoningSteps := 1
  maxTokens := 1
  computeUnits := compute
  verificationDepth := 0
  speculationWidth := 1
  expectedQualityLow := some 1
  uncertainty := 0
  amounts_pos := priced_amounts
  compute_pos := positive
  verification_nonneg := priced_verification
  shares := priced_shares
  latency_pos := priced_latency
  quality_range := priced_range

theorem dear_pos : (0 : ℚ) < 2 := two_pos

theorem cheap_pos : (0 : ℚ) < 1 := one_pos

/-- Of two prices the frontier holds the maximal ones. -/
theorem budgetFrontier_priced :
    IsStrictOrder ReasoningBudgetCandidate Dominates ∧
      BudgetFrontier [pricedCandidate "dear" 2 dear_pos, pricedCandidate "cheap" 1 cheap_pos]
        (buildBudgetFrontier [pricedCandidate "dear" 2 dear_pos,
          pricedCandidate "cheap" 1 cheap_pos]) ∧
      ∀ others, List.Perm others
          [pricedCandidate "dear" 2 dear_pos, pricedCandidate "cheap" 1 cheap_pos] →
        buildBudgetFrontier others = buildBudgetFrontier
          [pricedCandidate "dear" 2 dear_pos, pricedCandidate "cheap" 1 cheap_pos] :=
  budgetFrontier_buildBudgetFrontier _ (by simp [pricedCandidate])

end Priced

end ReasoningBudget
end MercuryX
