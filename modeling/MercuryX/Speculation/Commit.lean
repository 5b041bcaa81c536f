import MercuryX.Foundation.Dict
import MercuryX.Speculation.Contracts

/-!
# Committing a verified winner

The explicit checks on a plan and its branches choose the eligible branch with the least
identifier. Once they pass, the accounting and the result that are built from the branches satisfy
their contracts, and neither depends on the order in which the branches were listed.
-/

namespace MercuryX
namespace Speculation

open Foundation

variable (digest : Digest)

/-! ## The commit -/

/-- A branch that may win: successful, verified, and with a result and evidence. -/
def SpeculativeBranch.Eligible (branch : SpeculativeBranch) : Prop :=
  branch.state = .succeeded ∧ branch.verified = true ∧ branch.resultId.getD "" ≠ "" ∧
    branch.resultFingerprint.getD "" ≠ "" ∧ branch.verificationEvidenceId.getD "" ≠ ""

instance (branch : SpeculativeBranch) : Decidable branch.Eligible :=
  inferInstanceAs (Decidable (_ ∧ _))

/-- The branches that may win. -/
def eligibleBranches (branches : List SpeculativeBranch) : List SpeculativeBranch :=
  branches.filter fun branch => branch.Eligible

/-- The check that a branch, where it carries provenance, was made for the plan. -/
def checkProvenance (plan : SpeculationPlan) (branch : SpeculativeBranch) : Except Fault Unit := do
  require (plan.sourceExecutionPlanId.isSome → none ∉ branch.context)
    (.value "typed plan requires branch generation provenance")
  if ∃ value ∈ branch.context, value ≠ none then
    let stale := Fault.value "stale branch generation does not match speculation plan"
    require (branch.speculationPlanId = some plan.speculationPlanId ∧
      branch.sourceSegmentId = some plan.sourceSegmentId ∧
      branch.planFingerprint = some plan.fingerprint) stale
    match (Dict.ofList plan.candidateFingerprints).get? branch.placementCandidateId with
    | none => .error (.missingKey branch.placementCandidateId)
    | some fingerprint => require (branch.candidateFingerprint = some fingerprint) stale

/-- The explicit checks of a commit, and the winner they leave. -/
def selectWinner (plan : SpeculationPlan) (branches : List SpeculativeBranch) :
    Except Fault SpeculativeBranch := do
  plan.validate digest
  forEach SpeculativeBranch.validate branches
  require (branches.map fun branch => branch.branchId).Nodup (.value "duplicate branch id")
  require (∀ branch ∈ branches, branch.state ≠ .committed) (.value "plan already committed")
  let candidateIds := branches.map fun branch => branch.placementCandidateId
  require (candidateIds.toFinset = plan.placementCandidateIds.toFinset ∧
      candidateIds.length = plan.placementCandidateIds.length)
    (.value "branches must cover the plan candidate set exactly once")
  forEach (checkProvenance plan) branches
  match sortOn (fun branch => branch.branchId) (eligibleBranches branches) with
  | [] => .error (.value "no verified successful branch")
  | winner :: _ => .ok winner

/-- The states that count as started. -/
def SpeculativeBranchState.isStarted (state : SpeculativeBranchState) : Bool :=
  state ∈ [.running, .succeeded, .failed, .committed, .discarded]

/-- The states that count as successful. -/
def SpeculativeBranchState.isSuccessful (state : SpeculativeBranchState) : Bool :=
  state ∈ [.succeeded, .committed]

/-- The accounting of a commit. -/
def commitAccounting (branches : List SpeculativeBranch) (winner : SpeculativeBranch) :
    SpeculationAccounting where
  totalPlannedBranches := branches.length
  startedBranches := branches.countP fun branch => branch.state.isStarted
  succeededBranches := branches.countP fun branch => branch.state.isSuccessful
  failedBranches := branches.countP fun branch => branch.state = .failed
  verifiedSuccessBranches := (eligibleBranches branches).length
  cancelledBranches := branches.countP fun branch => branch.state = .cancelled
  discardedBranches := branches.countP fun branch => branch.state = .discarded
  authoritativeCommittedBranchId := winner.branchId
  verificationCount := branches.countP fun branch => branch.verificationEvidenceId ≠ none
  verificationOverheadUnits := none
  speculativeResourceEstimateUnits := none

/-- The identifiers of the branches that lose to the winner, in order. -/
def losingBranchIds (branches : List SpeculativeBranch) (winner : SpeculativeBranch) :
    List String :=
  sortOn id ((branches.filter fun branch => branch.branchId ≠ winner.branchId).map
    fun branch => branch.branchId)

/-- The result of a commit before its fingerprint is computed. -/
def commitValues (plan : SpeculationPlan) (branches : List SpeculativeBranch)
    (winner : SpeculativeBranch) : SpeculativeResult where
  speculationPlanId := plan.speculationPlanId
  sourceSegmentId := plan.sourceSegmentId
  sourceExecutionPlanId := plan.sourceExecutionPlanId
  namespaceType := plan.namespaceType
  namespaceId := plan.namespaceId
  planFingerprint := plan.fingerprint
  winningBranchId := winner.branchId
  committedResultId := winner.resultId.getD ""
  winningResultFingerprint := winner.resultFingerprint.getD ""
  verificationEvidenceId := winner.verificationEvidenceId.getD ""
  losingBranchIds := losingBranchIds branches winner
  branchCount := branches.length
  verifiedSuccessCount := (eligibleBranches branches).length
  accounting := commitAccounting branches winner
  resultFingerprint := ""

/-- The result of a commit. -/
def commitResult (plan : SpeculationPlan) (branches : List SpeculativeBranch)
    (winner : SpeculativeBranch) : SpeculativeResult :=
  let values := commitValues plan branches winner
  { values with resultFingerprint := digest.hexdigest values.payload }

/-- Commit the verified winner of a plan: the explicit checks, then the two contracts. -/
def commitVerifiedWinner (plan : SpeculationPlan) (branches : List SpeculativeBranch) :
    Except Fault SpeculativeResult := do
  let winner ← selectWinner digest plan branches
  (commitAccounting branches winner).validate
  (commitResult digest plan branches winner).validate digest
  return commitResult digest plan branches winner

/-! ## What the explicit checks establish -/

/-- The explicit checks pass and leave the winner. -/
structure Selects (plan : SpeculationPlan) (branches : List SpeculativeBranch)
    (winner : SpeculativeBranch) : Prop where
  /-- The plan is valid. -/
  plan_valid : plan.Valid digest
  /-- The branches are valid. -/
  branches_valid : ∀ branch ∈ branches, branch.Valid
  /-- No two branches share an identifier. -/
  distinct : (branches.map fun branch => branch.branchId).Nodup
  /-- No branch is committed yet. -/
  uncommitted : ∀ branch ∈ branches, branch.state ≠ .committed
  /-- The branches run on the candidates of the plan. -/
  covers : (branches.map fun branch => branch.placementCandidateId).toFinset =
    plan.placementCandidateIds.toFinset
  /-- There is one branch for each candidate. -/
  counted : branches.length = plan.placementCandidateIds.length
  /-- The provenance of every branch is that of the plan. -/
  provenance : ∀ branch ∈ branches, checkProvenance plan branch = .ok ()
  /-- The winner stands first among the eligible branches. -/
  first : (sortOn (fun branch => branch.branchId) (eligibleBranches branches)).head? = some winner

variable {digest} {plan : SpeculationPlan} {branches others : List SpeculativeBranch}
  {winner : SpeculativeBranch}

theorem selectWinner_eq_ok_iff :
    selectWinner digest plan branches = .ok winner ↔ Selects digest plan branches winner := by
  simp only [selectWinner, bind_eq_ok, SpeculationPlan.validate_eq_ok_iff, forEach_eq_ok,
    SpeculativeBranch.validate_eq_ok_iff, require_eq_ok, exists_and_left, exists_const,
    List.length_map]
  constructor
  · rintro ⟨planValid, branchesValid, distinct, uncommitted, ⟨covers, counted⟩, provenance, chosen⟩
    refine ⟨planValid, branchesValid, distinct, uncommitted, covers, counted, provenance, ?_⟩
    split at chosen
    · contradiction
    · next first _ listed =>
        rw [listed, ← Except.ok.inj chosen, List.head?_cons]
  · rintro ⟨planValid, branchesValid, distinct, uncommitted, covers, counted, provenance, first⟩
    refine ⟨planValid, branchesValid, distinct, uncommitted, ⟨covers, counted⟩, provenance, ?_⟩
    obtain ⟨rest, listed⟩ := List.head?_eq_some_iff.mp first
    rw [listed]

@[simp] theorem mem_eligibleBranches {branch : SpeculativeBranch} :
    branch ∈ eligibleBranches branches ↔ branch ∈ branches ∧ branch.Eligible := by
  simp [eligibleBranches]

/-- Branches with distinct identifiers are told apart by them. -/
theorem separates_branchId (distinct : (branches.map fun branch => branch.branchId).Nodup) :
    Separates (fun branch : SpeculativeBranch => branch.branchId) branches :=
  fun _ left _ right same => List.inj_on_of_nodup_map distinct left right same

namespace Selects

variable (selects : Selects digest plan branches winner)
include selects

theorem winner_eligible : winner ∈ branches ∧ winner.Eligible := by
  have listed := List.mem_of_mem_head? (Option.mem_def.mpr selects.first)
  simpa using listed

theorem winner_mem : winner ∈ branches := selects.winner_eligible.1

theorem winner_least {branch : SpeculativeBranch} (member : branch ∈ branches)
    (eligible : branch.Eligible) : winner.branchId ≤ branch.branchId := by
  obtain ⟨rest, listed⟩ := List.head?_eq_some_iff.mp selects.first
  have sorted := sortOn_pairwise (fun branch : SpeculativeBranch => branch.branchId)
    (eligibleBranches branches)
  have candidate : branch ∈ winner :: rest := by
    rw [← listed]
    simp [member, eligible]
  rw [listed, List.pairwise_cons] at sorted
  rcases List.mem_cons.mp candidate with rfl | later
  · exact le_rfl
  · exact sorted.1 branch later

theorem winner_candidate : winner.placementCandidateId ∈ plan.placementCandidateIds := by
  rw [← List.mem_toFinset, ← selects.covers, List.mem_toFinset]
  exact List.mem_map_of_mem selects.winner_mem

/-- The number of branches is within the limit. -/
theorem length_bounds : 1 ≤ branches.length ∧ branches.length ≤ maxSpeculativeBranches := by
  have upper := selects.plan_valid.candidates_bound.trans
    selects.plan_valid.maxBranches_bounds.2
  rw [← selects.counted] at upper
  exact ⟨List.length_pos_of_mem selects.winner_mem, by exact_mod_cast upper⟩

end Selects

/-! ## The contracts of the result -/

theorem eligible_successful {branch : SpeculativeBranch} (eligible : branch.Eligible) :
    branch.state.isSuccessful := by
  rw [eligible.1]
  rfl

theorem length_eligibleBranches_le :
    (eligibleBranches branches).length ≤
      branches.countP fun branch => branch.state.isSuccessful := by
  rw [eligibleBranches, ← List.countP_eq_length_filter]
  refine List.countP_mono_left fun branch _ eligible => ?_
  exact eligible_successful (of_decide_eq_true eligible)

/-- The counts of an accounting never exceed the number of branches. -/
theorem commitAccounting_counts :
    ∀ count ∈ (commitAccounting branches winner).counts, count.2 ≤ branches.length := by
  simp only [SpeculationAccounting.counts, commitAccounting, eligibleBranches, List.forall_mem_cons,
    List.not_mem_nil, false_implies, implies_true, and_true]
  exact ⟨List.countP_le_length, List.countP_le_length, List.countP_le_length,
    List.length_filter_le _ _, List.countP_le_length, List.countP_le_length,
    List.countP_le_length⟩

/-- Once the explicit checks pass, the accounting satisfies its contract. -/
theorem commitAccounting_validate (selects : Selects digest plan branches winner) :
    (commitAccounting branches winner).validate = .ok () := by
  have named := (selects.branches_valid winner selects.winner_mem).identities_nonblank.1
  exact SpeculationAccounting.validate_of_counts selects.length_bounds commitAccounting_counts
    length_eligibleBranches_le rfl rfl named

theorem mem_losingBranchIds {branchId : String} :
    branchId ∈ losingBranchIds branches winner ↔
      (∃ branch ∈ branches, branch.branchId = branchId) ∧ branchId ≠ winner.branchId := by
  simp only [losingBranchIds, mem_sortOn, List.mem_map, List.mem_filter, decide_eq_true_eq]
  constructor
  · rintro ⟨branch, ⟨member, other⟩, rfl⟩
    exact ⟨⟨branch, member, rfl⟩, other⟩
  · rintro ⟨⟨branch, member, rfl⟩, other⟩
    exact ⟨branch, ⟨member, other⟩, rfl⟩

theorem losingBranchIds_nodup (distinct : (branches.map fun branch => branch.branchId).Nodup) :
    (losingBranchIds branches winner).Nodup := by
  rw [losingBranchIds, (sortOn_perm id _).nodup_iff]
  exact distinct.sublist (List.filter_sublist.map _)

theorem length_losingBranchIds (distinct : (branches.map fun branch => branch.branchId).Nodup)
    (member : winner ∈ branches) :
    branches.length = (losingBranchIds branches winner).length + 1 := by
  rw [losingBranchIds, length_sortOn, List.length_map, ← List.countP_eq_length_filter]
  let named : SpeculativeBranch → Bool := fun branch => branch.branchId = winner.branchId
  have winners : branches.countP named = 1 := by
    have listed : winner.branchId ∈ branches.map fun branch => branch.branchId :=
      List.mem_map_of_mem member
    have counted := List.count_eq_one_of_mem distinct listed
    rw [List.count, List.countP_map] at counted
    rw [← counted]
    exact List.countP_congr fun branch _ => by simp [named]
  have split := List.length_eq_countP_add_countP named (l := branches)
  rw [split, winners, Nat.add_comm]
  congr 1
  exact List.countP_congr fun branch _ => by simp [named]

theorem nonblank_getD {branch : SpeculativeBranch} (valid : branch.Valid) {value : Option String}
    (listed : value ∈ branch.context ++ [branch.resultId, branch.resultFingerprint,
      branch.verificationEvidenceId])
    (given : value.getD "" ≠ "") : Text.Nonblank (value.getD "") := by
  cases value with
  | none => simp at given
  | some text => exact valid.given_nonblank text listed

/-- Once the explicit checks pass, the result satisfies its contract. -/
theorem commitResult_validate (selects : Selects digest plan branches winner) :
    (commitResult digest plan branches winner).validate digest = .ok () := by
  rw [SpeculativeResult.validate_eq_ok_iff]
  have valid := selects.branches_valid winner selects.winner_mem
  obtain ⟨_, _, resultGiven, printGiven, evidenceGiven⟩ := selects.winner_eligible.2
  have eligibleCount : (eligibleBranches branches).length ≤ branches.length :=
    List.length_filter_le _ _
  have eligiblePos : 1 ≤ (eligibleBranches branches).length :=
    List.length_pos_of_mem (mem_eligibleBranches.mpr selects.winner_eligible)
  have texts := selects.plan_valid.texts_nonblank
  constructor
  case branchCount_bounds => exact selects.length_bounds
  case verifiedCount_bounds => exact ⟨eligiblePos, eligibleCount.trans selects.length_bounds.2⟩
  case texts_nonblank =>
    simp only [commitResult, commitValues, List.forall_mem_cons, List.not_mem_nil, false_implies,
      implies_true, and_true]
    exact ⟨texts _ (by simp), texts _ (by simp), texts _ (by simp), valid.identities_nonblank.1,
      nonblank_getD valid (by simp) resultGiven, nonblank_getD valid (by simp) printGiven,
      nonblank_getD valid (by simp) evidenceGiven, digest.nonblank _⟩
  case context_complete =>
    intro typed
    have complete := selects.plan_valid.context_complete (by
      rcases typed with given | given | given
      · exact .inl given
      · exact .inr (.inl given)
      · exact .inr (.inr (.inl given)))
    exact ⟨complete.1, complete.2.1, complete.2.2.1⟩
  case context_nonblank =>
    intro text given
    exact selects.plan_valid.context_nonblank text (List.mem_append_left _ given)
  case losers_nodup => exact losingBranchIds_nodup selects.distinct
  case losers_count => exact length_losingBranchIds selects.distinct selects.winner_mem
  case verifiedCount_le => exact eligibleCount
  case accounting_matches => exact ⟨rfl, rfl, rfl⟩
  case losers_valid =>
    intro branchId losing
    obtain ⟨⟨branch, member, rfl⟩, other⟩ := mem_losingBranchIds.mp losing
    exact ⟨(selects.branches_valid branch member).identities_nonblank.1, other⟩
  case fingerprint_eq => rfl

/-- A commit succeeds exactly when the explicit checks pass: the contracts of accounting and
result never reject what the checks let through. -/
theorem commitVerifiedWinner_eq_ok_iff {result : SpeculativeResult} :
    commitVerifiedWinner digest plan branches = .ok result ↔
      ∃ winner, Selects digest plan branches winner ∧
        result = commitResult digest plan branches winner := by
  simp only [commitVerifiedWinner, bind_eq_ok, selectWinner_eq_ok_iff, pure_eq_ok, Except.ok.injEq]
  constructor
  · rintro ⟨winner, selects, _, _, _, _, rfl⟩
    exact ⟨winner, selects, rfl⟩
  · rintro ⟨winner, selects, rfl⟩
    exact ⟨winner, selects, (), commitAccounting_validate selects, (),
      commitResult_validate selects, rfl⟩

/-! ## Order of the branches -/

theorem eligibleBranches_perm (perm : branches.Perm others) :
    (eligibleBranches branches).Perm (eligibleBranches others) :=
  perm.filter _

/-- The explicit checks do not depend on the order of the branches. -/
theorem Selects.of_perm (selects : Selects digest plan branches winner)
    (perm : branches.Perm others) : Selects digest plan others winner := by
  have separates : Separates (fun branch : SpeculativeBranch => branch.branchId)
      (eligibleBranches branches) := fun left hleft right hright =>
    separates_branchId selects.distinct left (mem_eligibleBranches.mp hleft).1 right
      (mem_eligibleBranches.mp hright).1
  exact
    { plan_valid := selects.plan_valid
      branches_valid := fun branch member => selects.branches_valid branch (perm.mem_iff.mpr member)
      distinct := (perm.map _).nodup_iff.mp selects.distinct
      uncommitted := fun branch member => selects.uncommitted branch (perm.mem_iff.mpr member)
      covers := by
        rw [← selects.covers]
        exact List.toFinset_eq_of_perm _ _ (perm.symm.map _)
      counted := perm.length_eq ▸ selects.counted
      provenance := fun branch member => selects.provenance branch (perm.mem_iff.mpr member)
      first := sortOn_eq_of_perm separates (eligibleBranches_perm perm) ▸ selects.first }

theorem separates_id (xs : List String) : Separates id xs := fun _ _ _ _ same => same

theorem commitResult_perm (perm : branches.Perm others) :
    commitResult digest plan branches winner = commitResult digest plan others winner := by
  have losers : losingBranchIds branches winner = losingBranchIds others winner :=
    sortOn_eq_of_perm (separates_id _) ((perm.filter _).map _)
  have values : commitValues plan branches winner = commitValues plan others winner := by
    simp only [commitValues, commitAccounting, losers, perm.length_eq, perm.countP_eq,
      (eligibleBranches_perm perm).length_eq]
  simp only [commitResult, values]

/-- Listing the branches in another order changes nothing. -/
theorem commitVerifiedWinner_perm (perm : branches.Perm others) {result : SpeculativeResult} :
    commitVerifiedWinner digest plan branches = .ok result ↔
      commitVerifiedWinner digest plan others = .ok result := by
  simp only [commitVerifiedWinner_eq_ok_iff]
  constructor
  · rintro ⟨winner, selects, rfl⟩
    exact ⟨winner, selects.of_perm perm, commitResult_perm perm⟩
  · rintro ⟨winner, selects, rfl⟩
    exact ⟨winner, selects.of_perm perm.symm, commitResult_perm perm.symm⟩

end Speculation
end MercuryX
