import MercuryX.Speculation.Commit

/-!
# The logical commit ledger

The ledger keeps one result for each plan. A further commit of the plan either proposes the same
result, and changes nothing, or is rejected. Along every run the stored results are therefore
permanent, and each of them is what any successful commit of its plan computed.
-/

namespace MercuryX
namespace Speculation

open Foundation

variable {digest : Digest}

/-- The authoritative results, by plan. -/
structure LogicalCommitLedger where
  /-- One result for each plan that was committed. -/
  results : Dict String SpeculativeResult

/-- The arguments of one commit. -/
structure CommitCall where
  plan : SpeculationPlan
  branches : List SpeculativeBranch

namespace LogicalCommitLedger

/-- The ledger before any commit. -/
def initial : LogicalCommitLedger := ⟨Dict.empty⟩

/-- The authoritative result of a plan. -/
def resultFor (ledger : LogicalCommitLedger) (speculationPlanId : String) :
    Option SpeculativeResult :=
  ledger.results.get? speculationPlanId

variable (digest) in
/-- Commit the branches of a plan. -/
def commit (ledger : LogicalCommitLedger) (call : CommitCall) :
    Except Fault SpeculativeResult × LogicalCommitLedger :=
  match commitVerifiedWinner digest call.plan call.branches with
  | .error raised => (.error raised, ledger)
  | .ok proposed =>
      match ledger.results.get? call.plan.speculationPlanId with
      | none => (.ok proposed, ⟨ledger.results.insert call.plan.speculationPlanId proposed⟩)
      | some existing =>
          if existing = proposed then (.ok existing, ledger)
          else
            (.error (.value "speculation plan already has a different authoritative commit"),
              ledger)

theorem commit_error {ledger next : LogicalCommitLedger} {call : CommitCall} {raised : Fault}
    (rejected : ledger.commit digest call = (.error raised, next)) : next = ledger := by
  unfold commit at rejected
  split at rejected
  · exact (Prod.mk.inj rejected).2.symm
  · split at rejected
    · simp at rejected
    · split at rejected
      · simp at rejected
      · exact (Prod.mk.inj rejected).2.symm

/-- A commit succeeds when its winner stands and the plan has no other result; it then leaves the
result stored. -/
theorem commit_ok_iff {ledger next : LogicalCommitLedger} {call : CommitCall}
    {result : SpeculativeResult} :
    ledger.commit digest call = (.ok result, next) ↔
      commitVerifiedWinner digest call.plan call.branches = .ok result ∧
        (ledger.resultFor call.plan.speculationPlanId = none ∧
            next = ⟨ledger.results.insert call.plan.speculationPlanId result⟩ ∨
          ledger.resultFor call.plan.speculationPlanId = some result ∧ next = ledger) := by
  unfold commit resultFor
  cases commitVerifiedWinner digest call.plan call.branches with
  | error raised => simp
  | ok proposed =>
      cases ledger.results.get? call.plan.speculationPlanId with
      | none =>
          simp only [Prod.mk.injEq, Except.ok.injEq, true_and, reduceCtorEq, false_and, or_false]
          constructor
          · rintro ⟨rfl, rfl⟩
            exact ⟨rfl, rfl⟩
          · rintro ⟨rfl, rfl⟩
            exact ⟨rfl, rfl⟩
      | some existing =>
          by_cases same : existing = proposed
          · subst same
            simp [eq_comm]
          · have different : proposed = result → existing ≠ result := fun equal => equal ▸ same
            simp only [same, if_false, Prod.mk.injEq, reduceCtorEq, false_and, Except.ok.injEq,
              Option.some_inj, false_or, false_iff, not_and]
            exact fun equal stored => absurd stored (different equal)

variable (digest) in
/-- The ledger as a machine over commits. -/
def machine : Machine LogicalCommitLedger CommitCall SpeculativeResult Fault where
  step := commit digest
  atomic _ _ _ _ := commit_error

theorem resultFor_of_commit {ledger next : LogicalCommitLedger} {call : CommitCall}
    {result : SpeculativeResult} (step : ledger.commit digest call = (.ok result, next)) :
    next.resultFor call.plan.speculationPlanId = some result := by
  obtain ⟨_, ⟨_, rfl⟩ | ⟨stored, rfl⟩⟩ := commit_ok_iff.mp step
  · exact Dict.get?_insert_self _ _ _
  · exact stored

theorem resultFor_mono {ledger next : LogicalCommitLedger} {call : CommitCall}
    {result stored : SpeculativeResult} {planId : String}
    (step : ledger.commit digest call = (.ok result, next))
    (before : ledger.resultFor planId = some stored) : next.resultFor planId = some stored := by
  obtain ⟨_, ⟨fresh, rfl⟩ | ⟨_, rfl⟩⟩ := commit_ok_iff.mp step
  · have different : planId ≠ call.plan.speculationPlanId := by
      rintro rfl
      simp [fresh] at before
    exact (Dict.get?_insert_of_ne _ different _).trans before
  · exact before

end LogicalCommitLedger

open LogicalCommitLedger

/-! ## What a stored result says -/

/-- The result reports a winner of the plan's candidates, every other branch as a loser, and the
true counts of the branches. -/
structure Reports (plan : SpeculationPlan) (branches : List SpeculativeBranch)
    (result : SpeculativeResult) : Prop where
  /-- The result is of the plan. -/
  plan_id : result.speculationPlanId = plan.speculationPlanId
  /-- The branches are distinct. -/
  distinct : (branches.map fun branch => branch.branchId).Nodup
  /-- The winner is a successful and verified branch on a candidate of the plan, and the result
  carries its result and evidence. -/
  winner : ∃ branch ∈ branches, branch.branchId = result.winningBranchId ∧
    branch.placementCandidateId ∈ plan.placementCandidateIds ∧ branch.state = .succeeded ∧
    branch.verified = true ∧ branch.resultId = some result.committedResultId ∧
    branch.resultFingerprint = some result.winningResultFingerprint ∧
    branch.verificationEvidenceId = some result.verificationEvidenceId
  /-- The losers are the other branches, each once. -/
  losers : ∀ branchId, branchId ∈ result.losingBranchIds ↔
    (∃ branch ∈ branches, branch.branchId = branchId) ∧ branchId ≠ result.winningBranchId
  /-- No branch is listed as a loser twice. -/
  losers_nodup : result.losingBranchIds.Nodup
  /-- The branches are counted, once as planned and once as winner and losers. -/
  total : result.branchCount = branches.length ∧
    result.accounting.totalPlannedBranches = branches.length ∧
    branches.length = result.losingBranchIds.length + 1
  /-- Verified successes are counted, at least one, and no more than successes. -/
  verified : result.verifiedSuccessCount = (eligibleBranches branches).length ∧
    result.accounting.verifiedSuccessBranches = result.verifiedSuccessCount ∧
    1 ≤ result.verifiedSuccessCount ∧
    result.verifiedSuccessCount ≤ result.accounting.succeededBranches
  /-- Started branches include the successful, failed and discarded ones. -/
  started : result.accounting.succeededBranches + result.accounting.failedBranches +
    result.accounting.discardedBranches ≤ result.accounting.startedBranches
  /-- Started and cancelled branches are different branches. -/
  bounded : result.accounting.startedBranches + result.accounting.cancelledBranches ≤
    branches.length
  /-- Every verified success has evidence, and evidence is counted once for each branch. -/
  evidence : result.verifiedSuccessCount ≤ result.accounting.verificationCount ∧
    result.accounting.verificationCount ≤ branches.length
  /-- The accounting names the winner. -/
  committed : result.accounting.authoritativeCommittedBranchId = result.winningBranchId

theorem some_getD {value : Option String} (given : value.getD "" ≠ "") :
    value = some (value.getD "") := by
  cases value with
  | none => simp at given
  | some text => rfl

/-- Three exclusive kinds of branch that all count as started. -/
theorem countP_started_le (branches : List SpeculativeBranch) :
    branches.countP (fun branch => branch.state.isSuccessful) +
        branches.countP (fun branch => branch.state = .failed) +
        branches.countP (fun branch => branch.state = .discarded) ≤
      branches.countP fun branch => branch.state.isStarted := by
  induction branches with
  | nil => simp
  | cons branch branches induction =>
      have one : branch.state.isSuccessful.toNat + (decide (branch.state = .failed)).toNat +
          (decide (branch.state = .discarded)).toNat ≤ branch.state.isStarted.toNat := by
        cases branch.state <;> decide
      simp only [List.countP_cons, Bool.toNat, Bool.cond_eq_ite] at *
      omega

theorem countP_cancelled_le (branches : List SpeculativeBranch) :
    branches.countP (fun branch => branch.state.isStarted) +
        branches.countP (fun branch => branch.state = .cancelled) ≤ branches.length := by
  induction branches with
  | nil => simp
  | cons branch branches induction =>
      have one : branch.state.isStarted.toNat + (decide (branch.state = .cancelled)).toNat ≤ 1 := by
        cases branch.state <;> decide
      simp only [List.countP_cons, List.length_cons, Bool.toNat, Bool.cond_eq_ite] at *
      omega

theorem length_eligibleBranches_le_evidence (branches : List SpeculativeBranch) :
    (eligibleBranches branches).length ≤
      branches.countP fun branch => branch.verificationEvidenceId ≠ none := by
  rw [eligibleBranches, ← List.countP_eq_length_filter]
  refine List.countP_mono_left fun branch _ eligible => ?_
  rw [decide_eq_true_eq]
  intro absent
  exact (of_decide_eq_true eligible).2.2.2.2 (by rw [absent, Option.getD_none])

/-- Once the explicit checks pass, the result of a commit reports its branches. -/
theorem Selects.reports {plan : SpeculationPlan} {branches : List SpeculativeBranch}
    {winner : SpeculativeBranch} (selects : Selects digest plan branches winner) :
    Reports plan branches (commitResult digest plan branches winner) := by
  obtain ⟨succeeded, verified, resultGiven, printGiven, evidenceGiven⟩ := selects.winner_eligible.2
  exact
    { plan_id := rfl
      distinct := selects.distinct
      winner := ⟨winner, selects.winner_mem, rfl, selects.winner_candidate, succeeded, verified,
        some_getD resultGiven, some_getD printGiven, some_getD evidenceGiven⟩
      losers := fun branchId => mem_losingBranchIds
      losers_nodup := losingBranchIds_nodup selects.distinct
      total := ⟨rfl, rfl, length_losingBranchIds selects.distinct selects.winner_mem⟩
      verified := ⟨rfl, rfl,
        List.length_pos_of_mem (mem_eligibleBranches.mpr selects.winner_eligible),
        length_eligibleBranches_le⟩
      started := countP_started_le branches
      bounded := countP_cancelled_le branches
      evidence := ⟨length_eligibleBranches_le_evidence branches, List.countP_le_length⟩
      committed := rfl }

/-! ## The law of the ledger -/

/-- A stored result is what some commit of its plan computed, and every successful commit of the
plan computed the same. -/
def Justified (digest : Digest) (succeeded : List CommitCall) (ledger : LogicalCommitLedger) :
    Prop :=
  (∀ planId result, ledger.resultFor planId = some result →
    ∃ call ∈ succeeded, call.plan.speculationPlanId = planId) ∧
  ∀ call ∈ succeeded, ∃ result, ledger.resultFor call.plan.speculationPlanId = some result ∧
    commitVerifiedWinner digest call.plan call.branches = .ok result

theorem justified_of_commit {past : List CommitCall} {ledger next : LogicalCommitLedger}
    {call : CommitCall} {result : SpeculativeResult} (justified : Justified digest past ledger)
    (step : ledger.commit digest call = (.ok result, next)) :
    Justified digest (past ++ [call]) next := by
  constructor
  · intro planId stored found
    obtain ⟨_, ⟨_, rfl⟩ | ⟨_, rfl⟩⟩ := commit_ok_iff.mp step
    · by_cases same : planId = call.plan.speculationPlanId
      · exact ⟨call, by simp, same.symm⟩
      · obtain ⟨earlier, member, named⟩ := justified.1 planId stored
          ((Dict.get?_insert_of_ne _ same _).symm.trans found)
        exact ⟨earlier, List.mem_append_left _ member, named⟩
    · obtain ⟨earlier, member, named⟩ := justified.1 planId stored found
      exact ⟨earlier, List.mem_append_left _ member, named⟩
  · intro other member
    rcases List.mem_append.mp member with old | new
    · obtain ⟨stored, found, computed⟩ := justified.2 other old
      exact ⟨stored, resultFor_mono step found, computed⟩
    · rw [List.mem_singleton.mp new]
      exact ⟨result, resultFor_of_commit step, (commit_ok_iff.mp step).1⟩

/-- Along a run every stored result is justified. -/
theorem justified_run (calls : List CommitCall) :
    Justified digest ((machine digest).succeeded initial calls)
      ((machine digest).run initial calls) := by
  refine Machine.run_trace (Justified digest) initial calls ?_ ?_
  · constructor
    · intro planId result found
      simp [resultFor, initial] at found
    · simp
  · exact fun past ledger call result next justified step => justified_of_commit justified step

/-- Along a run results are permanent. -/
theorem resultFor_run {ledger : LogicalCommitLedger} {planId : String}
    {result : SpeculativeResult} (stored : ledger.resultFor planId = some result)
    (calls : List CommitCall) :
    ((machine digest).run ledger calls).resultFor planId = some result := by
  let invariant (state : LogicalCommitLedger) : Prop := state.resultFor planId = some result
  refine Machine.run_invariant invariant stored calls ?_
  exact fun state call answer next found step => resultFor_mono step found

/-- What holds of every run of commits. -/
structure LogicalCommitLaw (digest : Digest) (calls : List CommitCall) : Prop where
  /-- A result that was set never changes. -/
  permanent : ∀ front back planId result, calls = front ++ back →
    ((machine digest).run initial front).resultFor planId = some result →
      ((machine digest).run initial calls).resultFor planId = some result
  /-- A stored result stems from a successful commit of its plan. -/
  stored : ∀ planId result,
    ((machine digest).run initial calls).resultFor planId = some result →
      ∃ call ∈ (machine digest).succeeded initial calls, call.plan.speculationPlanId = planId
  /-- The stored result reports the branches of every successful commit of its plan. -/
  reports : ∀ call ∈ (machine digest).succeeded initial calls, ∀ result,
    ((machine digest).run initial calls).resultFor call.plan.speculationPlanId = some result →
      Reports call.plan call.branches result
  /-- Committing the branches of a successful commit again, in any order, returns the stored
  result and changes nothing. -/
  repeatable : ∀ call ∈ (machine digest).succeeded initial calls, ∀ branches,
    call.branches.Perm branches → ∃ result,
      ((machine digest).run initial calls).resultFor call.plan.speculationPlanId = some result ∧
      ((machine digest).run initial calls).commit digest ⟨call.plan, branches⟩ =
        (.ok result, (machine digest).run initial calls)
  /-- The order of the branches never matters to a successful commit. -/
  permutable : ∀ plan branches others result next, branches.Perm others →
    (((machine digest).run initial calls).commit digest ⟨plan, branches⟩ = (.ok result, next) ↔
      ((machine digest).run initial calls).commit digest ⟨plan, others⟩ = (.ok result, next))
  /-- Once the explicit checks choose a winner, the contracts of accounting and result accept. -/
  total : ∀ plan branches winner, selectWinner digest plan branches = .ok winner →
    commitVerifiedWinner digest plan branches = .ok (commitResult digest plan branches winner)

theorem commit_perm {ledger next : LogicalCommitLedger} {plan : SpeculationPlan}
    {branches others : List SpeculativeBranch} {result : SpeculativeResult}
    (perm : branches.Perm others) :
    ledger.commit digest ⟨plan, branches⟩ = (.ok result, next) ↔
      ledger.commit digest ⟨plan, others⟩ = (.ok result, next) := by
  rw [commit_ok_iff, commit_ok_iff]
  exact and_congr_left fun _ => commitVerifiedWinner_perm perm

/-- Every run of commits obeys the law of the ledger. -/
theorem logicalCommitLaw (calls : List CommitCall) : LogicalCommitLaw digest calls := by
  have justified : Justified digest _ _ := justified_run calls
  constructor
  case permanent =>
    rintro front back planId result rfl found
    rw [Machine.run_append]
    exact resultFor_run found back
  case stored => exact justified.1
  case reports =>
    intro call member result found
    obtain ⟨other, otherFound, computed⟩ := justified.2 call member
    rw [found, Option.some_inj] at otherFound
    subst otherFound
    obtain ⟨winner, selects, rfl⟩ := commitVerifiedWinner_eq_ok_iff.mp computed
    exact selects.reports
  case repeatable =>
    intro call member branches perm
    obtain ⟨result, found, computed⟩ := justified.2 call member
    refine ⟨result, found, (commit_perm perm).mp ?_⟩
    exact commit_ok_iff.mpr ⟨computed, .inr ⟨found, rfl⟩⟩
  case permutable => exact fun plan branches others result next perm => commit_perm perm
  case total =>
    intro plan branches winner chosen
    exact commitVerifiedWinner_eq_ok_iff.mpr ⟨winner, selectWinner_eq_ok_iff.mp chosen, rfl⟩

end Speculation
end MercuryX
