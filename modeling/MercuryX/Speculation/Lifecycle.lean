import MercuryX.Foundation.Canonical
import MercuryX.Speculation.Contracts

/-!
# The lifecycle of a branch

A table says which states may follow a state. A transition keeps all but the state of a branch and
validates the branch again, so that the new state may ask for a result or a verification that the
branch lacks. Cancelling the branches that lose ends them, except where one is committed: no state
follows that one, and it is left as it is.
-/

namespace MercuryX
namespace Speculation

open Foundation

/-- The states that may follow a state. -/
def allowedTargets : SpeculativeBranchState → List SpeculativeBranchState
  | .planned => [.ready, .cancelled]
  | .ready => [.running, .cancelled]
  | .running => [.succeeded, .failed, .cancelled]
  | .succeeded => [.committed, .discarded]
  | .failed => [.discarded]
  | .cancelled => [.discarded]
  | .committed | .discarded => []

/-- Move a branch to a state that may follow its own, with a result or a verification where one is
given. -/
def transitionBranch (branch : SpeculativeBranch) (target : SpeculativeBranchState)
    (resultId : Option String := none) (verified : Option Bool := none) :
    Except Fault SpeculativeBranch := do
  require (target ∈ allowedTargets branch.state) (.value "forbidden branch transition")
  let effectiveVerified := verified.getD branch.verified
  let effectiveResultId := resultId.or branch.resultId
  require (target = .committed → effectiveVerified = true ∧ effectiveResultId.getD "" ≠ "")
    (.value "verification and result required before commit")
  let moved := { branch with
    state := target, resultId := effectiveResultId, verified := effectiveVerified }
  moved.validate
  return moved

namespace SpeculativeBranch

/-- The branch with another state. -/
def moved (branch : SpeculativeBranch) (target : SpeculativeBranchState) : SpeculativeBranch :=
  { branch with state := target }

/-- The branch has what a state asks for: a result to succeed or to be committed, and a verification
to be committed. -/
def CarriesFor (branch : SpeculativeBranch) (target : SpeculativeBranchState) : Prop :=
  (target = .succeeded ∨ target = .committed →
    branch.resultId ≠ none ∧ branch.resultFingerprint ≠ none) ∧
  (target = .committed → branch.verified = true)

instance (branch : SpeculativeBranch) (target : SpeculativeBranchState) :
    Decidable (branch.CarriesFor target) :=
  inferInstanceAs (Decidable (_ ∧ _))

theorem Valid.moved_iff {branch : SpeculativeBranch} (valid : branch.Valid)
    {target : SpeculativeBranchState} : (branch.moved target).Valid ↔ branch.CarriesFor target := by
  constructor
  · intro movedValid
    exact ⟨movedValid.result_given, fun committed => (movedValid.committed_verified committed).1⟩
  · rintro ⟨result, verified⟩
    exact
      { generation_pos := valid.generation_pos
        identities_nonblank := valid.identities_nonblank
        context_complete := valid.context_complete
        given_nonblank := valid.given_nonblank
        result_given := result
        evidence_given := valid.evidence_given
        committed_verified := fun committed => ⟨verified committed, (result (.inr committed)).1⟩ }

end SpeculativeBranch

/-- A valid branch moves to exactly the states that may follow its own and for which it has what
they ask for. -/
theorem transitionBranch_eq_ok_iff {branch next : SpeculativeBranch} (valid : branch.Valid)
    {target : SpeculativeBranchState} : transitionBranch branch target = .ok next ↔
      target ∈ allowedTargets branch.state ∧ branch.CarriesFor target ∧
        branch.moved target = next := by
  simp only [transitionBranch, bind_eq_ok, require_eq_ok, exists_and_left, exists_const, pure_eq_ok,
    Except.ok.injEq]
  refine and_congr_right fun _ => ?_
  change (_ ∧ ∃ done, (branch.moved target).validate = .ok done ∧ branch.moved target = next) ↔ _
  simp only [Unique.exists_iff]
  rw [SpeculativeBranch.validate_eq_ok_iff, valid.moved_iff, ← and_assoc]
  refine and_congr_left fun _ => and_iff_right_of_imp ?_
  -- the explicit check for a commit asks for less than the contract
  rintro ⟨result, verified⟩ committed
  obtain ⟨resultId, given⟩ := Option.ne_none_iff_exists'.mp (result (.inr committed)).1
  refine ⟨verified committed, ?_⟩
  rw [given, Option.none_or, Option.getD_some]
  exact Text.ne_empty_of_nonblank (valid.given_nonblank resultId (by simp [given]))

/-! ## Cancelling the losers -/

/-- What becomes of one branch once the winner is known. -/
def cancelLosingBranch (winningBranchId : String) (branch : SpeculativeBranch) :
    Except Fault SpeculativeBranch :=
  if branch.branchId = winningBranchId then .ok branch
  else if branch.state ∈ [SpeculativeBranchState.planned, .ready, .running] then
    transitionBranch branch .cancelled
  else if branch.state ∈ [SpeculativeBranchState.succeeded, .failed] then
    transitionBranch branch .discarded
  else .ok branch

/-- Cancel the branches that lose to the winner. -/
def cancelLosingBranches (branches : List SpeculativeBranch) (winningBranchId : String) :
    Except Fault (List SpeculativeBranch) := do
  let branchIds := branches.map fun branch => branch.branchId
  require branchIds.Nodup (.value "duplicate branch id")
  require (winningBranchId ∈ branchIds) (.value "winning branch is not present")
  (sortOn (fun branch => branch.branchId) branches).mapM (cancelLosingBranch winningBranchId)

/-- The state in which a branch that loses ends. -/
def SpeculativeBranchState.lost : SpeculativeBranchState → SpeculativeBranchState
  | planned | ready | running | cancelled => cancelled
  | succeeded | failed | discarded => discarded
  | committed => committed

/-- The branch once the winner is known. -/
def SpeculativeBranch.settled (winningBranchId : String) (branch : SpeculativeBranch) :
    SpeculativeBranch :=
  if branch.branchId = winningBranchId then branch else branch.moved branch.state.lost

namespace SpeculativeBranchState

@[simp] theorem lost_lost (state : SpeculativeBranchState) : state.lost.lost = state.lost := by
  cases state <;> rfl

theorem lost_eq_committed {state : SpeculativeBranchState} :
    state.lost = .committed ↔ state = .committed := by
  cases state <;> decide

theorem lost_ne_succeeded {state : SpeculativeBranchState} : state.lost ≠ .succeeded := by
  cases state <;> decide

theorem lost_of_unfinished {state : SpeculativeBranchState}
    (unfinished : state ∈ [planned, ready, running]) :
    .cancelled ∈ allowedTargets state ∧ state.lost = .cancelled := by
  cases state <;> revert unfinished <;> decide

theorem lost_of_finished {state : SpeculativeBranchState} (finished : state ∈ [succeeded, failed]) :
    .discarded ∈ allowedTargets state ∧ state.lost = .discarded := by
  cases state <;> revert finished <;> decide

/-- Any other branch is left alone. -/
theorem lost_of_rest {state : SpeculativeBranchState}
    (notUnfinished : state ∉ [planned, ready, running])
    (notFinished : state ∉ [succeeded, failed]) : state.lost = state := by
  cases state <;> revert notUnfinished notFinished <;> decide

theorem lost_ended_iff {state : SpeculativeBranchState} :
    state.lost = .cancelled ∨ state.lost = .discarded ↔ state ≠ .committed := by
  cases state <;> decide

end SpeculativeBranchState

section Settled

variable {winningBranchId : String} {branch : SpeculativeBranch}

@[simp] theorem branchId_settled :
    (branch.settled winningBranchId).branchId = branch.branchId := by
  unfold SpeculativeBranch.settled
  split <;> rfl

theorem settled_winner (wins : branch.branchId = winningBranchId) :
    branch.settled winningBranchId = branch := if_pos wins

theorem settled_loser (loses : branch.branchId ≠ winningBranchId) :
    branch.settled winningBranchId = branch.moved branch.state.lost := if_neg loses

theorem settled_settled :
    (branch.settled winningBranchId).settled winningBranchId = branch.settled winningBranchId := by
  by_cases wins : branch.branchId = winningBranchId
  · rw [settled_winner wins, settled_winner wins]
  · rw [settled_loser wins, settled_loser (by exact wins)]
    simp [SpeculativeBranch.moved]

/-- A branch that loses has what the state that it ends in asks for. -/
theorem carriesFor_lost (valid : branch.Valid) : branch.CarriesFor branch.state.lost := by
  refine ⟨?_, fun ends => ?_⟩
  · rintro (ends | ends)
    · exact absurd ends SpeculativeBranchState.lost_ne_succeeded
    · exact valid.result_given (.inr (SpeculativeBranchState.lost_eq_committed.mp ends))
  · exact (valid.committed_verified (SpeculativeBranchState.lost_eq_committed.mp ends)).1

theorem settled_valid (valid : branch.Valid) : (branch.settled winningBranchId).Valid := by
  by_cases wins : branch.branchId = winningBranchId
  · rwa [settled_winner wins]
  · rw [settled_loser wins]
    exact valid.moved_iff.mpr (carriesFor_lost valid)

theorem cancelLosingBranch_of_valid (valid : branch.Valid) :
    cancelLosingBranch winningBranchId branch = .ok (branch.settled winningBranchId) := by
  have transition {target : SpeculativeBranchState} (allowed : target ∈ allowedTargets branch.state)
      (ends : branch.state.lost = target) :
      transitionBranch branch target = .ok (branch.moved branch.state.lost) := by
    rw [← ends] at allowed ⊢
    exact (transitionBranch_eq_ok_iff valid).mpr ⟨allowed, carriesFor_lost valid, rfl⟩
  unfold cancelLosingBranch
  by_cases wins : branch.branchId = winningBranchId
  · rw [if_pos wins, settled_winner wins]
  · rw [if_neg wins, settled_loser wins]
    split
    · next unfinished =>
        obtain ⟨allowed, ends⟩ := SpeculativeBranchState.lost_of_unfinished unfinished
        exact transition allowed ends
    · next notUnfinished =>
        split
        · next finished =>
            obtain ⟨allowed, ends⟩ := SpeculativeBranchState.lost_of_finished finished
            exact transition allowed ends
        · next notFinished =>
            rw [SpeculativeBranchState.lost_of_rest notUnfinished notFinished]
            rfl

end Settled

/-- What the branches are once the winner is known. -/
def settledBranches (branches : List SpeculativeBranch) (winningBranchId : String) :
    List SpeculativeBranch :=
  (sortOn (fun branch => branch.branchId) branches).map (.settled winningBranchId)

/-- The branches that a cancellation leaves. -/
structure Cancels (branches : List SpeculativeBranch) (winningBranchId : String)
    (outcome : List SpeculativeBranch) : Prop where
  /-- The ids are kept. -/
  ids : (outcome.map fun branch => branch.branchId).Perm
    (branches.map fun branch => branch.branchId)
  /-- The winner is left alone. -/
  winner : ∀ branch, branch.branchId = winningBranchId → (branch ∈ outcome ↔ branch ∈ branches)
  /-- Every other branch is cancelled or discarded. -/
  losers : ∀ branch ∈ outcome, branch.branchId ≠ winningBranchId →
    branch.state = .cancelled ∨ branch.state = .discarded
  /-- The order of the branches does not matter. -/
  order : ∀ others, branches.Perm others →
    cancelLosingBranches others winningBranchId = .ok outcome
  /-- Cancelling again changes nothing. -/
  again : cancelLosingBranches outcome winningBranchId = .ok outcome

section Cancellation

variable {branches : List SpeculativeBranch} {winningBranchId : String}
  (valid : ∀ branch ∈ branches, branch.Valid)
  (distinct : (branches.map fun branch => branch.branchId).Nodup)
  (present : winningBranchId ∈ branches.map fun branch => branch.branchId)

theorem settledBranches_ids :
    ((settledBranches branches winningBranchId).map fun branch => branch.branchId).Perm
      (branches.map fun branch => branch.branchId) := by
  rw [settledBranches, List.map_map]
  simp only [Function.comp_def, branchId_settled]
  exact (sortOn_perm _ branches).map _

theorem mem_settledBranches {branch : SpeculativeBranch} :
    branch ∈ settledBranches branches winningBranchId ↔
      ∃ former ∈ branches, former.settled winningBranchId = branch := by
  simp [settledBranches]

include valid distinct present in
theorem cancelLosingBranches_of_valid : cancelLosingBranches branches winningBranchId =
    .ok (settledBranches branches winningBranchId) := by
  rw [cancelLosingBranches, require_of_true distinct, ok_bind, require_of_true present, ok_bind,
    settledBranches, mapM_eq_ok_iff_forall₂, List.forall₂_map_right_iff, List.forall₂_same]
  exact fun branch member => cancelLosingBranch_of_valid (valid branch ((mem_sortOn _).mp member))

theorem settledBranches_again : settledBranches (settledBranches branches winningBranchId)
    winningBranchId = settledBranches branches winningBranchId := by
  have sorted : sortOn (fun branch => branch.branchId) (settledBranches branches winningBranchId) =
      settledBranches branches winningBranchId := by
    rw [settledBranches, map_sortOn _ _ (fun branch => branch.branchId)
      fun branch => branchId_settled]
    exact sortOn_eq_self _ (sortOn_pairwise _ _)
  rw [settledBranches, sorted, settledBranches, List.map_map]
  exact List.map_congr_left fun branch _ => settled_settled

include distinct in
theorem settledBranches_perm {others : List SpeculativeBranch} (perm : branches.Perm others) :
    settledBranches others winningBranchId = settledBranches branches winningBranchId := by
  rw [settledBranches, settledBranches, sortOn_eq_of_perm ?_ perm]
  exact fun left leftMember right rightMember => List.inj_on_of_nodup_map distinct leftMember
    rightMember

include valid distinct present in
/-- A cancellation leaves what it should where no loser is committed. -/
theorem settledBranches_cancels
    (uncommitted : ∀ branch ∈ branches, branch.state = .committed →
      branch.branchId = winningBranchId) :
    Cancels branches winningBranchId (settledBranches branches winningBranchId) where
  ids := settledBranches_ids
  winner := by
    intro branch wins
    rw [mem_settledBranches]
    constructor
    · rintro ⟨former, member, rfl⟩
      rw [branchId_settled] at wins
      rwa [settled_winner wins]
    · exact fun member => ⟨branch, member, settled_winner wins⟩
  losers := by
    intro branch member loses
    obtain ⟨former, isFormer, rfl⟩ := mem_settledBranches.mp member
    rw [branchId_settled] at loses
    rw [settled_loser loses]
    exact SpeculativeBranchState.lost_ended_iff.mpr (mt (uncommitted former isFormer) loses)
  order := by
    intro others perm
    rw [← settledBranches_perm distinct perm]
    exact cancelLosingBranches_of_valid
      (fun branch member => valid branch (perm.mem_iff.mpr member))
      ((perm.map _).nodup_iff.mp distinct) ((perm.map _).mem_iff.mp present)
  again := by
    have settledAgain := @cancelLosingBranches_of_valid
      (settledBranches branches winningBranchId) winningBranchId ?_
      (settledBranches_ids.nodup_iff.mpr distinct) (settledBranches_ids.mem_iff.mpr present)
    · rwa [settledBranches_again] at settledAgain
    · intro branch member
      obtain ⟨former, isFormer, rfl⟩ := mem_settledBranches.mp member
      exact settled_valid (valid former isFormer)

/-- The cancellation succeeds and leaves what it should. -/
def CancelsLosers (branches : List SpeculativeBranch) (winningBranchId : String) : Prop :=
  ∃ outcome, cancelLosingBranches branches winningBranchId = .ok outcome ∧
    Cancels branches winningBranchId outcome

include valid distinct present in
/-- Cancelling the losers among branches with distinct ids, one of which is the winner, does what it
should exactly where no branch but the winner is committed. -/
theorem cancelsLosers_iff : CancelsLosers branches winningBranchId ↔
    ∀ branch ∈ branches, branch.state = .committed → branch.branchId = winningBranchId := by
  have outcome := cancelLosingBranches_of_valid valid distinct present
  constructor
  · rintro ⟨left, cancelled, cancels⟩ branch member committed
    obtain rfl := Except.ok.inj (outcome.symm.trans cancelled)
    by_contra loses
    have ended := cancels.losers (branch.settled winningBranchId)
      (mem_settledBranches.mpr ⟨branch, member, rfl⟩) (by rwa [branchId_settled])
    rw [settled_loser loses] at ended
    exact SpeculativeBranchState.lost_ended_iff.mp ended committed
  · exact fun uncommitted =>
      ⟨_, outcome, settledBranches_cancels valid distinct present uncommitted⟩

end Cancellation

/-- A branch with a verified result. -/
def verifiedBranch (branchId : String) (state : SpeculativeBranchState) : SpeculativeBranch where
  branchId := branchId
  placementCandidateId := "candidate"
  state := state
  resultId := some "result"
  resultFingerprint := some "fingerprint"
  verificationEvidenceId := some "evidence"
  verified := true

theorem valid_of_validate {branches : List SpeculativeBranch}
    (passes : ∀ branch ∈ branches, branch.validate = .ok ()) :
    ∀ branch ∈ branches, branch.Valid :=
  fun branch member => SpeculativeBranch.validate_eq_ok_iff.mp (passes branch member)

/-- A running loser is cancelled. -/
theorem runningLoser_cancelled :
    CancelsLosers [verifiedBranch "second" .running, verifiedBranch "first" .committed] "first" :=
  (cancelsLosers_iff (valid_of_validate (by decide)) (by decide) (by decide)).mpr (by decide)

/-- A second committed branch stays committed. -/
theorem committedLoser_survives :
    ¬ ∀ (branches : List SpeculativeBranch) (winningBranchId : String),
      (∀ branch ∈ branches, branch.Valid) →
      (branches.map fun branch => branch.branchId).Nodup →
      (winningBranchId ∈ branches.map fun branch => branch.branchId) →
      CancelsLosers branches winningBranchId := by
  intro law
  let branches := [verifiedBranch "first" .committed, verifiedBranch "second" .committed]
  obtain ⟨outcome, cancelled, cancels⟩ := law branches "first"
    (valid_of_validate (by decide)) (by decide) (by decide)
  have computed : cancelLosingBranches branches "first" = .ok branches := by decide
  obtain rfl := Except.ok.inj (computed.symm.trans cancelled)
  have ended := cancels.losers (verifiedBranch "second" .committed) (by simp [branches]) (by decide)
  contradiction

end Speculation
end MercuryX
