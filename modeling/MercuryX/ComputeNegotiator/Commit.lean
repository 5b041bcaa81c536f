import MercuryX.ComputeNegotiator.Contracts

/-!
# Committing agreements

A commit checks the lease, the snapshot, the authorization, the hard constraints and the approval
once more, consumes the offer in the ledger, and only then builds the agreement. What is built then
always validates, so that no offer is consumed in vain.
-/

namespace MercuryX
namespace ComputeNegotiator

open Foundation

variable (digest : Digest)

/-! ## Leases -/

/-- Whether an offer still stands, and the reason. -/
def offerIsValid (offer : ComputeOffer digest)
    (currentGeneration currentResourceSnapshotGeneration : Int) : Bool × String :=
  if offer.leaseUntilGeneration < currentGeneration then (false, "OFFER_EXPIRED")
  else if currentResourceSnapshotGeneration ≠ offer.resourceSnapshotGeneration then
    (false, "RESOURCE_SNAPSHOT_STALE")
  else (true, "OFFER_VALID")

/-! ## The ledger -/

/-- The offers that were committed. -/
structure AgreementCommitLedger where
  /-- The identities of the committed offers. -/
  committed : Finset String

namespace AgreementCommitLedger

/-- The ledger before any commit. -/
def initial : AgreementCommitLedger := ⟨∅⟩

/-- Consume an offer. -/
def claim (ledger : AgreementCommitLedger) (offerId : String) :
    Except Fault Unit × AgreementCommitLedger :=
  if offerId ∈ ledger.committed then (.error (.value "offer already committed"), ledger)
  else (.ok (), ⟨insert offerId ledger.committed⟩)

end AgreementCommitLedger

/-! ## Commits -/

/-- The arguments of one commit, the ledger apart. -/
structure CommitCall where
  offer : ComputeOffer digest
  approval : Option (ApprovalArtifact digest)
  currentGeneration : Int
  currentResourceSnapshotGeneration : Int
  authorizationValid : Bool
  hardConstraintsStillHold : Bool

namespace CommitCall

variable {digest}

/-- The check of an approval against the offer. -/
def checkApproval (call : CommitCall digest) (approval : ApprovalArtifact digest) :
    Except Fault Unit := do
  require (approval.offerId = call.offer.offerId) (.value "approval/offer mismatch")
  require (approval.approvalGeneration = call.currentGeneration)
    (.value "approval generation mismatch")
  require (approval.acceptedChangedConstraints.toFinset =
    call.offer.changedSoftConstraints.toFinset) (.value "approval constraint mismatch")

/-- The checks that precede the use of the ledger. -/
def check (call : CommitCall digest) : Except Fault Unit := do
  let (ok, reason) := offerIsValid digest call.offer call.currentGeneration
    call.currentResourceSnapshotGeneration
  require (ok = true) (.value reason)
  require (call.authorizationValid = true) (.value "authorization invalid")
  require (call.hardConstraintsStillHold = true) (.value "hard constraint drift")
  require (¬ (call.offer.changedSoftConstraints ≠ [] ∧ call.approval.isNone))
    (.value "explicit approval required")
  forEach call.checkApproval call.approval.toList

/-- The identity of the approval that came with the call. -/
def approvalId (call : CommitCall digest) : Option String :=
  call.approval.map fun approval => approval.approvalId

/-- The terms of the agreement. -/
def body (call : CommitCall digest) : Json := .obj [
  ("offer", .str call.offer.offerId), ("approval", Json.optStr call.approvalId),
  ("snapshot", .int call.currentResourceSnapshotGeneration)]

/-- The fields of the agreement. -/
def agreementFields (call : CommitCall digest) : AgreementFields :=
  let fp := digest.hexdigest call.body
  { agreementId := addressOf digest "agreement" fp
    offerId := call.offer.offerId
    approvalId := call.approvalId
    resourceSnapshotGeneration := call.currentResourceSnapshotGeneration
    committed := true
    fingerprint := fp }

/-- The offer stands, and the commit is authorized and approved. -/
structure Permitted (call : CommitCall digest) : Prop where
  /-- The lease has not expired. -/
  lease : call.currentGeneration ≤ call.offer.leaseUntilGeneration
  /-- The resources are those of the offer. -/
  snapshot : call.currentResourceSnapshotGeneration = call.offer.resourceSnapshotGeneration
  /-- The commit is authorized. -/
  authorized : call.authorizationValid = true
  /-- The hard constraints hold. -/
  constrained : call.hardConstraintsStillHold = true
  /-- A change of soft constraints is approved. -/
  approved : call.offer.changedSoftConstraints ≠ [] → ∃ approval, call.approval = some approval
  /-- The approval is for this offer, this generation and these changes. -/
  matching : ∀ approval, call.approval = some approval →
    approval.offerId = call.offer.offerId ∧ approval.approvalGeneration = call.currentGeneration ∧
      ∀ constraint, constraint ∈ approval.acceptedChangedConstraints ↔
        constraint ∈ call.offer.changedSoftConstraints

theorem checkApproval_eq_ok_iff {call : CommitCall digest} {approval : ApprovalArtifact digest}
    {done : Unit} : call.checkApproval approval = .ok done ↔
      approval.offerId = call.offer.offerId ∧ approval.approvalGeneration = call.currentGeneration ∧
        ∀ constraint, constraint ∈ approval.acceptedChangedConstraints ↔
          constraint ∈ call.offer.changedSoftConstraints := by
  simp only [checkApproval, bind_eq_ok, require_eq_ok, exists_const, Finset.ext_iff,
    List.mem_toFinset]

theorem offerIsValid_iff {offer : ComputeOffer digest} {generation snapshot : Int} :
    (offerIsValid digest offer generation snapshot).1 = true ↔
      generation ≤ offer.leaseUntilGeneration ∧ snapshot = offer.resourceSnapshotGeneration := by
  unfold offerIsValid
  split
  case isTrue expired => simp [expired]
  case isFalse standing =>
    split
    case isTrue stale => simp [stale]
    case isFalse current => simpa [not_not.mp current] using standing

theorem check_eq_ok_iff {call : CommitCall digest} {done : Unit} :
    call.check = .ok done ↔ call.Permitted := by
  simp only [check, bind_eq_ok, require_eq_ok, forEach_eq_ok, Option.mem_toList,
    checkApproval_eq_ok_iff, offerIsValid_iff, exists_const, not_and, Option.isNone_iff_eq_none,
    ← Option.isSome_iff_ne_none, Option.isSome_iff_exists]
  constructor
  · rintro ⟨⟨lease, snapshot⟩, authorized, constrained, approved, matching⟩
    exact ⟨lease, snapshot, authorized, constrained, approved, matching⟩
  · rintro ⟨lease, snapshot, authorized, constrained, approved, matching⟩
    exact ⟨⟨lease, snapshot⟩, authorized, constrained, approved, matching⟩

theorem agreementFields_valid (call : CommitCall digest) :
    call.agreementFields.Valid digest :=
  ⟨rfl, rfl, rfl⟩

end CommitCall

/-- Commit an offer, exactly once if a ledger is given. -/
def commitAgreement (ledger : Option AgreementCommitLedger) (call : CommitCall digest) :
    Except Fault (ComputeAgreement digest) × Option AgreementCommitLedger :=
  match call.check with
  | .error raised => (.error raised, ledger)
  | .ok _ =>
      match ledger with
      | none => (ComputeAgreement.construct digest call.agreementFields, none)
      | some ledger =>
          match ledger.claim call.offer.offerId with
          | (.error raised, next) => (.error raised, some next)
          | (.ok _, next) => (ComputeAgreement.construct digest call.agreementFields, some next)

section Commit

variable {digest} {ledger : AgreementCommitLedger} {next : Option AgreementCommitLedger}
  {call : CommitCall digest} {agreement : ComputeAgreement digest}

theorem commitAgreement_eq_ok_iff :
    commitAgreement digest (some ledger) call = (.ok agreement, next) ↔
      (call.Permitted ∧ call.offer.offerId ∉ ledger.committed ∧
        agreement.toAgreementFields = call.agreementFields) ∧
      next = some ⟨insert call.offer.offerId ledger.committed⟩ := by
  have checked : call.check = .ok () ↔ call.Permitted := CommitCall.check_eq_ok_iff
  rw [← checked, ← ComputeAgreement.construct_eq_ok_iff]
  unfold commitAgreement AgreementCommitLedger.claim
  cases call.check with
  | error raised => simp
  | ok _ =>
      by_cases consumed : call.offer.offerId ∈ ledger.committed
      · simp [consumed]
      · simp [consumed, eq_comm]

/-- A commit that raises leaves the ledger unchanged: the agreement that is built after the offer
was consumed always validates. -/
theorem commitAgreement_error {raised : Fault}
    (failed : commitAgreement digest (some ledger) call = (.error raised, next)) :
    next = some ledger := by
  have built : ComputeAgreement.construct digest call.agreementFields =
      .ok ⟨call.agreementFields, call.agreementFields_valid⟩ :=
    ComputeAgreement.construct_eq_ok_iff.mpr rfl
  unfold commitAgreement AgreementCommitLedger.claim at failed
  cases checked : call.check with
  | error _ =>
      rw [checked] at failed
      exact (Prod.mk.inj failed).2.symm
  | ok _ =>
      by_cases consumed : call.offer.offerId ∈ ledger.committed
      · simp only [checked, consumed, if_true] at failed
        exact (Prod.mk.inj failed).2.symm
      · simp only [checked, consumed, if_false, built] at failed
        exact absurd (Prod.mk.inj failed).1 (by simp)

theorem exists_commitAgreement_ledger (ledger : AgreementCommitLedger) (call : CommitCall digest) :
    ∃ left, (commitAgreement digest (some ledger) call).2 = some left := by
  match outcome : commitAgreement digest (some ledger) call with
  | (.error _, _) => exact ⟨ledger, commitAgreement_error outcome⟩
  | (.ok _, _) => exact ⟨_, (commitAgreement_eq_ok_iff.mp outcome).2⟩

end Commit

/-! ## Runs of commits -/

/-- A commit on a shared ledger. -/
def commitStep (ledger : AgreementCommitLedger) (call : CommitCall digest) :
    Except Fault (ComputeAgreement digest) × AgreementCommitLedger :=
  let (outcome, left) := commitAgreement digest (some ledger) call
  (outcome, left.getD ledger)

variable {digest} in
theorem commitStep_eq_iff {ledger next : AgreementCommitLedger} {call : CommitCall digest}
    {outcome : Except Fault (ComputeAgreement digest)} :
    commitStep digest ledger call = (outcome, next) ↔
      commitAgreement digest (some ledger) call = (outcome, some next) := by
  obtain ⟨left, kept⟩ := exists_commitAgreement_ledger ledger call
  simp [commitStep, Prod.ext_iff, kept]

/-- The shared ledger as a machine over commits. -/
def commitMachine : Machine AgreementCommitLedger (CommitCall digest) (ComputeAgreement digest)
    Fault where
  step := commitStep digest
  atomic _ _ _ _ failed := Option.some.inj (commitAgreement_error (commitStep_eq_iff.mp failed))

open AgreementCommitLedger

section Runs

variable {digest}

/-- The agreement is for the offer and the approval of the call, and the call was permitted. -/
structure CommittedUnder (call : CommitCall digest) (agreement : ComputeAgreement digest) :
    Prop where
  /-- The agreement is on the offer. -/
  offer : agreement.offerId = call.offer.offerId
  /-- The agreement names the approval. -/
  approval : agreement.approvalId = call.approvalId
  /-- The agreement is on the resources of the offer. -/
  resources : agreement.resourceSnapshotGeneration = call.offer.resourceSnapshotGeneration
  /-- The agreement is committed. -/
  committed : agreement.committed = true
  /-- The lease had not expired. -/
  lease : call.currentGeneration ≤ call.offer.leaseUntilGeneration
  /-- The snapshot was that of the offer. -/
  snapshot : call.currentResourceSnapshotGeneration = call.offer.resourceSnapshotGeneration
  /-- The commit was authorized. -/
  authorized : call.authorizationValid = true
  /-- The hard constraints held. -/
  constrained : call.hardConstraintsStillHold = true
  /-- A change of soft constraints was approved for this offer, generation and set of changes. -/
  approved : call.offer.changedSoftConstraints ≠ [] → ∃ approval, call.approval = some approval ∧
    approval.offerId = call.offer.offerId ∧ approval.approvalGeneration = call.currentGeneration ∧
    ∀ constraint, constraint ∈ approval.acceptedChangedConstraints ↔
      constraint ∈ call.offer.changedSoftConstraints

theorem committedUnder_of_ok {ledger : AgreementCommitLedger}
    {next : Option AgreementCommitLedger} {call : CommitCall digest}
    {agreement : ComputeAgreement digest}
    (answered : commitAgreement digest (some ledger) call = (.ok agreement, next)) :
    CommittedUnder call agreement := by
  obtain ⟨⟨permitted, _, fields⟩, _⟩ := commitAgreement_eq_ok_iff.mp answered
  constructor
  case offer => rw [fields, CommitCall.agreementFields]
  case approval => rw [fields, CommitCall.agreementFields]
  case resources => rw [fields, CommitCall.agreementFields, permitted.snapshot]
  case committed => rw [fields, CommitCall.agreementFields]
  case lease => exact permitted.lease
  case snapshot => exact permitted.snapshot
  case authorized => exact permitted.authorized
  case constrained => exact permitted.constrained
  case approved =>
    intro changed
    obtain ⟨approval, given⟩ := permitted.approved changed
    exact ⟨approval, given, permitted.matching approval given⟩

/-- The ledger holds the offers of the commits that succeeded, each of them once. -/
structure Consumed (past : List (CommitCall digest)) (ledger : AgreementCommitLedger) : Prop where
  /-- No offer was committed twice. -/
  once : (past.map fun call => call.offer.offerId).Nodup
  /-- The committed offers are those in the ledger. -/
  held : ∀ offerId, offerId ∈ ledger.committed ↔ ∃ call ∈ past, call.offer.offerId = offerId

theorem Consumed.commit {past : List (CommitCall digest)} {ledger next : AgreementCommitLedger}
    {call : CommitCall digest} {agreement : ComputeAgreement digest}
    (consumed : Consumed past ledger)
    (step : (commitMachine digest).step ledger call = (.ok agreement, next)) :
    Consumed (past ++ [call]) next := by
  obtain ⟨⟨_, fresh, _⟩, moved⟩ := commitAgreement_eq_ok_iff.mp (commitStep_eq_iff.mp step)
  obtain rfl := Option.some.inj moved
  constructor
  case once =>
    rw [consumed.held] at fresh
    rw [List.map_append, List.nodup_append]
    refine ⟨consumed.once, List.nodup_singleton _, ?_⟩
    rintro offerId earlier _ (_ | _) rfl
    · exact fresh (List.mem_map.mp earlier)
    · contradiction
  case held =>
    intro offerId
    rw [Finset.mem_insert, consumed.held]
    constructor
    · rintro (rfl | ⟨earlier, member, named⟩)
      · exact ⟨call, by simp, rfl⟩
      · exact ⟨earlier, List.mem_append_left _ member, named⟩
    · rintro ⟨other, member, rfl⟩
      rcases List.mem_append.mp member with old | new
      · exact .inr ⟨other, old, rfl⟩
      · exact .inl (by rw [List.mem_singleton.mp new])

/-- Along a run the ledger holds the offers of the commits that succeeded. -/
theorem consumed_run (calls : List (CommitCall digest)) :
    Consumed ((commitMachine digest).succeeded initial calls)
      ((commitMachine digest).run initial calls) := by
  refine Machine.run_trace Consumed initial calls ?_ ?_
  · exact ⟨List.nodup_nil, by simp [initial]⟩
  · exact fun past ledger call agreement next consumed step => consumed.commit step

/-- What holds of every run of commits on one ledger. -/
structure AgreementCommitLaw (calls : List (CommitCall digest)) : Prop where
  /-- At most one agreement is returned for each offer. -/
  once : (((commitMachine digest).succeeded initial calls).map
    fun call => call.offer.offerId).Nodup
  /-- An agreement is only returned under the conditions of its offer. -/
  committed : ∀ front call back, calls = front ++ call :: back → ∀ agreement next,
    commitAgreement digest (some ((commitMachine digest).run initial front)) call =
      (.ok agreement, next) → CommittedUnder call agreement
  /-- A commit that raises leaves the ledger unchanged. -/
  atomic : ∀ front call back, calls = front ++ call :: back → ∀ raised next,
    commitAgreement digest (some ((commitMachine digest).run initial front)) call =
      (.error raised, next) → next = some ((commitMachine digest).run initial front)
  /-- The offers that are consumed are those that an agreement was returned for. -/
  consumed : ∀ offerId, offerId ∈ ((commitMachine digest).run initial calls).committed ↔
    ∃ call ∈ (commitMachine digest).succeeded initial calls, call.offer.offerId = offerId
  /-- A permitted commit of an offer that was not consumed returns an agreement. -/
  total : ∀ front call back, calls = front ++ call :: back → call.Permitted →
    call.offer.offerId ∉ ((commitMachine digest).run initial front).committed →
      (commitMachine digest).Succeeds ((commitMachine digest).run initial front) call

/-- Every run of commits obeys the law. -/
theorem agreementCommitLaw (calls : List (CommitCall digest)) : AgreementCommitLaw calls := by
  have consumed := consumed_run calls
  constructor
  case once => exact consumed.once
  case committed => exact fun _ _ _ _ _ _ answered => committedUnder_of_ok answered
  case atomic => exact fun _ _ _ _ _ _ failed => commitAgreement_error failed
  case consumed => exact consumed.held
  case total =>
    intro front call _ _ permitted fresh
    have answered := commitAgreement_eq_ok_iff.mpr
      ⟨⟨permitted, fresh, (rfl : (⟨call.agreementFields, call.agreementFields_valid⟩ :
        ComputeAgreement digest).toAgreementFields = call.agreementFields)⟩, rfl⟩
    exact Machine.succeeds_iff.mpr ⟨_, _, commitStep_eq_iff.mpr answered⟩

end Runs

end ComputeNegotiator
end MercuryX
