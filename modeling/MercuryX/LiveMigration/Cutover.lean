import MercuryX.Foundation.Dict
import MercuryX.LiveMigration.Contracts

/-!
# Cutover authority

The ledger that hands execution authority over to the destination. It is keyed by migration
request, and the verification that unlocks a commit is not compared with the plan. The authority
law therefore holds along exactly those runs whose accepted commits were given a verification of
their own plan and a source that nobody had taken over before.
-/

namespace MercuryX
namespace LiveMigration

open Foundation

variable {digest : Digest}

/-- The records committed so far, by migration request. -/
structure CutoverAuthorityLedger (digest : Digest) where
  /-- One record for each migration request that was committed. -/
  committed : Dict String (FrozenArtifact digest CutoverRecord)

/-- The arguments of one commit. -/
structure CutoverCall (digest : Digest) where
  plan : FrozenArtifact digest MigrationPlan
  verification : FrozenArtifact digest MigrationVerification
  sourceExecutionId : String
  destinationExecutionId : String
  authorityGeneration : Int

/-- The record of an accepted commit. -/
def CutoverCall.record (call : CutoverCall digest) : FrozenArtifact digest CutoverRecord :=
  .sealed
    { cutoverId := s!"cutover:{call.plan.body.migrationRequestId}:{call.authorityGeneration}"
      migrationPlanId := call.plan.body.migrationPlanId
      sourceExecutionId := call.sourceExecutionId
      destinationExecutionId := call.destinationExecutionId
      authorityGeneration := call.authorityGeneration.toNat
      committed := true }

namespace CutoverAuthorityLedger

/-- The ledger before any commit. -/
def initial : CutoverAuthorityLedger digest := ⟨Dict.empty⟩

/-- Commit a cutover. -/
def commit (ledger : CutoverAuthorityLedger digest) (call : CutoverCall digest) :
    Except Fault (FrozenArtifact digest CutoverRecord) × CutoverAuthorityLedger digest :=
  if ¬ call.verification.body.equivalent then
    (.error (.value "cannot cut over before equivalence verification"), ledger)
  else if call.plan.body.migrationRequestId ∈ ledger.committed.keys then
    (.error (.value "migration request already committed"), ledger)
  else
    match fieldGe "CutoverRecord" "authority_generation" 0 call.authorityGeneration with
    | .error invalid => (.error invalid, ledger)
    | .ok () =>
        (.ok call.record,
          { ledger with
            committed := ledger.committed.insert call.plan.body.migrationRequestId call.record })

/-- The checks that commit makes on a call. -/
def Accepts (ledger : CutoverAuthorityLedger digest) (call : CutoverCall digest) : Prop :=
  call.verification.body.equivalent = true ∧
    call.plan.body.migrationRequestId ∉ ledger.committed.keys ∧ 0 ≤ call.authorityGeneration

/-- A commit succeeds exactly when its checks pass, and then stores the call's record. -/
theorem commit_ok_iff {ledger next : CutoverAuthorityLedger digest} {call : CutoverCall digest}
    {record : FrozenArtifact digest CutoverRecord} :
    ledger.commit call = (.ok record, next) ↔
      ledger.Accepts call ∧ record = call.record ∧
        next = ⟨ledger.committed.insert call.plan.body.migrationRequestId call.record⟩ := by
  unfold commit Accepts
  by_cases equivalent : call.verification.body.equivalent = true
  · by_cases fresh : call.plan.body.migrationRequestId ∉ ledger.committed.keys
    · by_cases natural : 0 ≤ call.authorityGeneration
      · simp [equivalent, fresh, natural, fieldGe, require, eq_comm]
      · simp [equivalent, fresh, natural, fieldGe, require]
    · simp [equivalent, not_not.mp fresh]
  · simp [equivalent]

theorem commit_error {ledger next : CutoverAuthorityLedger digest} {call : CutoverCall digest}
    {raised : Fault} (rejected : ledger.commit call = (.error raised, next)) : next = ledger := by
  unfold commit at rejected
  split at rejected
  · exact (Prod.mk.inj rejected).2.symm
  · split at rejected
    · exact (Prod.mk.inj rejected).2.symm
    · split at rejected
      · exact (Prod.mk.inj rejected).2.symm
      · simp at rejected

/-- The ledger as a machine over commits. -/
def machine (digest : Digest) : Machine (CutoverAuthorityLedger digest) (CutoverCall digest)
    (FrozenArtifact digest CutoverRecord) Fault where
  step := commit
  atomic _ _ _ _ := commit_error

end CutoverAuthorityLedger

open CutoverAuthorityLedger

/-! ## The authority law -/

/-- The verification is of the committed plan and its destination. -/
def CutoverCall.VerifiesPlan (call : CutoverCall digest) : Prop :=
  call.verification.body.migrationPlanId = call.plan.body.migrationPlanId ∧
    call.verification.body.destinationNodeId = call.plan.body.destinationNodeId

/-- At most one committed record for each source execution. -/
def UniqueAuthority (ledger : CutoverAuthorityLedger digest) : Prop :=
  (ledger.committed.values.map fun record => record.body.sourceExecutionId).Nodup

instance (ledger : CutoverAuthorityLedger digest) : Decidable (UniqueAuthority ledger) :=
  inferInstanceAs (Decidable (List.Nodup _))

/-- Every committed record was accepted, for its request, with an equivalent verification of the
committed plan. -/
def VerifiedAuthority (accepted : List (CutoverCall digest))
    (ledger : CutoverAuthorityLedger digest) : Prop :=
  ∀ request record, ledger.committed.get? request = some record →
    ∃ call ∈ accepted, call.plan.body.migrationRequestId = request ∧ record = call.record ∧
      call.verification.body.equivalent = true ∧ call.VerifiesPlan

/-- The call, if it passes the checks of commit, verifies its own plan and takes over a source
that no committed record has taken over. -/
def SoundCutover (ledger : CutoverAuthorityLedger digest) (call : CutoverCall digest) : Prop :=
  ledger.Accepts call → call.VerifiesPlan ∧
    ∀ record ∈ ledger.committed.values, record.body.sourceExecutionId ≠ call.sourceExecutionId

/-- In every state that a run of commits reaches, authority is unique and verified, and a rejected
commit changes nothing. -/
def AuthorityLaw (calls : List (CutoverCall digest)) : Prop :=
  ∀ front, front <+: calls →
    UniqueAuthority ((machine digest).run initial front) ∧
      VerifiedAuthority ((machine digest).succeeded initial front)
        ((machine digest).run initial front) ∧
      ∀ call raised next,
        ((machine digest).run initial front).commit call = (.error raised, next) →
          next = (machine digest).run initial front

theorem values_insert_record {ledger : CutoverAuthorityLedger digest} {call : CutoverCall digest}
    (fresh : call.plan.body.migrationRequestId ∉ ledger.committed.keys) :
    (ledger.committed.insert call.plan.body.migrationRequestId call.record).values =
      ledger.committed.values ++ [call.record] := by
  simp [Dict.values, Dict.insert_entries_of_not_mem fresh]

theorem uniqueAuthority_initial : UniqueAuthority (initial : CutoverAuthorityLedger digest) := by
  simp [UniqueAuthority, initial, Dict.empty, Dict.values]

theorem uniqueAuthority_insert_iff {ledger : CutoverAuthorityLedger digest}
    {call : CutoverCall digest} (unique : UniqueAuthority ledger)
    (fresh : call.plan.body.migrationRequestId ∉ ledger.committed.keys) :
    UniqueAuthority
        ⟨ledger.committed.insert call.plan.body.migrationRequestId call.record⟩ ↔
      ∀ record ∈ ledger.committed.values,
        record.body.sourceExecutionId ≠ call.sourceExecutionId := by
  rw [UniqueAuthority] at unique
  rw [UniqueAuthority, values_insert_record fresh, List.map_append, List.nodup_append]
  simp only [unique, List.map_cons, List.map_nil, List.nodup_singleton, List.mem_singleton,
    List.mem_map, forall_exists_index, and_imp, true_and]
  constructor
  · intro distinct record member
    exact distinct _ record member rfl _ rfl
  · rintro distinct _ record member rfl _ rfl
    exact distinct record member

theorem verifiedAuthority_insert {ledger : CutoverAuthorityLedger digest}
    {past : List (CutoverCall digest)} {call : CutoverCall digest}
    (verified : VerifiedAuthority past ledger)
    (equivalent : call.verification.body.equivalent = true) (matching : call.VerifiesPlan) :
    VerifiedAuthority (past ++ [call])
      ⟨ledger.committed.insert call.plan.body.migrationRequestId call.record⟩ := by
  intro request record found
  by_cases same : request = call.plan.body.migrationRequestId
  · subst same
    rw [Dict.get?_insert_self, Option.some_inj] at found
    exact ⟨call, by simp, rfl, found.symm, equivalent, matching⟩
  · rw [Dict.get?_insert_of_ne _ same] at found
    obtain ⟨earlier, member, justified⟩ := verified request record found
    exact ⟨earlier, List.mem_append_left _ member, justified⟩

theorem committed_of_succeeded (calls : List (CutoverCall digest)) :
    ∀ call ∈ (machine digest).succeeded initial calls,
      call.plan.body.migrationRequestId ∈ ((machine digest).run initial calls).committed.keys := by
  let invariant (past : List (CutoverCall digest)) (ledger : CutoverAuthorityLedger digest) :
      Prop :=
    ∀ call ∈ past, call.plan.body.migrationRequestId ∈ ledger.committed.keys
  refine Machine.run_trace invariant initial calls (by simp [invariant]) ?_
  intro past ledger call record next earlier step other member
  obtain ⟨_, _, rfl⟩ := commit_ok_iff.mp step
  rw [Dict.mem_keys_insert]
  rcases List.mem_append.mp member with old | new
  · exact .inr (earlier other old)
  · exact .inl (by rw [List.mem_singleton.mp new])

/-- A run of sound commits keeps authority unique and verified. -/
theorem authority_of_soundCutover {calls : List (CutoverCall digest)}
    (sound : (machine digest).AllSteps SoundCutover initial calls) :
    UniqueAuthority ((machine digest).run initial calls) ∧
      VerifiedAuthority ((machine digest).succeeded initial calls)
        ((machine digest).run initial calls) := by
  refine sound.trace (fun past ledger =>
    UniqueAuthority ledger ∧ VerifiedAuthority past ledger) ?_ ?_
  · refine ⟨uniqueAuthority_initial, ?_⟩
    intro request record found
    simp [initial] at found
  · rintro past ledger call record next ⟨unique, verified⟩ soundCall step
    obtain ⟨accepts, _, rfl⟩ := commit_ok_iff.mp step
    obtain ⟨matching, newSource⟩ := soundCall accepts
    exact ⟨(uniqueAuthority_insert_iff unique accepts.2.1).mpr newSource,
      verifiedAuthority_insert verified accepts.1 matching⟩

/-- A run obeys the authority law exactly when each of its steps is a sound commit. -/
theorem authorityLaw_iff_soundCutover (calls : List (CutoverCall digest)) :
    AuthorityLaw calls ↔ (machine digest).AllSteps SoundCutover initial calls := by
  constructor
  · intro law
    rw [Machine.allSteps_iff]
    intro front call back split accepts
    have step := commit_ok_iff.mpr ⟨accepts, rfl, rfl⟩
    have stepped : (machine digest).run initial (front ++ [call]) =
        ⟨((machine digest).run initial front).committed.insert call.plan.body.migrationRequestId
          call.record⟩ := by
      rw [Machine.run_append, Machine.run_cons, Machine.run_nil]
      exact Machine.after_ok step
    have before := law front ⟨call :: back, split.symm⟩
    have later := law (front ++ [call]) ⟨back, by simp [split]⟩
    rw [stepped] at later
    refine ⟨?_, (uniqueAuthority_insert_iff before.1 accepts.2.1).mp later.1⟩
    obtain ⟨accepted, member, sameRequest, _, _, matching⟩ :=
      later.2.1 call.plan.body.migrationRequestId call.record (Dict.get?_insert_self _ _ _)
    rw [Machine.succeeded_append, List.mem_append] at member
    -- An earlier accepted call would have left the request committed.
    rcases member with earlier | last
    · exact absurd (sameRequest ▸ committed_of_succeeded front accepted earlier) accepts.2.1
    · have single : (machine digest).succeeded _ [call] = [call] := Machine.succeeded_ok step []
      rw [single] at last
      exact List.mem_singleton.mp last ▸ matching
  · rintro sound front ⟨back, rfl⟩
    obtain ⟨unique, verified⟩ := authority_of_soundCutover sound.of_append
    exact ⟨unique, verified, fun call raised next rejected => commit_error rejected⟩

/-! ## Two requests for one execution -/

/-- A verification in which everything matches. -/
def sampleVerification (digest : Digest) (planId node : String) :
    FrozenArtifact digest MigrationVerification :=
  .sealed
    { verificationId := s!"verification:{planId}"
      migrationPlanId := planId
      destinationNodeId := node
      modelIdentityMatch := true
      precisionMatch := true
      graphPositionMatch := true
      contextDigestMatch := true
      reasoningStateMatch := true
      speculationStateMatch := true
      sloMatch := true
      authorizationMatch := true
      qualityPreserved := true }

/-- The commit of a request's plan, verified as that of another request. -/
def sampleCall (digest : Digest) (request verifiedRequest node destination : String) :
    CutoverCall digest where
  plan := samplePlan digest request node
  verification := sampleVerification digest s!"plan:{verifiedRequest}" node
  sourceExecutionId := "e1"
  destinationExecutionId := destination
  authorityGeneration := 8

/-- Two requests commit a cutover of the same execution, the second with the verification of the
first: both records stand, and neither the source nor the verification is unique to its plan. -/
theorem authorityLaw_fails_for_two_requests :
    ¬ AuthorityLaw [sampleCall Digest.sha256 "m1" "m1" "b" "e2",
      sampleCall Digest.sha256 "m2" "m1" "c" "e3"] := by
  intro law
  have unique := (law _ List.prefix_rfl).1
  revert unique
  decide

end LiveMigration
end MercuryX
