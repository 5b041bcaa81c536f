import MercuryX.LiveMigration.Contracts

/-!
# Qualification and planning

Two routines judge a destination: one lists the reasons for a rejection, the other raises while it
builds the plan. They agree on every candidate. Neither compares authorization contexts, so a plan
carries the request's authorization exactly when the candidate was given that context.
-/

namespace MercuryX
namespace LiveMigration

open Foundation

variable {digest : Digest}

/-! ## Qualification -/

/-- The checks on a destination, with the reason each failure gives. -/
def destinationChecks (request : FrozenArtifact digest MigrationRequest)
    (candidate : FrozenArtifact digest DestinationCandidate) : List (String × Bool) :=
  [("MODEL_UNSUPPORTED", candidate.body.supportsModel),
    ("PRECISION_UNSUPPORTED", candidate.body.supportsPrecision),
    ("RUNTIME_UNSUPPORTED", candidate.body.supportsRuntime),
    ("CAPACITY_INSUFFICIENT", candidate.body.capacitySufficient),
    ("QUALITY_NOT_PRESERVED", candidate.body.qualityPreserving),
    ("TOPOLOGY_STALE", candidate.body.topologyGeneration == request.body.topologyGeneration),
    ("AUTHORIZATION_STALE",
      candidate.body.authorizationGeneration == request.body.authorizationGeneration)]

/-- Whether a destination qualifies, with the reasons. -/
def qualifyDestination (request : FrozenArtifact digest MigrationRequest)
    (candidate : FrozenArtifact digest DestinationCandidate) : Bool × List String :=
  let reasons := ((destinationChecks request candidate).filter fun check => !check.2).map Prod.fst
  (reasons.isEmpty, if reasons.isEmpty then ["QUALIFIED"] else reasons)

/-- The plan of a request for a candidate. -/
def plannedMigration (request : FrozenArtifact digest MigrationRequest)
    (candidate : FrozenArtifact digest DestinationCandidate) (mode : MigrationMode)
    (migrationPlanId : String) : FrozenArtifact digest MigrationPlan :=
  .sealed
    { migrationPlanId := migrationPlanId
      migrationRequestId := request.body.migrationRequestId
      destinationCandidateId := candidate.body.candidateId
      destinationNodeId := candidate.body.nodeId
      mode := mode
      sourceExecutionGeneration := request.body.executionGeneration
      topologyGeneration := request.body.topologyGeneration
      placementGeneration := candidate.body.placementGeneration
      schedulerGeneration := request.body.schedulerGeneration
      agreementGeneration := request.body.computeAgreementGeneration
      authorizationGeneration := request.body.authorizationGeneration
      checkpointRequired := true }

/-- Build the plan of a request for a candidate. -/
def buildPlan (request : FrozenArtifact digest MigrationRequest)
    (candidate : FrozenArtifact digest DestinationCandidate) (mode : MigrationMode)
    (migrationPlanId : String) : Except Fault (FrozenArtifact digest MigrationPlan) := do
  require (candidate.body.topologyGeneration = request.body.topologyGeneration)
    (.value "stale topology candidate")
  require (candidate.body.authorizationGeneration = request.body.authorizationGeneration)
    (.value "stale authorization candidate")
  require ([candidate.body.supportsModel, candidate.body.supportsPrecision,
      candidate.body.supportsRuntime, candidate.body.capacitySufficient,
      candidate.body.qualityPreserving].all id = true)
    (.value "destination candidate is not qualified")
  return plannedMigration request candidate mode migrationPlanId

/-- The guard on the authorization of a migrated execution. -/
def validateSecurityState (sourceAuthorizationContextId destinationAuthorizationContextId : String)
    (sourceAuthorizationGeneration destinationAuthorizationGeneration : Nat)
    (destinationExpandsAuthority : Bool) : Bool × String :=
  if destinationExpandsAuthority then (false, "AUTHORITY_EXPANSION_FORBIDDEN")
  else if sourceAuthorizationContextId ≠ destinationAuthorizationContextId then
    (false, "AUTHORIZATION_CONTEXT_MISMATCH")
  else if sourceAuthorizationGeneration ≠ destinationAuthorizationGeneration then
    (false, "AUTHORIZATION_GENERATION_MISMATCH")
  else (true, "AUTHORIZATION_PRESERVED")

/-- What both routines demand of a candidate. -/
def Qualified (request : FrozenArtifact digest MigrationRequest)
    (candidate : FrozenArtifact digest DestinationCandidate) : Prop :=
  candidate.body.supportsModel = true ∧ candidate.body.supportsPrecision = true ∧
    candidate.body.supportsRuntime = true ∧ candidate.body.capacitySufficient = true ∧
    candidate.body.qualityPreserving = true ∧
    candidate.body.topologyGeneration = request.body.topologyGeneration ∧
    candidate.body.authorizationGeneration = request.body.authorizationGeneration

theorem qualifyDestination_iff {request : FrozenArtifact digest MigrationRequest}
    {candidate : FrozenArtifact digest DestinationCandidate} :
    (qualifyDestination request candidate).1 = true ↔ Qualified request candidate := by
  simp [qualifyDestination, destinationChecks, Qualified]

theorem buildPlan_eq_ok_iff {request : FrozenArtifact digest MigrationRequest}
    {candidate : FrozenArtifact digest DestinationCandidate} {mode : MigrationMode}
    {migrationPlanId : String} {plan : FrozenArtifact digest MigrationPlan} :
    buildPlan request candidate mode migrationPlanId = .ok plan ↔
      Qualified request candidate ∧
        plan = plannedMigration request candidate mode migrationPlanId := by
  simp only [buildPlan, bind_eq_ok, require_eq_ok, pure_eq_ok, Except.ok.injEq, exists_const,
    List.all_cons, List.all_nil, id_eq, Bool.and_eq_true, and_true, Qualified]
  constructor
  · rintro ⟨topology, authorization, flags, rfl⟩
    tauto
  · rintro ⟨qualified, rfl⟩
    tauto

/-- The two routines agree: a destination qualifies exactly when its plan can be built. -/
theorem qualifyDestination_iff_buildPlan (request : FrozenArtifact digest MigrationRequest)
    (candidate : FrozenArtifact digest DestinationCandidate) (mode : MigrationMode)
    (migrationPlanId : String) :
    (qualifyDestination request candidate).1 = true ↔
      ∃ plan, buildPlan request candidate mode migrationPlanId = .ok plan := by
  rw [qualifyDestination_iff]
  constructor
  · intro qualified
    exact ⟨_, buildPlan_eq_ok_iff.mpr ⟨qualified, rfl⟩⟩
  · rintro ⟨plan, built⟩
    exact (buildPlan_eq_ok_iff.mp built).1

/-! ## The event ledger -/

/-- The append-only history of migration events. -/
structure MigrationLedger (digest : Digest) where
  /-- The events in the order they were appended. -/
  events : List (FrozenArtifact digest MigrationLedgerEvent)
  /-- The identities of the appended events. -/
  eventIds : List String
  /-- The identities are those of the events. -/
  eventIds_eq : ∀ id, id ∈ eventIds ↔ ∃ event ∈ events, event.body.eventId = id

namespace MigrationLedger

/-- The ledger without events. -/
def initial : MigrationLedger digest := ⟨[], [], by simp⟩

/-- Append an event whose identity is new. -/
def append (ledger : MigrationLedger digest) (event : FrozenArtifact digest MigrationLedgerEvent) :
    Except Fault Unit × MigrationLedger digest :=
  if event.body.eventId ∈ ledger.eventIds then
    (.error (.value "duplicate migration event"), ledger)
  else
    (.ok (),
      { events := ledger.events ++ [event]
        eventIds := event.body.eventId :: ledger.eventIds
        eventIds_eq := by
          intro id
          simp only [List.mem_cons, ledger.eventIds_eq, List.mem_append, List.not_mem_nil, or_false]
          grind })

/-- The events of one migration request. -/
def history (ledger : MigrationLedger digest) (migrationRequestId : String) :
    List (FrozenArtifact digest MigrationLedgerEvent) :=
  ledger.events.filter fun event => event.body.migrationRequestId = migrationRequestId

theorem append_ok_iff {ledger next : MigrationLedger digest}
    {event : FrozenArtifact digest MigrationLedgerEvent} {done : Unit} :
    ledger.append event = (.ok done, next) ↔
      event.body.eventId ∉ ledger.eventIds ∧ next = (ledger.append event).2 := by
  unfold append
  split
  · simp_all
  · simp_all [eq_comm]

theorem append_error {ledger next : MigrationLedger digest}
    {event : FrozenArtifact digest MigrationLedgerEvent} {raised : Fault}
    (rejected : ledger.append event = (.error raised, next)) : next = ledger := by
  unfold append at rejected
  split at rejected
  · exact (Prod.mk.inj rejected).2.symm
  · simp at rejected

end MigrationLedger

/-! ## The planning engine -/

/-- The event that records a plan. -/
def plannedEvent (request : FrozenArtifact digest MigrationRequest)
    (candidate : FrozenArtifact digest DestinationCandidate) (migrationPlanId : String) :
    FrozenArtifact digest MigrationLedgerEvent :=
  .sealed
    { eventId := s!"event:{migrationPlanId}:planned"
      migrationRequestId := request.body.migrationRequestId
      eventType := "PLAN_CREATED"
      lifecycle := .qualifying
      generation := request.body.executionGeneration
      detail := candidate.body.nodeId }

/-- Qualify a destination, build its plan and record the plan in the ledger. -/
def qualifyAndPlan (ledger : MigrationLedger digest)
    (request : FrozenArtifact digest MigrationRequest)
    (candidate : FrozenArtifact digest DestinationCandidate) (mode : MigrationMode)
    (migrationPlanId : String) :
    Except Fault (FrozenArtifact digest MigrationPlan) × MigrationLedger digest :=
  let (ok, reasons) := qualifyDestination request candidate
  if ¬ ok then
    (.error (.value ("destination rejected: " ++ ",".intercalate reasons)), ledger)
  else
    match buildPlan request candidate mode migrationPlanId with
    | .error raised => (.error raised, ledger)
    | .ok plan =>
        match ledger.append (plannedEvent request candidate migrationPlanId) with
        | (.error raised, next) => (.error raised, next)
        | (.ok (), next) => (.ok plan, next)

/-- The identity of the plan's event is already recorded. -/
def Recorded (ledger : MigrationLedger digest) (migrationPlanId : String) : Prop :=
  s!"event:{migrationPlanId}:planned" ∈ ledger.eventIds

theorem qualifyAndPlan_ok_iff {ledger next : MigrationLedger digest}
    {request : FrozenArtifact digest MigrationRequest}
    {candidate : FrozenArtifact digest DestinationCandidate} {mode : MigrationMode}
    {migrationPlanId : String} {plan : FrozenArtifact digest MigrationPlan} :
    qualifyAndPlan ledger request candidate mode migrationPlanId = (.ok plan, next) ↔
      Qualified request candidate ∧ ¬ Recorded ledger migrationPlanId ∧
        plan = plannedMigration request candidate mode migrationPlanId ∧
        next = (ledger.append (plannedEvent request candidate migrationPlanId)).2 := by
  unfold qualifyAndPlan
  by_cases qualified : Qualified request candidate
  · have accepted := qualifyDestination_iff.mpr qualified
    have built : buildPlan request candidate mode migrationPlanId =
        .ok (plannedMigration request candidate mode migrationPlanId) :=
      buildPlan_eq_ok_iff.mpr ⟨qualified, rfl⟩
    by_cases recorded : Recorded ledger migrationPlanId
    · have rejected : ledger.append (plannedEvent request candidate migrationPlanId) =
          (.error (.value "duplicate migration event"), ledger) := by
        simp only [MigrationLedger.append]
        exact if_pos recorded
      simp [accepted, built, rejected, recorded]
    · have appended : ledger.append (plannedEvent request candidate migrationPlanId) =
          (.ok (), (ledger.append (plannedEvent request candidate migrationPlanId)).2) :=
        MigrationLedger.append_ok_iff.mpr ⟨recorded, rfl⟩
      rw [appended]
      simp [accepted, built, qualified, recorded, eq_comm]
  · have refused : (qualifyDestination request candidate).1 = false :=
      Bool.eq_false_iff.mpr fun accepted => qualified (qualifyDestination_iff.mp accepted)
    simp [refused, qualified]

/-- A call that raises leaves the ledger as it was. -/
theorem qualifyAndPlan_error {ledger next : MigrationLedger digest}
    {request : FrozenArtifact digest MigrationRequest}
    {candidate : FrozenArtifact digest DestinationCandidate} {mode : MigrationMode}
    {migrationPlanId : String} {raised : Fault}
    (rejected : qualifyAndPlan ledger request candidate mode migrationPlanId =
      (.error raised, next)) : next = ledger := by
  unfold qualifyAndPlan at rejected
  simp only at rejected
  split at rejected
  · exact (Prod.mk.inj rejected).2.symm
  · split at rejected
    · exact (Prod.mk.inj rejected).2.symm
    · split at rejected
      · rename_i appended
        obtain ⟨_, rfl⟩ := Prod.mk.inj rejected
        exact MigrationLedger.append_error appended
      · simp at rejected

/-! ## The authorization of a plan -/

/-- The candidate carries the request's authorization, and its topology is current. -/
def CarriesAuthorization (request : FrozenArtifact digest MigrationRequest)
    (candidate : FrozenArtifact digest DestinationCandidate) : Prop :=
  candidate.body.authorizationContextId = request.body.authorizationContextId ∧
    candidate.body.authorizationGeneration = request.body.authorizationGeneration ∧
    candidate.body.topologyGeneration = request.body.topologyGeneration

/-- A plan is returned only for an authorized candidate, the two qualification routines agree, and
a call that raises leaves every history as it was. -/
def PlanningLaw (ledger : MigrationLedger digest)
    (request : FrozenArtifact digest MigrationRequest)
    (candidate : FrozenArtifact digest DestinationCandidate) (mode : MigrationMode)
    (migrationPlanId : String) : Prop :=
  (∀ plan next, qualifyAndPlan ledger request candidate mode migrationPlanId = (.ok plan, next) →
      CarriesAuthorization request candidate) ∧
    ((qualifyDestination request candidate).1 = true ↔
      ∃ plan, buildPlan request candidate mode migrationPlanId = .ok plan) ∧
    ∀ raised next,
      qualifyAndPlan ledger request candidate mode migrationPlanId = (.error raised, next) →
        ∀ migrationRequestId, next.history migrationRequestId = ledger.history migrationRequestId

/-- The security guard accepts the move of the request to the candidate, which expands no
authority. -/
def GuardAccepts (request : FrozenArtifact digest MigrationRequest)
    (candidate : FrozenArtifact digest DestinationCandidate) : Prop :=
  (validateSecurityState request.body.authorizationContextId candidate.body.authorizationContextId
    request.body.authorizationGeneration candidate.body.authorizationGeneration false).1 = true

/-- The guard compares contexts and generations; planning checks only the second. -/
theorem guardAccepts_iff {request : FrozenArtifact digest MigrationRequest}
    {candidate : FrozenArtifact digest DestinationCandidate} :
    GuardAccepts request candidate ↔
      request.body.authorizationContextId = candidate.body.authorizationContextId ∧
        request.body.authorizationGeneration = candidate.body.authorizationGeneration := by
  unfold GuardAccepts validateSecurityState
  split_ifs <;> simp_all

/-- Planning obeys its law exactly when the security guard accepts the candidate, or the call
raises because the candidate does not qualify or the plan is already recorded. -/
theorem planningLaw_iff (ledger : MigrationLedger digest)
    (request : FrozenArtifact digest MigrationRequest)
    (candidate : FrozenArtifact digest DestinationCandidate) (mode : MigrationMode)
    (migrationPlanId : String) :
    PlanningLaw ledger request candidate mode migrationPlanId ↔
      GuardAccepts request candidate ∨ (qualifyDestination request candidate).1 = false ∨
        Recorded ledger migrationPlanId := by
  rw [guardAccepts_iff]
  constructor
  · rintro ⟨authorized, _, _⟩
    by_contra unmet
    push Not at unmet
    obtain ⟨foreign, accepted, unrecorded⟩ := unmet
    have qualified := qualifyDestination_iff.mp (by simpa using accepted)
    have carried := authorized _ _ (qualifyAndPlan_ok_iff.mpr ⟨qualified, unrecorded, rfl, rfl⟩)
    exact foreign carried.1.symm carried.2.1.symm
  · intro condition
    refine ⟨?_, qualifyDestination_iff_buildPlan request candidate mode migrationPlanId, ?_⟩
    · intro plan next planned
      obtain ⟨qualified, unrecorded, _, _⟩ := qualifyAndPlan_ok_iff.mp planned
      have generations := qualified.2.2.2.2.2
      rcases condition with guarded | refused | recorded
      · exact ⟨guarded.1.symm, generations.2, generations.1⟩
      · exact absurd (qualifyDestination_iff.mpr qualified) (by simp [refused])
      · exact absurd recorded unrecorded
    · intro raised next rejected migrationRequestId
      rw [qualifyAndPlan_error rejected]

/-- A candidate with the given authorization context that supports everything. -/
def sampleCandidate (digest : Digest) (context : String) :
    FrozenArtifact digest DestinationCandidate :=
  .sealed
    { candidateId := "c"
      nodeId := "b"
      hardwareProfileId := "hb"
      hardwareProfileGeneration := 13
      topologyGeneration := 14
      placementDecisionId := "pb"
      placementGeneration := 15
      authorizationContextId := context
      authorizationGeneration := 1
      supportsModel := true
      supportsPrecision := true
      supportsRuntime := true
      capacitySufficient := true
      qualityPreserving := true
      provenanceIds := ["p15"] }

/-- A candidate of a foreign authorization context is planned for. -/
theorem planningLaw_fails_for_foreign_context :
    ¬ PlanningLaw MigrationLedger.initial (sampleRequest Digest.sha256 "m1")
      (sampleCandidate Digest.sha256 "other") .live "plan1" := by
  rintro ⟨authorized, _, _⟩
  have carried := authorized _ _ (qualifyAndPlan_ok_iff.mpr
    ⟨by unfold Qualified; decide, by simp [Recorded, MigrationLedger.initial], rfl, rfl⟩)
  exact absurd carried.1 (by decide)

end LiveMigration
end MercuryX
