import MercuryX.Foundation.Lifecycles
import MercuryX.Contracts

/-!
# The lifecycle of a recovery

A recovery is diagnosed, planned, authorized, executed and verified, in this order, before the
execution counts as recovered: nothing is executed that was not authorized, and nothing is rolled
back that was not executed. What happened on the way is kept in a ledger that takes each event once.
-/

namespace MercuryX
namespace SelfHealing

open Foundation

/-! ## Transitions -/

/-- The lifecycle states of a recovery. -/
inductive HealingLifecycle where
  | detected
  | diagnosing
  | planned
  | authorized
  | executing
  | verifying
  | recovered
  | failed
  | rolledBack
  | unknown
  deriving DecidableEq, Repr

namespace HealingLifecycle

/-- The text of a state. -/
def value : HealingLifecycle → String
  | detected => "DETECTED"
  | diagnosing => "DIAGNOSING"
  | planned => "PLANNED"
  | authorized => "AUTHORIZED"
  | executing => "EXECUTING"
  | verifying => "VERIFYING"
  | recovered => "RECOVERED"
  | failed => "FAILED"
  | rolledBack => "ROLLED_BACK"
  | unknown => "UNKNOWN"

/-- How far a recovery has come. -/
def rank : HealingLifecycle → Nat
  | detected => 0
  | diagnosing => 1
  | planned => 2
  | authorized => 3
  | executing => 4
  | verifying => 5
  | recovered | failed | rolledBack | unknown => 6

end HealingLifecycle

/-- The states that may follow a state. -/
def allowed : HealingLifecycle → List HealingLifecycle
  | .detected => [.diagnosing, .unknown, .failed]
  | .diagnosing => [.planned, .unknown, .failed]
  | .planned => [.authorized, .failed]
  | .authorized => [.executing, .failed]
  | .executing => [.verifying, .rolledBack, .failed]
  | .verifying => [.recovered, .rolledBack, .failed]
  | .recovered | .failed | .rolledBack | .unknown => []

/-- The table, with what a move outside it raises. A state is printed with the name of its class. -/
def recoveries : Lifecycle HealingLifecycle Fault where
  allowed := allowed
  illegal current target := .value
    (s!"illegal healing transition HealingLifecycle.{current.value}" ++
      s!"->HealingLifecycle.{target.value}")

/-- Move a recovery to a state that may follow its own. -/
def transition (current target : HealingLifecycle) : Except Fault HealingLifecycle :=
  recoveries.transition current target

/-- What a recovery passes before the execution has recovered, in order. -/
def stages : List HealingLifecycle :=
  [.diagnosing, .planned, .authorized, .executing, .verifying]

/-- The whole way to a recovered execution. -/
def recovery : List HealingLifecycle := stages ++ [HealingLifecycle.recovered]

theorem recoveries_climbs : recoveries.Climbs HealingLifecycle.rank := by
  intro old
  cases old <;> decide

theorem rank_le (state : HealingLifecycle) : state.rank ≤ 6 := by
  cases state <;> decide

section Runs

variable (targets : List HealingLifecycle)

/-- The targets that were accepted since the detection. -/
def accepted : List HealingLifecycle := recoveries.moves.succeeded .detected targets

/-- The state that the requests leave. -/
def reached : HealingLifecycle := recoveries.moves.run .detected targets

/-- A fact about the routes of the table is a fact about every run. -/
theorem run_of_routes {motive : List HealingLifecycle → HealingLifecycle → Prop}
    (every : ∀ route ∈ recoveries.routes 6 .detected,
      motive route (Lifecycle.arrival .detected route)) :
    motive (accepted targets) (reached targets) :=
  recoveries_climbs.run_induction rank_le every targets

/-- What a run of requests leaves behind. -/
structure HealingRun : Prop where
  /-- The accepted targets are met once each, and the last of them is the state. -/
  once : (.detected :: accepted targets).Nodup
  last : reached targets = (accepted targets).getLastD .detected
  /-- All but the last of them are the first stages in order. -/
  staged : (accepted targets).dropLast <+: stages
  /-- Only the stages, all of them and in order, lead to a recovery. -/
  recovered : reached targets = .recovered ↔ accepted targets = recovery
  /-- What is executed was authorized, and what is rolled back was executed. -/
  executed : .executing ∈ accepted targets → .authorized ∈ accepted targets
  rolledBack : reached targets = .rolledBack → .executing ∈ accepted targets
  /-- What has not ended may fail at any time, may be rolled back exactly once it is executed and
  may still recover, through the stages that are left. -/
  open_failed : ¬ recoveries.Ended (reached targets) → .failed ∈ allowed (reached targets)
  open_rolledBack : ¬ recoveries.Ended (reached targets) →
    (.rolledBack ∈ allowed (reached targets) ↔ .executing ∈ accepted targets)
  open_recovered : ¬ recoveries.Ended (reached targets) →
    recoveries.moves.run (reached targets) (recovery.drop (accepted targets).length) = .recovered
  /-- What has ended stays as it is. -/
  ended : recoveries.Ended (reached targets) → ∀ later, reached (targets ++ later) = reached targets

theorem healingRun : HealingRun targets where
  once := recoveries_climbs.nodup (Lifecycle.route_run _ targets).1
  last := (Lifecycle.route_run _ targets).2.symm
  staged := run_of_routes (motive := fun route _ => route.dropLast <+: stages) targets (by decide)
  recovered := run_of_routes targets
    (motive := fun route state => state = .recovered ↔ route = recovery) (by decide)
  executed := run_of_routes targets
    (motive := fun route _ => .executing ∈ route → .authorized ∈ route) (by decide)
  rolledBack := run_of_routes targets
    (motive := fun route state => state = .rolledBack → .executing ∈ route) (by decide)
  open_failed := run_of_routes targets
    (motive := fun _ state => ¬ recoveries.Ended state → .failed ∈ allowed state) (by decide)
  open_rolledBack := run_of_routes targets
    (motive := fun route state => ¬ recoveries.Ended state →
      (.rolledBack ∈ allowed state ↔ .executing ∈ route)) (by decide)
  open_recovered := run_of_routes targets
    (motive := fun route state => ¬ recoveries.Ended state →
      recoveries.moves.run state (recovery.drop route.length) = .recovered) (by decide)
  ended ended := ended.run_append

end Runs

/-! ## The ledger -/

/-- An event with its payload. -/
structure HealingEvent where
  eventId : String
  payload : List (String × Json)

/-- The events in the order in which they were appended, and their ids. -/
structure HealingLedger where
  ids : List String
  events : List HealingEvent
  /-- The ids are those of the events. -/
  ids_eq : ids = events.map HealingEvent.eventId

namespace HealingLedger

/-- The ledger without events. -/
def initial : HealingLedger := ⟨[], [], rfl⟩

/-- Append an event whose id is new. -/
def append (ledger : HealingLedger) (event : HealingEvent) : Except Fault HealingLedger :=
  if event.eventId ∈ ledger.ids then .error (.value "duplicate healing event")
  else .ok ⟨ledger.ids ++ [event.eventId], ledger.events ++ [event], by simp [ledger.ids_eq]⟩

/-- Calls one after another. -/
def appends : Machine HealingLedger HealingEvent Unit Fault := .ofFunction append

theorem append_eq_ok_iff {ledger next : HealingLedger} {event : HealingEvent} :
    ledger.append event = .ok next ↔
      event.eventId ∉ ledger.ids ∧ next.events = ledger.events ++ [event] := by
  unfold append
  split
  case isTrue known => simp [known]
  case isFalse fresh =>
    obtain ⟨ids, events, rfl⟩ := next
    rw [Except.ok.injEq, mk.injEq, and_iff_right fresh, eq_comm (a := events)]
    refine and_iff_right_of_imp fun appended => ?_
    rw [← appended, ledger.ids_eq, List.map_append, List.map_singleton]

theorem mem_ids_after {ledger : HealingLedger} {event : HealingEvent} {id : String} :
    id ∈ (appends.after ledger event).ids ↔ id ∈ ledger.ids ∨ event.eventId = id := by
  by_cases known : event.eventId ∈ ledger.ids
  · have refused : appends.after ledger event = ledger := by
      simp [appends, Machine.ofFunction, Machine.after, append, known]
    rw [refused]
    refine (or_iff_left_of_imp ?_).symm
    rintro rfl
    exact known
  · have appended : (appends.after ledger event).ids = ledger.ids ++ [event.eventId] := by
      simp [appends, Machine.ofFunction, Machine.after, append, known]
    rw [appended, List.mem_append, List.mem_singleton, eq_comm (a := id)]

theorem mem_ids_run {ledger : HealingLedger} {calls : List HealingEvent} {id : String} :
    id ∈ (appends.run ledger calls).ids ↔ id ∈ ledger.ids ∨ ∃ call ∈ calls, call.eventId = id := by
  induction calls generalizing ledger with
  | nil => simp
  | cons call calls induction =>
      rw [Machine.run_cons, induction, mem_ids_after, or_assoc]
      simp

/-- What a run of calls leaves in an empty ledger. -/
structure LedgerRun (calls : List HealingEvent) : Prop where
  /-- The events are the calls that succeeded, in order, and their ids are distinct. -/
  events_eq : (appends.run initial calls).events = appends.succeeded initial calls
  distinct : (appends.run initial calls).ids.Nodup
  /-- A call succeeds exactly when no earlier one, whether it succeeded or not, had its id. -/
  succeeds_iff : ∀ front event back, calls = front ++ event :: back →
    (appends.Succeeds (appends.run initial front) event ↔
      ∀ earlier ∈ front, earlier.eventId ≠ event.eventId)

theorem ledgerRun (calls : List HealingEvent) : LedgerRun calls := by
  have kept : (appends.run initial calls).events = appends.succeeded initial calls ∧
      (appends.run initial calls).ids.Nodup := by
    refine Machine.run_trace (fun past ledger => ledger.events = past ∧ ledger.ids.Nodup)
      initial calls ⟨rfl, List.nodup_nil⟩ ?_
    rintro past ledger event answer next ⟨rfl, distinct⟩ step
    obtain ⟨fresh, appended⟩ := append_eq_ok_iff.mp (Machine.ofFunction_step_ok.mp step)
    refine ⟨appended, ?_⟩
    rw [next.ids_eq, appended, List.map_append, ← ledger.ids_eq, List.map_singleton]
    simpa using List.Nodup.concat fresh distinct
  refine ⟨kept.1, kept.2, fun front event back _ => ?_⟩
  have accepted : appends.Succeeds (appends.run initial front) event ↔
      event.eventId ∉ (appends.run initial front).ids := by
    rw [appends, Machine.ofFunction_succeeds_iff]
    constructor
    · rintro ⟨next, appended⟩
      exact (append_eq_ok_iff.mp appended).1
    · intro fresh
      exact ⟨_, if_neg fresh⟩
  rw [accepted, mem_ids_run]
  simp [initial]

end HealingLedger

end SelfHealing
end MercuryX
