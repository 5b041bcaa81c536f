import MercuryX.Foundation.Lifecycles
import MercuryX.LiveMigration.Contracts

/-!
# The lifecycle of a migration

The table allows one way to a commitment, through the six stages in their order. Until the source
is checkpointed a migration may be aborted, from then on it may be rolled back, and it may turn
stale until it ends; once it has ended nothing moves it again.
-/

namespace MercuryX
namespace LiveMigration

open Foundation

/-- The states that may follow a state. -/
def allowed : MigrationLifecycle → List MigrationLifecycle
  | .requested => [.qualifying, .aborted, .stale]
  | .qualifying => [.checkpointing, .aborted, .stale, .unknown]
  | .checkpointing => [.transferring, .rolledBack, .failed, .stale]
  | .transferring => [.restoring, .rolledBack, .failed, .stale]
  | .restoring => [.verifying, .rolledBack, .failed, .stale]
  | .verifying => [.cutoverReady, .rolledBack, .failed, .stale]
  | .cutoverReady => [.committed, .rolledBack, .stale]
  | .committed | .rolledBack | .aborted | .failed | .stale | .unknown => []

/-- The table, with what a move outside it raises. -/
def migrations : Lifecycle MigrationLifecycle Fault where
  allowed := allowed
  illegal current target :=
    .value s!"illegal migration transition: {current.value}->{target.value}"

/-- Move a migration to a state that may follow its own. -/
def transition (current target : MigrationLifecycle) : Except Fault MigrationLifecycle :=
  migrations.transition current target

/-- How far a migration has come. -/
def MigrationLifecycle.rank : MigrationLifecycle → Nat
  | .requested => 0
  | .qualifying => 1
  | .checkpointing => 2
  | .transferring => 3
  | .restoring => 4
  | .verifying => 5
  | .cutoverReady => 6
  | .committed | .rolledBack | .aborted | .failed | .stale | .unknown => 7

/-- What a migration passes before it commits, in order. -/
def stages : List MigrationLifecycle :=
  [.qualifying, .checkpointing, .transferring, .restoring, .verifying, .cutoverReady]

/-- The whole way to a commitment. -/
def commitment : List MigrationLifecycle := stages ++ [MigrationLifecycle.committed]

theorem migrations_climbs : migrations.Climbs MigrationLifecycle.rank := by
  intro old
  cases old <;> decide

theorem rank_le (state : MigrationLifecycle) : state.rank ≤ 7 := by
  cases state <;> decide

variable (targets : List MigrationLifecycle)

/-- The targets that were accepted, from a request on. -/
def accepted : List MigrationLifecycle := migrations.moves.succeeded .requested targets

/-- The state that the requests leave. -/
def reached : MigrationLifecycle := migrations.moves.run .requested targets

/-- A fact about the routes of the table is a fact about every run. -/
theorem run_of_routes {motive : List MigrationLifecycle → MigrationLifecycle → Prop}
    (every : ∀ route ∈ migrations.routes 7 .requested,
      motive route (Lifecycle.arrival .requested route)) :
    motive (accepted targets) (reached targets) :=
  migrations_climbs.run_induction rank_le every targets

/-- What a run of requests leaves behind. -/
structure MigrationRun : Prop where
  /-- The accepted targets are met once each, and the last of them is the state. -/
  once : (.requested :: accepted targets).Nodup
  last : reached targets = (accepted targets).getLastD .requested
  /-- All but the last of them are the first stages in order. -/
  staged : (accepted targets).dropLast <+: stages
  /-- Only the stages, all of them and in order, lead to a commitment. -/
  committed : reached targets = .committed ↔ accepted targets = commitment
  /-- A rollback follows a checkpoint and an abort precedes every checkpoint. -/
  rolledBack : reached targets = .rolledBack → .checkpointing ∈ accepted targets
  aborted : reached targets = .aborted → .checkpointing ∉ accepted targets
  /-- A migration that has not ended has a way back, which is an abort until it is checkpointed and
  a rollback from then on, and may turn stale. -/
  escape : ¬ migrations.Ended (reached targets) →
    (.aborted ∈ allowed (reached targets) ↔ .checkpointing ∉ accepted targets) ∧
    (.rolledBack ∈ allowed (reached targets) ↔ .checkpointing ∈ accepted targets) ∧
    .stale ∈ allowed (reached targets)
  /-- It may also still commit, through the stages that are left. -/
  alive : ¬ migrations.Ended (reached targets) →
    migrations.moves.run (reached targets) (commitment.drop (accepted targets).length) = .committed
  /-- One that has ended stays as it is. -/
  ended : migrations.Ended (reached targets) → ∀ later, reached (targets ++ later) = reached targets

theorem accepted_iff {route : List MigrationLifecycle} :
    (∃ targets, accepted targets = route) ↔ migrations.Route .requested route := by
  constructor
  · rintro ⟨targets, rfl⟩
    exact (Lifecycle.route_run _ targets).1
  · intro along
    exact ⟨route, Lifecycle.succeeded_of_route along⟩

theorem migrationRun : MigrationRun targets where
  once := migrations_climbs.nodup (Lifecycle.route_run _ targets).1
  last := (Lifecycle.route_run _ targets).2.symm
  staged := run_of_routes (motive := fun route _ => route.dropLast <+: stages) targets (by decide)
  committed := run_of_routes targets
    (motive := fun route state => state = .committed ↔ route = commitment) (by decide)
  rolledBack := run_of_routes targets
    (motive := fun route state => state = .rolledBack → .checkpointing ∈ route) (by decide)
  aborted := run_of_routes targets
    (motive := fun route state => state = .aborted → .checkpointing ∉ route) (by decide)
  escape := run_of_routes targets
    (motive := fun route state => ¬ migrations.Ended state →
      (.aborted ∈ allowed state ↔ .checkpointing ∉ route) ∧
      (.rolledBack ∈ allowed state ↔ .checkpointing ∈ route) ∧
      .stale ∈ allowed state) (by decide)
  alive := run_of_routes targets
    (motive := fun route state => ¬ migrations.Ended state →
      migrations.moves.run state (commitment.drop route.length) = .committed) (by decide)
  ended ended := ended.run_append

end LiveMigration
end MercuryX
