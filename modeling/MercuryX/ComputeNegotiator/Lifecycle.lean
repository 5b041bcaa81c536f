import MercuryX.Foundation.Lifecycles
import MercuryX.Contracts

/-!
# The lifecycle of a negotiation

A negotiation is evaluated once, ends in one offer or one counteroffer, and is accepted from there.
What was accepted can only be revoked.
-/

namespace MercuryX
namespace ComputeNegotiator

open Foundation

/-- The lifecycle states of a negotiation. -/
inductive NegotiationLifecycle where
  | requested
  | evaluating
  | offered
  | counteroffered
  | accepted
  | rejected
  | expired
  | revoked
  | unknown
  deriving DecidableEq, Repr

/-- How far a negotiation has come. -/
def NegotiationLifecycle.rank : NegotiationLifecycle → Nat
  | .requested => 0
  | .evaluating => 1
  | .offered | .counteroffered => 2
  | .accepted => 3
  | .rejected | .expired | .revoked | .unknown => 4

/-- The states that may follow a state. -/
def allowedLifecycle : NegotiationLifecycle → List NegotiationLifecycle
  | .requested => [.evaluating, .rejected]
  | .evaluating => [.offered, .counteroffered, .rejected, .unknown]
  | .offered => [.accepted, .rejected, .expired, .revoked]
  | .counteroffered => [.accepted, .rejected, .expired, .revoked]
  | .accepted => [.revoked]
  | .rejected | .expired | .revoked | .unknown => []

/-- The table, with what a move outside it raises. -/
def negotiations : Lifecycle NegotiationLifecycle Fault where
  allowed := allowedLifecycle
  illegal _ _ := .value "illegal negotiation transition"

/-- Move a negotiation to a state that may follow its own. -/
def transitionLifecycle (current target : NegotiationLifecycle) :
    Except Fault NegotiationLifecycle :=
  negotiations.transition current target

theorem negotiations_climbs : negotiations.Climbs NegotiationLifecycle.rank := by
  intro old
  cases old <;> decide

theorem negotiation_rank_le (state : NegotiationLifecycle) : state.rank ≤ 4 := by
  cases state <;> decide

section Runs

variable (targets : List NegotiationLifecycle)

/-- The targets that were accepted since the request. -/
def passed : List NegotiationLifecycle := negotiations.moves.succeeded .requested targets

/-- The state that the requests to move leave. -/
def standing : NegotiationLifecycle := negotiations.moves.run .requested targets

/-- A fact about the routes of the table is a fact about every run. -/
theorem run_of_routes {motive : List NegotiationLifecycle → NegotiationLifecycle → Prop}
    (every : ∀ route ∈ negotiations.routes 4 .requested,
      motive route (Lifecycle.arrival .requested route)) :
    motive (passed targets) (standing targets) :=
  negotiations_climbs.run_induction negotiation_rank_le every targets

/-- What a run of requests to move leaves behind. -/
structure NegotiationRun : Prop where
  /-- The accepted targets are met once each, and the last of them is the state. -/
  once : (.requested :: passed targets).Nodup
  last : standing targets = (passed targets).getLastD .requested
  /-- An acceptance follows an evaluation and one offer or counteroffer. -/
  accepted : standing targets = .accepted ↔
    passed targets = [.evaluating, .offered, .accepted] ∨
      passed targets = [.evaluating, .counteroffered, .accepted]
  /-- An offer and a counteroffer exclude each other. -/
  offered : ¬ (.offered ∈ passed targets ∧ .counteroffered ∈ passed targets)
  /-- After an acceptance there is a revocation or nothing, and neither rejects nor expires. -/
  kept : .accepted ∈ passed targets → standing targets = .accepted ∨ standing targets = .revoked
  /-- A revocation follows an offer or a counteroffer. -/
  revoked : standing targets = .revoked →
    .offered ∈ passed targets ∨ .counteroffered ∈ passed targets
  /-- What has ended stays as it is. -/
  ended : negotiations.Ended (standing targets) →
    ∀ later, standing (targets ++ later) = standing targets

theorem negotiationRun : NegotiationRun targets where
  once := negotiations_climbs.nodup (Lifecycle.route_run _ targets).1
  last := (Lifecycle.route_run _ targets).2.symm
  accepted := run_of_routes targets
    (motive := fun route state => state = .accepted ↔
      route = [.evaluating, .offered, .accepted] ∨
        route = [.evaluating, .counteroffered, .accepted]) (by decide)
  offered := run_of_routes targets
    (motive := fun route _ => ¬ (.offered ∈ route ∧ .counteroffered ∈ route)) (by decide)
  kept := run_of_routes targets
    (motive := fun route state => .accepted ∈ route → state = .accepted ∨ state = .revoked)
    (by decide)
  revoked := run_of_routes targets
    (motive := fun route state => state = .revoked → .offered ∈ route ∨ .counteroffered ∈ route)
    (by decide)
  ended ended := ended.run_append

end Runs

end ComputeNegotiator
end MercuryX
