import MercuryX.DisaggregatedExecution.Readiness

/-!
# The life of a handoff

A pending handoff is made available, an available one is consumed by its consumer, and either may
be invalidated for a reason. Only the state and the reason of a handoff ever change, and consumed
and invalidated handoffs are never changed again.
-/

namespace MercuryX
namespace DisaggregatedExecution

open Foundation

/-! ## Consumption and invalidation -/

namespace ExecutionHandoff

theorem reason_eq_none {handoff : ExecutionHandoff} (valid : handoff.state ≠ .invalidated) :
    handoff.invalidationReason = none := by
  by_contra given
  exact valid (handoff.invalidation.mpr given)

/-- The handoff once it is consumed. -/
def taken (handoff : ExecutionHandoff) : ExecutionHandoff :=
  if available : handoff.state = .available then
    { handoff with
      state := .consumed
      invalidation := by
        have reasonless : handoff.invalidationReason = none :=
          reason_eq_none (by rw [available]; decide)
        exact iff_of_false (by decide) (not_not_intro reasonless) }
  else handoff

/-- The handoff once it is invalidated for a reason. -/
def withdrawn (handoff : ExecutionHandoff) (reason : String) (given : Text.Nonblank reason) :
    ExecutionHandoff :=
  { handoff with
    state := .invalidated
    invalidationReason := some reason
    optional_nonblank := by
      have before := handoff.optional_nonblank
      simp only [List.forall_mem_cons, List.not_mem_nil, false_imp_iff, implies_true,
        and_true] at before ⊢
      exact ⟨before.1, before.2.1, by rintro _ ⟨⟩; exact given⟩
    invalidation := by simp }

theorem pending_reasonless : ExecutionHandoffState.pending = .invalidated ↔
    (none : Option String) ≠ none := by
  simp

/-- The handoff as it was before anything happened to it. -/
def reset (handoff : ExecutionHandoff) : ExecutionHandoff :=
  { handoff with
    state := .pending
    invalidationReason := none
    optional_nonblank := by
      have before := handoff.optional_nonblank
      simp only [List.forall_mem_cons, List.not_mem_nil, false_imp_iff, implies_true,
        and_true] at before ⊢
      exact ⟨before.1, before.2.1, by rintro _ ⟨⟩⟩
    invalidation := pending_reasonless }

variable {handoff : ExecutionHandoff}

theorem taken_state (available : handoff.state = .available) :
    handoff.taken.state = .consumed := by
  simp [taken, available]

@[simp] theorem reset_published : handoff.published.reset = handoff.reset := by
  unfold published
  split <;> rfl

@[simp] theorem reset_taken : handoff.taken.reset = handoff.reset := by
  unfold taken
  split <;> rfl

@[simp] theorem reset_withdrawn {reason : String} {given : Text.Nonblank reason} :
    (handoff.withdrawn reason given).reset = handoff.reset := rfl

end ExecutionHandoff

/-- Consume a handoff. -/
def consumeHandoff (handoff : ExecutionHandoff) (consumerSegmentId : String) :
    Except Fault ExecutionHandoff := do
  require (handoff.state = .available) (.value "only AVAILABLE handoff may be consumed")
  require (consumerSegmentId = handoff.consumerSegmentId) (.value "handoff consumer mismatch")
  return handoff.taken

/-- Invalidate a handoff. -/
def invalidateHandoff (handoff : ExecutionHandoff) (reason : String) :
    Except Fault ExecutionHandoff := do
  require (handoff.state ∈ [.pending, .available]) (.value "handoff state is terminal")
  if given : Text.Nonblank reason then
    return handoff.withdrawn reason given
  else .error (.value "invalidation reason required")

theorem consumeHandoff_eq_ok_iff {handoff next : ExecutionHandoff} {consumerSegmentId : String} :
    consumeHandoff handoff consumerSegmentId = .ok next ↔
      handoff.state = .available ∧ consumerSegmentId = handoff.consumerSegmentId ∧
        handoff.taken = next := by
  simp [consumeHandoff]

theorem invalidateHandoff_eq_ok_iff {handoff next : ExecutionHandoff} {reason : String} :
    invalidateHandoff handoff reason = .ok next ↔
      handoff.state ∈ [.pending, .available] ∧
        ∃ given : Text.Nonblank reason, handoff.withdrawn reason given = next := by
  unfold invalidateHandoff
  split
  · next given => simp [given]
  · next missing => simp [missing]

/-! ## What changes a handoff -/

/-- The states that a handoff may be in after a state. -/
def allowedHandoff : ExecutionHandoffState → List ExecutionHandoffState
  | .pending => [.available, .invalidated]
  | .available => [.consumed, .invalidated]
  | .consumed | .invalidated => []

/-- What a change of a handoff keeps, and the states that it moves between. -/
structure HandoffMove (old next : ExecutionHandoff) : Prop where
  /-- Only the state and the reason change. -/
  kept : next.reset = old.reset
  /-- The state moves along. -/
  allowed : next.state ∈ allowedHandoff old.state

variable {old next : ExecutionHandoff}

theorem HandoffMove.ids (move : HandoffMove old next) :
    next.handoffId = old.handoffId ∧ next.producerSegmentId = old.producerSegmentId ∧
      next.consumerSegmentId = old.consumerSegmentId := by
  have kept := move.kept
  simp only [ExecutionHandoff.reset, ExecutionHandoff.mk.injEq] at kept
  tauto

/-- No handoff becomes pending again. -/
theorem HandoffMove.not_pending (move : HandoffMove old next) : next.state ≠ .pending := by
  intro pending
  have moves := move.allowed
  rw [pending] at moves
  cases state : old.state <;> simp [state, allowedHandoff] at moves

theorem HandoffMove.available_or_consumed (move : HandoffMove old next)
    (reached : next.state ∈ [.available, .consumed]) :
    old.state = .pending ∧ next.state = .available ∨ old.state = .available := by
  have moves := move.allowed
  cases before : old.state <;> cases after : next.state <;> simp_all [allowedHandoff]

theorem HandoffMove.of_publish (published : makeHandoffAvailable old = .ok next) :
    HandoffMove old next := by
  obtain ⟨pending, rfl⟩ := makeHandoffAvailable_eq_ok_iff.mp published
  refine ⟨ExecutionHandoff.reset_published, ?_⟩
  rw [published_state pending, pending]
  exact List.mem_cons_self

theorem HandoffMove.of_consume {consumerSegmentId : String}
    (consumed : consumeHandoff old consumerSegmentId = .ok next) : HandoffMove old next := by
  obtain ⟨available, _, rfl⟩ := consumeHandoff_eq_ok_iff.mp consumed
  refine ⟨ExecutionHandoff.reset_taken, ?_⟩
  rw [ExecutionHandoff.taken_state available, available]
  exact List.mem_cons_self

theorem HandoffMove.of_invalidate {reason : String}
    (invalidated : invalidateHandoff old reason = .ok next) : HandoffMove old next := by
  obtain ⟨open_, given, rfl⟩ := invalidateHandoff_eq_ok_iff.mp invalidated
  refine ⟨ExecutionHandoff.reset_withdrawn, ?_⟩
  rcases List.mem_pair.mp open_ with pending | available
  · rw [pending]
    exact List.mem_cons_of_mem _ List.mem_cons_self
  · rw [available]
    exact List.mem_cons_of_mem _ List.mem_cons_self

end DisaggregatedExecution
end MercuryX
