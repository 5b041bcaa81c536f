import MercuryX.DisaggregatedExecution.Contracts
import MercuryX.Foundation.Dict

/-!
# Readiness and transitions of segments

A planned segment is ready once all that it depends on has succeeded and all the handoffs that it
requires are available to it. A failed segment may become ready again under a retry policy, with
an attempt number that the caller supplies.
-/

namespace MercuryX
namespace DisaggregatedExecution

open Foundation

/-- Whether a segment may start. -/
def evaluateSegmentReadiness (segment : ExecutionSegment) (segments : List ExecutionSegment)
    (handoffs : List ExecutionHandoff) : Bool :=
  let byId := Dict.indexed ExecutionSegment.segmentId segments
  let handoffById := Dict.indexed ExecutionHandoff.handoffId handoffs
  decide (segment.executionState = .planned) &&
    (segment.dependencySegmentIds.all fun dependency =>
      (byId.get? dependency).any fun found => found.executionState = .succeeded) &&
    segment.requiredHandoffIds.all fun required =>
      (handoffById.get? required).any fun handoff =>
        handoff.consumerSegmentId = segment.segmentId ∧ handoff.state = .available

/-! ## Transitions -/

/-- What the caller of a transition supplies. -/
structure TransitionCall where
  retryPolicy : Option ExecutionRetryPolicy := none
  attempt : Int := 1
  verified : Bool := false

/-- The states that a state may be left for. -/
def allowed : ExecutionSegmentState → List ExecutionSegmentState
  | .planned => [.ready, .cancelled]
  | .ready => [.running, .cancelled]
  | .running => [.succeeded, .failed, .cancelled]
  | .failed => [.ready]
  | .succeeded | .cancelled => []

/-- The check of a retry; other transitions pass it. -/
def checkRetry (current targetState : ExecutionSegmentState) (call : TransitionCall) :
    Except Fault Unit :=
  if current = .failed ∧ targetState = .ready then
    match call.retryPolicy with
    | none => .error (.value "retry policy required")
    | some retryPolicy =>
        require (call.attempt ≤ retryPolicy.maxAttempts) (.value "retry attempt exceeds policy")
  else .ok ()

/-- Move a segment to another state. -/
def transitionSegmentState (segment : ExecutionSegment) (targetState : ExecutionSegmentState)
    (call : TransitionCall) : Except Fault ExecutionSegment := do
  let current := segment.executionState
  require (targetState ∈ allowed current) (.value "forbidden execution state transition")
  checkRetry current targetState call
  require (targetState = .succeeded → call.verified = true)
    (.value "verification required before success")
  return segment.inState targetState

theorem checkRetry_eq_ok_iff {current targetState : ExecutionSegmentState} {call : TransitionCall}
    {done : Unit} : checkRetry current targetState call = .ok done ↔
      (current = .failed → targetState = .ready →
        ∃ retryPolicy, call.retryPolicy = some retryPolicy ∧
          call.attempt ≤ retryPolicy.maxAttempts) := by
  unfold checkRetry
  split
  · next retry => cases call.retryPolicy <;> simp [retry.1, retry.2]
  · next other => exact iff_of_true rfl fun failed ready => absurd ⟨failed, ready⟩ other

/-- A segment moves exactly along the allowed transitions: a retry needs a policy that allows the
attempt, and success needs verification. -/
theorem transition_eq_ok_iff {segment next : ExecutionSegment}
    {targetState : ExecutionSegmentState} {call : TransitionCall} :
    transitionSegmentState segment targetState call = .ok next ↔
      targetState ∈ allowed segment.executionState ∧
      (segment.executionState = .failed → targetState = .ready →
        ∃ retryPolicy, call.retryPolicy = some retryPolicy ∧
          call.attempt ≤ retryPolicy.maxAttempts) ∧
      (targetState = .succeeded → call.verified = true) ∧ segment.inState targetState = next := by
  simp only [transitionSegmentState, bind_eq_ok, require_eq_ok, checkRetry_eq_ok_iff, pure_eq_ok,
    Except.ok.injEq, exists_and_left, exists_const]

/-! ## Handoffs -/

/-- The handoff once it is available. -/
def ExecutionHandoff.published (handoff : ExecutionHandoff) : ExecutionHandoff :=
  if pending : handoff.state = .pending then
    { handoff with
      state := .available
      invalidation := by
        have reasonless := mt handoff.invalidation.mpr (by rw [pending]; decide)
        exact iff_of_false (by decide) reasonless }
  else handoff

/-- Make a handoff available. -/
def makeHandoffAvailable (handoff : ExecutionHandoff) : Except Fault ExecutionHandoff := do
  require (handoff.state = .pending) (.value "only PENDING handoff may become AVAILABLE")
  return handoff.published

variable (handoff : ExecutionHandoff)

@[simp] theorem published_handoffId : handoff.published.handoffId = handoff.handoffId := by
  unfold ExecutionHandoff.published
  split <;> rfl

@[simp] theorem published_producerSegmentId :
    handoff.published.producerSegmentId = handoff.producerSegmentId := by
  unfold ExecutionHandoff.published
  split <;> rfl

@[simp] theorem published_consumerSegmentId :
    handoff.published.consumerSegmentId = handoff.consumerSegmentId := by
  unfold ExecutionHandoff.published
  split <;> rfl

theorem published_state {handoff : ExecutionHandoff} (pending : handoff.state = .pending) :
    handoff.published.state = .available := by
  simp [ExecutionHandoff.published, pending]

theorem makeHandoffAvailable_eq_ok_iff {handoff next : ExecutionHandoff} :
    makeHandoffAvailable handoff = .ok next ↔
      handoff.state = .pending ∧ handoff.published = next := by
  simp [makeHandoffAvailable]

end DisaggregatedExecution
end MercuryX
