import MercuryX.DisaggregatedExecution.Admission
import MercuryX.DisaggregatedExecution.Readiness

/-!
# Retries of a segment

A segment does not know how often it was attempted or why it failed. The transition back to ready
goes by the attempt number that its caller supplies and by no failure category, so it keeps to the
retry policy exactly as far as its callers do.
-/

namespace MercuryX
namespace DisaggregatedExecution

open Foundation

/-- Whether a failed attempt may be followed by another. -/
def canRetrySegment (failureCategory : ExecutionFailureCategory)
    (retryPolicy : ExecutionRetryPolicy) (attempt : Int) : Bool :=
  if retryPolicy.maxAttempts ≤ attempt then false
  else failureCategory ∈ retryPolicy.retryableFailureCategories

/-! ## The history of a segment -/

/-- A segment with what has happened to it. -/
structure Tracked where
  segment : ExecutionSegment
  /-- How often the segment has entered the running state. -/
  attempts : Nat := 0
  /-- Why the segment failed last, if it did. -/
  failure : Option ExecutionFailureCategory := none

/-- A requested transition, and why the segment failed if it is a failure. -/
structure TransitionRequest where
  targetState : ExecutionSegmentState
  attempt : Int := 1
  verified : Bool := false
  failureCategory : ExecutionFailureCategory := .runtimeFailure

variable (retryPolicy : ExecutionRetryPolicy)

/-- Move a segment under a retry policy, and keep its history. -/
def Tracked.advance (tracked : Tracked) (request : TransitionRequest) : Except Fault Tracked := do
  let segment ← transitionSegmentState tracked.segment request.targetState
    ⟨some retryPolicy, request.attempt, request.verified⟩
  return {
    segment := segment
    attempts := if request.targetState = .running then tracked.attempts + 1 else tracked.attempts
    failure := if request.targetState = .failed then some request.failureCategory
      else tracked.failure }

/-- A segment under a retry policy as a machine. -/
def retryMachine : Machine Tracked TransitionRequest Unit Fault :=
  .ofFunction (Tracked.advance retryPolicy)

/-- The policy allows another attempt after the one that just failed. -/
def Tracked.mayRetry (tracked : Tracked) : Bool :=
  tracked.failure.any fun category => canRetrySegment category retryPolicy tracked.attempts

/-- The request asks to retry a failed segment. -/
def IsRetry (tracked : Tracked) (request : TransitionRequest) : Prop :=
  tracked.segment.executionState = .failed ∧ request.targetState = .ready

/-- In a retry, the attempt number that is supplied is within the policy exactly when the policy
allows another attempt. -/
def Agreeing (tracked : Tracked) (request : TransitionRequest) : Prop :=
  IsRetry tracked request →
    (request.attempt ≤ retryPolicy.maxAttempts ↔ tracked.mayRetry retryPolicy = true)

/-- The run of a segment without a history keeps to the retry policy. -/
structure BoundedRetry (segment : ExecutionSegment) (requests : List TransitionRequest) : Prop where
  /-- The segment is never attempted too often. -/
  bounded : ∀ front back, requests = front ++ back →
    ((retryMachine retryPolicy).run ⟨segment, 0, none⟩ front).attempts ≤ retryPolicy.maxAttempts
  /-- A segment that failed for good never becomes ready again. -/
  final : ∀ front middle back, requests = front ++ middle ++ back → ∀ category,
    ((retryMachine retryPolicy).run ⟨segment, 0, none⟩ front).segment.executionState = .failed →
    ((retryMachine retryPolicy).run ⟨segment, 0, none⟩ front).failure = some category →
    category ∉ retryPolicy.retryableFailureCategories →
    ((retryMachine retryPolicy).run ⟨segment, 0, none⟩ (front ++ middle)).segment.executionState ≠
      .ready
  /-- A retry succeeds exactly when the policy allows it for the attempt that just failed. -/
  allowed : ∀ front request back, requests = front ++ request :: back →
    IsRetry ((retryMachine retryPolicy).run ⟨segment, 0, none⟩ front) request →
    ((retryMachine retryPolicy).Succeeds
        ((retryMachine retryPolicy).run ⟨segment, 0, none⟩ front) request ↔
      ((retryMachine retryPolicy).run ⟨segment, 0, none⟩ front).mayRetry retryPolicy = true)

/-! ## One transition -/

section Step

variable {retryPolicy} {tracked next : Tracked} {request : TransitionRequest}

theorem advance_eq_ok_iff : tracked.advance retryPolicy request = .ok next ↔
    (request.targetState ∈ allowed tracked.segment.executionState ∧
      (IsRetry tracked request → request.attempt ≤ retryPolicy.maxAttempts) ∧
      (request.targetState = .succeeded → request.verified = true)) ∧
    (⟨tracked.segment.inState request.targetState,
      if request.targetState = .running then tracked.attempts + 1 else tracked.attempts,
      if request.targetState = .failed then some request.failureCategory else tracked.failure⟩ :
        Tracked) = next := by
  simp only [Tracked.advance, bind_eq_ok, transition_eq_ok_iff, pure_eq_ok, Except.ok.injEq,
    IsRetry, Option.some_inj, exists_eq_left', and_imp]
  constructor
  · rintro ⟨_, ⟨target, retry, verified, rfl⟩, rfl⟩
    exact ⟨⟨target, retry, verified⟩, rfl⟩
  · rintro ⟨⟨target, retry, verified⟩, rfl⟩
    exact ⟨_, ⟨target, retry, verified, rfl⟩, rfl⟩

/-- A retry succeeds exactly when the supplied attempt number is within the policy. -/
theorem succeeds_retry_iff (retry : IsRetry tracked request) :
    (retryMachine retryPolicy).Succeeds tracked request ↔
      request.attempt ≤ retryPolicy.maxAttempts := by
  rw [retryMachine, Machine.ofFunction_succeeds_iff]
  simp only [advance_eq_ok_iff, exists_and_left, exists_eq', and_true]
  constructor
  · exact fun ⟨_, within, _⟩ => within retry
  · intro within
    obtain ⟨failed, ready⟩ := retry
    exact ⟨by simp [failed, ready, DisaggregatedExecution.allowed], fun _ => within,
      by simp [ready]⟩

theorem ready_mem_allowed_iff {state : ExecutionSegmentState} :
    .ready ∈ allowed state ↔ state = .planned ∨ state = .failed := by
  cases state <;> decide

theorem running_mem_allowed_iff {state : ExecutionSegmentState} :
    .running ∈ allowed state ↔ state = .ready := by
  cases state <;> decide

theorem planned_not_mem_allowed (state : ExecutionSegmentState) : .planned ∉ allowed state := by
  cases state <;> decide

/-- There is an attempt left while the segment waits to run, and never more than allowed are
made. -/
structure Counted (retryPolicy : ExecutionRetryPolicy) (tracked : Tracked) : Prop where
  /-- Attempts are within the policy. -/
  within : tracked.attempts ≤ retryPolicy.maxAttempts
  /-- A segment that waits to run has an attempt left. -/
  left : tracked.segment.executionState ∈ [.planned, .ready] →
    tracked.attempts < retryPolicy.maxAttempts

theorem lt_of_mayRetry (may : tracked.mayRetry retryPolicy = true) :
    tracked.attempts < retryPolicy.maxAttempts := by
  obtain ⟨category, _, can⟩ := (Option.any_eq_true _ _).mp may
  unfold canRetrySegment at can
  split at can
  · contradiction
  · omega

/-- An agreeing transition keeps the attempts counted. -/
theorem Counted.advance (counted : Counted retryPolicy tracked)
    (agreeing : Agreeing retryPolicy tracked request)
    (outcome : tracked.advance retryPolicy request = .ok next) : Counted retryPolicy next := by
  obtain ⟨⟨target, retry, _⟩, rfl⟩ := advance_eq_ok_iff.mp outcome
  have within := counted.within
  by_cases ready : request.targetState = .ready
  · rw [ready, ready_mem_allowed_iff] at target
    have left : tracked.attempts < retryPolicy.maxAttempts := by
      rcases target with planned | failed
      · exact counted.left (by simp [planned])
      · exact lt_of_mayRetry ((agreeing ⟨failed, ready⟩).mp (retry ⟨failed, ready⟩))
    constructor <;> simp [ready, within, left]
  · by_cases running : request.targetState = .running
    · rw [running, running_mem_allowed_iff] at target
      have left := counted.left (by simp [target])
      constructor <;> simp [running, ExecutionSegment.inState]
      omega
    · have planned : request.targetState ≠ .planned := fun planned =>
        planned_not_mem_allowed _ (planned ▸ target)
      constructor <;> simp [ExecutionSegment.inState, ready, running, planned, within]

theorem advance_of_failed_for_good (agreeing : Agreeing retryPolicy tracked request)
    (failed : tracked.segment.executionState = .failed) {category : ExecutionFailureCategory}
    (last : tracked.failure = some category)
    (forGood : category ∉ retryPolicy.retryableFailureCategories) :
    tracked.advance retryPolicy request ≠ .ok next := by
  intro outcome
  obtain ⟨⟨target, retry, _⟩, _⟩ := advance_eq_ok_iff.mp outcome
  rw [failed] at target
  have isRetry : IsRetry tracked request := ⟨failed, List.mem_singleton.mp target⟩
  have may := (agreeing isRetry).mp (retry isRetry)
  simp [Tracked.mayRetry, last, canRetrySegment, forGood] at may

end Step

/-! ## Runs -/

variable {retryPolicy} in
/-- A run of a segment keeps to the policy exactly when all its retries agree. -/
theorem boundedRetry_iff {segment : ExecutionSegment} {requests : List TransitionRequest} :
    BoundedRetry retryPolicy segment requests ↔
      (retryMachine retryPolicy).AllSteps (Agreeing retryPolicy) ⟨segment, 0, none⟩ requests := by
  constructor
  · intro bounded
    rw [Machine.allSteps_iff]
    intro front request back split retry
    rw [← succeeds_retry_iff retry]
    exact bounded.allowed front request back split retry
  · intro steps
    refine ⟨?_, ?_, ?_⟩
    · intro front back split
      have first : Counted retryPolicy ⟨segment, 0, none⟩ :=
        ⟨Nat.zero_le _, fun _ => retryPolicy.maxAttempts_bounds.1⟩
      have counted : Counted retryPolicy
          ((retryMachine retryPolicy).run ⟨segment, 0, none⟩ front) := by
        have frontSteps := (split ▸ steps).of_append
        refine frontSteps.invariant ?_ first
        intro tracked request _ next counted agreeing step
        exact counted.advance agreeing (Machine.ofFunction_step_ok.mp step)
      exact counted.within
    · intro front middle back split category failed last forGood
      have middleSteps := ((split ▸ steps).of_append).after_append
      let stopped : Tracked → Prop := fun tracked =>
        tracked.segment.executionState = .failed ∧ tracked.failure = some category
      have stays : stopped ((retryMachine retryPolicy).run
          ((retryMachine retryPolicy).run ⟨segment, 0, none⟩ front) middle) := by
        refine middleSteps.invariant ?_ ⟨failed, last⟩
        rintro tracked request _ next ⟨failed, last⟩ agreeing step
        exact absurd (Machine.ofFunction_step_ok.mp step)
          (advance_of_failed_for_good agreeing failed last forGood)
      rw [Machine.run_append, stays.1]
      decide
    · intro front request back split retry
      rw [succeeds_retry_iff retry]
      exact Machine.allSteps_iff.mp steps front request back split retry

/-- A policy that allows one attempt. -/
def samplePolicy : ExecutionRetryPolicy where
  retryPolicyId := "r"
  maxAttempts := 1
  retryPolicyId_nonblank := by decide
  maxAttempts_bounds := by decide
  categories_canonical := by decide

/-- Every run keeps to the retry policy that it is under. -/
def RetriesBounded : Prop :=
  ∀ retryPolicy segment requests, BoundedRetry retryPolicy segment requests

/-- A segment that may be attempted once is attempted twice when its caller supplies the first
attempt number again. -/
theorem retries_unbounded : ¬ RetriesBounded := by
  intro bounded
  have twice := (bounded samplePolicy sampleSegment
    [⟨.ready, 1, false, .runtimeFailure⟩, ⟨.running, 1, false, .runtimeFailure⟩,
      ⟨.failed, 1, false, .runtimeFailure⟩, ⟨.ready, 1, false, .runtimeFailure⟩,
      ⟨.running, 1, false, .runtimeFailure⟩]).bounded _ [] (List.append_nil _).symm
  exact absurd twice (by decide)

end DisaggregatedExecution
end MercuryX
