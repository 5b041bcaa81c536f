import MercuryX.DisaggregatedExecution.Admission
import MercuryX.DisaggregatedExecution.Readiness
import MercuryX.Foundation.Schedule

/-!
# Progress of an execution

The segments of a plan are run as they become ready, and what they hand over is made available.
The states that this reaches are those of scheduling the segments as tasks, whose prerequisites
are the dependencies and the producers of the required handoffs. Admission checks the
dependencies alone, so an admitted plan may wait for a handoff that never comes.
-/

namespace MercuryX
namespace DisaggregatedExecution

open Foundation

/-! ## Running a plan -/

/-- The segments and the handoffs of a plan, in the states that they have reached. -/
structure Execution where
  segments : List ExecutionSegment
  handoffs : List ExecutionHandoff

/-- The execution that has not begun. -/
def Execution.start (plan : DisaggregatedExecutionPlan) : Execution :=
  ⟨plan.segments, plan.handoffs⟩

/-- Make a handoff available if a segment produces it. -/
def publishFrom (id : String) (handoff : ExecutionHandoff) : Except Fault ExecutionHandoff :=
  if handoff.producerSegmentId = id then makeHandoffAvailable handoff else .ok handoff

/-- Run a ready segment until it has succeeded, and make available what it hands over. -/
def Execution.runSegment (execution : Execution) (id : String) : Except Fault Execution :=
  match execution.segments.find? fun segment => segment.segmentId = id with
  | none => .error (.missingKey id)
  | some segment => do
      require (evaluateSegmentReadiness segment execution.segments execution.handoffs)
        (.value "segment is not ready")
      let ready ← transitionSegmentState segment .ready {}
      let running ← transitionSegmentState ready .running {}
      let succeeded ← transitionSegmentState running .succeeded { verified := true }
      let handoffs ← execution.handoffs.mapM (publishFrom id)
      return ⟨execution.segments.map fun other =>
        if other.segmentId = id then succeeded else other, handoffs⟩

/-- The execution as a machine that runs the segments of the given ids. -/
def machine : Machine Execution String Unit Fault := .ofFunction Execution.runSegment

/-- In every state that the runs of a plan reach, all segments have succeeded or one is ready. -/
def DeadlockFree (plan : DisaggregatedExecutionPlan) : Prop :=
  ∀ execution, machine.Reachable (.start plan) execution →
    (∀ segment ∈ execution.segments, segment.executionState = .succeeded) ∨
    ∃ segment ∈ execution.segments, segment.executionState = .planned ∧
      evaluateSegmentReadiness segment execution.segments execution.handoffs = true

/-! ## The tasks of a plan -/

/-- The handoff of an id. -/
def handoffOf (handoffs : List ExecutionHandoff) (id : String) : Option ExecutionHandoff :=
  (Dict.indexed ExecutionHandoff.handoffId handoffs).get? id

/-- The arrows from the producers of handoffs to the segments that require them. -/
def handovers (segments : List ExecutionSegment) (handoffs : List ExecutionHandoff) :
    List (String × String) :=
  segments.flatMap fun segment => segment.requiredHandoffIds.filterMap fun required =>
    (handoffOf handoffs required).map fun handoff =>
      (handoff.producerSegmentId, segment.segmentId)

/-- All handoffs that a segment requires are declared, and are for the segment. -/
def Supplied (handoffs : List ExecutionHandoff) (segment : ExecutionSegment) : Prop :=
  ∀ required ∈ segment.requiredHandoffIds, ∃ handoff, handoffOf handoffs required = some handoff ∧
    handoff.consumerSegmentId = segment.segmentId

/-- The plan supplies all segments, and dependencies and handoffs together close no cycle. -/
structure Serviceable (plan : DisaggregatedExecutionPlan) : Prop where
  /-- Required handoffs are declared, and are for the segments that require them. -/
  supplied : ∀ segment ∈ plan.segments, Supplied plan.handoffs segment
  /-- No segment waits for itself through dependencies and handoffs. -/
  acyclic : Acyclic (dependencies plan.segments ++ handovers plan.segments plan.handoffs)

theorem linked_handovers_iff {segments : List ExecutionSegment} {handoffs : List ExecutionHandoff}
    {producer id : String} :
    Linked (handovers segments handoffs) producer id ↔
      ∃ segment ∈ segments, segment.segmentId = id ∧ ∃ required ∈ segment.requiredHandoffIds,
        ∃ handoff, handoffOf handoffs required = some handoff ∧
          handoff.producerSegmentId = producer := by
  simp only [Linked, handovers, List.mem_flatMap, List.mem_filterMap, Option.map_eq_some_iff,
    Prod.mk.injEq]
  constructor
  · rintro ⟨segment, member, required, needed, handoff, found, rfl, rfl⟩
    exact ⟨segment, member, rfl, required, needed, handoff, found, rfl⟩
  · rintro ⟨segment, member, rfl, required, needed, handoff, found, rfl⟩
    exact ⟨segment, member, required, needed, handoff, found, rfl, rfl⟩

/-- An admitted plan before anything has run. -/
structure Unstarted (plan : DisaggregatedExecutionPlan) : Prop where
  /-- Each segment has its own id. -/
  unique : (segmentIds plan.segments).Nodup
  /-- Dependencies are declared. -/
  declared : ∀ segment ∈ plan.segments, ∀ dependency ∈ segment.dependencySegmentIds,
    dependency ∈ segmentIds plan.segments
  /-- Handoffs are produced by declared segments. -/
  produced : ∀ handoff ∈ plan.handoffs, handoff.producerSegmentId ∈ segmentIds plan.segments
  /-- No segment has started. -/
  planned : ∀ segment ∈ plan.segments, segment.executionState = .planned
  /-- No handoff is available. -/
  pending : ∀ handoff ∈ plan.handoffs, handoff.state = .pending

section Tasks

variable {plan : DisaggregatedExecutionPlan} (unstarted : Unstarted plan)

/-- The segments of a plan as tasks. -/
def tasksOf : Tasks String where
  tasks := segmentIds plan.segments
  arrows := dependencies plan.segments ++ handovers plan.segments plan.handoffs
  Possible id := ∀ segment ∈ plan.segments, segment.segmentId = id →
    Supplied plan.handoffs segment
  inside := by
    intro source target linked
    rcases List.mem_append.mp linked with depends | handedOver
    · obtain ⟨segment, member, rfl, listed⟩ := linked_dependencies_iff.mp depends
      exact ⟨unstarted.declared segment member source listed, List.mem_map_of_mem member⟩
    · obtain ⟨segment, member, rfl, required, _, handoff, found, rfl⟩ :=
        linked_handovers_iff.mp handedOver
      exact ⟨unstarted.produced handoff (Dict.mem_of_indexed_get? found).1,
        List.mem_map_of_mem member⟩

theorem enabled_iff {segment : ExecutionSegment} (member : segment ∈ plan.segments)
    {done : List String} : (tasksOf unstarted).Enabled done segment.segmentId ↔
      segment.segmentId ∉ done ∧ (∀ dependency ∈ segment.dependencySegmentIds, dependency ∈ done) ∧
        ∀ required ∈ segment.requiredHandoffIds, ∃ handoff,
          handoffOf plan.handoffs required = some handoff ∧
          handoff.consumerSegmentId = segment.segmentId ∧ handoff.producerSegmentId ∈ done := by
  have only (other : ExecutionSegment) (otherMember : other ∈ plan.segments)
      (same : other.segmentId = segment.segmentId) : other = segment :=
    Registry.eq_of_identity_eq unstarted.unique otherMember member same
  constructor
  · rintro ⟨_, fresh, possible, prerequisites⟩
    refine ⟨fresh, fun dependency depends => ?_, fun required needed => ?_⟩
    · exact prerequisites dependency (List.mem_append_left _
        (linked_dependencies_iff.mpr ⟨segment, member, rfl, depends⟩))
    · obtain ⟨handoff, found, consumer⟩ := possible segment member rfl required needed
      refine ⟨handoff, found, consumer, prerequisites _ (List.mem_append_right _ ?_)⟩
      exact linked_handovers_iff.mpr ⟨segment, member, rfl, required, needed, handoff, found, rfl⟩
  · rintro ⟨fresh, dependenciesDone, handoffsDone⟩
    refine ⟨List.mem_map_of_mem member, fresh, ?_, ?_⟩
    · intro other otherMember same
      obtain rfl := only other otherMember same
      intro required needed
      obtain ⟨handoff, found, consumer, _⟩ := handoffsDone required needed
      exact ⟨handoff, found, consumer⟩
    · intro source linked
      rcases List.mem_append.mp linked with depends | handedOver
      · obtain ⟨other, otherMember, same, listed⟩ := linked_dependencies_iff.mp depends
        obtain rfl := only other otherMember same
        exact dependenciesDone source listed
      · obtain ⟨other, otherMember, same, required, needed, handoff, found, rfl⟩ :=
          linked_handovers_iff.mp handedOver
        obtain rfl := only other otherMember same
        obtain ⟨same, foundSame, _, producerDone⟩ := handoffsDone required needed
        rw [found] at foundSame
        exact Option.some_inj.mp foundSame ▸ producerDone

/-! ## The states of an execution -/

/-- A segment once those done have succeeded. -/
def marked (done : List String) (segment : ExecutionSegment) : ExecutionSegment :=
  if segment.segmentId ∈ done then segment.inState .succeeded else segment

/-- A handoff once it is available from those done. -/
def delivered (done : List String) (handoff : ExecutionHandoff) : ExecutionHandoff :=
  if handoff.producerSegmentId ∈ done then handoff.published else handoff

variable (plan) in
/-- The execution in which the given segments are done. -/
def progressed (done : List String) : Execution :=
  ⟨plan.segments.map (marked done), plan.handoffs.map (delivered done)⟩

@[simp] theorem marked_segmentId (done : List String) (segment : ExecutionSegment) :
    (marked done segment).segmentId = segment.segmentId := by
  unfold marked
  split <;> rfl

@[simp] theorem delivered_handoffId (done : List String) (handoff : ExecutionHandoff) :
    (delivered done handoff).handoffId = handoff.handoffId := by
  unfold delivered
  split <;> simp

theorem progressed_nil : progressed plan [] = .start plan := by
  have segments : plan.segments.map (marked []) = plan.segments := List.map_id' _
  have handoffs : plan.handoffs.map (delivered []) = plan.handoffs := List.map_id' _
  rw [progressed, segments, handoffs, Execution.start]

include unstarted

theorem succeeded_marked_iff {segment : ExecutionSegment} (member : segment ∈ plan.segments)
    {done : List String} :
    (marked done segment).executionState = .succeeded ↔ segment.segmentId ∈ done := by
  unfold marked
  split
  · next isDone => exact iff_of_true rfl isDone
  · next isOpen =>
      rw [unstarted.planned segment member]
      exact iff_of_false (by decide) isOpen

theorem planned_marked_iff {segment : ExecutionSegment} (member : segment ∈ plan.segments)
    {done : List String} :
    (marked done segment).executionState = .planned ↔ segment.segmentId ∉ done := by
  unfold marked
  split
  · next isDone =>
      exact iff_of_false ExecutionSegmentState.noConfusion (not_not.mpr isDone)
  · next isOpen => exact iff_of_true (unstarted.planned segment member) isOpen

theorem available_delivered_iff {handoff : ExecutionHandoff} (member : handoff ∈ plan.handoffs)
    {done : List String} :
    (delivered done handoff).state = .available ↔ handoff.producerSegmentId ∈ done := by
  have pending := unstarted.pending handoff member
  unfold delivered
  split
  · next isDone => exact iff_of_true (published_state pending) isDone
  · next isOpen =>
      rw [pending]
      exact iff_of_false (by decide) isOpen

theorem readiness_iff {segment : ExecutionSegment} (member : segment ∈ plan.segments)
    {done : List String} :
    evaluateSegmentReadiness (marked done segment) (progressed plan done).segments
        (progressed plan done).handoffs = true ↔
      (tasksOf unstarted).Enabled done segment.segmentId := by
  have dependency (id : String) (depends : id ∈ segment.dependencySegmentIds) :
      ((Dict.indexed ExecutionSegment.segmentId (plan.segments.map (marked done))).get? id).any
        (fun found => found.executionState = .succeeded) = true ↔ id ∈ done := by
    obtain ⟨found, foundMember, rfl⟩ :=
      exists_segment (unstarted.declared segment member id depends)
    rw [Dict.indexed_get?_map (marked_segmentId done),
      (Dict.indexed_get?_eq_some_iff unstarted.unique).mpr ⟨foundMember, rfl⟩, Option.map_some,
      Option.any_some, decide_eq_true_iff, succeeded_marked_iff unstarted foundMember]
  have handoff (required : String) :
      ((Dict.indexed ExecutionHandoff.handoffId (plan.handoffs.map (delivered done))).get?
        required).any (fun handoff => handoff.consumerSegmentId = segment.segmentId ∧
          handoff.state = .available) = true ↔
      ∃ handoff, handoffOf plan.handoffs required = some handoff ∧
        handoff.consumerSegmentId = segment.segmentId ∧ handoff.producerSegmentId ∈ done := by
    rw [Dict.indexed_get?_map (delivered_handoffId done), ← handoffOf]
    cases found : handoffOf plan.handoffs required with
    | none => simp
    | some handoff =>
        have available : (delivered done handoff).state = .available ↔
            handoff.producerSegmentId ∈ done :=
          available_delivered_iff unstarted (Dict.mem_of_indexed_get? found).1
        have consumer : (delivered done handoff).consumerSegmentId = handoff.consumerSegmentId := by
          unfold delivered
          split <;> simp
        simp [available, consumer]
  have unchanged : (marked done segment).dependencySegmentIds = segment.dependencySegmentIds ∧
      (marked done segment).requiredHandoffIds = segment.requiredHandoffIds := by
    unfold marked
    split <;> exact ⟨rfl, rfl⟩
  rw [enabled_iff unstarted member]
  simp only [evaluateSegmentReadiness, progressed, Bool.and_eq_true, decide_eq_true_iff,
    List.all_eq_true, unchanged, marked_segmentId, handoff, planned_marked_iff unstarted member,
    and_assoc]
  exact and_congr_right fun _ => and_congr_left fun _ => forall₂_congr dependency

omit unstarted in
theorem transitions_of_planned {segment : ExecutionSegment}
    (planned : segment.executionState = .planned) :
    transitionSegmentState segment .ready {} = .ok (segment.inState .ready) ∧
      transitionSegmentState (segment.inState .ready) .running {} =
        .ok (segment.inState .running) ∧
      transitionSegmentState (segment.inState .running) .succeeded { verified := true } =
        .ok (segment.inState .succeeded) := by
  refine ⟨transition_eq_ok_iff.mpr ?_, transition_eq_ok_iff.mpr ?_, transition_eq_ok_iff.mpr ?_⟩
  · simp [planned, allowed]
  · simp [ExecutionSegment.inState, allowed]
  · simp [ExecutionSegment.inState, allowed]

omit unstarted in
theorem published_of_publishFrom {id : String} (handoff next : ExecutionHandoff)
    (outcome : publishFrom id handoff = .ok next) :
    next = if handoff.producerSegmentId = id then handoff.published else handoff := by
  unfold publishFrom at outcome
  split at outcome
  · next produced =>
      rw [if_pos produced, (makeHandoffAvailable_eq_ok_iff.mp outcome).2]
  · next other =>
      rw [if_neg other]
      exact (Except.ok.inj outcome).symm

/-- Once a segment that was open is done, what it hands over is available. -/
theorem publish_delivered {done : List String} {id : String} (isOpen : id ∉ done) :
    (plan.handoffs.map (delivered done)).mapM (publishFrom id) =
      .ok (plan.handoffs.map (delivered (id :: done))) := by
  have own {handoff : ExecutionHandoff} (produced : handoff.producerSegmentId = id) :
      delivered done handoff = handoff := if_neg (produced ▸ isOpen)
  have producer (handoff : ExecutionHandoff) :
      (delivered done handoff).producerSegmentId = handoff.producerSegmentId := by
    unfold delivered
    split <;> simp
  refine (mapM_eq_ok_iff published_of_publishFrom).mpr ⟨?_, ?_⟩
  · intro handoff member
    obtain ⟨original, originalMember, rfl⟩ := List.mem_map.mp member
    unfold publishFrom
    split
    · next produced =>
        rw [own (producer original ▸ produced)]
        exact makeHandoffAvailable_eq_ok_iff.mpr ⟨unstarted.pending original originalMember, rfl⟩
    · rfl
  · rw [List.map_map]
    refine List.map_congr_left fun handoff _ => ?_
    rw [Function.comp_apply, producer]
    by_cases produced : handoff.producerSegmentId = id
    · rw [if_pos produced, own produced, delivered, if_pos (produced ▸ List.mem_cons_self)]
    · simp [produced, delivered]

theorem mark_segment {done : List String} {segment : ExecutionSegment}
    (member : segment ∈ plan.segments) :
    (plan.segments.map (marked done)).map (fun other =>
        if other.segmentId = segment.segmentId then segment.inState .succeeded else other) =
      plan.segments.map (marked (segment.segmentId :: done)) := by
  rw [List.map_map]
  refine List.map_congr_left fun other otherMember => ?_
  rw [Function.comp_apply, marked_segmentId]
  by_cases same : other.segmentId = segment.segmentId
  · obtain rfl := Registry.eq_of_identity_eq unstarted.unique otherMember member same
    simp [marked]
  · simp [same, marked]

theorem runSegment_eq_ok_iff {done : List String} {id : String} {next : Execution} :
    (progressed plan done).runSegment id = .ok next ↔
      (tasksOf unstarted).Enabled done id ∧ progressed plan (id :: done) = next := by
  have lookup : (progressed plan done).segments.find? (fun segment => segment.segmentId = id) =
      (plan.segments.find? fun segment => segment.segmentId = id).map (marked done) := by
    simp only [progressed, List.find?_map, Function.comp_def, marked_segmentId]
  rw [Execution.runSegment, lookup]
  cases found : plan.segments.find? fun segment => segment.segmentId = id with
  | none =>
      refine iff_of_false (by simp) fun both => ?_
      obtain ⟨segment, member, named⟩ := exists_segment both.1.member
      exact absurd (decide_eq_true named) (List.find?_eq_none.mp found segment member)
  | some segment =>
      have member := List.mem_of_find?_eq_some found
      obtain rfl : segment.segmentId = id := by simpa using List.find?_some found
      simp only [Option.map_some, bind_eq_ok, require_eq_ok, readiness_iff unstarted member,
        pure_eq_ok, Except.ok.injEq, exists_and_left, exists_const]
      refine and_congr_right fun enabled => ?_
      have same : marked done segment = segment := if_neg enabled.fresh
      obtain ⟨ready, running, succeeded⟩ :=
        transitions_of_planned (unstarted.planned segment member)
      simp only [same, ready, running, succeeded, Except.ok.injEq, exists_eq_left',
        show (progressed plan done).handoffs = plan.handoffs.map (delivered done) from rfl,
        publish_delivered unstarted enabled.fresh,
        show (progressed plan done).segments = plan.segments.map (marked done) from rfl,
        mark_segment unstarted member]
      rfl

/-- The runs of a plan reach exactly the states of its schedules. -/
theorem reachable_iff {execution : Execution} :
    machine.Reachable (.start plan) execution ↔
      ∃ done, (tasksOf unstarted).Scheduled done ∧ progressed plan done = execution := by
  constructor
  · intro reach
    let visited : Execution → Prop := fun state =>
      ∃ done, (tasksOf unstarted).Scheduled done ∧ progressed plan done = state
    have visits : visited execution := by
      refine reach.invariant ⟨[], .nil, progressed_nil⟩ ?_
      rintro _ id answer next ⟨done, scheduled, rfl⟩ step
      obtain ⟨enabled, moved⟩ :=
        (runSegment_eq_ok_iff unstarted).mp (Machine.ofFunction_step_ok.mp step)
      exact ⟨id :: done, scheduled.cons enabled, moved⟩
    exact visits
  · rintro ⟨done, scheduled, rfl⟩
    induction scheduled with
    | nil =>
        have start : progressed plan [] = .start plan := progressed_nil
        exact start ▸ .refl _
    | cons _ enabled induction =>
        have moved := (runSegment_eq_ok_iff unstarted).mpr ⟨enabled, rfl⟩
        exact induction.trans (Machine.ofFunction_reachable moved)

/-- An execution is free of deadlock exactly when no schedule of its tasks is ever stuck. -/
theorem deadlockFree_iff_neverStuck : DeadlockFree plan ↔ (tasksOf unstarted).NeverStuck := by
  have completed (done : List String) :
      (∀ segment ∈ (progressed plan done).segments, segment.executionState = .succeeded) ↔
        ∀ id ∈ segmentIds plan.segments, id ∈ done := by
    simp only [progressed, segmentIds, List.forall_mem_map]
    exact forall₂_congr fun segment member => succeeded_marked_iff unstarted member
  have enabled (done : List String) :
      (∃ segment ∈ (progressed plan done).segments, segment.executionState = .planned ∧
        evaluateSegmentReadiness segment (progressed plan done).segments
          (progressed plan done).handoffs = true) ↔
        ∃ id, (tasksOf unstarted).Enabled done id := by
    constructor
    · rintro ⟨_, marking, _, ready⟩
      obtain ⟨segment, member, rfl⟩ := List.mem_map.mp marking
      exact ⟨segment.segmentId, (readiness_iff unstarted member).mp ready⟩
    · rintro ⟨id, isEnabled⟩
      obtain ⟨segment, member, rfl⟩ := exists_segment isEnabled.member
      exact ⟨marked done segment, List.mem_map_of_mem member,
        (planned_marked_iff unstarted member).mpr isEnabled.fresh,
        (readiness_iff unstarted member).mpr isEnabled⟩
  simp only [DeadlockFree, reachable_iff unstarted, forall_exists_index, and_imp,
    forall_apply_eq_imp_iff₂, completed, enabled]
  rfl

/-- An unstarted plan is free of deadlock exactly when it is serviceable. -/
theorem deadlockFree_iff_serviceable : DeadlockFree plan ↔ Serviceable plan := by
  rw [deadlockFree_iff_neverStuck unstarted, Tasks.neverStuck_iff]
  constructor
  · rintro ⟨possible, acyclic⟩
    exact ⟨fun segment member => possible _ (List.mem_map_of_mem member) segment member rfl,
      acyclic⟩
  · rintro ⟨supplied, acyclic⟩
    exact ⟨fun _ _ segment member _ => supplied segment member, acyclic⟩

end Tasks

/-! ## Plans that are built -/

section Plans

variable {digest : Digest} {request : PlanRequest} {segments : List ExecutionSegment}
  {handoffs : List ExecutionHandoff} {plan : DisaggregatedExecutionPlan}

theorem unstarted_of_build
    (built : buildDisaggregatedExecutionPlan digest request segments handoffs = .ok plan)
    (planned : ∀ segment ∈ segments, segment.executionState = .planned)
    (pending : ∀ handoff ∈ handoffs, handoff.state = .pending) : Unstarted plan := by
  obtain ⟨admissible, rfl⟩ := build_eq_ok_iff.mp built
  have perm : (sortOn ExecutionSegment.key segments).Perm segments := sortOn_perm _ _
  have own := admissible.perm perm.symm (sortOn_perm ExecutionHandoff.key handoffs).symm
  refine ⟨own.unique, own.declared, fun handoff member => (own.endpoints handoff member).1, ?_, ?_⟩
  · exact fun segment member => planned segment (perm.mem_iff.mp member)
  · exact fun handoff member => pending handoff ((mem_sortOn _).mp member)

/-- A plan that is built from planned segments and pending handoffs is free of deadlock exactly
when it is serviceable. -/
theorem built_deadlockFree_iff
    (built : buildDisaggregatedExecutionPlan digest request segments handoffs = .ok plan)
    (planned : ∀ segment ∈ segments, segment.executionState = .planned)
    (pending : ∀ handoff ∈ handoffs, handoff.state = .pending) :
    DeadlockFree plan ↔ Serviceable plan :=
  deadlockFree_iff_serviceable (unstarted_of_build built planned pending)

end Plans

/-! ## A plan that waits for ever -/

/-- A segment that requires a handoff which nothing produces. -/
def waitingSegment : ExecutionSegment :=
  { sampleSegment with
    requiredHandoffIds := ["x"]
    references_canonical := by decide }

theorem waiting_built {digest : Digest} :
    buildDisaggregatedExecutionPlan digest sampleRequest [waitingSegment] [] =
      .ok (assembled digest sampleRequest [waitingSegment] []) := by
  refine build_eq_ok_iff.mpr ⟨?_, rfl⟩
  exact
    { bounded := by decide
      unique := by decide
      segmentSpaces := by decide
      declared := by decide
      acyclic := acyclic_of_rank (fun _ => 0) fun source target linked =>
        absurd linked List.not_mem_nil
      handoffPlans := by simp
      handoffSpaces := by simp
      endpoints := by simp
      named := by decide
      sequenced := by decide }

/-- The plan of the segment that waits is free of deadlock if and only if it is serviceable. -/
theorem waiting_deadlockFree_iff :
    DeadlockFree (assembled Digest.sha256 sampleRequest [waitingSegment] []) ↔
      Serviceable (assembled Digest.sha256 sampleRequest [waitingSegment] []) :=
  built_deadlockFree_iff waiting_built (by decide) (by decide)

/-- Every plan that is built from planned segments and pending handoffs is free of deadlock. -/
def PlansProgress (digest : Digest) : Prop :=
  ∀ request segments handoffs plan,
    buildDisaggregatedExecutionPlan digest request segments handoffs = .ok plan →
    (∀ segment ∈ segments, segment.executionState = .planned) →
    (∀ handoff ∈ handoffs, handoff.state = .pending) → DeadlockFree plan

/-- A plan with a segment that waits for an undeclared handoff is built and never progresses. -/
theorem plans_deadlock : ¬ PlansProgress Digest.sha256 := by
  intro progress
  have free := progress _ _ _ _ waiting_built (by decide) (by decide)
  rcases free _ (.refl _) with finished | ⟨segment, member, _, ready⟩
  · exact absurd (finished waitingSegment List.mem_cons_self) (by decide)
  · obtain rfl : segment = waitingSegment := List.mem_singleton.mp member
    exact absurd ready (by decide)

end DisaggregatedExecution
end MercuryX
