import MercuryX.DisaggregatedExecution.Handoffs
import MercuryX.DisaggregatedExecution.Progress
import MercuryX.DisaggregatedExecution.Stitching

/-!
# Executions in any order

Segments are moved between their states, and handoffs are published, consumed and invalidated, in
any order and any number of times, also when attempts fail, are retried or are cancelled. A planned
segment becomes ready only when it is evaluated as ready, and a handoff is published only once its
producer has succeeded. Whatever the order, a segment that has started has all its dependencies
behind it, and what is final stays as it is; so a stitched result is only ever made of a plan that
has been executed completely.
-/

namespace MercuryX
namespace DisaggregatedExecution

open Foundation

/-! ## Steps -/

namespace Execution

/-- The segment of an id has succeeded. -/
def Succeeded (execution : Execution) (id : String) : Prop :=
  ∃ segment ∈ execution.segments, segment.segmentId = id ∧ segment.executionState = .succeeded

/-- The execution with the segment at a position replaced. -/
def withSegment (execution : Execution) (position : Nat) (segment : ExecutionSegment) :
    Execution :=
  { execution with segments := execution.segments.set position segment }

/-- The execution with the handoff at a position replaced. -/
def withHandoff (execution : Execution) (position : Nat) (handoff : ExecutionHandoff) :
    Execution :=
  { execution with handoffs := execution.handoffs.set position handoff }

/-- One step of an execution. -/
inductive Step (execution : Execution) : Execution → Prop where
  /-- A segment moves to another state, from planned to ready only when it is ready. -/
  | move {position : Nat} {segment next : ExecutionSegment} {targetState : ExecutionSegmentState}
      {call : TransitionCall} (held : execution.segments[position]? = some segment)
      (evaluated : segment.executionState = .planned → targetState = .ready →
        evaluateSegmentReadiness segment execution.segments execution.handoffs = true)
      (moved : transitionSegmentState segment targetState call = .ok next) :
      Step execution (execution.withSegment position next)
  /-- A handoff becomes available once its producer has succeeded. -/
  | publish {position : Nat} {handoff next : ExecutionHandoff}
      (held : execution.handoffs[position]? = some handoff)
      (produced : execution.Succeeded handoff.producerSegmentId)
      (published : makeHandoffAvailable handoff = .ok next) :
      Step execution (execution.withHandoff position next)
  /-- A handoff is consumed. -/
  | consume {position : Nat} {handoff next : ExecutionHandoff} {consumerSegmentId : String}
      (held : execution.handoffs[position]? = some handoff)
      (consumed : consumeHandoff handoff consumerSegmentId = .ok next) :
      Step execution (execution.withHandoff position next)
  /-- A handoff is invalidated. -/
  | invalidate {position : Nat} {handoff next : ExecutionHandoff} {reason : String}
      (held : execution.handoffs[position]? = some handoff)
      (invalidated : invalidateHandoff handoff reason = .ok next) :
      Step execution (execution.withHandoff position next)

/-- One execution is reached from another by steps. -/
def Reaches : Execution → Execution → Prop := Relation.ReflTransGen Step

end Execution

/-! ## What a step changes -/

section Steps

variable {execution next : Execution}

/-- A segment is moved, or a handoff is; the new state of a segment that leaves the planned state
for the ready one rests on what it waited for. -/
theorem Execution.Step.cases_on (step : execution.Step next) :
    (∃ position segment targetState, execution.segments[position]? = some segment ∧
      targetState ∈ allowed segment.executionState ∧
      (segment.executionState = .planned → targetState = .ready →
        evaluateSegmentReadiness segment execution.segments execution.handoffs = true) ∧
      next = execution.withSegment position (segment.inState targetState)) ∨
    ∃ position handoff moved, execution.handoffs[position]? = some handoff ∧
      HandoffMove handoff moved ∧
      (handoff.state = .pending → moved.state = .available →
        execution.Succeeded handoff.producerSegmentId) ∧
      next = execution.withHandoff position moved := by
  cases step with
  | move held evaluated moved =>
      obtain ⟨target, _, _, rfl⟩ := transition_eq_ok_iff.mp moved
      exact .inl ⟨_, _, _, held, target, evaluated, rfl⟩
  | publish held produced published =>
      exact .inr ⟨_, _, _, held, .of_publish published, fun _ _ => produced, rfl⟩
  | consume held consumed =>
      refine .inr ⟨_, _, _, held, .of_consume consumed, fun pending => ?_, rfl⟩
      rw [(consumeHandoff_eq_ok_iff.mp consumed).1] at pending
      contradiction
  | invalidate held invalidated =>
      refine .inr ⟨_, _, _, held, .of_invalidate invalidated, fun _ available => ?_, rfl⟩
      obtain ⟨_, _, rfl⟩ := invalidateHandoff_eq_ok_iff.mp invalidated
      contradiction

/-! ## Setting one record -/

theorem exists_mem_set {α : Type} {records : List α} {position : Nat} {old new : α}
    {property : α → Prop} (held : records[position]? = some old)
    (ofNew : property old → property new) (present : ∃ record ∈ records, property record) :
    ∃ record ∈ records.set position new, property record := by
  obtain ⟨record, member, holds⟩ := present
  obtain ⟨index, found⟩ := List.mem_iff_getElem?.mp member
  by_cases same : position = index
  · subst same
    obtain rfl : old = record := Option.some_inj.mp (held.symm.trans found)
    have inside : position < records.length := (List.getElem?_eq_some_iff.mp held).1
    exact ⟨new, List.mem_set inside new, ofNew holds⟩
  · have untouched : (records.set position new)[index]? = some record := by
      rw [List.getElem?_set_ne same, found]
    exact ⟨record, List.mem_of_getElem? untouched, holds⟩

/-- What does not tell the old record from the new one does not see the change. -/
theorem map_set_eq {α β : Type} {records : List α} {position : Nat} {old new : α} {view : α → β}
    (held : records[position]? = some old) (alike : view new = view old) :
    (records.set position new).map view = records.map view := by
  obtain ⟨inside, rfl⟩ := List.getElem?_eq_some_iff.mp held
  rw [List.map_set, alike, ← List.getElem_map view (h := by simpa using inside)]
  exact List.set_getElem_self _

end Steps

/-! ## Soundness -/

/-- The segment has left the planned state otherwise than by being cancelled. -/
def ExecutionSegment.Started (segment : ExecutionSegment) : Prop :=
  segment.executionState ∉ [.planned, .cancelled]

/-- The execution is one of the plan, and nothing in it is ahead of what it waits for. -/
structure Sound (plan : DisaggregatedExecutionPlan) (execution : Execution) : Prop where
  /-- The segments are those of the plan, up to their states. -/
  segments_kept : execution.segments.map (fun segment => segment.inState .planned) =
    plan.segments.map fun segment => segment.inState .planned
  /-- The handoffs are those of the plan, up to their states. -/
  handoffs_kept : execution.handoffs.map ExecutionHandoff.reset =
    plan.handoffs.map ExecutionHandoff.reset
  /-- What a started segment depends on has succeeded. -/
  dependencies_succeeded : ∀ segment ∈ execution.segments, segment.Started →
    ∀ dependency ∈ segment.dependencySegmentIds, execution.Succeeded dependency
  /-- What a started segment requires was handed over to it. -/
  handoffs_supplied : ∀ segment ∈ execution.segments, segment.Started →
    ∀ required ∈ segment.requiredHandoffIds, ∃ handoff ∈ execution.handoffs,
      handoff.handoffId = required ∧ handoff.consumerSegmentId = segment.segmentId ∧
        handoff.state ≠ .pending
  /-- What is or was available comes from a segment that has succeeded. -/
  producers_succeeded : ∀ handoff ∈ execution.handoffs, handoff.state ∈ [.available, .consumed] →
    execution.Succeeded handoff.producerSegmentId

section Soundness

variable {plan : DisaggregatedExecutionPlan} {execution next : Execution}

theorem of_ready {segment : ExecutionSegment} (ready :
    evaluateSegmentReadiness segment execution.segments execution.handoffs = true) :
    (∀ dependency ∈ segment.dependencySegmentIds, execution.Succeeded dependency) ∧
      ∀ required ∈ segment.requiredHandoffIds, ∃ handoff ∈ execution.handoffs,
        handoff.handoffId = required ∧ handoff.consumerSegmentId = segment.segmentId ∧
          handoff.state ≠ .pending := by
  simp only [evaluateSegmentReadiness, Bool.and_eq_true, decide_eq_true_eq, List.all_eq_true,
    Option.any_eq_true] at ready
  obtain ⟨⟨_, dependencies⟩, handoffs⟩ := ready
  constructor
  · intro dependency depends
    obtain ⟨found, held, succeeded⟩ := dependencies dependency depends
    obtain ⟨member, named⟩ := Dict.mem_of_indexed_get? held
    exact ⟨found, member, named, succeeded⟩
  · intro required needed
    obtain ⟨handoff, held, consumer, available⟩ := handoffs required needed
    obtain ⟨member, named⟩ := Dict.mem_of_indexed_get? held
    exact ⟨handoff, member, named, consumer, by rw [available]; decide⟩

/-- Moving a segment takes no success away. -/
theorem Execution.Succeeded.withSegment {position : Nat} {segment : ExecutionSegment}
    {targetState : ExecutionSegmentState} {id : String} (succeeded : execution.Succeeded id)
    (held : execution.segments[position]? = some segment)
    (target : targetState ∈ allowed segment.executionState) :
    (execution.withSegment position (segment.inState targetState)).Succeeded id := by
  refine exists_mem_set held ?_ succeeded
  rintro ⟨_, final⟩
  rw [final] at target
  contradiction

theorem started_or_planned {segment : ExecutionSegment} {targetState : ExecutionSegmentState}
    (target : targetState ∈ allowed segment.executionState)
    (started : (segment.inState targetState).Started) :
    segment.Started ∨ segment.executionState = .planned ∧ targetState = .ready := by
  simp only [ExecutionSegment.Started, ExecutionSegment.inState] at started ⊢
  cases state : segment.executionState <;> rw [state] at target <;> simp_all [allowed]

theorem Sound.withSegment (sound : Sound plan execution) {position : Nat}
    {segment : ExecutionSegment} {targetState : ExecutionSegmentState}
    (held : execution.segments[position]? = some segment)
    (target : targetState ∈ allowed segment.executionState)
    (evaluated : segment.executionState = .planned → targetState = .ready →
      evaluateSegmentReadiness segment execution.segments execution.handoffs = true) :
    Sound plan (execution.withSegment position (segment.inState targetState)) := by
  have member : segment ∈ execution.segments := List.mem_of_getElem? held
  have waited (started : (segment.inState targetState).Started) :
      (∀ dependency ∈ segment.dependencySegmentIds, execution.Succeeded dependency) ∧
        ∀ required ∈ segment.requiredHandoffIds, ∃ handoff ∈ execution.handoffs,
          handoff.handoffId = required ∧ handoff.consumerSegmentId = segment.segmentId ∧
            handoff.state ≠ .pending := by
    rcases started_or_planned target started with before | ⟨planned, ready⟩
    · exact ⟨sound.dependencies_succeeded segment member before,
        sound.handoffs_supplied segment member before⟩
    · exact of_ready (evaluated planned ready)
  constructor
  case segments_kept =>
    rw [← sound.segments_kept]
    exact map_set_eq held rfl
  case handoffs_kept => exact sound.handoffs_kept
  case dependencies_succeeded =>
    intro other inside started dependency depends
    refine Execution.Succeeded.withSegment ?_ held target
    rcases List.mem_or_eq_of_mem_set inside with before | rfl
    · exact sound.dependencies_succeeded other before started dependency depends
    · exact (waited started).1 dependency depends
  case handoffs_supplied =>
    intro other inside started required needed
    rcases List.mem_or_eq_of_mem_set inside with before | rfl
    · exact sound.handoffs_supplied other before started required needed
    · exact (waited started).2 required needed
  case producers_succeeded =>
    intro handoff inside state
    exact (sound.producers_succeeded handoff inside state).withSegment held target

theorem Sound.withHandoff (sound : Sound plan execution) {position : Nat}
    {handoff moved : ExecutionHandoff} (held : execution.handoffs[position]? = some handoff)
    (move : HandoffMove handoff moved)
    (produced : handoff.state = .pending → moved.state = .available →
      execution.Succeeded handoff.producerSegmentId) :
    Sound plan (execution.withHandoff position moved) := by
  have member : handoff ∈ execution.handoffs := List.mem_of_getElem? held
  obtain ⟨sameId, sameProducer, sameConsumer⟩ := move.ids
  constructor
  case segments_kept => exact sound.segments_kept
  case handoffs_kept =>
    rw [← sound.handoffs_kept]
    exact map_set_eq held move.kept
  case dependencies_succeeded => exact sound.dependencies_succeeded
  case handoffs_supplied =>
    intro segment inside started required needed
    refine exists_mem_set held ?_ (sound.handoffs_supplied segment inside started required needed)
    rintro ⟨named, consumer, _⟩
    exact ⟨sameId.trans named, sameConsumer.trans consumer, move.not_pending⟩
  case producers_succeeded =>
    intro other inside state
    rcases List.mem_or_eq_of_mem_set inside with before | rfl
    · exact sound.producers_succeeded other before state
    · rw [sameProducer]
      rcases move.available_or_consumed state with ⟨pending, available⟩ | available
      · exact produced pending available
      · exact sound.producers_succeeded handoff member (by rw [available]; exact List.mem_cons_self)

theorem Sound.step (sound : Sound plan execution) (step : execution.Step next) :
    Sound plan next := by
  rcases step.cases_on with ⟨_, _, _, held, target, evaluated, rfl⟩ | ⟨_, _, _, held, move,
    produced, rfl⟩
  · exact sound.withSegment held target evaluated
  · exact sound.withHandoff held move produced

theorem Sound.reaches (sound : Sound plan execution) (reached : execution.Reaches next) :
    Sound plan next := by
  induction reached with
  | refl => exact sound
  | tail _ step induction => exact induction.step step

/-- Before anything has happened, nothing is ahead of what it waits for. -/
theorem sound_start (unstarted : Unstarted plan) : Sound plan (.start plan) where
  segments_kept := rfl
  handoffs_kept := rfl
  dependencies_succeeded segment member started :=
    absurd started (not_not_intro (by rw [unstarted.planned segment member]; decide))
  handoffs_supplied segment member started :=
    absurd started (not_not_intro (by rw [unstarted.planned segment member]; decide))
  producers_succeeded handoff member state := by
    rw [unstarted.pending handoff member] at state
    contradiction

end Soundness

/-! ## What is final -/

/-- What is final in an execution stays as it is in a later one. -/
structure Keeps (execution later : Execution) : Prop where
  /-- Segments that have succeeded or are cancelled stay as they are. -/
  segments : ∀ (position : Nat) (segment : ExecutionSegment),
    execution.segments[position]? = some segment →
      segment.executionState ∈ [.succeeded, .cancelled] → later.segments[position]? = some segment
  /-- Handoffs that are consumed or invalidated stay as they are. -/
  handoffs : ∀ (position : Nat) (handoff : ExecutionHandoff),
    execution.handoffs[position]? = some handoff →
      handoff.state ∈ [.consumed, .invalidated] → later.handoffs[position]? = some handoff

section Final

variable {execution next : Execution}

/-- Setting a record that may change leaves the final ones where they are. -/
theorem getElem?_set_of_final {α : Type} {records : List α} {position index : Nat}
    {old new record : α} (final : α → Prop) (held : records[position]? = some old)
    (changes : ¬ final old) (found : records[index]? = some record) (isFinal : final record) :
    (records.set position new)[index]? = some record := by
  have different : position ≠ index := by
    rintro rfl
    obtain rfl : old = record := Option.some_inj.mp (held.symm.trans found)
    exact changes isFinal
  rw [List.getElem?_set_ne different, found]

theorem Execution.Step.keeps (step : execution.Step next) : Keeps execution next := by
  rcases step.cases_on with ⟨_, segment, _, held, target, _, rfl⟩ | ⟨_, handoff, _, held, move, _,
    rfl⟩
  · refine ⟨fun index other found final => ?_, fun _ _ found _ => found⟩
    refine getElem?_set_of_final
      (fun record => record.executionState ∈ [.succeeded, .cancelled]) held ?_ found final
    intro ended
    rcases List.mem_pair.mp ended with succeeded | cancelled
    · rw [succeeded] at target
      contradiction
    · rw [cancelled] at target
      contradiction
  · refine ⟨fun _ _ found _ => found, fun index other found final => ?_⟩
    refine getElem?_set_of_final
      (fun record => record.state ∈ [.consumed, .invalidated]) held ?_ found final
    intro ended
    have moves := move.allowed
    rcases List.mem_pair.mp ended with consumed | invalidated
    · rw [consumed] at moves
      contradiction
    · rw [invalidated] at moves
      contradiction

theorem Execution.Reaches.keeps (reached : execution.Reaches next) : Keeps execution next := by
  induction reached with
  | refl => exact ⟨fun _ _ found _ => found, fun _ _ found _ => found⟩
  | tail _ step induction =>
      constructor
      · intro position segment found final
        exact step.keeps.segments position segment (induction.segments position segment found final)
          final
      · intro position handoff found final
        exact step.keeps.handoffs position handoff (induction.handoffs position handoff found final)
          final

end Final

/-! ## Plans that are built -/

section Plans

variable {digest : Digest} {request : PlanRequest} {segments : List ExecutionSegment}
  {handoffs : List ExecutionHandoff} {plan : DisaggregatedExecutionPlan} {execution : Execution}

theorem segmentIds_of_kept (sound : Sound plan execution) :
    segmentIds execution.segments = segmentIds plan.segments := by
  have ids (segments : List ExecutionSegment) : segmentIds segments =
      (segments.map fun segment => segment.inState .planned).map ExecutionSegment.segmentId := by
    rw [List.map_map]
    rfl
  rw [ids, sound.segments_kept, ← ids]

theorem dependencies_of_kept (sound : Sound plan execution) :
    dependencies execution.segments = dependencies plan.segments := by
  have arrows (segments : List ExecutionSegment) : dependencies segments =
      dependencies (segments.map fun segment => segment.inState .planned) := by
    rw [dependencies, dependencies, List.flatMap_map]
    rfl
  rw [arrows, sound.segments_kept, ← arrows]

/-- Once the segments that nothing depends on have succeeded, all segments have. -/
theorem Sound.all_succeeded (sound : Sound plan execution)
    (unique : (segmentIds plan.segments).Nodup) (acyclic : Acyclic (dependencies plan.segments))
    (terminals : ∀ id ∈ terminalSegmentIds plan.segments, execution.Succeeded id) :
    ∀ segment ∈ execution.segments, segment.executionState = .succeeded := by
  rw [← segmentIds_of_kept sound] at unique
  have only {segment other : ExecutionSegment} (member : segment ∈ execution.segments)
      (otherMember : other ∈ execution.segments) (same : segment.segmentId = other.segmentId) :
      segment = other := Registry.eq_of_identity_eq unique member otherMember same
  have passes (source target : String) (linked : Linked (dependencies plan.segments) source target)
      (succeeded : execution.Succeeded target) : execution.Succeeded source := by
    rw [← dependencies_of_kept sound] at linked
    obtain ⟨segment, member, named, depends⟩ := linked_dependencies_iff.mp linked
    obtain ⟨other, otherMember, otherNamed, state⟩ := succeeded
    obtain rfl := only member otherMember (named.trans otherNamed.symm)
    exact sound.dependencies_succeeded segment member
      (by rw [ExecutionSegment.Started, state]; decide) source depends
  have sinks (id : String) (inside : id ∈ (segmentIds plan.segments).toFinset)
      (last : ∀ target ∈ (segmentIds plan.segments).toFinset,
        ¬ Linked (dependencies plan.segments) id target) : execution.Succeeded id := by
    obtain ⟨segment, member, rfl⟩ := exists_segment (List.mem_toFinset.mp inside)
    refine terminals _ (mem_terminalSegmentIds_iff.mpr ⟨segment, member, rfl, ?_⟩)
    intro other otherMember depends
    exact last other.segmentId (List.mem_toFinset.mpr (List.mem_map_of_mem otherMember))
      (linked_dependencies_iff.mpr ⟨other, otherMember, rfl, depends⟩)
  intro segment member
  have inside : segment.segmentId ∈ (segmentIds plan.segments).toFinset := by
    rw [List.mem_toFinset, ← segmentIds_of_kept sound]
    exact List.mem_map_of_mem member
  obtain ⟨other, otherMember, named, state⟩ := acyclic.forall_of_sinks passes sinks _ inside
  obtain rfl := only otherMember member named
  exact state

/-- A complete execution stays as it is. -/
theorem Keeps.segments_eq {later : Execution} (keeps : Keeps execution later)
    (sound : Sound plan execution) (laterSound : Sound plan later)
    (succeeded : ∀ segment ∈ execution.segments, segment.executionState = .succeeded) :
    later.segments = execution.segments := by
  have sameLength : later.segments.length = execution.segments.length := by
    have sameIds := (segmentIds_of_kept laterSound).trans (segmentIds_of_kept sound).symm
    simpa [segmentIds] using congrArg List.length sameIds
  refine List.ext_getElem? fun position => ?_
  cases found : execution.segments[position]? with
  | none =>
      rw [List.getElem?_eq_none_iff] at found ⊢
      rwa [sameLength]
  | some segment =>
      refine keeps.segments position segment found ?_
      rw [succeeded segment (List.mem_of_getElem? found)]
      exact List.mem_cons_self

/-- Every terminal segment of a plan that is stitched from truthful results has succeeded. -/
theorem succeeded_of_stitching {stitchRequest : StitchRequest}
    {results : List SegmentExecutionResult} {stitched : StitchedExecutionResult}
    (truthful : ∀ result ∈ results, result.succeeded = true →
      execution.Succeeded result.segmentId)
    (stitching : stitchExecutionResults digest stitchRequest results = .ok stitched)
    {id : String} (terminal : id ∈ stitchRequest.terminalSegmentIds) :
    execution.Succeeded id := by
  obtain ⟨covered, verified, _⟩ := stitchExecutionResults_eq_ok_iff.mp stitching
  obtain ⟨found, isFound, inside, rfl⟩ :=
    Dict.chooses_indexed (.refl results) covered id terminal
  refine truthful found inside (verified found ?_).1
  exact List.mem_filterMap.mpr ⟨found.segmentId, (mem_sortOn _).mpr terminal, isFound⟩

/-- In every execution of a plan that was built from planned segments and pending handoffs, nothing
is ahead of what it waits for, and from then on what is final stays as it is. -/
theorem executions_sound
    (built : buildDisaggregatedExecutionPlan digest request segments handoffs = .ok plan)
    (planned : ∀ segment ∈ segments, segment.executionState = .planned)
    (pending : ∀ handoff ∈ handoffs, handoff.state = .pending)
    (reached : (Execution.start plan).Reaches execution) :
    Sound plan execution ∧ ∀ later, execution.Reaches later → Keeps execution later :=
  ⟨(sound_start (unstarted_of_build built planned pending)).reaches reached,
    fun _ onwards => onwards.keeps⟩

/-- When the results that a plan is stitched from are those of segments that have succeeded, the
whole plan has been executed, and no later step undoes any of it. -/
theorem stitched_executed {stitchRequest : StitchRequest}
    {results : List SegmentExecutionResult} {stitched : StitchedExecutionResult}
    (built : buildDisaggregatedExecutionPlan digest request segments handoffs = .ok plan)
    (planned : ∀ segment ∈ segments, segment.executionState = .planned)
    (pending : ∀ handoff ∈ handoffs, handoff.state = .pending)
    (reached : (Execution.start plan).Reaches execution)
    (truthful : ∀ result ∈ results, result.succeeded = true →
      execution.Succeeded result.segmentId)
    (ends : stitchRequest.terminalSegmentIds = plan.terminalSegmentIds)
    (stitching : stitchExecutionResults digest stitchRequest results = .ok stitched) :
    ∀ later, execution.Reaches later →
      later.segments = execution.segments ∧
        ∀ segment ∈ later.segments, segment.executionState = .succeeded := by
  have unstarted := unstarted_of_build built planned pending
  have sound := (sound_start unstarted).reaches reached
  obtain ⟨admissible, rfl⟩ := build_eq_ok_iff.mp built
  have perm : (sortOn ExecutionSegment.key segments).Perm segments := sortOn_perm _ _
  have acyclic : Acyclic (dependencies (sortOn ExecutionSegment.key segments)) :=
    (acyclic_dependencies_perm perm).mpr admissible.acyclic
  have terminals : ∀ id ∈ terminalSegmentIds (sortOn ExecutionSegment.key segments),
      execution.Succeeded id := by
    intro id terminal
    rw [terminalSegmentIds_perm perm] at terminal
    exact succeeded_of_stitching truthful stitching (ends ▸ terminal)
  have complete := sound.all_succeeded unstarted.unique acyclic terminals
  intro later onwards
  have same := onwards.keeps.segments_eq sound (sound.reaches onwards) complete
  exact ⟨same, same ▸ complete⟩

end Plans

/-! ## A plan that is executed -/

section Sample

variable (digest : Digest)

/-- The plan of two segments with the handoff between them. -/
def pairPlan : DisaggregatedExecutionPlan :=
  assembled digest sampleRequest [decodeSegment digest, prefillSegment digest]
    [sampleHandoff digest]

theorem pair_built : buildDisaggregatedExecutionPlan digest sampleRequest
    [decodeSegment digest, prefillSegment digest] [sampleHandoff digest] =
      .ok (pairPlan digest) :=
  build_eq_ok_iff.mpr ⟨pair_admissible digest, rfl⟩

theorem pair_planned : ∀ segment ∈ [decodeSegment digest, prefillSegment digest],
    segment.executionState = .planned := by
  simp [decodeSegment, prefillSegment, sampleSegment]

theorem pair_pending : ∀ handoff ∈ [sampleHandoff digest], handoff.state = .pending := by
  simp [sampleHandoff]

/-- The two segments in their states, and the handoff. -/
def pairExecution (first second : ExecutionSegmentState) (handoff : ExecutionHandoff) :
    Execution :=
  ⟨[(prefillSegment digest).inState first, (decodeSegment digest).inState second], [handoff]⟩

theorem pair_sorted : sortOn ExecutionSegment.key [decodeSegment digest, prefillSegment digest] =
    [prefillSegment digest, decodeSegment digest] := by
  have ordered : (prefillSegment digest).key < (decodeSegment digest).key :=
    show toLex ((1 : Nat), "a") < toLex (1, "b") by decide
  simp [sortOn, ordered.not_ge]

theorem pair_start : Execution.start (pairPlan digest) =
    pairExecution digest .planned .planned (sampleHandoff digest) := by
  simp only [Execution.start, pairPlan, assembled, pair_sorted]
  rfl

variable {digest} {first second targetState : ExecutionSegmentState} {handoff : ExecutionHandoff}

/-- The first segment moves where it may, and waits for nothing. -/
theorem prefill_step (target : targetState ∈ allowed first) (unfailed : first ≠ .failed) :
    (pairExecution digest first second handoff).Step
      (pairExecution digest targetState second handoff) := by
  refine @Execution.Step.move _ 0 ((prefillSegment digest).inState first) _ targetState
    ⟨none, 1, true⟩ rfl ?_ ?_
  · intro planned _
    obtain rfl : first = .planned := planned
    rfl
  · exact transition_eq_ok_iff.mpr
      ⟨target, fun failed => absurd failed unfailed, fun _ => rfl, rfl⟩

/-- The second segment moves where it may, once what it waits for has been handed over. -/
theorem decode_step (target : targetState ∈ allowed second) (unfailed : second ≠ .failed)
    (ready : second = .planned → evaluateSegmentReadiness ((decodeSegment digest).inState .planned)
      (pairExecution digest first .planned handoff).segments [handoff] = true) :
    (pairExecution digest first second handoff).Step
      (pairExecution digest first targetState handoff) := by
  refine @Execution.Step.move _ 1 ((decodeSegment digest).inState second) _ targetState
    ⟨none, 1, true⟩ rfl ?_ ?_
  · intro planned _
    obtain rfl : second = .planned := planned
    exact ready rfl
  · exact transition_eq_ok_iff.mpr
      ⟨target, fun failed => absurd failed unfailed, fun _ => rfl, rfl⟩

variable (digest)

/-- The handoff once the first segment has succeeded, and once the second has it. -/
theorem decode_ready : evaluateSegmentReadiness ((decodeSegment digest).inState .planned)
    (pairExecution digest .succeeded .planned (sampleHandoff digest).published).segments
      [(sampleHandoff digest).published] = true := by
  rfl

/-- The first segment succeeds and hands its result over. -/
theorem pair_hands_over : (pairExecution digest .planned .planned (sampleHandoff digest)).Reaches
    (pairExecution digest .succeeded .planned (sampleHandoff digest).published) := by
  have ready : (pairExecution digest .planned .planned (sampleHandoff digest)).Step
      (pairExecution digest .ready .planned (sampleHandoff digest)) :=
    prefill_step (by decide) (by decide)
  have running : (pairExecution digest .ready .planned (sampleHandoff digest)).Step
      (pairExecution digest .running .planned (sampleHandoff digest)) :=
    prefill_step (by decide) (by decide)
  have succeeded : (pairExecution digest .running .planned (sampleHandoff digest)).Step
      (pairExecution digest .succeeded .planned (sampleHandoff digest)) :=
    prefill_step (by decide) (by decide)
  have published : (pairExecution digest .succeeded .planned (sampleHandoff digest)).Step
      (pairExecution digest .succeeded .planned (sampleHandoff digest).published) :=
    @Execution.Step.publish _ 0 (sampleHandoff digest) _ rfl
      ⟨_, List.mem_cons_self, rfl, rfl⟩ (makeHandoffAvailable_eq_ok_iff.mpr ⟨rfl, rfl⟩)
  exact (((Relation.ReflTransGen.single ready).tail running).tail succeeded).tail published

/-- The second segment takes it and succeeds. -/
theorem pair_takes_over : (pairExecution digest .succeeded .planned
      (sampleHandoff digest).published).Reaches
    (pairExecution digest .succeeded .succeeded (sampleHandoff digest).published.taken) := by
  have ready : (pairExecution digest .succeeded .planned (sampleHandoff digest).published).Step
      (pairExecution digest .succeeded .ready (sampleHandoff digest).published) :=
    decode_step (by decide) (by decide) fun _ => decode_ready digest
  have running : (pairExecution digest .succeeded .ready (sampleHandoff digest).published).Step
      (pairExecution digest .succeeded .running (sampleHandoff digest).published) :=
    decode_step (by decide) (by decide) nofun
  have consumed : (pairExecution digest .succeeded .running (sampleHandoff digest).published).Step
      (pairExecution digest .succeeded .running (sampleHandoff digest).published.taken) :=
    @Execution.Step.consume _ 0 (sampleHandoff digest).published _ "b" rfl
      (consumeHandoff_eq_ok_iff.mpr ⟨rfl, rfl, rfl⟩)
  have succeeded : (pairExecution digest .succeeded .running
        (sampleHandoff digest).published.taken).Step
      (pairExecution digest .succeeded .succeeded (sampleHandoff digest).published.taken) :=
    decode_step (by decide) (by decide) nofun
  exact (((Relation.ReflTransGen.single ready).tail running).tail consumed).tail succeeded

/-- The plan of two segments once it has been executed. -/
def pairExecuted : Execution :=
  pairExecution digest .succeeded .succeeded (sampleHandoff digest).published.taken

theorem pair_reaches : (Execution.start (pairPlan digest)).Reaches (pairExecuted digest) :=
  pair_start digest ▸ (pair_hands_over digest).trans (pair_takes_over digest)

end Sample

/-- The execution of the two segments is sound when both have succeeded, and stays so. -/
theorem sample_sound :
    Sound (pairPlan .sha256) (pairExecuted .sha256) ∧
      ∀ later, (pairExecuted .sha256).Reaches later → Keeps (pairExecuted .sha256) later :=
  executions_sound (pair_built .sha256) (pair_planned .sha256) (pair_pending .sha256)
    (pair_reaches .sha256)

section Stitched

variable (digest : Digest)

/-- What is asked of the stitching of the plan. -/
def sampleStitchRequest : StitchRequest where
  executionPlanId := sampleRequest.executionPlanId digest
  namespaceType := .project
  namespaceId := "p"
  terminalSegmentIds := ["b"]
  stitchingPolicyId := "policy"

/-- A successful result of a segment of the plan. -/
def sampleResult (segmentId : String) (visible : Text.Nonblank segmentId) :
    SegmentExecutionResult :=
  { foreignResult with
    executionPlanId := sampleRequest.executionPlanId digest
    segmentId := segmentId
    namespaceType := .project
    namespaceId := "p"
    texts_nonblank := by
      have texts : ∀ text ∈ ["result", "p", "fp"], Text.Nonblank text := by decide
      have named : Text.Nonblank (sampleRequest.executionPlanId digest) := digest.nonblank _
      simp only [List.forall_mem_cons, List.not_mem_nil, false_imp_iff, implies_true,
        and_true] at texts ⊢
      exact ⟨texts.1, named, visible, texts.2⟩ }

/-- The results of both segments. -/
def sampleResults : List SegmentExecutionResult :=
  [sampleResult digest "a" (by decide), sampleResult digest "b" (by decide)]

theorem sample_stitched : ∃ stitched,
    stitchExecutionResults digest (sampleStitchRequest digest) (sampleResults digest) =
      .ok stitched := by
  have selected : selectedResults (sampleStitchRequest digest).terminalSegmentIds
      (sampleResults digest) = [sampleResult digest "b" (by decide)] := rfl
  refine exists_stitched_iff.mpr ⟨?_, ?_, ⟨by simp [sampleStitchRequest],
    texts_of_plan digest [] ["p", "policy"] (by decide)⟩, ?_⟩
  · simp [Covered, sampleStitchRequest, sampleResults, sampleResult]
  · rw [selected]
    simp [sampleResult, foreignResult]
  · simp [selected]

theorem sample_truthful : ∀ result ∈ sampleResults digest, result.succeeded = true →
    (pairExecuted digest).Succeeded result.segmentId := by
  intro result member _
  rcases List.mem_pair.mp member with rfl | rfl
  · exact ⟨_, List.mem_cons_self, rfl, rfl⟩
  · exact ⟨_, List.mem_cons_of_mem _ List.mem_cons_self, rfl, rfl⟩

end Stitched

/-- The plan of two segments is stitched only once both have been executed. -/
theorem sample_executed :
    ∃ stitched, stitchExecutionResults .sha256 (sampleStitchRequest .sha256)
        (sampleResults .sha256) = .ok stitched ∧
      ∀ later, (pairExecuted .sha256).Reaches later →
        later.segments = (pairExecuted .sha256).segments ∧
          ∀ segment ∈ later.segments, segment.executionState = .succeeded := by
  obtain ⟨stitched, stitching⟩ := sample_stitched .sha256
  refine ⟨stitched, stitching, ?_⟩
  exact stitched_executed (pair_built .sha256) (pair_planned .sha256) (pair_pending .sha256)
    (pair_reaches .sha256) (sample_truthful .sha256) rfl stitching

end DisaggregatedExecution
end MercuryX
