import MercuryX.ComputeNegotiator.Contracts
import MercuryX.Contracts.Addresses
import MercuryX.Foundation.Numerals

/-!
# The history of a negotiation

A history numbers its events, and its fingerprint covers their identities, which in turn cover what
the events say. An event is appended by building the history anew, so the validators run over all
events each time. They never fail on what was appended before: an append fails for its own
generation alone. In every history the fingerprint stands for the request and all that was recorded.
-/

namespace MercuryX
namespace ComputeNegotiator

open Foundation

variable (digest : Digest)

/-! ## Events -/

/-- What an event of a negotiation is about. -/
inductive NegotiationEventType where
  | requested
  | offered
  | approved
  | rejected
  | expired
  | revoked
  | committed
  deriving DecidableEq

/-- The serialized kind of an event. -/
def NegotiationEventType.value : NegotiationEventType → String
  | .requested => "REQUESTED"
  | .offered => "OFFERED"
  | .approved => "APPROVED"
  | .rejected => "REJECTED"
  | .expired => "EXPIRED"
  | .revoked => "REVOKED"
  | .committed => "COMMITTED"

theorem NegotiationEventType.value_injective : Function.Injective NegotiationEventType.value := by
  intro left right same
  cases left <;> cases right <;> first | rfl | exact absurd same (by decide)

/-- What is recorded of an event. -/
structure RecordedEvent where
  eventType : NegotiationEventType
  artifactId : String
  generation : Int
  provenanceIds : List String
  deriving DecidableEq

/-- The fields of an event of a history. -/
structure HistoryEventFields extends RecordedEvent where
  eventId : String
  requestId : String
  sequence : Int
  fingerprint : String
  deriving DecidableEq

namespace HistoryEventFields

/-- The terms that the fingerprint of an event covers. -/
def body (event : HistoryEventFields) : Json := .obj [
  ("request_id", .str event.requestId), ("sequence", .int event.sequence),
  ("event_type", .str event.eventType.value), ("artifact_id", .str event.artifactId),
  ("generation", .int event.generation), ("provenance_ids", Json.strs event.provenanceIds)]

/-- The constraints on an event. -/
def validate (event : HistoryEventFields) : Except Fault Unit := do
  let contract := "NegotiationHistoryEvent"
  fieldGe contract "sequence" 1 event.sequence
  fieldGe contract "generation" 1 event.generation
  rule contract "" (Addressed digest "negotiation_event" event.body event.eventId
    event.fingerprint) "history event fingerprint mismatch"

/-- What the validation of an event establishes. -/
structure Valid (event : HistoryEventFields) : Prop where
  /-- Sequences start at one. -/
  sequence_pos : 1 ≤ event.sequence
  /-- Generations start at one. -/
  generation_pos : 1 ≤ event.generation
  /-- The event is content-addressed. -/
  addressed : Addressed digest "negotiation_event" event.body event.eventId event.fingerprint

variable {digest}

theorem validate_eq_ok_iff {event : HistoryEventFields} {done : Unit} :
    event.validate digest = .ok done ↔ event.Valid digest := by
  simp only [validate, bind_eq_ok, fieldGe_eq_ok, rule_eq_ok, exists_const]
  constructor
  · rintro ⟨sequence, generation, addressed⟩
    exact ⟨sequence, generation, addressed⟩
  · rintro ⟨sequence, generation, addressed⟩
    exact ⟨sequence, generation, addressed⟩

/-- The layout of the bodies of events. -/
def layout : Json.Layout := .record [
  ("request_id", .scalar), ("sequence", .scalar), ("event_type", .scalar),
  ("artifact_id", .scalar), ("generation", .scalar), ("provenance_ids", .list .scalar)]

theorem distinct_layout : Json.Distinct layout := by
  simp [layout, Json.Distinct, Json.DistinctFields]

theorem fits_body (event : HistoryEventFields) : Json.Fits layout event.body := by
  simp [layout, body, Json.Fits, Json.FitsFields, Json.IsScalar]

/-- A body says everything about an event but its addresses. -/
theorem body_eq_iff {left right : HistoryEventFields} : left.body = right.body ↔
    left.requestId = right.requestId ∧ left.sequence = right.sequence ∧
      left.toRecordedEvent = right.toRecordedEvent := by
  obtain ⟨⟨_, _, _, _⟩, _, _, _, _⟩ := left
  obtain ⟨⟨_, _, _, _⟩, _, _, _, _⟩ := right
  simp only [body, Json.obj.injEq, List.cons.injEq, Prod.mk.injEq, Json.str.injEq, Json.int.injEq,
    NegotiationEventType.value_injective.eq_iff, Json.strs_injective.eq_iff, true_and, and_true,
    RecordedEvent.mk.injEq]

variable (digest) in
/-- An event that takes a place in the history of a request. -/
def numbered (requestId : String) (sequence : Int) (recorded : RecordedEvent) :
    HistoryEventFields :=
  let event : HistoryEventFields := ⟨recorded, "", requestId, sequence, ""⟩
  let fp := digest.hexdigest event.body
  { event with
    eventId := addressOf digest "negotiation_event" fp
    fingerprint := fp }

end HistoryEventFields

/-- A validated event. -/
structure NegotiationHistoryEvent extends HistoryEventFields where
  /-- The event passed its validator. -/
  valid : toHistoryEventFields.Valid digest

/-- Validate the fields of an event. -/
def NegotiationHistoryEvent.construct :
    HistoryEventFields → Except Fault (NegotiationHistoryEvent digest) :=
  checked (HistoryEventFields.validate digest) HistoryEventFields.validate_eq_ok_iff .mk

/-! ## Histories -/

/-- The fields of a history. -/
structure HistoryFields where
  requestId : String
  events : List (NegotiationHistoryEvent digest)
  fingerprint : String

namespace HistoryFields

variable {digest}

/-- The terms that the fingerprint of a history covers. -/
def payload (requestId : String) (events : List (NegotiationHistoryEvent digest)) : Json := .obj [
  ("request_id", .str requestId),
  ("events", Json.strs (events.map fun event => event.eventId))]

/-- The sequences of a history without a gap. -/
def sequences (count : Nat) : List Int :=
  (List.range count).map fun place : Nat => (place : Int) + 1

variable (digest)

/-- The constraints on a history. -/
def validate (history : HistoryFields digest) : Except Fault Unit := do
  let contract := "NegotiationHistory"
  rule contract "" ((history.events.map fun event => event.sequence) =
    sequences history.events.length) "history sequence gap"
  rule contract "" (∀ event ∈ history.events, event.requestId = history.requestId)
    "history request mismatch"
  rule contract "" (history.fingerprint =
    digest.hexdigest (payload history.requestId history.events)) "history fingerprint mismatch"

/-- What the validation of a history establishes. -/
structure Valid (history : HistoryFields digest) : Prop where
  /-- Events are numbered from one without a gap. -/
  gapless : (history.events.map fun event => event.sequence) = sequences history.events.length
  /-- Events belong to the request. -/
  ofRequest : ∀ event ∈ history.events, event.requestId = history.requestId
  /-- The fingerprint covers the request and the events. -/
  addressed : history.fingerprint = digest.hexdigest (payload history.requestId history.events)

variable {digest}

theorem validate_eq_ok_iff {history : HistoryFields digest} {done : Unit} :
    history.validate digest = .ok done ↔ history.Valid digest := by
  simp only [validate, bind_eq_ok, rule_eq_ok, exists_const]
  constructor
  · rintro ⟨gapless, ofRequest, addressed⟩
    exact ⟨gapless, ofRequest, addressed⟩
  · rintro ⟨gapless, ofRequest, addressed⟩
    exact ⟨gapless, ofRequest, addressed⟩

end HistoryFields

/-- A validated history. -/
structure NegotiationHistory extends HistoryFields digest where
  /-- The history passed its validator. -/
  valid : toHistoryFields.Valid digest

/-- Validate the fields of a history. -/
def NegotiationHistory.construct :
    HistoryFields digest → Except Fault (NegotiationHistory digest) :=
  checked (HistoryFields.validate digest) HistoryFields.validate_eq_ok_iff .mk

/-- Append an event to a history. -/
def appendHistoryEvent (history : NegotiationHistory digest) (recorded : RecordedEvent) :
    Except Fault (NegotiationHistory digest) := do
  let event ← NegotiationHistoryEvent.construct digest
    (.numbered digest history.requestId (history.events.length + 1) recorded)
  let events := history.events ++ [event]
  NegotiationHistory.construct digest
    ⟨history.requestId, events, digest.hexdigest (HistoryFields.payload history.requestId events)⟩

/-- The history of a request before anything has happened. -/
def emptyHistory (requestId : String := "legacy-request") : NegotiationHistory digest where
  requestId := requestId
  events := []
  fingerprint := digest.hexdigest
    (HistoryFields.payload requestId ([] : List (NegotiationHistoryEvent digest)))
  valid := ⟨rfl, by simp, rfl⟩

/-- A history as a machine that events are appended to. -/
def historyMachine : Machine (NegotiationHistory digest) RecordedEvent Unit Fault :=
  .ofFunction (appendHistoryEvent digest)

/-! ## Events in their places -/

section Events

variable {digest} {left right : NegotiationHistoryEvent digest}

/-- An event is what it records and where it stands. -/
theorem NegotiationHistoryEvent.ext_iff : left = right ↔
    left.requestId = right.requestId ∧ left.sequence = right.sequence ∧
      left.toRecordedEvent = right.toRecordedEvent := by
  constructor
  · rintro rfl
    exact ⟨rfl, rfl, rfl⟩
  · intro same
    have bodies := HistoryEventFields.body_eq_iff.mpr same
    have fingerprints : left.fingerprint = right.fingerprint := by
      rw [left.valid.addressed.1, right.valid.addressed.1, bodies]
    have ids : left.eventId = right.eventId := by
      rw [left.valid.addressed.2, right.valid.addressed.2, bodies]
    obtain ⟨request, sequence, recorded⟩ := same
    obtain ⟨⟨_, _, _, _, _⟩, _⟩ := left
    obtain ⟨⟨_, _, _, _, _⟩, _⟩ := right
    simp only [NegotiationHistoryEvent.mk.injEq, HistoryEventFields.mk.injEq]
    exact ⟨recorded, ids, request, sequence, fingerprints⟩

/-- What the fingerprint and the id of an event are digests of. -/
def NegotiationHistoryEvent.digested (event : NegotiationHistoryEvent digest) : List Json :=
  addressed digest "negotiation_event" event.body

theorem NegotiationHistoryEvent.eq_of_eventId
    (free : digest.CollisionFreeOn (left.digested ++ right.digested))
    (same : left.eventId = right.eventId) : left = right := by
  have bodies := left.valid.addressed.body_eq HistoryEventFields.distinct_layout
    (HistoryEventFields.fits_body _) (HistoryEventFields.fits_body _) right.valid.addressed free
    same
  exact NegotiationHistoryEvent.ext_iff.mpr (HistoryEventFields.body_eq_iff.mp bodies)

end Events

/-! ## Fingerprints -/

section Fingerprints

variable {digest} {left right : NegotiationHistory digest}

namespace NegotiationHistory

/-- What the history holds, in the order in which it was recorded. -/
def recordedEvents (history : NegotiationHistory digest) : List RecordedEvent :=
  history.events.map fun event => event.toRecordedEvent

theorem eq_of_events (request : left.requestId = right.requestId)
    (events : left.events = right.events) : left = right := by
  have fingerprints : left.fingerprint = right.fingerprint := by
    rw [left.valid.addressed, right.valid.addressed, request, events]
  obtain ⟨⟨_, _, _⟩, _⟩ := left
  obtain ⟨⟨_, _, _⟩, _⟩ := right
  simp only [NegotiationHistory.mk.injEq, HistoryFields.mk.injEq]
  exact ⟨request, events, fingerprints⟩

/-- A history is its request and what it holds. -/
theorem ext_iff : left = right ↔
    left.requestId = right.requestId ∧ left.recordedEvents = right.recordedEvents := by
  constructor
  · rintro rfl
    exact ⟨rfl, rfl⟩
  · rintro ⟨request, recorded⟩
    have lengths : left.events.length = right.events.length := by
      simpa [recordedEvents] using congrArg List.length recorded
    have sequences : (left.events.map fun event => event.sequence) =
        right.events.map fun event => event.sequence := by
      rw [left.valid.gapless, right.valid.gapless, lengths]
    refine eq_of_events request (List.ext_getElem lengths fun place inLeft inRight => ?_)
    refine NegotiationHistoryEvent.ext_iff.mpr ⟨?_, ?_, ?_⟩
    · rw [left.valid.ofRequest _ (List.getElem_mem inLeft),
        right.valid.ofRequest _ (List.getElem_mem inRight), request]
    · have same := List.getElem_of_eq sequences (i := place) (by rwa [List.length_map])
      rwa [List.getElem_map, List.getElem_map] at same
    · have same := List.getElem_of_eq recorded (i := place)
        (by rwa [recordedEvents, List.length_map])
      simp only [recordedEvents, List.getElem_map] at same
      exact same

/-- What the fingerprint of a history and the addresses of its events are digests of. -/
def digested (history : NegotiationHistory digest) : List Json :=
  HistoryFields.payload history.requestId history.events ::
    history.events.flatMap NegotiationHistoryEvent.digested

theorem digested_subset {history : NegotiationHistory digest}
    {event : NegotiationHistoryEvent digest} (member : event ∈ history.events) :
    event.digested ⊆ history.digested :=
  fun _ inside => List.mem_cons_of_mem _ (List.mem_flatMap.mpr ⟨event, member, inside⟩)

/-- The fingerprint of a history stands for the history. -/
theorem eq_of_fingerprint (free : digest.CollisionFreeOn (left.digested ++ right.digested))
    (same : left.fingerprint = right.fingerprint) : left = right := by
  let layout : Json.Layout := .record [("request_id", .scalar), ("events", .list .scalar)]
  have distinct : Json.Distinct layout := by
    simp [layout, Json.Distinct, Json.DistinctFields]
  have fits (history : NegotiationHistory digest) :
      Json.Fits layout (HistoryFields.payload history.requestId history.events) := by
    simp [layout, HistoryFields.payload, Json.Fits, Json.FitsFields]
  rw [left.valid.addressed, right.valid.addressed] at same
  have tells := free _ (List.mem_append_left _ List.mem_cons_self)
    _ (List.mem_append_right _ List.mem_cons_self)
  have payloads := tells.eq_of_fits distinct (fits left) (fits right) same
  simp only [HistoryFields.payload, Json.obj.injEq, List.cons.injEq, Prod.mk.injEq, Json.str.injEq,
    Json.strs_injective.eq_iff, true_and, and_true] at payloads
  obtain ⟨request, ids⟩ := payloads
  have lengths : left.events.length = right.events.length := by
    simpa using congrArg List.length ids
  refine eq_of_events request (List.ext_getElem lengths fun place inLeft inRight => ?_)
  have sameId := List.getElem_of_eq ids (i := place) (by rwa [List.length_map])
  rw [List.getElem_map, List.getElem_map] at sameId
  have events : left.events[place].digested ++ right.events[place].digested ⊆
      left.digested ++ right.digested :=
    List.append_subset.mpr
      ⟨List.Subset.trans (digested_subset (List.getElem_mem inLeft)) (List.subset_append_left _ _),
        List.Subset.trans (digested_subset (List.getElem_mem inRight))
          (List.subset_append_right _ _)⟩
  exact NegotiationHistoryEvent.eq_of_eventId (free.mono events) sameId

end NegotiationHistory

end Fingerprints

/-! ## Appending -/

section Appending

variable {digest} {history next : NegotiationHistory digest} {recorded : RecordedEvent}

theorem numbered_valid_iff {requestId : String} {count : Nat} :
    (HistoryEventFields.numbered digest requestId (count + 1) recorded).Valid digest ↔
      1 ≤ recorded.generation := by
  constructor
  · exact fun valid => valid.generation_pos
  · intro positive
    exact ⟨by simp [HistoryEventFields.numbered], positive, rfl, rfl⟩

/-- The event in the next place of the history. -/
def NegotiationHistory.nextEvent (history : NegotiationHistory digest) (recorded : RecordedEvent)
    (positive : 1 ≤ recorded.generation) : NegotiationHistoryEvent digest :=
  ⟨.numbered digest history.requestId (history.events.length + 1) recorded,
    numbered_valid_iff.mpr positive⟩

/-- The history with an event behind all others. -/
def NegotiationHistory.extended (history : NegotiationHistory digest) (recorded : RecordedEvent)
    (positive : 1 ≤ recorded.generation) : NegotiationHistory digest :=
  let events := history.events ++ [history.nextEvent recorded positive]
  { requestId := history.requestId
    events := events
    fingerprint := digest.hexdigest (HistoryFields.payload history.requestId events)
    valid := by
      refine ⟨?_, ?_, rfl⟩
      · rw [List.map_append, history.valid.gapless, List.length_append, List.length_singleton,
          HistoryFields.sequences, HistoryFields.sequences, List.range_succ, List.map_append]
        rfl
      · intro event member
        rcases List.mem_append.mp member with old | new
        · exact history.valid.ofRequest event old
        · rw [List.mem_singleton.mp new]
          rfl }

theorem appendHistoryEvent_eq_ok_iff : appendHistoryEvent digest history recorded = .ok next ↔
    ∃ positive : 1 ≤ recorded.generation, history.extended recorded positive = next := by
  simp only [appendHistoryEvent, bind_eq_ok, NegotiationHistoryEvent.construct,
    NegotiationHistory.construct, checked_eq_ok_iff]
  constructor
  · rintro ⟨_, ⟨valid, rfl⟩, _, rfl⟩
    exact ⟨numbered_valid_iff.mp valid, rfl⟩
  · rintro ⟨positive, rfl⟩
    exact ⟨_, ⟨numbered_valid_iff.mpr positive, rfl⟩, (history.extended recorded positive).valid,
      rfl⟩

theorem requestId_after : ((historyMachine digest).after history recorded).requestId =
    history.requestId := by
  let kept (reached : NegotiationHistory digest) : Prop := reached.requestId = history.requestId
  refine Machine.after_induction (motive := kept) ?_ rfl
  intro answer next step
  obtain ⟨_, rfl⟩ := appendHistoryEvent_eq_ok_iff.mp (Machine.ofFunction_step_ok.mp step)
  rfl

theorem events_after : history.events <+: ((historyMachine digest).after history recorded).events ∧
    ((historyMachine digest).after history recorded).recordedEvents =
      history.recordedEvents ++ [recorded].filter fun event => 1 ≤ event.generation := by
  by_cases positive : 1 ≤ recorded.generation
  · have appended : appendHistoryEvent digest history recorded =
        .ok (history.extended recorded positive) :=
      appendHistoryEvent_eq_ok_iff.mpr ⟨positive, rfl⟩
    rw [historyMachine, Machine.ofFunction_after appended]
    refine ⟨List.prefix_append _ _, ?_⟩
    simp only [NegotiationHistory.recordedEvents, NegotiationHistory.extended, List.map_append,
      List.filter_singleton, positive, decide_true]
    rfl
  · have refused : (historyMachine digest).after history recorded = history := by
      refine Machine.after_induction (motive := fun reached => reached = history) ?_ rfl
      intro answer next step
      obtain ⟨given, _⟩ := appendHistoryEvent_eq_ok_iff.mp (Machine.ofFunction_step_ok.mp step)
      exact absurd given positive
    rw [refused]
    exact ⟨List.prefix_rfl, by simp [positive]⟩

end Appending

/-! ## Runs -/

section Runs

variable {digest}

/-- After a run a history is of the same request, begins as before, and holds the events of positive
generation behind what it held. -/
theorem history_run (history : NegotiationHistory digest) (calls : List RecordedEvent) :
    ((historyMachine digest).run history calls).requestId = history.requestId ∧
      history.events <+: ((historyMachine digest).run history calls).events ∧
      ((historyMachine digest).run history calls).recordedEvents =
        history.recordedEvents ++ calls.filter fun event => 1 ≤ event.generation := by
  induction calls generalizing history with
  | nil => exact ⟨rfl, List.prefix_rfl, by simp⟩
  | cons recorded calls induction =>
      rw [Machine.run_cons]
      obtain ⟨request, begins, holds⟩ :=
        induction ((historyMachine digest).after history recorded)
      obtain ⟨beginsHere, holdsHere⟩ := @events_after _ history recorded
      refine ⟨request.trans requestId_after, beginsHere.trans begins, ?_⟩
      rw [holds, holdsHere, List.append_assoc, ← List.filter_append, List.singleton_append]

variable (digest) in
/-- The history of a request once the events were appended that can be. -/
def historyOf (requestId : String) (calls : List RecordedEvent) : NegotiationHistory digest :=
  (historyMachine digest).run (emptyHistory digest requestId) calls

/-- The events of positive generation. -/
def recordable (calls : List RecordedEvent) : List RecordedEvent :=
  calls.filter fun event => 1 ≤ event.generation

/-- What holds of the history that a run of appends leaves. -/
structure HistoryLaw (digest : Digest) (requestId : String) (calls : List RecordedEvent) :
    Prop where
  /-- The history holds the events of positive generation, in the order of the calls. -/
  recorded : (historyOf digest requestId calls).recordedEvents = recordable calls
  /-- What was appended before stays in its place. -/
  appendOnly : ∀ front back, calls = front ++ back →
    (historyOf digest requestId front).events <+: (historyOf digest requestId calls).events
  /-- No other history has the fingerprint, if there is no collision between the two. -/
  committed : ∀ history : NegotiationHistory digest,
    digest.CollisionFreeOn (history.digested ++ (historyOf digest requestId calls).digested) →
    history.fingerprint = (historyOf digest requestId calls).fingerprint →
      history = historyOf digest requestId calls
  /-- Two runs without a collision between what they leave have one fingerprint exactly when they
  record the same for the same request. -/
  told : ∀ otherId others,
    digest.CollisionFreeOn ((historyOf digest otherId others).digested ++
      (historyOf digest requestId calls).digested) →
    ((historyOf digest otherId others).fingerprint =
        (historyOf digest requestId calls).fingerprint ↔
      otherId = requestId ∧ recordable others = recordable calls)

/-- Every run of appends obeys the law. -/
theorem historyLaw (digest : Digest) (requestId : String) (calls : List RecordedEvent) :
    HistoryLaw digest requestId calls := by
  have recorded (id : String) (events : List RecordedEvent) :
      (historyOf digest id events).recordedEvents = recordable events :=
    (history_run (emptyHistory digest id) events).2.2
  have request (id : String) (events : List RecordedEvent) :
      (historyOf digest id events).requestId = id :=
    (history_run (emptyHistory digest id) events).1
  constructor
  case recorded => exact recorded requestId calls
  case appendOnly =>
    rintro front back rfl
    rw [historyOf, historyOf, Machine.run_append]
    exact (history_run _ back).2.1
  case committed => exact fun _ free same => NegotiationHistory.eq_of_fingerprint free same
  case told =>
    intro otherId others free
    have fingerprints : (historyOf digest otherId others).fingerprint =
        (historyOf digest requestId calls).fingerprint ↔
          historyOf digest otherId others = historyOf digest requestId calls :=
      ⟨NegotiationHistory.eq_of_fingerprint free, fun same => by rw [same]⟩
    rw [fingerprints, NegotiationHistory.ext_iff, request, request, recorded, recorded]

/-- An event that is recorded when an offer is refused. -/
def refused : RecordedEvent := ⟨.rejected, "offer", 2, ["policy"]⟩

theorem historyOf_singleton (digest : Digest) (requestId : String) {recorded : RecordedEvent}
    (positive : 1 ≤ recorded.generation) : historyOf digest requestId [recorded] =
      (emptyHistory digest requestId).extended recorded positive := by
  rw [historyOf, Machine.run_cons, Machine.run_nil, historyMachine,
    Machine.ofFunction_after (appendHistoryEvent_eq_ok_iff.mpr ⟨positive, rfl⟩)]

theorem uncollided_refused :
    Digest.sha256.CollisionFreeOn ((historyOf .sha256 "request" []).digested ++
      (historyOf .sha256 "request" [refused]).digested) := by
  rw [historyOf_singleton .sha256 "request" (by decide : 1 ≤ refused.generation)]
  refine Digest.collisionFreeOn_of_nodup ?_
  rw [Digest.sha256_eq_numeric]
  decide +kernel

/-- The digest tells a history with a refusal from the empty one. -/
theorem historyLaw_refused : (historyOf .sha256 "request" []).fingerprint ≠
    (historyOf .sha256 "request" [refused]).fingerprint := by
  intro same
  have recorded := (((historyLaw .sha256 "request" [refused]).told "request" []
    uncollided_refused).mp same).2
  exact absurd recorded (by decide)

end Runs

end ComputeNegotiator
end MercuryX
