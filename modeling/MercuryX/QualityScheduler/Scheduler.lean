import MercuryX.Foundation.Chains
import MercuryX.Foundation.Rounding
import MercuryX.QualityScheduler.Contracts

/-!
# Scheduling and refreshing decisions

A request is scheduled by its features, and a decision is refreshed at a later queue generation. A
refresh takes the workload and the quality floor from the request that the caller supplies, so a
chain of refreshes stays with its workload and its floor exactly when those requests do.
-/

namespace MercuryX
namespace QualityScheduler

open Foundation

/-! ## Priorities -/

/-- The rank of a request by its features. -/
def priorityScore (features : SchedulingFeatures) : ℚ :=
  let score : ℚ := 22 / 100 * features.deadlinePressure + 22 / 100 * features.qualityRisk +
    10 / 100 * features.verificationPressure + 10 / 100 * features.uncertainty +
    8 / 100 * features.budgetPressure + 8 / 100 * (1 - features.placementConfidence) +
    8 / 100 * features.resourcePressure + 6 / 100 * (1 - features.localityScore) +
    6 / 100 * features.fragmentationCost
  let ageBoost : ℚ :=
    min (20 / 100) ((features.logicalAge : ℚ) * (1 / 100)) * min 2 features.fairnessWeight
  roundTo 6 (min 1 (score + ageBoost))

/-- The priority class of a rank. -/
def classifyPriority (score : ℚ) : PriorityClass :=
  if 8 / 10 ≤ score then .critical
  else if 6 / 10 ≤ score then .high
  else if 3 / 10 ≤ score then .normal
  else .low

/-! ## Scheduling -/

variable (digest : Digest)

/-- The content of the first decision on a request. -/
def scheduledContent (request : SchedulingRequest) (features : SchedulingFeatures)
    (admissionState : AdmissionState) (selectedCandidateIds : List String) : DecisionContent where
  workloadId := request.workloadId
  admissionState := admissionState
  priorityClass := classifyPriority (priorityScore features)
  rankScore := priorityScore features
  selectedCandidateIds := selectedCandidateIds
  reasonCodes := ["QUALITY_AWARE_DETERMINISTIC_SCHEDULING"]
  queueGeneration := request.queueGeneration
  decisionGeneration := 1
  requiredQualityFloor := request.requiredQualityFloor
  provenanceIds := request.provenanceIds

/-- What the fingerprint of the first decision on a request is computed from. -/
def scheduledPayload (request : SchedulingRequest) (features : SchedulingFeatures)
    (admissionState : AdmissionState) (selectedCandidateIds : List String) : Json :=
  let score := priorityScore features
  .obj [("workload_id", .str request.workloadId), ("admission_state", .str admissionState.value),
    ("priority_class", .str (classifyPriority score).value), ("rank_score", .float score),
    ("selected_candidate_ids", Json.strs selectedCandidateIds),
    ("queue_generation", .int request.queueGeneration), ("decision_generation", .int 1),
    ("previous_decision_id", .null),
    ("required_quality_floor", .float request.requiredQualityFloor),
    ("provenance_ids", Json.strs request.provenanceIds)]

/-- Schedule a request. -/
def scheduleRequest (request : SchedulingRequest) (features : SchedulingFeatures)
    (admissionState : AdmissionState) (selectedCandidateIds : List String) :
    Except Fault (SchedulingDecision digest) := do
  require (admissionState ≠ .unknown)
    (.value "UNKNOWN admission cannot produce a scheduling decision")
  let selected := sortOn id selectedCandidateIds
  require selected.Nodup (.value "selected candidates contain duplicates")
  require (∀ candidateId ∈ selected, candidateId ∈ request.placementCandidateIds)
    (.value "selected candidate is not eligible for request")
  let fingerprint :=
    digest.hexdigest (scheduledPayload request features admissionState selected)
  SchedulingDecision.construct digest (scheduledContent request features admissionState selected)
    (makeDecisionId digest fingerprint) fingerprint

/-! ## Refreshing -/

/-- What a decision is refreshed with. -/
structure RefreshCall where
  request : SchedulingRequest
  features : SchedulingFeatures
  admissionState : AdmissionState
  selectedCandidateIds : List String
  queueGeneration : Int

/-- The request at another queue generation. -/
def SchedulingRequest.atQueueGeneration (request : SchedulingRequest) (queueGeneration : Int)
    (positive : 1 ≤ queueGeneration) : SchedulingRequest :=
  { request with
    queueGeneration := queueGeneration
    generations_pos := ⟨request.generations_pos.1, List.forall_mem_cons.mpr
      ⟨positive, (List.forall_mem_cons.mp request.generations_pos.2).2⟩⟩ }

variable {digest}

/-- A fresh decision in the place of the next one after an old decision. -/
def refreshedContent (old : SchedulingDecision digest) (fresh : DecisionContent) :
    DecisionContent :=
  { fresh with
    decisionGeneration := old.decisionGeneration + 1
    previousDecisionId := some old.decisionId }

/-- What the fingerprint of a refreshed decision is computed from. -/
def identityPayload (content : DecisionContent) : Json :=
  .obj (content.dump.filter fun member => member.1 ≠ "reason_codes")

/-- Refresh a decision. -/
def refreshSchedulingDecision (old : SchedulingDecision digest) (call : RefreshCall) :
    Except Fault (SchedulingDecision digest) :=
  if later : old.queueGeneration < call.queueGeneration then do
    let updated := call.request.atQueueGeneration call.queueGeneration
      (old.in_range.1.trans later.le)
    let fresh ← scheduleRequest digest updated call.features call.admissionState
      call.selectedCandidateIds
    let content := refreshedContent old fresh.toDecisionContent
    let fingerprint := digest.hexdigest (identityPayload content)
    SchedulingDecision.construct digest content (makeDecisionId digest fingerprint) fingerprint
  else .error (.value "stale queue generation")

/-! ## What the scheduler accepts -/

/-- What the scheduler asks of an admission and a selection. -/
structure Acceptable (request : SchedulingRequest) (admissionState : AdmissionState)
    (selectedCandidateIds : List String) : Prop where
  /-- The admission is known. -/
  known : admissionState ≠ .unknown
  /-- No candidate is selected twice. -/
  distinct : selectedCandidateIds.Nodup
  /-- The candidates selected are those of the request. -/
  eligible : selectedCandidateIds ⊆ request.placementCandidateIds

theorem payload_scheduledContent (request : SchedulingRequest) (features : SchedulingFeatures)
    (admissionState : AdmissionState) (selectedCandidateIds : List String) :
    (scheduledContent request features admissionState selectedCandidateIds).payload =
      scheduledPayload request features admissionState selectedCandidateIds := rfl

/-- The two ways to assemble the payload of a decision agree. -/
theorem identityPayload_eq_payload (content : DecisionContent) :
    identityPayload content = content.payload := rfl

theorem scheduledContent_inRange (request : SchedulingRequest) (features : SchedulingFeatures)
    (admissionState : AdmissionState) (selectedCandidateIds : List String) :
    (scheduledContent request features admissionState selectedCandidateIds).InRange :=
  ⟨request.generations_pos.2 request.queueGeneration (by simp), le_rfl,
    request.floor_bounds.1, request.floor_bounds.2⟩

theorem scheduleRequest_eq_ok_iff {request : SchedulingRequest} {features : SchedulingFeatures}
    {admissionState : AdmissionState} {selectedCandidateIds : List String}
    {decision : SchedulingDecision digest} :
    scheduleRequest digest request features admissionState selectedCandidateIds = .ok decision ↔
      Acceptable request admissionState selectedCandidateIds ∧
      decision.toDecisionContent =
        scheduledContent request features admissionState (sortOn id selectedCandidateIds) := by
  have perm := sortOn_perm id selectedCandidateIds
  simp only [scheduleRequest, bind_eq_ok, require_eq_ok, exists_const,
    SchedulingDecision.construct_eq_ok_iff, payload_scheduledContent, and_true]
  constructor
  · rintro ⟨known, distinct, eligible, _, same⟩
    exact ⟨⟨known, perm.nodup_iff.mp distinct, fun candidateId member =>
      eligible candidateId ((mem_sortOn id).mpr member)⟩, same⟩
  · rintro ⟨acceptable, same⟩
    have distinct : (sortOn id selectedCandidateIds).Nodup := perm.nodup_iff.mpr acceptable.distinct
    exact ⟨acceptable.known, distinct, fun candidateId member =>
      acceptable.eligible ((mem_sortOn id).mp member),
      ⟨scheduledContent_inRange _ _ _ _, distinct⟩, same⟩

/-- What a refresh makes of its call. -/
def refreshContent (old : SchedulingDecision digest) (call : RefreshCall)
    (positive : 1 ≤ call.queueGeneration) : DecisionContent :=
  refreshedContent old (scheduledContent
    (call.request.atQueueGeneration call.queueGeneration positive) call.features
    call.admissionState (sortOn id call.selectedCandidateIds))

theorem refreshContent_inRange (old : SchedulingDecision digest) (call : RefreshCall)
    (positive : 1 ≤ call.queueGeneration) : (refreshContent old call positive).InRange := by
  have inRange := scheduledContent_inRange
    (call.request.atQueueGeneration call.queueGeneration positive) call.features
    call.admissionState (sortOn id call.selectedCandidateIds)
  have nextGeneration : 1 ≤ old.decisionGeneration + 1 := by
    have := old.in_range.2.1
    omega
  exact ⟨inRange.1, nextGeneration, inRange.2.2⟩

/-- A decision is refreshed exactly by an acceptable request at a later queue generation: its own
identity check never rejects the refreshed decision. -/
theorem refreshSchedulingDecision_eq_ok_iff {old next : SchedulingDecision digest}
    {call : RefreshCall} :
    refreshSchedulingDecision old call = .ok next ↔
      ∃ later : old.queueGeneration < call.queueGeneration,
        Acceptable call.request call.admissionState call.selectedCandidateIds ∧
        next.toDecisionContent = refreshContent old call (old.in_range.1.trans later.le) := by
  unfold refreshSchedulingDecision
  split
  next later =>
    simp only [bind_eq_ok, scheduleRequest_eq_ok_iff, SchedulingDecision.construct_eq_ok_iff,
      identityPayload_eq_payload, and_true, exists_prop_of_true later]
    have positive := old.in_range.1.trans later.le
    constructor
    · rintro ⟨fresh, ⟨acceptable, scheduled⟩, _, same⟩
      refine ⟨⟨acceptable.known, acceptable.distinct, acceptable.eligible⟩, ?_⟩
      rw [same, scheduled, refreshContent]
    · rintro ⟨acceptable, same⟩
      have distinct : (sortOn id call.selectedCandidateIds).Nodup :=
        (sortOn_perm id call.selectedCandidateIds).nodup_iff.mpr acceptable.distinct
      exact ⟨⟨_, _, _, scheduledContent_inRange _ _ _ _, distinct, rfl, rfl⟩,
        ⟨⟨acceptable.known, acceptable.distinct, acceptable.eligible⟩, rfl⟩,
        ⟨refreshContent_inRange old call positive, distinct⟩, same⟩
  next early => simp [early]

variable (digest) in
/-- What is not acceptable fails before any decision is made. -/
theorem scheduleRequest_of_not_acceptable {request : SchedulingRequest}
    (features : SchedulingFeatures) {admissionState : AdmissionState}
    {selectedCandidateIds : List String}
    (unacceptable : ¬ Acceptable request admissionState selectedCandidateIds) :
    ∃ message, scheduleRequest digest request features admissionState selectedCandidateIds =
      .error (.value message) := by
  have distinctIff := (sortOn_perm id selectedCandidateIds).nodup_iff
  rw [scheduleRequest]
  by_cases known : admissionState ≠ .unknown
  · rw [require_of_true known, ok_bind]
    by_cases distinct : (sortOn id selectedCandidateIds).Nodup
    · have ineligible : ¬ ∀ candidateId ∈ sortOn id selectedCandidateIds,
          candidateId ∈ request.placementCandidateIds := fun eligible =>
        unacceptable ⟨known, distinctIff.mp distinct, fun candidateId member =>
          eligible candidateId ((mem_sortOn id).mpr member)⟩
      simp only [require_of_true distinct, ok_bind, require_eq_error.mpr ⟨ineligible, rfl⟩,
        error_bind]
      exact ⟨_, rfl⟩
    · simp only [require_eq_error.mpr ⟨distinct, rfl⟩, error_bind]
      exact ⟨_, rfl⟩
  · rw [require_eq_error.mpr ⟨known, rfl⟩, error_bind]
    exact ⟨_, rfl⟩

theorem exists_refresh {old : SchedulingDecision digest} {call : RefreshCall}
    (later : old.queueGeneration < call.queueGeneration)
    (acceptable : Acceptable call.request call.admissionState call.selectedCandidateIds) :
    ∃ next, refreshSchedulingDecision old call = .ok next := by
  have positive := old.in_range.1.trans later.le
  have distinct : (sortOn id call.selectedCandidateIds).Nodup :=
    (sortOn_perm id call.selectedCandidateIds).nodup_iff.mpr acceptable.distinct
  let content := refreshContent old call positive
  exact ⟨⟨content, makeDecisionId digest (digest.hexdigest content.payload),
    digest.hexdigest content.payload, refreshContent_inRange old call positive, distinct, rfl,
    rfl⟩, refreshSchedulingDecision_eq_ok_iff.mpr ⟨later, acceptable, rfl⟩⟩

theorem refresh_ne_identityMismatch (old : SchedulingDecision digest) (call : RefreshCall) :
    refreshSchedulingDecision old call ≠ .error identityMismatch := by
  intro mismatch
  by_cases later : old.queueGeneration < call.queueGeneration
  · by_cases acceptable :
        Acceptable call.request call.admissionState call.selectedCandidateIds
    · obtain ⟨next, refreshed⟩ := exists_refresh later acceptable
      nomatch refreshed.symm.trans mismatch
    · have updated : ¬ Acceptable (call.request.atQueueGeneration call.queueGeneration
          (old.in_range.1.trans later.le)) call.admissionState call.selectedCandidateIds :=
        fun accepted => acceptable ⟨accepted.known, accepted.distinct, accepted.eligible⟩
      obtain ⟨message, failed⟩ := scheduleRequest_of_not_acceptable digest call.features updated
      rw [refreshSchedulingDecision, dif_pos later] at mismatch
      simp only [failed, error_bind] at mismatch
      nomatch mismatch
  · rw [refreshSchedulingDecision, dif_neg later] at mismatch
    nomatch mismatch

/-! ## Chains of decisions -/

variable (digest) in
/-- A decision that is refreshed again and again. -/
def refreshes : Machine (SchedulingDecision digest) RefreshCall Unit Fault :=
  .ofFunction refreshSchedulingDecision

/-- A later decision is for the workload of an earlier one, with no lower a quality floor. -/
structure Continues (old next : SchedulingDecision digest) : Prop where
  /-- The workload is the same. -/
  workload : next.workloadId = old.workloadId
  /-- The quality floor is no lower. -/
  floor : old.requiredQualityFloor ≤ next.requiredQualityFloor
  /-- The queue generation is later. -/
  queue : old.queueGeneration < next.queueGeneration
  /-- The decision generation is later. -/
  generation : old.decisionGeneration < next.decisionGeneration

instance : IsTrans (SchedulingDecision digest) Continues where
  trans _ _ _ first second := ⟨second.workload.trans first.workload,
    first.floor.trans second.floor, first.queue.trans second.queue,
    first.generation.trans second.generation⟩

/-- What holds along a chain of decisions. -/
structure ChainLaw (first : SchedulingDecision digest) (calls : List RefreshCall) : Prop where
  /-- Of any two decisions, the later one continues the earlier one. -/
  continues : ((refreshes digest).visited first calls).Pairwise Continues
  /-- Each decision names the one that it replaces. -/
  replaces : ((refreshes digest).visited first calls).IsChain fun old next =>
    next.previousDecisionId = some old.decisionId
  /-- The candidates selected are eligible for the request used. -/
  eligible : (refreshes digest).AllSteps (fun old call => ∀ next,
    refreshSchedulingDecision old call = .ok next →
      next.selectedCandidateIds ⊆ call.request.placementCandidateIds) first calls
  /-- No refreshed decision fails its own identity check. -/
  identified : (refreshes digest).AllSteps (fun old call =>
    refreshSchedulingDecision old call ≠ .error identityMismatch) first calls

/-- A request that a decision can be refreshed with is for the workload of the decision, with no
lower a quality floor. -/
def SameWorkload (old : SchedulingDecision digest) (call : RefreshCall) : Prop :=
  old.queueGeneration < call.queueGeneration →
    Acceptable call.request call.admissionState call.selectedCandidateIds →
    call.request.workloadId = old.workloadId ∧
      old.requiredQualityFloor ≤ call.request.requiredQualityFloor

theorem refreshed_fields {old next : SchedulingDecision digest} {call : RefreshCall}
    (refreshed : refreshSchedulingDecision old call = .ok next) :
    next.workloadId = call.request.workloadId ∧
      next.requiredQualityFloor = call.request.requiredQualityFloor ∧
      next.queueGeneration = call.queueGeneration ∧
      next.decisionGeneration = old.decisionGeneration + 1 ∧
      next.previousDecisionId = some old.decisionId ∧
      next.selectedCandidateIds = sortOn id call.selectedCandidateIds := by
  obtain ⟨later, _, same⟩ := refreshSchedulingDecision_eq_ok_iff.mp refreshed
  rw [same]
  exact ⟨rfl, rfl, rfl, rfl, rfl, rfl⟩

theorem continues_iff_sameWorkload {old : SchedulingDecision digest} {call : RefreshCall} :
    (∀ answer next, (refreshes digest).step old call = (.ok answer, next) → Continues old next) ↔
      SameWorkload old call := by
  constructor
  · intro continues later acceptable
    obtain ⟨next, refreshed⟩ := exists_refresh later acceptable
    obtain ⟨workload, floor, _⟩ := refreshed_fields refreshed
    have kept := continues () next (Machine.ofFunction_step_ok.mpr refreshed)
    exact ⟨workload ▸ kept.workload, floor ▸ kept.floor⟩
  · intro same answer next step
    have refreshed := Machine.ofFunction_step_ok.mp step
    obtain ⟨later, acceptable, _⟩ := refreshSchedulingDecision_eq_ok_iff.mp refreshed
    obtain ⟨workload, floor, queue, generation, _⟩ := refreshed_fields refreshed
    obtain ⟨sameWorkload, noLower⟩ := same later acceptable
    exact ⟨workload.trans sameWorkload, floor ▸ noLower, queue ▸ later, by omega⟩

/-- A chain of decisions that starts with a scheduled request keeps to its law exactly when every
request that a decision is refreshed with is for the workload of that decision, with no lower a
quality floor. -/
theorem chainLaw_iff {request : SchedulingRequest} {features : SchedulingFeatures}
    {admissionState : AdmissionState} {selectedCandidateIds : List String}
    {first : SchedulingDecision digest} (scheduled : scheduleRequest digest request features
      admissionState selectedCandidateIds = .ok first) (calls : List RefreshCall) :
    (first.selectedCandidateIds ⊆ request.placementCandidateIds ∧ ChainLaw first calls) ↔
      (refreshes digest).AllSteps SameWorkload first calls := by
  obtain ⟨acceptable, content⟩ := scheduleRequest_eq_ok_iff.mp scheduled
  have continues : ((refreshes digest).visited first calls).Pairwise Continues ↔
      (refreshes digest).AllSteps SameWorkload first calls := by
    simp only [Machine.pairwise_visited_iff, Machine.allSteps_iff, continues_iff_sameWorkload]
  constructor
  · rintro ⟨_, law⟩
    exact continues.mp law.continues
  · intro same
    refine ⟨?_, continues.mpr same, ?_, ?_, ?_⟩
    · rw [content]
      exact fun candidateId member => acceptable.eligible ((mem_sortOn id).mp member)
    · refine Machine.isChain_visited_iff.mpr (Machine.allSteps_of_forall ?_ first calls)
      intro old call answer next step
      exact (refreshed_fields (Machine.ofFunction_step_ok.mp step)).2.2.2.2.1
    · refine Machine.allSteps_of_forall (fun old call next refreshed => ?_) first calls
      obtain ⟨_, accepted, _⟩ := refreshSchedulingDecision_eq_ok_iff.mp refreshed
      rw [(refreshed_fields refreshed).2.2.2.2.2]
      exact fun candidateId member => accepted.eligible ((mem_sortOn id).mp member)
    · exact Machine.allSteps_of_forall refresh_ne_identityMismatch first calls

/-! ## A refresh for another workload -/

/-- A request of a workload. -/
def waiting (workloadId : String) (visible : Text.Nonblank workloadId) : SchedulingRequest where
  workloadId := workloadId
  segmentId := "segment"
  placementCandidateIds := ["candidate"]
  reasoningBudgetId := "budget"
  requirementInterfaceId := "interface"
  arrivalGeneration := 0
  queueGeneration := 1
  tenantId := "tenant"
  workloadClass := "interactive"
  requiredQualityFloor := 9 / 10
  requiredResourceUnits := 1
  reasoningBudgetGeneration := 1
  placementGeneration := 1
  provenanceIds := ["source"]
  texts_nonblank := List.forall_mem_cons.mpr ⟨visible, by decide⟩
  candidates_canonical := rfl
  provenance_canonical := by decide
  generations_pos := by decide
  amounts_pos := by norm_num
  floor_bounds := by norm_num

/-- Features without any pressure. -/
def calm : SchedulingFeatures where
  deadlinePressure := 0
  qualityRisk := 0
  verificationPressure := 0
  uncertainty := 0
  budgetPressure := 0
  placementConfidence := 1
  logicalAge := 0
  fairnessWeight := 1
  resourcePressure := 0
  localityScore := 1
  fragmentationCost := 0
  shares := by simp
  logicalAge_nonneg := le_rfl
  fairnessWeight_pos := one_pos

example :
    priorityScore { calm with logicalAge := 7, logicalAge_nonneg := by decide } = 7 / 100 := by
  decide +kernel

/-- A refresh with a request of a workload. -/
def refreshWith (workloadId : String) (visible : Text.Nonblank workloadId) : RefreshCall where
  request := waiting workloadId visible
  features := calm
  admissionState := .admitted
  selectedCandidateIds := []
  queueGeneration := 2

theorem acceptable_nothing (request : SchedulingRequest) : Acceptable request .admitted [] :=
  ⟨by simp, List.nodup_nil, List.nil_subset _⟩

/-- The first decision on the request of a workload. -/
def firstDecision : SchedulingDecision Digest.sha256 :=
  let content := scheduledContent (waiting "first" (by decide)) calm .admitted []
  ⟨content, makeDecisionId Digest.sha256 (Digest.sha256.hexdigest content.payload),
    Digest.sha256.hexdigest content.payload, scheduledContent_inRange _ _ _ _, List.nodup_nil, rfl,
    rfl⟩

theorem scheduled_firstDecision :
    scheduleRequest Digest.sha256 (waiting "first" (by decide)) calm .admitted [] =
      .ok firstDecision :=
  scheduleRequest_eq_ok_iff.mpr ⟨acceptable_nothing _, rfl⟩

theorem chainLaw_same_workload :
    firstDecision.selectedCandidateIds ⊆ (waiting "first" (by decide)).placementCandidateIds ∧
      ChainLaw firstDecision [refreshWith "first" (by decide)] :=
  (chainLaw_iff scheduled_firstDecision _).mpr ⟨fun _ _ => ⟨rfl, le_rfl⟩, trivial⟩

/-- A decision is refreshed with a request of another workload. -/
theorem refresh_changes_workload :
    ¬ ∀ (request : SchedulingRequest) (features : SchedulingFeatures)
        (admissionState : AdmissionState) (selectedCandidateIds : List String)
        (first : SchedulingDecision Digest.sha256),
      scheduleRequest Digest.sha256 request features admissionState selectedCandidateIds =
        .ok first → ∀ calls, ChainLaw first calls := by
  intro lawful
  have law := lawful _ _ _ _ _ scheduled_firstDecision [refreshWith "second" (by decide)]
  have continues := (Machine.pairwise_visited_iff.mp law.continues).1
  obtain ⟨same, _⟩ := continues_iff_sameWorkload.mp continues (by decide) (acceptable_nothing _)
  exact absurd (same : "second" = "first") (by decide)

end QualityScheduler
end MercuryX
