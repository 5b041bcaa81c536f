import MercuryX.DisaggregatedExecution.Graph
import MercuryX.Foundation.Registry

/-!
# Admission of execution plans

Which segments and handoffs make a plan, and which plan they make. The plan id that a segment
carries is not compared with the plan, so a segment may name another plan; that of a handoff is.
-/

namespace MercuryX
namespace DisaggregatedExecution

open Foundation GlobalMemory

/-! ## The dependency graph -/

section Dependencies

variable {segments others : List ExecutionSegment}

theorem linked_dependencies_iff {dependency id : String} :
    Linked (dependencies segments) dependency id ↔
      ∃ segment ∈ segments, segment.segmentId = id ∧
        dependency ∈ segment.dependencySegmentIds := by
  simp only [Linked, dependencies, List.mem_flatMap, List.mem_map, Prod.mk.injEq]
  constructor
  · rintro ⟨segment, member, _, depends, rfl, rfl⟩
    exact ⟨segment, member, rfl, depends⟩
  · rintro ⟨segment, member, rfl, depends⟩
    exact ⟨segment, member, dependency, depends, rfl, rfl⟩

theorem mem_dependenciesOf_iff (unique : (segmentIds segments).Nodup) {dependency id : String} :
    dependency ∈ dependenciesOf segments id ↔ Linked (dependencies segments) dependency id := by
  rw [linked_dependencies_iff, dependenciesOf]
  constructor
  · intro depends
    cases held : (Dict.indexed ExecutionSegment.segmentId segments).get? id with
    | none =>
        rw [held] at depends
        exact absurd depends List.not_mem_nil
    | some segment =>
        rw [held] at depends
        obtain ⟨member, named⟩ := Dict.mem_of_indexed_get? held
        exact ⟨segment, member, named, depends⟩
  · rintro ⟨segment, member, named, depends⟩
    rwa [(Dict.indexed_get?_eq_some_iff unique).mpr ⟨member, named⟩]

theorem exists_segment {id : String} (member : id ∈ segmentIds segments) :
    ∃ segment ∈ segments, segment.segmentId = id := List.mem_map.mp member

/-- The search for cycles passes exactly the acyclic graphs. -/
theorem cycleFree_eq_ok_iff (unique : (segmentIds segments).Nodup)
    (declared : ∀ segment ∈ segments, ∀ dependency ∈ segment.dependencySegmentIds,
      dependency ∈ segmentIds segments) {done : Unit} :
    cycleFree segments = .ok done ↔ Acyclic (dependencies segments) := by
  have linked (source target : String) : target ∈ dependenciesOf segments source ↔
      Linked (dependencies segments) target source := mem_dependenciesOf_iff unique
  have inside : ∀ id ∈ segmentIds segments, dependenciesOf segments id ⊆ segmentIds segments := by
    intro id _ dependency depends
    obtain ⟨segment, member, _, listed⟩ :=
      linked_dependencies_iff.mp ((linked id dependency).mp depends)
    exact declared segment member dependency listed
  have outside : ∀ id ∉ segmentIds segments, dependenciesOf segments id = [] := by
    intro id undeclared
    refine List.eq_nil_iff_forall_not_mem.mpr fun dependency depends => undeclared ?_
    obtain ⟨segment, member, rfl, _⟩ :=
      linked_dependencies_iff.mp ((linked id dependency).mp depends)
    exact List.mem_map_of_mem member
  have enough : (segmentIds segments).length < segments.length + 1 := by simp [segmentIds]
  rw [cycleFree, require_eq_ok,
    DepthFirst.isSome_visitAll_iff inside outside (fun id => mem_canonical _) enough]
  simp only [linked]
  rfl

variable (perm : segments.Perm others)
include perm

theorem segmentIds_perm : (segmentIds segments).Perm (segmentIds others) := perm.map _

theorem acyclic_dependencies_perm :
    Acyclic (dependencies segments) ↔ Acyclic (dependencies others) := by
  refine acyclic_congr fun dependency id => ?_
  simp only [linked_dependencies_iff, perm.mem_iff]

theorem entrySegmentIds_perm : entrySegmentIds segments = entrySegmentIds others :=
  sortOn_eq_of_perm (fun _ _ _ _ same => same) ((perm.filter _).map _)

theorem terminalSegmentIds_perm : terminalSegmentIds segments = terminalSegmentIds others := by
  refine sortOn_eq_of_perm (fun _ _ _ _ same => same) ?_
  have consumers (id : String) : id ∈ segments.flatMap ExecutionSegment.dependencySegmentIds ↔
      id ∈ others.flatMap ExecutionSegment.dependencySegmentIds := by
    simp only [List.mem_flatMap, perm.mem_iff]
  simp only [consumers]
  exact (perm.filter _).map _

end Dependencies

section Ends

variable {segments : List ExecutionSegment} {id : String}

theorem mem_entrySegmentIds_iff : id ∈ entrySegmentIds segments ↔
    ∃ segment ∈ segments, segment.segmentId = id ∧ segment.dependencySegmentIds = [] := by
  simp only [entrySegmentIds, mem_sortOn, List.mem_map, List.mem_filter, decide_eq_true_eq,
    and_assoc, and_comm (a := _ = [])]

theorem mem_terminalSegmentIds_iff : id ∈ terminalSegmentIds segments ↔
    ∃ segment ∈ segments, segment.segmentId = id ∧
      ∀ other ∈ segments, id ∉ other.dependencySegmentIds := by
  simp only [terminalSegmentIds, mem_sortOn, List.mem_map, List.mem_filter, decide_eq_true_eq,
    List.mem_flatMap, not_exists, not_and]
  constructor
  · rintro ⟨segment, ⟨member, free⟩, rfl⟩
    exact ⟨segment, member, rfl, free⟩
  · rintro ⟨segment, member, rfl, free⟩
    exact ⟨segment, ⟨member, free⟩, rfl⟩

theorem segmentIds_toFinset_nonempty (given : segments ≠ []) :
    (segmentIds segments).toFinset.Nonempty := by
  obtain ⟨segment, member⟩ := List.exists_mem_of_ne_nil _ given
  exact ⟨segment.segmentId, List.mem_toFinset.mpr (List.mem_map_of_mem member)⟩

variable (acyclic : Acyclic (dependencies segments)) (given : segments ≠ [])
include acyclic given

/-- A plan without a cycle has an entry. -/
theorem entrySegmentIds_ne_nil (declared : ∀ segment ∈ segments,
    ∀ dependency ∈ segment.dependencySegmentIds, dependency ∈ segmentIds segments) :
    entrySegmentIds segments ≠ [] := by
  obtain ⟨first, inside, least⟩ :=
    acyclic.exists_source (segmentIds_toFinset_nonempty given)
  obtain ⟨segment, member, rfl⟩ := exists_segment (List.mem_toFinset.mp inside)
  refine List.ne_nil_of_mem (mem_entrySegmentIds_iff.mpr ⟨segment, member, rfl, ?_⟩)
  refine List.eq_nil_iff_forall_not_mem.mpr fun dependency depends => ?_
  exact least dependency (List.mem_toFinset.mpr (declared segment member dependency depends))
    (linked_dependencies_iff.mpr ⟨segment, member, rfl, depends⟩)

/-- A plan without a cycle has a terminal. -/
theorem terminalSegmentIds_ne_nil : terminalSegmentIds segments ≠ [] := by
  obtain ⟨last, inside, least⟩ := acyclic.exists_sink (segmentIds_toFinset_nonempty given)
  obtain ⟨segment, member, rfl⟩ := exists_segment (List.mem_toFinset.mp inside)
  refine List.ne_nil_of_mem (mem_terminalSegmentIds_iff.mpr ⟨segment, member, rfl, ?_⟩)
  intro other otherMember depends
  exact least other.segmentId (List.mem_toFinset.mpr (List.mem_map_of_mem otherMember))
    (linked_dependencies_iff.mpr ⟨other, otherMember, rfl, depends⟩)

end Ends

/-! ## Admission -/

/-- The segments and handoffs make a plan. -/
structure Admissible (digest : Digest) (request : PlanRequest) (segments : List ExecutionSegment)
    (handoffs : List ExecutionHandoff) : Prop where
  /-- There are segments, and not too many. -/
  bounded : segments ≠ [] ∧ segments.length ≤ maxSegmentsPerExecutionPlan
  /-- Each segment has its own id. -/
  unique : (segmentIds segments).Nodup
  /-- The segments are of the namespace of the plan. -/
  segmentSpaces : ∀ segment ∈ segments, segment.space = request.space
  /-- Dependencies are declared. -/
  declared : ∀ segment ∈ segments, ∀ dependency ∈ segment.dependencySegmentIds,
    dependency ∈ segmentIds segments
  /-- Dependencies close no cycle. -/
  acyclic : Acyclic (dependencies segments)
  /-- Handoffs name the plan. -/
  handoffPlans : ∀ handoff ∈ handoffs, handoff.executionPlanId = request.executionPlanId digest
  /-- Handoffs are of the namespace of the plan. -/
  handoffSpaces : ∀ handoff ∈ handoffs, handoff.space = request.space
  /-- Handoffs are between declared segments. -/
  endpoints : ∀ handoff ∈ handoffs, handoff.producerSegmentId ∈ segmentIds segments ∧
    handoff.consumerSegmentId ∈ segmentIds segments
  /-- The plan is identified. -/
  named : ∀ field ∈ request.texts, Text.Nonblank field.2
  /-- Sequence numbers start at one. -/
  sequenced : 1 ≤ request.creationSequence

section Admission

variable {digest : Digest} {request : PlanRequest} {segments others : List ExecutionSegment}
  {handoffs otherHandoffs : List ExecutionHandoff}

theorem checkSegment_eq_ok_iff {ids : List String} {segment : ExecutionSegment} {done : Unit} :
    checkSegment request ids segment = .ok done ↔
      segment.space = request.space ∧ ∀ dependency ∈ segment.dependencySegmentIds,
        dependency ∈ ids := by
  simp [checkSegment]

theorem checkHandoff_eq_ok_iff {executionPlanId : String} {ids : List String}
    {handoff : ExecutionHandoff} {done : Unit} :
    checkHandoff request executionPlanId ids handoff = .ok done ↔
      handoff.executionPlanId = executionPlanId ∧
        (handoff.producerSegmentId ∈ ids ∧ handoff.consumerSegmentId ∈ ids) ∧
        handoff.space = request.space := by
  simp [checkHandoff]

theorem makeExecutionPlanId_eq_ok_iff {executionPlanId : String} :
    makeExecutionPlanId digest request = .ok executionPlanId ↔
      (∀ field ∈ request.texts, Text.Nonblank field.2) ∧
        request.executionPlanId digest = executionPlanId := by
  simp [makeExecutionPlanId]

/-- A sorted list of distinct ids of segments passes the check of a list of ids. -/
theorem segmentIds_canonical (part : ExecutionSegment → Bool)
    (unique : (segmentIds segments).Nodup) :
    let ids := sortOn id ((segments.filter part).map ExecutionSegment.segmentId)
    (∀ id ∈ ids, Text.Nonblank id) ∧ ids.Nodup ∧ sortOn id ids = ids := by
  refine ⟨?_, ?_, sortOn_eq_self _ (sortOn_pairwise _ _)⟩
  · intro id member
    rw [mem_sortOn, List.mem_map] at member
    obtain ⟨segment, _, rfl⟩ := member
    exact segment.texts_nonblank _ (by simp)
  · rw [(sortOn_perm _ _).nodup_iff]
    exact (List.filter_sublist.map _).nodup unique

/-- A plan put together from distinct segments under a nonblank name is valid exactly when its
sequence number is. -/
theorem validate_assembled_eq_ok_iff (unique : (segmentIds segments).Nodup)
    (named : ∀ field ∈ request.texts, Text.Nonblank field.2) {done : Unit} :
    (assembled digest request segments handoffs).validate = .ok done ↔
      1 ≤ request.creationSequence := by
  have entries := segmentIds_canonical (fun segment => segment.dependencySegmentIds = []) unique
  have terminals := segmentIds_canonical (fun segment => segment.segmentId ∉
    segments.flatMap ExecutionSegment.dependencySegmentIds) unique
  have planId : Text.Nonblank (request.executionPlanId digest) := digest.nonblank _
  have fingerprint (payload : Json) : Text.Nonblank (digest.hexdigest payload) := digest.nonblank _
  simp only [PlanRequest.texts, List.forall_mem_cons] at named
  obtain ⟨namespaceId, graphId, version, _⟩ := named
  simp only [DisaggregatedExecutionPlan.validate, bind_eq_ok, forEach_eq_ok, rule_eq_ok,
    fieldGe_eq_ok, List.forall_mem_cons, List.not_mem_nil, false_imp_iff, implies_true, and_true,
    exists_and_left, exists_const]
  exact ⟨fun valid => valid.2.2.1, fun sequenced =>
    ⟨⟨planId, namespaceId, graphId⟩, ⟨entries, terminals⟩, sequenced, version, fingerprint _⟩⟩

theorem build_eq_ok_iff {plan : DisaggregatedExecutionPlan} :
    buildDisaggregatedExecutionPlan digest request segments handoffs = .ok plan ↔
      Admissible digest request segments handoffs ∧
        assembled digest request segments handoffs = plan := by
  simp only [buildDisaggregatedExecutionPlan, bind_eq_ok, require_eq_ok, forEach_eq_ok,
    checkSegment_eq_ok_iff, checkHandoff_eq_ok_iff, makeExecutionPlanId_eq_ok_iff, pure_eq_ok,
    Except.ok.injEq, exists_and_left, exists_const]
  constructor
  · rintro ⟨given, few, unique, checked, _, noCycle, _, _, ⟨named, rfl⟩, endpoints, _, valid, built⟩
    have declared := fun segment member => (checked segment member).2
    refine ⟨⟨⟨given, few⟩, unique, fun segment member => (checked segment member).1, declared,
      (cycleFree_eq_ok_iff unique declared).mp noCycle, ?_, ?_, ?_, named, ?_⟩, built⟩
    · exact fun handoff member => (endpoints handoff member).1
    · exact fun handoff member => (endpoints handoff member).2.2
    · exact fun handoff member => (endpoints handoff member).2.1
    · exact (validate_assembled_eq_ok_iff unique named).mp valid
  · rintro ⟨admissible, built⟩
    obtain ⟨⟨given, few⟩, unique, spaces, declared, acyclic, plans, handoffSpaces, endpoints, named,
      sequenced⟩ := admissible
    refine ⟨given, few, unique, fun segment member => ⟨spaces segment member, declared segment
      member⟩, (), (cycleFree_eq_ok_iff unique declared).mpr acyclic,
      ⟨entrySegmentIds_ne_nil acyclic given declared, terminalSegmentIds_ne_nil acyclic given⟩,
      _, ⟨named, rfl⟩, ?_, (), (validate_assembled_eq_ok_iff unique named).mpr sequenced, built⟩
    exact fun handoff member =>
      ⟨plans handoff member, endpoints handoff member, handoffSpaces handoff member⟩

/-- Admission does not depend on the order of the parts. -/
theorem Admissible.perm (admissible : Admissible digest request segments handoffs)
    (perm : segments.Perm others) (handoffPerm : handoffs.Perm otherHandoffs) :
    Admissible digest request others otherHandoffs := by
  have ids (id : String) : id ∈ segmentIds others ↔ id ∈ segmentIds segments :=
    (segmentIds_perm perm).symm.mem_iff
  obtain ⟨⟨given, few⟩, unique, spaces, declared, acyclic, plans, handoffSpaces, endpoints, named,
    sequenced⟩ := admissible
  refine ⟨⟨?_, perm.length_eq ▸ few⟩, (segmentIds_perm perm).nodup_iff.mp unique, ?_, ?_,
    (acyclic_dependencies_perm perm).mp acyclic, ?_, ?_, ?_, named, sequenced⟩
  · rintro rfl
    exact given perm.eq_nil
  · simpa only [perm.mem_iff] using spaces
  · simpa only [perm.mem_iff, ids] using declared
  · simpa only [handoffPerm.mem_iff] using plans
  · simpa only [handoffPerm.mem_iff] using handoffSpaces
  · simpa only [handoffPerm.mem_iff, ids] using endpoints

/-- The plan of parts of distinct ids does not depend on their order. -/
theorem assembled_perm (unique : (segmentIds segments).Nodup)
    (distinct : (handoffs.map ExecutionHandoff.handoffId).Nodup) (perm : segments.Perm others)
    (handoffPerm : handoffs.Perm otherHandoffs) :
    assembled digest request others otherHandoffs = assembled digest request segments handoffs := by
  have segmentsApart : Separates ExecutionSegment.key segments := by
    intro left leftMember right rightMember same
    exact Registry.eq_of_identity_eq unique leftMember rightMember (congrArg (fun key =>
      (ofLex key).2) same)
  have handoffsApart : Separates ExecutionHandoff.key handoffs := by
    intro left leftMember right rightMember same
    exact Registry.eq_of_identity_eq distinct leftMember rightMember (congrArg (fun key =>
      (ofLex key).2) same)
  simp only [assembled, sortOn_eq_of_perm segmentsApart perm,
    sortOn_eq_of_perm handoffsApart handoffPerm, entrySegmentIds_perm perm,
    terminalSegmentIds_perm perm]

end Admission

/-! ## The law of admission -/

/-- Which parts are admitted and what becomes of them. -/
structure AdmissionLaw (digest : Digest) (request : PlanRequest) (segments : List ExecutionSegment)
    (handoffs : List ExecutionHandoff) : Prop where
  /-- A plan is built exactly from what is admissible. -/
  admitted : (∃ plan, buildDisaggregatedExecutionPlan digest request segments handoffs = .ok plan) ↔
    Admissible digest request segments handoffs
  /-- The plan holds the given parts. -/
  parts : ∀ plan, buildDisaggregatedExecutionPlan digest request segments handoffs = .ok plan →
    plan.segments.Perm segments ∧ plan.handoffs.Perm handoffs
  /-- The entries are the segments that depend on nothing. -/
  entries : ∀ plan, buildDisaggregatedExecutionPlan digest request segments handoffs = .ok plan →
    ∀ id, id ∈ plan.entrySegmentIds ↔
      ∃ segment ∈ segments, segment.segmentId = id ∧ segment.dependencySegmentIds = []
  /-- The terminals are the segments that nothing depends on. -/
  terminals : ∀ plan, buildDisaggregatedExecutionPlan digest request segments handoffs = .ok plan →
    ∀ id, id ∈ plan.terminalSegmentIds ↔
      ∃ segment ∈ segments, segment.segmentId = id ∧
        ∀ other ∈ segments, id ∉ other.dependencySegmentIds
  /-- The same parts in another order give the same plan. -/
  permuted : ∀ others otherHandoffs, segments.Perm others → handoffs.Perm otherHandoffs → ∀ plan,
    buildDisaggregatedExecutionPlan digest request others otherHandoffs = .ok plan ↔
      buildDisaggregatedExecutionPlan digest request segments handoffs = .ok plan

/-- Handoffs of distinct ids and any segments obey the law of admission. -/
theorem admissionLaw {digest : Digest} {request : PlanRequest} {segments : List ExecutionSegment}
    {handoffs : List ExecutionHandoff}
    (distinct : (handoffs.map ExecutionHandoff.handoffId).Nodup) :
    AdmissionLaw digest request segments handoffs where
  admitted := by
    simp only [build_eq_ok_iff, exists_and_left, exists_eq', and_true]
  parts := by
    intro plan built
    obtain ⟨_, rfl⟩ := build_eq_ok_iff.mp built
    exact ⟨sortOn_perm _ _, sortOn_perm _ _⟩
  entries := by
    intro plan built id
    obtain ⟨_, rfl⟩ := build_eq_ok_iff.mp built
    exact mem_entrySegmentIds_iff
  terminals := by
    intro plan built id
    obtain ⟨_, rfl⟩ := build_eq_ok_iff.mp built
    exact mem_terminalSegmentIds_iff
  permuted := by
    intro others otherHandoffs perm handoffPerm plan
    rw [build_eq_ok_iff, build_eq_ok_iff]
    constructor
    · rintro ⟨admissible, rfl⟩
      have original := admissible.perm perm.symm handoffPerm.symm
      exact ⟨original, (assembled_perm original.unique distinct perm handoffPerm).symm⟩
    · rintro ⟨admissible, rfl⟩
      exact ⟨admissible.perm perm handoffPerm,
        assembled_perm admissible.unique distinct perm handoffPerm⟩

/-! ## Sample plans -/

/-- A plan for a project. -/
def sampleRequest : PlanRequest where
  namespaceType := .project
  namespaceId := "p"
  sourceExecutionGraphId := "g"

/-- A segment that names another plan. -/
def sampleSegment : ExecutionSegment where
  segmentId := "a"
  executionPlanId := "plan-1"
  namespaceType := .project
  namespaceId := "p"
  segmentType := .prefill
  outputContractId := "o"
  handoffPolicyId := "h"
  retryPolicyId := "r"
  verificationPolicyId := "v"
  creationSequence := 1
  texts_nonblank := by decide
  requirements_nonblank := by decide
  references_canonical := by decide
  creationSequence_pos := by decide
  independent := by decide

/-! ## Two segments of one plan -/

section Pair

variable (digest : Digest)

theorem texts_of_plan (front back : List String)
    (visible : ∀ text ∈ front ++ back, Text.Nonblank text) :
    ∀ text ∈ front ++ sampleRequest.executionPlanId digest :: back, Text.Nonblank text := by
  intro text member
  rcases List.mem_append.mp member with before | here
  · exact visible text (List.mem_append_left _ before)
  · rcases List.mem_cons.mp here with rfl | after
    · exact digest.nonblank _
    · exact visible text (List.mem_append_right _ after)

theorem prefill_references : ∀ reference ∈ [(([] : List String), maxExecutionArtifactsPerSegment),
    ([], maxDependenciesPerSegment), ([], maxHandoffsPerSegment), (["k"], maxHandoffsPerSegment)],
    CanonicalTexts reference.1 ∧ reference.1.length ≤ reference.2 := by
  decide

/-- The first of two segments, which hands its result over. -/
def prefillSegment : ExecutionSegment :=
  { sampleSegment with
    executionPlanId := sampleRequest.executionPlanId digest
    producedHandoffIds := ["k"]
    texts_nonblank := texts_of_plan digest ["a"] ["p", "o", "h", "r", "v"] (by decide)
    references_canonical := prefill_references }

theorem decode_references : ∀ reference ∈ [(([] : List String), maxExecutionArtifactsPerSegment),
    (["a"], maxDependenciesPerSegment), (["k"], maxHandoffsPerSegment),
    ([], maxHandoffsPerSegment)],
    CanonicalTexts reference.1 ∧ reference.1.length ≤ reference.2 := by
  decide

/-- The second, which depends on the first and requires what it hands over. -/
def decodeSegment : ExecutionSegment :=
  { sampleSegment with
    segmentId := "b"
    executionPlanId := sampleRequest.executionPlanId digest
    segmentType := .decode
    dependencySegmentIds := ["a"]
    requiredHandoffIds := ["k"]
    texts_nonblank := texts_of_plan digest ["b"] ["p", "o", "h", "r", "v"] (by decide)
    references_canonical := decode_references
    independent := by decide }

/-- The handoff from the first segment to the second. -/
def sampleHandoff : ExecutionHandoff where
  handoffId := "k"
  executionPlanId := sampleRequest.executionPlanId digest
  namespaceType := .project
  namespaceId := "p"
  producerSegmentId := "a"
  consumerSegmentId := "b"
  handoffKind := .artifact
  authorizationScope := "s"
  compatibilityContractId := "c"
  verificationContractId := "v"
  creationSequence := 1
  texts_nonblank := texts_of_plan digest ["k"] ["p", "a", "b", "s", "c", "v"] (by decide)
  optional_nonblank := by decide
  creationSequence_pos := by decide
  endpoints_differ := by decide
  invalidation := by decide

theorem pair_admissible : Admissible digest sampleRequest
    [decodeSegment digest, prefillSegment digest] [sampleHandoff digest] where
  bounded := ⟨List.cons_ne_nil _ _, show 2 ≤ maxSegmentsPerExecutionPlan by decide⟩
  unique := show (["b", "a"] : List String).Nodup by decide
  segmentSpaces := by simp [decodeSegment, prefillSegment, sampleSegment, ExecutionSegment.space,
    PlanRequest.space, sampleRequest]
  declared := by simp [decodeSegment, prefillSegment, sampleSegment, segmentIds]
  acyclic := by
    refine acyclic_of_rank (fun id => if id = "b" then 1 else 0) fun source target linked => ?_
    have arrow : (source, target) ∈ [("a", "b")] := linked
    obtain ⟨rfl, rfl⟩ := Prod.mk.inj (List.mem_singleton.mp arrow)
    decide
  handoffPlans := by simp [sampleHandoff]
  handoffSpaces := by simp [sampleHandoff, ExecutionHandoff.space, PlanRequest.space,
    sampleRequest]
  endpoints := by simp [sampleHandoff, decodeSegment, prefillSegment, sampleSegment, segmentIds]
  named := by decide
  sequenced := by decide

end Pair

/-- The law of admission for a plan of two segments and the handoff between them, which is built. -/
theorem admissionLaw_sample :
    AdmissionLaw Digest.sha256 sampleRequest [decodeSegment .sha256, prefillSegment .sha256]
      [sampleHandoff .sha256] ∧
    ∃ plan, buildDisaggregatedExecutionPlan .sha256 sampleRequest
      [decodeSegment .sha256, prefillSegment .sha256] [sampleHandoff .sha256] = .ok plan := by
  have distinct : ([sampleHandoff .sha256].map ExecutionHandoff.handoffId).Nodup :=
    List.nodup_singleton _
  have law : AdmissionLaw Digest.sha256 sampleRequest
      [decodeSegment .sha256, prefillSegment .sha256] [sampleHandoff .sha256] :=
    admissionLaw distinct
  exact ⟨law, law.admitted.mpr (pair_admissible .sha256)⟩

/-! ## A segment of another plan -/

theorem sample_admissible {digest : Digest} :
    Admissible digest sampleRequest [sampleSegment] [] where
  bounded := by decide
  unique := by decide
  segmentSpaces := by decide
  declared := by decide
  acyclic := acyclic_of_rank (fun _ => 0) fun source target linked =>
    absurd linked List.not_mem_nil
  handoffPlans := by simp
  handoffSpaces := by simp
  endpoints := by simp
  named := by decide
  sequenced := by decide

/-- The ids are distinct, the dependencies declared and without cycles, and all parts are of the
plan and its namespace. -/
structure Wellformed (digest : Digest) (request : PlanRequest) (segments : List ExecutionSegment)
    (handoffs : List ExecutionHandoff) : Prop where
  /-- Each segment has its own id. -/
  unique : (segmentIds segments).Nodup
  /-- Dependencies are declared. -/
  declared : ∀ segment ∈ segments, ∀ dependency ∈ segment.dependencySegmentIds,
    dependency ∈ segmentIds segments
  /-- Dependencies close no cycle. -/
  acyclic : Acyclic (dependencies segments)
  /-- Each handoff has its own id. -/
  distinct : (handoffs.map ExecutionHandoff.handoffId).Nodup
  /-- Segments are of the plan. -/
  ownSegments : ∀ segment ∈ segments, segment.space = request.space ∧
    segment.executionPlanId = request.executionPlanId digest
  /-- Handoffs are of the plan, between declared segments. -/
  ownHandoffs : ∀ handoff ∈ handoffs, handoff.space = request.space ∧
    handoff.executionPlanId = request.executionPlanId digest ∧
    handoff.producerSegmentId ∈ segmentIds segments ∧
    handoff.consumerSegmentId ∈ segmentIds segments

/-- A plan is built exactly from well-formed parts. -/
def AdmitsWellformed (digest : Digest) : Prop :=
  ∀ request segments handoffs,
    (∃ plan, buildDisaggregatedExecutionPlan digest request segments handoffs = .ok plan) ↔
      Wellformed digest request segments handoffs

/-- A plan is built from a segment that names another plan. -/
theorem admits_other_plans : ¬ AdmitsWellformed Digest.sha256 := by
  intro exactly
  have built := build_eq_ok_iff.mpr ⟨@sample_admissible Digest.sha256, rfl⟩
  have wellformed := (exactly sampleRequest [sampleSegment] []).mp ⟨_, built⟩
  have named := (wellformed.ownSegments sampleSegment List.mem_cons_self).2
  have length : "plan-1".toList.length = 64 :=
    (congrArg (fun text => text.toList.length) named).trans (Digest.length_sha256 _)
  exact absurd length (by decide)

end DisaggregatedExecution
end MercuryX
