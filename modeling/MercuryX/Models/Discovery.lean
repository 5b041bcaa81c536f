import MercuryX.Models.Compatibility

/-!
# Discovery

Discovery evaluates every registered record and keeps the compatible ones as candidates. It never
fails; the candidates are exactly the registered records that satisfy the requirements, each once
and in the order of identities, and stricter requirements have fewer of them.
-/

namespace MercuryX
namespace Models

open Foundation

/-! ## Satisfaction -/

/-- The switches of requirements. -/
def ModelCapabilityRequirements.switches (requirements : ModelCapabilityRequirements) :
    List Bool :=
  [requirements.requiresToolUse, requirements.requiresRetrieval,
    requirements.requiresCodeGeneration, requirements.requiresCodeUnderstanding,
    requirements.requiresStructuredToolArguments, requirements.requiresToolResultConsumption,
    requirements.requiresJsonOutput, requirements.requiresSchemaConstrainedOutput,
    requirements.requiresStreaming]

/-- The switches of a record, in the same order. -/
def ModelCapabilityRecord.switches (record : ModelCapabilityRecord) : List Bool :=
  [record.supportsToolUse, record.supportsRetrieval, record.supportsCodeGeneration,
    record.supportsCodeUnderstanding, record.supportsStructuredToolArguments,
    record.supportsToolResultConsumption, record.supportsJsonOutput,
    record.supportsSchemaConstrainedOutput, record.supportsStreaming]

/-- A declared limit reaches a minimum, where there is a minimum. -/
def ReachesMinimum (minimum declared : Option Int) : Prop :=
  ∀ least ∈ minimum, ∃ limit ∈ declared, least ≤ limit

/-- A record has everything that requirements declare. -/
structure Satisfies (record : ModelCapabilityRecord) (requirements : ModelCapabilityRequirements) :
    Prop where
  /-- The required input modalities are declared. -/
  inputModalities : requirements.requiredInputModalities ⊆ record.inputModalities.items
  /-- The required output modalities are declared. -/
  outputModalities : requirements.requiredOutputModalities ⊆ record.outputModalities.items
  /-- The required reasoning capabilities are declared. -/
  reasoning : requirements.requiredReasoningCapabilities ⊆ record.reasoningCapabilities
  /-- What is required to be supported is supported. -/
  switches : List.Forall₂ (fun required supported => required = true → supported = true)
    requirements.switches record.switches
  /-- The context reaches its minimum. -/
  contextTokens : ReachesMinimum requirements.minimumContextTokens record.maxContextTokens
  /-- The output reaches its minimum. -/
  outputTokens : ReachesMinimum requirements.minimumOutputTokens record.maxOutputTokens
  /-- The status is allowed. -/
  status : ∀ allowed ∈ requirements.allowedStatuses, record.status ∈ allowed.items

theorem memberIssues_eq_nil {α : Type} [DecidableEq α] {constraintId field : String}
    {value : α → String} {required declared : List α} :
    memberIssues constraintId field value required declared = [] ↔ required ⊆ declared := by
  simp [memberIssues, List.filter_eq_nil_iff, List.subset_def]

theorem booleanIssues_eq_nil {requirements : List (String × String × Bool × Bool)} :
    booleanIssues requirements = [] ↔
      ∀ entry ∈ requirements, entry.2.2.1 = true → entry.2.2.2 = true := by
  simp [booleanIssues, List.filter_eq_nil_iff]

theorem limitIssues_eq_nil {constraintId field : String} {minimum declared : Option Int} :
    limitIssues constraintId field minimum declared = [] ↔ ReachesMinimum minimum declared := by
  cases minimum with
  | none => simp [limitIssues, ReachesMinimum]
  | some least => cases declared <;> simp [limitIssues, ReachesMinimum]

theorem statusIssues_eq_nil {status : CapabilityStatus}
    {allowed : Option (Intelligence.CanonicalTuple CapabilityStatus CapabilityStatus.value)} :
    statusIssues status allowed = [] ↔ ∀ statuses ∈ allowed, status ∈ statuses.items := by
  cases allowed <;> simp [statusIssues]

theorem foundIssues_eq_nil {record : ModelCapabilityRecord}
    {requirements : ModelCapabilityRequirements} :
    foundIssues record requirements = [] ↔ Satisfies record requirements := by
  simp only [foundIssues, List.append_eq_nil_iff, memberIssues_eq_nil, booleanIssues_eq_nil,
    limitIssues_eq_nil, statusIssues_eq_nil, List.forall_mem_cons, List.not_mem_nil,
    false_imp_iff, implies_true, and_true]
  constructor
  · rintro ⟨⟨⟨⟨⟨⟨input, output⟩, reasoning⟩, switches⟩, context⟩, limit⟩, status⟩
    refine ⟨input, output, reasoning, ?_, context, limit, status⟩
    simpa [ModelCapabilityRequirements.switches, ModelCapabilityRecord.switches] using switches
  · rintro ⟨input, output, reasoning, switches, context, limit, status⟩
    refine ⟨⟨⟨⟨⟨⟨input, output⟩, reasoning⟩, ?_⟩, context⟩, limit⟩, status⟩
    simpa [ModelCapabilityRequirements.switches, ModelCapabilityRecord.switches] using switches

/-- The evaluation is exact. -/
theorem evaluateCompatibility_compatible_iff {record : ModelCapabilityRecord}
    {requirements : ModelCapabilityRequirements} :
    (evaluateCompatibility record requirements).status = .compatible ↔
      Satisfies record requirements := by
  rw [← foundIssues_eq_nil, evaluateCompatibility]
  simp only [ite_eq_left_iff, reduceCtorEq, imp_false, not_not]
  rw [← List.length_eq_zero_iff, length_sortOn, List.length_eq_zero_iff]

/-! ## Stricter requirements -/

/-- Requirements demand at least what others do, in every field. -/
structure AtLeastAsStrict (strict lax : ModelCapabilityRequirements) : Prop where
  /-- Every input modality is still required. -/
  inputModalities : lax.requiredInputModalities ⊆ strict.requiredInputModalities
  /-- Every output modality is still required. -/
  outputModalities : lax.requiredOutputModalities ⊆ strict.requiredOutputModalities
  /-- Every reasoning capability is still required. -/
  reasoning : lax.requiredReasoningCapabilities ⊆ strict.requiredReasoningCapabilities
  /-- Everything is still required to be supported. -/
  switches : List.Forall₂ (fun before after => before = true → after = true)
    lax.switches strict.switches
  /-- The minimal context is not lower. -/
  contextTokens : ReachesMinimum lax.minimumContextTokens strict.minimumContextTokens
  /-- The minimal output is not lower. -/
  outputTokens : ReachesMinimum lax.minimumOutputTokens strict.minimumOutputTokens
  /-- No status is allowed anew. -/
  status : ∀ allowed ∈ lax.allowedStatuses, ∃ fewer ∈ strict.allowedStatuses,
    fewer.items ⊆ allowed.items

theorem ReachesMinimum.trans {least minimum declared : Option Int}
    (first : ReachesMinimum least minimum) (second : ReachesMinimum minimum declared) :
    ReachesMinimum least declared := by
  intro low isLow
  obtain ⟨middle, isMiddle, lower⟩ := first low isLow
  obtain ⟨limit, isLimit, reached⟩ := second middle isMiddle
  exact ⟨limit, isLimit, lower.trans reached⟩

/-- Implications between switches compose. -/
theorem switches_trans {first second third : List Bool}
    (early : List.Forall₂ (fun left right => left = true → right = true) first second)
    (late : List.Forall₂ (fun left right => left = true → right = true) second third) :
    List.Forall₂ (fun left right => left = true → right = true) first third := by
  induction early generalizing third with
  | nil => exact late
  | cons head _ induction =>
      cases late with
      | cons next rest => exact .cons (fun holds => next (head holds)) (induction rest)

theorem Satisfies.of_strict {record : ModelCapabilityRecord}
    {strict lax : ModelCapabilityRequirements} (stricter : AtLeastAsStrict strict lax)
    (satisfies : Satisfies record strict) : Satisfies record lax where
  inputModalities := List.Subset.trans stricter.inputModalities satisfies.inputModalities
  outputModalities := List.Subset.trans stricter.outputModalities satisfies.outputModalities
  reasoning := List.Subset.trans stricter.reasoning satisfies.reasoning
  switches := switches_trans stricter.switches satisfies.switches
  contextTokens := stricter.contextTokens.trans satisfies.contextTokens
  outputTokens := stricter.outputTokens.trans satisfies.outputTokens
  status allowed isAllowed := by
    obtain ⟨fewer, isFewer, inside⟩ := stricter.status allowed isAllowed
    exact inside (satisfies.status fewer isFewer)

/-! ## Issues -/

/-- The texts of an issue are nonblank. -/
def CompatibilityIssue.Valid (issue : CompatibilityIssue) : Prop :=
  ∀ text ∈ [issue.constraintId, issue.field, issue.requiredValue, issue.reason], Text.Nonblank text

instance (issue : CompatibilityIssue) : Decidable issue.Valid :=
  inferInstanceAs (Decidable (∀ text ∈ _, _))

/-- The check of an issue. -/
def CompatibilityIssue.check (issue : CompatibilityIssue) : Except Fault Unit :=
  forEach (fun field => require (Text.Nonblank field.2) (.validation "CompatibilityIssue" field.1
      "Value error, compatibility issue fields must be nonblank"))
    [("constraint_id", issue.constraintId), ("field", issue.field),
      ("required_value", issue.requiredValue), ("reason", issue.reason)]

theorem CompatibilityIssue.check_eq_ok {issue : CompatibilityIssue} {done : Unit} :
    issue.check = .ok done ↔ issue.Valid := by
  simp [CompatibilityIssue.check, CompatibilityIssue.Valid]

theorem compatibilityIssue_valid {constraintId field requiredValue : String}
    (given : Text.Nonblank constraintId) (named : Text.Nonblank field)
    (required : Text.Nonblank requiredValue) (declaredValue : Option String) :
    (compatibilityIssue constraintId field requiredValue declaredValue).Valid := by
  intro text member
  simp only [compatibilityIssue, List.mem_cons, List.not_mem_nil, or_false] at member
  rcases member with rfl | rfl | rfl | rfl
  · exact given
  · exact named
  · exact required
  · refine Text.nonblank_append_left ?_ _
    simp only [toString, String.append_assoc]
    exact Text.nonblank_append_left named _

theorem ModelModality.value_nonblank (modality : ModelModality) :
    Text.Nonblank modality.value := by
  cases modality <;> decide

theorem ReasoningCapability.value_nonblank (capability : ReasoningCapability) :
    Text.Nonblank capability.value := by
  cases capability <;> decide

theorem CapabilityStatus.value_nonblank (status : CapabilityStatus) :
    Text.Nonblank status.value := by
  cases status <;> decide

theorem memberIssues_valid {α : Type} [DecidableEq α] {constraintId field : String}
    {value : α → String} {required declared : List α} (given : Text.Nonblank constraintId)
    (named : Text.Nonblank field) (visible : ∀ member, Text.Nonblank (value member)) :
    ∀ issue ∈ memberIssues constraintId field value required declared, issue.Valid := by
  intro issue found
  obtain ⟨member, _, rfl⟩ := List.mem_map.mp found
  exact compatibilityIssue_valid given named (visible member) _

theorem booleanIssues_valid {requirements : List (String × String × Bool × Bool)}
    (given : ∀ entry ∈ requirements, Text.Nonblank entry.1 ∧ Text.Nonblank entry.2.1) :
    ∀ issue ∈ booleanIssues requirements, issue.Valid := by
  intro issue found
  obtain ⟨entry, member, rfl⟩ := List.mem_map.mp found
  have texts := given entry (List.mem_of_mem_filter member)
  exact compatibilityIssue_valid texts.1 texts.2 (by decide) _

theorem limitIssues_valid {constraintId field : String} {minimum declared : Option Int}
    (given : Text.Nonblank constraintId) (named : Text.Nonblank field) :
    ∀ issue ∈ limitIssues constraintId field minimum declared, issue.Valid := by
  intro issue found
  unfold limitIssues at found
  split at found
  · nomatch found
  · split at found
    · nomatch found
    · obtain rfl := List.mem_singleton.mp found
      exact compatibilityIssue_valid given named (Text.nonblank_toString_int _) _

theorem statusIssues_valid {status : CapabilityStatus}
    {allowed : Option (Intelligence.CanonicalTuple CapabilityStatus CapabilityStatus.value)} :
    ∀ issue ∈ statusIssues status allowed, issue.Valid := by
  intro issue found
  unfold statusIssues at found
  split at found
  · nomatch found
  · next statuses =>
      split at found
      · nomatch found
      · obtain rfl := List.mem_singleton.mp found
        obtain ⟨first, rest, split⟩ := List.exists_cons_of_ne_nil statuses.nonempty
        refine compatibilityIssue_valid (by decide) (by decide) ?_ _
        rw [split, List.map_cons]
        exact Text.nonblank_intercalate first.value_nonblank _

theorem foundIssues_valid (record : ModelCapabilityRecord)
    (requirements : ModelCapabilityRequirements) :
    ∀ issue ∈ foundIssues record requirements, issue.Valid := by
  simp only [foundIssues, List.forall_mem_append]
  refine ⟨⟨⟨⟨⟨⟨?_, ?_⟩, ?_⟩, ?_⟩, ?_⟩, ?_⟩, statusIssues_valid⟩
  · exact memberIssues_valid (by decide) (by decide) ModelModality.value_nonblank
  · exact memberIssues_valid (by decide) (by decide) ModelModality.value_nonblank
  · exact memberIssues_valid (by decide) (by decide) ReasoningCapability.value_nonblank
  · refine booleanIssues_valid ?_
    simp only [List.forall_mem_cons, List.not_mem_nil, false_imp_iff, implies_true, and_true]
    decide
  · exact limitIssues_valid (by decide) (by decide)
  · exact limitIssues_valid (by decide) (by decide)

/-- Evaluate a record, with the checks of its issues. -/
def evaluate (record : ModelCapabilityRecord) (requirements : ModelCapabilityRequirements) :
    Except Fault CompatibilityResult := do
  forEach CompatibilityIssue.check (foundIssues record requirements)
  return evaluateCompatibility record requirements

theorem evaluate_eq (record : ModelCapabilityRecord) (requirements : ModelCapabilityRequirements) :
    evaluate record requirements = .ok (evaluateCompatibility record requirements) := by
  have checked : forEach CompatibilityIssue.check (foundIssues record requirements) = .ok () :=
    forEach_eq_ok.mpr fun issue found =>
      CompatibilityIssue.check_eq_ok.mpr (foundIssues_valid record requirements issue found)
  rw [evaluate, checked]
  rfl

/-! ## Candidates -/

/-- A compatible record with the evaluation that admitted it. -/
@[ext] structure CapabilityCandidate where
  record : ModelCapabilityRecord
  compatibility : CompatibilityResult
  /-- The evaluation found no issue. -/
  compatible : compatibility.status = .compatible
  /-- The evaluation is of the record. -/
  matches_record : compatibility.record = record

namespace CapabilityCandidate

/-- Construct a candidate. -/
def create (record : ModelCapabilityRecord) (compatibility : CompatibilityResult) :
    Except Fault CapabilityCandidate :=
  if compatible : compatibility.status = .compatible then
    if same : compatibility.record = record then .ok ⟨record, compatibility, compatible, same⟩
    else .error (.validation "CapabilityCandidate" ""
      "Value error, candidate record must match compatibility record")
  else .error (.validation "CapabilityCandidate" ""
    "Value error, candidate compatibility must be COMPATIBLE")

/-- The identity of a candidate is that of its record. -/
def identity (candidate : CapabilityCandidate) : String ×ₗ String ×ₗ String ×ₗ String :=
  candidate.record.identity

end CapabilityCandidate

/-- The candidates for requirements. -/
structure CapabilityDiscoveryResult where
  requirements : ModelCapabilityRequirements
  candidates : List CapabilityCandidate
  /-- Candidates stand in the order of their identities. -/
  candidates_sorted : sortOn CapabilityCandidate.identity candidates = candidates
  /-- No two candidates share an identity. -/
  identities_nodup : (candidates.map CapabilityCandidate.identity).Nodup

namespace CapabilityDiscoveryResult

/-- Construct the result of a discovery. -/
def create (requirements : ModelCapabilityRequirements) (candidates : List CapabilityCandidate) :
    Except Fault CapabilityDiscoveryResult :=
  if unique : ((sortOn CapabilityCandidate.identity candidates).map
      CapabilityCandidate.identity).Nodup then
    .ok
      { requirements := requirements
        candidates := sortOn CapabilityCandidate.identity candidates
        candidates_sorted := sortOn_eq_self _ (sortOn_pairwise _ _)
        identities_nodup := unique }
  else .error (.validation "CapabilityDiscoveryResult" "candidates"
    "Value error, candidate identities must be unique")

/-- The records that were found. -/
def records (result : CapabilityDiscoveryResult) : List ModelCapabilityRecord :=
  result.candidates.map CapabilityCandidate.record

end CapabilityDiscoveryResult

/-! ## Discovery -/

/-- A registry and the requirements to evaluate on it. -/
structure CapabilityDiscoveryQuery where
  registry : ModelCapabilityRegistry
  requirements : ModelCapabilityRequirements

namespace CapabilityDiscoveryQuery

/-- Evaluate one record; a compatible one becomes a candidate. -/
def evaluateRecord (requirements : ModelCapabilityRequirements) (record : ModelCapabilityRecord) :
    Except Fault (Option CapabilityCandidate) := do
  let compatibility ← evaluate record requirements
  if compatibility.status = .compatible then
    return some (← CapabilityCandidate.create record compatibility)
  else
    return none

/-- Discover every record that is compatible with the requirements. -/
def discover (query : CapabilityDiscoveryQuery) : Except Fault CapabilityDiscoveryResult := do
  let candidates ← query.registry.records.mapM (evaluateRecord query.requirements)
  CapabilityDiscoveryResult.create query.requirements candidates.reduceOption

end CapabilityDiscoveryQuery

/-- The candidate of a record, if it is compatible. -/
def candidateOf (requirements : ModelCapabilityRequirements) (record : ModelCapabilityRecord) :
    Option CapabilityCandidate :=
  if compatible : (evaluateCompatibility record requirements).status = .compatible then
    some ⟨record, evaluateCompatibility record requirements, compatible, rfl⟩
  else none

theorem evaluateRecord_eq (requirements : ModelCapabilityRequirements)
    (record : ModelCapabilityRecord) :
    CapabilityDiscoveryQuery.evaluateRecord requirements record =
      .ok (candidateOf requirements record) := by
  have same : (evaluateCompatibility record requirements).record = record := rfl
  rw [CapabilityDiscoveryQuery.evaluateRecord, evaluate_eq, candidateOf, ok_bind]
  by_cases compatible : (evaluateCompatibility record requirements).status = .compatible
  · simp [compatible, same, CapabilityCandidate.create]
  · simp [compatible]

theorem candidateOf_eq_some_iff {requirements : ModelCapabilityRequirements}
    {record : ModelCapabilityRecord} {candidate : CapabilityCandidate} :
    candidateOf requirements record = some candidate ↔
      Satisfies record requirements ∧ candidate.record = record ∧
        candidate.compatibility = evaluateCompatibility record requirements := by
  rw [← evaluateCompatibility_compatible_iff, candidateOf]
  split
  case isTrue compatible =>
    simp only [Option.some_inj, CapabilityCandidate.ext_iff, compatible, true_and]
    exact and_congr eq_comm eq_comm
  case isFalse incompatible => simp [incompatible]

/-- The candidates of the registered records, in their order. -/
def candidatesOf (registry : ModelCapabilityRegistry)
    (requirements : ModelCapabilityRequirements) : List CapabilityCandidate :=
  registry.records.filterMap (candidateOf requirements)

section Candidates

variable {registry : ModelCapabilityRegistry} {requirements : ModelCapabilityRequirements}

theorem mem_candidatesOf {candidate : CapabilityCandidate} :
    candidate ∈ candidatesOf registry requirements ↔ candidate.record ∈ registry.records ∧
      Satisfies candidate.record requirements ∧
        candidate.compatibility = evaluateCompatibility candidate.record requirements := by
  simp only [candidatesOf, List.mem_filterMap, candidateOf_eq_some_iff]
  constructor
  · rintro ⟨record, registered, satisfies, rfl, evaluated⟩
    exact ⟨registered, satisfies, evaluated⟩
  · rintro ⟨registered, satisfies, evaluated⟩
    exact ⟨candidate.record, registered, satisfies, rfl, evaluated⟩

/-- Candidates stand like the records of the registry, whose identities rise. -/
theorem candidatesOf_pairwise : (candidatesOf registry requirements).Pairwise
    fun left right => left.identity < right.identity := by
  have rising : registry.records.Pairwise fun left right => left.identity < right.identity := by
    have sorted := canonical_pairwise ModelCapabilityRecord.identity registry.records
    rw [registry.records_canonical] at sorted
    refine (List.Pairwise.and_mem.mp (sorted.and registry.records_nodup)).imp ?_
    rintro left right ⟨leftMember, rightMember, below, different⟩
    exact lt_of_le_of_ne below fun same =>
      different (registry.identities_separate left leftMember right rightMember same)
  refine List.pairwise_filterMap.mpr (rising.imp ?_)
  intro left right below first isFirst second isSecond
  obtain ⟨_, rfl, _⟩ := candidateOf_eq_some_iff.mp isFirst
  obtain ⟨_, rfl, _⟩ := candidateOf_eq_some_iff.mp isSecond
  exact below

theorem map_compatibility_candidatesOf :
    (candidatesOf registry requirements).map CapabilityCandidate.compatibility =
      discoverCapabilities registry requirements := by
  have kept (records : List ModelCapabilityRecord) :
      (records.filterMap (candidateOf requirements)).map CapabilityCandidate.compatibility =
        (records.map fun record => evaluateCompatibility record requirements).filter
          fun result => result.status = .compatible := by
    rw [List.map_filterMap, List.filter_map, ← List.filterMap_eq_filter, List.map_filterMap]
    refine List.filterMap_congr fun record _ => ?_
    by_cases compatible : (evaluateCompatibility record requirements).status = .compatible
    · simp [candidateOf, compatible, Option.guard]
    · simp [candidateOf, compatible, Option.guard]
  rw [discoverCapabilities, ← kept, sortOn_eq_self]
  · rfl
  · refine List.pairwise_map.mpr (candidatesOf_pairwise.imp fun {left right} below => ?_)
    rw [left.matches_record, right.matches_record]
    exact below.le

/-- Discovery never fails, and finds the candidates of the registered records. -/
theorem exists_discover (registry : ModelCapabilityRegistry)
    (requirements : ModelCapabilityRequirements) :
    ∃ result, CapabilityDiscoveryQuery.discover ⟨registry, requirements⟩ = .ok result ∧
      result.requirements = requirements ∧
        result.candidates = candidatesOf registry requirements := by
  have found : registry.records.mapM (CapabilityDiscoveryQuery.evaluateRecord requirements) =
      .ok (registry.records.map (candidateOf requirements)) := by
    rw [mapM_eq_ok_iff fun record answer made => (Except.ok.inj
      ((evaluateRecord_eq requirements record).symm.trans made)).symm]
    exact ⟨fun record _ => evaluateRecord_eq requirements record, rfl⟩
  have sorted : sortOn CapabilityCandidate.identity (candidatesOf registry requirements) =
      candidatesOf registry requirements :=
    sortOn_eq_self _ (candidatesOf_pairwise.imp fun below => below.le)
  have unique : ((candidatesOf registry requirements).map CapabilityCandidate.identity).Nodup :=
    List.pairwise_map.mpr (candidatesOf_pairwise.imp fun below => below.ne)
  have gathered : (registry.records.map (candidateOf requirements)).reduceOption =
      candidatesOf registry requirements := by
    rw [List.reduceOption, List.filterMap_map]
    rfl
  rw [CapabilityDiscoveryQuery.discover, found, ok_bind, gathered]
  refine ⟨⟨requirements, candidatesOf registry requirements, sorted, unique⟩, ?_, rfl, rfl⟩
  simp [CapabilityDiscoveryResult.create, sorted, unique]

end Candidates

/-- What a discovery finds. -/
structure Discovers (registry : ModelCapabilityRegistry)
    (requirements : ModelCapabilityRequirements) (result : CapabilityDiscoveryResult) : Prop where
  /-- The requirements are those that were asked for. -/
  requirements_kept : result.requirements = requirements
  /-- The records found are the registered records that satisfy the requirements. -/
  mem_iff : ∀ record, record ∈ result.records ↔
    record ∈ registry.records ∧ Satisfies record requirements
  /-- Each is found once, in the order of identities. -/
  identities_rising : (result.records.map ModelCapabilityRecord.identity).Pairwise (· < ·)
  /-- Each comes with its own evaluation. -/
  evaluated : ∀ candidate ∈ result.candidates,
    candidate.compatibility = evaluateCompatibility candidate.record requirements

theorem discovers_of_discover {registry : ModelCapabilityRegistry}
    {requirements : ModelCapabilityRequirements} {result : CapabilityDiscoveryResult}
    (discovered : CapabilityDiscoveryQuery.discover ⟨registry, requirements⟩ = .ok result) :
    Discovers registry requirements result := by
  obtain ⟨other, found, kept, candidates⟩ := exists_discover registry requirements
  obtain rfl := Except.ok.inj (found.symm.trans discovered)
  constructor
  case requirements_kept => exact kept
  case mem_iff =>
    intro record
    rw [CapabilityDiscoveryResult.records, candidates, List.mem_map]
    constructor
    · rintro ⟨candidate, member, rfl⟩
      have listed := mem_candidatesOf.mp member
      exact ⟨listed.1, listed.2.1⟩
    · rintro ⟨registered, satisfies⟩
      have compatible := evaluateCompatibility_compatible_iff.mpr satisfies
      exact ⟨⟨record, evaluateCompatibility record requirements, compatible, rfl⟩,
        mem_candidatesOf.mpr ⟨registered, satisfies, rfl⟩, rfl⟩
  case identities_rising =>
    rw [CapabilityDiscoveryResult.records, candidates, List.map_map, List.pairwise_map]
    exact candidatesOf_pairwise
  case evaluated =>
    intro candidate member
    rw [candidates] at member
    exact (mem_candidatesOf.mp member).2.2

/-- Registration forgets the order of records. -/
theorem make_congr {records others : List ModelCapabilityRecord}
    (same : ∀ record, record ∈ records ↔ record ∈ others) :
    ModelCapabilityRegistry.make records = ModelCapabilityRegistry.make others := by
  have separates : Separates ModelCapabilityRecord.identity records ↔
      Separates ModelCapabilityRecord.identity others := by
    simp only [Separates, same]
  unfold ModelCapabilityRegistry.make
  by_cases separate : Separates ModelCapabilityRecord.identity records
  · rw [dif_pos separate, dif_pos (separates.mp separate)]
    simp only [canonical_congr separate same]
  · rw [dif_neg separate, dif_neg (mt separates.mpr separate)]

/-- Discovery returns exactly the registered records that satisfy the requirements, each once and in
the order of identities, whatever the order of registration, and fewer for stricter requirements. -/
theorem discover_exact (registry : ModelCapabilityRegistry)
    (requirements : ModelCapabilityRequirements) :
    ∃ result, CapabilityDiscoveryQuery.discover ⟨registry, requirements⟩ = .ok result ∧
      Discovers registry requirements result ∧
      (∀ records others : List ModelCapabilityRecord, records.Perm others →
        ModelCapabilityRegistry.make records = .ok registry →
          ModelCapabilityRegistry.make others = .ok registry) ∧
      ∀ strict, AtLeastAsStrict strict requirements → ∀ fewer,
        CapabilityDiscoveryQuery.discover ⟨registry, strict⟩ = .ok fewer →
          fewer.records ⊆ result.records := by
  obtain ⟨result, discovered, _, _⟩ := exists_discover registry requirements
  have exact := discovers_of_discover discovered
  refine ⟨result, discovered, exact, ?_, ?_⟩
  · intro records others perm registered
    rw [← make_congr fun record => perm.mem_iff, registered]
  · intro strict stricter fewer found record member
    obtain ⟨registered, satisfies⟩ := ((discovers_of_discover found).mem_iff record).mp member
    exact (exact.mem_iff record).mpr ⟨registered, satisfies.of_strict stricter⟩

end Models
end MercuryX
