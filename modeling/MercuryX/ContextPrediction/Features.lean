import MercuryX.ContextPrediction.Scoring
import MercuryX.Foundation.Maxima

/-!
# Features of candidates

What is known about a candidate, from the place that predictions are made from: whether it is about
the current context, how often its context was used lately, how much of its lineage and of its
artifacts is at hand, and how old its sources are. Ages are only told where the latest sequence
number of the domain of every source is known; sequence numbers of different domains are never
compared.
-/

namespace MercuryX
namespace ContextPrediction

open Foundation GlobalMemory

/-- A number between zero and one. -/
abbrev Share : Type := {value : ℚ // 0 ≤ value ∧ value ≤ 1}

/-! ## Signals -/

/-- The place that predictions are made from. -/
structure PredictionSignals where
  currentContextKey : Option String := none
  recentContextKeys : List String := []
  dependencyContextKeys : List String := []
  currentArtifactIds : List String := []
  currentPhase8RecordIds : List String := []

/-- All texts of the signals are nonblank. -/
structure PredictionSignals.Visible (signals : PredictionSignals) : Prop where
  /-- The current context is named. -/
  current : ∀ key ∈ signals.currentContextKey, Text.Nonblank key
  /-- Recent contexts are named. -/
  recent : ∀ key ∈ signals.recentContextKeys, Text.Nonblank key
  /-- Dependencies are named. -/
  dependencies : ∀ key ∈ signals.dependencyContextKeys, Text.Nonblank key
  /-- Artifacts are named. -/
  artifacts : ∀ artifactId ∈ signals.currentArtifactIds, Text.Nonblank artifactId
  /-- Session records are named. -/
  phase8Ids : ∀ recordId ∈ signals.currentPhase8RecordIds, Text.Nonblank recordId

/-- The signals list the same texts, in whatever order and, except for recent contexts, however
often. -/
structure PredictionSignals.Same (left right : PredictionSignals) : Prop where
  /-- The current context is the same. -/
  current : left.currentContextKey = right.currentContextKey
  /-- Recent contexts are the same, and as frequent. -/
  recent : left.recentContextKeys.Perm right.recentContextKeys
  /-- Dependencies are the same. -/
  dependencies : left.dependencyContextKeys.toFinset = right.dependencyContextKeys.toFinset
  /-- Artifacts are the same. -/
  artifacts : left.currentArtifactIds.toFinset = right.currentArtifactIds.toFinset
  /-- Session records are the same. -/
  phase8Ids : left.currentPhase8RecordIds.toFinset = right.currentPhase8RecordIds.toFinset

/-- The set of some texts, which must be nonblank. -/
def validatedTextSet (values : List String) (fieldName : String) :
    Except Fault (Finset String) := do
  require (∀ value ∈ values, Text.Nonblank value)
    (.value s!"{fieldName} must contain nonblank text")
  return values.toFinset

@[simp] theorem validatedTextSet_eq_ok {values : List String} {fieldName : String}
    {texts : Finset String} : validatedTextSet values fieldName = .ok texts ↔
      (∀ value ∈ values, Text.Nonblank value) ∧ values.toFinset = texts := by
  simp [validatedTextSet]

/-! ## Overlaps -/

/-- The share of what two sets have in common, in all that they have. -/
def overlapRatio (left right : Finset String) : ℚ :=
  if left = ∅ ∨ right = ∅ then 0 else (left ∩ right).card / (left ∪ right).card

theorem overlapRatio_within (left right : Finset String) :
    0 ≤ overlapRatio left right ∧ overlapRatio left right ≤ 1 := by
  unfold overlapRatio
  split
  · norm_num
  · refine ⟨by positivity, div_le_one_of_le₀ ?_ (by positivity)⟩
    exact_mod_cast Finset.card_le_card (Finset.inter_subset_left.trans Finset.subset_union_left)

/-! ## Ages -/

/-- What sequence numbers are counted in: a session, or a global namespace. -/
def ContextPredictionSourceEvidence.domain (evidence : ContextPredictionSourceEvidence) :
    SourceKind × String := (evidence.sourceKind, evidence.sequenceScope)

/-- How recent a source is: one for the latest of its domain, and less for older ones. -/
def recentness (reference creationSequence : Nat) : Share :=
  ⟨1 / (1 + (reference - creationSequence : ℕ)), by positivity, div_le_one_of_le₀
    (le_add_of_nonneg_right (Nat.cast_nonneg _)) (by positivity)⟩

/-- How recent a source is, if the latest sequence number of its domain is known. -/
def sourceAge (references : Dict (SourceKind × String) Nat)
    (evidence : ContextPredictionSourceEvidence) : Except Fault (Option Share) :=
  match references.get? evidence.domain with
  | none => .ok none
  | some reference => do
      require (evidence.creationSequence ≤ reference) (.value "reference sequence precedes source")
      return some (recentness reference evidence.creationSequence)

/-- The mean of some shares. -/
def mean (shares : List Share) : ℚ := (shares.map Subtype.val).sum / shares.length

theorem mean_within (shares : List Share) : 0 ≤ mean shares ∧ mean shares ≤ 1 := by
  have nonneg : 0 ≤ (shares.map Subtype.val).sum := by
    refine List.sum_nonneg fun value member => ?_
    obtain ⟨share, _, rfl⟩ := List.mem_map.mp member
    exact share.property.1
  have few : (shares.map Subtype.val).sum ≤ shares.length := by
    have each : ∀ value ∈ shares.map Subtype.val, value ≤ (1 : ℚ) := by
      intro value member
      obtain ⟨share, _, rfl⟩ := List.mem_map.mp member
      exact share.property.2
    simpa using List.sum_le_card_nsmul _ _ each
  exact ⟨div_nonneg nonneg (Nat.cast_nonneg _), div_le_one_of_le₀ few (Nat.cast_nonneg _)⟩

/-- How recent a candidate is, if the ages of all its sources are known. -/
def recencyOf (ages : List (Option Share)) : Option Share :=
  if ages ≠ [] ∧ none ∉ ages then some ⟨mean ages.reduceOption, mean_within _⟩ else none

/-- The references name domains and positive sequence numbers. -/
def ValidReferences (references : Dict (SourceKind × String) Nat) : Prop :=
  ∀ entry ∈ references.entries, Text.Nonblank entry.1.2 ∧ 1 ≤ entry.2

instance (references : Dict (SourceKind × String) Nat) : Decidable (ValidReferences references) :=
  inferInstanceAs (Decidable (∀ _ ∈ _, _))

/-- The recency of evidence, if references are given. -/
def extractRecency (sources : List ContextPredictionSourceEvidence)
    (references : Dict (SourceKind × String) Nat) : Except Fault (Option Share) := do
  require (ValidReferences references) (.value "invalid sequence reference")
  let ages ← sources.mapM (sourceAge references)
  return recencyOf ages

variable {digest : Digest}

/-- The latest sequence number of each domain among the sources of some candidates. -/
def referenceSequences (candidates : List (ContextPredictionCandidate digest)) :
    Dict (SourceKind × String) Nat :=
  Dict.maxima ContextPredictionSourceEvidence.domain (fun source => source.creationSequence)
    (candidates.flatMap fun candidate => candidate.sourceEvidence)

/-- How recent a source is among those of some candidates. -/
def ageAmong (candidates : List (ContextPredictionCandidate digest))
    (source : ContextPredictionSourceEvidence) : Share :=
  recentness (((referenceSequences candidates).get? source.domain).getD 0) source.creationSequence

/-- The recency of a candidate among some. -/
def recencyAmong (candidates : List (ContextPredictionCandidate digest))
    (candidate : ContextPredictionCandidate digest) : Option Share :=
  recencyOf (candidate.sourceEvidence.map fun source => some (ageAmong candidates source))

/-! ## Vectors -/

theorem one_within : 0 ≤ (1 : ℚ) ∧ (1 : ℚ) ≤ 1 := ⟨zero_le_one, le_rfl⟩

theorem zero_within : 0 ≤ (0 : ℚ) ∧ (0 : ℚ) ≤ 1 := ⟨le_rfl, zero_le_one⟩

/-- How well a candidate fits what comes next. -/
def horizonCompatibility (taskContinuity dependencyAdjacency contextKeyRecurrence : Share) :
    Share :=
  if taskContinuity.val ≠ 0 then ⟨1, one_within⟩
  else if dependencyAdjacency.val ≠ 0 then ⟨75 / 100, by norm_num⟩
  else if 0 < contextKeyRecurrence.val then ⟨5 / 10, by norm_num⟩
  else ⟨25 / 100, by norm_num⟩

/-- One where a condition holds, and zero elsewhere. -/
def indicator (condition : Prop) [Decidable condition] : Share :=
  if condition then ⟨1, one_within⟩ else ⟨0, zero_within⟩

/-- How often a context was used lately, of four times at most. -/
def recurrence (contextKey : String) (recent : List String) : Share :=
  ⟨min (recent.count contextKey / 4) 1, le_min (by positivity) zero_le_one, min_le_right _ _⟩

/-- What is known about a candidate. -/
def featuresOf (candidate : ContextPredictionCandidate digest) (current : Option String)
    (recent : List String) (dependencies artifacts phase8Ids : Finset String)
    (recency : Option Share) : ContextPredictionFeatureVector :=
  let taskContinuity := indicator (current = some candidate.contextKey)
  let contextKeyRecurrence := recurrence candidate.contextKey recent
  let dependencyAdjacency := indicator (candidate.contextKey ∈ dependencies)
  let sourceLineageOverlap : Share :=
    ⟨overlapRatio candidate.sourcePhase8RecordIds.toFinset phase8Ids, overlapRatio_within _ _⟩
  let artifactContinuity : Share :=
    ⟨overlapRatio candidate.sourceArtifactIds.toFinset artifacts, overlapRatio_within _ _⟩
  let sessionGlobalAgreement := indicator
    ((candidate.sourceEvidence.map fun evidence => evidence.sourceKind).toFinset =
        {.session, .global} ∧ candidate.conflictPresent = false)
  let lifecycleEligibility : Share := ⟨1, one_within⟩
  let conflictState := indicator (candidate.conflictPresent = false)
  let compatibility :=
    horizonCompatibility taskContinuity dependencyAdjacency contextKeyRecurrence
  { candidateId := candidate.candidateId
    recency := recency.map Subtype.val
    taskContinuity := taskContinuity
    contextKeyRecurrence := contextKeyRecurrence
    dependencyAdjacency := dependencyAdjacency
    sourceLineageOverlap := sourceLineageOverlap
    artifactContinuity := artifactContinuity
    sessionGlobalAgreement := sessionGlobalAgreement
    lifecycleEligibility := lifecycleEligibility
    conflictState := conflictState
    horizonCompatibility := compatibility
    candidateId_nonblank := candidate.valid.addressed ▸ digest.nonblank _
    within := by
      intro value member
      rcases List.mem_append.mp member with known | member
      · obtain ⟨share, _, rfl⟩ := Option.map_eq_some_iff.mp (Option.mem_toList.mp known)
        exact share.property
      · simp only [List.mem_cons, List.not_mem_nil, or_false] at member
        rcases member with rfl | rfl | rfl | rfl | rfl | rfl | rfl | rfl | rfl
        exacts [taskContinuity.property, contextKeyRecurrence.property,
          dependencyAdjacency.property, sourceLineageOverlap.property, artifactContinuity.property,
          sessionGlobalAgreement.property, lifecycleEligibility.property, conflictState.property,
          compatibility.property] }

/-- Extract the features of a candidate. -/
def extractPredictionFeatures (candidate : ContextPredictionCandidate digest)
    (signals : PredictionSignals) (referenceSequences : Option (Dict (SourceKind × String) Nat)) :
    Except Fault ContextPredictionFeatureVector := do
  require (∀ key ∈ signals.currentContextKey, Text.Nonblank key)
    (.value "current_context_key must be nonblank")
  require (∀ key ∈ signals.recentContextKeys, Text.Nonblank key)
    (.value "recent_context_keys must contain nonblank text")
  let dependencies ← validatedTextSet signals.dependencyContextKeys "dependency_context_keys"
  let artifacts ← validatedTextSet signals.currentArtifactIds "current_artifact_ids"
  let phase8Ids ← validatedTextSet signals.currentPhase8RecordIds "current_phase8_record_ids"
  let recency ← referenceSequences.elim (.ok none) (extractRecency candidate.sourceEvidence)
  return featuresOf candidate signals.currentContextKey signals.recentContextKeys dependencies
    artifacts phase8Ids recency

/-- The features of a candidate with the given signals and recency. -/
def vectorOf (signals : PredictionSignals) (candidate : ContextPredictionCandidate digest)
    (recency : Option Share) : ContextPredictionFeatureVector :=
  featuresOf candidate signals.currentContextKey signals.recentContextKeys
    signals.dependencyContextKeys.toFinset signals.currentArtifactIds.toFinset
    signals.currentPhase8RecordIds.toFinset recency

section Extraction

variable {candidate : ContextPredictionCandidate digest} {signals : PredictionSignals}
  {vector : ContextPredictionFeatureVector}

theorem extractPredictionFeatures_eq_ok_iff
    {references : Option (Dict (SourceKind × String) Nat)} :
    extractPredictionFeatures candidate signals references = .ok vector ↔
      signals.Visible ∧ ∃ recency,
        references.elim (.ok none) (extractRecency candidate.sourceEvidence) = .ok recency ∧
          vectorOf signals candidate recency = vector := by
  simp only [extractPredictionFeatures, bind_eq_ok, require_eq_ok, validatedTextSet_eq_ok,
    pure_eq_ok, Except.ok.injEq, exists_const]
  constructor
  · rintro ⟨current, recent, _, ⟨dependencies, rfl⟩, _, ⟨artifacts, rfl⟩, _, ⟨phase8Ids, rfl⟩,
      recency, known, rfl⟩
    exact ⟨⟨current, recent, dependencies, artifacts, phase8Ids⟩, recency, known, rfl⟩
  · rintro ⟨visible, recency, known, rfl⟩
    exact ⟨visible.current, visible.recent, _, ⟨visible.dependencies, rfl⟩, _,
      ⟨visible.artifacts, rfl⟩, _, ⟨visible.phase8Ids, rfl⟩, recency, known, rfl⟩

@[simp] theorem vectorOf_candidateId (signals : PredictionSignals)
    (candidate : ContextPredictionCandidate digest) (recency : Option Share) :
    (vectorOf signals candidate recency).candidateId = candidate.candidateId := rfl

theorem horizonOf_vectorOf_iff {recency : Option Share} :
    horizonOf (vectorOf signals candidate recency) = .nextTurn ↔
      signals.currentContextKey = some candidate.contextKey := by
  have continuity : (vectorOf signals candidate recency).taskContinuity =
      (indicator (signals.currentContextKey = some candidate.contextKey)).val := rfl
  unfold horizonOf
  rw [continuity, indicator]
  by_cases current : signals.currentContextKey = some candidate.contextKey
  · simp only [current, if_true]
    norm_num
  · simp only [current, if_false, iff_false]
    norm_num
    split <;> exact ContextPredictionHorizon.noConfusion

/-- Extraction depends on sets of texts, except for the recent contexts, which are counted. -/
theorem extractPredictionFeatures_congr {others : PredictionSignals} (same : others.Same signals)
    (references : Option (Dict (SourceKind × String) Nat)) :
    extractPredictionFeatures candidate others references =
      extractPredictionFeatures candidate signals references := by
  have recent : (∀ key ∈ others.recentContextKeys, Text.Nonblank key) ↔
      ∀ key ∈ signals.recentContextKeys, Text.Nonblank key := by
    simp only [same.recent.mem_iff]
  have sets {values others : List String} (same : others.toFinset = values.toFinset)
      (fieldName : String) :
      validatedTextSet others fieldName = validatedTextSet values fieldName := by
    have visible : (∀ text ∈ others, Text.Nonblank text) ↔ ∀ text ∈ values, Text.Nonblank text := by
      simp only [← List.mem_toFinset, same]
    simp only [validatedTextSet, visible, same]
  have vectors (dependencies artifacts phase8Ids : Finset String) (recency : Option Share) :
      featuresOf candidate signals.currentContextKey others.recentContextKeys dependencies artifacts
          phase8Ids recency =
        featuresOf candidate signals.currentContextKey signals.recentContextKeys dependencies
          artifacts phase8Ids recency := by
    simp only [featuresOf, recurrence, same.recent.count_eq]
  simp only [extractPredictionFeatures, same.current, recent, sets same.dependencies,
    sets same.artifacts, sets same.phase8Ids, vectors]

end Extraction

end ContextPrediction
end MercuryX
