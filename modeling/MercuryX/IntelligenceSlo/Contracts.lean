import MercuryX.Contracts
import MercuryX.Foundation.Comparison

/-!
# Intelligence SLO contracts

Typed requirements on metrics, the application SLA that lists them, the registry of the metrics
that are defined, and the content-addressed SLO that an SLA is compiled to. Neither an SLA nor an
SLO can allow degradation, so the flag that says so is not kept.
-/

namespace MercuryX
namespace IntelligenceSlo

open Foundation

/-! ## Enumerations -/

/-- How strictly a requirement binds. -/
inductive ConstraintKind where
  | hard
  | soft
  | unknown
  deriving DecidableEq, Repr

/-- The text of a kind. -/
def ConstraintKind.value : ConstraintKind → String
  | hard => "HARD"
  | soft => "SOFT"
  | unknown => "UNKNOWN"

/-- What compilation found. -/
inductive CompilationStatus where
  | valid
  | invalid
  | ambiguous
  | unsatisfiable
  deriving DecidableEq, Repr

/-- The text of a status. -/
def CompilationStatus.value : CompilationStatus → String
  | valid => "VALID"
  | invalid => "INVALID"
  | ambiguous => "AMBIGUOUS"
  | unsatisfiable => "UNSATISFIABLE"

/-- Which side of a threshold a metric should be on. -/
inductive ThresholdDirection where
  | minimum
  | maximum
  | exact
  deriving DecidableEq, Repr

/-- The text of a direction. -/
def ThresholdDirection.value : ThresholdDirection → String
  | minimum => "MINIMUM"
  | maximum => "MAXIMUM"
  | exact => "EXACT"

/-! ## Requirements -/

/-- A requirement on one metric. -/
structure IntelligenceRequirement where
  requirementId : String
  metricId : String
  kind : ConstraintKind
  threshold : Option ℚ := none
  operator : Option String := none
  sourceId : String
  provenanceIds : List String := []
  /-- A requirement of a known kind has a threshold and an operator. -/
  typed : kind ≠ .unknown → threshold ≠ none ∧ operator ≠ none
  /-- Identity fields are nonblank. -/
  texts_nonblank : ∀ text ∈ [requirementId, metricId, sourceId], Text.Nonblank text

instance : DecidableEq IntelligenceRequirement := fun left right =>
  decidable_of_iff (left.requirementId = right.requirementId ∧ left.metricId = right.metricId ∧
      left.kind = right.kind ∧ left.threshold = right.threshold ∧
      left.operator = right.operator ∧ left.sourceId = right.sourceId ∧
      left.provenanceIds = right.provenanceIds) (by
    cases left
    cases right
    simp)

namespace IntelligenceRequirement

/-- The dump of a requirement. -/
def dump (requirement : IntelligenceRequirement) : Json := .obj [
  ("requirement_id", .str requirement.requirementId), ("metric_id", .str requirement.metricId),
  ("kind", .str requirement.kind.value), ("threshold", Json.optFloat requirement.threshold),
  ("operator", Json.optStr requirement.operator), ("source_id", .str requirement.sourceId),
  ("provenance_ids", Json.strs requirement.provenanceIds)]

/-- A metric value meets the comparison that a requirement makes, under a meaning of the operators
that are not read as comparisons. -/
def Satisfied (meaning : String → ℚ → ℚ → Prop) (requirement : IntelligenceRequirement)
    (value : ℚ) : Prop :=
  ∃ operator threshold, requirement.operator = some operator ∧
    requirement.threshold = some threshold ∧
    (Comparison.ofOperator operator).Holds meaning threshold value

/-- The comparison of one requirement entails that of another. -/
def tightens (new old : IntelligenceRequirement) : Bool :=
  match new.operator, new.threshold, old.operator, old.threshold with
  | some newOperator, some newThreshold, some oldOperator, some oldThreshold =>
      (Comparison.ofOperator newOperator).entails newThreshold
        (Comparison.ofOperator oldOperator) oldThreshold
  | _, _, _, _ => false

theorem exists_comparison {requirement : IntelligenceRequirement}
    (known : requirement.kind ≠ .unknown) : ∃ operator threshold,
      requirement.operator = some operator ∧ requirement.threshold = some threshold := by
  obtain ⟨withThreshold, withOperator⟩ := requirement.typed known
  obtain ⟨threshold, isThreshold⟩ := Option.ne_none_iff_exists'.mp withThreshold
  obtain ⟨operator, isOperator⟩ := Option.ne_none_iff_exists'.mp withOperator
  exact ⟨operator, threshold, isOperator, isThreshold⟩

/-- A requirement of a known kind tightens another exactly when, whatever the other operators mean,
every value that satisfies the first satisfies the second. -/
theorem tightens_iff {new old : IntelligenceRequirement} (newKnown : new.kind ≠ .unknown)
    (oldKnown : old.kind ≠ .unknown) : new.tightens old ↔ ∀ meaning value,
      new.Satisfied meaning value → old.Satisfied meaning value := by
  obtain ⟨newOperator, newThreshold, hasNewOperator, hasNewThreshold⟩ := exists_comparison newKnown
  obtain ⟨oldOperator, oldThreshold, hasOldOperator, hasOldThreshold⟩ := exists_comparison oldKnown
  simp [tightens, Satisfied, hasNewOperator, hasNewThreshold, hasOldOperator, hasOldThreshold,
    Comparison.entails_iff]

end IntelligenceRequirement

/-! ## Agreements and metrics -/

/-- What an application asks for. -/
structure ApplicationSLA where
  slaId : String
  workloadClass : String
  requirements : List IntelligenceRequirement
  provenanceIds : List String
  /-- There is provenance. -/
  provenance_given : provenanceIds ≠ []

/-- The definition of a metric. -/
structure MetricDefinition where
  metricId : String
  metricVersion : String
  semanticMeaning : String
  unit : String
  evaluatorId : String
  evaluatorVersion : String
  thresholdDirection : ThresholdDirection
  aggregationRule : String
  workloadClasses : List String
  calibrationState : String
  calibrationArtifactId : Option String := none
  provenanceIds : List String
  /-- Workload classes and provenance are given, in canonical form. -/
  lists_canonical : ∀ texts ∈ [workloadClasses, provenanceIds], texts ≠ [] ∧ CanonicalTexts texts

/-- The dump of a metric definition. -/
def MetricDefinition.dump (metric : MetricDefinition) : Json := .obj [
  ("metric_id", .str metric.metricId), ("metric_version", .str metric.metricVersion),
  ("semantic_meaning", .str metric.semanticMeaning), ("unit", .str metric.unit),
  ("evaluator_id", .str metric.evaluatorId), ("evaluator_version", .str metric.evaluatorVersion),
  ("threshold_direction", .str metric.thresholdDirection.value),
  ("aggregation_rule", .str metric.aggregationRule),
  ("workload_classes", Json.strs metric.workloadClasses),
  ("calibration_state", .str metric.calibrationState),
  ("calibration_artifact_id", Json.optStr metric.calibrationArtifactId),
  ("provenance_ids", Json.strs metric.provenanceIds)]

/-- The metrics that are defined. -/
structure MetricRegistry where
  metrics : List MetricDefinition
  generation : Int := 1
  /-- A metric is defined once. -/
  ids_nodup : (metrics.map MetricDefinition.metricId).Nodup
  /-- Metrics stand in the order of their ids. -/
  ids_sorted : sortOn MetricDefinition.metricId metrics = metrics

namespace MetricRegistry

/-- The content address of a registry. -/
def fingerprint (digest : Digest) (registry : MetricRegistry) : String :=
  digest.hexdigest (.obj [("generation", .int registry.generation),
    ("metrics", .arr (registry.metrics.map MetricDefinition.dump))])

/-- The definition of a metric. -/
def get (registry : MetricRegistry) (metricId : String) : Except Fault MetricDefinition :=
  match registry.metrics.find? fun metric => metric.metricId = metricId with
  | some metric => .ok metric
  | none => .error (.value "undefined metric")

theorem exists_get_iff {registry : MetricRegistry} {metricId : String} :
    (∃ metric, registry.get metricId = .ok metric) ↔
      metricId ∈ registry.metrics.map MetricDefinition.metricId := by
  unfold get
  split
  next metric found =>
    have member := List.mem_of_find?_eq_some found
    have named : metric.metricId = metricId := by simpa using List.find?_some found
    simpa using ⟨metric, member, named⟩
  next missing =>
    simpa using List.find?_eq_none.mp missing

end MetricRegistry

/-! ## Objectives -/

/-- The content that the fingerprint of an SLO covers. -/
def sloBody (slaId : String) (version : Int) (requirements : List IntelligenceRequirement)
    (status : CompilationStatus) (previous : Option String)
    (workloadClass metricRegistryFingerprint : String) : Json := .obj [
  ("sla", .str slaId), ("version", .int version),
  ("requirements", .arr (requirements.map IntelligenceRequirement.dump)),
  ("degradation_allowed", .bool false), ("status", .str status.value),
  ("previous", Json.optStr previous), ("workload_class", .str workloadClass),
  ("metric_registry_fingerprint", .str metricRegistryFingerprint)]

/-- A compiled SLO. -/
structure IntelligenceSLO (digest : Digest) where
  intelligenceSloId : String
  sourceSlaId : String
  version : Int
  previousVersionId : Option String := none
  requirements : List IntelligenceRequirement
  status : CompilationStatus
  hardConstraints : List String := []
  softConstraints : List String := []
  unknownConstraints : List String := []
  provenanceIds : List String := []
  fingerprint : String
  workloadClass : String
  metricRegistryFingerprint : String
  /-- Versions start at one. -/
  version_pos : 1 ≤ version
  /-- The fingerprint is that of the content, and the identity is derived from it. -/
  addressed : Addressed digest "intelligence_slo"
    (sloBody sourceSlaId version requirements status previousVersionId workloadClass
      metricRegistryFingerprint) intelligenceSloId fingerprint

end IntelligenceSlo
end MercuryX
