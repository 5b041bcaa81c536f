import MercuryX.Foundation.Dict
import MercuryX.IntelligenceSlo.Contracts

/-!
# Compiling an SLA

An SLA is put in the order of its requirement ids, its requirements are checked against each other
and against the registry of metrics, and an SLO records the outcome. A compilation is valid exactly
when every metric is defined, no kind is unknown, and requirements of one kind on one metric make
the same comparison.
-/

namespace MercuryX
namespace IntelligenceSlo

open Foundation

/-! ## Normalization -/

/-- Put the requirements of an SLA in the order of their ids. -/
def normalizeSla (sla : ApplicationSLA) : Except Fault ApplicationSLA := do
  let requirements := sortOn IntelligenceRequirement.requirementId sla.requirements
  require (requirements.map IntelligenceRequirement.requirementId).Nodup
    (.value "duplicate requirement id")
  return { sla with requirements := requirements }

theorem normalizeSla_eq_ok_iff {sla normalized : ApplicationSLA} :
    normalizeSla sla = .ok normalized ↔
      (sla.requirements.map IntelligenceRequirement.requirementId).Nodup ∧
        { sla with requirements :=
          (sortOn IntelligenceRequirement.requirementId sla.requirements) } = normalized := by
  have perm := (sortOn_perm IntelligenceRequirement.requirementId sla.requirements).map
    IntelligenceRequirement.requirementId
  simp [normalizeSla, perm.nodup_iff]

/-! ## Conflicts -/

/-- The comparison of a requirement, where it makes one. -/
def IntelligenceRequirement.bound (requirement : IntelligenceRequirement) :
    Option String × Option ℚ :=
  (requirement.operator, requirement.threshold)

/-- What is said about a metric with a kind, by requirements that were read before. -/
abbrev SeenBounds := Dict (String × ConstraintKind) (Option String × Option ℚ)

/-- A requirement of the same kind on the same metric was read that makes another comparison. -/
def clashes (seen : SeenBounds) (requirement : IntelligenceRequirement) : Bool :=
  (seen.get? (requirement.metricId, requirement.kind)).any fun bound => bound ≠ requirement.bound

theorem clashes_eq_false_iff {seen : SeenBounds} {requirement : IntelligenceRequirement} :
    clashes seen requirement = false ↔ ∀ bound,
      seen.get? (requirement.metricId, requirement.kind) = some bound →
        bound = requirement.bound := by
  simp [clashes, Option.any_eq_false]

/-- Read requirements one after another, up to the first that does not fit. -/
def analyzeFrom (registry : MetricRegistry) :
    SeenBounds → List IntelligenceRequirement → CompilationStatus × List String
  | _, [] => (.valid, ["REQUIREMENTS_CONSISTENT"])
  | seen, requirement :: rest =>
      match registry.get requirement.metricId with
      | .error _ => (.invalid, ["UNDEFINED_METRIC"])
      | .ok _ =>
          if clashes seen requirement then
            (.unsatisfiable, ["CONFLICTING_REQUIREMENTS"])
          else if requirement.kind = .unknown then
            (.ambiguous, ["UNKNOWN_CONSTRAINT_KIND"])
          else
            analyzeFrom registry
              (seen.insert (requirement.metricId, requirement.kind) requirement.bound) rest

/-- The status of a list of requirements, and why it has it. -/
def analyzeRequirements (requirements : List IntelligenceRequirement)
    (registry : MetricRegistry) : CompilationStatus × List String :=
  analyzeFrom registry .empty requirements

/-- Requirements that fit together: their metrics are defined, their kinds known, and those of one
kind on one metric make the same comparison. -/
structure Consistent (registry : MetricRegistry) (requirements : List IntelligenceRequirement) :
    Prop where
  /-- Every metric is defined. -/
  defined : ∀ requirement ∈ requirements,
    requirement.metricId ∈ registry.metrics.map MetricDefinition.metricId
  /-- Every kind is known. -/
  known : ∀ requirement ∈ requirements, requirement.kind ≠ .unknown
  /-- Requirements of one kind on one metric agree. -/
  agree : ∀ first ∈ requirements, ∀ second ∈ requirements, first.metricId = second.metricId →
    first.kind = second.kind → first.bound = second.bound

namespace Consistent

variable {registry : MetricRegistry} {requirement : IntelligenceRequirement}
  {rest : List IntelligenceRequirement}

theorem cons_iff : Consistent registry (requirement :: rest) ↔
    requirement.metricId ∈ registry.metrics.map MetricDefinition.metricId ∧
      requirement.kind ≠ .unknown ∧ Consistent registry rest ∧
      ∀ other ∈ rest, other.metricId = requirement.metricId → other.kind = requirement.kind →
        requirement.bound = other.bound := by
  constructor
  · rintro ⟨defined, known, agree⟩
    refine ⟨defined _ List.mem_cons_self, known _ List.mem_cons_self, ⟨?_, ?_, ?_⟩, ?_⟩
    · exact fun other member => defined other (List.mem_cons_of_mem _ member)
    · exact fun other member => known other (List.mem_cons_of_mem _ member)
    · exact fun first firstMember second secondMember =>
        agree first (List.mem_cons_of_mem _ firstMember) second
          (List.mem_cons_of_mem _ secondMember)
    · exact fun other member sameMetric sameKind => agree requirement List.mem_cons_self other
        (List.mem_cons_of_mem _ member) sameMetric.symm sameKind.symm
  · rintro ⟨defined, known, consistent, agree⟩
    refine ⟨List.forall_mem_cons.mpr ⟨defined, consistent.defined⟩,
      List.forall_mem_cons.mpr ⟨known, consistent.known⟩, ?_⟩
    intro first firstMember second secondMember sameMetric sameKind
    rcases List.mem_cons.mp firstMember with rfl | inFirst
    · rcases List.mem_cons.mp secondMember with rfl | inSecond
      · rfl
      · exact agree second inSecond sameMetric.symm sameKind.symm
    · rcases List.mem_cons.mp secondMember with rfl | inSecond
      · exact (agree first inFirst sameMetric sameKind).symm
      · exact consistent.agree first inFirst second inSecond sameMetric sameKind

end Consistent

/-- Reading on succeeds exactly when the rest is consistent and agrees with what was seen. -/
theorem analyzeFrom_valid_iff {registry : MetricRegistry} {seen : SeenBounds}
    {requirements : List IntelligenceRequirement} :
    (analyzeFrom registry seen requirements).1 = .valid ↔ Consistent registry requirements ∧
      ∀ requirement ∈ requirements, ∀ bound,
        seen.get? (requirement.metricId, requirement.kind) = some bound →
          bound = requirement.bound := by
  induction requirements generalizing seen with
  | nil => simpa [analyzeFrom] using ⟨by simp, by simp, by simp⟩
  | cons requirement rest induction =>
      rw [analyzeFrom, Consistent.cons_iff, ← MetricRegistry.exists_get_iff, List.forall_mem_cons]
      cases found : registry.get requirement.metricId with
      | error raised => simp
      | ok metric =>
          rw [← clashes_eq_false_iff]
          cases clash : clashes seen requirement with
          | true => simp
          | false =>
          by_cases unknown : requirement.kind = .unknown
          · simp [unknown]
          simp only [Bool.false_eq_true, if_false, unknown, induction]
          have same := clashes_eq_false_iff.mp clash
          constructor
          · rintro ⟨consistent, agrees⟩
            refine ⟨⟨⟨metric, rfl⟩, unknown, consistent, ?_⟩, trivial, ?_⟩
            · intro other member sameMetric sameKind
              refine agrees other member _ ?_
              rw [sameMetric, sameKind, Dict.get?_insert_self]
            · intro other member bound earlier
              by_cases sameKey : (other.metricId, other.kind) =
                (requirement.metricId, requirement.kind)
              · rw [sameKey] at earlier
                rw [same bound earlier]
                exact agrees other member _ (by rw [sameKey, Dict.get?_insert_self])
              · exact agrees other member bound (by rwa [Dict.get?_insert_of_ne _ sameKey])
          · rintro ⟨⟨_, _, consistent, agree⟩, _, agrees⟩
            refine ⟨consistent, fun other member bound earlier => ?_⟩
            by_cases sameKey : (other.metricId, other.kind) =
              (requirement.metricId, requirement.kind)
            · rw [sameKey, Dict.get?_insert_self] at earlier
              obtain ⟨sameMetric, sameKind⟩ := Prod.mk.inj sameKey
              exact (Option.some_inj.mp earlier) ▸ agree other member sameMetric sameKind
            · rw [Dict.get?_insert_of_ne _ sameKey] at earlier
              exact agrees other member bound earlier

theorem analyzeRequirements_valid_iff {registry : MetricRegistry}
    {requirements : List IntelligenceRequirement} :
    (analyzeRequirements requirements registry).1 = .valid ↔ Consistent registry requirements := by
  simp [analyzeRequirements, analyzeFrom_valid_iff]

/-! ## Compilation -/

/-- The ids of the requirements of a kind, in order. -/
def idsOfKind (kind : ConstraintKind) (requirements : List IntelligenceRequirement) : List String :=
  sortOn id ((requirements.filter fun requirement => requirement.kind = kind).map
    IntelligenceRequirement.requirementId)

/-- Where the requirements of an SLA come from. -/
def slaProvenance (sla : ApplicationSLA) : List String :=
  canonical id (sla.requirements.flatMap IntelligenceRequirement.provenanceIds ++
    sla.requirements.map IntelligenceRequirement.sourceId ++ sla.provenanceIds)

variable (digest : Digest)

/-- The SLO of an SLA that was normalized. -/
def compiledSlo (sla : ApplicationSLA) (registry : MetricRegistry) (version : Int)
    (previousVersionId : Option String) (version_pos : 1 ≤ version) : IntelligenceSLO digest :=
  let status := (analyzeRequirements sla.requirements registry).1
  let body := sloBody sla.slaId version sla.requirements status previousVersionId
    sla.workloadClass (registry.fingerprint digest)
  { intelligenceSloId := addressOf digest "intelligence_slo" (digest.hexdigest body)
    sourceSlaId := sla.slaId
    version := version
    previousVersionId := previousVersionId
    requirements := sla.requirements
    status := status
    hardConstraints := idsOfKind .hard sla.requirements
    softConstraints := idsOfKind .soft sla.requirements
    unknownConstraints := idsOfKind .unknown sla.requirements
    provenanceIds := slaProvenance sla
    fingerprint := digest.hexdigest body
    workloadClass := sla.workloadClass
    metricRegistryFingerprint := registry.fingerprint digest
    version_pos := version_pos
    addressed := ⟨rfl, rfl⟩ }

/-- Compile an SLA to an SLO of a version, with the reasons for its status. -/
def compileSla (sla : ApplicationSLA) (registry : MetricRegistry) (version : Int)
    (previousVersionId : Option String) : Except Fault (IntelligenceSLO digest × List String) := do
  let sla ← normalizeSla sla
  if version_pos : 1 ≤ version then
    .ok (compiledSlo digest sla registry version previousVersionId version_pos,
      (analyzeRequirements sla.requirements registry).2)
  else
    .error (.validation "IntelligenceSLO" "version" "Input should be greater than or equal to 1")

variable {digest}

theorem compileSla_eq_ok {sla : ApplicationSLA} {registry : MetricRegistry} {version : Int}
    {previousVersionId : Option String} {slo : IntelligenceSLO digest} {reasons : List String}
    (compiled : compileSla digest sla registry version previousVersionId = .ok (slo, reasons)) :
    ∃ normalized version_pos, normalizeSla sla = .ok normalized ∧
      compiledSlo digest normalized registry version previousVersionId version_pos = slo ∧
      (analyzeRequirements normalized.requirements registry).2 = reasons := by
  simp only [compileSla, bind_eq_ok] at compiled
  obtain ⟨normalized, outcome, built⟩ := compiled
  split at built
  · obtain ⟨rfl, rfl⟩ := Prod.mk.inj (Except.ok.inj built)
    exact ⟨normalized, _, outcome, rfl, rfl⟩
  · contradiction

/-- Compilation to a version that exists succeeds exactly when the ids of the requirements are
distinct, with the SLO of the normalized SLA. -/
theorem compileSla_eq_ok_iff {sla : ApplicationSLA} {registry : MetricRegistry} {version : Int}
    {previousVersionId : Option String} (version_pos : 1 ≤ version) {slo : IntelligenceSLO digest}
    {reasons : List String} :
    compileSla digest sla registry version previousVersionId = .ok (slo, reasons) ↔
      ∃ normalized, normalizeSla sla = .ok normalized ∧
        compiledSlo digest normalized registry version previousVersionId version_pos = slo ∧
        (analyzeRequirements normalized.requirements registry).2 = reasons := by
  simp [compileSla, version_pos]

end IntelligenceSlo
end MercuryX
