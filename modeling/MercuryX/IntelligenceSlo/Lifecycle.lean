import MercuryX.IntelligenceSlo.Compiler

/-!
# Revising an SLO

A revision compiles the SLA anew and keeps the current SLO when the requirements, the workload
class and the registry are unchanged. The id, the provenance and the status are not compared, so a
chain of revisions follows the SLAs exactly when those agree wherever the short-cut is taken.
-/

namespace MercuryX
namespace IntelligenceSlo

open Foundation

variable {digest : Digest}

/-! ## Revisions -/

/-- Revise an SLO to what an SLA asks for now. -/
def reviseSlo (old : IntelligenceSLO digest) (sla : ApplicationSLA) (registry : MetricRegistry) :
    Except Fault (IntelligenceSLO digest × List String) := do
  let (candidate, _) ← compileSla digest sla registry old.version old.previousVersionId
  if candidate.requirements = old.requirements ∧ candidate.workloadClass = old.workloadClass ∧
      candidate.metricRegistryFingerprint = old.metricRegistryFingerprint then
    return (old, ["UNCHANGED_SLO"])
  else
    compileSla digest sla registry (old.version + 1) (some old.intelligenceSloId)

/-- What an SLO says, apart from its version and the version it replaces. -/
structure SloContent where
  sourceSlaId : String
  requirements : List IntelligenceRequirement
  status : CompilationStatus
  hardConstraints : List String
  softConstraints : List String
  unknownConstraints : List String
  provenanceIds : List String
  workloadClass : String
  metricRegistryFingerprint : String
  deriving DecidableEq

/-- The content of an SLO. -/
def IntelligenceSLO.content (slo : IntelligenceSLO digest) : SloContent where
  sourceSlaId := slo.sourceSlaId
  requirements := slo.requirements
  status := slo.status
  hardConstraints := slo.hardConstraints
  softConstraints := slo.softConstraints
  unknownConstraints := slo.unknownConstraints
  provenanceIds := slo.provenanceIds
  workloadClass := slo.workloadClass
  metricRegistryFingerprint := slo.metricRegistryFingerprint

variable (digest) in
/-- The content that a normalized SLA is compiled to. -/
def contentOf (sla : ApplicationSLA) (registry : MetricRegistry) : SloContent where
  sourceSlaId := sla.slaId
  requirements := sla.requirements
  status := (analyzeRequirements sla.requirements registry).1
  hardConstraints := idsOfKind .hard sla.requirements
  softConstraints := idsOfKind .soft sla.requirements
  unknownConstraints := idsOfKind .unknown sla.requirements
  provenanceIds := slaProvenance sla
  workloadClass := sla.workloadClass
  metricRegistryFingerprint := registry.fingerprint digest

/-- Two contents agree on what a revision compares. -/
def SloContent.Unchanged (new old : SloContent) : Prop :=
  new.requirements = old.requirements ∧ new.workloadClass = old.workloadClass ∧
    new.metricRegistryFingerprint = old.metricRegistryFingerprint

theorem reviseSlo_of_unchanged {old : IntelligenceSLO digest} {sla normalized : ApplicationSLA}
    {registry : MetricRegistry} (normal : normalizeSla sla = .ok normalized)
    (unchanged : (contentOf digest normalized registry).Unchanged old.content) :
    reviseSlo old sla registry = .ok (old, ["UNCHANGED_SLO"]) := by
  rw [reviseSlo, (compileSla_eq_ok_iff old.version_pos).mpr ⟨normalized, normal, rfl, rfl⟩]
  exact if_pos unchanged

theorem reviseSlo_of_changed {old : IntelligenceSLO digest} {sla normalized : ApplicationSLA}
    {registry : MetricRegistry} (normal : normalizeSla sla = .ok normalized)
    (changed : ¬ (contentOf digest normalized registry).Unchanged old.content) :
    reviseSlo old sla registry =
      compileSla digest sla registry (old.version + 1) (some old.intelligenceSloId) := by
  rw [reviseSlo, (compileSla_eq_ok_iff old.version_pos).mpr ⟨normalized, normal, rfl, rfl⟩]
  exact if_neg changed

theorem exists_normalized_of_revise {old next : IntelligenceSLO digest} {sla : ApplicationSLA}
    {registry : MetricRegistry} {reasons : List String}
    (revised : reviseSlo old sla registry = .ok (next, reasons)) :
    ∃ normalized, normalizeSla sla = .ok normalized := by
  simp only [reviseSlo, bind_eq_ok] at revised
  obtain ⟨candidate, compiled, _⟩ := revised
  obtain ⟨normalized, _, normal, _⟩ := compileSla_eq_ok compiled
  exact ⟨normalized, normal⟩

/-! ## Chains of revisions -/

/-- An SLA with the registry it is compiled against. -/
abbrev Revision := ApplicationSLA × MetricRegistry

variable (digest) in
/-- An SLO that is revised again and again. -/
def revisions : Machine (IntelligenceSLO digest) Revision Unit Fault :=
  .ofFunction fun slo revision => (reviseSlo slo revision.1 revision.2).map Prod.fst

/-- The SLO that a revision leaves says what the SLA is compiled to. It is the replaced SLO where
that said the same, and otherwise its next version. -/
def Follows (old : IntelligenceSLO digest) (revision : Revision) (next : IntelligenceSLO digest) :
    Prop :=
  ∃ compiled reasons, compileSla digest revision.1 revision.2 1 none = .ok (compiled, reasons) ∧
    next.content = compiled.content ∧
    (old.content = compiled.content → next = old) ∧
    (old.content ≠ compiled.content →
      next.version = old.version + 1 ∧ next.previousVersionId = some old.intelligenceSloId)

/-- Whatever a revision returns follows the SLA. -/
def RevisionLaw (old : IntelligenceSLO digest) (revision : Revision) : Prop :=
  ∀ next reasons, reviseSlo old revision.1 revision.2 = .ok (next, reasons) →
    Follows old revision next

/-- An SLA with the requirements, the workload class and the registry of an SLO also has its id, its
provenance and its status. -/
def RestAgrees (old : IntelligenceSLO digest) (revision : Revision) : Prop :=
  ∀ normalized, normalizeSla revision.1 = .ok normalized →
    (contentOf digest normalized revision.2).Unchanged old.content →
      contentOf digest normalized revision.2 = old.content

theorem revisionLaw_iff {old : IntelligenceSLO digest} {revision : Revision} :
    RevisionLaw old revision ↔ RestAgrees old revision := by
  constructor
  · intro law normalized normal unchanged
    obtain ⟨compiled, reasons, isCompiled, same, _⟩ :=
      law old _ (reviseSlo_of_unchanged normal unchanged)
    obtain ⟨other, _, otherNormal, rfl, _⟩ := compileSla_eq_ok isCompiled
    obtain rfl := Except.ok.inj (normal.symm.trans otherNormal)
    exact same.symm
  · intro agrees next reasons revised
    obtain ⟨normalized, normal⟩ := exists_normalized_of_revise revised
    refine ⟨_, _, (compileSla_eq_ok_iff le_rfl).mpr ⟨normalized, normal, rfl, rfl⟩, ?_⟩
    by_cases unchanged : (contentOf digest normalized revision.2).Unchanged old.content
    · rw [reviseSlo_of_unchanged normal unchanged] at revised
      obtain ⟨rfl, _⟩ := Prod.mk.inj (Except.ok.inj revised)
      have same := (agrees normalized normal unchanged).symm
      exact ⟨same, fun _ => rfl, fun different => absurd same different⟩
    · rw [reviseSlo_of_changed normal unchanged] at revised
      obtain ⟨other, _, otherNormal, rfl, _⟩ := compileSla_eq_ok revised
      obtain rfl := Except.ok.inj (normal.symm.trans otherNormal)
      refine ⟨rfl, fun same => ?_, fun _ => ⟨rfl, rfl⟩⟩
      exact absurd (same ▸ ⟨rfl, rfl, rfl⟩) unchanged

/-- Along every chain of revisions each SLO follows its SLA exactly when, at each step whose SLA has
the requirements, the workload class and the registry of the current SLO, the id, the provenance
and the status agree as well. -/
theorem revisions_follow_iff (slo : IntelligenceSLO digest) (chain : List Revision) :
    (revisions digest).AllSteps RevisionLaw slo chain ↔
      (revisions digest).AllSteps RestAgrees slo chain := by
  simp only [Machine.allSteps_iff, revisionLaw_iff]

theorem content_of_chain {slo : IntelligenceSLO digest} {chain : List Revision}
    (agrees : (revisions digest).AllSteps RestAgrees slo chain) {front : List Revision}
    {last : Revision} (ends : (revisions digest).succeeded slo chain = front ++ [last]) :
    ∃ compiled reasons, compileSla digest last.1 last.2 1 none = .ok (compiled, reasons) ∧
      ((revisions digest).run slo chain).content = compiled.content := by
  let invariant : List Revision → IntelligenceSLO digest → Prop := fun past state =>
    ∀ front last, past = front ++ [last] → ∃ compiled reasons,
      compileSla digest last.1 last.2 1 none = .ok (compiled, reasons) ∧
        state.content = compiled.content
  have traced : invariant ((revisions digest).succeeded slo chain)
      ((revisions digest).run slo chain) := by
    refine agrees.trace invariant (fun front last empty => by simp at empty) ?_
    intro past state revision answer next _ agree step front last ends
    obtain ⟨rfl, same⟩ := List.append_inj' ends rfl
    obtain rfl := List.singleton_inj.mp same
    have moved := Machine.ofFunction_step_ok.mp step
    cases revised : reviseSlo state revision.1 revision.2 with
    | error raised => simp [revised, Except.map] at moved
    | ok outcome =>
        obtain rfl : outcome.1 = next := by simpa [revised, Except.map] using moved
        obtain ⟨compiled, reasons, isCompiled, same, _⟩ :=
          revisionLaw_iff.mpr agree outcome.1 outcome.2 revised
        exact ⟨compiled, reasons, isCompiled, same⟩
  exact traced front last ends

/-! ## An SLA under another id -/

theorem application_given : ["application"] ≠ [] := by
  simp

/-- An SLA without requirements. -/
def emptySla (slaId : String) : ApplicationSLA :=
  ⟨slaId, "interactive", [], ["application"], application_given⟩

theorem normalizeSla_emptySla (slaId : String) :
    normalizeSla (emptySla slaId) = .ok (emptySla slaId) :=
  normalizeSla_eq_ok_iff.mpr ⟨List.nodup_nil, rfl⟩

/-- The registry without metrics. -/
def emptyRegistry : MetricRegistry := ⟨[], 1, List.nodup_nil, rfl⟩

/-- The SLO of one SLA is returned for an SLA of another id. -/
theorem revision_keeps_foreign_slo :
    ¬ ∀ (slo : IntelligenceSLO .sha256) (chain : List Revision),
      (revisions .sha256).AllSteps RevisionLaw slo chain := by
  intro claim
  let slo := compiledSlo .sha256 (emptySla "first") emptyRegistry 1 none le_rfl
  have law : RevisionLaw slo (emptySla "second", emptyRegistry) :=
    (claim slo [(emptySla "second", emptyRegistry)]).1
  have same := revisionLaw_iff.mp law _ (normalizeSla_emptySla "second") ⟨rfl, rfl, rfl⟩
  have sameId : "second" = "first" := congrArg SloContent.sourceSlaId same
  exact absurd sameId (by decide)

end IntelligenceSlo
end MercuryX
