import MercuryX.Composition.Generation

/-!
# Blocked roles

The evidence of every constraint is assessed on its own, but the assessments are looked up by their
claim, where the last one stands for all. A role is therefore judged by the last constraint on each
of its claims, whichever role that constraint is of.
-/

namespace MercuryX
namespace Composition

open Foundation
open Intelligence (inferWorkloadIntelligence inferredProfile)
open Models (assessCapabilityEvidence CapabilityEvidence CapabilityEvidenceAssessment)

/-! ## Constraints and their evidence -/

namespace CompositionEvidenceConstraint

/-- The evidence of a constraint is acceptable by its own requirements. -/
def Acceptable (constraint : CompositionEvidenceConstraint) : Prop :=
  ∃ assessment, assessCapabilityEvidence constraint.evidence constraint.assessmentRequirements =
    .ok assessment ∧ assessment.status = .acceptable

/-- The constraint is on the role and requires evidence. -/
structure Requires (constraint : CompositionEvidenceConstraint) (role : CompositionRole) :
    Prop where
  /-- The constraint is on the role. -/
  role : constraint.role = role
  /-- The constraint requires evidence. -/
  requiresEvidence : constraint.assessmentRequirements.requiresEvidence = true

theorem exists_assessment (constraint : CompositionEvidenceConstraint) :
    ∃ assessment, assessCapabilityEvidence constraint.evidence
        constraint.assessmentRequirements = .ok assessment ∧
      assessment.capabilityClaim = constraint.capabilityClaim := by
  have exact : ∀ item ∈ constraint.evidence,
      item.capabilityClaim = constraint.assessmentRequirements.capabilityClaim := fun item member =>
    (constraint.claims_exact.2 item member).trans constraint.claims_exact.1.symm
  rw [assessCapabilityEvidence, require_of_true exact]
  exact ⟨_, rfl, constraint.claims_exact.1⟩

end CompositionEvidenceConstraint

namespace CompositionInstantiationRequest

variable (request : CompositionInstantiationRequest)

/-- A role is blocked by its own constraints when one of them requires evidence and has none that is
acceptable. -/
def BlockedByOwn (role : CompositionRole) : Prop :=
  ∃ constraint ∈ request.evidenceConstraints, constraint.Requires role ∧ ¬ constraint.Acceptable

/-- The last constraint on a claim. -/
def lastOn (claim : String) : Option CompositionEvidenceConstraint :=
  request.evidenceConstraints.reverse.find? fun constraint => constraint.capabilityClaim = claim

/-- The last constraint on the claim has no acceptable evidence. -/
def LastUnacceptable (claim : String) : Prop :=
  ∃ last, request.lastOn claim = some last ∧ ¬ last.Acceptable

/-- Where a constraint of the role and the last constraint on its claim differ in their evidence,
other constraints of the role make up for it. -/
structure JudgedAlike (role : CompositionRole) : Prop where
  /-- A constraint that the last on its claim hides is not the only one. -/
  missed : ∀ constraint ∈ request.evidenceConstraints, constraint.Requires role →
    ¬ constraint.Acceptable → ¬ request.LastUnacceptable constraint.capabilityClaim →
      ∃ other ∈ request.evidenceConstraints, other.Requires role ∧
        request.LastUnacceptable other.capabilityClaim
  /-- A constraint that the last on its claim fails is not the only one. -/
  spurious : ∀ constraint ∈ request.evidenceConstraints, constraint.Requires role →
    constraint.Acceptable → request.LastUnacceptable constraint.capabilityClaim →
      request.BlockedByOwn role

end CompositionInstantiationRequest

section Blocked

variable {request : CompositionInstantiationRequest}
  {assessments : List CapabilityEvidenceAssessment}

theorem mem_blockedRoles_iff (assessed : assessConstraints request = .ok assessments)
    {role : CompositionRole} : role ∈ blockedRoles request assessments ↔
      ∃ constraint ∈ request.evidenceConstraints, constraint.Requires role ∧
        request.LastUnacceptable constraint.capabilityClaim := by
  choose own assessedOwn claimOwn using CompositionEvidenceConstraint.exists_assessment
  obtain ⟨_, rfl⟩ := (mapM_eq_ok_iff fun constraint assessment made =>
    Except.ok.inj (made.symm.trans (assessedOwn constraint))).mp assessed
  have acceptable (constraint : CompositionEvidenceConstraint) :
      constraint.Acceptable ↔ (own constraint).status = .acceptable := by
    simp [CompositionEvidenceConstraint.Acceptable, assessedOwn]
  have lookup (claim : String) : (Dict.indexed CapabilityEvidenceAssessment.capabilityClaim
      (request.evidenceConstraints.map own)).get? claim = (request.lastOn claim).map own := by
    rw [Dict.indexed_get?_eq_find?, ← List.map_reverse, List.find?_map]
    simp only [Function.comp_def, claimOwn, CompositionInstantiationRequest.lastOn]
  simp only [blockedRoles, lookup, List.mem_map, List.mem_filter, Bool.and_eq_true]
  constructor
  · rintro ⟨constraint, ⟨member, required, judged⟩, role⟩
    refine ⟨constraint, member, ⟨role, required⟩, ?_⟩
    cases isLast : request.lastOn constraint.capabilityClaim with
    | none => simp [isLast] at judged
    | some last =>
        have unacceptable : (own last).status ≠ .acceptable := by simpa [isLast] using judged
        exact ⟨last, isLast, mt (acceptable last).mp unacceptable⟩
  · rintro ⟨constraint, member, requires, last, isLast, unacceptable⟩
    refine ⟨constraint, ⟨member, requires.requiresEvidence, ?_⟩, requires.role⟩
    simpa [isLast] using mt (acceptable last).mpr unacceptable

variable (request) in
/-- The roles blocked are those that their own constraints block exactly where constraints are
judged like the last ones on their claims, or others make up for it. -/
theorem blocked_iff_own_iff (role : CompositionRole) :
    ∃ assessments, assessConstraints request = .ok assessments ∧
      ((role ∈ blockedRoles request assessments ↔ request.BlockedByOwn role) ↔
        request.JudgedAlike role) := by
  obtain ⟨assessments, assessed⟩ := exists_assessConstraints request
  refine ⟨assessments, assessed, ?_⟩
  rw [mem_blockedRoles_iff assessed]
  constructor
  · intro law
    exact ⟨fun constraint member requires unacceptable _ =>
        law.mpr ⟨constraint, member, requires, unacceptable⟩,
      fun constraint member requires _ failed => law.mp ⟨constraint, member, requires, failed⟩⟩
  · intro alike
    constructor
    · rintro ⟨constraint, member, requires, failed⟩
      by_cases acceptable : constraint.Acceptable
      · exact alike.spurious constraint member requires acceptable failed
      · exact ⟨constraint, member, requires, acceptable⟩
    · rintro ⟨constraint, member, requires, unacceptable⟩
      by_cases failed : request.LastUnacceptable constraint.capabilityClaim
      · exact ⟨constraint, member, requires, failed⟩
      · exact alike.missed constraint member requires unacceptable failed

end Blocked

/-! ## A claim that two roles need -/

/-- What a role requires of the evidence for translation. -/
def translationRequirements : Models.CapabilityEvidenceAssessmentRequirements where
  capabilityClaim := "translation"
  requiresEvidence := true
  claim_nonblank := Text.nonblank_literal rfl

/-- A measurement that supports translation. -/
def translationMeasured : CapabilityEvidence where
  capabilityClaim := "translation"
  source := "benchmark"
  sourceRevision := "1"
  referenceId := "run"
  detail := "passed"
  kind := .measured
  state := .valid
  supportsClaim := true
  texts_nonblank := by decide

/-- The constraint of the primary role, for which there is no evidence. -/
def primaryTranslation : CompositionEvidenceConstraint where
  role := .primary
  capabilityClaim := "translation"
  assessmentRequirements := translationRequirements
  evidence_canonical := rfl
  claims_exact := by decide

/-- The constraint of the verifier, for which there is evidence. -/
def verifierTranslation : CompositionEvidenceConstraint where
  role := .verifier
  capabilityClaim := "translation"
  assessmentRequirements := translationRequirements
  evidence := [translationMeasured]
  evidence_canonical := rfl
  claims_exact := by decide

theorem primaryTranslation_unacceptable : ¬ primaryTranslation.Acceptable := by
  rintro ⟨assessment, assessed, acceptable⟩
  obtain rfl := Except.ok.inj (show Except.ok _ = Except.ok assessment from assessed)
  exact absurd acceptable (by decide)

theorem verifierTranslation_acceptable : verifierTranslation.Acceptable :=
  ⟨_, rfl, by decide⟩

/-- There is a request in which the verifier's constraint on a claim comes after the primary's. -/
theorem exists_translationRequest : ∃ request : CompositionInstantiationRequest,
    request.evidenceConstraints = [primaryTranslation, verifierTranslation] := by
  let signals := Graph.plainSignals "text" none
  have inferred : inferWorkloadIntelligence signals =
      .ok (inferredProfile signals .text .restricted) := rfl
  obtain ⟨result, graph, _, given, built⟩ := Graph.exists_built_of_inferred inferred (by decide)
  exact ⟨{ builtRequest capableRegistry given built with
    evidenceConstraints := [primaryTranslation, verifierTranslation]
    constraints_nodup := by decide
    constraints_sorted := by rfl }, rfl⟩

/-- The evidence of the verifier unblocks the primary role. -/
theorem verifier_unblocks_primary :
    ¬ ∀ (request : CompositionInstantiationRequest) (role : CompositionRole)
        (assessments : List CapabilityEvidenceAssessment),
      assessConstraints request = .ok assessments →
        (role ∈ blockedRoles request assessments ↔ request.BlockedByOwn role) := by
  intro law
  obtain ⟨request, constraints⟩ := exists_translationRequest
  obtain ⟨assessments, assessed⟩ := exists_assessConstraints request
  have own : request.BlockedByOwn .primary := by
    refine ⟨primaryTranslation, ?_, ⟨rfl, rfl⟩, primaryTranslation_unacceptable⟩
    rw [constraints]
    exact List.mem_cons_self
  have last : request.lastOn "translation" = some verifierTranslation := by
    rw [CompositionInstantiationRequest.lastOn, constraints]
    rfl
  obtain ⟨constraint, member, _, judge, isLast, failed⟩ :=
    (mem_blockedRoles_iff assessed).mp ((law request .primary assessments assessed).mpr own)
  have claim : constraint.capabilityClaim = "translation" := by
    rw [constraints] at member
    rcases List.mem_pair.mp member with rfl | rfl
    all_goals rfl
  obtain rfl := Option.some.inj ((claim ▸ isLast).symm.trans last)
  exact failed verifierTranslation_acceptable

end Composition
end MercuryX
