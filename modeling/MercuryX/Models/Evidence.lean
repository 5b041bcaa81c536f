import MercuryX.Foundation.Compact
import MercuryX.Intelligence.Models

/-!
# Capability evidence

Records that support or contradict a capability claim, and the trust that they add up to under the
requirements of a caller.
-/

namespace MercuryX
namespace Models

open Foundation

/-- The kinds of evidence. -/
inductive CapabilityEvidenceKind where
  | declared
  | documented
  | measured
  | observed
  | simulated
  deriving DecidableEq, Repr

/-- The text of a kind of evidence. -/
def CapabilityEvidenceKind.value : CapabilityEvidenceKind → String
  | declared => "declared"
  | documented => "documented"
  | measured => "measured"
  | observed => "observed"
  | simulated => "simulated"

/-- The states of evidence. -/
inductive CapabilityEvidenceState where
  | valid
  | stale
  | conflicting
  | unverified
  | revoked
  deriving DecidableEq, Repr

/-- The text of a state of evidence. -/
def CapabilityEvidenceState.value : CapabilityEvidenceState → String
  | valid => "valid"
  | stale => "stale"
  | conflicting => "conflicting"
  | unverified => "unverified"
  | revoked => "revoked"

/-- How far evidence can be trusted. -/
inductive EvidenceAssessmentStatus where
  | acceptable
  | insufficient
  | conflicting
  | stale
  | unverified
  deriving DecidableEq, Repr

/-- The text of an assessment status. -/
def EvidenceAssessmentStatus.value : EvidenceAssessmentStatus → String
  | acceptable => "acceptable"
  | insufficient => "insufficient"
  | conflicting => "conflicting"
  | stale => "stale"
  | unverified => "unverified"

/-- One record for or against a claim. -/
structure CapabilityEvidence where
  capabilityClaim : String
  source : String
  sourceRevision : String
  referenceId : String
  detail : String
  kind : CapabilityEvidenceKind
  state : CapabilityEvidenceState
  supportsClaim : Bool
  /-- The texts are nonblank. -/
  texts_nonblank : ∀ text ∈ [capabilityClaim, source, sourceRevision, referenceId, detail],
    Text.Nonblank text

instance : DecidableEq CapabilityEvidence := fun left right =>
  decidable_of_iff (left.capabilityClaim = right.capabilityClaim ∧ left.source = right.source ∧
      left.sourceRevision = right.sourceRevision ∧ left.referenceId = right.referenceId ∧
      left.detail = right.detail ∧ left.kind = right.kind ∧ left.state = right.state ∧
      left.supportsClaim = right.supportsClaim) (by
    cases left
    cases right
    simp)

/-- Evidence is ordered by all its fields. -/
def CapabilityEvidence.key (item : CapabilityEvidence) :
    String ×ₗ String ×ₗ String ×ₗ String ×ₗ String ×ₗ String ×ₗ Bool ×ₗ String :=
  toLex (item.capabilityClaim, toLex (item.source, toLex (item.sourceRevision,
    toLex (item.referenceId, toLex (item.kind.value, toLex (item.state.value,
      toLex (item.supportsClaim, item.detail)))))))

/-- What a caller requires of the evidence for a claim. -/
structure CapabilityEvidenceAssessmentRequirements where
  capabilityClaim : String
  requiresEvidence : Bool := false
  requiresCurrentValid : Bool := false
  requiresMeasuredOrObserved : Bool := false
  requiresProductionEvidence : Bool := false
  allowSimulated : Bool := false
  rejectConflicts : Bool := false
  /-- The claim is nonblank. -/
  claim_nonblank : Text.Nonblank capabilityClaim

instance : DecidableEq CapabilityEvidenceAssessmentRequirements := fun left right =>
  decidable_of_iff (left.capabilityClaim = right.capabilityClaim ∧
      left.requiresEvidence = right.requiresEvidence ∧
      left.requiresCurrentValid = right.requiresCurrentValid ∧
      left.requiresMeasuredOrObserved = right.requiresMeasuredOrObserved ∧
      left.requiresProductionEvidence = right.requiresProductionEvidence ∧
      left.allowSimulated = right.allowSimulated ∧
      left.rejectConflicts = right.rejectConflicts) (by
    cases left
    cases right
    simp)

/-- A reason why evidence is not acceptable. -/
structure CapabilityEvidenceIssue where
  issueId : String
  reason : String
  deriving DecidableEq

/-- The trust in a claim, with the evidence for it. -/
structure CapabilityEvidenceAssessment where
  capabilityClaim : String
  requirements : CapabilityEvidenceAssessmentRequirements
  evidence : List CapabilityEvidence
  status : EvidenceAssessmentStatus
  issues : List CapabilityEvidenceIssue
  deriving DecidableEq

/-- The status of evidence before the requirement of current evidence, with the issue found. -/
def assessedStatus (records : List CapabilityEvidence)
    (requirements : CapabilityEvidenceAssessmentRequirements) :
    EvidenceAssessmentStatus × List CapabilityEvidenceIssue :=
  let validSupport := records.filter fun item => item.state = .valid && item.supportsClaim
  let validNegative := records.filter fun item => item.state = .valid && !item.supportsClaim
  let hasConflict := (!validSupport.isEmpty && !validNegative.isEmpty) ||
    records.any fun item => item.state = .conflicting
  let staleOnly := !records.isEmpty && records.all fun item => item.state = .stale
  let unverifiedOnly := !records.isEmpty && records.all fun item =>
    item.state ∈ [.unverified, .revoked]
  if hasConflict then
    (.conflicting, [⟨"conflicting_evidence",
      "evidence contains unresolved conflicting capability claims"⟩])
  else if staleOnly then
    (.stale, [⟨"stale_evidence", "evidence is stale and remains explicitly stale"⟩])
  else if unverifiedOnly then
    (.unverified, [⟨"unverified_evidence", "evidence is unverified or revoked"⟩])
  else if records.isEmpty then
    if requirements.requiresEvidence then
      (.insufficient, [⟨"missing_evidence",
        "hard evidence requirement has no supporting records"⟩])
    else (.unverified, [])
  else if validSupport.isEmpty then
    (.insufficient, [⟨"missing_valid_support",
      "no valid evidence record supports the capability claim"⟩])
  else if requirements.requiresMeasuredOrObserved &&
      !validSupport.any fun item => item.kind ∈ [.measured, .observed] then
    (.insufficient, [⟨"measured_evidence_required",
      "no valid measured or observed evidence supports the capability claim"⟩])
  else if requirements.requiresProductionEvidence &&
      !validSupport.any fun item => item.kind ≠ .simulated || requirements.allowSimulated then
    (.insufficient, [⟨"production_evidence_required",
      "simulated-only evidence is not allowed for production evidence"⟩])
  else (.acceptable, [])

/-- Assess the evidence for one claim. -/
def assessCapabilityEvidence (evidence : List CapabilityEvidence)
    (requirements : CapabilityEvidenceAssessmentRequirements) :
    Except Fault CapabilityEvidenceAssessment := do
  require (∀ item ∈ evidence, item.capabilityClaim = requirements.capabilityClaim)
    (.value "evidence capability claims must match assessment requirements")
  let (status, issues) := assessedStatus evidence requirements
  let validSupport := evidence.filter fun item => item.state = .valid && item.supportsClaim
  let outdated := requirements.requiresCurrentValid && validSupport.isEmpty &&
    status = .acceptable
  return {
    capabilityClaim := requirements.capabilityClaim
    requirements := requirements
    evidence := canonical CapabilityEvidence.key evidence
    status := if outdated then .insufficient else status
    issues := canonical (fun issue => toLex (issue.issueId, issue.reason))
      (if outdated then issues ++ [⟨"current_valid_evidence_required",
        "no current valid evidence supports the capability claim"⟩] else issues) }

/-- The dump of an assessment, with the members of each object in the order of their fields. -/
def CapabilityEvidenceAssessment.dump (assessment : CapabilityEvidenceAssessment) : Json := .obj [
  ("capability_claim", .str assessment.capabilityClaim),
  ("requirements", .obj [
    ("capability_claim", .str assessment.requirements.capabilityClaim),
    ("requires_evidence", .bool assessment.requirements.requiresEvidence),
    ("requires_current_valid", .bool assessment.requirements.requiresCurrentValid),
    ("requires_measured_or_observed", .bool assessment.requirements.requiresMeasuredOrObserved),
    ("requires_production_evidence", .bool assessment.requirements.requiresProductionEvidence),
    ("allow_simulated", .bool assessment.requirements.allowSimulated),
    ("reject_conflicts", .bool assessment.requirements.rejectConflicts)]),
  ("evidence", .arr (assessment.evidence.map fun item => .obj [
    ("capability_claim", .str item.capabilityClaim), ("source", .str item.source),
    ("source_revision", .str item.sourceRevision), ("reference_id", .str item.referenceId),
    ("detail", .str item.detail), ("kind", .str item.kind.value),
    ("state", .str item.state.value), ("supports_claim", .bool item.supportsClaim)])),
  ("status", .str assessment.status.value),
  ("issues", .arr (assessment.issues.map fun issue => .obj [
    ("issue_id", .str issue.issueId), ("reason", .str issue.reason)]))]

/-- The text that assessments are told apart and ordered by. -/
def CapabilityEvidenceAssessment.modelDumpJson (assessment : CapabilityEvidenceAssessment) :
    String :=
  String.ofList assessment.dump.compact

/-! ## Telling assessments apart -/

theorem CapabilityEvidenceKind.value_injective :
    Function.Injective CapabilityEvidenceKind.value := by
  intro left right same
  revert same
  cases left <;> cases right <;> decide

theorem CapabilityEvidenceState.value_injective :
    Function.Injective CapabilityEvidenceState.value := by
  intro left right same
  revert same
  cases left <;> cases right <;> decide

theorem EvidenceAssessmentStatus.value_injective :
    Function.Injective EvidenceAssessmentStatus.value := by
  intro left right same
  revert same
  cases left <;> cases right <;> decide

theorem CapabilityEvidenceAssessment.dump_exact (assessment : CapabilityEvidenceAssessment) :
    assessment.dump.Exact := by
  simp [dump, Json.Exact, Json.ExactMembers, Json.exactItems_iff]

theorem CapabilityEvidenceAssessment.dump_injective :
    Function.Injective CapabilityEvidenceAssessment.dump := by
  intro left right same
  obtain ⟨leftClaim, leftRequirements, leftEvidence, leftStatus, leftIssues⟩ := left
  obtain ⟨rightClaim, rightRequirements, rightEvidence, rightStatus, rightIssues⟩ := right
  simp only [dump, Json.obj.injEq, List.cons.injEq, Prod.mk.injEq, Json.str.injEq, Json.bool.injEq,
    Json.arr.injEq, true_and, and_true] at same
  obtain ⟨rfl, requirements, evidence, status, issues⟩ := same
  have sameRequirements : leftRequirements = rightRequirements := by
    cases leftRequirements
    cases rightRequirements
    simpa using requirements
  have sameEvidence : leftEvidence = rightEvidence := by
    refine List.map_injective_iff.mpr (fun one other same => ?_) evidence
    simp only [Json.obj.injEq, List.cons.injEq, Prod.mk.injEq, Json.str.injEq, Json.bool.injEq,
      true_and, and_true, CapabilityEvidenceKind.value_injective.eq_iff,
      CapabilityEvidenceState.value_injective.eq_iff] at same
    cases one
    cases other
    simpa using same
  have sameIssues : leftIssues = rightIssues := by
    refine List.map_injective_iff.mpr (fun one other same => ?_) issues
    simp only [Json.obj.injEq, List.cons.injEq, Prod.mk.injEq, Json.str.injEq, true_and,
      and_true] at same
    cases one
    cases other
    simpa using same
  rw [sameRequirements, sameEvidence, EvidenceAssessmentStatus.value_injective status, sameIssues]

/-- Assessments are told apart by their texts. -/
theorem CapabilityEvidenceAssessment.modelDumpJson_injective :
    Function.Injective CapabilityEvidenceAssessment.modelDumpJson := by
  intro left right same
  have texts : left.dump.compact = right.dump.compact := String.ofList_injective same
  exact dump_injective (Json.eq_of_compact_eq left.dump_exact right.dump_exact texts)

end Models
end MercuryX
