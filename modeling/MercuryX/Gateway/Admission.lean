import MercuryX.Gateway.Results
import MercuryX.Gateway.Session

/-!
# Gateway admission

Admission folds the evidence of five stages into flags and reasons, and three records check the
fold against each other. A stage that does not pass clears its flag and gives a reason, whatever
its evidence is, so the records always agree and every call is decided.
-/

namespace MercuryX
namespace Gateway

open Foundation

/-! ## Stages -/

section Stages

variable {α ι : Type} [DecidableEq ι]

/-- Reasons, where a condition holds. -/
def reasonsIf (condition : Prop) [Decidable condition] (reasons : List String) : List String :=
  if condition then reasons else []

@[simp] theorem mem_reasonsIf {condition : Prop} [Decidable condition] {reasons : List String}
    {reason : String} : reason ∈ reasonsIf condition reasons ↔ condition ∧ reason ∈ reasons := by
  unfold reasonsIf
  split <;> simp_all

@[simp] theorem reasonsIf_eq_nil {condition : Prop} [Decidable condition]
    {reasons : List String} : reasonsIf condition reasons = [] ↔ condition → reasons = [] := by
  unfold reasonsIf
  split <;> simp_all

/-- The reasons why a stage has no positive outcome. -/
def outcomeReasons (missing : String) (passed : α → Bool) (failed : α → List String) :
    Option α → List String
  | none => [missing]
  | some evidence => reasonsIf (passed evidence = false) (failed evidence)

/-- The reason why the evidence of a stage is foreign. -/
def identityReasons (inconsistent : String) (identity : α → ι) (expected : ι) :
    Option α → List String
  | none => []
  | some evidence => reasonsIf (identity evidence ≠ expected) [inconsistent]

/-- A stage passed: its evidence is present, reports success and is for the expected identity. -/
def stagePassed (passed : α → Bool) (identity : α → ι) (expected : ι) (evidence : Option α) :
    Bool :=
  evidence.any fun found => passed found && identity found = expected

variable {passed : α → Bool} {identity : α → ι} {expected : ι} {evidence : Option α}

@[simp] theorem stagePassed_eq_true : stagePassed passed identity expected evidence = true ↔
    ∃ found ∈ evidence, passed found = true ∧ identity found = expected := by
  cases evidence <;> simp [stagePassed]

omit [DecidableEq ι] in
theorem outcomeReasons_eq_nil {missing : String} {failed : α → List String}
    (positive : ∃ found ∈ evidence, passed found = true ∧ identity found = expected) :
    outcomeReasons missing passed failed evidence = [] := by
  obtain ⟨found, rfl, success, _⟩ := positive
  simp [outcomeReasons, success]

theorem identityReasons_eq_nil {inconsistent : String}
    (positive : ∃ found ∈ evidence, passed found = true ∧ identity found = expected) :
    identityReasons inconsistent identity expected evidence = [] := by
  obtain ⟨found, rfl, _, same⟩ := positive
  simp [identityReasons, same]

/-- A stage without a reason against it passed, where failures are explained. -/
theorem passed_of_reasons_eq_nil {missing inconsistent : String} {failed : α → List String}
    (explained : ∀ found ∈ evidence, passed found = false → failed found ≠ [])
    (outcome : outcomeReasons missing passed failed evidence = [])
    (same : identityReasons inconsistent identity expected evidence = []) :
    ∃ found ∈ evidence, passed found = true ∧ identity found = expected := by
  cases evidence with
  | none => simp [outcomeReasons] at outcome
  | some found =>
      simp only [outcomeReasons, reasonsIf_eq_nil] at outcome
      simp only [identityReasons, reasonsIf_eq_nil, List.cons_ne_nil, imp_false, not_not] at same
      refine ⟨found, rfl, ?_, same⟩
      by_contra failing
      rw [Bool.not_eq_true] at failing
      exact explained found rfl failing (outcome failing)

theorem outcomeReasons_nonblank {missing : String} {failed : α → List String}
    (missingVisible : Text.Nonblank missing)
    (failedVisible : ∀ found ∈ evidence, ∀ reason ∈ failed found, Text.Nonblank reason) :
    ∀ reason ∈ outcomeReasons missing passed failed evidence, Text.Nonblank reason := by
  intro reason member
  cases evidence with
  | none =>
      obtain rfl : reason = missing := by simpa [outcomeReasons] using member
      exact missingVisible
  | some found => exact failedVisible found rfl reason (mem_reasonsIf.mp member).2

theorem identityReasons_nonblank {inconsistent : String} (visible : Text.Nonblank inconsistent) :
    ∀ reason ∈ identityReasons inconsistent identity expected evidence,
      Text.Nonblank reason := by
  intro reason member
  cases evidence with
  | none => simp [identityReasons] at member
  | some found =>
      obtain rfl := List.mem_singleton.mp (mem_reasonsIf.mp member).2
      exact visible

/-- Reasons are nonblank, and there are none exactly when every stage passed. -/
def Explained (allPassed : Bool) (reasons : List String) : Prop :=
  (∀ reason ∈ reasons, Text.Nonblank reason) ∧ (allPassed = true ↔ reasons = [])

/-- The checks of evidence that carries reasons. -/
def explainedRules (contract blank contradicted unexplained : String) (allPassed : Bool)
    (reasons : List String) : Except Fault Unit := do
  rule contract "reasons" (∀ reason ∈ reasons, Text.Nonblank reason) blank
  rule contract "" (¬ (allPassed = true ∧ reasons ≠ [])) contradicted
  rule contract "" (¬ (allPassed = false ∧ reasons = [])) unexplained

@[simp] theorem explainedRules_eq_ok {contract blank contradicted unexplained : String}
    {allPassed : Bool} {reasons : List String} {done : Unit} :
    explainedRules contract blank contradicted unexplained allPassed reasons = .ok done ↔
      Explained allPassed reasons := by
  simp only [explainedRules, Explained, bind_eq_ok, rule_eq_ok, exists_const, not_and, not_not]
  cases allPassed <;> simp

end Stages

/-! ## Contracts -/

/-- The outcome of an admission. -/
inductive GatewayAdmissionStatus where
  | accepted
  | rejected
  deriving DecidableEq, Repr

/-- What the stages of an admission came to. -/
structure AdmissionFindings where
  normalizationCompleted : Bool
  validationPassed : Bool
  sessionBindingValid : Bool
  idempotencyValid : Bool
  constraintsCanonicalized : Bool
  reasons : List String

namespace AdmissionFindings

/-- Every stage passed. -/
def allPassed (findings : AdmissionFindings) : Bool :=
  findings.normalizationCompleted && findings.validationPassed && findings.sessionBindingValid &&
    findings.idempotencyValid && findings.constraintsCanonicalized

/-- The reasons explain the findings. -/
def Valid (findings : AdmissionFindings) : Prop :=
  Explained findings.allPassed findings.reasons

/-- The checks of admission evidence. -/
def validate (findings : AdmissionFindings) : Except Fault Unit :=
  explainedRules "GatewayAdmissionEvidence" "admission reasons must be non-empty"
    "successful admission evidence cannot contain rejection reasons"
    "failed admission evidence requires explicit reasons" findings.allPassed findings.reasons

theorem validate_eq_ok_iff {findings : AdmissionFindings} {done : Unit} :
    findings.validate = .ok done ↔ findings.Valid :=
  explainedRules_eq_ok

end AdmissionFindings

/-- The evidence of an admission. -/
structure GatewayAdmissionEvidence extends AdmissionFindings where
  /-- The reasons explain the findings. -/
  valid : toAdmissionFindings.Valid

/-- Construct the evidence of an admission. -/
def GatewayAdmissionEvidence.construct :
    AdmissionFindings → Except Fault GatewayAdmissionEvidence :=
  checked AdmissionFindings.validate AdmissionFindings.validate_eq_ok_iff .mk

theorem GatewayAdmissionEvidence.construct_eq_ok_iff {findings : AdmissionFindings}
    {evidence : GatewayAdmissionEvidence} :
    construct findings = .ok evidence ↔ evidence.toAdmissionFindings = findings := by
  rw [construct, checked_eq_ok_iff]
  constructor
  · rintro ⟨valid, rfl⟩
    rfl
  · rintro rfl
    exact ⟨evidence.valid, rfl⟩

/-- The content of a decision. -/
structure DecisionFields where
  decisionId : String
  requestId : String
  workloadId : String
  sessionId : String
  status : GatewayAdmissionStatus
  normalizedRequest : Option WorkloadRequest
  canonicalConstraints : List CanonicalConstraint
  evidence : GatewayAdmissionEvidence

namespace DecisionFields

/-- Identity fields are nonblank, an accepted request is there and passed every stage, and a
rejection has reasons. -/
structure Valid (fields : DecisionFields) : Prop where
  /-- Identity fields are nonblank. -/
  identity_nonblank : ∀ text ∈ [fields.decisionId, fields.requestId, fields.workloadId,
    fields.sessionId], Text.Nonblank text
  /-- An accepted request passed every stage. -/
  accepted_passed : fields.status = .accepted → fields.evidence.allPassed = true
  /-- An accepted request is there. -/
  accepted_request : fields.status = .accepted → fields.normalizedRequest.isSome
  /-- A rejection has reasons. -/
  rejected_reasons : fields.status = .rejected → fields.evidence.reasons ≠ []

/-- The checks of a decision. -/
def validate (fields : DecisionFields) : Except Fault Unit := do
  forEach (fun field => rule "GatewayAdmissionDecision" field.1 (Text.Nonblank field.2)
      "admission identity must be non-empty") [("decision_id", fields.decisionId),
    ("request_id", fields.requestId), ("workload_id", fields.workloadId),
    ("session_id", fields.sessionId)]
  match fields.status with
  | .accepted => do
      rule "GatewayAdmissionDecision" ""
        (fields.evidence.allPassed = true ∧ fields.evidence.reasons = [])
        "accepted decision requires every stage to pass"
      rule "GatewayAdmissionDecision" "" (fields.normalizedRequest.isSome)
        "accepted decision requires a normalized request"
  | .rejected =>
      rule "GatewayAdmissionDecision" "" (fields.evidence.reasons ≠ [])
        "rejected decision requires explicit reasons"

theorem validate_eq_ok_iff {fields : DecisionFields} {done : Unit} :
    fields.validate = .ok done ↔ fields.Valid := by
  have silent := fields.evidence.valid.2
  simp only [validate, bind_eq_ok, forEach_eq_ok, rule_eq_ok, exists_const]
  constructor
  · rintro ⟨visible, outcome⟩
    refine ⟨by simpa using visible, fun accepted => ?_, fun accepted => ?_, fun rejected => ?_⟩
    · simp only [accepted, bind_eq_ok, rule_eq_ok, exists_const] at outcome
      exact outcome.1.1
    · simp only [accepted, bind_eq_ok, rule_eq_ok, exists_const] at outcome
      exact outcome.2
    · simpa only [rejected, rule_eq_ok] using outcome
  · intro valid
    refine ⟨by simpa using valid.identity_nonblank, ?_⟩
    cases status : fields.status with
    | accepted =>
        have passed := valid.accepted_passed status
        simp only [bind_eq_ok, rule_eq_ok, exists_const]
        exact ⟨⟨passed, silent.mp passed⟩, valid.accepted_request status⟩
    | rejected => simpa only [rule_eq_ok] using valid.rejected_reasons status

end DecisionFields

/-- A decision about the admission of a request. -/
structure GatewayAdmissionDecision extends DecisionFields where
  /-- The decision passed its checks. -/
  valid : toDecisionFields.Valid

/-- The identity that a decision is about. -/
def GatewayAdmissionDecision.identity (decision : GatewayAdmissionDecision) : Identity :=
  (decision.requestId, decision.workloadId, decision.sessionId)

/-- Construct a decision. -/
def GatewayAdmissionDecision.construct :
    DecisionFields → Except Fault GatewayAdmissionDecision :=
  checked DecisionFields.validate DecisionFields.validate_eq_ok_iff .mk

theorem GatewayAdmissionDecision.construct_eq_ok_iff {fields : DecisionFields}
    {decision : GatewayAdmissionDecision} :
    construct fields = .ok decision ↔ decision.toDecisionFields = fields := by
  rw [construct, checked_eq_ok_iff]
  constructor
  · rintro ⟨valid, rfl⟩
    rfl
  · rintro rfl
    exact ⟨decision.valid, rfl⟩

/-! ## Evaluation -/

/-- The identity of a binding. -/
def SessionRequestBinding.identity (binding : SessionRequestBinding) : Identity :=
  (binding.requestId, binding.workloadId, binding.sessionIdentity.sessionId)

/-- The arguments of an admission: the identity of a request, and the evidence of the stages. -/
structure AdmissionCall where
  decisionId : String
  requestId : String
  workloadId : String
  sessionId : String
  normalizationResult : Option NormalizationResult
  validationResult : Option GatewayValidationResult
  sessionBinding : Option SessionRequestBinding
  idempotencyValid : Option Bool
  constraintResult : Option ConstraintNormalizationResult

namespace AdmissionCall

variable (call : AdmissionCall)

/-- The identity that is to be admitted. -/
def identity : Identity := (call.requestId, call.workloadId, call.sessionId)

/-- The identity that validation has to report. -/
def reportedIdentity : Option String × Option String × Option String :=
  (some call.requestId, some call.workloadId, some call.sessionId)

/-- The request that was normalized. -/
def normalizedRequest : Option WorkloadRequest :=
  call.normalizationResult.bind NormalizationResult.normalizedRequest

/-- The request that was validated. -/
def validatedRequest : Option WorkloadRequest :=
  call.validationResult.bind GatewayValidationResult.validatedRequest

/-- Another request was validated than was normalized. -/
def mismatched : Bool :=
  match call.normalizedRequest, call.validatedRequest with
  | some normalized, some validated => !validated.same normalized
  | _, _ => false

/-- Why a call is rejected. -/
def reasons : List String :=
  outcomeReasons "normalization evidence is missing" NormalizationResult.normalized
      (fun _ => ["normalization did not complete"]) call.normalizationResult ++
    outcomeReasons "validation evidence is missing" GatewayValidationResult.accepted
      (fun _ => ["gateway validation failed"]) call.validationResult ++
    outcomeReasons "session binding evidence is missing or invalid" (fun _ => true) (fun _ => [])
      call.sessionBinding ++
    outcomeReasons "idempotency evidence is missing" id (fun _ => ["idempotency conflict detected"])
      call.idempotencyValid ++
    outcomeReasons "constraint canonicalization evidence is missing"
      ConstraintNormalizationResult.canonicalized
      (fun _ => ["constraint canonicalization failed"]) call.constraintResult ++
    identityReasons "normalization identity is inconsistent" NormalizationResult.identity
      call.identity call.normalizationResult ++
    identityReasons "validation identity is inconsistent" GatewayValidationResult.identity
      call.reportedIdentity call.validationResult ++
    identityReasons "session binding identity is inconsistent" SessionRequestBinding.identity
      call.identity call.sessionBinding ++
    identityReasons "constraint identity is inconsistent" ConstraintNormalizationResult.identity
      call.identity call.constraintResult ++
    reasonsIf (call.mismatched = true) ["validated request does not match normalized request"]

/-- What the stages of a call came to. -/
def findings : AdmissionFindings where
  normalizationCompleted := stagePassed NormalizationResult.normalized
    NormalizationResult.identity call.identity call.normalizationResult
  validationPassed := stagePassed GatewayValidationResult.accepted
    GatewayValidationResult.identity call.reportedIdentity call.validationResult &&
      !call.mismatched
  sessionBindingValid := stagePassed (fun _ => true) SessionRequestBinding.identity call.identity
    call.sessionBinding
  idempotencyValid := call.idempotencyValid = some true
  constraintsCanonicalized := stagePassed ConstraintNormalizationResult.canonicalized
    ConstraintNormalizationResult.identity call.identity call.constraintResult
  reasons := call.reasons

/-- The decision that the evidence of a call leads to. -/
def fields (evidence : GatewayAdmissionEvidence) : DecisionFields where
  decisionId := call.decisionId
  requestId := call.requestId
  workloadId := call.workloadId
  sessionId := call.sessionId
  status := if call.findings.allPassed then .accepted else .rejected
  normalizedRequest := call.normalizedRequest
  canonicalConstraints :=
    call.constraintResult.elim [] ConstraintNormalizationResult.constraints
  evidence := evidence

end AdmissionCall

/-- Decide about the admission of a request. -/
def evaluateGatewayAdmission (call : AdmissionCall) : Except Fault GatewayAdmissionDecision := do
  let evidence ← GatewayAdmissionEvidence.construct call.findings
  GatewayAdmissionDecision.construct (call.fields evidence)

namespace AdmissionCall

variable {call : AdmissionCall}

/-- Every stage has evidence, its evidence reports success for the identity of the call, and the
validated request is the normalized one. -/
structure Passed (call : AdmissionCall) : Prop where
  /-- Normalization completed. -/
  normalized : ∃ result ∈ call.normalizationResult,
    result.normalized = true ∧ result.identity = call.identity
  /-- Validation accepted. -/
  validated : ∃ result ∈ call.validationResult,
    result.accepted = true ∧ result.identity = call.reportedIdentity
  /-- The session is bound. -/
  bound : ∃ binding ∈ call.sessionBinding, binding.identity = call.identity
  /-- The idempotency key has no conflict. -/
  idempotent : call.idempotencyValid = some true
  /-- The constraints are canonical. -/
  canonicalized : ∃ result ∈ call.constraintResult,
    result.canonicalized = true ∧ result.identity = call.identity
  /-- The validated request is the normalized one. -/
  agreed : ∀ normalized ∈ call.normalizedRequest, ∀ validated ∈ call.validatedRequest,
    validated.same normalized = true

theorem mismatched_eq_false_iff : call.mismatched = false ↔
    ∀ normalized ∈ call.normalizedRequest, ∀ validated ∈ call.validatedRequest,
      validated.same normalized = true := by
  unfold mismatched
  cases call.normalizedRequest <;> cases call.validatedRequest <;> simp

/-- Every flag is set exactly when every stage passed. -/
theorem allPassed_findings_iff : call.findings.allPassed = true ↔ call.Passed := by
  simp only [AdmissionFindings.allPassed, findings, Bool.and_eq_true, stagePassed_eq_true,
    decide_eq_true_eq, Bool.not_eq_true', mismatched_eq_false_iff, true_and]
  constructor
  · rintro ⟨⟨⟨⟨normalized, validated, agreed⟩, bound⟩, idempotent⟩, canonicalized⟩
    exact ⟨normalized, validated, bound, idempotent, canonicalized, agreed⟩
  · rintro ⟨normalized, validated, bound, idempotent, canonicalized, agreed⟩
    exact ⟨⟨⟨⟨normalized, validated, agreed⟩, bound⟩, idempotent⟩, canonicalized⟩

theorem reasons_eq_nil_iff_passed : call.reasons = [] ↔ call.Passed := by
  simp only [reasons, List.append_eq_nil_iff, and_assoc, reasonsIf_eq_nil, List.cons_ne_nil,
    imp_false, Bool.not_eq_true, mismatched_eq_false_iff]
  constructor
  · rintro ⟨normalized, accepted, bound, idempotent, canonicalized, normalizedIdentity,
      acceptedIdentity, boundIdentity, canonicalizedIdentity, agreed⟩
    constructor
    case normalized => exact passed_of_reasons_eq_nil (by simp) normalized normalizedIdentity
    case validated => exact passed_of_reasons_eq_nil (by simp) accepted acceptedIdentity
    case bound =>
      obtain ⟨binding, given, _, same⟩ := passed_of_reasons_eq_nil (by simp) bound boundIdentity
      exact ⟨binding, given, same⟩
    case idempotent =>
      cases given : call.idempotencyValid with
      | none => simp [given, outcomeReasons] at idempotent
      | some valid => simpa [given, outcomeReasons] using idempotent
    case canonicalized =>
      exact passed_of_reasons_eq_nil (by simp) canonicalized canonicalizedIdentity
    case agreed => exact agreed
  · intro passed
    obtain ⟨binding, given, same⟩ := passed.bound
    have bound : ∃ found ∈ call.sessionBinding, true = true ∧ found.identity = call.identity :=
      ⟨binding, given, rfl, same⟩
    exact ⟨outcomeReasons_eq_nil passed.normalized, outcomeReasons_eq_nil passed.validated,
      outcomeReasons_eq_nil bound, by simp [passed.idempotent, outcomeReasons],
      outcomeReasons_eq_nil passed.canonicalized, identityReasons_eq_nil passed.normalized,
      identityReasons_eq_nil passed.validated, identityReasons_eq_nil bound,
      identityReasons_eq_nil passed.canonicalized, passed.agreed⟩

theorem reasons_nonblank : ∀ reason ∈ call.reasons, Text.Nonblank reason := by
  simp only [reasons, List.forall_mem_append]
  refine ⟨⟨⟨⟨⟨⟨⟨⟨⟨?normalized, ?validated⟩, ?bound⟩, ?idempotent⟩, ?canonicalized⟩, ?normalization⟩,
    ?validation⟩, ?binding⟩, ?constraints⟩, ?agreed⟩
  case agreed =>
    intro reason member
    obtain rfl := List.mem_singleton.mp (mem_reasonsIf.mp member).2
    decide
  case normalization | validation | binding | constraints =>
    exact identityReasons_nonblank (by decide)
  case normalized | validated | bound | idempotent | canonicalized =>
    exact outcomeReasons_nonblank (by decide) (fun _ _ => by decide)

/-- A flag is cleared with a reason, and there is no reason without a cleared flag. -/
theorem findings_valid : call.findings.Valid :=
  ⟨reasons_nonblank, allPassed_findings_iff.trans reasons_eq_nil_iff_passed.symm⟩

/-- The identity of the call and its decision are nonblank. -/
def Visible (call : AdmissionCall) : Prop :=
  ∀ text ∈ [call.decisionId, call.requestId, call.workloadId, call.sessionId], Text.Nonblank text

/-- What a decision about a call says. -/
structure Decides (call : AdmissionCall) (decision : GatewayAdmissionDecision) : Prop where
  /-- The decision is about the identity of the call. -/
  identity : decision.decisionId = call.decisionId ∧ decision.identity = call.identity
  /-- A call is accepted exactly when every stage passed. -/
  accepted_iff : decision.status = .accepted ↔ call.Passed
  /-- There are no reasons exactly when the call is accepted. -/
  reasons_iff : decision.evidence.reasons = [] ↔ decision.status = .accepted
  /-- The decision carries the request that was normalized. -/
  request : decision.normalizedRequest = call.normalizedRequest
  /-- The decision carries the canonical constraints. -/
  constraints : decision.canonicalConstraints =
    call.constraintResult.elim [] ConstraintNormalizationResult.constraints

theorem Passed.request (passed : call.Passed) : call.normalizedRequest.isSome := by
  obtain ⟨result, given, success, _⟩ := passed.normalized
  rw [normalizedRequest, given, Option.bind_some, result.request_iff]
  exact success

theorem fields_status {evidence : GatewayAdmissionEvidence} :
    (call.fields evidence).status = .accepted ↔ call.Passed := by
  rw [← allPassed_findings_iff, fields]
  cases call.findings.allPassed <;> simp

/-- The evidence of a call. -/
def evidence (call : AdmissionCall) : GatewayAdmissionEvidence := ⟨call.findings, findings_valid⟩

/-- The decision about a call passes its checks exactly when its identity is nonblank. -/
theorem fields_valid_iff : (call.fields call.evidence).Valid ↔ call.Visible := by
  refine ⟨fun valid => valid.identity_nonblank, fun visible => ?_⟩
  constructor
  case identity_nonblank => exact visible
  case accepted_passed =>
    exact fun accepted => allPassed_findings_iff.mpr (fields_status.mp accepted)
  case accepted_request => exact fun accepted => (fields_status.mp accepted).request
  case rejected_reasons =>
    intro rejected silent
    rw [fields_status.mpr (reasons_eq_nil_iff_passed.mp silent)] at rejected
    contradiction

/-- A call is decided exactly when its identity is nonblank, by what its findings lead to. -/
theorem evaluate_eq_ok_iff {decision : GatewayAdmissionDecision} :
    evaluateGatewayAdmission call = .ok decision ↔
      call.Visible ∧ decision.toDecisionFields = call.fields call.evidence := by
  rw [evaluateGatewayAdmission, bind_eq_ok, ← fields_valid_iff]
  constructor
  · rintro ⟨⟨found, valid⟩, constructed, decided⟩
    obtain rfl := GatewayAdmissionEvidence.construct_eq_ok_iff.mp constructed
    have same := GatewayAdmissionDecision.construct_eq_ok_iff.mp decided
    exact ⟨same ▸ decision.valid, same⟩
  · rintro ⟨_, same⟩
    exact ⟨call.evidence, GatewayAdmissionEvidence.construct_eq_ok_iff.mpr rfl,
      GatewayAdmissionDecision.construct_eq_ok_iff.mpr same⟩

/-- Every call with nonblank identity is decided. -/
theorem exists_evaluate (visible : call.Visible) :
    ∃ decision, evaluateGatewayAdmission call = .ok decision :=
  ⟨⟨call.fields call.evidence, fields_valid_iff.mpr visible⟩,
    evaluate_eq_ok_iff.mpr ⟨visible, rfl⟩⟩

theorem decides_of_evaluate {decision : GatewayAdmissionDecision}
    (evaluated : evaluateGatewayAdmission call = .ok decision) : call.Decides decision := by
  obtain ⟨fields, valid⟩ := decision
  obtain ⟨_, rfl⟩ := evaluate_eq_ok_iff.mp evaluated
  constructor
  case identity => exact ⟨rfl, rfl⟩
  case accepted_iff => exact fields_status
  case reasons_iff => exact reasons_eq_nil_iff_passed.trans fields_status.symm
  case request => rfl
  case constraints => rfl

end AdmissionCall

end Gateway
end MercuryX
