import MercuryX.Gateway.Admission

/-!
# Gateway handoff

The handoff combines the decision about a request with its security result. It is ready only for
one identity throughout, which includes the request that the decision carries.
-/

namespace MercuryX
namespace Gateway

open Foundation

/-! ## Contracts -/

/-- The outcome of a handoff. -/
inductive GatewayHandoffStatus where
  | ready
  | blocked
  deriving DecidableEq, Repr

/-- What a handoff rests on. -/
structure HandoffFindings where
  admissionPassed : Bool
  securityPassed : Bool
  normalizationCompleted : Bool
  validationPassed : Bool
  sessionBindingValid : Bool
  constraintsCanonicalized : Bool
  reasons : List String

namespace HandoffFindings

/-- Everything passed. -/
def allPassed (findings : HandoffFindings) : Bool :=
  findings.admissionPassed && findings.securityPassed && findings.normalizationCompleted &&
    findings.validationPassed && findings.sessionBindingValid && findings.constraintsCanonicalized

/-- The reasons explain the findings. -/
def Valid (findings : HandoffFindings) : Prop :=
  Explained findings.allPassed findings.reasons

/-- The checks of handoff evidence. -/
def validate (findings : HandoffFindings) : Except Fault Unit :=
  explainedRules "GatewayHandoffEvidence" "handoff reasons must be non-empty"
    "successful handoff evidence cannot contain rejection reasons"
    "blocked handoff evidence requires explicit reasons" findings.allPassed findings.reasons

theorem validate_eq_ok_iff {findings : HandoffFindings} {done : Unit} :
    findings.validate = .ok done ↔ findings.Valid :=
  explainedRules_eq_ok

end HandoffFindings

/-- The evidence of a handoff. -/
structure GatewayHandoffEvidence extends HandoffFindings where
  /-- The reasons explain the findings. -/
  valid : toHandoffFindings.Valid

/-- Construct the evidence of a handoff. -/
def GatewayHandoffEvidence.construct : HandoffFindings → Except Fault GatewayHandoffEvidence :=
  checked HandoffFindings.validate HandoffFindings.validate_eq_ok_iff .mk

theorem GatewayHandoffEvidence.construct_eq_ok_iff {findings : HandoffFindings}
    {evidence : GatewayHandoffEvidence} :
    construct findings = .ok evidence ↔ evidence.toHandoffFindings = findings := by
  rw [construct, checked_eq_ok_iff]
  constructor
  · rintro ⟨valid, rfl⟩
    rfl
  · rintro rfl
    exact ⟨evidence.valid, rfl⟩

/-- The content of a handoff. -/
structure HandoffFields where
  handoffId : String
  requestId : String
  workloadId : String
  sessionId : String
  status : GatewayHandoffStatus
  normalizedRequest : Option WorkloadRequest
  canonicalConstraints : List CanonicalConstraint
  admissionDecisionId : Option String
  securityAllowed : Bool
  evidence : GatewayHandoffEvidence

namespace HandoffFields

/-- Identity fields are nonblank, a ready handoff passed everything and carries what was admitted
and allowed, and a blocked one has reasons. -/
structure Valid (fields : HandoffFields) : Prop where
  /-- Identity fields are nonblank. -/
  identity_nonblank : ∀ text ∈ [fields.handoffId, fields.requestId, fields.workloadId,
    fields.sessionId] ++ fields.admissionDecisionId.toList, Text.Nonblank text
  /-- A ready handoff passed everything. -/
  ready_passed : fields.status = .ready → fields.evidence.allPassed = true
  /-- A ready handoff carries a request and names the decision. -/
  ready_admission : fields.status = .ready →
    fields.normalizedRequest.isSome ∧ fields.admissionDecisionId.isSome
  /-- A ready handoff has the approval of security. -/
  ready_security : fields.status = .ready → fields.securityAllowed = true
  /-- A blocked handoff has reasons. -/
  blocked_reasons : fields.status = .blocked → fields.evidence.reasons ≠ []

/-- The checks of a handoff. -/
def validate (fields : HandoffFields) : Except Fault Unit := do
  forEach (fun field => rule "GatewayHandoff" field.1 (Text.Nonblank field.2)
      "handoff identity must be non-empty") ([("handoff_id", fields.handoffId),
    ("request_id", fields.requestId), ("workload_id", fields.workloadId),
    ("session_id", fields.sessionId)] ++
      fields.admissionDecisionId.toList.map (Prod.mk "admission_decision_id"))
  match fields.status with
  | .ready => do
      rule "GatewayHandoff" "" (fields.evidence.allPassed = true ∧ fields.evidence.reasons = [])
        "ready handoff requires every gateway stage to pass"
      rule "GatewayHandoff" ""
        (fields.normalizedRequest.isSome ∧ fields.admissionDecisionId.isSome)
        "ready handoff requires admission request evidence"
      rule "GatewayHandoff" "" (fields.securityAllowed = true)
        "ready handoff requires security approval"
  | .blocked =>
      rule "GatewayHandoff" "" (fields.evidence.reasons ≠ [])
        "blocked handoff requires explicit reasons"

theorem validate_eq_ok_iff {fields : HandoffFields} {done : Unit} :
    fields.validate = .ok done ↔ fields.Valid := by
  have silent := fields.evidence.valid.2
  simp only [validate, bind_eq_ok, forEach_eq_ok, rule_eq_ok, exists_const]
  constructor
  · rintro ⟨visible, outcome⟩
    have identity : ∀ text ∈ [fields.handoffId, fields.requestId, fields.workloadId,
        fields.sessionId] ++ fields.admissionDecisionId.toList, Text.Nonblank text := by
      simpa using visible
    cases status : fields.status with
    | ready =>
        simp only [status, bind_eq_ok, rule_eq_ok, exists_const] at outcome
        obtain ⟨⟨passed, _⟩, admission, security⟩ := outcome
        exact ⟨identity, fun _ => passed, fun _ => admission, fun _ => security, by simp [status]⟩
    | blocked =>
        simp only [status, rule_eq_ok] at outcome
        exact ⟨identity, by simp [status], by simp [status], by simp [status], fun _ => outcome⟩
  · intro valid
    refine ⟨by simpa using valid.identity_nonblank, ?_⟩
    cases status : fields.status with
    | ready =>
        have passed := valid.ready_passed status
        simp only [bind_eq_ok, rule_eq_ok, exists_const]
        exact ⟨⟨passed, silent.mp passed⟩, valid.ready_admission status,
          valid.ready_security status⟩
    | blocked => simpa only [rule_eq_ok] using valid.blocked_reasons status

end HandoffFields

/-- What the gateway hands on about a request. -/
structure GatewayHandoff extends HandoffFields where
  /-- The handoff passed its checks. -/
  valid : toHandoffFields.Valid

/-- The identity that a handoff is about. -/
def GatewayHandoff.identity (handoff : GatewayHandoff) : Identity :=
  (handoff.requestId, handoff.workloadId, handoff.sessionId)

/-- Construct a handoff. -/
def GatewayHandoff.construct : HandoffFields → Except Fault GatewayHandoff :=
  checked HandoffFields.validate HandoffFields.validate_eq_ok_iff .mk

theorem GatewayHandoff.construct_eq_ok_iff {fields : HandoffFields} {handoff : GatewayHandoff} :
    construct fields = .ok handoff ↔ handoff.toHandoffFields = fields := by
  rw [construct, checked_eq_ok_iff]
  constructor
  · rintro ⟨valid, rfl⟩
    rfl
  · rintro rfl
    exact ⟨handoff.valid, rfl⟩

/-! ## Building -/

/-- The arguments of a handoff: the identity of a request, its decision and its security result. -/
structure HandoffCall where
  handoffId : String
  requestId : String
  workloadId : String
  sessionId : String
  admissionDecision : Option GatewayAdmissionDecision
  securityResult : Option GatewaySecurityResult

namespace HandoffCall

variable (call : HandoffCall)

/-- The identity that is to be handed on. -/
def identity : Identity := (call.requestId, call.workloadId, call.sessionId)

/-- The request that the decision carries. -/
def normalizedRequest : Option WorkloadRequest :=
  call.admissionDecision.bind fun decision => decision.normalizedRequest

/-- The request that the decision carries is of another workload or session. -/
def foreign : Bool :=
  call.normalizedRequest.any fun request =>
    request.workloadId ≠ call.workloadId || request.sessionId ≠ some call.sessionId

/-- The decision is present, and its evidence has a flag. -/
def admissionFlag (flag : AdmissionFindings → Bool) : Bool :=
  call.admissionDecision.any fun decision => flag decision.evidence.toAdmissionFindings

/-- Why a handoff is blocked. -/
def reasons : List String :=
  outcomeReasons "admission evidence is missing" (fun decision => decision.status = .accepted)
      (fun decision => "gateway admission failed" :: decision.evidence.reasons)
      call.admissionDecision ++
    outcomeReasons "security evidence is missing" GatewaySecurityResult.allowed
      (fun result => "gateway security evaluation failed" ::
        result.issues.map GatewaySecurityIssue.message) call.securityResult ++
    identityReasons "admission identity is inconsistent" GatewayAdmissionDecision.identity
      call.identity call.admissionDecision ++
    identityReasons "security identity is inconsistent" GatewaySecurityResult.identity
      call.identity call.securityResult ++
    reasonsIf (call.foreign = true) ["normalized request identity is inconsistent"]

/-- What the handoff rests on. -/
def findings : HandoffFindings where
  admissionPassed := stagePassed (fun decision => decision.status = .accepted)
    GatewayAdmissionDecision.identity call.identity call.admissionDecision && !call.foreign
  securityPassed := stagePassed GatewaySecurityResult.allowed GatewaySecurityResult.identity
    call.identity call.securityResult
  normalizationCompleted :=
    call.admissionFlag AdmissionFindings.normalizationCompleted && !call.foreign
  validationPassed := call.admissionFlag AdmissionFindings.validationPassed
  sessionBindingValid := call.admissionFlag AdmissionFindings.sessionBindingValid
  constraintsCanonicalized := call.admissionFlag AdmissionFindings.constraintsCanonicalized
  reasons := call.reasons

/-- The handoff that the findings lead to. -/
def fields (evidence : GatewayHandoffEvidence) : HandoffFields where
  handoffId := call.handoffId
  requestId := call.requestId
  workloadId := call.workloadId
  sessionId := call.sessionId
  status := if call.findings.allPassed then .ready else .blocked
  normalizedRequest := call.normalizedRequest
  canonicalConstraints := call.admissionDecision.elim [] fun decision =>
    decision.canonicalConstraints
  admissionDecisionId := call.admissionDecision.map fun decision => decision.decisionId
  securityAllowed := call.securityResult.any GatewaySecurityResult.allowed
  evidence := evidence

end HandoffCall

/-- Build the handoff of a request. -/
def buildGatewayHandoff (call : HandoffCall) : Except Fault GatewayHandoff := do
  let evidence ← GatewayHandoffEvidence.construct call.findings
  GatewayHandoff.construct (call.fields evidence)

namespace HandoffCall

variable {call : HandoffCall}

/-- The request was admitted and allowed under the identity of the call, which is also that of the
request itself. -/
structure Passed (call : HandoffCall) : Prop where
  /-- The decision accepts the identity. -/
  admitted : ∃ decision ∈ call.admissionDecision,
    decision.status = .accepted ∧ decision.identity = call.identity
  /-- Security allows the identity. -/
  allowed : ∃ result ∈ call.securityResult,
    result.allowed = true ∧ result.identity = call.identity
  /-- The request is of the workload and the session. -/
  own : ∀ request ∈ call.normalizedRequest,
    request.workloadId = call.workloadId ∧ request.sessionId = some call.sessionId

theorem foreign_eq_false_iff : call.foreign = false ↔ ∀ request ∈ call.normalizedRequest,
    request.workloadId = call.workloadId ∧ request.sessionId = some call.sessionId := by
  unfold foreign
  cases call.normalizedRequest <;> simp

theorem admissionFlags_of_accepted {decision : GatewayAdmissionDecision}
    (given : call.admissionDecision = some decision) (accepted : decision.status = .accepted) :
    call.admissionFlag AdmissionFindings.normalizationCompleted = true ∧
      call.admissionFlag AdmissionFindings.validationPassed = true ∧
      call.admissionFlag AdmissionFindings.sessionBindingValid = true ∧
      call.admissionFlag AdmissionFindings.constraintsCanonicalized = true := by
  have passed := decision.valid.accepted_passed accepted
  simp only [AdmissionFindings.allPassed, Bool.and_eq_true] at passed
  obtain ⟨⟨⟨⟨normalized, validated⟩, bound⟩, _⟩, canonicalized⟩ := passed
  simp only [admissionFlag, given, Option.any_some]
  exact ⟨normalized, validated, bound, canonicalized⟩

/-- Every flag is set exactly when the call passed. -/
theorem allPassed_findings_iff : call.findings.allPassed = true ↔ call.Passed := by
  simp only [HandoffFindings.allPassed, findings, Bool.and_eq_true, stagePassed_eq_true,
    decide_eq_true_eq, Bool.not_eq_true', foreign_eq_false_iff]
  constructor
  · rintro ⟨⟨⟨⟨⟨⟨admitted, own⟩, allowed⟩, _⟩, _⟩, _⟩, _⟩
    exact ⟨admitted, allowed, own⟩
  · rintro ⟨admitted, allowed, own⟩
    obtain ⟨decision, given, accepted, _⟩ := id admitted
    obtain ⟨normalized, validated, bound, canonicalized⟩ :=
      admissionFlags_of_accepted given accepted
    exact ⟨⟨⟨⟨⟨⟨admitted, own⟩, allowed⟩, normalized, own⟩, validated⟩, bound⟩, canonicalized⟩

theorem reasons_eq_nil_iff_passed : call.reasons = [] ↔ call.Passed := by
  simp only [reasons, List.append_eq_nil_iff, and_assoc, reasonsIf_eq_nil, List.cons_ne_nil,
    imp_false, Bool.not_eq_true, foreign_eq_false_iff]
  constructor
  · rintro ⟨admitted, allowed, admittedIdentity, allowedIdentity, own⟩
    have admission := passed_of_reasons_eq_nil (by simp) admitted admittedIdentity
    constructor
    case admitted => simpa only [decide_eq_true_eq] using admission
    case allowed => exact passed_of_reasons_eq_nil (by simp) allowed allowedIdentity
    case own => exact own
  · intro passed
    have admission : ∃ decision ∈ call.admissionDecision,
        decide (decision.status = .accepted) = true ∧ decision.identity = call.identity := by
      simpa only [decide_eq_true_eq] using passed.admitted
    exact ⟨outcomeReasons_eq_nil admission, outcomeReasons_eq_nil passed.allowed,
      identityReasons_eq_nil admission, identityReasons_eq_nil passed.allowed, passed.own⟩

theorem reasons_nonblank : ∀ reason ∈ call.reasons, Text.Nonblank reason := by
  simp only [reasons, List.forall_mem_append]
  refine ⟨⟨⟨⟨?admitted, ?allowed⟩, ?admission⟩, ?security⟩, ?own⟩
  case admitted =>
    refine outcomeReasons_nonblank (by decide) fun decision _ => ?_
    exact List.forall_mem_cons.mpr ⟨by decide, decision.evidence.valid.1⟩
  case allowed =>
    refine outcomeReasons_nonblank (by decide) fun result _ => ?_
    refine List.forall_mem_cons.mpr ⟨by decide, fun message member => ?_⟩
    obtain ⟨issue, _, rfl⟩ := List.mem_map.mp member
    exact issue.texts_nonblank issue.message (by simp)
  case admission | security => exact identityReasons_nonblank (by decide)
  case own =>
    intro reason member
    obtain rfl := List.mem_singleton.mp (mem_reasonsIf.mp member).2
    decide

/-- A flag is cleared with a reason, and there is no reason without a cleared flag. -/
theorem findings_valid : call.findings.Valid :=
  ⟨reasons_nonblank, allPassed_findings_iff.trans reasons_eq_nil_iff_passed.symm⟩

/-- The identity of the call and its handoff are nonblank. -/
def Visible (call : HandoffCall) : Prop :=
  ∀ text ∈ [call.handoffId, call.requestId, call.workloadId, call.sessionId], Text.Nonblank text

theorem fields_status {evidence : GatewayHandoffEvidence} :
    (call.fields evidence).status = .ready ↔ call.Passed := by
  rw [← allPassed_findings_iff, fields]
  cases call.findings.allPassed <;> simp

/-- The evidence of a call. -/
def evidence (call : HandoffCall) : GatewayHandoffEvidence := ⟨call.findings, findings_valid⟩

/-- The handoff of a call passes its checks exactly when its identity is nonblank. -/
theorem fields_valid_iff : (call.fields call.evidence).Valid ↔ call.Visible := by
  constructor
  · intro valid text member
    exact valid.identity_nonblank text (List.mem_append_left _ member)
  · intro visible
    constructor
    case identity_nonblank =>
      refine List.forall_mem_append.mpr ⟨visible, fun text member => ?_⟩
      obtain ⟨decision, _, rfl⟩ := Option.map_eq_some_iff.mp (Option.mem_toList.mp member)
      exact decision.valid.identity_nonblank decision.decisionId List.mem_cons_self
    case ready_passed => exact fun ready => allPassed_findings_iff.mpr (fields_status.mp ready)
    case ready_admission =>
      intro ready
      obtain ⟨decision, given, accepted, _⟩ := (fields_status.mp ready).admitted
      obtain ⟨request, carried⟩ := Option.isSome_iff_exists.mp
        (decision.valid.accepted_request accepted)
      simp [fields, normalizedRequest, Option.mem_def.mp given, carried]
    case ready_security =>
      intro ready
      obtain ⟨result, given, allowed, _⟩ := (fields_status.mp ready).allowed
      simp [fields, Option.mem_def.mp given, allowed]
    case blocked_reasons =>
      intro blocked silent
      rw [fields_status.mpr (reasons_eq_nil_iff_passed.mp silent)] at blocked
      contradiction

/-- A handoff is built exactly for a nonblank identity, and it is what the findings lead to. -/
theorem build_eq_ok_iff {handoff : GatewayHandoff} :
    buildGatewayHandoff call = .ok handoff ↔
      call.Visible ∧ handoff.toHandoffFields = call.fields call.evidence := by
  rw [buildGatewayHandoff, bind_eq_ok, ← fields_valid_iff]
  constructor
  · rintro ⟨⟨found, valid⟩, constructed, built⟩
    obtain rfl := GatewayHandoffEvidence.construct_eq_ok_iff.mp constructed
    have same := GatewayHandoff.construct_eq_ok_iff.mp built
    exact ⟨same ▸ handoff.valid, same⟩
  · rintro ⟨_, same⟩
    exact ⟨call.evidence, GatewayHandoffEvidence.construct_eq_ok_iff.mpr rfl,
      GatewayHandoff.construct_eq_ok_iff.mpr same⟩

/-- Every call with nonblank identity gets a handoff. -/
theorem exists_build (visible : call.Visible) :
    ∃ handoff, buildGatewayHandoff call = .ok handoff :=
  ⟨⟨call.fields call.evidence, fields_valid_iff.mpr visible⟩, build_eq_ok_iff.mpr ⟨visible, rfl⟩⟩

end HandoffCall

/-! ## What a handoff says -/

/-- A handoff carries what a decision admitted and a security result allowed, all of one
identity. -/
structure GatewayHandoff.Carries (handoff : GatewayHandoff) (decision : GatewayAdmissionDecision)
    (security : GatewaySecurityResult) : Prop where
  /-- The decision accepts the identity of the handoff. -/
  accepted : decision.status = .accepted ∧ decision.identity = handoff.identity
  /-- Security allows the identity of the handoff. -/
  allowed : security.allowed = true ∧ security.identity = handoff.identity
  /-- The request is the one that the decision normalized. -/
  request : ∃ request, decision.normalizedRequest = some request ∧
    handoff.normalizedRequest = some request
  /-- The constraints are those of the decision. -/
  constraints : handoff.canonicalConstraints = decision.canonicalConstraints
  /-- The handoff names the decision. -/
  decisionId : handoff.admissionDecisionId = some decision.decisionId
  /-- The handoff reports the approval of security. -/
  securityAllowed : handoff.securityAllowed = true

/-- What a handoff says about a call. -/
structure HandoffCall.Hands (call : HandoffCall) (handoff : GatewayHandoff) : Prop where
  /-- The handoff is about the identity of the call. -/
  identity : handoff.handoffId = call.handoffId ∧ handoff.identity = call.identity
  /-- A handoff is ready exactly when the call passed. -/
  ready_iff : handoff.status = .ready ↔ call.Passed
  /-- There are no reasons exactly when the handoff is ready. -/
  reasons_iff : handoff.evidence.reasons = [] ↔ handoff.status = .ready
  /-- A ready handoff carries the decision and the security result of the call. -/
  carries : handoff.status = .ready → ∃ decision ∈ call.admissionDecision,
    ∃ security ∈ call.securityResult, handoff.Carries decision security

theorem HandoffCall.hands_of_build {call : HandoffCall} {handoff : GatewayHandoff}
    (built : buildGatewayHandoff call = .ok handoff) : call.Hands handoff := by
  obtain ⟨fields, valid⟩ := handoff
  obtain ⟨_, rfl⟩ := build_eq_ok_iff.mp built
  constructor
  case identity => exact ⟨rfl, rfl⟩
  case ready_iff => exact fields_status
  case reasons_iff => exact reasons_eq_nil_iff_passed.trans fields_status.symm
  case carries =>
    intro ready
    have passed := fields_status.mp ready
    obtain ⟨decision, given, accepted, sameAdmission⟩ := passed.admitted
    obtain ⟨security, evaluated, allowed, sameSecurity⟩ := passed.allowed
    obtain ⟨request, carried⟩ := Option.isSome_iff_exists.mp
      (decision.valid.accepted_request accepted)
    refine ⟨decision, given, security, evaluated, ⟨accepted, sameAdmission⟩,
      ⟨allowed, sameSecurity⟩, ⟨request, carried, ?_⟩, ?_, ?_, ?_⟩
    · simp [HandoffCall.fields, HandoffCall.normalizedRequest, Option.mem_def.mp given, carried]
    · simp [HandoffCall.fields, Option.mem_def.mp given]
    · simp [HandoffCall.fields, Option.mem_def.mp given]
    · simp [HandoffCall.fields, Option.mem_def.mp evaluated, allowed]

/-! ## Failing closed -/

/-- Admission and handoff decide every call with nonblank identity, whatever the evidence. -/
structure FailsClosed : Prop where
  /-- Every admission is decided. -/
  decided : ∀ call : AdmissionCall, call.Visible →
    ∃ decision, evaluateGatewayAdmission call = .ok decision ∧ call.Decides decision
  /-- Every handoff is built. -/
  built : ∀ call : HandoffCall, call.Visible →
    ∃ handoff, buildGatewayHandoff call = .ok handoff ∧ call.Hands handoff
  /-- The handoff of a decision is ready exactly when every stage passed for its identity, security
  allows it, and the normalized request is of its workload and session. -/
  ready_iff : ∀ admission decision, evaluateGatewayAdmission admission = .ok decision →
    ∀ call : HandoffCall, call.admissionDecision = some decision →
      ∀ handoff, buildGatewayHandoff call = .ok handoff →
        (handoff.status = .ready ↔
          (admission.Passed ∧ admission.identity = call.identity) ∧
          (∃ security ∈ call.securityResult,
            security.allowed = true ∧ security.identity = call.identity) ∧
          ∀ request ∈ admission.normalizedRequest,
            request.workloadId = call.workloadId ∧ request.sessionId = some call.sessionId)

/-- The gateway fails closed: no evidence makes it raise, and what is ready was admitted and
allowed. -/
theorem gateway_failsClosed : FailsClosed where
  decided _ visible := by
    obtain ⟨decision, evaluated⟩ := AdmissionCall.exists_evaluate visible
    exact ⟨decision, evaluated, AdmissionCall.decides_of_evaluate evaluated⟩
  built _ visible := by
    obtain ⟨handoff, built⟩ := HandoffCall.exists_build visible
    exact ⟨handoff, built, HandoffCall.hands_of_build built⟩
  ready_iff admission decision evaluated call given handoff built := by
    have decides := AdmissionCall.decides_of_evaluate evaluated
    have carried : call.normalizedRequest = admission.normalizedRequest := by
      rw [HandoffCall.normalizedRequest, given, Option.bind_some, decides.request]
    rw [(HandoffCall.hands_of_build built).ready_iff, ← decides.accepted_iff,
      ← decides.identity.2, ← carried]
    constructor
    · rintro ⟨⟨found, same, admitted⟩, allowed, own⟩
      obtain rfl : decision = found := Option.some_inj.mp (given.symm.trans same)
      exact ⟨admitted, allowed, own⟩
    · rintro ⟨admitted, allowed, own⟩
      exact ⟨⟨decision, given, admitted⟩, allowed, own⟩

/-! ## A request of another session -/

theorem identity_visible : ∀ text ∈ ["1", "workload-1", "session-1"], Text.Nonblank text := by
  decide

/-- A request of the second session. -/
def otherRequest : WorkloadRequest where
  workloadId := "workload-1"
  sessionId := some "session-2"
  taskType := "inference"
  input := .empty
  context := .empty
  latencyTargetMs := 100
  qualityTarget := 1
  costBudget := none
  privacyLevel := "public"
  priority := 50
  hardwareConstraints := []
  texts_nonempty := by decide
  latency_pos := by simp
  quality_bounds := by norm_num
  cost_nonneg := by simp
  priority_bounds := by norm_num

/-- Evidence for the first session, with a request of the second. -/
def mixedCall : AdmissionCall where
  decisionId := "decision-1"
  requestId := "1"
  workloadId := "workload-1"
  sessionId := "session-1"
  normalizationResult := some ⟨"1", "workload-1", "session-1", true, some otherRequest, [],
    identity_visible, rfl, nofun⟩
  validationResult := some ⟨some "1", some "workload-1", some "session-1", true, [],
    some otherRequest, rfl, by simp⟩
  sessionBinding := some (firstCall.binding firstCall_valid)
  idempotencyValid := some true
  constraintResult := some ⟨"1", "workload-1", "session-1", [], [], true, identity_visible,
    by simp, nofun⟩

theorem mixedCall_passed : mixedCall.Passed := by
  constructor
  case normalized => exact ⟨_, rfl, rfl, rfl⟩
  case validated => exact ⟨_, rfl, rfl, rfl⟩
  case bound => exact ⟨_, rfl, rfl⟩
  case idempotent => rfl
  case canonicalized => exact ⟨_, rfl, rfl, rfl⟩
  case agreed =>
    rintro _ ⟨⟩ _ ⟨⟩
    rfl

theorem mixedCall_visible : mixedCall.Visible := by
  unfold AdmissionCall.Visible
  decide

/-- A handoff of the first session. -/
def mixedHandoff (decision : GatewayAdmissionDecision) : HandoffCall where
  handoffId := "handoff-1"
  requestId := "1"
  workloadId := "workload-1"
  sessionId := "session-1"
  admissionDecision := some decision
  securityResult := some ⟨"1", "workload-1", "session-1", "tenant", true, [], by decide, by simp⟩

theorem mixedHandoff_visible (decision : GatewayAdmissionDecision) :
    (mixedHandoff decision).Visible := by
  change ∀ text ∈ ["handoff-1", "1", "workload-1", "session-1"], Text.Nonblank text
  decide

/-- Passing every stage and security under one identity does not make a handoff ready: the request
itself may be of another session. -/
theorem accepted_but_blocked :
    ¬ ∀ admission decision, evaluateGatewayAdmission admission = .ok decision →
      ∀ call : HandoffCall, call.admissionDecision = some decision →
        ∀ handoff, buildGatewayHandoff call = .ok handoff →
          (handoff.status = .ready ↔
            (admission.Passed ∧ admission.identity = call.identity) ∧
            ∃ security ∈ call.securityResult,
              security.allowed = true ∧ security.identity = call.identity) := by
  intro ready
  obtain ⟨decision, evaluated⟩ := AdmissionCall.exists_evaluate mixedCall_visible
  obtain ⟨handoff, built⟩ := HandoffCall.exists_build (mixedHandoff_visible decision)
  have status := (ready mixedCall decision evaluated _ rfl handoff built).mpr
    ⟨⟨mixedCall_passed, rfl⟩, _, rfl, rfl, rfl⟩
  have passed := (HandoffCall.hands_of_build built).ready_iff.mp status
  have carried : (mixedHandoff decision).normalizedRequest = some otherRequest :=
    (AdmissionCall.decides_of_evaluate evaluated).request
  have own : some "session-2" = some "session-1" := (passed.own otherRequest carried).2
  exact absurd own (by decide)

end Gateway
end MercuryX
