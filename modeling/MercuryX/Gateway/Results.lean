import MercuryX.Gateway.Constraints
import MercuryX.Gateway.Requests

/-!
# Results of the gateway stages

Normalization, validation, constraint canonicalization and the security evaluation each report on
a request with a result of their own, which carries the identity that it is about. A result that
reports a failure explains it.
-/

namespace MercuryX
namespace Gateway

open Foundation

/-- How grave an issue is. -/
inductive IssueSeverity where
  | error
  | warning
  deriving DecidableEq, Repr

/-! ## Normalization -/

/-- Something that normalization found. -/
structure NormalizationIssue where
  fieldName : String
  code : String
  message : String
  severity : IssueSeverity
  /-- Issue texts are nonblank. -/
  texts_nonblank : ∀ text ∈ [fieldName, code, message], Text.Nonblank text

/-- The outcome of normalization. -/
structure NormalizationResult where
  requestId : String
  workloadId : String
  sessionId : String
  normalized : Bool
  normalizedRequest : Option WorkloadRequest
  issues : List NormalizationIssue
  /-- Identity fields are nonblank. -/
  identity_nonblank : ∀ text ∈ [requestId, workloadId, sessionId], Text.Nonblank text
  /-- A request is reported exactly when normalization completed. -/
  request_iff : normalizedRequest.isSome = normalized
  /-- A failure is explained. -/
  failure_explained : normalized = false → issues ≠ []

/-- The identity that a normalization result is about. -/
def NormalizationResult.identity (result : NormalizationResult) : Identity :=
  (result.requestId, result.workloadId, result.sessionId)

/-! ## Validation -/

/-- What a validation issue is about. -/
inductive GatewayValidationCode where
  | missingIdentity
  | invalidIdentity
  | malformedRequest
  | forbiddenField
  | identityMismatch
  deriving DecidableEq, Repr

/-- Something that validation found. -/
structure GatewayValidationIssue where
  code : GatewayValidationCode
  fieldName : String
  message : String
  severity : IssueSeverity
  /-- Issue texts are nonblank. -/
  texts_nonblank : ∀ text ∈ [fieldName, message], Text.Nonblank text

/-- The outcome of validation; a malformed call may lack identity fields. -/
structure GatewayValidationResult where
  requestId : Option String
  workloadId : Option String
  sessionId : Option String
  accepted : Bool
  issues : List GatewayValidationIssue
  validatedRequest : Option WorkloadRequest
  /-- A request is reported exactly when validation accepts. -/
  request_iff : validatedRequest.isSome = accepted
  /-- Validation accepts exactly when it found no error. -/
  accepted_iff : accepted = true ↔ ∀ issue ∈ issues, issue.severity ≠ .error

/-- The identity that a validation result is about. -/
def GatewayValidationResult.identity (result : GatewayValidationResult) :
    Option String × Option String × Option String :=
  (result.requestId, result.workloadId, result.sessionId)

/-! ## Canonicalization -/

/-- The outcome of constraint canonicalization. -/
structure ConstraintNormalizationResult where
  requestId : String
  workloadId : String
  sessionId : String
  constraints : List CanonicalConstraint
  issues : List String
  canonicalized : Bool
  /-- Identity fields are nonblank. -/
  identity_nonblank : ∀ text ∈ [requestId, workloadId, sessionId], Text.Nonblank text
  /-- Issues are nonblank. -/
  issues_nonblank : ∀ issue ∈ issues, Text.Nonblank issue
  /-- A failure is explained. -/
  failure_explained : canonicalized = false → issues ≠ []

/-- The identity that a constraint result is about. -/
def ConstraintNormalizationResult.identity (result : ConstraintNormalizationResult) : Identity :=
  (result.requestId, result.workloadId, result.sessionId)

/-! ## Security -/

/-- What a security issue is about. -/
inductive GatewaySecurityCode where
  | identityMismatch
  | tenantMismatch
  | unauthorizedSession
  | secretMetadata
  | invalidPrivacy
  | crossTenantContext
  deriving DecidableEq, Repr

/-- Something that the security evaluation found. -/
structure GatewaySecurityIssue where
  code : GatewaySecurityCode
  fieldName : String
  message : String
  severity : IssueSeverity
  /-- Issue texts are nonblank. -/
  texts_nonblank : ∀ text ∈ [fieldName, message], Text.Nonblank text

/-- The outcome of the security evaluation. -/
structure GatewaySecurityResult where
  requestId : String
  workloadId : String
  sessionId : String
  tenantId : String
  allowed : Bool
  issues : List GatewaySecurityIssue
  /-- Identity fields are nonblank. -/
  identity_nonblank : ∀ text ∈ [requestId, workloadId, sessionId, tenantId], Text.Nonblank text
  /-- A request is allowed exactly when no error was found. -/
  allowed_iff : allowed = true ↔ ∀ issue ∈ issues, issue.severity ≠ .error

/-- The identity that a security result is about. -/
def GatewaySecurityResult.identity (result : GatewaySecurityResult) : Identity :=
  (result.requestId, result.workloadId, result.sessionId)

end Gateway
end MercuryX
