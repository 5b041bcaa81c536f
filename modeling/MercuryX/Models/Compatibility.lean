import MercuryX.Models.Capabilities

/-!
# Compatibility and discovery

Hard requirements on a model, the issues that a record has with them, and the records of a registry
that have none.
-/

namespace MercuryX
namespace Models

open Foundation
open Intelligence (CanonicalTuple)

/-! ## Requirements -/

/-- What a model has to be able to do. -/
structure ModelCapabilityRequirements where
  requiredInputModalities : List ModelModality := []
  requiredOutputModalities : List ModelModality := []
  requiredReasoningCapabilities : List ReasoningCapability := []
  requiresToolUse : Bool := false
  requiresRetrieval : Bool := false
  requiresCodeGeneration : Bool := false
  requiresCodeUnderstanding : Bool := false
  requiresStructuredToolArguments : Bool := false
  requiresToolResultConsumption : Bool := false
  requiresJsonOutput : Bool := false
  requiresSchemaConstrainedOutput : Bool := false
  minimumContextTokens : Option Int := none
  minimumOutputTokens : Option Int := none
  requiresStreaming : Bool := false
  allowedStatuses : Option (CanonicalTuple CapabilityStatus CapabilityStatus.value) := none
  evidence : CanonicalTuple String id
  /-- Modalities stand once each, in order. -/
  modalities_canonical : ∀ modalities ∈ [requiredInputModalities, requiredOutputModalities],
    canonical ModelModality.value modalities = modalities
  /-- Reasoning capabilities stand once each, in order. -/
  reasoning_canonical :
    canonical ReasoningCapability.value requiredReasoningCapabilities =
      requiredReasoningCapabilities
  /-- Minimal limits are positive. -/
  minimums_positive : ∀ minimum,
    minimumContextTokens = some minimum ∨ minimumOutputTokens = some minimum →
      0 < minimum := by simp
  /-- Evidence is nonblank. -/
  evidence_nonblank : ∀ text ∈ evidence.items, Text.Nonblank text

instance : DecidableEq ModelCapabilityRequirements := fun left right =>
  decidable_of_iff (left.requiredInputModalities = right.requiredInputModalities ∧
      left.requiredOutputModalities = right.requiredOutputModalities ∧
      left.requiredReasoningCapabilities = right.requiredReasoningCapabilities ∧
      left.requiresToolUse = right.requiresToolUse ∧
      left.requiresRetrieval = right.requiresRetrieval ∧
      left.requiresCodeGeneration = right.requiresCodeGeneration ∧
      left.requiresCodeUnderstanding = right.requiresCodeUnderstanding ∧
      left.requiresStructuredToolArguments = right.requiresStructuredToolArguments ∧
      left.requiresToolResultConsumption = right.requiresToolResultConsumption ∧
      left.requiresJsonOutput = right.requiresJsonOutput ∧
      left.requiresSchemaConstrainedOutput = right.requiresSchemaConstrainedOutput ∧
      left.minimumContextTokens = right.minimumContextTokens ∧
      left.minimumOutputTokens = right.minimumOutputTokens ∧
      left.requiresStreaming = right.requiresStreaming ∧
      left.allowedStatuses = right.allowedStatuses ∧ left.evidence = right.evidence) (by
    cases left
    cases right
    simp)

/-- The dump of requirements. -/
def ModelCapabilityRequirements.modelDump (requirements : ModelCapabilityRequirements) : Json :=
  .obj [
    ("required_input_modalities",
      Json.strs (requirements.requiredInputModalities.map ModelModality.value)),
    ("required_output_modalities",
      Json.strs (requirements.requiredOutputModalities.map ModelModality.value)),
    ("required_reasoning_capabilities",
      Json.strs (requirements.requiredReasoningCapabilities.map ReasoningCapability.value)),
    ("requires_tool_use", .bool requirements.requiresToolUse),
    ("requires_retrieval", .bool requirements.requiresRetrieval),
    ("requires_code_generation", .bool requirements.requiresCodeGeneration),
    ("requires_code_understanding", .bool requirements.requiresCodeUnderstanding),
    ("requires_structured_tool_arguments", .bool requirements.requiresStructuredToolArguments),
    ("requires_tool_result_consumption", .bool requirements.requiresToolResultConsumption),
    ("requires_json_output", .bool requirements.requiresJsonOutput),
    ("requires_schema_constrained_output", .bool requirements.requiresSchemaConstrainedOutput),
    ("minimum_context_tokens", Json.optInt requirements.minimumContextTokens),
    ("minimum_output_tokens", Json.optInt requirements.minimumOutputTokens),
    ("requires_streaming", .bool requirements.requiresStreaming),
    ("allowed_statuses", match requirements.allowedStatuses with
      | none => .null
      | some statuses => Json.strs (statuses.items.map CapabilityStatus.value)),
    ("evidence", Json.strs requirements.evidence.items)]

/-! ## Compatibility -/

/-- Whether a record meets requirements. -/
inductive CompatibilityStatus where
  | compatible
  | incompatible
  deriving DecidableEq, Repr

/-- One requirement that a record does not meet. -/
structure CompatibilityIssue where
  constraintId : String
  field : String
  requiredValue : String
  declaredValue : Option String
  reason : String
  deriving DecidableEq

/-- The issue that a record declares something else than what a field requires. -/
def compatibilityIssue (constraintId field requiredValue : String)
    (declaredValue : Option String) : CompatibilityIssue where
  constraintId := constraintId
  field := field
  requiredValue := requiredValue
  declaredValue := declaredValue
  reason := s!"{field} requires {requiredValue}, but the model declares " ++
    declaredValue.getD "unknown"

/-- The issues with required members of an enumeration. -/
def memberIssues {α : Type} [DecidableEq α] (constraintId field : String) (value : α → String)
    (required declared : List α) : List CompatibilityIssue :=
  (required.filter fun member => member ∉ declared).map fun member =>
    compatibilityIssue constraintId field (value member)
      (some (",".intercalate (declared.map value)))

/-- The issues with required switches. -/
def booleanIssues (requirements : List (String × String × Bool × Bool)) :
    List CompatibilityIssue :=
  (requirements.filter fun entry => entry.2.2.1 && !entry.2.2.2).map fun entry =>
    compatibilityIssue entry.1 entry.2.1 "true" (some "false")

/-- The issue with a minimal limit; an undeclared limit does not meet it. -/
def limitIssues (constraintId field : String) (minimum declared : Option Int) :
    List CompatibilityIssue :=
  match minimum with
  | none => []
  | some minimum =>
      if declared.any fun limit => minimum ≤ limit then []
      else [compatibilityIssue constraintId field (toString minimum)
        (declared.map fun limit => toString limit)]

/-- The issue with the allowed statuses. -/
def statusIssues (status : CapabilityStatus)
    (allowed : Option (CanonicalTuple CapabilityStatus CapabilityStatus.value)) :
    List CompatibilityIssue :=
  match allowed with
  | none => []
  | some statuses =>
      if status ∈ statuses.items then []
      else [compatibilityIssue "capability_status" "status"
        (",".intercalate (statuses.items.map CapabilityStatus.value)) (some status.value)]

/-- The issues that a record has with requirements, in the order they are found. -/
def foundIssues (record : ModelCapabilityRecord) (requirements : ModelCapabilityRequirements) :
    List CompatibilityIssue :=
  memberIssues "input_modality" "input_modalities" ModelModality.value
      requirements.requiredInputModalities record.inputModalities.items ++
    memberIssues "output_modality" "output_modalities" ModelModality.value
      requirements.requiredOutputModalities record.outputModalities.items ++
    memberIssues "reasoning_capability" "reasoning_capabilities" ReasoningCapability.value
      requirements.requiredReasoningCapabilities record.reasoningCapabilities ++
    booleanIssues [
      ("tool_use", "supports_tool_use", requirements.requiresToolUse, record.supportsToolUse),
      ("retrieval", "supports_retrieval", requirements.requiresRetrieval,
        record.supportsRetrieval),
      ("code_generation", "supports_code_generation", requirements.requiresCodeGeneration,
        record.supportsCodeGeneration),
      ("code_understanding", "supports_code_understanding",
        requirements.requiresCodeUnderstanding, record.supportsCodeUnderstanding),
      ("structured_tool_arguments", "supports_structured_tool_arguments",
        requirements.requiresStructuredToolArguments, record.supportsStructuredToolArguments),
      ("tool_result_consumption", "supports_tool_result_consumption",
        requirements.requiresToolResultConsumption, record.supportsToolResultConsumption),
      ("json_output", "supports_json_output", requirements.requiresJsonOutput,
        record.supportsJsonOutput),
      ("schema_constrained_output", "supports_schema_constrained_output",
        requirements.requiresSchemaConstrainedOutput, record.supportsSchemaConstrainedOutput),
      ("streaming", "supports_streaming", requirements.requiresStreaming,
        record.supportsStreaming)] ++
    limitIssues "context_limit" "max_context_tokens" requirements.minimumContextTokens
      record.maxContextTokens ++
    limitIssues "output_limit" "max_output_tokens" requirements.minimumOutputTokens
      record.maxOutputTokens ++
    statusIssues record.status requirements.allowedStatuses

/-- A record, requirements and the issues between them. -/
structure CompatibilityResult where
  record : ModelCapabilityRecord
  requirements : ModelCapabilityRequirements
  status : CompatibilityStatus
  issues : List CompatibilityIssue
  deriving DecidableEq

/-- Evaluate the hard requirements on a record. -/
def evaluateCompatibility (record : ModelCapabilityRecord)
    (requirements : ModelCapabilityRequirements) : CompatibilityResult :=
  let normalizedIssues := sortOn (fun issue => toLex (issue.constraintId,
    toLex (issue.field, issue.requiredValue))) (foundIssues record requirements)
  { record := record
    requirements := requirements
    status := if normalizedIssues = [] then .compatible else .incompatible
    issues := sortOn (fun issue => toLex (issue.constraintId, issue.field)) normalizedIssues }

/-! ## Discovery -/

/-- The records of a registry that meet requirements, in the order of their identities. -/
def discoverCapabilities (registry : ModelCapabilityRegistry)
    (requirements : ModelCapabilityRequirements) : List CompatibilityResult :=
  sortOn (fun result => result.record.identity)
    ((registry.records.map fun record => evaluateCompatibility record requirements).filter
      fun result => result.status = .compatible)

theorem mem_discoverCapabilities {registry : ModelCapabilityRegistry}
    {requirements : ModelCapabilityRequirements} {result : CompatibilityResult} :
    result ∈ discoverCapabilities registry requirements ↔
      result.record ∈ registry.records ∧
        result = evaluateCompatibility result.record requirements ∧
          result.status = .compatible := by
  rw [discoverCapabilities, mem_sortOn, List.mem_filter, List.mem_map, decide_eq_true_eq]
  constructor
  · rintro ⟨⟨record, registered, rfl⟩, compatible⟩
    exact ⟨registered, rfl, compatible⟩
  · rintro ⟨registered, evaluated, compatible⟩
    exact ⟨⟨result.record, registered, evaluated.symm⟩, compatible⟩

end Models
end MercuryX
