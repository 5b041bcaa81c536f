import MercuryX.Intelligence.Models

/-!
# Model capability records

What a model is declared to be able to do, and the registry of such records. A registry holds at
most one record for each exact identity, in the order of identities.
-/

namespace MercuryX
namespace Models

open Foundation
open Intelligence (CanonicalTuple)

/-! ## Enumerations -/

/-- The modalities of a model. -/
inductive ModelModality where
  | text
  | image
  | audio
  | video
  | embedding
  | structuredData
  deriving DecidableEq, Repr

namespace ModelModality

/-- The text of a modality. -/
def value : ModelModality → String
  | text => "text"
  | image => "image"
  | audio => "audio"
  | video => "video"
  | embedding => "embedding"
  | structuredData => "structured_data"

/-- The modality of a text. -/
def ofValue (text : String) : Option ModelModality :=
  [ModelModality.text, image, audio, video, embedding, structuredData].find?
    fun modality => modality.value = text

end ModelModality

/-- The kinds of reasoning that a model may be capable of. -/
inductive ReasoningCapability where
  | general
  | multiStep
  | mathematical
  | code
  | planning
  | longContext
  deriving DecidableEq, Repr

/-- The text of a reasoning capability. -/
def ReasoningCapability.value : ReasoningCapability → String
  | general => "general"
  | multiStep => "multi_step"
  | mathematical => "mathematical"
  | code => "code"
  | planning => "planning"
  | longContext => "long_context"

/-- How far a capability has come. -/
inductive CapabilityStatus where
  | production
  | experimental
  | simulated
  | research
  | planned
  deriving DecidableEq, Repr

/-- The text of a status. -/
def CapabilityStatus.value : CapabilityStatus → String
  | production => "production"
  | experimental => "experimental"
  | simulated => "simulated"
  | research => "research"
  | planned => "planned"

/-- Whether a capability was declared or observed. -/
inductive ProvenanceKind where
  | declared
  | observed
  deriving DecidableEq, Repr

/-- The text of a kind of provenance. -/
def ProvenanceKind.value : ProvenanceKind → String
  | declared => "declared"
  | observed => "observed"

/-! ## Records -/

/-- Where a record comes from. -/
structure CapabilityProvenance where
  source : String
  sourceRevision : String
  evidence : String
  kind : ProvenanceKind := .declared
  /-- The texts are nonblank. -/
  texts_nonblank : ∀ text ∈ [source, sourceRevision, evidence], Text.Nonblank text

instance : DecidableEq CapabilityProvenance := fun left right =>
  decidable_of_iff (left.source = right.source ∧ left.sourceRevision = right.sourceRevision ∧
      left.evidence = right.evidence ∧ left.kind = right.kind) (by
    cases left
    cases right
    simp)

theorem noLimits_positive : ∀ limit : Int, none = some limit ∨ none = some limit → 0 < limit := by
  simp

/-- The declared capabilities of one model revision. -/
structure ModelCapabilityRecord where
  modelId : String
  provider : String
  family : String
  revision : String
  inputModalities : CanonicalTuple ModelModality ModelModality.value
  outputModalities : CanonicalTuple ModelModality ModelModality.value
  reasoningCapabilities : List ReasoningCapability := []
  supportsToolUse : Bool := false
  supportsRetrieval : Bool := false
  supportsCodeGeneration : Bool := false
  supportsCodeUnderstanding : Bool := false
  supportsStructuredToolArguments : Bool := false
  supportsToolResultConsumption : Bool := false
  supportsJsonOutput : Bool := false
  supportsSchemaConstrainedOutput : Bool := false
  maxContextTokens : Option Int := none
  maxOutputTokens : Option Int := none
  supportsStreaming : Bool := false
  supportsBatching : Bool := false
  supportsDeterministicSeed : Bool := false
  provenance : CapabilityProvenance
  status : CapabilityStatus := .production
  /-- Identity fields are nonblank. -/
  identity_nonblank : ∀ text ∈ [modelId, provider, family, revision], Text.Nonblank text
  /-- Reasoning capabilities stand once each, in order. -/
  reasoning_canonical :
    canonical ReasoningCapability.value reasoningCapabilities = reasoningCapabilities := by decide
  /-- Declared limits are positive. -/
  limits_positive : ∀ limit, maxContextTokens = some limit ∨ maxOutputTokens = some limit →
    0 < limit := by exact noLimits_positive
  /-- Details of tool use are declared only with tool use. -/
  tools_consistent :
    (supportsStructuredToolArguments || supportsToolResultConsumption) = true →
      supportsToolUse = true := by decide
  deriving DecidableEq

namespace ModelCapabilityRecord

/-- The exact identity of a record: provider, model, family and revision. -/
def identity (record : ModelCapabilityRecord) : String ×ₗ String ×ₗ String ×ₗ String :=
  toLex (record.provider, toLex (record.modelId, toLex (record.family, record.revision)))

/-- The dump of a record. -/
def toDict (record : ModelCapabilityRecord) : Json := .obj [
  ("schema_version", .str "mercury.model-capability/v1"), ("model_id", .str record.modelId),
  ("provider", .str record.provider), ("family", .str record.family),
  ("revision", .str record.revision),
  ("input_modalities", Json.strs (record.inputModalities.items.map ModelModality.value)),
  ("output_modalities", Json.strs (record.outputModalities.items.map ModelModality.value)),
  ("reasoning_capabilities",
    Json.strs (record.reasoningCapabilities.map ReasoningCapability.value)),
  ("supports_tool_use", .bool record.supportsToolUse),
  ("supports_retrieval", .bool record.supportsRetrieval),
  ("supports_code_generation", .bool record.supportsCodeGeneration),
  ("supports_code_understanding", .bool record.supportsCodeUnderstanding),
  ("supports_structured_tool_arguments", .bool record.supportsStructuredToolArguments),
  ("supports_tool_result_consumption", .bool record.supportsToolResultConsumption),
  ("supports_json_output", .bool record.supportsJsonOutput),
  ("supports_schema_constrained_output", .bool record.supportsSchemaConstrainedOutput),
  ("max_context_tokens", Json.optInt record.maxContextTokens),
  ("max_output_tokens", Json.optInt record.maxOutputTokens),
  ("supports_streaming", .bool record.supportsStreaming),
  ("supports_batching", .bool record.supportsBatching),
  ("supports_deterministic_seed", .bool record.supportsDeterministicSeed),
  ("provenance", .obj [("source", .str record.provenance.source),
    ("source_revision", .str record.provenance.sourceRevision),
    ("evidence", .str record.provenance.evidence),
    ("kind", .str record.provenance.kind.value)]),
  ("status", .str record.status.value)]

end ModelCapabilityRecord

/-! ## Registries -/

/-- The registered records. -/
structure ModelCapabilityRegistry where
  records : List ModelCapabilityRecord := []
  /-- Records stand once each, in the order of their identities. -/
  records_canonical : canonical ModelCapabilityRecord.identity records = records := by rfl
  /-- No two records share an identity. -/
  identities_separate : Separates ModelCapabilityRecord.identity records := by simp [Separates]

namespace ModelCapabilityRegistry

/-- Register records in canonical form. -/
def make (records : List ModelCapabilityRecord) : Except Fault ModelCapabilityRegistry :=
  if separate : Separates ModelCapabilityRecord.identity records then
    .ok
      { records := canonical ModelCapabilityRecord.identity records
        records_canonical := canonical_eq_self _ (canonical_nodup _ records)
          (canonical_pairwise _ records)
        identities_separate := separate.of_subset fun _ => (mem_canonical _).mp }
  else
    .error (.validation "ModelCapabilityRegistry" ""
      "Value error, conflicting capability records share an exact identity")

variable (digest : Digest) in
/-- The content address of a registry. -/
def fingerprint (registry : ModelCapabilityRegistry) : String :=
  "sha256:" ++ digest.hexdigest (.arr (registry.records.map ModelCapabilityRecord.toDict))

/-- The record of an exact identity, if it is registered. -/
def lookup (registry : ModelCapabilityRegistry)
    (identity : String ×ₗ String ×ₗ String ×ₗ String) : Option ModelCapabilityRecord :=
  registry.records.find? fun record => record.identity = identity

theorem records_nodup (registry : ModelCapabilityRegistry) : registry.records.Nodup :=
  registry.records_canonical ▸ canonical_nodup _ _

theorem lookup_identity {registry : ModelCapabilityRegistry} {record : ModelCapabilityRecord}
    (registered : record ∈ registry.records) : registry.lookup record.identity = some record := by
  cases found : registry.lookup record.identity with
  | none => simpa using List.find?_eq_none.mp found record registered
  | some other =>
      have same : other.identity = record.identity := by simpa using List.find?_some found
      have member := List.mem_of_find?_eq_some found
      rw [registry.identities_separate other member record registered same]

end ModelCapabilityRegistry
end Models
end MercuryX
