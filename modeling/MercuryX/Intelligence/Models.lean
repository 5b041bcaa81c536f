import MercuryX.Contracts

/-!
# Workload intelligence contracts

Profiles of workloads and the evidence behind them. Collections of enumeration members and of
evidence are kept in canonical form by their constructors, so that equal collections are equal
whatever the order they were given in.
-/

namespace MercuryX
namespace Intelligence

open Foundation

/-! ## Enumerations -/

/-- The modalities of a workload. -/
inductive WorkloadModality where
  | text
  | image
  | audio
  | video
  | structuredData
  | code
  | multimodal
  deriving DecidableEq, Repr

/-- The text of a modality. -/
def WorkloadModality.value : WorkloadModality → String
  | text => "text"
  | image => "image"
  | audio => "audio"
  | video => "video"
  | structuredData => "structured_data"
  | code => "code"
  | multimodal => "multimodal"

/-- How much reasoning a workload needs. -/
inductive ReasoningComplexity where
  | minimal
  | low
  | moderate
  | high
  | deep
  deriving DecidableEq, Repr

/-- How much context a workload needs. -/
inductive ContextMagnitude where
  | short
  | standard
  | extended
  | long
  deriving DecidableEq, Repr

/-- How urgent a workload is. -/
inductive LatencySensitivity where
  | batch
  | relaxed
  | interactive
  | realtime
  deriving DecidableEq, Repr

/-- How good a result has to be. -/
inductive QualityRequirement where
  | standard
  | high
  | critical
  deriving DecidableEq, Repr

/-- How private a workload is. -/
inductive PrivacyRequirement where
  | «public»
  | internal
  | confidential
  | restricted
  deriving DecidableEq, Repr

/-- The text of a privacy requirement. -/
def PrivacyRequirement.value : PrivacyRequirement → String
  | «public» => "public"
  | internal => "internal"
  | confidential => "confidential"
  | restricted => "restricted"

/-- The privacy requirement of a text. -/
def PrivacyRequirement.ofValue (text : String) : Option PrivacyRequirement :=
  [«public», internal, confidential, restricted].find? fun privacy => privacy.value = text

/-- What a computation has to be able to do. -/
inductive ComputationalCapability where
  | generation
  | reasoning
  | retrieval
  | vision
  | speech
  | codeExecution
  | structuredOutput
  | toolUse
  deriving DecidableEq, Repr

/-- The text of a capability. -/
def ComputationalCapability.value : ComputationalCapability → String
  | generation => "generation"
  | reasoning => "reasoning"
  | retrieval => "retrieval"
  | vision => "vision"
  | speech => "speech"
  | codeExecution => "code_execution"
  | structuredOutput => "structured_output"
  | toolUse => "tool_use"

theorem ComputationalCapability.value_injective {left right : ComputationalCapability}
    (same : left.value = right.value) : left = right := by
  revert same
  cases left <;> cases right <;> decide

/-! ## Canonical collections -/

/-- A nonempty list that stands in canonical form. -/
structure CanonicalTuple (α : Type) [DecidableEq α] {κ : Type} [LinearOrder κ] (key : α → κ) where
  /-- The members. -/
  items : List α
  /-- There is a member. -/
  nonempty : items ≠ []
  /-- The members stand once each, in order. -/
  canonical_eq : canonical key items = items

namespace CanonicalTuple

variable {α : Type} [DecidableEq α] {κ : Type} [LinearOrder κ] {key : α → κ}

theorem ext_items {left right : CanonicalTuple α key} (same : left.items = right.items) :
    left = right := by
  cases left
  cases right
  simpa using same

instance : DecidableEq (CanonicalTuple α key) := fun left right =>
  decidable_of_iff (left.items = right.items) ⟨ext_items, congrArg items⟩

/-- The canonical form of a nonempty list. -/
def of (key : α → κ) (items : List α) (nonempty : items ≠ []) : CanonicalTuple α key where
  items := canonical key items
  nonempty := canonical_ne_nil key nonempty
  canonical_eq := canonical_eq_self key (canonical_nodup key items) (canonical_pairwise key items)

@[simp] theorem mem_of {items : List α} {nonempty : items ≠ []} {item : α} :
    item ∈ (of key items nonempty).items ↔ item ∈ items := by
  simp [of]

/-- The first member. -/
def first (tuple : CanonicalTuple α key) : α := tuple.items.head tuple.nonempty

theorem first_mem (tuple : CanonicalTuple α key) : tuple.first ∈ tuple.items :=
  List.head_mem tuple.nonempty

theorem first_least (tuple : CanonicalTuple α key) {item : α} (member : item ∈ tuple.items) :
    key tuple.first ≤ key item := by
  have sorted := canonical_pairwise key tuple.items
  rw [tuple.canonical_eq] at sorted
  obtain ⟨items, nonempty, canonicalEq⟩ := tuple
  obtain ⟨head, tail, rfl⟩ := List.exists_cons_of_ne_nil nonempty
  rcases List.mem_cons.mp member with rfl | later
  · exact le_rfl
  · exact (List.pairwise_cons.mp sorted).1 item later

end CanonicalTuple

/-- The required capabilities of a profile or a node, in the order of their texts. -/
abbrev CapabilityTuple := CanonicalTuple ComputationalCapability ComputationalCapability.value

/-! ## Evidence -/

/-- Where a statement comes from, and why it holds. -/
structure Evidence where
  source : String
  reason : String
  /-- The source is nonblank. -/
  source_nonblank : Text.Nonblank source := by exact Text.nonblank_literal rfl
  /-- The reason is nonblank. -/
  reason_nonblank : Text.Nonblank reason := by exact Text.nonblank_literal rfl

instance : DecidableEq Evidence := fun left right =>
  decidable_of_iff (left.source = right.source ∧ left.reason = right.reason) (by
    cases left
    cases right
    simp)

/-- Evidence is ordered by source and reason. -/
def Evidence.key (evidence : Evidence) : String ×ₗ String :=
  toLex (evidence.source, evidence.reason)

/-- A nonempty canonical collection of evidence. -/
abbrev EvidenceTuple := CanonicalTuple Evidence Evidence.key

/-! ## Profiles -/

/-- How much context a workload requires. -/
structure ContextRequirement where
  magnitude : ContextMagnitude
  requiresLongContext : Bool := false
  /-- Long context is required exactly for the long magnitude. -/
  consistent : requiresLongContext = decide (magnitude = .long) := by decide
  deriving DecidableEq

/-- Whether a workload requires external execution, and with which capabilities. -/
structure ToolRequirement where
  externalExecutionRequired : Bool
  requiredCapabilities : List ComputationalCapability := []
  /-- Capabilities stand once each, in order. -/
  canonical_eq :
    canonical ComputationalCapability.value requiredCapabilities = requiredCapabilities := by decide
  /-- Capabilities are named exactly when execution is required. -/
  consistent : externalExecutionRequired = decide (requiredCapabilities ≠ []) := by decide
  deriving DecidableEq

/-- What a workload needs, as far as its signals show. -/
structure WorkloadIntelligenceProfile where
  requestId : String
  workloadId : String
  sessionId : String
  modalities : CanonicalTuple WorkloadModality WorkloadModality.value
  reasoningComplexity : ReasoningComplexity
  contextRequirement : ContextRequirement
  toolRequirements : ToolRequirement
  latencySensitivity : LatencySensitivity
  qualityRequirement : QualityRequirement
  privacyRequirement : PrivacyRequirement
  requiredCapabilities : CapabilityTuple
  confidence : ℚ
  evidence : EvidenceTuple
  /-- Identity fields are nonblank. -/
  identity_nonblank : ∀ text ∈ [requestId, workloadId, sessionId], Text.Nonblank text
  /-- Confidence is a proportion. -/
  confidence_bounds : 0 ≤ confidence ∧ confidence ≤ 1
  deriving DecidableEq

end Intelligence
end MercuryX
