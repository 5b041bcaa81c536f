import MercuryX.GlobalMemory.Contracts

/-!
# Semantic KV cache contracts

Cache entries with their semantic identity, the physical form of their payload and their lineage;
the requests that look them up, and what a look-up returns. An entry that has a payload says
completely for which model it is, and exactly the invalidated entries say why they are.
-/

namespace MercuryX
namespace SemanticKVCache

open Foundation GlobalMemory

/-- The most entries that one namespace holds. -/
def maxKVCacheEntriesPerNamespace : Nat := 4096

/-- The most matches that a look-up returns. -/
def maxCacheLookupResults : Nat := 64

/-- The most source records of an entry. -/
def maxSourceRecordsPerCacheEntry : Nat := 128

/-- The most dependencies of an entry. -/
def maxCacheDependencies : Nat := 64

/-- The most bytes of metadata of an entry. -/
def maxCacheMetadataBytes : Nat := 65536

/-! ## Enumerations -/

/-- How an entry may be reused. -/
inductive SemanticKVReuseMode where
  | exact
  | semanticCompatible
  | noReuse
  deriving DecidableEq, Repr

/-- The state of an entry. -/
inductive SemanticKVCacheState where
  | active
  | stale
  | invalidated
  deriving DecidableEq, Repr

/-- The text of a state. -/
def SemanticKVCacheState.value : SemanticKVCacheState → String
  | active => "ACTIVE"
  | stale => "STALE"
  | invalidated => "INVALIDATED"

/-! ## Entries -/

/-- Where the payload of an entry is. -/
structure SemanticKVPayloadReference where
  payloadBackend : String
  payloadReference : String
  payloadFingerprint : String
  payloadSizeBytes : Nat
  /-- The payload is named. -/
  texts_nonblank : ∀ text ∈ [payloadBackend, payloadReference, payloadFingerprint],
    Text.Nonblank text
  /-- The payload is not empty. -/
  payloadSizeBytes_pos : 1 ≤ payloadSizeBytes

instance : DecidableEq SemanticKVPayloadReference := fun left right =>
  decidable_of_iff (left.payloadBackend = right.payloadBackend ∧
      left.payloadReference = right.payloadReference ∧
      left.payloadFingerprint = right.payloadFingerprint ∧
      left.payloadSizeBytes = right.payloadSizeBytes) (by
    cases left
    cases right
    simp)

/-- One immutable version of a cached context. -/
structure SemanticKVCacheEntry where
  cacheEntryId : String
  namespaceType : GlobalMemoryNamespace
  namespaceId : String
  cacheGeneration : Nat
  semanticKey : String
  semanticFingerprint : String
  modelId : Option String := none
  modelVersion : Option String := none
  tokenizerId : Option String := none
  attentionLayout : Option String := none
  kvFormat : Option String := none
  precision : Option String := none
  contextGeneration : Nat := 1
  sourcePhase8RecordIds : List String := []
  sourceGlobalRecordIds : List String := []
  sourcePredictionIds : List String := []
  sourceArtifactIds : List String := []
  dependencyCacheEntryIds : List String := []
  payload : Option SemanticKVPayloadReference := none
  state : SemanticKVCacheState := .active
  creationSequence : Nat
  invalidationReason : Option String := none
  /-- Identity fields are nonblank. -/
  texts_nonblank : ∀ text ∈ [cacheEntryId, namespaceId, semanticKey, semanticFingerprint],
    Text.Nonblank text
  /-- Optional fields are nonblank where they are given. -/
  optional_nonblank : ∀ field ∈ [modelId, modelVersion, tokenizerId, attentionLayout, kvFormat,
    precision, invalidationReason], ∀ text ∈ field, Text.Nonblank text
  /-- Generations and sequence numbers start at one. -/
  counters_pos : ∀ counter ∈ [cacheGeneration, contextGeneration, creationSequence], 1 ≤ counter
  /-- Lineage stands in canonical form. -/
  lineage_canonical : ∀ texts ∈ [sourcePhase8RecordIds, sourceGlobalRecordIds, sourcePredictionIds,
    sourceArtifactIds, dependencyCacheEntryIds], CanonicalTexts texts
  /-- Source records are bounded. -/
  sources_bounded : sourcePhase8RecordIds.length + sourceGlobalRecordIds.length +
    sourcePredictionIds.length ≤ maxSourceRecordsPerCacheEntry
  /-- Dependencies are bounded. -/
  dependencies_bounded : dependencyCacheEntryIds.length ≤ maxCacheDependencies
  /-- A payload comes with complete physical metadata. -/
  payload_complete : payload ≠ none → ∀ field ∈ [modelId, modelVersion, tokenizerId,
    attentionLayout, kvFormat, precision], field ≠ none
  /-- Exactly the invalidated entries have a reason. -/
  invalidation : state = .invalidated ↔ invalidationReason ≠ none

instance : DecidableEq SemanticKVCacheEntry := fun left right =>
  decidable_of_iff (left.cacheEntryId = right.cacheEntryId ∧
      left.namespaceType = right.namespaceType ∧ left.namespaceId = right.namespaceId ∧
      left.cacheGeneration = right.cacheGeneration ∧ left.semanticKey = right.semanticKey ∧
      left.semanticFingerprint = right.semanticFingerprint ∧ left.modelId = right.modelId ∧
      left.modelVersion = right.modelVersion ∧ left.tokenizerId = right.tokenizerId ∧
      left.attentionLayout = right.attentionLayout ∧ left.kvFormat = right.kvFormat ∧
      left.precision = right.precision ∧ left.contextGeneration = right.contextGeneration ∧
      left.sourcePhase8RecordIds = right.sourcePhase8RecordIds ∧
      left.sourceGlobalRecordIds = right.sourceGlobalRecordIds ∧
      left.sourcePredictionIds = right.sourcePredictionIds ∧
      left.sourceArtifactIds = right.sourceArtifactIds ∧
      left.dependencyCacheEntryIds = right.dependencyCacheEntryIds ∧
      left.payload = right.payload ∧ left.state = right.state ∧
      left.creationSequence = right.creationSequence ∧
      left.invalidationReason = right.invalidationReason) (by
    cases left
    cases right
    simp)

namespace SemanticKVCacheEntry

/-- The namespace of an entry. -/
def space (entry : SemanticKVCacheEntry) : GlobalMemoryNamespace × String :=
  (entry.namespaceType, entry.namespaceId)

end SemanticKVCacheEntry

/-! ## Requests and results -/

/-- A request for reusable entries of one namespace. -/
structure SemanticKVLookupRequest where
  namespaceType : GlobalMemoryNamespace
  namespaceId : String
  authorizedNamespaceType : GlobalMemoryNamespace
  authorizedNamespaceId : String
  semanticKey : String
  semanticFingerprint : Option String := none
  modelId : Option String := none
  modelVersion : Option String := none
  tokenizerId : Option String := none
  attentionLayout : Option String := none
  kvFormat : Option String := none
  precision : Option String := none
  contextGeneration : Nat := 1
  limit : Nat := maxCacheLookupResults
  /-- Required fields are nonblank. -/
  texts_nonblank : ∀ text ∈ [namespaceId, authorizedNamespaceId, semanticKey], Text.Nonblank text
  /-- Optional fields are nonblank where they are given. -/
  optional_nonblank : ∀ field ∈ [semanticFingerprint, modelId, modelVersion, tokenizerId,
    attentionLayout, kvFormat, precision], ∀ text ∈ field, Text.Nonblank text
  /-- Generations start at one. -/
  contextGeneration_pos : 1 ≤ contextGeneration
  /-- The limit is between one and the most matches of a look-up. -/
  limit_bounds : 1 ≤ limit ∧ limit ≤ maxCacheLookupResults
  /-- The caller is authorized for the namespace. -/
  authorized : namespaceType = authorizedNamespaceType ∧ namespaceId = authorizedNamespaceId

/-- The namespace of a request. -/
def SemanticKVLookupRequest.space (request : SemanticKVLookupRequest) :
    GlobalMemoryNamespace × String := (request.namespaceType, request.namespaceId)

/-- How an entry may be reused for a request, and why not further. -/
structure SemanticKVCompatibilityResult where
  cacheEntryId : String
  reuseMode : SemanticKVReuseMode
  semanticReuseAllowed : Bool
  physicalKVReuseAllowed : Bool
  reasonCodes : List String := []
  /-- The entry is named. -/
  cacheEntryId_nonblank : Text.Nonblank cacheEntryId
  /-- Reasons stand in canonical form. -/
  reasonCodes_canonical : CanonicalTexts reasonCodes
  /-- Physical reuse requires semantic reuse. -/
  physical_semantic : physicalKVReuseAllowed = true → semanticReuseAllowed = true
  /-- An entry that is not reused is not reused in any way. -/
  noReuse_denied : reuseMode = .noReuse →
    semanticReuseAllowed = false ∧ physicalKVReuseAllowed = false

instance : DecidableEq SemanticKVCompatibilityResult := fun left right =>
  decidable_of_iff (left.cacheEntryId = right.cacheEntryId ∧ left.reuseMode = right.reuseMode ∧
      left.semanticReuseAllowed = right.semanticReuseAllowed ∧
      left.physicalKVReuseAllowed = right.physicalKVReuseAllowed ∧
      left.reasonCodes = right.reasonCodes) (by
    cases left
    cases right
    simp)

/-- An entry that may be reused, and how. -/
structure SemanticKVLookupMatch where
  entry : SemanticKVCacheEntry
  compatibility : SemanticKVCompatibilityResult
  deriving DecidableEq

/-- What a look-up returns. -/
structure SemanticKVLookupResult where
  «matches» : List SemanticKVLookupMatch := []
  /-- Matches are bounded. -/
  matches_bounded : matches.length ≤ maxCacheLookupResults
  /-- No entry is returned twice. -/
  matches_distinct : (matches.map fun found => found.entry.cacheEntryId).Nodup
  deriving DecidableEq

end SemanticKVCache
end MercuryX
