import MercuryX.Foundation.Digest
import MercuryX.SemanticKVCache.Contracts

/-!
# The identity of cache entries

The id of an entry digests everything else that the entry holds. Its metadata, which is bounded,
is the same with the id.
-/

namespace MercuryX
namespace SemanticKVCache

open Foundation GlobalMemory

/-- The JSON of a payload reference. -/
def SemanticKVPayloadReference.json (reference : SemanticKVPayloadReference) : Json :=
  .obj [("payload_backend", .str reference.payloadBackend),
    ("payload_reference", .str reference.payloadReference),
    ("payload_fingerprint", .str reference.payloadFingerprint),
    ("payload_size_bytes", .int reference.payloadSizeBytes)]

/-- What an entry holds besides its id, in the given state. -/
def identityMembers (entry : SemanticKVCacheEntry) (state : SemanticKVCacheState)
    (creationSequence : Nat) (invalidationReason : Option String) : List (String × Json) :=
  [("namespace_type", .str entry.namespaceType.value),
    ("namespace_id", .str entry.namespaceId),
    ("cache_generation", .int entry.cacheGeneration),
    ("semantic_key", .str entry.semanticKey),
    ("semantic_fingerprint", .str entry.semanticFingerprint),
    ("model_id", .optStr entry.modelId),
    ("model_version", .optStr entry.modelVersion),
    ("tokenizer_id", .optStr entry.tokenizerId),
    ("attention_layout", .optStr entry.attentionLayout),
    ("kv_format", .optStr entry.kvFormat),
    ("precision", .optStr entry.precision),
    ("context_generation", .int entry.contextGeneration),
    ("source_phase8_record_ids", .strs entry.sourcePhase8RecordIds),
    ("source_global_record_ids", .strs entry.sourceGlobalRecordIds),
    ("source_prediction_ids", .strs entry.sourcePredictionIds),
    ("source_artifact_ids", .strs entry.sourceArtifactIds),
    ("dependency_cache_entry_ids", .strs entry.dependencyCacheEntryIds),
    ("payload", entry.payload.elim .null SemanticKVPayloadReference.json),
    ("state", .str state.value),
    ("creation_sequence", .int creationSequence),
    ("invalidation_reason", .optStr invalidationReason)]

/-- The id of an entry that holds the given state and all else of another entry, whose fields are
checked already. -/
def makeSemanticKVCacheEntryId (digest : Digest) (entry : SemanticKVCacheEntry)
    (state : SemanticKVCacheState) (creationSequence : Nat) (invalidationReason : Option String) :
    String :=
  digest.hexdigest (.obj (identityMembers entry state creationSequence invalidationReason))

/-- The metadata of an entry. -/
def canonicalCacheMetadataPayload (entry : SemanticKVCacheEntry) : Json :=
  .obj (("cache_entry_id", .str entry.cacheEntryId) ::
    identityMembers entry entry.state entry.creationSequence entry.invalidationReason)

/-- The check of the size of the metadata of an entry. -/
def validateCacheMetadataSize (entry : SemanticKVCacheEntry) : Except Fault Unit :=
  require ((canonicalCacheMetadataPayload entry).dumps.length ≤ maxCacheMetadataBytes)
    (.value "cache metadata exceeds certified byte limit")

end SemanticKVCache
end MercuryX
