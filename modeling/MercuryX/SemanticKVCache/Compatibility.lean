import MercuryX.SemanticKVCache.Contracts

/-!
# Compatibility of cached context

An entry is reusable for a request when it is active, of the request's namespace and semantic key,
and of its fingerprint where one is requested. The payload itself may be reused when the request
names the whole physical form and the entry has it, in the same generation of the context.
-/

namespace MercuryX
namespace SemanticKVCache

open Foundation GlobalMemory

/-- The physical fields of an entry. -/
def SemanticKVCacheEntry.physicalFields (entry : SemanticKVCacheEntry) : List (Option String) :=
  [entry.modelId, entry.modelVersion, entry.tokenizerId, entry.attentionLayout, entry.kvFormat,
    entry.precision]

/-- The physical fields of a request. -/
def SemanticKVLookupRequest.physicalFields (request : SemanticKVLookupRequest) :
    List (Option String) :=
  [request.modelId, request.modelVersion, request.tokenizerId, request.attentionLayout,
    request.kvFormat, request.precision]

/-- The reason for each physical field that differs. -/
def physicalCodes : List String :=
  ["MODEL_ID_MISMATCH", "MODEL_VERSION_MISMATCH", "TOKENIZER_MISMATCH",
    "ATTENTION_LAYOUT_MISMATCH", "KV_FORMAT_MISMATCH", "PRECISION_MISMATCH"]

/-- The reasons why a semantically compatible entry may not be reused. -/
def reasonTexts : List String :=
  ["SEMANTIC_FINGERPRINT_MISMATCH"] ++ physicalCodes ++ ["CONTEXT_GENERATION_MISMATCH",
    "MISSING_PHYSICAL_PAYLOAD", "INCOMPLETE_PHYSICAL_REQUEST", "SEMANTIC_REUSE_ONLY",
    "NAMESPACE_MISMATCH", "ENTRY_NOT_ACTIVE", "SEMANTIC_KEY_MISMATCH"]

theorem reasonTexts_nonblank : ∀ reason ∈ reasonTexts, Text.Nonblank reason := by decide

theorem canonicalTexts_reasons {reasons : List String} (known : reasons ⊆ reasonTexts) :
    CanonicalTexts (canonical id reasons) :=
  canonicalTexts_canonical fun reason member => reasonTexts_nonblank reason (known member)

theorem entryId_nonblank (entry : SemanticKVCacheEntry) : Text.Nonblank entry.cacheEntryId :=
  entry.texts_nonblank _ (by simp)

/-- The decision against an entry, for one reason. -/
def refused (entry : SemanticKVCacheEntry) (reason : String)
    (known : [reason] ⊆ reasonTexts) : SemanticKVCompatibilityResult where
  cacheEntryId := entry.cacheEntryId
  reuseMode := .noReuse
  semanticReuseAllowed := false
  physicalKVReuseAllowed := false
  reasonCodes := canonical id [reason]
  cacheEntryId_nonblank := entryId_nonblank entry
  reasonCodes_canonical := canonicalTexts_reasons known
  physical_semantic := id
  noReuse_denied := fun _ => ⟨rfl, rfl⟩

section Decision

variable (request : SemanticKVLookupRequest) (entry : SemanticKVCacheEntry)

/-- The fingerprint is that of the request, if it has one. -/
def semanticFpMatch : Bool :=
  request.semanticFingerprint.all fun fingerprint => entry.semanticFingerprint = fingerprint

/-- Some physical field is requested. -/
def requestedPhysical : Bool := request.physicalFields.any Option.isSome

/-- Every physical field is requested. -/
def completeRequest : Bool := request.physicalFields.all Option.isSome

/-- The reasons against physical reuse. -/
def physicalReasons : List String :=
  if requestedPhysical request then
    if completeRequest request then
      ((physicalCodes.zip (entry.physicalFields.zip request.physicalFields)).filter
          fun check => check.2.1 ≠ check.2.2).map Prod.fst ++
        (if entry.contextGeneration ≠ request.contextGeneration then
          ["CONTEXT_GENERATION_MISMATCH"] else []) ++
        (if entry.payload = none then ["MISSING_PHYSICAL_PAYLOAD"] else [])
    else ["INCOMPLETE_PHYSICAL_REQUEST"]
  else []

/-- The reasons collected before the mode is decided. -/
def collectedReasons : List String :=
  (if semanticFpMatch request entry then [] else ["SEMANTIC_FINGERPRINT_MISMATCH"]) ++
    physicalReasons request entry

/-- The payload of the entry has the physical form that is requested. -/
def physicalMatch : Bool :=
  requestedPhysical request && completeRequest request && semanticFpMatch request entry &&
    decide (collectedReasons request entry = []) && entry.payload.isSome

theorem physicalReasons_known : physicalReasons request entry ⊆ reasonTexts := by
  intro reason member
  unfold physicalReasons at member
  split at member
  · split at member
    · simp only [List.mem_append, List.mem_map, List.mem_filter] at member
      rcases member with (⟨check, ⟨inZip, _⟩, rfl⟩ | generation) | missing
      · have code := (List.of_mem_zip inZip).1
        exact List.mem_append_left _ (List.mem_append_right _ code)
      · split at generation
        · rw [List.mem_singleton.mp generation]
          decide
        · contradiction
      · split at missing
        · rw [List.mem_singleton.mp missing]
          decide
        · contradiction
    · rw [List.mem_singleton.mp member]
      decide
  · contradiction

theorem collectedReasons_known : collectedReasons request entry ⊆ reasonTexts := by
  unfold collectedReasons
  refine List.append_subset.mpr ⟨?_, physicalReasons_known request entry⟩
  split
  · exact List.nil_subset _
  · decide

/-- The decision on an active entry of the namespace and the semantic key. -/
def decision : SemanticKVCompatibilityResult :=
  if physical : physicalMatch request entry then
    { cacheEntryId := entry.cacheEntryId
      reuseMode := .exact
      semanticReuseAllowed := semanticFpMatch request entry
      physicalKVReuseAllowed := true
      reasonCodes := canonical id (collectedReasons request entry)
      cacheEntryId_nonblank := entryId_nonblank entry
      reasonCodes_canonical := canonicalTexts_reasons (collectedReasons_known request entry)
      physical_semantic := fun _ => by
        simp only [physicalMatch, Bool.and_eq_true] at physical
        exact physical.1.1.2
      noReuse_denied := fun denied => by contradiction }
  else if semantic : semanticFpMatch request entry then
    { cacheEntryId := entry.cacheEntryId
      reuseMode := .semanticCompatible
      semanticReuseAllowed := true
      physicalKVReuseAllowed := false
      reasonCodes := canonical id (collectedReasons request entry ++ ["SEMANTIC_REUSE_ONLY"])
      cacheEntryId_nonblank := entryId_nonblank entry
      reasonCodes_canonical := canonicalTexts_reasons
        (List.append_subset.mpr ⟨collectedReasons_known request entry, by decide⟩)
      physical_semantic := fun _ => rfl
      noReuse_denied := fun denied => by contradiction }
  else
    { cacheEntryId := entry.cacheEntryId
      reuseMode := .noReuse
      semanticReuseAllowed := false
      physicalKVReuseAllowed := false
      reasonCodes := canonical id (collectedReasons request entry)
      cacheEntryId_nonblank := entryId_nonblank entry
      reasonCodes_canonical := canonicalTexts_reasons (collectedReasons_known request entry)
      physical_semantic := id
      noReuse_denied := fun _ => ⟨rfl, rfl⟩ }

/-- The compatibility of an entry with a request. -/
def evaluateSemanticKVCompatibility : SemanticKVCompatibilityResult :=
  if entry.space ≠ request.space then refused entry "NAMESPACE_MISMATCH" (by decide)
  else if entry.state ≠ .active then refused entry "ENTRY_NOT_ACTIVE" (by decide)
  else if entry.semanticKey ≠ request.semanticKey then
    refused entry "SEMANTIC_KEY_MISMATCH" (by decide)
  else decision request entry

/-! ## What may be reused -/

/-- The entry is reusable for the request. -/
structure Reusable : Prop where
  /-- The entry is of the namespace of the request. -/
  space : entry.space = request.space
  /-- The entry is active. -/
  active : entry.state = .active
  /-- The semantic key is the one requested. -/
  semanticKey : entry.semanticKey = request.semanticKey
  /-- The fingerprint is the one requested, if any. -/
  fingerprint : ∀ fingerprint, request.semanticFingerprint = some fingerprint →
    entry.semanticFingerprint = fingerprint

/-- The entry has a payload in the physical form that the request names completely. -/
structure PhysicallyEqual : Prop where
  /-- Each physical field is requested, and the entry has it. -/
  fields : entry.physicalFields = request.physicalFields
  /-- No physical field is left open. -/
  complete : ∀ field ∈ request.physicalFields, field ≠ none
  /-- The context is of the same generation. -/
  generation : entry.contextGeneration = request.contextGeneration
  /-- There is a payload. -/
  payload : entry.payload ≠ none

variable {request entry}

theorem semanticFpMatch_iff : semanticFpMatch request entry = true ↔
    ∀ fingerprint, request.semanticFingerprint = some fingerprint →
      entry.semanticFingerprint = fingerprint := by
  simp [semanticFpMatch, Option.all_eq_true]

theorem completeRequest_iff : completeRequest request = true ↔
    ∀ field ∈ request.physicalFields, field ≠ none := by
  rw [completeRequest, List.all_eq_true]
  simp only [Option.isSome_iff_ne_none]

theorem requestedPhysical_of_complete (complete : completeRequest request = true) :
    requestedPhysical request = true := by
  rw [completeRequest, List.all_eq_true] at complete
  rw [requestedPhysical, List.any_eq_true]
  exact ⟨request.modelId, List.mem_cons_self, complete _ List.mem_cons_self⟩

/-- No physical field is reported exactly when all are equal. -/
theorem mismatches_eq_nil_iff :
    (physicalCodes.zip (entry.physicalFields.zip request.physicalFields)).filter
      (fun check => check.2.1 ≠ check.2.2) = [] ↔
      entry.physicalFields = request.physicalFields := by
  simp only [List.filter_eq_nil_iff, decide_eq_true_eq, not_not, physicalCodes,
    SemanticKVCacheEntry.physicalFields, SemanticKVLookupRequest.physicalFields, List.zip_cons_cons,
    List.zip_nil_left, List.forall_mem_cons, List.not_mem_nil, false_imp_iff, implies_true,
    List.cons.injEq]

/-- The payload may be reused exactly when the entry is physically equal, where the fingerprint
is the one requested. -/
theorem physicalMatch_iff : physicalMatch request entry = true ↔
    semanticFpMatch request entry = true ∧ PhysicallyEqual request entry := by
  simp only [physicalMatch, Bool.and_eq_true, decide_eq_true_eq, Option.isSome_iff_ne_none]
  constructor
  · rintro ⟨⟨⟨⟨requested, complete⟩, semantic⟩, clear⟩, payload⟩
    rw [collectedReasons, if_pos semantic, List.nil_append, physicalReasons, if_pos requested,
      if_pos complete, List.append_eq_nil_iff, List.append_eq_nil_iff, List.map_eq_nil_iff,
      mismatches_eq_nil_iff] at clear
    obtain ⟨⟨fields, generation⟩, _⟩ := clear
    refine ⟨semantic, fields, completeRequest_iff.mp complete, ?_, payload⟩
    by_contra different
    rw [if_pos different] at generation
    contradiction
  · rintro ⟨semantic, equal⟩
    have complete := completeRequest_iff.mpr equal.complete
    have requested := requestedPhysical_of_complete complete
    refine ⟨⟨⟨⟨requested, complete⟩, semantic⟩, ?_⟩, equal.payload⟩
    rw [collectedReasons, if_pos semantic, List.nil_append, physicalReasons, if_pos requested,
      if_pos complete, mismatches_eq_nil_iff.mpr equal.fields,
      if_neg (not_not.mpr equal.generation), if_neg equal.payload]
    rfl

/-- What is decided about an entry: it is reused exactly when it is reusable, and its payload
exactly when it is physically equal besides. -/
structure Decided (request : SemanticKVLookupRequest) (entry : SemanticKVCacheEntry)
    (result : SemanticKVCompatibilityResult) : Prop where
  /-- The result is about the entry. -/
  entryId : result.cacheEntryId = entry.cacheEntryId
  /-- The entry is reused exactly when it is reusable. -/
  reused : result.reuseMode ≠ .noReuse ↔ Reusable request entry
  /-- Reuse is semantic reuse at least. -/
  semantic : result.semanticReuseAllowed = true ↔ Reusable request entry
  /-- Reuse is exact exactly for a physically equal entry. -/
  exact : result.reuseMode = .exact ↔ Reusable request entry ∧ PhysicallyEqual request entry
  /-- The payload may be reused exactly for a physically equal entry. -/
  physical : result.physicalKVReuseAllowed = true ↔
    Reusable request entry ∧ PhysicallyEqual request entry

theorem decided_refused {reason : String} {known : [reason] ⊆ reasonTexts}
    (unusable : ¬ Reusable request entry) : Decided request entry (refused entry reason known) where
  entryId := rfl
  reused := iff_of_false (not_not.mpr rfl) unusable
  semantic := iff_of_false Bool.false_ne_true unusable
  exact := iff_of_false (by simp [refused]) fun both => unusable both.1
  physical := iff_of_false Bool.false_ne_true fun both => unusable both.1

/-- The evaluation decides by reusability and physical equality. -/
theorem decided_evaluate (request : SemanticKVLookupRequest) (entry : SemanticKVCacheEntry) :
    Decided request entry (evaluateSemanticKVCompatibility request entry) := by
  unfold evaluateSemanticKVCompatibility
  split
  · next elsewhere => exact decided_refused fun reusable => elsewhere reusable.space
  · next space =>
      split
      · next ended => exact decided_refused fun reusable => ended reusable.active
      · next active =>
          split
          · next other => exact decided_refused fun reusable => other reusable.semanticKey
          · next semanticKey =>
              have reusable : Reusable request entry ↔ semanticFpMatch request entry = true := by
                rw [semanticFpMatch_iff]
                exact ⟨Reusable.fingerprint, fun fingerprint =>
                  ⟨not_not.mp space, not_not.mp active, not_not.mp semanticKey, fingerprint⟩⟩
              have physical : physicalMatch request entry = true ↔
                  Reusable request entry ∧ PhysicallyEqual request entry := by
                rw [physicalMatch_iff, reusable]
              unfold decision
              split
              · next exactly =>
                  have both := physical.mp exactly
                  exact ⟨rfl, iff_of_true (by simp) both.1,
                    iff_of_true (reusable.mp both.1) both.1, iff_of_true rfl both,
                    iff_of_true rfl both⟩
              · next inexact =>
                  have notBoth := mt physical.mpr inexact
                  split
                  · next semantic =>
                      have usable := reusable.mpr semantic
                      exact ⟨rfl, iff_of_true (by simp) usable, iff_of_true rfl usable,
                        iff_of_false (by simp) notBoth, iff_of_false (by simp) notBoth⟩
                  · next mismatch =>
                      have unusable := mt reusable.mp mismatch
                      exact ⟨rfl, iff_of_false (by simp) unusable, iff_of_false (by simp) unusable,
                        iff_of_false (by simp) notBoth, iff_of_false (by simp) notBoth⟩

end Decision

end SemanticKVCache
end MercuryX
