import MercuryX.GlobalMemory.Contracts

/-!
# Context prediction contracts

What a prediction is asked for and what it may rest on: the evidence of a source record, and the
content-addressed candidate of one context key. A candidate cites its sources by id, and the
evidence that it carries names exactly these.
-/

namespace MercuryX
namespace ContextPrediction

open Foundation GlobalMemory

/-- The most candidates of a request. -/
def maxPredictionCandidates : Nat := 256

/-- The most predictions of a request. -/
def maxContextPredictions : Nat := 64

/-- The most source records that a candidate cites. -/
def maxSourceRecordsPerPrediction : Nat := 128

/-! ## Requests -/

/-- How far ahead a prediction looks. -/
inductive ContextPredictionHorizon where
  | nextTurn
  | nextTask
  | sessionNearTerm
  deriving DecidableEq, Repr

/-- A request for the contexts of one namespace, by a caller authorized for it. -/
structure ContextPredictionRequest where
  namespaceType : GlobalMemoryNamespace
  namespaceId : String
  authorizedNamespaceType : GlobalMemoryNamespace
  authorizedNamespaceId : String
  predictorId : String
  predictorVersion : String
  predictionHorizon : Option ContextPredictionHorizon := none
  limit : Nat := maxContextPredictions
  /-- Identity fields are nonblank. -/
  texts_nonblank : ∀ text ∈ [namespaceId, authorizedNamespaceId, predictorId, predictorVersion],
    Text.Nonblank text
  /-- The limit is between one and the most predictions of a request. -/
  limit_bounds : 1 ≤ limit ∧ limit ≤ maxContextPredictions
  /-- The caller is authorized for the namespace. -/
  authorized : (namespaceType, namespaceId) = (authorizedNamespaceType, authorizedNamespaceId)

/-- The namespace of a request. -/
def ContextPredictionRequest.space (request : ContextPredictionRequest) :
    GlobalMemoryNamespace × String := (request.namespaceType, request.namespaceId)

/-- The binding of one authorized session to the namespace of a request. -/
structure SessionPredictionScope where
  namespaceType : GlobalMemoryNamespace
  namespaceId : String
  sessionId : String
  /-- Identity fields are nonblank. -/
  texts_nonblank : ∀ text ∈ [namespaceId, sessionId], Text.Nonblank text

/-! ## Source evidence -/

/-- Where a source record comes from. -/
inductive SourceKind where
  | session
  | global
  deriving DecidableEq, Repr

/-- The text of a source kind. -/
def SourceKind.value : SourceKind → String
  | session => "SESSION"
  | global => "GLOBAL"

theorem SourceKind.value_injective {left right : SourceKind}
    (same : left.value = right.value) : left = right := by
  revert same
  cases left <;> cases right <;> decide

/-- The evidence of a source record, as it is given. -/
structure SourceEvidenceFields where
  sourceKind : SourceKind
  recordId : String
  recordVersion : Nat
  sequenceScope : String
  creationSequence : Nat
  sourceArtifactIds : List String
  sourcePhase8RecordIds : List String := []
  provenance : List String
  conflictState : Option GlobalMemoryConflictState := none

/-- What the contract asks of the evidence of a source record. -/
structure SourceEvidenceFields.Valid (given : SourceEvidenceFields) : Prop where
  /-- Identity fields are nonblank. -/
  texts : ∀ text ∈ [given.recordId, given.sequenceScope], Text.Nonblank text
  /-- Versions and sequence numbers start at one. -/
  counters : 1 ≤ given.recordVersion ∧ 1 ≤ given.creationSequence
  /-- There are artifacts and provenance. -/
  present : given.sourceArtifactIds ≠ [] ∧ given.provenance ≠ []
  /-- No listed text is blank. -/
  members : ∀ texts ∈ [given.sourceArtifactIds, given.sourcePhase8RecordIds, given.provenance],
    ∀ text ∈ texts, Text.Nonblank text
  /-- A global source has a conflict state and lineage. -/
  global : given.sourceKind = .global →
    given.conflictState ≠ none ∧ given.sourcePhase8RecordIds ≠ []
  /-- A session source has no conflict state. -/
  session : given.sourceKind = .session → given.conflictState = none

/-- The check of the evidence of a source record. -/
def SourceEvidenceFields.check (given : SourceEvidenceFields) : Except Fault Unit := do
  let contract := "ContextPredictionSourceEvidence"
  rule contract "record_id" (Text.Nonblank given.recordId) "source evidence must be nonblank"
  fieldGe contract "record_version" 1 given.recordVersion
  rule contract "sequence_scope" (Text.Nonblank given.sequenceScope)
    "source evidence must be nonblank"
  fieldGe contract "creation_sequence" 1 given.creationSequence
  rule contract "source_artifact_ids" (given.sourceArtifactIds ≠ [])
    "source evidence must be nonempty"
  rule contract "source_artifact_ids" (∀ text ∈ given.sourceArtifactIds, Text.Nonblank text)
    "source_artifact_ids must be nonblank"
  rule contract "source_phase8_record_ids"
    (∀ text ∈ given.sourcePhase8RecordIds, Text.Nonblank text)
    "source_phase8_record_ids must be nonblank"
  rule contract "provenance" (given.provenance ≠ []) "source evidence must be nonempty"
  rule contract "provenance" (∀ text ∈ given.provenance, Text.Nonblank text)
    "provenance must be nonblank"
  rule contract ""
    (given.sourceKind = .global → given.conflictState ≠ none ∧ given.sourcePhase8RecordIds ≠ [])
    "global source requires explicit conflict state and lineage"
  rule contract "" (given.sourceKind = .session → given.conflictState = none)
    "session source has no global conflict state"

theorem SourceEvidenceFields.check_eq_ok {given : SourceEvidenceFields} {done : Unit} :
    given.check = .ok done ↔ given.Valid := by
  simp only [check, bind_eq_ok, rule_eq_ok, fieldGe_eq_ok, exists_and_left, exists_const]
  constructor
  · rintro ⟨record, version, scope, sequence, artifacts, artifactTexts, phase8Texts, provenance,
      provenanceTexts, global, session⟩
    refine ⟨?_, by omega, ⟨artifacts, provenance⟩, ?_, global, session⟩
    · simp [record, scope]
    · simpa using ⟨artifactTexts, phase8Texts, provenanceTexts⟩
  · intro valid
    exact ⟨valid.texts _ (by simp), by exact_mod_cast valid.counters.1, valid.texts _ (by simp),
      by exact_mod_cast valid.counters.2, valid.present.1, valid.members _ (by simp),
      valid.members _ (by simp), valid.present.2, valid.members _ (by simp), valid.global,
      valid.session⟩

/-- The evidence of a source record, with its lists in canonical form. -/
structure ContextPredictionSourceEvidence extends SourceEvidenceFields where
  /-- The contract holds. -/
  valid : toSourceEvidenceFields.Valid
  /-- Listed texts stand once each, in order. -/
  members_canonical : ∀ texts ∈ [sourceArtifactIds, sourcePhase8RecordIds, provenance],
    canonical id texts = texts

namespace ContextPredictionSourceEvidence

/-- The evidence that valid fields make. -/
def make (given : SourceEvidenceFields) (valid : given.Valid) :
    ContextPredictionSourceEvidence where
  sourceKind := given.sourceKind
  recordId := given.recordId
  recordVersion := given.recordVersion
  sequenceScope := given.sequenceScope
  creationSequence := given.creationSequence
  sourceArtifactIds := canonical id given.sourceArtifactIds
  sourcePhase8RecordIds := canonical id given.sourcePhase8RecordIds
  provenance := canonical id given.provenance
  conflictState := given.conflictState
  valid := {
    texts := valid.texts
    counters := valid.counters
    present := ⟨canonical_ne_nil id valid.present.1, canonical_ne_nil id valid.present.2⟩
    members := by
      have members := valid.members
      simpa using members
    global := fun global => ⟨(valid.global global).1, canonical_ne_nil id (valid.global global).2⟩
    session := valid.session }
  members_canonical := by simp

/-- Construct the evidence of a source record. -/
def construct (given : SourceEvidenceFields) : Except Fault ContextPredictionSourceEvidence :=
  checked SourceEvidenceFields.check SourceEvidenceFields.check_eq_ok make given

theorem construct_eq_ok_iff {given : SourceEvidenceFields}
    {evidence : ContextPredictionSourceEvidence} :
    construct given = .ok evidence ↔ ∃ valid, make given valid = evidence :=
  checked_eq_ok_iff

/-- What evidence is about: the kind and the id of its record. -/
def identity (evidence : ContextPredictionSourceEvidence) : SourceKind × String :=
  (evidence.sourceKind, evidence.recordId)

/-- Evidence is ordered by kind and id. -/
def key (evidence : ContextPredictionSourceEvidence) : String ×ₗ String :=
  toLex (evidence.sourceKind.value, evidence.recordId)

end ContextPredictionSourceEvidence

/-- The ids of the records of a kind. -/
def recordIdsOf (kind : SourceKind) (sources : List ContextPredictionSourceEvidence) :
    List String :=
  (sources.filter fun evidence => evidence.sourceKind = kind).map fun evidence => evidence.recordId

/-- The ids of the session records that sources rest on, themselves or through their lineage. -/
def phase8IdsOf (sources : List ContextPredictionSourceEvidence) : List String :=
  recordIdsOf .session sources ++ sources.flatMap fun evidence => evidence.sourcePhase8RecordIds

/-! ## Candidates -/

/-- What the identity of a candidate covers. -/
structure CandidateContent where
  namespaceType : GlobalMemoryNamespace
  namespaceId : String
  contextKey : String
  sourceGlobalRecordIds : List String := []
  sourcePhase8RecordIds : List String := []
  sourceArtifactIds : List String := []
  conflictPresent : Bool := false
  creationSequence : Nat

/-- The check that texts are nonblank, distinct and in order. -/
def requireCanonicalTextTuple (values : List String) (fieldName : String) : Except Fault Unit := do
  require (∀ value ∈ values, Text.Nonblank value) (.value s!"{fieldName} must be nonblank")
  require values.Nodup (.value s!"{fieldName} must not contain duplicates")
  require (values = sortOn id values) (.value s!"{fieldName} must use canonical order")

theorem canonicalTexts_iff {values : List String} :
    CanonicalTexts values ↔
      (∀ value ∈ values, Text.Nonblank value) ∧ values.Nodup ∧ values = sortOn id values := by
  refine and_congr_right fun _ => ⟨fun same => ?_, ?_⟩
  · have nodup : values.Nodup := same ▸ canonical_nodup id values
    refine ⟨nodup, ?_⟩
    rwa [canonical, nodup.dedup, eq_comm] at same
  · rintro ⟨nodup, same⟩
    rw [canonical, nodup.dedup]
    exact same.symm

@[simp] theorem requireCanonicalTextTuple_eq_ok {values : List String} {fieldName : String}
    {done : Unit} : requireCanonicalTextTuple values fieldName = .ok done ↔
      CanonicalTexts values := by
  simp only [requireCanonicalTextTuple, bind_eq_ok, require_eq_ok, exists_and_left, exists_const,
    canonicalTexts_iff]

/-- What is asked of the content of a candidate. -/
structure CandidateContent.Valid (content : CandidateContent) : Prop where
  /-- The namespace is named. -/
  namespaceId : Text.Nonblank content.namespaceId
  /-- The context is named. -/
  contextKey : Text.Nonblank content.contextKey
  /-- Sequence numbers start at one. -/
  creationSequence : 1 ≤ content.creationSequence
  /-- Global records are cited in canonical form. -/
  globalIds : CanonicalTexts content.sourceGlobalRecordIds
  /-- Session records are cited in canonical form. -/
  phase8Ids : CanonicalTexts content.sourcePhase8RecordIds
  /-- Artifacts are cited in canonical form. -/
  artifactIds : CanonicalTexts content.sourceArtifactIds

/-- What the identity of a candidate is made of. -/
def CandidateContent.payload (content : CandidateContent) : Json :=
  .obj [
    ("namespace_type", .str content.namespaceType.value),
    ("namespace_id", .str content.namespaceId),
    ("context_key", .str content.contextKey),
    ("source_global_record_ids", .arr (content.sourceGlobalRecordIds.map .str)),
    ("source_phase8_record_ids", .arr (content.sourcePhase8RecordIds.map .str)),
    ("source_artifact_ids", .arr (content.sourceArtifactIds.map .str)),
    ("conflict_present", .bool content.conflictPresent),
    ("creation_sequence", .int content.creationSequence)]

variable (digest : Digest)

/-- The identity of a candidate with a given content. -/
def CandidateContent.address (content : CandidateContent) : String :=
  digest.hexdigest content.payload

/-- Make the identity of a candidate, from content that passes its checks. -/
def makeContextPredictionCandidateId (content : CandidateContent) : Except Fault String := do
  require (Text.Nonblank content.namespaceId) (.value "namespace_id must be nonblank")
  require (Text.Nonblank content.contextKey) (.value "context_key must be nonblank")
  require (1 ≤ content.creationSequence) (.value "creation_sequence must be positive")
  requireCanonicalTextTuple content.sourceGlobalRecordIds "source_global_record_ids"
  requireCanonicalTextTuple content.sourcePhase8RecordIds "source_phase8_record_ids"
  requireCanonicalTextTuple content.sourceArtifactIds "source_artifact_ids"
  return content.address digest

variable {digest}

theorem makeContextPredictionCandidateId_eq_ok_iff {content : CandidateContent} {made : String} :
    makeContextPredictionCandidateId digest content = .ok made ↔
      content.Valid ∧ content.address digest = made := by
  simp only [makeContextPredictionCandidateId, bind_eq_ok, require_eq_ok,
    requireCanonicalTextTuple_eq_ok, pure_eq_ok, Except.ok.injEq, exists_and_left, exists_const]
  constructor
  · rintro ⟨space, context, sequence, globals, phase8, artifacts, same⟩
    exact ⟨⟨space, context, sequence, globals, phase8, artifacts⟩, same⟩
  · rintro ⟨⟨space, context, sequence, globals, phase8, artifacts⟩, same⟩
    exact ⟨space, context, sequence, globals, phase8, artifacts, same⟩

/-- A candidate, as it is given. -/
structure CandidateFields extends CandidateContent where
  candidateId : String
  sourceEvidence : List ContextPredictionSourceEvidence := []

/-- The evidence that is carried, if any, names exactly the records that are cited. -/
def CandidateFields.EvidenceLinked (given : CandidateFields) : Prop :=
  given.sourceEvidence ≠ [] →
    (recordIdsOf .global given.sourceEvidence).toFinset = given.sourceGlobalRecordIds.toFinset ∧
      (phase8IdsOf given.sourceEvidence).toFinset = given.sourcePhase8RecordIds.toFinset

instance (given : CandidateFields) : Decidable given.EvidenceLinked :=
  inferInstanceAs (Decidable (_ → _))

variable (digest) in
/-- What the contract asks of a candidate. -/
structure CandidateFields.Valid (given : CandidateFields) : Prop where
  /-- The content passes its checks. -/
  content : given.toCandidateContent.Valid
  /-- The identity is that of the content. -/
  addressed : given.candidateId = given.toCandidateContent.address digest
  /-- No record has two pieces of evidence. -/
  distinct : (given.sourceEvidence.map (·.identity)).Nodup
  /-- The evidence is bounded. -/
  few : given.sourceEvidence.length ≤ maxSourceRecordsPerPrediction
  /-- The evidence names what is cited. -/
  linked : given.EvidenceLinked
  /-- The records cited are bounded. -/
  bounded : given.sourceGlobalRecordIds.length + given.sourcePhase8RecordIds.length ≤
    maxSourceRecordsPerPrediction

/-- The check of a field of source ids. -/
def validateSourceIds (contract field : String) (values : List String) : Except Fault Unit := do
  rule contract field (∀ value ∈ values, Text.Nonblank value) s!"{field} must be nonblank"
  rule contract field values.Nodup s!"{field} must not contain duplicates"
  rule contract field (values = sortOn id values) s!"{field} must use canonical order"

@[simp] theorem validateSourceIds_eq_ok {contract field : String} {values : List String}
    {done : Unit} : validateSourceIds contract field values = .ok done ↔ CanonicalTexts values := by
  simp only [validateSourceIds, bind_eq_ok, rule_eq_ok, exists_and_left, exists_const,
    canonicalTexts_iff]

variable (digest) in
/-- The check of a candidate. -/
def CandidateFields.check (given : CandidateFields) : Except Fault Unit := do
  let contract := "ContextPredictionCandidate"
  rule contract "namespace_id" (Text.Nonblank given.namespaceId) "text must be nonblank"
  rule contract "context_key" (Text.Nonblank given.contextKey) "text must be nonblank"
  rule contract "candidate_id" (Text.Nonblank given.candidateId) "text must be nonblank"
  rule contract "source_evidence" (given.sourceEvidence.map (·.identity)).Nodup
    "duplicate source evidence"
  rule contract "source_evidence" (given.sourceEvidence.length ≤ maxSourceRecordsPerPrediction)
    "too many source evidence records"
  validateSourceIds contract "source_global_record_ids" given.sourceGlobalRecordIds
  validateSourceIds contract "source_phase8_record_ids" given.sourcePhase8RecordIds
  validateSourceIds contract "source_artifact_ids" given.sourceArtifactIds
  fieldGe contract "creation_sequence" 1 given.creationSequence
  rule contract "" given.EvidenceLinked "source evidence does not match source identities"
  rule contract "" (given.sourceGlobalRecordIds.length + given.sourcePhase8RecordIds.length ≤
    maxSourceRecordsPerPrediction) "too many candidate source records"
  let expectedId ← makeContextPredictionCandidateId digest given.toCandidateContent
  rule contract "" (given.candidateId = expectedId) "candidate identity mismatch"

theorem CandidateFields.check_eq_ok {given : CandidateFields} {done : Unit} :
    given.check digest = .ok done ↔ given.Valid digest := by
  simp only [check, bind_eq_ok, rule_eq_ok, fieldGe_eq_ok, validateSourceIds_eq_ok,
    makeContextPredictionCandidateId_eq_ok_iff, exists_and_left, exists_const]
  constructor
  · rintro ⟨_, _, _, distinct, few, _, _, _, _, linked, bounded, _, ⟨content, rfl⟩, addressed⟩
    exact ⟨content, addressed, distinct, few, linked, bounded⟩
  · intro valid
    have content := valid.content
    have visible : Text.Nonblank given.candidateId := valid.addressed ▸ digest.nonblank _
    exact ⟨content.namespaceId, content.contextKey, visible, valid.distinct, valid.few,
      content.globalIds, content.phase8Ids, content.artifactIds,
      by exact_mod_cast content.creationSequence, valid.linked, valid.bounded, _, ⟨content, rfl⟩,
      valid.addressed⟩

variable (digest) in
/-- The context of one key that may be predicted, with the records that it rests on. -/
structure ContextPredictionCandidate extends CandidateFields where
  /-- The contract holds. -/
  valid : toCandidateFields.Valid digest
  /-- Evidence stands in the order of kinds and ids. -/
  evidence_sorted : sourceEvidence.Pairwise fun left right => left.key ≤ right.key

namespace ContextPredictionCandidate

/-- The candidate that valid fields make: its evidence is put in order. -/
def make (given : CandidateFields) (valid : given.Valid digest) :
    ContextPredictionCandidate digest where
  toCandidateContent := given.toCandidateContent
  candidateId := given.candidateId
  sourceEvidence := sortOn ContextPredictionSourceEvidence.key given.sourceEvidence
  valid := {
    content := valid.content
    addressed := valid.addressed
    distinct := ((sortOn_perm _ given.sourceEvidence).map _).nodup_iff.mpr valid.distinct
    few := by simpa using valid.few
    linked := by
      intro cited
      have perm := sortOn_perm ContextPredictionSourceEvidence.key given.sourceEvidence
      have carried : given.sourceEvidence ≠ [] := fun empty => cited (by simp [empty, sortOn])
      obtain ⟨globals, sessions⟩ := valid.linked carried
      have sameOf (kind : SourceKind) := (perm.filter
        fun evidence : ContextPredictionSourceEvidence => evidence.sourceKind = kind).map
          fun evidence => evidence.recordId
      exact ⟨globals ▸ List.toFinset_eq_of_perm _ _ (sameOf _), sessions ▸
        List.toFinset_eq_of_perm _ _ ((sameOf _).append (perm.flatMap_right _))⟩
    bounded := valid.bounded }
  evidence_sorted := sortOn_pairwise _ _

/-- Construct a candidate. -/
def construct (given : CandidateFields) : Except Fault (ContextPredictionCandidate digest) :=
  checked (CandidateFields.check digest) CandidateFields.check_eq_ok make given

theorem construct_eq_ok_iff {given : CandidateFields}
    {candidate : ContextPredictionCandidate digest} :
    construct given = .ok candidate ↔ ∃ valid, make given valid = candidate :=
  checked_eq_ok_iff

end ContextPredictionCandidate

end ContextPrediction
end MercuryX
