import MercuryX.GlobalMemory.Contracts

/-!
# Versions of global records

A change of a global record is a further record: the next version names the record it supersedes,
says why it was made, and keeps all the lineage of its predecessor. Nothing is written into the
predecessor.
-/

namespace MercuryX
namespace GlobalMemory

open Foundation

/-- The next version of a record under a new id, with the reason for the change. -/
def GlobalContextRecord.superseded (prior : GlobalContextRecord) (globalRecordId : String)
    (visible : Text.Nonblank globalRecordId) (changeReason : String) : GlobalContextRecord :=
  { prior with
    globalRecordId := globalRecordId
    recordVersion := prior.recordVersion + 1
    creationSequence := prior.creationSequence + 1
    supersedesRecordId := some prior.globalRecordId
    changeReason := some changeReason
    texts_nonblank := by
      have texts := prior.texts_nonblank
      simp only [List.mem_cons, List.not_mem_nil, or_false, forall_eq_or_imp, forall_eq] at texts ⊢
      exact ⟨texts.1, visible, texts.2.2⟩
    recordVersion_pos := Nat.succ_pos _
    creationSequence_pos := Nat.succ_pos _ }

theorem digestId_nonblank (digest : Digest) (payload : Json) :
    Text.Nonblank ("sha256:" ++ digest.hexdigest payload) :=
  Text.nonblank_append_left (by decide) _

/-- The arguments of a version: what changes, and what the caller believes of the prior record. -/
structure RecordChange where
  changeReason : String
  supersedesRecordId : Option String := none
  namespaceType : Option GlobalMemoryNamespace := none
  namespaceId : Option String := none
  contextKey : Option String := none
  provenance : Option (List String) := none
  sourcePhase8RecordIds : Option (List String) := none
  sourceArtifactIds : Option (List String) := none
  promotionPolicyId : Option String := none
  retentionPolicyId : Option String := none

/-- A text that has to be nonblank. -/
def nonblank (value name : String) : Except Fault {text : String // Text.Nonblank text} :=
  if visible : Text.Nonblank value then .ok ⟨value, visible⟩
  else .error (.value s!"nonblank {name} required")

/-- A collection of nonblank texts, each once and in order. -/
def nonblankTuple (values : List String) (name : String) : Except Fault (List String) := do
  require (values ≠ [] ∧ ∀ value ∈ values, Text.Nonblank value)
    (.value s!"nonblank {name} required")
  return canonical id values

/-- The lineage of a version: what is given, or else what the prior record has, and in any case all
of the latter. -/
def extendedLineage (prior : List String) (given : Option (List String)) (name : String) :
    Except Fault (List String) := do
  let items ← given.elim (.ok prior) fun values => nonblankTuple values name
  require (prior ⊆ items) (.value s!"prior {name} must remain traceable")
  return items

/-- A policy of a version: what is given, or else that of the prior record. -/
def versionPolicy (prior : {text : String // Text.Nonblank text}) (given : Option String)
    (name : String) : Except Fault {text : String // Text.Nonblank text} :=
  given.elim (.ok prior) fun value => nonblank value name

variable (digest : Digest)

/-- The id of a derived record: the digest of its kind and its payload. -/
def stableId (kind : String) (payload : List (String × Json)) : String :=
  "sha256:" ++ digest.hexdigest (.obj (("kind", .str kind) :: payload))

/-- Create the exact next version of a record. -/
def createGlobalRecordVersion (prior : GlobalContextRecord) (change : RecordChange) :
    Except Fault GlobalContextRecord := do
  let _ ← nonblank change.changeReason "change reason"
  require (change.supersedesRecordId.all fun recordId => recordId = prior.globalRecordId)
    (.value "supersedes record id must match prior record")
  require (change.namespaceType.all fun namespaceType => namespaceType = prior.namespaceType)
    (.value "namespace supersession mismatch")
  require (change.namespaceId.all fun namespaceId => namespaceId = prior.namespaceId)
    (.value "namespace supersession mismatch")
  require (change.contextKey.all fun contextKey => contextKey = prior.contextKey)
    (.value "context key lineage mismatch")
  let newProvenance ← extendedLineage prior.provenance change.provenance "provenance"
  let newPhase8Ids ← extendedLineage prior.sourcePhase8RecordIds change.sourcePhase8RecordIds
    "source lineage"
  let newArtifactIds ← extendedLineage prior.sourceArtifactIds change.sourceArtifactIds
    "source artifacts"
  let promotionPolicyId ← versionPolicy
    ⟨prior.promotionPolicyId, prior.texts_nonblank _ (by simp)⟩ change.promotionPolicyId
    "promotion policy id"
  let retentionPolicyId ← versionPolicy
    ⟨prior.retentionPolicyId, prior.texts_nonblank _ (by simp)⟩ change.retentionPolicyId
    "retention policy id"
  let globalRecordId := stableId digest "global-record-version" [
    ("prior_record_id", .str prior.globalRecordId),
    ("record_version", .int (prior.recordVersion + 1)),
    ("change_reason", .str change.changeReason),
    ("provenance", .strs newProvenance),
    ("source_phase8_record_ids", .strs newPhase8Ids),
    ("source_artifact_ids", .strs newArtifactIds)]
  let next := prior.superseded globalRecordId (digestId_nonblank digest _) change.changeReason
  return { next with
    provenance := newProvenance
    sourcePhase8RecordIds := newPhase8Ids
    sourceArtifactIds := newArtifactIds
    promotionPolicyId := promotionPolicyId
    retentionPolicyId := retentionPolicyId
    texts_nonblank := by
      have texts := next.texts_nonblank
      simp only [List.mem_cons, List.not_mem_nil, or_false, forall_eq_or_imp, forall_eq] at texts ⊢
      exact ⟨texts.1, texts.2.1, texts.2.2.1, texts.2.2.2.1, texts.2.2.2.2.1,
        promotionPolicyId.property, retentionPolicyId.property⟩ }

variable {digest}

/-- What a version shares with its predecessor, and how it points to it. -/
structure NextVersion (prior next : GlobalContextRecord) : Prop where
  /-- The version is of the same namespace, memory type and context. -/
  lineage : next.space = prior.space ∧ next.memoryType = prior.memoryType ∧
    next.contextKey = prior.contextKey
  /-- It comes next. -/
  numbered : next.recordVersion = prior.recordVersion + 1 ∧
    next.creationSequence = prior.creationSequence + 1
  /-- It names the record it supersedes. -/
  linked : next.supersedesRecordId = some prior.globalRecordId
  /-- No provenance or source is lost. -/
  traceable : prior.provenance ⊆ next.provenance ∧
    prior.sourcePhase8RecordIds ⊆ next.sourcePhase8RecordIds ∧
    prior.sourceArtifactIds ⊆ next.sourceArtifactIds

theorem subset_of_extendedLineage {prior items : List String} {given : Option (List String)}
    {name : String} (outcome : extendedLineage prior given name = .ok items) : prior ⊆ items := by
  simp only [extendedLineage, bind_eq_ok, require_eq_ok, pure_eq_ok, Except.ok.injEq,
    exists_and_left, exists_const] at outcome
  obtain ⟨_, _, kept, rfl⟩ := outcome
  exact kept

theorem nextVersion_of_createGlobalRecordVersion {prior next : GlobalContextRecord}
    {change : RecordChange} (outcome : createGlobalRecordVersion digest prior change = .ok next) :
    NextVersion prior next ∧ next.lifecycle = prior.lifecycle := by
  simp only [createGlobalRecordVersion, bind_eq_ok, require_eq_ok, pure_eq_ok, Except.ok.injEq,
    exists_and_left, exists_const] at outcome
  obtain ⟨_, _, _, _, _, _, provenance, keptProvenance, sources, keptSources, artifacts,
    keptArtifacts, _, _, _, _, rfl⟩ := outcome
  refine ⟨⟨⟨rfl, rfl, rfl⟩, ⟨rfl, rfl⟩, rfl, ?_, ?_, ?_⟩, rfl⟩
  · exact subset_of_extendedLineage keptProvenance
  · exact subset_of_extendedLineage keptSources
  · exact subset_of_extendedLineage keptArtifacts

end GlobalMemory
end MercuryX
