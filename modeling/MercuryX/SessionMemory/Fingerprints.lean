import MercuryX.SessionMemory.Compaction

/-!
# Fingerprints of session memory

The id of a record and the fingerprint of a store are digests of canonical payloads. A payload
covers what a record is about and where it stands, but neither its id nor its retention, lineage,
retrieval key or provenance, so a change of these alone changes no digest.
-/

namespace MercuryX
namespace SessionMemory

open Foundation

/-! ## Payloads -/

/-- The text of a lifecycle state. -/
def SessionMemoryLifecycle.value : SessionMemoryLifecycle → String
  | active => "ACTIVE"
  | compacted => "COMPACTED"
  | expired => "EXPIRED"
  | tombstoned => "TOMBSTONED"

theorem SessionMemoryLifecycle.value_injective :
    Function.Injective SessionMemoryLifecycle.value := by
  intro left right same
  revert same
  cases left <;> cases right <;> decide

theorem SessionMemoryType.value_injective : Function.Injective SessionMemoryType.value := by
  intro left right same
  revert same
  cases left <;> cases right <;> decide

/-- The fields of a record that its digests cover. -/
def payloadMembers (record : SessionMemoryRecord) : List (String × Json) := [
  ("schema_version", .str record.schemaVersion),
  ("session_id", .str record.sessionId),
  ("task_id", .str record.taskId),
  ("turn_id", .str record.turnId),
  ("record_version", .int record.recordVersion),
  ("source_phase", .str record.sourcePhase),
  ("source_artifact_id", .str record.sourceArtifactId),
  ("memory_type", .str record.memoryType.value),
  ("scope", .str record.scope.value),
  ("creation_sequence", .int record.creationSequence),
  ("lifecycle", .str record.lifecycle.value)]

/-- The payload of a record. -/
def canonicalSessionMemoryPayload (record : SessionMemoryRecord) : Json :=
  .obj (payloadMembers record)

/-- The entry of a closure. -/
def closurePayload (closure : SessionClosure) : Json :=
  .arr [.str closure.sessionId, .int closure.closureSequence, .str closure.policyId]

/-- The fields of a store that its fingerprint covers. -/
def SessionMemoryStore.payloadMembers (store : SessionMemoryStore) : List (String × Json) := [
  ("records", .arr (store.records.map canonicalSessionMemoryPayload)),
  ("closed_sessions", .arr (store.closedSessions.map closurePayload))]

section Digests

variable (digest : Digest)

/-- The id of a record. -/
def sessionMemoryRecordId (record : SessionMemoryRecord) : String :=
  "sha256:" ++ digest.hexdigest (canonicalSessionMemoryPayload record)

/-- The fingerprint of a store. -/
def SessionMemoryStore.fingerprint (store : SessionMemoryStore) : String :=
  "sha256:" ++ digest.hexdigest (.obj store.payloadMembers)

end Digests

/-! ## What the digests cover -/

/-- The records agree on the fields that a payload covers. -/
structure SamePayload (left right : SessionMemoryRecord) : Prop where
  /-- The schema is the same. -/
  schemaVersion : left.schemaVersion = right.schemaVersion
  /-- The session is the same. -/
  sessionId : left.sessionId = right.sessionId
  /-- The task is the same. -/
  taskId : left.taskId = right.taskId
  /-- The turn is the same. -/
  turnId : left.turnId = right.turnId
  /-- The version is the same. -/
  recordVersion : left.recordVersion = right.recordVersion
  /-- The source phase is the same. -/
  sourcePhase : left.sourcePhase = right.sourcePhase
  /-- The source artifact is the same. -/
  sourceArtifactId : left.sourceArtifactId = right.sourceArtifactId
  /-- The memory type is the same. -/
  memoryType : left.memoryType = right.memoryType
  /-- The scope is the same. -/
  scope : left.scope = right.scope
  /-- The sequence number is the same. -/
  creationSequence : left.creationSequence = right.creationSequence
  /-- The lifecycle state is the same. -/
  lifecycle : left.lifecycle = right.lifecycle

/-- The records agree on the fields, other than the id, that no payload covers. -/
structure SameEvidence (left right : SessionMemoryRecord) : Prop where
  /-- The retention is the same. -/
  retentionSequence : left.retentionSequence = right.retentionSequence
  /-- The lineage is the same. -/
  sourceLineageId : left.sourceLineageId = right.sourceLineageId
  /-- The retrieval key is the same. -/
  retrievalKey : left.retrievalKey = right.retrievalKey
  /-- The provenance is the same. -/
  provenance : left.provenance = right.provenance

/-- The records agree on every field other than the id. -/
def SameContent (left right : SessionMemoryRecord) : Prop :=
  SamePayload left right ∧ SameEvidence left right

section Covered

variable {digest : Digest} {left right : SessionMemoryRecord}

theorem eq_iff_sameContent : left = right ↔ left.recordId = right.recordId ∧
    SameContent left right := by
  constructor
  · rintro rfl
    exact ⟨rfl, by constructor <;> rfl, by constructor <;> rfl⟩
  · obtain ⟨_, _, _, _, _, _, _, _, _, _, _, _, _, _, _, _, _, _, _, _, _⟩ := left
    obtain ⟨_, _, _, _, _, _, _, _, _, _, _, _, _, _, _, _, _, _, _, _, _⟩ := right
    rintro ⟨rfl, ⟨rfl, rfl, rfl, rfl, rfl, rfl, rfl, rfl, rfl, rfl, rfl⟩, rfl, rfl, rfl, rfl⟩
    rfl

theorem exactMembers_payload (record : SessionMemoryRecord) :
    Json.ExactMembers (payloadMembers record) := by
  simp [payloadMembers, Json.ExactMembers, Json.Exact]

theorem names_nodup (record : SessionMemoryRecord) :
    ((payloadMembers record).map Prod.fst).Nodup := by
  simp [payloadMembers]

theorem normalMembers_payload_eq_iff :
    Json.normalMembers (payloadMembers left) = Json.normalMembers (payloadMembers right) ↔
      SamePayload left right := by
  simp only [payloadMembers, Json.normalMembers, Json.normal, List.cons.injEq, Prod.mk.injEq,
    Json.str.injEq, Json.int.injEq, Nat.cast_inj, SessionMemoryType.value_injective.eq_iff,
    SessionMemoryScope.value_injective.eq_iff, SessionMemoryLifecycle.value_injective.eq_iff,
    true_and, and_true]
  constructor
  · rintro ⟨schema, session, task, turn, version, phase, artifact, type, scope, sequence, lifecycle⟩
    exact ⟨schema, session, task, turn, version, phase, artifact, type, scope, sequence, lifecycle⟩
  · intro same
    exact ⟨same.schemaVersion, same.sessionId, same.taskId, same.turnId, same.recordVersion,
      same.sourcePhase, same.sourceArtifactId, same.memoryType, same.scope, same.creationSequence,
      same.lifecycle⟩

theorem SamePayload.payload_eq (same : SamePayload left right) :
    canonicalSessionMemoryPayload left = canonicalSessionMemoryPayload right := by
  simp only [canonicalSessionMemoryPayload, payloadMembers, same.schemaVersion, same.sessionId,
    same.taskId, same.turnId, same.recordVersion, same.sourcePhase, same.sourceArtifactId,
    same.memoryType, same.scope, same.creationSequence, same.lifecycle]

theorem normal_payload_eq_iff : (canonicalSessionMemoryPayload left).normal =
    (canonicalSessionMemoryPayload right).normal ↔ SamePayload left right := by
  constructor
  · intro same
    exact normalMembers_payload_eq_iff.mp (Json.normalMembers_eq rfl (names_nodup left) same)
  · intro same
    rw [same.payload_eq]

/-- Records share an id exactly when they agree on the fields that a payload covers. -/
theorem sessionMemoryRecordId_eq_iff (free : digest.CollisionFree) :
    sessionMemoryRecordId digest left = sessionMemoryRecordId digest right ↔
      SamePayload left right := by
  rw [sessionMemoryRecordId, sessionMemoryRecordId, String.append_right_inj]
  constructor
  · intro same
    exact normalMembers_payload_eq_iff.mp ((free _ _).normalMembers_eq same
      (exactMembers_payload left) (exactMembers_payload right) rfl (names_nodup left))
  · intro same
    rw [same.payload_eq]

end Covered

section Stores

variable {digest : Digest} {left right : SessionMemoryStore}

theorem exactMembers_store (store : SessionMemoryStore) :
    Json.ExactMembers store.payloadMembers := by
  simp only [SessionMemoryStore.payloadMembers, Json.ExactMembers, Json.Exact, Json.exactItems_iff,
    List.forall_mem_map, and_true]
  refine ⟨fun record _ => exactMembers_payload record, fun closure _ => ?_⟩
  simp [closurePayload, Json.Exact, Json.ExactItems]

theorem closurePayload_injective :
    Function.Injective fun closure => (closurePayload closure).normal := by
  rintro ⟨_, _, _⟩ ⟨_, _, _⟩ same
  simp only [closurePayload, Json.normal, Json.normalItems, Json.arr.injEq, List.cons.injEq,
    Json.str.injEq, Json.int.injEq, and_true] at same
  obtain ⟨rfl, rfl, rfl⟩ := same
  rfl

/-- Records that stand in the same places agree on the fields that a payload covers. -/
def SamePayloads (left right : SessionMemoryStore) : Prop :=
  List.Forall₂ SamePayload left.records right.records

theorem normalItems_records_eq_iff :
    Json.normalItems (left.records.map canonicalSessionMemoryPayload) =
      Json.normalItems (right.records.map canonicalSessionMemoryPayload) ↔
      SamePayloads left right := by
  rw [Json.normalItems_eq_map, Json.normalItems_eq_map, List.map_map, List.map_map,
    ← List.forall₂_eq_eq_eq, List.forall₂_map_left_iff, List.forall₂_map_right_iff]
  simp only [Function.comp_apply, normal_payload_eq_iff]
  rfl

/-- Stores share a fingerprint exactly when they have the same closures and agree on the fields that
payloads cover. -/
theorem fingerprint_eq_iff (free : digest.CollisionFree) :
    left.fingerprint digest = right.fingerprint digest ↔
      SamePayloads left right ∧ left.closedSessions = right.closedSessions := by
  rw [SessionMemoryStore.fingerprint, SessionMemoryStore.fingerprint, String.append_right_inj]
  constructor
  · intro same
    have members := (free _ _).normalMembers_eq same (exactMembers_store left)
      (exactMembers_store right) rfl (by simp [SessionMemoryStore.payloadMembers])
    simp only [SessionMemoryStore.payloadMembers, Json.normalMembers, Json.normal, List.cons.injEq,
      Prod.mk.injEq, Json.arr.injEq, true_and, and_true] at members
    obtain ⟨records, closures⟩ := members
    rw [Json.normalItems_eq_map, Json.normalItems_eq_map, List.map_map, List.map_map] at closures
    exact ⟨normalItems_records_eq_iff.mp records,
      List.map_injective_iff.mpr closurePayload_injective closures⟩
  · rintro ⟨records, closures⟩
    have payloads : left.records.map canonicalSessionMemoryPayload =
        right.records.map canonicalSessionMemoryPayload := by
      rw [← List.forall₂_eq_eq_eq, List.forall₂_map_left_iff, List.forall₂_map_right_iff]
      exact records.imp fun _ _ same => same.payload_eq
    rw [SessionMemoryStore.payloadMembers, SessionMemoryStore.payloadMembers, payloads, closures]

end Stores

/-! ## Where the digests tell changes apart -/

/-- Records that stand in the same places agree on the id and the fields that no payload covers. -/
def SameRemainders (left right : SessionMemoryStore) : Prop :=
  List.Forall₂ (fun first second => first.recordId = second.recordId ∧ SameEvidence first second)
    left.records right.records

/-- Stores are equal exactly when their closures are and their records agree in every place. -/
theorem store_eq_iff {left right : SessionMemoryStore} : left = right ↔
    SamePayloads left right ∧ left.closedSessions = right.closedSessions ∧
      SameRemainders left right := by
  constructor
  · rintro rfl
    have own (record : SessionMemoryRecord) := eq_iff_sameContent.mp (Eq.refl record)
    exact ⟨List.forall₂_same.mpr fun record _ => (own record).2.1, rfl,
      List.forall₂_same.mpr fun record _ => ⟨rfl, (own record).2.2⟩⟩
  · obtain ⟨leftRecords, leftClosed⟩ := left
    obtain ⟨rightRecords, rightClosed⟩ := right
    rintro ⟨payloads, closures, remainders⟩
    refine (SessionMemoryStore.mk.injEq ..).mpr ⟨?_, closures⟩
    change List.Forall₂ SamePayload leftRecords rightRecords at payloads
    change List.Forall₂ _ leftRecords rightRecords at remainders
    clear closures
    induction payloads with
    | nil => rfl
    | cons payload _ induction =>
        obtain ⟨⟨id, evidence⟩, rest⟩ := List.forall₂_cons.mp remainders
        rw [eq_iff_sameContent.mpr ⟨id, payload, evidence⟩, induction rest]

/-- Equal fingerprints mean equal stores, and different content means different ids, exactly where
records that agree on what the payloads cover agree on the rest. -/
theorem digests_separate_iff {digest : Digest} (free : digest.CollisionFree)
    (left right : SessionMemoryStore) (first second : SessionMemoryRecord) :
    ((left.fingerprint digest = right.fingerprint digest → left = right) ↔
        (SamePayloads left right → left.closedSessions = right.closedSessions →
          SameRemainders left right)) ∧
      ((¬ SameContent first second →
          sessionMemoryRecordId digest first ≠ sessionMemoryRecordId digest second) ↔
        (SamePayload first second → SameEvidence first second)) := by
  rw [fingerprint_eq_iff free, store_eq_iff, ne_eq, sessionMemoryRecordId_eq_iff free]
  constructor
  · constructor
    · exact fun law payloads closures => (law ⟨payloads, closures⟩).2.2
    · exact fun law same => ⟨same.1, same.2, law same.1 same.2⟩
  · constructor
    · intro law payload
      by_contra evidence
      exact law (fun content => evidence content.2) payload
    · exact fun law different payload => different ⟨payload, law payload⟩

/-! ## Two observations of one turn -/

/-- An observation of a turn, with its evidence. -/
def turnObservation (evidence : String) (given : Text.Nonblank evidence) : SessionMemoryRecord where
  sessionId := "session"
  taskId := "task"
  turnId := "turn"
  recordId := "observation"
  recordVersion := 1
  sourcePhase := "phase7"
  sourceArtifactId := "artifact"
  memoryType := .observation
  scope := .turn
  creationSequence := 1
  lifecycle := .active
  provenance := [evidence]
  texts_nonblank := by decide
  recordVersion_pos := Nat.one_pos
  creationSequence_pos := Nat.one_pos
  provenance_given := ⟨List.cons_ne_nil evidence [], List.forall_mem_singleton.mpr given⟩
  provenance_canonical := rfl

/-- The store that holds the observation. -/
def observationStore (evidence : String) (given : Text.Nonblank evidence) : SessionMemoryStore :=
  ⟨[turnObservation evidence given], []⟩

theorem sensor_nonblank : Text.Nonblank "sensor" := Text.nonblank_literal rfl

theorem operator_nonblank : Text.Nonblank "operator" := Text.nonblank_literal rfl

theorem draftTexts_nonblank :
    ∀ text ∈ ["session", "task", "turn", "observation", "phase7", "draft"],
      Text.Nonblank text := by
  decide

/-- The observation of another artifact. -/
def draftObservation : SessionMemoryRecord :=
  { turnObservation "sensor" sensor_nonblank with
    sourceArtifactId := "draft"
    texts_nonblank := draftTexts_nonblank }

/-- Observations of two artifacts have different ids, and so have the stores that hold them. -/
theorem digests_separate_observation :
    (observationStore "sensor" sensor_nonblank).fingerprint .verbatim ≠
        (SessionMemoryStore.mk [draftObservation] []).fingerprint .verbatim ∧
      sessionMemoryRecordId .verbatim (turnObservation "sensor" sensor_nonblank) ≠
        sessionMemoryRecordId .verbatim draftObservation := by
  obtain ⟨stores, records⟩ := digests_separate_iff Digest.verbatim_collisionFree
    (observationStore "sensor" sensor_nonblank) ⟨[draftObservation], []⟩
    (turnObservation "sensor" sensor_nonblank) draftObservation
  have different :
      ¬ SamePayload (turnObservation "sensor" sensor_nonblank) draftObservation := by
    intro payload
    exact absurd payload.sourceArtifactId (by decide)
  constructor
  · intro same
    have equal := stores.mpr (fun payloads _ =>
      absurd (List.forall₂_cons.mp payloads).1 different) same
    exact different (List.forall₂_cons.mp (store_eq_iff.mp equal).1).1
  · exact records.mpr (fun payload => absurd payload different) fun content => different content.1

/-- A change of the provenance alone changes neither the fingerprint nor the id. -/
theorem provenance_not_covered :
    (¬ ∀ left right : SessionMemoryStore,
        left.fingerprint .sha256 = right.fingerprint .sha256 → left = right) ∧
      ¬ ∀ first second : SessionMemoryRecord, ¬ SameContent first second →
        sessionMemoryRecordId .sha256 first ≠ sessionMemoryRecordId .sha256 second := by
  have different : ¬ SameEvidence (turnObservation "sensor" sensor_nonblank)
      (turnObservation "operator" operator_nonblank) := by
    intro evidence
    exact absurd evidence.provenance (by decide)
  constructor
  · intro law
    have same := law (observationStore "sensor" sensor_nonblank)
      (observationStore "operator" operator_nonblank) rfl
    obtain ⟨⟨_, evidence⟩, _⟩ := List.forall₂_cons.mp (store_eq_iff.mp same).2.2
    exact different evidence
  · intro law
    exact law _ _ (fun content => different content.2) rfl

end SessionMemory
end MercuryX
