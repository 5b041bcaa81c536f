import MercuryX.Foundation.Reading
import MercuryX.GlobalMemory.Consolidation
import MercuryX.GlobalMemory.Store

/-!
# Identities of versions

The id of a version is a digest of the record it supersedes, its number, the reason for the change
and its lineage. The policies of the version are not covered, so two successors that differ in
nothing else share an id, and only one of them can be registered.
-/

namespace MercuryX
namespace GlobalMemory

open Foundation

/-! ## What a version holds -/

/-- The lineage of a version, once it is accepted. -/
def lineageOf (prior : List String) (given : Option (List String)) : List String :=
  given.elim prior (canonical id)

theorem eq_lineageOf {prior items : List String} {given : Option (List String)} {name : String}
    (outcome : extendedLineage prior given name = .ok items) : items = lineageOf prior given := by
  simp only [extendedLineage, bind_eq_ok, require_eq_ok, pure_eq_ok, Except.ok.injEq,
    exists_and_left, exists_const] at outcome
  obtain ⟨_, chosen, _, rfl⟩ := outcome
  cases given with
  | none => exact (Except.ok.inj chosen).symm
  | some values =>
      simp only [Option.elim_some, nonblankTuple, bind_eq_ok, require_eq_ok, pure_eq_ok,
        Except.ok.injEq, exists_and_left, exists_const] at chosen
      exact chosen.2.symm

theorem val_versionPolicy {prior policy : {text : String // Text.Nonblank text}}
    {given : Option String} {name : String}
    (outcome : versionPolicy prior given name = .ok policy) :
    policy.val = given.getD prior.val := by
  cases given with
  | none =>
      obtain rfl := Except.ok.inj outcome
      rfl
  | some value =>
      simp only [versionPolicy, Option.elim_some, nonblank] at outcome
      split at outcome
      · obtain rfl := Except.ok.inj outcome
        rfl
      · contradiction

variable (digest : Digest)

/-- The id of a version of a record with a lineage. -/
def versionId (prior : GlobalContextRecord) (changeReason : String)
    (provenance sourcePhase8RecordIds sourceArtifactIds : List String) : String :=
  stableId digest "global-record-version" [
    ("prior_record_id", .str prior.globalRecordId),
    ("record_version", .int (prior.recordVersion + 1)),
    ("change_reason", .str changeReason),
    ("provenance", .strs provenance),
    ("source_phase8_record_ids", .strs sourcePhase8RecordIds),
    ("source_artifact_ids", .strs sourceArtifactIds)]

/-- The version that a change makes of a record, with policies that are nonblank. -/
def GlobalContextRecord.version (prior : GlobalContextRecord) (change : RecordChange)
    (promotionPolicyId retentionPolicyId : {text : String // Text.Nonblank text}) :
    GlobalContextRecord :=
  let provenance := lineageOf prior.provenance change.provenance
  let sourcePhase8RecordIds := lineageOf prior.sourcePhase8RecordIds change.sourcePhase8RecordIds
  let sourceArtifactIds := lineageOf prior.sourceArtifactIds change.sourceArtifactIds
  let next := prior.superseded (versionId digest prior change.changeReason provenance
    sourcePhase8RecordIds sourceArtifactIds) (digestId_nonblank digest _) change.changeReason
  { next with
    provenance := provenance
    sourcePhase8RecordIds := sourcePhase8RecordIds
    sourceArtifactIds := sourceArtifactIds
    promotionPolicyId := promotionPolicyId
    retentionPolicyId := retentionPolicyId
    texts_nonblank := by
      have texts := next.texts_nonblank
      simp only [List.mem_cons, List.not_mem_nil, or_false, forall_eq_or_imp, forall_eq] at texts ⊢
      exact ⟨texts.1, texts.2.1, texts.2.2.1, texts.2.2.2.1, texts.2.2.2.2.1,
        promotionPolicyId.property, retentionPolicyId.property⟩ }

variable {digest}

/-- A version that is created is the one that the change makes, with the policies that are given or
those of the prior record. -/
theorem exists_version {prior next : GlobalContextRecord} {change : RecordChange}
    (outcome : createGlobalRecordVersion digest prior change = .ok next) :
    ∃ promotion retention : {text : String // Text.Nonblank text},
      promotion.val = change.promotionPolicyId.getD prior.promotionPolicyId ∧
        retention.val = change.retentionPolicyId.getD prior.retentionPolicyId ∧
        next = prior.version digest change promotion retention := by
  simp only [createGlobalRecordVersion, bind_eq_ok, require_eq_ok, pure_eq_ok, Except.ok.injEq,
    exists_and_left, exists_const] at outcome
  obtain ⟨_, _, _, _, _, _, provenance, keptProvenance, sources, keptSources, artifacts,
    keptArtifacts, promotion, keptPromotion, retention, keptRetention, rfl⟩ := outcome
  obtain rfl := eq_lineageOf keptProvenance
  obtain rfl := eq_lineageOf keptSources
  obtain rfl := eq_lineageOf keptArtifacts
  exact ⟨promotion, retention, val_versionPolicy keptPromotion, val_versionPolicy keptRetention,
    rfl⟩

/-! ## Two successors -/

/-- The records have the same content, whatever their ids. -/
def SameContent (left right : GlobalContextRecord) : Prop :=
  { left with
    globalRecordId := right.globalRecordId
    texts_nonblank := by
      have texts := left.texts_nonblank
      simp only [List.mem_cons, List.not_mem_nil, or_false, forall_eq_or_imp, forall_eq] at texts ⊢
      exact ⟨texts.1, right.texts_nonblank _ (by simp), texts.2.2⟩ } = right

/-- The changes give the same reason and the same lineage. -/
structure SameEvidence (prior : GlobalContextRecord) (first second : RecordChange) : Prop where
  /-- The reasons are the same. -/
  reason : first.changeReason = second.changeReason
  /-- The provenance is the same. -/
  provenance : lineageOf prior.provenance first.provenance =
    lineageOf prior.provenance second.provenance
  /-- The session records are the same. -/
  sources : lineageOf prior.sourcePhase8RecordIds first.sourcePhase8RecordIds =
    lineageOf prior.sourcePhase8RecordIds second.sourcePhase8RecordIds
  /-- The artifacts are the same. -/
  artifacts : lineageOf prior.sourceArtifactIds first.sourceArtifactIds =
    lineageOf prior.sourceArtifactIds second.sourceArtifactIds

/-- The changes give the same policies. -/
def SamePolicies (prior : GlobalContextRecord) (first second : RecordChange) : Prop :=
  first.promotionPolicyId.getD prior.promotionPolicyId =
      second.promotionPolicyId.getD prior.promotionPolicyId ∧
    first.retentionPolicyId.getD prior.retentionPolicyId =
      second.retentionPolicyId.getD prior.retentionPolicyId

/-- Both records can be registered in one store. -/
def Coexist (left right : GlobalContextRecord) : Prop :=
  ∃ first second,
    registerGlobalContextRecord .empty ⟨left, left.namespaceType, left.namespaceId⟩ = .ok first ∧
      registerGlobalContextRecord first ⟨right, right.namespaceType, right.namespaceId⟩ =
        .ok second ∧
      left ∈ second.records ∧ right ∈ second.records

section Successors

variable {prior left right : GlobalContextRecord} {first second : RecordChange}

theorem sameContent_iff (madeLeft : createGlobalRecordVersion digest prior first = .ok left)
    (madeRight : createGlobalRecordVersion digest prior second = .ok right) :
    SameContent left right ↔ SameEvidence prior first second ∧ SamePolicies prior first second := by
  obtain ⟨leftPromotion, leftRetention, leftPromotionIs, leftRetentionIs, rfl⟩ :=
    exists_version madeLeft
  obtain ⟨rightPromotion, rightRetention, rightPromotionIs, rightRetentionIs, rfl⟩ :=
    exists_version madeRight
  rw [SamePolicies, ← leftPromotionIs, ← rightPromotionIs, ← leftRetentionIs, ← rightRetentionIs]
  simp only [SameContent, GlobalContextRecord.version, GlobalContextRecord.superseded,
    GlobalContextRecord.mk.injEq, true_and, Option.some_inj]
  constructor
  · rintro ⟨sources, artifacts, provenance, promotion, retention, reason⟩
    exact ⟨⟨reason, provenance, sources, artifacts⟩, promotion, retention⟩
  · rintro ⟨⟨reason, provenance, sources, artifacts⟩, promotion, retention⟩
    exact ⟨sources, artifacts, provenance, promotion, retention, reason⟩

/-- Two successors share an id exactly when they have the same reason and lineage. -/
theorem globalRecordId_eq_iff (free : digest.CollisionFree)
    (madeLeft : createGlobalRecordVersion digest prior first = .ok left)
    (madeRight : createGlobalRecordVersion digest prior second = .ok right) :
    left.globalRecordId = right.globalRecordId ↔ SameEvidence prior first second := by
  obtain ⟨_, _, _, _, rfl⟩ := exists_version madeLeft
  obtain ⟨_, _, _, _, rfl⟩ := exists_version madeRight
  simp only [GlobalContextRecord.version, GlobalContextRecord.superseded]
  constructor
  · intro same
    rw [versionId, versionId, stableId, stableId, String.append_right_inj] at same
    have members := (free _ _).normalMembers_eq same (by simp [Json.ExactMembers, Json.Exact])
      (by simp [Json.ExactMembers, Json.Exact]) rfl (by simp)
    simp only [Json.normalMembers, Json.normal_strs, Json.normal, List.cons.injEq, Prod.mk.injEq,
      Json.str.injEq, Json.strs_injective.eq_iff, true_and, and_true] at members
    obtain ⟨reason, provenance, sources, artifacts⟩ := members
    exact ⟨reason, provenance, sources, artifacts⟩
  · intro same
    rw [same.reason, same.provenance, same.sources, same.artifacts]

/-- A registration of a record in its own namespace. -/
abbrev own (record : GlobalContextRecord) : Registration :=
  ⟨record, record.namespaceType, record.namespaceId⟩

theorem certified_of_register {store next : GlobalContextStore} {registration : Registration}
    (certified : Certified store)
    (registered : registerGlobalContextRecord store registration = .ok next) : Certified next := by
  have applied : store.apply (.register registration) = .ok next := registered
  exact ((apply_eq_ok_iff certified).mp applied).certified certified

/-- Nothing forbids a registration in its own namespace where no namespace is closed. -/
theorem authorized_own (records : List GlobalContextRecord) (record : GlobalContextRecord) :
    Authorized ⟨records, []⟩ (own record) :=
  ⟨record.texts_nonblank _ (by simp), rfl, by simp [GlobalContextStore.closureOf]⟩

/-- Records can be registered in one store exactly when they have different ids or are one
record. -/
theorem coexist_iff :
    Coexist left right ↔ (left.globalRecordId = right.globalRecordId → left = right) := by
  constructor
  · rintro ⟨store, next, registered, registeredNext, leftMember, rightMember⟩ same
    have certified := certified_of_register (certified_of_register certified_empty registered)
      registeredNext
    exact Registry.eq_of_identity_eq certified.records.unique leftMember rightMember same
  · intro apart
    obtain ⟨first, second, entered, enteredNext, leftMember, rightMember⟩ :=
      Registry.exists_registered_pair GlobalContextRecord.key GlobalContextRecord.globalRecordId
        Within apart fun _ few => within_of_length_le (few.trans (by decide))
    have registered : registerGlobalContextRecord .empty (own left) = .ok ⟨first, []⟩ :=
      (register_eq_ok_iff certified_empty).mpr ⟨authorized_own [] left, entered, rfl⟩
    have certified := certified_of_register certified_empty registered
    exact ⟨_, ⟨second, []⟩, registered, (register_eq_ok_iff certified).mpr
      ⟨authorized_own first right, enteredNext, rfl⟩, leftMember, rightMember⟩

/-- Two different successors of a record have different ids and fit in one store exactly when they
do not differ in their policies alone. -/
theorem successors_apart_iff (free : digest.CollisionFree)
    (madeLeft : createGlobalRecordVersion digest prior first = .ok left)
    (madeRight : createGlobalRecordVersion digest prior second = .ok right) :
    (¬ SameContent left right →
        left.globalRecordId ≠ right.globalRecordId ∧ Coexist left right) ↔
      (SameEvidence prior first second → SamePolicies prior first second) := by
  rw [coexist_iff, sameContent_iff madeLeft madeRight, ne_eq,
    globalRecordId_eq_iff free madeLeft madeRight]
  constructor
  · intro law evidence
    by_contra policies
    exact (law fun content => policies content.2).1 evidence
  · intro policies different
    have apart : ¬ SameEvidence prior first second := fun evidence =>
      different ⟨evidence, policies evidence⟩
    exact ⟨apart, fun evidence => absurd evidence apart⟩

end Successors

/-! ## Successors under two policies -/

/-- A record that was promoted under a policy. -/
def promotedRecord : GlobalContextRecord where
  namespaceType := .project
  namespaceId := "project"
  globalRecordId := "record"
  recordVersion := 1
  sourceSessionId := "session"
  sourcePhase8RecordIds := ["memory"]
  sourceArtifactIds := ["artifact"]
  sourcePhase := "phase8"
  memoryType := .validatedFact
  contextKey := "key"
  creationSequence := 1
  lifecycle := .active
  conflictState := .clear
  provenance := ["source"]
  promotionPolicyId := "promotion"
  retentionPolicyId := "retention"
  texts_nonblank := by decide
  recordVersion_pos := Nat.one_pos
  creationSequence_pos := Nat.one_pos

/-- A change of the record to a promotion policy, for a reason. -/
def policyChange (changeReason promotionPolicyId : String) : RecordChange where
  changeReason := changeReason
  promotionPolicyId := some promotionPolicyId

theorem exists_policyChange (digest : Digest) {changeReason promotionPolicyId : String}
    (reason : Text.Nonblank changeReason) (policy : Text.Nonblank promotionPolicyId) :
    ∃ next, createGlobalRecordVersion digest promotedRecord
      (policyChange changeReason promotionPolicyId) = .ok next := by
  simp [createGlobalRecordVersion, policyChange, promotedRecord, nonblank, reason, policy,
    extendedLineage, versionPolicy, bind_eq_ok]

theorem successors_apart_policies : ∃ left right : GlobalContextRecord,
    createGlobalRecordVersion .verbatim promotedRecord (policyChange "correction" "strict") =
        .ok left ∧
      createGlobalRecordVersion .verbatim promotedRecord (policyChange "review" "strict") =
        .ok right ∧
      (¬ SameContent left right →
        left.globalRecordId ≠ right.globalRecordId ∧ Coexist left right) := by
  obtain ⟨left, madeLeft⟩ := exists_policyChange .verbatim
    (show Text.Nonblank "correction" by decide) (show Text.Nonblank "strict" by decide)
  obtain ⟨right, madeRight⟩ := exists_policyChange .verbatim
    (show Text.Nonblank "review" by decide) (show Text.Nonblank "strict" by decide)
  exact ⟨left, right, madeLeft, madeRight,
    (successors_apart_iff Digest.verbatim_collisionFree madeLeft madeRight).mpr
      fun _ => ⟨rfl, rfl⟩⟩

/-- Two successors of a record under different policies share their id. -/
theorem policies_share_id :
    ¬ ∀ (prior : GlobalContextRecord) (first second : RecordChange)
        (left right : GlobalContextRecord),
      createGlobalRecordVersion .sha256 prior first = .ok left →
      createGlobalRecordVersion .sha256 prior second = .ok right →
      ¬ SameContent left right →
        left.globalRecordId ≠ right.globalRecordId ∧ Coexist left right := by
  intro law
  obtain ⟨left, madeLeft⟩ := exists_policyChange .sha256
    (show Text.Nonblank "correction" by decide) (show Text.Nonblank "strict" by decide)
  obtain ⟨right, madeRight⟩ := exists_policyChange .sha256
    (show Text.Nonblank "correction" by decide) (show Text.Nonblank "lenient" by decide)
  have different : ¬ SameContent left right := by
    rw [sameContent_iff madeLeft madeRight]
    rintro ⟨_, promotion, _⟩
    exact absurd promotion (by decide)
  refine (law _ _ _ _ _ madeLeft madeRight different).1 ?_
  obtain ⟨_, _, _, _, rfl⟩ := exists_version madeLeft
  obtain ⟨_, _, _, _, rfl⟩ := exists_version madeRight
  rfl

end GlobalMemory
end MercuryX
