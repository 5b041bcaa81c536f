import MercuryX.GlobalMemory.Governance

/-!
# Retrieval of global context

A query returns the matching records of its namespace in canonical order, up to its limit. Whether
a record counts as current is read off the record's own lifecycle alone. A successor carries its
lifecycle in itself and leaves its predecessor as it is, so a predecessor that is active stays
current, in the store that registers the successor and in every later one.
-/

namespace MercuryX
namespace GlobalMemory

open Foundation

/-- The lifecycles that a query without a lifecycle asks for. -/
def defaultLifecycles : List GlobalMemoryLifecycle := [.active, .superseded]

/-- The namespace of a query. -/
def GlobalMemoryQuery.space (query : GlobalMemoryQuery) : GlobalMemoryNamespace × String :=
  (query.namespaceType, query.namespaceId)

/-- The check of a record against the filters of a query. -/
def recordMatches (record : GlobalContextRecord) (query : GlobalMemoryQuery) : Bool :=
  decide (record.space = query.space) &&
  (query.memoryTypes.all fun types => decide (record.memoryType ∈ types)) &&
  (query.contextKey.all fun contextKey => decide (record.contextKey = contextKey)) &&
  (query.sourceArtifactId.all fun artifactId => decide (artifactId ∈ record.sourceArtifactIds)) &&
  (query.sourcePhase8RecordIds.all fun recordIds =>
    decide (recordIds ⊆ record.sourcePhase8RecordIds)) &&
  (query.recordVersion.all fun version => decide (record.recordVersion = version)) &&
  (match query.lifecycle with
    | some lifecycle => decide (record.lifecycle = lifecycle)
    | none => decide (record.lifecycle ∈ defaultLifecycles)) &&
  (!query.currentOnly || decide (record.lifecycle = .active)) &&
  (query.conflictState.all fun conflictState => decide (record.conflictState = conflictState))

/-- Results are ordered by namespace, context, version, sequence and id. -/
def retrievalKey (record : GlobalContextRecord) :
    String ×ₗ String ×ₗ String ×ₗ Nat ×ₗ Nat ×ₗ String :=
  toLex (record.namespaceType.value, toLex (record.namespaceId, toLex (record.contextKey,
    toLex (record.recordVersion, toLex (record.creationSequence, record.globalRecordId)))))

/-- The matching records of the namespace in canonical order, up to the limit. -/
def retrieveGlobalContext (query : GlobalMemoryQuery) (store : GlobalContextStore) :
    Except Fault GlobalMemoryRetrievalResult := do
  require (query.space = (query.authorizedNamespaceType, query.authorizedNamespaceId))
    (.value "namespace authorization mismatch")
  let records := sortOn retrievalKey (store.records.filter fun record => recordMatches record query)
  return { status := .ready, records := records.take query.limit }

/-! ## What a query returns -/

/-- The record is of the query's namespace and meets each filter that the query states. -/
structure Meets (query : GlobalMemoryQuery) (record : GlobalContextRecord) : Prop where
  /-- The namespace is that of the query. -/
  space : record.space = query.space
  /-- The memory type is asked for. -/
  memoryType : ∀ types, query.memoryTypes = some types → record.memoryType ∈ types
  /-- The context is asked for. -/
  contextKey : ∀ contextKey, query.contextKey = some contextKey → record.contextKey = contextKey
  /-- The artifact asked for is a source. -/
  sourceArtifact : ∀ artifactId, query.sourceArtifactId = some artifactId →
    artifactId ∈ record.sourceArtifactIds
  /-- The session records asked for are sources. -/
  sourceRecords : ∀ recordIds, query.sourcePhase8RecordIds = some recordIds →
    recordIds ⊆ record.sourcePhase8RecordIds
  /-- The version is asked for. -/
  recordVersion : ∀ version, query.recordVersion = some version → record.recordVersion = version
  /-- The lifecycle is asked for. -/
  lifecycle : ∀ lifecycle, query.lifecycle = some lifecycle → record.lifecycle = lifecycle
  /-- The conflict state is asked for. -/
  conflictState : ∀ conflictState, query.conflictState = some conflictState →
    record.conflictState = conflictState

theorem recordMatches_iff {query : GlobalMemoryQuery} (current : query.currentOnly = true)
    {record : GlobalContextRecord} :
    recordMatches record query = true ↔ record.lifecycle = .active ∧ Meets query record := by
  have lifecycles : (match query.lifecycle with
      | some lifecycle => decide (record.lifecycle = lifecycle)
      | none => decide (record.lifecycle ∈ defaultLifecycles)) = true ∧
        record.lifecycle = .active ↔
      record.lifecycle = .active ∧
        ∀ lifecycle, query.lifecycle = some lifecycle → record.lifecycle = lifecycle := by
    cases query.lifecycle with
    | none => simp +contextual [defaultLifecycles]
    | some lifecycle => simp [and_comm]
  simp only [recordMatches, current, Bool.and_eq_true, decide_eq_true_eq, Option.all_eq_true,
    Bool.not_true, Bool.false_or]
  constructor
  · rintro ⟨⟨⟨⟨⟨⟨⟨⟨space, types⟩, context⟩, artifact⟩, sources⟩, version⟩, lifecycle⟩, active⟩,
      conflict⟩
    exact ⟨active, space, types, context, artifact, sources, version,
      (lifecycles.mp ⟨lifecycle, active⟩).2, conflict⟩
  · rintro ⟨active, meets⟩
    exact ⟨⟨⟨⟨⟨⟨⟨⟨meets.space, meets.memoryType⟩, meets.contextKey⟩, meets.sourceArtifact⟩,
      meets.sourceRecords⟩, meets.recordVersion⟩, (lifecycles.mpr ⟨active, meets.lifecycle⟩).1⟩,
      active⟩, meets.conflictState⟩

theorem retrievalKey_apart (left right : GlobalContextRecord)
    (same : retrievalKey left = retrievalKey right) :
    left.globalRecordId = right.globalRecordId := by
  simp only [retrievalKey, toLex_inj, Prod.mk.injEq] at same
  exact same.2.2.2.2.2

/-- The number of matching records that stand before a record. -/
def ahead (store : GlobalContextStore) (query : GlobalMemoryQuery) (record : GlobalContextRecord) :
    Nat :=
  store.records.countP fun other =>
    recordMatches other query && decide (retrievalKey other < retrievalKey record)

/-- A query returns a record exactly when it is stored and matches, and fewer matching records than
the limit stand before it. -/
theorem mem_retrieved_iff {store : GlobalContextStore} (certified : Certified store)
    {query : GlobalMemoryQuery} {result : GlobalMemoryRetrievalResult}
    (outcome : retrieveGlobalContext query store = .ok result) {record : GlobalContextRecord} :
    record ∈ result.records ↔
      record ∈ store.records ∧ recordMatches record query ∧
        ahead store query record < query.limit := by
  simp only [retrieveGlobalContext, bind_eq_ok, require_eq_ok, pure_eq_ok, Except.ok.injEq,
    exists_and_left, exists_const] at outcome
  obtain ⟨_, rfl⟩ := outcome
  have separates : Separates retrievalKey store.records := by
    intro left leftMember right rightMember same
    exact Registry.eq_of_identity_eq certified.records.unique leftMember rightMember
      (retrievalKey_apart left right same)
  exact mem_take_sortOn_filter_iff separates certified.records.nodup _ _

/-! ## A revoked record -/

section Sample

/-- A project record. -/
def sampleContext : GlobalContextRecord where
  namespaceType := .project
  namespaceId := "p"
  globalRecordId := "r"
  recordVersion := 1
  sourceSessionId := "s"
  sourcePhase8RecordIds := ["m"]
  sourceArtifactIds := ["a"]
  sourcePhase := "phase8"
  memoryType := .validatedFact
  contextKey := "c"
  creationSequence := 1
  lifecycle := .active
  conflictState := .clear
  provenance := ["e"]
  promotionPolicyId := "promotion"
  retentionPolicyId := "retention"
  texts_nonblank := by decide
  recordVersion_pos := by decide
  creationSequence_pos := by decide

/-- The registration of a record by its own namespace. -/
def ownRegistration (record : GlobalContextRecord) : Registration :=
  ⟨record, record.namespaceType, record.namespaceId⟩

/-- A call that withdraws a project record. -/
def sampleCall : GovernanceCall := ⟨.project, "p", "withdrawn", none⟩

/-- A query for the current records of the project. -/
def sampleQuery : GlobalMemoryQuery where
  namespaceType := .project
  namespaceId := "p"
  authorizedNamespaceType := .project
  authorizedNamespaceId := "p"
  namespaces_nonblank := by decide

variable (digest : Digest)

/-- The revoked record. -/
def sampleRevoked : GlobalContextRecord := sampleContext.governed digest .revoked "withdrawn"

/-- The store that holds the record. -/
def sampleStore : GlobalContextStore := ⟨[sampleContext], []⟩

/-- The store that holds the record and the revoked record. -/
def sampleNext : GlobalContextStore :=
  ⟨Registry.entered GlobalContextRecord.key GlobalContextRecord.globalRecordId [sampleContext]
    (sampleRevoked digest), []⟩

theorem sampleStore_reachable : machine.Reachable .empty sampleStore := by
  have registered : GlobalContextStore.apply .empty (.register (ownRegistration sampleContext)) =
      .ok sampleStore := by decide
  exact Machine.ofFunction_reachable registered

theorem sampleRevoked_made :
    revokeGlobalContext digest sampleContext sampleCall = .ok (sampleRevoked digest) := by
  refine transitionGlobalContext_eq_ok_iff.mpr ⟨⟨?_, rfl, ?_, ?_⟩, ?_⟩
  · decide
  · simp [sampleCall]
  · decide
  · rw [show Text.strip sampleCall.reason = "withdrawn" by decide]
    rfl

theorem sampleRevoked_free :
    Registry.Free GlobalContextRecord.globalRecordId [sampleContext] (sampleRevoked digest) := by
  intro other member same
  obtain rfl := List.mem_singleton.mp member
  exfalso
  have heads := congrArg (fun text => text.toList.head?) same
  simp [sampleContext, sampleRevoked, GlobalContextRecord.governed,
    GlobalContextRecord.superseded, stableGovernanceId] at heads

theorem sampleNext_registered :
    sampleStore.apply (.register (ownRegistration (sampleRevoked digest))) =
      .ok (sampleNext digest) := by
  have certified := certified_of_reachable sampleStore_reachable certified_empty
  have free := sampleRevoked_free digest
  have few : (sampleNext digest).records.length ≤ 1 + 1 :=
    Registry.length_entered_le certified.records.unique free
  have authorized : Authorized sampleStore (ownRegistration (sampleRevoked digest)) :=
    ⟨Text.nonblank_literal rfl, rfl, rfl⟩
  have step : Transition sampleStore (.register (ownRegistration (sampleRevoked digest)))
      (sampleNext digest) :=
    .register authorized free (within_of_length_le (few.trans (by decide)))
  exact (apply_eq_ok_iff certified).mpr step

end Sample

/-! ## Supersession -/

/-- What the registration of a successor means for the queries for current records. -/
structure SupersessionLaw (digest : Digest) (query : GlobalMemoryQuery)
    (later : GlobalContextStore) (record successor : GlobalContextRecord) : Prop where
  /-- The successor is the next version of the record and names it. -/
  linked : NextVersion record successor
  /-- Both stay stored. -/
  kept : record ∈ later.records ∧ successor ∈ later.records
  /-- The record is returned by its own lifecycle, as if there were no successor. -/
  returned : ∀ result, retrieveGlobalContext query later = .ok result →
    (record ∈ result.records ↔ record.lifecycle = .active ∧ Meets query record ∧
      ahead later query record < query.limit)
  /-- A successor that is not active is not returned. -/
  withheld : successor.lifecycle ≠ .active → ∀ result,
    retrieveGlobalContext query later = .ok result → successor ∉ result.records
  /-- So what expiring, revoking or tombstoning makes is not returned. -/
  withdrawn : Withdrawn digest record successor → ∀ result,
    retrieveGlobalContext query later = .ok result → successor ∉ result.records

/-- In every store that a run reaches after a successor is registered, the record it supersedes is
stored, and is current when its own lifecycle says so. -/
theorem supersessionLaw {digest : Digest} {store next later : GlobalContextStore}
    {record successor : GlobalContextRecord} {registration : Registration}
    {query : GlobalMemoryQuery} (reach : machine.Reachable .empty store)
    (member : record ∈ store.records) (made : Successor digest record successor)
    (registers : registration.record = successor)
    (registered : registerGlobalContextRecord store registration = .ok next)
    (further : machine.Reachable next later) (current : query.currentOnly = true) :
    SupersessionLaw digest query later record successor := by
  have certified := certified_of_reachable reach certified_empty
  have step : Transition store (.register registration) next :=
    (apply_eq_ok_iff certified).mp registered
  have nextCertified := step.certified certified
  have laterCertified := certified_of_reachable further nextCertified
  have extended := extends_of_reachable further nextCertified
  have recordNext := (step.extends certified).records member
  have successorNext : successor ∈ next.records :=
    (step.mem_records certified).mpr (.inr ⟨registration, rfl, registers⟩)
  have withheld : successor.lifecycle ≠ .active → ∀ result,
      retrieveGlobalContext query later = .ok result → successor ∉ result.records := by
    intro ended result outcome returned
    have found := ((mem_retrieved_iff laterCertified outcome).mp returned).2.1
    exact ended ((recordMatches_iff current).mp found).1
  refine ⟨made.nextVersion, ⟨extended.records recordNext, extended.records successorNext⟩, ?_,
    withheld, fun ended => withheld ended.not_active⟩
  intro result outcome
  rw [mem_retrieved_iff laterCertified outcome, recordMatches_iff current, and_assoc]
  exact and_iff_right (extended.records recordNext)

/-- The record stays stored and current once its revocation is registered. -/
theorem supersessionLaw_revoked : SupersessionLaw Digest.sha256 sampleQuery
    (sampleNext Digest.sha256) sampleContext (sampleRevoked Digest.sha256) :=
  supersessionLaw sampleStore_reachable List.mem_cons_self
    (.revoked sampleCall (sampleRevoked_made Digest.sha256)) rfl
    (sampleNext_registered Digest.sha256) (.refl _) rfl

/-- Registered successors withdraw their records from the queries for current records. -/
def SuccessorsWithdraw (digest : Digest) : Prop :=
  ∀ (store next later : GlobalContextStore) (record successor : GlobalContextRecord)
    (registration : Registration) (query : GlobalMemoryQuery)
    (result : GlobalMemoryRetrievalResult),
    machine.Reachable .empty store → record ∈ store.records →
    Successor digest record successor → registration.record = successor →
    registerGlobalContextRecord store registration = .ok next → machine.Reachable next later →
    query.currentOnly = true → retrieveGlobalContext query later = .ok result →
    record ∉ result.records

/-- A registered revocation does not withdraw its record. -/
theorem successors_do_not_withdraw : ¬ SuccessorsWithdraw Digest.sha256 := by
  intro withdraw
  have registered := sampleNext_registered Digest.sha256
  have further : machine.Reachable sampleStore (sampleNext Digest.sha256) :=
    Machine.ofFunction_reachable registered
  have before := certified_of_reachable sampleStore_reachable certified_empty
  have certified := certified_of_reachable further before
  have stored : sampleContext ∈ (sampleNext Digest.sha256).records :=
    (extends_of_reachable further before).records List.mem_cons_self
  obtain ⟨result, outcome⟩ : ∃ result,
      retrieveGlobalContext sampleQuery (sampleNext Digest.sha256) = .ok result := ⟨_, rfl⟩
  have few : ahead (sampleNext Digest.sha256) sampleQuery sampleContext < sampleQuery.limit :=
    calc ahead (sampleNext Digest.sha256) sampleQuery sampleContext
        ≤ (sampleNext Digest.sha256).records.length := List.countP_le_length
      _ ≤ 1 + 1 :=
        Registry.length_entered_le before.records.unique (sampleRevoked_free Digest.sha256)
      _ < sampleQuery.limit := by decide
  have returned : sampleContext ∈ result.records :=
    (mem_retrieved_iff certified outcome).mpr ⟨stored, by decide, few⟩
  exact withdraw _ _ _ _ _ _ _ _ sampleStore_reachable List.mem_cons_self
    (.revoked sampleCall (sampleRevoked_made Digest.sha256)) rfl registered (.refl _) rfl outcome
    returned

end GlobalMemory
end MercuryX
