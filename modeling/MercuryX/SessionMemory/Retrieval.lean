import MercuryX.SessionMemory.Store

/-!
# Retrieval of session memory

A query returns the matching records of its session in canonical order, up to its limit. Without a
lifecycle it asks for active records.
-/

namespace MercuryX
namespace SessionMemory

open Foundation

/-- The check of a record against the filters of a query. -/
def recordMatches (record : SessionMemoryRecord) (query : SessionMemoryQuery) : Bool :=
  decide (record.sessionId = query.sessionId) &&
  decide (record.lifecycle = query.lifecycle.getD .active) &&
  (query.taskId.all fun taskId => decide (record.taskId = taskId)) &&
  (query.turnIdMin.all fun lower => decide (¬ record.turnId < lower)) &&
  (query.turnIdMax.all fun upper => decide (¬ record.turnId > upper)) &&
  (decide (query.memoryTypes = []) || decide (record.memoryType ∈ query.memoryTypes)) &&
  (query.scope.all fun scope => decide (record.scope = scope)) &&
  (query.sourceArtifactId.all fun artifactId => decide (record.sourceArtifactId = artifactId)) &&
  (query.sourceLineageId.all fun lineageId => decide (record.sourceLineageId = some lineageId)) &&
  (query.retrievalKey.all fun retrievalKey => decide (record.retrievalKey = some retrievalKey))

/-- Results are ordered by session, task, turn, sequence and id. -/
def retrievalOrder (record : SessionMemoryRecord) :
    String ×ₗ String ×ₗ String ×ₗ Nat ×ₗ String :=
  toLex (record.sessionId, toLex (record.taskId, toLex (record.turnId,
    toLex (record.creationSequence, record.recordId))))

/-- The matching records of the session in canonical order, up to the limit. -/
def retrieveSessionMemory (query : SessionMemoryQuery) (store : SessionMemoryStore) :
    SessionMemoryRetrievalResult :=
  let records := sortOn retrievalOrder
    (store.records.filter fun record => recordMatches record query)
  { status := .ready
    records := records.take query.limit
    provenance := ["exact structured filters and canonical order only"] }

theorem retrievalOrder_apart (left right : SessionMemoryRecord)
    (same : retrievalOrder left = retrievalOrder right) : left.recordId = right.recordId := by
  simp only [retrievalOrder, toLex_inj, Prod.mk.injEq] at same
  exact same.2.2.2.2

/-- A query returns a record exactly when it is stored and matches, and fewer matching records than
the limit stand before it. -/
theorem mem_retrieved_iff {store : SessionMemoryStore} (certified : Certified store)
    {query : SessionMemoryQuery} {record : SessionMemoryRecord} :
    record ∈ (retrieveSessionMemory query store).records ↔
      record ∈ store.records ∧ recordMatches record query ∧
        (store.records.countP fun other => recordMatches other query &&
          decide (retrievalOrder other < retrievalOrder record)) < query.limit := by
  have separates : Separates retrievalOrder store.records := by
    intro left leftMember right rightMember same
    exact Registry.eq_of_identity_eq certified.records.unique leftMember rightMember
      (retrievalOrder_apart left right same)
  exact mem_take_sortOn_filter_iff separates certified.records.nodup _ _

theorem active_of_retrieved {store : SessionMemoryStore} {query : SessionMemoryQuery}
    (byDefault : query.lifecycle = none) {record : SessionMemoryRecord}
    (returned : record ∈ (retrieveSessionMemory query store).records) :
    record.sessionId = query.sessionId ∧ record.lifecycle = .active := by
  have member := List.mem_of_mem_take returned
  rw [mem_sortOn, List.mem_filter] at member
  have matching := member.2
  simp only [recordMatches, byDefault, Bool.and_eq_true, decide_eq_true_eq, Option.getD_none,
    and_assoc] at matching
  exact ⟨matching.1, matching.2.1⟩

end SessionMemory
end MercuryX
