import MercuryX.DisaggregatedExecution.Contracts
import MercuryX.Foundation.DepthFirst
import MercuryX.Foundation.Dict

/-!
# Building an execution plan

A plan is built from segments of distinct ids whose dependencies are declared and close no cycle,
and from handoffs of the plan between declared segments. Its entries are the segments that depend
on nothing and its terminals those that nothing depends on, and all its parts stand in canonical
order.
-/

namespace MercuryX
namespace DisaggregatedExecution

open Foundation GlobalMemory

/-! ## The request -/

/-- What a plan is for. -/
structure PlanRequest where
  namespaceType : GlobalMemoryNamespace
  namespaceId : String
  sourceExecutionGraphId : String
  planVersion : String := "1"
  creationSequence : Int := 1

namespace PlanRequest

/-- The namespace of a plan. -/
def space (request : PlanRequest) : GlobalMemoryNamespace × String :=
  (request.namespaceType, request.namespaceId)

/-- The id of the plan. -/
def executionPlanId (digest : Digest) (request : PlanRequest) : String :=
  digest.hexdigest (.obj [("namespace_type", .str request.namespaceType.value),
    ("namespace_id", .str request.namespaceId),
    ("source_execution_graph_id", .str request.sourceExecutionGraphId),
    ("plan_version", .str request.planVersion)])

/-- The texts that a plan is identified by, under their names. -/
def texts (request : PlanRequest) : List (String × String) :=
  [("namespace_id", request.namespaceId),
    ("source_execution_graph_id", request.sourceExecutionGraphId),
    ("plan_version", request.planVersion)]

end PlanRequest

/-- Make the id of a plan. -/
def makeExecutionPlanId (digest : Digest) (request : PlanRequest) : Except Fault String := do
  forEach (fun field => require (Text.Nonblank field.2) (.value s!"{field.1} must be nonblank"))
    request.texts
  return request.executionPlanId digest

/-! ## The dependencies -/

/-- The ids of segments. -/
def segmentIds (segments : List ExecutionSegment) : List String :=
  segments.map ExecutionSegment.segmentId

/-- What the segment of an id depends on. -/
def dependenciesOf (segments : List ExecutionSegment) (id : String) : List String :=
  ((Dict.indexed ExecutionSegment.segmentId segments).get? id).elim []
    ExecutionSegment.dependencySegmentIds

/-- The check that no segment depends on itself through others. -/
def cycleFree (segments : List ExecutionSegment) : Except Fault Unit :=
  require (DepthFirst.visitAll (dependenciesOf segments) (segments.length + 1)
      (canonical id (segmentIds segments))).isSome
    (.value "execution segment graph contains cycle")

/-- The arrows from dependencies to the segments that depend on them. -/
def dependencies (segments : List ExecutionSegment) : List (String × String) :=
  segments.flatMap fun segment =>
    segment.dependencySegmentIds.map fun dependency => (dependency, segment.segmentId)

/-- The ids of the segments that depend on nothing. -/
def entrySegmentIds (segments : List ExecutionSegment) : List String :=
  sortOn id ((segments.filter fun segment => segment.dependencySegmentIds = []).map
    ExecutionSegment.segmentId)

/-- The ids of the segments that nothing depends on. -/
def terminalSegmentIds (segments : List ExecutionSegment) : List String :=
  let consumers := segments.flatMap ExecutionSegment.dependencySegmentIds
  sortOn id ((segments.filter fun segment => segment.segmentId ∉ consumers).map
    ExecutionSegment.segmentId)

/-! ## The plan -/

/-- The check of a segment against the plan. -/
def checkSegment (request : PlanRequest) (ids : List String) (segment : ExecutionSegment) :
    Except Fault Unit := do
  require (segment.space = request.space) (.value "segment namespace mismatch")
  forEach (fun dependency => require (dependency ∈ ids) (.value "dangling execution dependency"))
    segment.dependencySegmentIds

/-- The check of a handoff against the plan. -/
def checkHandoff (request : PlanRequest) (executionPlanId : String) (ids : List String)
    (handoff : ExecutionHandoff) : Except Fault Unit := do
  require (handoff.executionPlanId = executionPlanId) (.value "handoff execution plan mismatch")
  require (handoff.producerSegmentId ∈ ids ∧ handoff.consumerSegmentId ∈ ids)
    (.value "handoff endpoint not declared")
  require (handoff.space = request.space) (.value "handoff namespace mismatch")

/-- Segments are ordered by sequence and id. -/
def ExecutionSegment.key (segment : ExecutionSegment) : Nat ×ₗ String :=
  toLex (segment.creationSequence, segment.segmentId)

/-- Handoffs are ordered by sequence and id. -/
def ExecutionHandoff.key (handoff : ExecutionHandoff) : Nat ×ₗ String :=
  toLex (handoff.creationSequence, handoff.handoffId)

/-- The plan without its fingerprint, as JSON. -/
def planPayload (request : PlanRequest) (executionPlanId : String)
    (segments : List ExecutionSegment) (handoffs : List ExecutionHandoff)
    (entry terminal : List String) : Json :=
  .obj [("execution_plan_id", .str executionPlanId),
    ("namespace_type", .str request.namespaceType.value),
    ("namespace_id", .str request.namespaceId),
    ("source_execution_graph_id", .str request.sourceExecutionGraphId),
    ("segments", .arr (segments.map ExecutionSegment.json)),
    ("handoffs", .arr (handoffs.map ExecutionHandoff.json)),
    ("entry_segment_ids", .strs entry),
    ("terminal_segment_ids", .strs terminal),
    ("creation_sequence", .int request.creationSequence),
    ("plan_version", .str request.planVersion)]

/-- The plan of segments and handoffs that pass all checks. -/
def assembled (digest : Digest) (request : PlanRequest) (segments : List ExecutionSegment)
    (handoffs : List ExecutionHandoff) : DisaggregatedExecutionPlan :=
  let executionPlanId := request.executionPlanId digest
  let orderedSegments := sortOn ExecutionSegment.key segments
  let orderedHandoffs := sortOn ExecutionHandoff.key handoffs
  let entry := entrySegmentIds segments
  let terminal := terminalSegmentIds segments
  { executionPlanId := executionPlanId
    namespaceType := request.namespaceType
    namespaceId := request.namespaceId
    sourceExecutionGraphId := request.sourceExecutionGraphId
    segments := orderedSegments
    handoffs := orderedHandoffs
    entrySegmentIds := entry
    terminalSegmentIds := terminal
    creationSequence := request.creationSequence
    planVersion := request.planVersion
    planFingerprint := digest.hexdigest
      (planPayload request executionPlanId orderedSegments orderedHandoffs entry terminal) }

/-- Build a plan. -/
def buildDisaggregatedExecutionPlan (digest : Digest) (request : PlanRequest)
    (segments : List ExecutionSegment) (handoffs : List ExecutionHandoff) :
    Except Fault DisaggregatedExecutionPlan := do
  require (segments ≠ []) (.value "execution plan requires at least one segment")
  require (segments.length ≤ maxSegmentsPerExecutionPlan) (.value "too many execution segments")
  let ids := segmentIds segments
  require ids.Nodup (.value "duplicate execution segment")
  forEach (checkSegment request ids) segments
  cycleFree segments
  require (entrySegmentIds segments ≠ [] ∧ terminalSegmentIds segments ≠ [])
    (.value "execution plan requires entry and terminal segments")
  let executionPlanId ← makeExecutionPlanId digest request
  forEach (checkHandoff request executionPlanId ids) handoffs
  let plan := assembled digest request segments handoffs
  plan.validate
  return plan

end DisaggregatedExecution
end MercuryX
