import MercuryX.Contracts
import MercuryX.Foundation.Dict
import Mathlib.Algebra.Order.Monoid.WithTop

/-!
# Workload requests

What a client asks of the gateway. The input and the context of a request are dictionaries of
arbitrary values; they compare as values, so dictionaries and sets compare without regard to order
and a truth value compares as a number.
-/

namespace MercuryX
namespace Gateway

open Foundation

/-! ## Payload values -/

/-- How a collection holds its members. -/
inductive CollectionKind where
  | list
  | tuple
  | set
  | frozenset
  deriving DecidableEq, Repr

/-- The members of the collection have no order. -/
def CollectionKind.unordered : CollectionKind → Bool
  | list | tuple => false
  | set | frozenset => true

/-- A value of the input or the context of a request. -/
inductive Payload where
  | none
  | bool (value : Bool)
  /-- An integer, or a finite float. -/
  | number (value : ℚ)
  /-- The float that is no number; as a member it equals only the same object. -/
  | notANumber (object : Nat)
  /-- An infinite float. -/
  | infinite (negative : Bool)
  | text (value : String)
  | items (kind : CollectionKind) (members : List Payload)
  | dict (entries : List (String × Payload))

namespace Payload

/-- The number that a value is; a truth value is zero or one. -/
def numeric : Payload → Option ℚ
  | bool value => some (if value then 1 else 0)
  | number value => some value
  | _ => Option.none

/-- The value is there. -/
def present : Payload → Bool
  | none => false
  | _ => true

/-- The texts of a value: the value itself, or the texts among its members. -/
def texts : Payload → List String
  | text value => [value]
  | items _ members => members.filterMap fun
      | text value => some value
      | _ => Option.none
  | _ => []

/-- The number of members of a collection. -/
def count : Payload → Option Nat
  | items _ members => some members.length
  | dict entries => some entries.length
  | _ => Option.none

/-- What a value counts as where a truth value is expected. -/
def truthy : Payload → Bool
  | none => false
  | bool value => value
  | number value => value ≠ 0
  | notANumber _ => true
  | infinite _ => true
  | text value => value ≠ ""
  | items _ members => !members.isEmpty
  | dict entries => !entries.isEmpty

mutual

/-- The values are equal. -/
def same : Payload → Payload → Bool
  | none, none => true
  | notANumber left, notANumber right => left = right
  | infinite left, infinite right => left = right
  | text left, text right => left = right
  | items leftKind left, items rightKind right =>
      if leftKind.unordered && rightKind.unordered then
        left.length = right.length && allAmong left right
      else leftKind = rightKind && sameMembers left right
  | dict left, dict right => left.length = right.length && sameEntries left right
  | left, right => left.numeric.isSome && left.numeric = right.numeric
termination_by structural value => value

/-- The members of two collections are equal, one by one. -/
def sameMembers : List Payload → List Payload → Bool
  | [], [] => true
  | left :: lefts, right :: rights => same left right && sameMembers lefts rights
  | _, _ => false

/-- Every member of the one collection is among those of the other. -/
def allAmong : List Payload → List Payload → Bool
  | [], _ => true
  | left :: lefts, rights => rights.any (same left) && allAmong lefts rights

/-- Every entry of the one dictionary is an entry of the other. -/
def sameEntries : List (String × Payload) → List (String × Payload) → Bool
  | [], _ => true
  | (key, left) :: lefts, rights =>
      (rights.lookup key).any (same left) && sameEntries lefts rights

end

example : same (dict [("a", bool true), ("b", none)]) (dict [("b", none), ("a", number 1)]) := by
  decide

end Payload

/-! ## Requests -/

/-- A request that passed its contract. -/
structure WorkloadRequest where
  workloadId : String
  sessionId : Option String
  taskType : String
  input : Dict String Payload
  context : Dict String Payload
  /-- The latency that is asked for, in milliseconds; it may be infinite. -/
  latencyTargetMs : WithTop ℚ
  qualityTarget : ℚ
  /-- The cost that is allowed; it may be infinite. -/
  costBudget : Option (WithTop ℚ)
  privacyLevel : String
  priority : Int
  hardwareConstraints : List String
  /-- The required texts are not empty. -/
  texts_nonempty : ∀ text ∈ [workloadId, taskType, privacyLevel], text ≠ ""
  /-- Latency is positive. -/
  latency_pos : 0 < latencyTargetMs
  /-- Quality is a proportion. -/
  quality_bounds : 0 ≤ qualityTarget ∧ qualityTarget ≤ 1
  /-- Cost is nonnegative. -/
  cost_nonneg : ∀ budget ∈ costBudget, 0 ≤ budget
  /-- Priority is a percentage. -/
  priority_bounds : 0 ≤ priority ∧ priority ≤ 100

/-- The requests are equal. -/
def WorkloadRequest.same (left right : WorkloadRequest) : Bool :=
  left.workloadId = right.workloadId && left.sessionId = right.sessionId &&
    left.taskType = right.taskType &&
    (Payload.dict left.input.entries).same (.dict right.input.entries) &&
    (Payload.dict left.context.entries).same (.dict right.context.entries) &&
    left.latencyTargetMs = right.latencyTargetMs && left.qualityTarget = right.qualityTarget &&
    left.costBudget = right.costBudget && left.privacyLevel = right.privacyLevel &&
    left.priority = right.priority && left.hardwareConstraints = right.hardwareConstraints

/-! ## Identities -/

/-- The request, workload and session that something in the gateway is about. -/
abbrev Identity := String × String × String

/-- The identity of a gateway call. -/
structure GatewayIdentity where
  requestId : String
  workloadId : String
  sessionId : String
  /-- Identity fields are nonblank. -/
  texts_nonblank : ∀ text ∈ [requestId, workloadId, sessionId], Text.Nonblank text

/-- The identity as a value. -/
def GatewayIdentity.identity (identity : GatewayIdentity) : Identity :=
  (identity.requestId, identity.workloadId, identity.sessionId)

/-! ## A modest request -/

theorem modestRequest_texts : ∀ text ∈ ["workload-1", "inference", "public"], text ≠ "" := by
  decide

theorem modestRequest_latency : (0 : WithTop ℚ) < (100 : ℚ) := by
  rw [WithTop.coe_pos]
  norm_num

theorem modestRequest_quality : (0 : ℚ) ≤ 1 ∧ (1 : ℚ) ≤ 1 := ⟨zero_le_one, le_rfl⟩

theorem modestRequest_cost : ∀ budget ∈ (none : Option (WithTop ℚ)), 0 ≤ budget := by
  simp

theorem modestRequest_priority : (0 : Int) ≤ 50 ∧ (50 : Int) ≤ 100 := by
  decide

/-- A request without cost and hardware. -/
def modestRequest : WorkloadRequest where
  workloadId := "workload-1"
  sessionId := some "session-1"
  taskType := "inference"
  input := .empty
  context := .empty
  latencyTargetMs := (100 : ℚ)
  qualityTarget := 1
  costBudget := none
  privacyLevel := "public"
  priority := 50
  hardwareConstraints := []
  texts_nonempty := modestRequest_texts
  latency_pos := modestRequest_latency
  quality_bounds := modestRequest_quality
  cost_nonneg := modestRequest_cost
  priority_bounds := modestRequest_priority

theorem modestIdentity_visible : ∀ text ∈ ["1", "workload-1", "session-1"], Text.Nonblank text := by
  decide

/-- The identity of the request. -/
def modestIdentity : GatewayIdentity := ⟨"1", "workload-1", "session-1", modestIdentity_visible⟩

end Gateway
end MercuryX
