import MercuryX.Contracts

/-!
# Canonical gateway constraints

The constraints that the gateway derives from a request. A numeric value may be any float,
including the infinities and the value that is no number.
-/

namespace MercuryX
namespace Gateway

open Foundation

/-- What a constraint is about. -/
inductive ConstraintKind where
  | latency
  | quality
  | cost
  | privacy
  | priority
  | region
  | capability
  deriving DecidableEq, Repr

/-- The value of a constraint. -/
inductive ConstraintValue where
  /-- A text. -/
  | text (value : String)
  /-- An integer, or a finite float. -/
  | number (value : ℚ)
  /-- The float that is no number; it equals only the same object. -/
  | notANumber (object : Nat)
  /-- An infinite float. -/
  | infinite (negative : Bool)
  deriving DecidableEq

/-- The value is a number at most the bound. -/
def ConstraintValue.atMost (bound : ℚ) : ConstraintValue → Bool
  | text _ => false
  | number value => value ≤ bound
  | notANumber _ => false
  | infinite negative => negative

/-- The value is a number at least the bound. -/
def ConstraintValue.atLeast (bound : ℚ) : ConstraintValue → Bool
  | text _ => false
  | number value => bound ≤ value
  | notANumber _ => false
  | infinite negative => !negative

/-- One constraint in canonical form. -/
structure CanonicalConstraint where
  constraintId : String
  kind : ConstraintKind
  operator : String
  value : ConstraintValue
  unit : Option String
  required : Bool
  sourceField : String
  /-- Text fields are nonblank when present. -/
  texts_nonblank : ∀ text ∈ [constraintId, operator, sourceField] ++ unit.toList,
    Text.Nonblank text
  /-- A text value is nonblank. -/
  value_nonblank : ∀ text, value = .text text → Text.Nonblank text
  deriving DecidableEq

end Gateway
end MercuryX
