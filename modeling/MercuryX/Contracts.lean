import MercuryX.Foundation.Digest
import MercuryX.Foundation.Fallible

/-!
# Shared contract vocabulary

What the modelled code raises, and the field constraints that its contracts declare. A contract
instance that was validated carries its constraints in its type; only values that still have to
pass validation appear in raw form.
-/

namespace MercuryX

open Foundation

/-- An exception raised by the modelled code. -/
inductive Fault where
  /-- `ValueError` with its message. -/
  | value (message : String)
  /-- `ValidationError` of a contract: the failing field, empty for a rule about the whole
  instance, and the message. -/
  | validation (contract field message : String)
  /-- `KeyError` for a missing key. -/
  | missingKey (key : String)
  deriving DecidableEq, Repr

/-- The check of an integer field declared with `Field(ge=bound)`. -/
def fieldGe (contract field : String) (bound value : Int) : Except Fault Unit :=
  require (bound ≤ value)
    (.validation contract field s!"Input should be greater than or equal to {bound}")

/-- The check of an integer field declared with `Field(le=bound)`. -/
def fieldLe (contract field : String) (bound value : Int) : Except Fault Unit :=
  require (value ≤ bound)
    (.validation contract field s!"Input should be less than or equal to {bound}")

/-- The checks of a float field declared with `Field(ge=lower, le=upper)`. -/
def fieldWithin (contract field : String) (lower upper value : ℚ) : Except Fault Unit := do
  require (lower ≤ value) (.validation contract field
    s!"Input should be greater than or equal to {lower}")
  require (value ≤ upper) (.validation contract field
    s!"Input should be less than or equal to {upper}")

@[simp] theorem fieldWithin_eq_ok {contract field : String} {lower upper value : ℚ} {done : Unit} :
    fieldWithin contract field lower upper value = .ok done ↔ lower ≤ value ∧ value ≤ upper := by
  simp [fieldWithin]

/-- A rule that a validator of the contract states about one field or the whole instance. -/
def rule (contract field : String) (condition : Prop) [Decidable condition] (message : String) :
    Except Fault Unit :=
  require condition (.validation contract field s!"Value error, {message}")

/-- The checks of an integer field declared with `Field(ge=lower, le=upper)`. -/
def fieldBetween (contract field : String) (lower upper value : Int) : Except Fault Unit := do
  fieldGe contract field lower value
  fieldLe contract field upper value

/-- The check of a float field declared with `Field(gt=0)`. -/
def fieldPositive (contract field : String) (value : ℚ) : Except Fault Unit :=
  require (0 < value) (.validation contract field "Input should be greater than 0")

@[simp] theorem fieldPositive_eq_ok {contract field : String} {value : ℚ} {done : Unit} :
    fieldPositive contract field value = .ok done ↔ 0 < value := by
  simp [fieldPositive]

/-- A validation failure inside a field, as the enclosing contract reports it. -/
def nested (contract path : String) {α : Type} : Except Fault α → Except Fault α
  | .error (.validation _ field message) =>
      .error (.validation contract (if field = "" then path else s!"{path}.{field}") message)
  | outcome => outcome

/-- Validate the items of a field, each reported under its index. -/
def nestedItems (contract path : String) {α : Type} (check : α → Except Fault Unit)
    (items : List α) : Except Fault Unit :=
  forEach (fun entry => nested contract s!"{path}.{entry.2}" (check entry.1)) items.zipIdx

@[simp] theorem fieldGe_eq_ok {contract field : String} {bound value : Int} {done : Unit} :
    fieldGe contract field bound value = .ok done ↔ bound ≤ value := by
  simp [fieldGe]

@[simp] theorem fieldLe_eq_ok {contract field : String} {bound value : Int} {done : Unit} :
    fieldLe contract field bound value = .ok done ↔ value ≤ bound := by
  simp [fieldLe]

@[simp] theorem rule_eq_ok {contract field : String} {condition : Prop} [Decidable condition]
    {message : String} {done : Unit} :
    rule contract field condition message = .ok done ↔ condition := by
  simp [rule]

@[simp] theorem fieldBetween_eq_ok {contract field : String} {lower upper value : Int}
    {done : Unit} :
    fieldBetween contract field lower upper value = .ok done ↔ lower ≤ value ∧ value ≤ upper := by
  simp [fieldBetween]

@[simp] theorem nested_eq_ok {contract path : String} {α : Type} {outcome : Except Fault α}
    {answer : α} : nested contract path outcome = .ok answer ↔ outcome = .ok answer := by
  unfold nested
  split <;> simp

@[simp] theorem nestedItems_eq_ok {contract path : String} {α : Type}
    {check : α → Except Fault Unit} {items : List α} {done : Unit} :
    nestedItems contract path check items = .ok done ↔ ∀ item ∈ items, check item = .ok () := by
  simp only [nestedItems, forEach_eq_ok, nested_eq_ok]
  constructor
  · intro every item member
    obtain ⟨index, inside, rfl⟩ := List.mem_iff_getElem.mp member
    exact every (items[index], index) (by simp [List.mem_zipIdx_iff_getElem?])
  · intro every entry member
    exact every entry.1 (List.fst_mem_of_mem_zipIdx member)

/-! ## Canonical texts -/

/-- Nonblank texts, each once and in order. -/
def CanonicalTexts (texts : List String) : Prop :=
  (∀ text ∈ texts, Text.Nonblank text) ∧ canonical id texts = texts

instance (texts : List String) : Decidable (CanonicalTexts texts) :=
  inferInstanceAs (Decidable (_ ∧ _))

theorem canonicalTexts_canonical {texts : List String}
    (visible : ∀ text ∈ texts, Text.Nonblank text) : CanonicalTexts (canonical id texts) :=
  ⟨fun text member => visible text ((mem_canonical id).mp member),
    canonical_eq_self id (canonical_nodup id texts) (canonical_pairwise id texts)⟩

/-- The check of a field of texts that are nonblank and distinct; the field keeps them in order. -/
def canonicalField (contract field blank repeated : String) (texts : List String) :
    Except Fault (List String) := do
  rule contract field (∀ text ∈ texts, Text.Nonblank text) blank
  rule contract field texts.Nodup repeated
  return sortOn id texts

@[simp] theorem canonicalField_eq_ok {contract field blank repeated : String}
    {texts kept : List String} :
    canonicalField contract field blank repeated texts = .ok kept ↔
      (∀ text ∈ texts, Text.Nonblank text) ∧ texts.Nodup ∧ sortOn id texts = kept := by
  simp [canonicalField]

/-! ## Content addresses -/

section Address

variable (digest : Digest)

/-- The identity of an artifact of a kind that has the given fingerprint. -/
def addressOf (kind fingerprint : String) : String :=
  digest.hexdigest (.obj [(kind, .str fingerprint)])

/-- The fingerprint is that of the body, and the identity is derived from it. -/
def Addressed (kind : String) (body : Json) (identity fingerprint : String) : Prop :=
  fingerprint = digest.hexdigest body ∧
    identity = addressOf digest kind (digest.hexdigest body)

instance (kind : String) (body : Json) (identity fingerprint : String) :
    Decidable (Addressed digest kind body identity fingerprint) :=
  inferInstanceAs (Decidable (_ ∧ _))

end Address

end MercuryX
