import MercuryX.Foundation.Reading

/-!
# Values of one layout

A layout says which members an object has, in which order, and of which layout each of them is.
Canonical text forgets the order of members, so it tells values apart only up to that order; among
the values of one layout the order is fixed, and canonical text tells them apart altogether.
-/

namespace Foundation
namespace Json

/-- The layout of a value. -/
inductive Layout where
  /-- A text, a truth value, an integer or null. -/
  | scalar
  /-- Null, or a value of a layout. -/
  | optional (layout : Layout)
  /-- An array of values of one layout. -/
  | list (item : Layout)
  /-- An object with the given members. -/
  | record (fields : List (String × Layout))

/-- The value is neither a float nor put together from others. -/
def IsScalar : Json → Prop
  | .null | .bool _ | .int _ | .str _ => True
  | .float _ | .arr _ | .obj _ => False

mutual

/-- A value is of a layout. -/
def Fits : Layout → Json → Prop
  | .scalar, value => value.IsScalar
  | .optional layout, value => value = .null ∨ Fits layout value
  | .list item, .arr items => ∀ value ∈ items, Fits item value
  | .record fields, .obj members => FitsFields fields members
  | _, _ => False

/-- Members are those of the fields of a layout, in their order. -/
def FitsFields : List (String × Layout) → List (String × Json) → Prop
  | [], [] => True
  | (field, layout) :: fields, (name, value) :: members =>
      name = field ∧ Fits layout value ∧ FitsFields fields members
  | _, _ => False

end

mutual

/-- No object of a layout has two members of one name. -/
def Distinct : Layout → Prop
  | .scalar => True
  | .optional layout => Distinct layout
  | .list item => Distinct item
  | .record fields => (fields.map Prod.fst).Nodup ∧ DistinctFields fields

/-- No object in the members of a layout has two members of one name. -/
def DistinctFields : List (String × Layout) → Prop
  | [] => True
  | (_, layout) :: fields => Distinct layout ∧ DistinctFields fields

end

theorem IsScalar.normal_eq {value : Json} (scalar : value.IsScalar) : normal value = value := by
  cases value <;> first | rfl | exact scalar.elim

theorem IsScalar.exact {value : Json} (scalar : value.IsScalar) : value.Exact := by
  cases value <;> trivial

theorem Fits.exists_items {item : Layout} {value : Json} (fits : Fits (.list item) value) :
    ∃ items, value = .arr items ∧ ∀ value ∈ items, Fits item value := by
  cases value <;> first | exact fits.elim | exact ⟨_, rfl, fits⟩

theorem Fits.exists_members {fields : List (String × Layout)} {value : Json}
    (fits : Fits (.record fields) value) :
    ∃ members, value = .obj members ∧ FitsFields fields members := by
  cases value <;> first | exact fits.elim | exact ⟨_, rfl, fits⟩

theorem FitsFields.names {fields : List (String × Layout)} {members : List (String × Json)}
    (fits : FitsFields fields members) : members.map Prod.fst = fields.map Prod.fst := by
  induction fields generalizing members with
  | nil =>
      cases members with
      | nil => rfl
      | cons member members => exact fits.elim
  | cons field fields induction =>
      cases members with
      | nil => exact fits.elim
      | cons member members =>
          rw [List.map_cons, List.map_cons, induction fits.2.2, fits.1]

mutual

theorem Fits.exact : (layout : Layout) → {value : Json} → Fits layout value → value.Exact
  | .scalar, _, fits => IsScalar.exact fits
  | .optional layout, _, fits => by
      rcases fits with rfl | fits
      · trivial
      · exact Fits.exact layout fits
  | .list item, _, fits => by
      obtain ⟨items, rfl, each⟩ := fits.exists_items
      exact exactItems_iff.mpr fun value member => Fits.exact item (each value member)
  | .record fields, _, fits => by
      obtain ⟨members, rfl, each⟩ := fits.exists_members
      exact FitsFields.exact fields each

theorem FitsFields.exact : (fields : List (String × Layout)) → {members : List (String × Json)} →
    FitsFields fields members → ExactMembers members
  | [], [], _ => trivial
  | [], _ :: _, fits => fits.elim
  | _ :: _, [], fits => fits.elim
  | (_, layout) :: fields, _ :: _, fits =>
      ⟨Fits.exact layout fits.2.1, FitsFields.exact fields fits.2.2⟩

end

/-- Lists are told apart by the normal forms of their items where the items are. -/
theorem eq_of_map_normal {lefts rights : List Json}
    (told : ∀ left ∈ lefts, ∀ right ∈ rights, normal left = normal right → left = right)
    (same : lefts.map normal = rights.map normal) : lefts = rights := by
  induction lefts generalizing rights with
  | nil => exact (List.map_eq_nil_iff.mp same.symm).symm
  | cons left lefts induction =>
      cases rights with
      | nil => exact absurd same (List.cons_ne_nil _ _)
      | cons right rights =>
          obtain ⟨here, later⟩ := List.cons.inj same
          have laterTold : ∀ left ∈ lefts, ∀ right ∈ rights, normal left = normal right →
              left = right := fun one inLeft other inRight =>
            told one (List.mem_cons_of_mem _ inLeft) other (List.mem_cons_of_mem _ inRight)
          rw [told left List.mem_cons_self right List.mem_cons_self here,
            induction laterTold later]

mutual

/-- Values of one layout are told apart by their normal forms. -/
theorem Fits.eq_of_normal_eq : (layout : Layout) → Distinct layout → {left right : Json} →
    Fits layout left → Fits layout right → normal left = normal right → left = right
  | .scalar, _, left, right, leftFits, rightFits, same => by
      rwa [IsScalar.normal_eq leftFits, IsScalar.normal_eq rightFits] at same
  | .optional layout, distinct, left, right, leftFits, rightFits, same => by
      rcases leftFits with rfl | leftFits
      · cases right <;> simp_all [normal]
      · rcases rightFits with rfl | rightFits
        · cases left <;> simp_all [normal]
        · exact Fits.eq_of_normal_eq layout distinct leftFits rightFits same
  | .list item, distinct, left, right, leftFits, rightFits, same => by
      obtain ⟨lefts, rfl, leftEach⟩ := leftFits.exists_items
      obtain ⟨rights, rfl, rightEach⟩ := rightFits.exists_items
      simp only [normal, normalItems_eq_map, Json.arr.injEq] at same
      rw [eq_of_map_normal (fun one inLeft other inRight => Fits.eq_of_normal_eq item distinct
        (leftEach one inLeft) (rightEach other inRight)) same]
  | .record fields, distinct, left, right, leftFits, rightFits, same => by
      obtain ⟨lefts, rfl, leftEach⟩ := leftFits.exists_members
      obtain ⟨rights, rfl, rightEach⟩ := rightFits.exists_members
      have names : lefts.map Prod.fst = rights.map Prod.fst :=
        leftEach.names.trans rightEach.names.symm
      have members := normalMembers_eq names (leftEach.names ▸ distinct.1) same
      rw [FitsFields.eq_of_normal_eq fields distinct.2 leftEach rightEach members]

theorem FitsFields.eq_of_normal_eq : (fields : List (String × Layout)) → DistinctFields fields →
    {lefts rights : List (String × Json)} → FitsFields fields lefts → FitsFields fields rights →
      normalMembers lefts = normalMembers rights → lefts = rights
  | [], _, [], [], _, _, _ => rfl
  | [], _, _ :: _, _, leftFits, _, _ => leftFits.elim
  | [], _, [], _ :: _, _, rightFits, _ => rightFits.elim
  | _ :: _, _, [], _, leftFits, _, _ => leftFits.elim
  | _ :: _, _, _ :: _, [], _, rightFits, _ => rightFits.elim
  | (_, layout) :: fields, distinct, (leftName, left) :: lefts, (rightName, right) :: rights,
      leftFits, rightFits, same => by
      obtain ⟨rfl, leftHere, leftLater⟩ := leftFits
      obtain ⟨rfl, rightHere, rightLater⟩ := rightFits
      obtain ⟨here, later⟩ := List.cons.inj same
      rw [Fits.eq_of_normal_eq layout distinct.1 leftHere rightHere (Prod.mk.inj here).2,
        FitsFields.eq_of_normal_eq fields distinct.2 leftLater rightLater later]

end

/-! ## Common layouts -/

@[simp] theorem isScalar_str (text : String) : (str text).IsScalar := trivial

@[simp] theorem isScalar_bool (value : Bool) : (bool value).IsScalar := trivial

@[simp] theorem isScalar_optInt (value : Option Int) : (optInt value).IsScalar := by
  cases value <;> trivial

@[simp] theorem fits_strs (values : List String) : Fits (.list .scalar) (strs values) := by
  simp [strs, Fits]

end Json

/-- Values of one layout that a digest tells apart are equal when they have one digest. -/
theorem Digest.Tells.eq_of_fits {digest : Digest} {left right : Json}
    (tells : digest.Tells left right) {layout : Json.Layout} (distinct : Json.Distinct layout)
    (leftFits : Json.Fits layout left) (rightFits : Json.Fits layout right)
    (same : digest.hexdigest left = digest.hexdigest right) : left = right :=
  Json.Fits.eq_of_normal_eq layout distinct leftFits rightFits
    (Json.normal_eq_of_dumps_eq (leftFits.exact layout) (rightFits.exact layout) (tells same))

end Foundation
