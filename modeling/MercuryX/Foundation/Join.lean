import Mathlib.Data.Set.Lattice
import MercuryX.Foundation.Fallible

/-!
# Merges that are joins

A fallible merge keeps the kind that two values share and unites their contents. Where kind, tag
and content tell the values apart, the laws of a semilattice are those of the union of sets; only
the tag, which is taken from the left side, depends on the order. Lists whose items stand under
strictly increasing keys are merged item by item, and inherit the laws of their items.
-/

namespace Foundation

variable {Fault α σ τ γ : Type}

/-- Lists with the same images under one function have the same images under a coarser one. -/
theorem map_eq_map_of_coarser {fine : α → σ} {coarse : α → τ}
    (coarser : ∀ left right, fine left = fine right → coarse left = coarse right)
    {lefts rights : List α} (same : lefts.map fine = rights.map fine) :
    lefts.map coarse = rights.map coarse := by
  rw [← List.forall₂_eq_eq_eq, List.forall₂_map_left_iff, List.forall₂_map_right_iff] at same ⊢
  exact same.imp coarser

/-- Merging values of one kind unites their contents, and keeps the tag of the left side. -/
structure Joins (admits : α → Prop) (kind : α → σ) (tag : α → τ) (content : α → Set γ)
    (merge : α → α → Except Fault α) : Prop where
  /-- Values are told apart by kind, tag and content. -/
  ext : ∀ {left right}, admits left → admits right → kind left = kind right →
    tag left = tag right → content left = content right → left = right
  /-- Values of one kind are merged. -/
  join : ∀ {left right}, admits left → admits right → kind left = kind right →
    ∃ merged, merge left right = .ok merged ∧ admits merged ∧ kind merged = kind left ∧
      tag merged = tag left ∧ content merged = content left ∪ content right

namespace Joins

variable {admits : α → Prop} {kind : α → σ} {tag : α → τ} {content : α → Set γ}
  {merge : α → α → Except Fault α} {left right third : α}

/-- What two values are merged to is of their kind and contains both. -/
theorem spec (joins : Joins admits kind tag content merge) (leftAdmitted : admits left)
    (rightAdmitted : admits right) (same : kind left = kind right) {merged : α}
    (made : merge left right = .ok merged) :
    admits merged ∧ kind merged = kind left ∧ tag merged = tag left ∧
      content merged = content left ∪ content right := by
  obtain ⟨joined, found, properties⟩ := joins.join leftAdmitted rightAdmitted same
  obtain rfl := Except.ok.inj (found.symm.trans made)
  exact properties

/-- The order of two values matters exactly where their tags differ. -/
theorem comm_iff (joins : Joins admits kind tag content merge) (leftAdmitted : admits left)
    (rightAdmitted : admits right) (same : kind left = kind right) :
    (∃ merged, merge left right = .ok merged ∧ merge right left = .ok merged) ↔
      tag left = tag right := by
  obtain ⟨first, made, firstAdmitted, firstKind, firstTag, firstContent⟩ :=
    joins.join leftAdmitted rightAdmitted same
  obtain ⟨last, turned, lastAdmitted, lastKind, lastTag, lastContent⟩ :=
    joins.join rightAdmitted leftAdmitted same.symm
  constructor
  · rintro ⟨merged, isFirst, isLast⟩
    obtain rfl := Except.ok.inj (made.symm.trans isFirst)
    obtain rfl := Except.ok.inj (turned.symm.trans isLast)
    exact firstTag.symm.trans lastTag
  · intro tags
    have equal : first = last := by
      apply joins.ext firstAdmitted lastAdmitted
      · rw [firstKind, lastKind, same]
      · rw [firstTag, lastTag, tags]
      · rw [firstContent, lastContent, Set.union_comm]
    exact ⟨first, made, equal ▸ turned⟩

/-- Three values are merged to one value, whichever two are merged first. -/
theorem assoc (joins : Joins admits kind tag content merge) (leftAdmitted : admits left)
    (rightAdmitted : admits right) (thirdAdmitted : admits third) (same : kind left = kind right)
    (sameThird : kind right = kind third) :
    ∃ first last merged, merge left right = .ok first ∧ merge right third = .ok last ∧
      merge first third = .ok merged ∧ merge left last = .ok merged := by
  obtain ⟨first, made, firstAdmitted, firstKind, firstTag, firstContent⟩ :=
    joins.join leftAdmitted rightAdmitted same
  obtain ⟨last, later, lastAdmitted, lastKind, lastTag, lastContent⟩ :=
    joins.join rightAdmitted thirdAdmitted sameThird
  obtain ⟨merged, joined, mergedAdmitted, mergedKind, mergedTag, mergedContent⟩ :=
    joins.join firstAdmitted thirdAdmitted (firstKind.trans (same.trans sameThird))
  obtain ⟨found, grouped, foundAdmitted, foundKind, foundTag, foundContent⟩ :=
    joins.join leftAdmitted lastAdmitted (same.trans lastKind.symm)
  have equal : found = merged := by
    apply joins.ext foundAdmitted mergedAdmitted
    · rw [foundKind, mergedKind, firstKind]
    · rw [foundTag, mergedTag, firstTag]
    · rw [foundContent, mergedContent, lastContent, firstContent, Set.union_assoc]
  exact ⟨first, last, merged, made, later, joined, equal ▸ grouped⟩

/-- A value merged with itself stays as it is. -/
theorem idem (joins : Joins admits kind tag content merge) (leftAdmitted : admits left) :
    merge left left = .ok left := by
  obtain ⟨merged, made, mergedAdmitted, mergedKind, mergedTag, mergedContent⟩ :=
    joins.join leftAdmitted leftAdmitted rfl
  rw [Set.union_self] at mergedContent
  rw [made, joins.ext mergedAdmitted leftAdmitted mergedKind mergedTag mergedContent]

end Joins

/-! ## Lists under keys -/

section Keyed

variable {κ : Type} {key : α → κ} {content : α → Set γ} {items : List α}

/-- What the items of a list contain, with the keys of the items. -/
def keyedContent (key : α → κ) (content : α → Set γ) (items : List α) : Set (κ × γ) :=
  {entry | ∃ item ∈ items, key item = entry.1 ∧ entry.2 ∈ content item}

theorem keyedContent_cons (item : α) :
    keyedContent key content (item :: items) =
      Set.image (Prod.mk (key item)) (content item) ∪ keyedContent key content items := by
  ext ⟨index, part⟩
  simp [keyedContent, and_comm, eq_comm]

/-- What an item contains is what the list contains under its key. -/
theorem content_eq_of_nodup (distinct : (items.map key).Nodup) {item : α} (member : item ∈ items) :
    content item = {part | (key item, part) ∈ keyedContent key content items} := by
  ext part
  constructor
  · intro inside
    exact ⟨item, member, rfl, inside⟩
  · rintro ⟨found, present, same, inside⟩
    rwa [← List.inj_on_of_nodup_map distinct present member same]

variable {admits : α → Prop} {kind : α → σ} {merge : α → α → Except Fault α}
  {lefts rights : List α}

/-- Items that contain the same, each under its own key, are equal. -/
theorem Joins.keyed_ext (joins : Joins admits kind (fun _ => ()) content merge)
    (told : ∀ left right, kind left = kind right → key left = key right)
    (leftAdmitted : ∀ item ∈ lefts, admits item) (rightAdmitted : ∀ item ∈ rights, admits item)
    (leftDistinct : (lefts.map key).Nodup) (rightDistinct : (rights.map key).Nodup)
    (kinds : lefts.map kind = rights.map kind)
    (contents : keyedContent key content lefts = keyedContent key content rights) :
    lefts = rights := by
  have lengths : lefts.length = rights.length := by simpa using congrArg List.length kinds
  refine List.ext_getElem lengths fun index inLeft inRight => ?_
  have leftMember := List.getElem_mem inLeft
  have rightMember := List.getElem_mem inRight
  have sameKind : kind lefts[index] = kind rights[index] := by
    have images := List.getElem_of_eq kinds (by simpa using inLeft)
    simpa using images
  have leftContent : content lefts[index] = _ := content_eq_of_nodup leftDistinct leftMember
  have rightContent : content rights[index] = _ := content_eq_of_nodup rightDistinct rightMember
  apply joins.ext (leftAdmitted _ leftMember) (rightAdmitted _ rightMember) sameKind rfl
  rw [leftContent, rightContent, contents, told _ _ sameKind]

theorem Joins.keyed_join (joins : Joins admits kind (fun _ => ()) content merge)
    (told : ∀ left right, kind left = kind right → key left = key right)
    (leftAdmitted : ∀ item ∈ lefts, admits item) (rightAdmitted : ∀ item ∈ rights, admits item)
    (kinds : lefts.map kind = rights.map kind) :
    ∃ merged, ((lefts.zip rights).mapM fun pair => merge pair.1 pair.2) = .ok merged ∧
      (∀ item ∈ merged, admits item) ∧ merged.map kind = lefts.map kind ∧
      keyedContent key content merged =
        keyedContent key content lefts ∪ keyedContent key content rights := by
  induction lefts generalizing rights with
  | nil =>
      obtain rfl : rights = [] := by simpa using kinds.symm
      exact ⟨[], rfl, by simp, rfl, by simp⟩
  | cons left lefts induction =>
      obtain ⟨right, rights, rfl⟩ := List.exists_cons_of_ne_nil
        (show rights ≠ [] by rintro rfl; simp at kinds)
      obtain ⟨sameKind, sameKinds⟩ := List.cons.inj kinds
      obtain ⟨leftHere, leftsLater⟩ := List.forall_mem_cons.mp leftAdmitted
      obtain ⟨rightHere, rightsLater⟩ := List.forall_mem_cons.mp rightAdmitted
      obtain ⟨first, made, admitted, firstKind, -, firstContent⟩ :=
        joins.join leftHere rightHere sameKind
      obtain ⟨rest, restMade, restAdmitted, restKinds, restContent⟩ :=
        induction leftsLater rightsLater sameKinds
      refine ⟨first :: rest, ?_, List.forall_mem_cons.mpr ⟨admitted, restAdmitted⟩, ?_, ?_⟩
      · simp [List.mapM_cons, made, restMade]
      · rw [List.map_cons, List.map_cons, firstKind, restKinds]
      · rw [keyedContent_cons, keyedContent_cons, keyedContent_cons, restContent, firstContent,
          told _ _ firstKind, ← told _ _ sameKind, Set.image_union, Set.union_union_union_comm]

variable [LinearOrder κ]

/-- The items stand under strictly increasing keys, and are admitted. -/
structure KeyedList (key : α → κ) (admits : α → Prop) (items : List α) : Prop where
  /-- Keys increase. -/
  increasing : (items.map key).Pairwise (· < ·)
  /-- Items are admitted. -/
  admitted : ∀ item ∈ items, admits item

theorem KeyedList.nodup (keyed : KeyedList key admits items) : (items.map key).Nodup :=
  keyed.increasing.imp ne_of_lt

/-- Merging lists item by item is a join where merging their items is. -/
theorem Joins.keyed (joins : Joins admits kind (fun _ => ()) content merge)
    (told : ∀ left right, kind left = kind right → key left = key right) :
    Joins (KeyedList key admits) (List.map kind) (fun _ => ()) (keyedContent key content)
      fun lefts rights => (lefts.zip rights).mapM fun pair => merge pair.1 pair.2 where
  ext leftKeyed rightKeyed kinds _ contents :=
    joins.keyed_ext told leftKeyed.admitted rightKeyed.admitted leftKeyed.nodup rightKeyed.nodup
      kinds contents
  join leftKeyed rightKeyed kinds := by
    obtain ⟨merged, made, admitted, mergedKinds, mergedContent⟩ :=
      joins.keyed_join told leftKeyed.admitted rightKeyed.admitted kinds
    refine ⟨merged, made, ⟨?_, admitted⟩, mergedKinds, rfl, mergedContent⟩
    rw [map_eq_map_of_coarser told mergedKinds]
    exact leftKeyed.increasing

end Keyed

end Foundation
