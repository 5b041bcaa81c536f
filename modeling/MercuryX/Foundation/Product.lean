import Mathlib.Data.List.Forall2
import Mathlib.Tactic

/-!
# Products of lists

The product of a list of lists lists every choice of one element from each, the last position
varying fastest. Where each list is in strict order, the product is in strict lexicographic order.
-/

namespace Foundation

variable {α : Type*}

/-- Every choice of one element from each list, the last position varying fastest. -/
def product : List (List α) → List (List α)
  | [] => [[]]
  | options :: rest =>
      options.flatMap fun option => (product rest).map fun chosen => option :: chosen

theorem exists_of_forall₂ {β : Type*} {relates : α → β → Prop} {lefts : List α} {rights : List β}
    (matched : List.Forall₂ relates lefts rights) {left : α} (member : left ∈ lefts) :
    ∃ right ∈ rights, relates left right := by
  obtain ⟨index, bound, rfl⟩ := List.mem_iff_getElem.mp member
  have inside : index < rights.length := matched.length_eq ▸ bound
  exact ⟨rights[index], List.getElem_mem inside, matched.get bound inside⟩

/-- Where each element is related to something, there is a list that matches. -/
theorem exists_forall₂_of_forall_mem {β : Type*} {relates : α → β → Prop} {rights : List β}
    (related : ∀ right ∈ rights, ∃ left, relates left right) :
    ∃ lefts, List.Forall₂ relates lefts rights := by
  induction rights with
  | nil => exact ⟨[], .nil⟩
  | cons right rights induction =>
      obtain ⟨⟨left, first⟩, rest⟩ := List.forall_mem_cons.mp related
      obtain ⟨lefts, matched⟩ := induction rest
      exact ⟨left :: lefts, .cons first matched⟩

theorem pairwise_of_forall₂ {β : Type*} {relates : α → β → Prop} {before : α → α → Prop}
    {after : β → β → Prop} {lefts : List α} {rights : List β}
    (matched : List.Forall₂ relates lefts rights)
    (carries : ∀ {first second first' second'}, before first second → relates first first' →
      relates second second' → after first' second')
    (ordered : lefts.Pairwise before) : rights.Pairwise after := by
  induction matched with
  | nil => exact .nil
  | @cons left right lefts rights related matched induction =>
      obtain ⟨earlier, rest⟩ := List.pairwise_cons.mp ordered
      refine List.pairwise_cons.mpr ⟨fun other member => ?_, induction rest⟩
      obtain ⟨partner, inside, relatedOther⟩ :=
        @exists_of_forall₂ _ _ (flip relates) _ _ matched.flip _ member
      exact carries (earlier partner inside) related relatedOther

/-- A choice takes one element from each list. -/
theorem mem_product_iff {lists : List (List α)} {chosen : List α} :
    chosen ∈ product lists ↔
      List.Forall₂ (fun option options => option ∈ options) chosen lists := by
  induction lists generalizing chosen with
  | nil => simp [product]
  | cons options rest induction =>
      simp only [product, List.mem_flatMap, List.mem_map, induction, List.forall₂_cons_right_iff]
      constructor
      · rintro ⟨option, inside, tail, chosen, rfl⟩
        exact ⟨option, tail, inside, chosen, rfl⟩
      · rintro ⟨option, tail, inside, chosen, rfl⟩
        exact ⟨option, inside, tail, chosen, rfl⟩

theorem mem_product_iff_of {β : Type*} {admits : β → α → Prop} {indices : List β}
    {lists : List (List α)}
    (holds : List.Forall₂ (fun index options => ∀ option, option ∈ options ↔ admits index option)
      indices lists) {chosen : List α} :
    chosen ∈ product lists ↔
      List.Forall₂ (fun option index => admits index option) chosen indices := by
  rw [mem_product_iff]
  induction holds generalizing chosen with
  | nil => simp
  | cons first _ induction => simp only [List.forall₂_cons_right_iff, first, induction]

theorem product_eq_nil_of_mem {lists : List (List α)} (empty : [] ∈ lists) :
    product lists = [] := by
  induction lists with
  | nil => nomatch empty
  | cons options rest induction =>
      rcases List.mem_cons.mp empty with rfl | inside
      · rfl
      · simp [product, induction inside]

/-- The product of strictly ordered lists is in strict lexicographic order. -/
theorem product_pairwise {before : α → α → Prop} {lists : List (List α)}
    (ordered : ∀ options ∈ lists, options.Pairwise before) :
    (product lists).Pairwise (List.Lex before) := by
  induction lists with
  | nil => exact List.pairwise_singleton _ _
  | cons options rest induction =>
      rw [List.forall_mem_cons] at ordered
      rw [product, List.pairwise_flatMap]
      constructor
      · intro option _
        rw [List.pairwise_map]
        exact (induction ordered.2).imp fun later => .cons later
      · refine ordered.1.imp fun earlier left leftMember right rightMember => ?_
        obtain ⟨_, _, rfl⟩ := List.mem_map.mp leftMember
        obtain ⟨_, _, rfl⟩ := List.mem_map.mp rightMember
        exact .rel earlier

theorem product_ne_nil {lists : List (List α)} (given : [] ∉ lists) : product lists ≠ [] := by
  induction lists with
  | nil => exact List.cons_ne_nil _ _
  | cons options rest induction =>
      obtain ⟨first, later⟩ := not_or.mp (List.mem_cons.not.mp given)
      obtain ⟨option, _, isOptions⟩ := List.exists_cons_of_ne_nil (Ne.symm first)
      obtain ⟨chosen, _, isRest⟩ := List.exists_cons_of_ne_nil (induction later)
      simp [product, isOptions, isRest]

/-- The images of choices are the choices of images. -/
theorem product_map {β : Type*} (image : α → β) (lists : List (List α)) :
    product (lists.map (List.map image)) = (product lists).map (List.map image) := by
  induction lists with
  | nil => rfl
  | cons options rest induction =>
      simp only [List.map_cons, product, induction, List.flatMap_map, List.map_flatMap,
        List.map_map, Function.comp_def]

/-- Choices in lexicographic order of their images have different images. -/
theorem map_ne_of_lex {β : Type*} [LT β] [Std.Irrefl (α := β) (· < ·)] {image : α → β}
    {left right : List α}
    (earlier : List.Lex (fun first second => image first < image second) left right) :
    left.map image ≠ right.map image := by
  induction earlier with
  | nil => exact fun same => nomatch same
  | cons _ induction => exact fun same => induction (List.cons.inj same).2
  | rel before =>
      intro same
      rw [(List.cons.inj same).1] at before
      exact irrefl _ before

/-- A lexicographic order of choices is strict where the order of elements is. -/
theorem not_lex_self {before : α → α → Prop} (strict : ∀ option, ¬ before option option)
    (chosen : List α) : ¬ List.Lex before chosen chosen := by
  induction chosen with
  | nil => exact List.not_lex_nil
  | cons option rest induction =>
      intro earlier
      cases earlier with
      | cons later => exact induction later
      | rel first => exact strict option first

/-- Where a choice from each list exists, the product is in strict lexicographic order only if each
list is in strict order. -/
theorem product_pairwise_iff {before : α → α → Prop} (strict : ∀ option, ¬ before option option)
    {lists : List (List α)} :
    (product lists).Pairwise (List.Lex before) ↔
      [] ∈ lists ∨ ∀ options ∈ lists, options.Pairwise before := by
  constructor
  · rw [or_iff_not_imp_left]
    intro ordered given
    induction lists with
    | nil => exact List.forall_mem_nil _
    | cons options rest induction =>
        obtain ⟨first, later⟩ := not_or.mp (List.mem_cons.not.mp given)
        rw [product, List.pairwise_flatMap] at ordered
        refine List.forall_mem_cons.mpr ⟨?_, induction ?_ later⟩
        · obtain ⟨chosen, _, isRest⟩ := List.exists_cons_of_ne_nil (product_ne_nil later)
          have inRest : chosen ∈ product rest := isRest ▸ List.mem_cons_self
          refine ordered.2.imp fun apart => ?_
          cases apart _ (List.mem_map_of_mem inRest) _ (List.mem_map_of_mem inRest) with
          | cons same => exact absurd same (not_lex_self strict chosen)
          | rel earlier => exact earlier
        · obtain ⟨option, _, isOptions⟩ := List.exists_cons_of_ne_nil (Ne.symm first)
          have choices := ordered.1 option (isOptions ▸ List.mem_cons_self)
          rw [List.pairwise_map] at choices
          refine choices.imp fun earlier => ?_
          cases earlier with
          | cons later => exact later
          | rel same => exact absurd same (strict option)
  · rintro (empty | ordered)
    · rw [product_eq_nil_of_mem empty]
      exact .nil
    · exact product_pairwise ordered

end Foundation
