import Mathlib.Data.List.DropRight
import Mathlib.Data.List.TakeWhile
import Mathlib.Data.String.Basic
import Mathlib.Tactic

/-!
# Text with Unicode whitespace

Stripping and blankness of text, with the whitespace of the Unicode standard rather than of ASCII.
A text is nonblank when stripping leaves something, and nonblankness survives concatenation.
-/

namespace Foundation
namespace Text

/-- The characters that stripping removes. -/
def isSpace (c : Char) : Bool :=
  let n := c.toNat
  (0x09 ≤ n && n ≤ 0x0D) || (0x1C ≤ n && n ≤ 0x20) || n == 0x85 || n == 0xA0 || n == 0x1680 ||
    (0x2000 ≤ n && n ≤ 0x200A) || n == 0x2028 || n == 0x2029 || n == 0x202F || n == 0x205F ||
    n == 0x3000

/-- Remove leading and trailing whitespace from a list of characters. -/
def stripChars (chars : List Char) : List Char :=
  ((chars.dropWhile isSpace).reverse.dropWhile isSpace).reverse

/-- Remove leading and trailing whitespace. -/
def strip (text : String) : String :=
  String.ofList (stripChars text.toList)

/-- Stripping leaves something. -/
def Nonblank (text : String) : Prop := strip text ≠ ""

private theorem dropWhile_ne_nil_iff {α : Type*} (p : α → Bool) (xs : List α) :
    xs.dropWhile p ≠ [] ↔ ∃ x ∈ xs, ¬ p x := by
  rw [ne_eq, List.dropWhile_eq_nil_iff]
  push Not
  rfl

theorem stripChars_ne_nil_iff (chars : List Char) :
    stripChars chars ≠ [] ↔ ∃ c ∈ chars, ¬ isSpace c := by
  rw [stripChars, ne_eq, List.reverse_eq_nil_iff, ← ne_eq, dropWhile_ne_nil_iff]
  constructor
  · rintro ⟨c, member, visible⟩
    exact ⟨c, (List.dropWhile_sublist isSpace).subset (List.mem_reverse.mp member), visible⟩
  · intro visible
    obtain ⟨head, tail, split⟩ :=
      List.exists_cons_of_ne_nil ((dropWhile_ne_nil_iff isSpace chars).mpr visible)
    refine ⟨head, by simp [split], ?_⟩
    have headVisible := List.head_dropWhile_not isSpace (l := chars) (by simp [split])
    simpa [split] using headVisible

theorem nonblank_iff (text : String) : Nonblank text ↔ ∃ c ∈ text.toList, ¬ isSpace c := by
  rw [← stripChars_ne_nil_iff, Nonblank, strip, ne_eq, ne_eq, not_iff_not]
  constructor
  · intro empty
    simpa using congrArg String.toList empty
  · intro empty
    simp [empty]

instance (text : String) : Decidable (Nonblank text) :=
  decidable_of_iff (text.toList.any fun c => !isSpace c) (by simp [nonblank_iff])

theorem nonblank_literal {first : Char} {rest : List Char} (visible : isSpace first = false) :
    Nonblank (String.ofList (first :: rest)) := by
  rw [nonblank_iff]
  exact ⟨first, by simp, by simp [visible]⟩

theorem nonblank_append_left {front : String} (visible : Nonblank front) (back : String) :
    Nonblank (front ++ back) := by
  rw [nonblank_iff] at visible ⊢
  obtain ⟨c, member, notSpace⟩ := visible
  exact ⟨c, by simp [member], notSpace⟩

theorem nonblank_append_right (front : String) {back : String} (visible : Nonblank back) :
    Nonblank (front ++ back) := by
  rw [nonblank_iff] at visible ⊢
  obtain ⟨c, member, notSpace⟩ := visible
  exact ⟨c, by simp [member], notSpace⟩

theorem nonblank_strip {text : String} (visible : Nonblank text) : Nonblank (strip text) := by
  rw [nonblank_iff]
  have kept : stripChars text.toList ≠ [] :=
    (stripChars_ne_nil_iff _).mpr ((nonblank_iff _).mp visible)
  have reversed : (text.toList.dropWhile isSpace).reverse.dropWhile isSpace ≠ [] := by
    simpa [stripChars] using kept
  refine ⟨((text.toList.dropWhile isSpace).reverse.dropWhile isSpace).head reversed, ?_, ?_⟩
  · simp [strip, stripChars]
  · simpa using List.head_dropWhile_not isSpace reversed

theorem stripChars_stripChars (chars : List Char) :
    stripChars (stripChars chars) = stripChars chars := by
  have front : (stripChars chars).dropWhile isSpace = stripChars chars := by
    rw [List.dropWhile_eq_self_iff]
    intro nonempty
    have kept : stripChars chars <+: chars.dropWhile isSpace :=
      List.rdropWhile_prefix isSpace (chars.dropWhile isSpace)
    have longer : 0 < (chars.dropWhile isSpace).length :=
      lt_of_lt_of_le nonempty kept.length_le
    have first : (stripChars chars)[0] = (chars.dropWhile isSpace)[0] := kept.getElem nonempty
    have visible := List.head_dropWhile_not isSpace (l := chars)
      (List.ne_nil_of_length_pos longer)
    rw [first]
    simpa [List.head_eq_getElem] using visible
  calc
    stripChars (stripChars chars) = (stripChars chars).rdropWhile isSpace := by
      rw [stripChars, front, List.rdropWhile]
    _ = stripChars chars := List.rdropWhile_idempotent isSpace (chars.dropWhile isSpace)

@[simp] theorem strip_strip (text : String) : strip (strip text) = strip text := by
  simp [strip, stripChars_stripChars]

theorem nonblank_of_stripped {text : String} {front rest : List Char}
    (stripped : strip text = text) (split : text.toList = front ++ rest) (given : rest ≠ []) :
    Nonblank (String.ofList rest) := by
  have whole : stripChars text.toList = front ++ rest := by
    rw [← split]
    simpa [strip] using congrArg String.toList stripped
  have nonempty : stripChars text.toList ≠ [] := by simp [whole, given]
  have visible : ¬ isSpace ((stripChars text.toList).getLast nonempty) :=
    List.rdropWhile_last_not isSpace (text.toList.dropWhile isSpace) nonempty
  have last : (stripChars text.toList).getLast nonempty = rest.getLast given := by
    simp only [whole, List.getLast_append_of_ne_nil _ given]
  rw [nonblank_iff]
  exact ⟨rest.getLast given, by simp, last ▸ visible⟩

theorem ne_empty_of_nonblank {text : String} (visible : Nonblank text) : text ≠ "" := by
  rintro rfl
  exact absurd visible (by decide)

/-- Text without whitespace is left alone. -/
theorem strip_of_visible {text : String} (visible : ∀ c ∈ text.toList, ¬ isSpace c) :
    strip text = text := by
  have kept (chars : List Char) (noSpace : ∀ c ∈ chars, ¬ isSpace c) :
      chars.dropWhile isSpace = chars :=
    List.dropWhile_eq_self_iff.mpr fun nonempty => noSpace _ (List.getElem_mem nonempty)
  rw [strip, stripChars, kept _ visible, kept _ (by simpa using visible), List.reverse_reverse,
    String.ofList_toList]

/-- Nonblank text with nothing to strip. -/
def Trimmed (text : String) : Prop := Nonblank text ∧ strip text = text

instance (text : String) : Decidable (Trimmed text) := inferInstanceAs (Decidable (_ ∧ _))

theorem Trimmed.nonblank {text : String} (trimmed : Trimmed text) : Nonblank text := trimmed.1

theorem Trimmed.strip_eq {text : String} (trimmed : Trimmed text) : strip text = text := trimmed.2

theorem isSpace_of_isDigit {c : Char} (digit : c.isDigit = true) : isSpace c = false := by
  simp only [Char.isDigit, Bool.and_eq_true, decide_eq_true_eq] at digit
  have low : 48 ≤ c.toNat := UInt32.le_iff_toNat_le.mp digit.1
  have high : c.toNat ≤ 57 := UInt32.le_iff_toNat_le.mp digit.2
  simp only [isSpace, Bool.or_eq_false_iff, Bool.and_eq_false_imp, decide_eq_true_eq,
    decide_eq_false_iff_not, beq_eq_false_iff_ne]
  omega

theorem nonblank_natRepr (value : Nat) : Nonblank value.repr := by
  obtain ⟨first, rest, split⟩ :=
    List.exists_cons_of_ne_nil (Nat.toDigits_ne_nil (n := value) (b := 10))
  have digit : first.isDigit :=
    Nat.isDigit_of_mem_toDigits (b := 10) (n := value) (by decide) (by decide) (by simp [split])
  rw [nonblank_iff, Nat.toList_repr, split]
  exact ⟨first, List.mem_cons_self, by simp [isSpace_of_isDigit digit]⟩

/-- A printed integer is nonblank. -/
theorem nonblank_toString_int (value : Int) : Nonblank (toString value) := by
  cases value with
  | ofNat value => exact nonblank_natRepr value
  | negSucc value => exact nonblank_append_left (by decide) _

theorem nonblank_intercalate {separator first : String} (visible : Nonblank first)
    (rest : List String) : Nonblank (separator.intercalate (first :: rest)) := by
  cases rest with
  | nil => simpa using visible
  | cons next rest =>
      rw [String.intercalate_cons_cons, String.append_assoc]
      exact nonblank_append_left visible _

example : strip "  a b\u3000" = "a b" := by decide

end Text
end Foundation
