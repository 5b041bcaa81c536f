import MercuryX.Foundation.Reading

/-!
# Reading compact text back

Compact text keeps the characters outside printable ASCII that canonical text escapes, and the
order in which the members of objects were written. Escaping those characters afterwards gives the
text that can be read back, so values without floats are told apart by their compact texts.
-/

namespace Foundation
namespace Json

/-- What is written for a character once the characters outside printable ASCII are escaped too. -/
def wide (c : Char) : List Char := if 0x7F ≤ c.toNat then escapeChar c else [c]

/-- The characters are those of ASCII that are left as they are. -/
def Narrow (text : List Char) : Prop := ∀ c ∈ text, c.toNat < 0x7F

instance (text : List Char) : Decidable (Narrow text) :=
  List.decidableBAll _ text

theorem flatMap_wide_of_narrow {text : List Char} (narrow : Narrow text) :
    text.flatMap wide = text := by
  induction text with
  | nil => rfl
  | cons c rest induction =>
      obtain ⟨here, later⟩ := List.forall_mem_cons.mp narrow
      rw [List.flatMap_cons, induction later, wide, if_neg (by omega), List.singleton_append]

/-! ## Characters and texts -/

theorem narrow_hex4 (code : Nat) : Narrow (hex4 code) := by
  have digits : ∀ value < 16, (hexDigit value).toNat < 0x7F := by decide
  rw [Narrow, hex4]
  simp only [List.forall_mem_cons]
  exact ⟨digits _ (Nat.mod_lt _ (by decide)), digits _ (Nat.mod_lt _ (by decide)),
    digits _ (Nat.mod_lt _ (by decide)), digits _ (Nat.mod_lt _ (by decide)), by simp⟩

theorem narrow_numeric {c : Char} (isNumeric : numeric c = true) : c.toNat < 0x7F := by
  simp only [numeric, Bool.or_eq_true, decide_eq_true_eq] at isNumeric
  rcases isNumeric with digit | rfl
  · have bound : c.toNat ≤ 57 := (Char.isDigit_iff_toNat.mp digit).2
    omega
  · decide

theorem narrow_escapeControl {c : Char} (narrow : c.toNat < 0x7F) : Narrow (escapeControl c) := by
  simp only [escapeControl]
  split_ifs with quoted backslash newline carriage tab backspace feed control
  · decide
  · decide
  · decide
  · decide
  · decide
  · decide
  · decide
  · have opened : Narrow [ '\\', 'u'] := by decide
    exact List.forall_mem_append.mpr ⟨opened, narrow_hex4 _⟩
  · simpa [Narrow] using narrow

/-- Both forms of a character of ASCII that is left as it is agree. -/
theorem escapeChar_eq_escapeControl {c : Char} (narrow : c.toNat < 0x7F) :
    escapeChar c = escapeControl c := by
  simp only [escapeChar, escapeControl]
  split_ifs
  all_goals first | rfl | omega

/-- Other characters are not escaped in compact text. -/
theorem escapeControl_eq_singleton {c : Char} (other : 0x7F ≤ c.toNat) :
    escapeControl c = [c] := by
  have apart (letter : Char) (small : letter.toNat < 0x7F) : (c == letter) = false := by
    rw [beq_eq_false_iff_ne]
    rintro rfl
    omega
  have notCode (code : Nat) (small : code < 0x7F) : (c.toNat == code) = false := by
    rw [beq_eq_false_iff_ne]
    omega
  have notControl : ¬ c.toNat < 0x20 := by omega
  simp [escapeControl, apart '"' (by decide), apart '\\' (by decide), apart '\n' (by decide),
    apart '\r' (by decide), apart '\t' (by decide), notCode 8 (by decide), notCode 12 (by decide),
    notControl]

/-- The escaped form of a character is what its form in compact text is widened to. -/
theorem escapeChar_eq_flatMap (c : Char) : escapeChar c = (escapeControl c).flatMap wide := by
  by_cases narrow : c.toNat < 0x7F
  · rw [flatMap_wide_of_narrow (narrow_escapeControl narrow), escapeChar_eq_escapeControl narrow]
  · rw [escapeControl_eq_singleton (by omega), List.flatMap_singleton, wide, if_pos (by omega)]

/-- A quoted text is what its compact form is widened to. -/
theorem quote_eq_flatMap (text : String) : quote text = (quoteControl text).flatMap wide := by
  have mark : Narrow [ '"'] := by decide
  have widened : (fun c => (escapeControl c).flatMap wide) = escapeChar :=
    funext fun c => (escapeChar_eq_flatMap c).symm
  simp only [quote, quoteControl, List.flatMap_append, flatMap_wide_of_narrow mark,
    ← List.flatMap_def, List.flatMap_assoc, widened]

theorem commas_flatMap (items : List (List Char)) :
    (commas items).flatMap wide = commas (items.map fun item => item.flatMap wide) := by
  have mark (item : List Char) : (',' :: item).flatMap wide = ',' :: item.flatMap wide := rfl
  cases items with
  | nil => rfl
  | cons item items =>
      rw [List.map_cons, commas_cons, commas_cons, List.flatMap_append, List.flatMap_assoc,
        List.flatMap_map]
      simp only [mark]

/-! ## Values -/

mutual

theorem text_eq_flatMap : (value : Json) → value.Exact → text value = (compact value).flatMap wide
  | .null, _ => rfl
  | .bool value, _ => by cases value <;> rfl
  | .int value, _ =>
      (flatMap_wide_of_narrow fun c member => narrow_numeric (numeric_toString value c member)).symm
  | .float _, exact => exact.elim
  | .str value, _ => quote_eq_flatMap value
  | .arr items, exact => by
      have opened : Narrow [ '['] := by decide
      have closed : Narrow [ ']'] := by decide
      rw [text, compact, textItems_eq_flatMap items exact, List.flatMap_append, List.flatMap_append,
        flatMap_wide_of_narrow opened, flatMap_wide_of_narrow closed, commas_flatMap]
  | .obj members, exact => by
      have opened : Narrow [ '{'] := by decide
      have closed : Narrow [ '}'] := by decide
      rw [text, compact, textMembers_eq_flatMap members exact, List.flatMap_append,
        List.flatMap_append, flatMap_wide_of_narrow opened, flatMap_wide_of_narrow closed,
        commas_flatMap]

theorem textItems_eq_flatMap : (items : List Json) → ExactItems items →
    textItems items = (compactItems items).map fun item => item.flatMap wide
  | [], _ => rfl
  | item :: items, exact => by
      rw [textItems, compactItems, text_eq_flatMap item exact.1,
        textItems_eq_flatMap items exact.2, List.map_cons]

theorem textMembers_eq_flatMap : (members : List (String × Json)) → ExactMembers members →
    textMembers members = (compactMembers members).map fun member => member.flatMap wide
  | [], _ => rfl
  | (name, value) :: members, exact => by
      have mark : Narrow [ ':'] := by decide
      rw [textMembers, compactMembers, text_eq_flatMap value exact.1,
        textMembers_eq_flatMap members exact.2, List.map_cons, List.flatMap_append,
        List.flatMap_append, flatMap_wide_of_narrow mark, quote_eq_flatMap]

end

/-- Values without floats that have one compact text are equal. -/
theorem eq_of_compact_eq {left right : Json} (leftExact : left.Exact) (rightExact : right.Exact)
    (same : compact left = compact right) : left = right := by
  have texts : text left ++ [] = text right ++ [] := by
    rw [text_eq_flatMap left leftExact, text_eq_flatMap right rightExact, same]
  exact (text_append_cancel left right leftExact rightExact closed_nil closed_nil texts).1

end Json
end Foundation
