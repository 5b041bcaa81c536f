import MercuryX.Foundation.Canonical
import MercuryX.Foundation.Floats

/-!
# Canonical JSON

JSON values and their canonical text: sorted keys, no optional blanks, and every character outside
printable ASCII escaped. A float stands for the double nearest to it and has the shortest text that
reads back as that double.
-/

namespace Foundation

/-- A JSON value. -/
inductive Json where
  /-- The null value. -/
  | null
  /-- A truth value. -/
  | bool (value : Bool)
  /-- An integer. -/
  | int (value : Int)
  /-- A float, as a rational that is rounded to it. -/
  | float (value : ℚ)
  /-- A text. -/
  | str (value : String)
  /-- An array. -/
  | arr (items : List Json)
  /-- An object, with its members in the order they were written. -/
  | obj (members : List (String × Json))

namespace Json

/-- An optional text, null when absent. -/
def optStr : Option String → Json
  | none => .null
  | some value => .str value

/-- An optional float, null when absent. -/
def optFloat : Option ℚ → Json
  | none => .null
  | some value => .float value

/-- An optional integer, null when absent. -/
def optInt : Option Int → Json
  | none => .null
  | some value => .int value

/-- An array of texts. -/
def strs (values : List String) : Json := .arr (values.map .str)

theorem strs_injective : Function.Injective strs := fun _ _ same =>
  List.map_injective_iff.mpr (fun _ _ => Json.str.inj) (Json.arr.inj same)

/-- The lower-case hexadecimal digit of a value below sixteen. -/
def hexDigit (value : Nat) : Char :=
  if value < 10 then Char.ofNat (48 + value) else Char.ofNat (87 + value)

/-- The four hexadecimal digits of a 16-bit unit. -/
def hex4 (code : Nat) : List Char :=
  [hexDigit (code / 4096 % 16), hexDigit (code / 256 % 16), hexDigit (code / 16 % 16),
    hexDigit (code % 16)]

/-- The escaped form of one character; beyond the first plane, a surrogate pair. -/
def escapeChar (c : Char) : List Char :=
  let code := c.toNat
  if c == '"' then [ '\\', '"'] else
  if c == '\\' then [ '\\', '\\'] else
  if c == '\n' then [ '\\', 'n'] else
  if c == '\r' then [ '\\', 'r'] else
  if c == '\t' then [ '\\', 't'] else
  if code == 8 then [ '\\', 'b'] else
  if code == 12 then [ '\\', 'f'] else
  if 0x20 ≤ code ∧ code ≤ 0x7E then [c] else
  if code < 0x10000 then [ '\\', 'u'] ++ hex4 code else
    [ '\\', 'u'] ++ hex4 (0xD800 + (code - 0x10000) / 0x400) ++
      ([ '\\', 'u'] ++ hex4 (0xDC00 + (code - 0x10000) % 0x400))

/-- A quoted and escaped text. -/
def quote (text : String) : List Char :=
  [ '"'] ++ (text.toList.map escapeChar).flatten ++ [ '"']

/-- Texts joined by a comma. -/
def commas : List (List Char) → List Char
  | [] => []
  | [item] => item
  | item :: rest => item ++ [ ','] ++ commas rest

mutual

/-- The canonical text of a value. -/
def dumps : Json → List Char
  | .null => "null".toList
  | .bool value => (if value then "true" else "false").toList
  | .int value => (toString value).toList
  | .float value => floatText value
  | .str value => quote value
  | .arr items => [ '['] ++ commas (dumpsItems items) ++ [ ']']
  | .obj members =>
      let printed := sortOn Prod.fst (dumpsMembers members)
      [ '{'] ++ commas (printed.map fun member => quote member.1 ++ [ ':'] ++ member.2) ++ [ '}']

/-- The canonical texts of the items of an array. -/
def dumpsItems : List Json → List (List Char)
  | [] => []
  | item :: items => dumps item :: dumpsItems items

/-- The member names of an object with the canonical texts of their values. -/
def dumpsMembers : List (String × Json) → List (String × List Char)
  | [] => []
  | (name, value) :: members => (name, dumps value) :: dumpsMembers members

end

/-- The escaped form of one character where only quotes, backslashes and control characters are
escaped. -/
def escapeControl (c : Char) : List Char :=
  let code := c.toNat
  if c == '"' then [ '\\', '"'] else
  if c == '\\' then [ '\\', '\\'] else
  if c == '\n' then [ '\\', 'n'] else
  if c == '\r' then [ '\\', 'r'] else
  if c == '\t' then [ '\\', 't'] else
  if code == 8 then [ '\\', 'b'] else
  if code == 12 then [ '\\', 'f'] else
  if code < 0x20 then [ '\\', 'u'] ++ hex4 code else [c]

/-- A quoted text with only quotes, backslashes and control characters escaped. -/
def quoteControl (text : String) : List Char :=
  [ '"'] ++ (text.toList.map escapeControl).flatten ++ [ '"']

mutual

/-- The compact text of a value, with the members of objects in the order they were written. -/
def compact : Json → List Char
  | .null => "null".toList
  | .bool value => (if value then "true" else "false").toList
  | .int value => (toString value).toList
  | .float value => floatText value
  | .str value => quoteControl value
  | .arr items => [ '['] ++ commas (compactItems items) ++ [ ']']
  | .obj members => [ '{'] ++ commas (compactMembers members) ++ [ '}']

/-- The compact texts of the items of an array. -/
def compactItems : List Json → List (List Char)
  | [] => []
  | item :: items => compact item :: compactItems items

/-- The compact texts of the members of an object. -/
def compactMembers : List (String × Json) → List (List Char)
  | [] => []
  | (name, value) :: members =>
      (quoteControl name ++ [ ':'] ++ compact value) :: compactMembers members

end

example : String.ofList (dumps (.obj [("b", .arr [.int (-3), .null]), ("a", .str "é\n")])) =
    "\x7b\"a\":\"\\u00e9\\n\",\"b\":[-3,null]\x7d" := by decide

/-! ## Equality -/

mutual

/-- Whether two values are the same. -/
def same : Json → Json → Bool
  | .null, .null => true
  | .bool left, .bool right => left = right
  | .int left, .int right => left = right
  | .float left, .float right => left = right
  | .str left, .str right => left = right
  | .arr left, .arr right => sameItems left right
  | .obj left, .obj right => sameMembers left right
  | _, _ => false

/-- Whether two arrays have the same items. -/
def sameItems : List Json → List Json → Bool
  | [], [] => true
  | left :: lefts, right :: rights => same left right && sameItems lefts rights
  | _, _ => false

/-- Whether two objects have the same members in the same order. -/
def sameMembers : List (String × Json) → List (String × Json) → Bool
  | [], [] => true
  | (leftName, left) :: lefts, (rightName, right) :: rights =>
      leftName = rightName && same left right && sameMembers lefts rights
  | _, _ => false

end

mutual

theorem same_iff : (left right : Json) → (same left right = true ↔ left = right)
  | .null, right => by cases right <;> simp [same]
  | .bool _, right => by cases right <;> simp [same]
  | .int _, right => by cases right <;> simp [same]
  | .float _, right => by cases right <;> simp [same]
  | .str _, right => by cases right <;> simp [same]
  | .arr items, right => by cases right <;> simp [same, sameItems_iff items]
  | .obj members, right => by cases right <;> simp [same, sameMembers_iff members]

theorem sameItems_iff : (lefts rights : List Json) →
    (sameItems lefts rights = true ↔ lefts = rights)
  | [], rights => by cases rights <;> simp [sameItems]
  | left :: lefts, rights => by
      cases rights <;> simp [sameItems, same_iff left, sameItems_iff lefts]

theorem sameMembers_iff : (lefts rights : List (String × Json)) →
    (sameMembers lefts rights = true ↔ lefts = rights)
  | [], rights => by cases rights <;> simp [sameMembers]
  | (name, left) :: lefts, rights => by
      cases rights with
      | nil => simp [sameMembers]
      | cons right rights =>
          obtain ⟨rightName, right⟩ := right
          simp [sameMembers, same_iff left, sameMembers_iff lefts, and_assoc]

end

instance : DecidableEq Json := fun left right =>
  decidable_of_iff (same left right = true) (same_iff left right)

/-! ## The length of canonical texts -/

theorem length_escapeChar_le (c : Char) : (escapeChar c).length ≤ 12 := by
  simp only [escapeChar]
  split_ifs <;> simp [hex4]

theorem length_quote_le (text : String) : (quote text).length ≤ 12 * text.toList.length + 2 := by
  have escaped := List.sum_le_card_nsmul ((text.toList.map escapeChar).map List.length) 12 (by
    simp only [List.map_map, List.mem_map, Function.comp]
    rintro _ ⟨c, _, rfl⟩
    exact length_escapeChar_le c)
  simp only [List.length_map, smul_eq_mul] at escaped
  simp only [quote, List.length_append, List.length_singleton, List.length_flatten]
  omega

theorem length_commas_le (items : List (List Char)) :
    (commas items).length ≤ (items.map fun item => item.length + 1).sum := by
  induction items with
  | nil => exact Nat.le_refl 0
  | cons item items induction =>
      cases items with
      | nil => simp [commas]
      | cons next rest =>
          simp only [commas, List.length_append, List.length_singleton, List.map_cons,
            List.sum_cons] at induction ⊢
          omega

/-- The text of an object is no longer than its members in any order. -/
theorem length_dumps_obj_le (members : List (String × Json)) :
    (dumps (.obj members)).length ≤
      2 + ((dumpsMembers members).map fun member =>
        (quote member.1).length + member.2.length + 2).sum := by
  have printed := length_commas_le ((sortOn Prod.fst (dumpsMembers members)).map fun member =>
    quote member.1 ++ [ ':'] ++ member.2)
  have perm := ((sortOn_perm Prod.fst (dumpsMembers members)).map fun member =>
    (quote member.1).length + member.2.length + 2).sum_eq
  rw [← perm]
  simp only [List.map_map] at printed
  simp only [dumps, List.length_append, List.length_singleton]
  refine (Nat.add_le_add_right (Nat.add_le_add_left printed 1) 1).trans (le_of_eq ?_)
  have same (member : String × List Char) :
      (quote member.1 ++ [ ':'] ++ member.2).length + 1 =
        (quote member.1).length + member.2.length + 2 := by
    simp only [List.length_append, List.length_singleton]
    omega
  simp only [Function.comp_def, same]
  omega

end Json
end Foundation
