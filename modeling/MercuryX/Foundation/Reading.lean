import MercuryX.Foundation.Digest

/-!
# Reading canonical text back

The canonical text of a value without floats says which value it is the text of, up to the order in
which the members of an object were written. So a digest that keeps canonical texts apart keeps
such values apart. Joined texts say less: only the pieces between the separators can be read back.
-/

namespace Foundation
namespace Json

/-! ## Characters -/

/-- The value of a lower-case hexadecimal digit. -/
def hexValue (c : Char) : Nat := if c.toNat < 97 then c.toNat - 48 else c.toNat - 87

/-- The number that hexadecimal digits write. -/
def readHex (digits : List Char) : Nat := digits.foldl (fun value c => 16 * value + hexValue c) 0

theorem hexValue_hexDigit {value : Nat} (small : value < 16) :
    hexValue (hexDigit value) = value := by
  interval_cases value <;> rfl

theorem readHex_hex4 {code : Nat} (small : code < 0x10000) : readHex (hex4 code) = code := by
  simp only [hex4, readHex, List.foldl_cons, List.foldl_nil,
    hexValue_hexDigit (Nat.mod_lt _ (by decide : 0 < 16))]
  omega

/-- The character that a letter after a backslash stands for. -/
def unescape (c : Char) : Char :=
  if c = 'n' then '\n' else
  if c = 'r' then '\r' else
  if c = 't' then '\t' else
  if c = 'b' then Char.ofNat 8 else
  if c = 'f' then Char.ofNat 12 else c

/-- Read the first character of an escaped text. -/
def readChar : List Char → Option (Char × List Char)
  | '\\' :: 'u' :: a :: b :: c :: d :: rest =>
      let code := readHex [a, b, c, d]
      if 0xD800 ≤ code ∧ code < 0xDC00 then
        match rest with
        | '\\' :: 'u' :: e :: f :: g :: h :: rest =>
            some (Char.ofNat (0x10000 + (code - 0xD800) * 0x400 +
              (readHex [e, f, g, h] - 0xDC00)), rest)
        | _ => none
      else some (Char.ofNat code, rest)
  | '\\' :: c :: rest => some (unescape c, rest)
  | c :: rest => some (c, rest)
  | [] => none

theorem readChar_escapeChar (c : Char) (rest : List Char) :
    readChar (escapeChar c ++ rest) = some (c, rest) := by
  have valid : c.toNat < 0xD800 ∨ 0xDFFF < c.toNat ∧ c.toNat < 0x110000 := c.valid
  have same : Char.ofNat c.toNat = c := Char.ofNat_toNat c
  have control {code : Nat} (isCode : c.toNat = code) : Char.ofNat code = c := isCode ▸ same
  simp only [escapeChar, beq_iff_eq]
  split_ifs with quoted backslash newline carriage tab backspace feed printable plane
  · simp [readChar, unescape, quoted]
  · simp [readChar, unescape, backslash]
  · simp [readChar, unescape, newline]
  · simp [readChar, unescape, carriage]
  · simp [readChar, unescape, tab]
  · simpa [readChar, unescape] using control backspace
  · simpa [readChar, unescape] using control feed
  · simp [readChar, backslash]
  · have code := readHex_hex4 plane
    simp only [hex4] at code ⊢
    simp only [List.cons_append, List.nil_append, readChar, code]
    rw [if_neg (by omega), same]
  · -- beyond the first plane the two units of a surrogate pair are read
    have high : 0xD800 + (c.toNat - 0x10000) / 0x400 < 0x10000 := by omega
    have low : 0xDC00 + (c.toNat - 0x10000) % 0x400 < 0x10000 := by omega
    have highCode := readHex_hex4 high
    have lowCode := readHex_hex4 low
    simp only [hex4] at highCode lowCode ⊢
    simp only [List.cons_append, List.nil_append, readChar, highCode, lowCode]
    rw [if_pos (by omega)]
    have sum : 0x10000 + (0xD800 + (c.toNat - 0x10000) / 0x400 - 0xD800) * 0x400 +
        (0xDC00 + (c.toNat - 0x10000) % 0x400 - 0xDC00) = c.toNat := by omega
    rw [sum, same]

theorem escapeChar_append_cancel {left right : Char} {s t : List Char}
    (same : escapeChar left ++ s = escapeChar right ++ t) : left = right ∧ s = t := by
  have read := congrArg readChar same
  rw [readChar_escapeChar, readChar_escapeChar] at read
  exact Prod.mk.inj (Option.some_inj.mp read)

theorem quoted_ne_escaped (c : Char) (s t : List Char) : '"' :: s ≠ escapeChar c ++ t := by
  intro same
  have read := congrArg readChar same
  rw [readChar_escapeChar] at read
  obtain rfl : '"' = c := (Prod.mk.inj (Option.some_inj.mp read)).1
  simp [escapeChar] at same

/-! ## Texts and integers -/

theorem escaped_append_cancel {lefts rights s t : List Char}
    (same : (lefts.map escapeChar).flatten ++ '"' :: s =
      (rights.map escapeChar).flatten ++ '"' :: t) : lefts = rights ∧ s = t := by
  induction lefts generalizing rights with
  | nil =>
      cases rights with
      | nil => exact ⟨rfl, (List.cons.inj same).2⟩
      | cons right rights =>
          simp only [List.map_cons, List.flatten_cons, List.append_assoc] at same
          exact absurd same (quoted_ne_escaped right _ _)
  | cons left lefts induction =>
      cases rights with
      | nil =>
          simp only [List.map_cons, List.flatten_cons, List.append_assoc] at same
          exact absurd same.symm (quoted_ne_escaped left _ _)
      | cons right rights =>
          simp only [List.map_cons, List.flatten_cons, List.append_assoc] at same
          obtain ⟨rfl, rest⟩ := escapeChar_append_cancel same
          obtain ⟨rfl, rfl⟩ := induction rest
          exact ⟨rfl, rfl⟩

/-- A quoted text ends where its closing quote stands. -/
theorem quote_append_cancel {left right : String} {s t : List Char}
    (same : quote left ++ s = quote right ++ t) : left = right ∧ s = t := by
  simp only [quote, List.append_assoc, List.cons_append, List.nil_append, List.cons.injEq,
    true_and] at same
  obtain ⟨texts, rest⟩ := escaped_append_cancel same
  exact ⟨String.toList_injective texts, rest⟩

/-- The characters of an integer. -/
def numeric (c : Char) : Bool := c.isDigit || c = '-'

/-- The text does not go on with a character of an integer. -/
def Closed (rest : List Char) : Prop := ∀ c ∈ rest.head?, numeric c = false

theorem closed_nil : Closed [] := by simp [Closed]

theorem closed_cons {c : Char} (stops : numeric c = false) (rest : List Char) :
    Closed (c :: rest) := by
  simpa [Closed] using stops

theorem takeWhile_closed {digits rest : List Char} (inside : ∀ c ∈ digits, numeric c = true)
    (closed : Closed rest) : (digits ++ rest).takeWhile numeric = digits := by
  rw [List.takeWhile_append_of_pos inside]
  cases rest with
  | nil => simp
  | cons c rest => simp [closed c rfl]

theorem repr_injective {left right : Nat} (same : left.repr = right.repr) : left = right := by
  have digits : Nat.toDigits 10 left = Nat.toDigits 10 right := by
    rw [← Nat.toList_repr, ← Nat.toList_repr, same]
  rw [← Nat.ofDigitChars_ten_toDigits (n := left), digits, Nat.ofDigitChars_ten_toDigits]

theorem numeric_toString (value : Int) : ∀ c ∈ (toString value).toList, numeric c = true := by
  have digits (value : Nat) : ∀ c ∈ value.repr.toList, numeric c = true := by
    intro c member
    rw [Nat.toList_repr] at member
    simp [numeric, Nat.isDigit_of_mem_toDigits (by decide) (by decide) member]
  rw [Int.toString_eq_repr, Int.repr_eq_if]
  split
  · exact digits _
  · intro c member
    rw [String.toList_append, List.mem_append] at member
    rcases member with sign | member
    · simp_all [numeric]
    · exact digits _ c member

theorem toString_injective {left right : Int} (same : toString left = toString right) :
    left = right := by
  have signless (value : Nat) (back : String) : value.repr ≠ "-" ++ back := by
    intro same
    have member : '-' ∈ value.repr.toList := by simp [same]
    rw [Nat.toList_repr] at member
    exact absurd (Nat.isDigit_of_mem_toDigits (by decide) (by decide) member) (by decide)
  rw [Int.toString_eq_repr, Int.toString_eq_repr, Int.repr_eq_if, Int.repr_eq_if] at same
  split_ifs at same with leftSign rightSign rightSign
  · have sizes := repr_injective same
    omega
  · exact absurd same (signless _ _)
  · exact absurd same.symm (signless _ _)
  · have sizes := repr_injective (String.append_right_inj "-" |>.mp same)
    omega

/-- An integer ends where no further character of an integer stands. -/
theorem toString_append_cancel {left right : Int} {s t : List Char} (closedLeft : Closed s)
    (closedRight : Closed t) (same : (toString left).toList ++ s = (toString right).toList ++ t) :
    left = right ∧ s = t := by
  have digits : (toString left).toList = (toString right).toList := by
    rw [← takeWhile_closed (numeric_toString left) closedLeft, same,
      takeWhile_closed (numeric_toString right) closedRight]
  rw [digits] at same
  exact ⟨toString_injective (String.toList_injective digits), List.append_cancel_left same⟩

/-! ## Values -/

mutual

/-- No float occurs in the value. -/
def Exact : Json → Prop
  | .float _ => False
  | .arr items => ExactItems items
  | .obj members => ExactMembers members
  | _ => True

/-- No float occurs in the items. -/
def ExactItems : List Json → Prop
  | [] => True
  | item :: items => Exact item ∧ ExactItems items

/-- No float occurs in the members. -/
def ExactMembers : List (String × Json) → Prop
  | [] => True
  | (_, value) :: members => Exact value ∧ ExactMembers members

end

mutual

/-- The text of a value, with the members of objects in the order they were written. -/
def text : Json → List Char
  | .null => "null".toList
  | .bool value => (if value then "true" else "false").toList
  | .int value => (toString value).toList
  | .float value => floatText value
  | .str value => quote value
  | .arr items => [ '['] ++ commas (textItems items) ++ [ ']']
  | .obj members => [ '{'] ++ commas (textMembers members) ++ [ '}']

/-- The texts of the items of an array. -/
def textItems : List Json → List (List Char)
  | [] => []
  | item :: items => text item :: textItems items

/-- The texts of the members of an object. -/
def textMembers : List (String × Json) → List (List Char)
  | [] => []
  | (name, value) :: members => (quote name ++ [ ':'] ++ text value) :: textMembers members

end

/-- What kind of value starts with a character. -/
def token (c : Char) : Nat :=
  if c = 'n' then 0 else
  if c = 't' ∨ c = 'f' then 1 else
  if c = '"' then 2 else
  if c = '[' then 3 else
  if c = '{' then 4 else
  if numeric c then 5 else 6

/-- The kind of a value. -/
def kind : Json → Nat
  | .null => 0
  | .bool _ => 1
  | .str _ => 2
  | .arr _ => 3
  | .obj _ => 4
  | .int _ => 5
  | .float _ => 5

theorem token_of_numeric {c : Char} (isNumeric : numeric c = true) : token c = 5 := by
  have other {letter : Char} (stops : numeric letter = false) : c ≠ letter := by
    rintro rfl
    rw [stops] at isNumeric
    contradiction
  have letters : c ≠ 'n' ∧ (c ≠ 't' ∧ c ≠ 'f') ∧ c ≠ '"' ∧ c ≠ '[' ∧ c ≠ '{' :=
    ⟨other rfl, ⟨other rfl, other rfl⟩, other rfl, other rfl, other rfl⟩
  simp [token, letters, isNumeric]

theorem toString_ne_nil (value : Int) : (toString value).toList ≠ [] := by
  have digits (value : Nat) : value.repr.toList ≠ [] := by
    rw [Nat.toList_repr]
    exact Nat.toDigits_ne_nil
  rw [Int.toString_eq_repr, Int.repr_eq_if]
  split
  · exact digits _
  · simp

theorem exists_text_eq_cons (value : Json) (exact : value.Exact) :
    ∃ first rest, text value = first :: rest ∧ token first = value.kind := by
  cases value with
  | null => exact ⟨'n', _, rfl, rfl⟩
  | bool value =>
      cases value
      · exact ⟨'f', _, rfl, rfl⟩
      · exact ⟨'t', _, rfl, rfl⟩
  | float value => exact exact.elim
  | str value => exact ⟨'"', _, rfl, rfl⟩
  | arr items => exact ⟨'[', _, rfl, rfl⟩
  | obj members => exact ⟨'{', _, rfl, rfl⟩
  | int value =>
      obtain ⟨first, rest, digits⟩ := List.exists_cons_of_ne_nil (toString_ne_nil value)
      refine ⟨first, rest, digits, token_of_numeric (numeric_toString value first ?_)⟩
      rw [digits]
      exact List.mem_cons_self

/-- Values whose texts begin alike are of one kind. -/
theorem kind_eq_of_text {left right : Json} (leftExact : left.Exact) (rightExact : right.Exact)
    {s t : List Char} (same : text left ++ s = text right ++ t) : left.kind = right.kind := by
  obtain ⟨leftFirst, leftRest, leftText, leftToken⟩ := exists_text_eq_cons left leftExact
  obtain ⟨rightFirst, rightRest, rightText, rightToken⟩ := exists_text_eq_cons right rightExact
  rw [leftText, rightText] at same
  rw [← leftToken, ← rightToken, (List.cons.inj same).1]

theorem commas_cons (item : List Char) (items : List (List Char)) :
    commas (item :: items) = item ++ items.flatMap fun next => ',' :: next := by
  induction items generalizing item with
  | nil => simp [commas]
  | cons next items induction => simp [commas, induction]

theorem closed_tail (items : List (List Char)) {c : Char} (stops : numeric c = false)
    (rest : List Char) : Closed ((items.flatMap fun next => ',' :: next) ++ c :: rest) := by
  cases items with
  | nil => exact closed_cons stops rest
  | cons item items => exact closed_cons rfl _

/-- The text starts with a character other than the given one. -/
def StartsApart (c : Char) (item : List Char) : Prop :=
  ∃ first rest, item = first :: rest ∧ first ≠ c

/-- A list of texts between brackets can be read with a comma before every text. -/
theorem tail_eq_of_commas {lefts rights : List (List Char)} {c : Char} {s t : List Char}
    (leftApart : ∀ item ∈ lefts, StartsApart c item)
    (rightApart : ∀ item ∈ rights, StartsApart c item)
    (same : commas lefts ++ c :: s = commas rights ++ c :: t) :
    (lefts.flatMap fun next => ',' :: next) ++ c :: s =
      (rights.flatMap fun next => ',' :: next) ++ c :: t := by
  cases lefts with
  | nil =>
      cases rights with
      | nil => exact same
      | cons right rights =>
          obtain ⟨first, rest, rfl, apart⟩ := rightApart right List.mem_cons_self
          rw [commas_cons] at same
          exact absurd (List.cons.inj same).1.symm apart
  | cons left lefts =>
      cases rights with
      | nil =>
          obtain ⟨first, rest, rfl, apart⟩ := leftApart left List.mem_cons_self
          rw [commas_cons] at same
          exact absurd (List.cons.inj same).1 apart
      | cons right rights =>
          rw [commas_cons, commas_cons] at same
          simpa using congrArg (',' :: ·) same

theorem startsApart_textItems {items : List Json} (exact : ExactItems items) :
    ∀ item ∈ textItems items, StartsApart ']' item := by
  induction items with
  | nil => simp [textItems]
  | cons item items induction =>
      refine List.forall_mem_cons.mpr ⟨?_, induction exact.2⟩
      obtain ⟨first, rest, isText, isToken⟩ := exists_text_eq_cons item exact.1
      refine ⟨first, rest, isText, ?_⟩
      rintro rfl
      have closing : token ']' = 6 := by decide
      rw [closing] at isToken
      cases item <;> simp [kind] at isToken

theorem startsApart_textMembers (members : List (String × Json)) :
    ∀ member ∈ textMembers members, StartsApart '}' member := by
  induction members with
  | nil => simp [textMembers]
  | cons member members induction =>
      exact List.forall_mem_cons.mpr ⟨⟨'"', _, rfl, by decide⟩, induction⟩

mutual

/-- Where the text of a value ends and which value it is the text of can be read off any text that
goes on after it. -/
theorem text_append_cancel : (left right : Json) → left.Exact → right.Exact →
    {s t : List Char} → Closed s → Closed t → text left ++ s = text right ++ t →
      left = right ∧ s = t
  | .null, right, leftExact, rightExact, s, t, _, _, same => by
      have kinds := kind_eq_of_text leftExact rightExact same
      cases right <;> simp [kind] at kinds
      exact ⟨rfl, List.append_cancel_left same⟩
  | .bool left, right, leftExact, rightExact, s, t, _, _, same => by
      have kinds := kind_eq_of_text leftExact rightExact same
      cases right <;> simp [kind] at kinds
      case bool right =>
        cases left <;> cases right <;> simp_all [text]
  | .int left, right, leftExact, rightExact, s, t, closedLeft, closedRight, same => by
      have kinds := kind_eq_of_text leftExact rightExact same
      cases right <;> simp [kind] at kinds
      case int right =>
        obtain ⟨rfl, rest⟩ := toString_append_cancel closedLeft closedRight same
        exact ⟨rfl, rest⟩
      case float right => exact rightExact.elim
  | .float _, _, leftExact, _, _, _, _, _, _ => leftExact.elim
  | .str left, right, leftExact, rightExact, s, t, _, _, same => by
      have kinds := kind_eq_of_text leftExact rightExact same
      cases right <;> simp [kind] at kinds
      case str right =>
        obtain ⟨rfl, rest⟩ := quote_append_cancel same
        exact ⟨rfl, rest⟩
  | .arr lefts, right, leftExact, rightExact, s, t, _, _, same => by
      have kinds := kind_eq_of_text leftExact rightExact same
      cases right <;> simp [kind] at kinds
      case arr rights =>
        simp only [text, List.append_assoc, List.cons_append, List.nil_append, List.cons.injEq,
          true_and] at same
        obtain ⟨rfl, rest⟩ := items_append_cancel lefts rights leftExact rightExact
          (tail_eq_of_commas (startsApart_textItems leftExact)
            (startsApart_textItems rightExact) same)
        exact ⟨rfl, rest⟩
  | .obj lefts, right, leftExact, rightExact, s, t, _, _, same => by
      have kinds := kind_eq_of_text leftExact rightExact same
      cases right <;> simp [kind] at kinds
      case obj rights =>
        simp only [text, List.append_assoc, List.cons_append, List.nil_append, List.cons.injEq,
          true_and] at same
        obtain ⟨rfl, rest⟩ := members_append_cancel lefts rights leftExact rightExact
          (tail_eq_of_commas (startsApart_textMembers lefts) (startsApart_textMembers rights) same)
        exact ⟨rfl, rest⟩

/-- The items of an array can be read off the rest of its text. -/
theorem items_append_cancel : (lefts rights : List Json) → ExactItems lefts →
    ExactItems rights → {s t : List Char} →
      ((textItems lefts).flatMap fun next => ',' :: next) ++ ']' :: s =
        ((textItems rights).flatMap fun next => ',' :: next) ++ ']' :: t →
      lefts = rights ∧ s = t
  | [], [], _, _, _, _, same => ⟨rfl, (List.cons.inj same).2⟩
  | [], _ :: _, _, _, _, _, same => by simp [textItems] at same
  | _ :: _, [], _, _, _, _, same => by simp [textItems] at same
  | left :: lefts, right :: rights, leftExact, rightExact, s, t, same => by
      simp only [textItems, List.flatMap_cons, List.cons_append, List.append_assoc,
        List.cons.injEq, true_and] at same
      obtain ⟨rfl, rest⟩ := text_append_cancel left right leftExact.1 rightExact.1
        (closed_tail _ rfl _) (closed_tail _ rfl _) same
      obtain ⟨rfl, rfl⟩ := items_append_cancel lefts rights leftExact.2 rightExact.2 rest
      exact ⟨rfl, rfl⟩

/-- The members of an object can be read off the rest of its text. -/
theorem members_append_cancel : (lefts rights : List (String × Json)) → ExactMembers lefts →
    ExactMembers rights → {s t : List Char} →
      ((textMembers lefts).flatMap fun next => ',' :: next) ++ '}' :: s =
        ((textMembers rights).flatMap fun next => ',' :: next) ++ '}' :: t →
      lefts = rights ∧ s = t
  | [], [], _, _, _, _, same => ⟨rfl, (List.cons.inj same).2⟩
  | [], (_, _) :: _, _, _, _, _, same => by simp [textMembers] at same
  | (_, _) :: _, [], _, _, _, _, same => by simp [textMembers] at same
  | (leftName, left) :: lefts, (rightName, right) :: rights, leftExact, rightExact, s, t, same => by
      simp only [textMembers, List.flatMap_cons, List.cons_append, List.append_assoc,
        List.nil_append, List.cons.injEq, true_and] at same
      obtain ⟨rfl, values⟩ := quote_append_cancel same
      obtain ⟨rfl, rest⟩ := text_append_cancel left right leftExact.1 rightExact.1
        (closed_tail _ rfl _) (closed_tail _ rfl _) (List.cons.inj values).2
      obtain ⟨rfl, rfl⟩ := members_append_cancel lefts rights leftExact.2 rightExact.2 rest
      exact ⟨rfl, rfl⟩

end

/-! ## Canonical text -/

mutual

/-- The value with the members of its objects in the order of their names. -/
def normal : Json → Json
  | .arr items => .arr (normalItems items)
  | .obj members => .obj (sortOn Prod.fst (normalMembers members))
  | value => value

/-- The items in normal form. -/
def normalItems : List Json → List Json
  | [] => []
  | item :: items => normal item :: normalItems items

/-- The values of the members in normal form. -/
def normalMembers : List (String × Json) → List (String × Json)
  | [] => []
  | (name, value) :: members => (name, normal value) :: normalMembers members

end

theorem textMembers_eq_map (members : List (String × Json)) : textMembers members =
    members.map fun member => quote member.1 ++ [ ':'] ++ text member.2 := by
  induction members with
  | nil => rfl
  | cons member members induction => rw [textMembers, induction, List.map_cons]

mutual

theorem dumps_eq_text_normal : (value : Json) → dumps value = text (normal value)
  | .null | .bool _ | .int _ | .float _ | .str _ => rfl
  | .arr items => by rw [dumps, normal, text, dumpsItems_eq items]
  | .obj members => by
      rw [dumps, normal, text, textMembers_eq_map, dumpsMembers_eq members,
        ← map_sortOn Prod.fst (fun member : String × Json => (member.1, text member.2)) Prod.fst
          fun _ => rfl]
      simp only [List.map_map, Function.comp_def]

theorem dumpsItems_eq : (items : List Json) → dumpsItems items = textItems (normalItems items)
  | [] => rfl
  | item :: items => by
      rw [dumpsItems, normalItems, textItems, dumps_eq_text_normal item, dumpsItems_eq items]

theorem dumpsMembers_eq : (members : List (String × Json)) → dumpsMembers members =
    (normalMembers members).map fun member => (member.1, text member.2)
  | [] => rfl
  | (name, value) :: members => by
      rw [dumpsMembers, normalMembers, dumps_eq_text_normal value, dumpsMembers_eq members]
      rfl

end

theorem normalItems_eq_map (items : List Json) : normalItems items = items.map normal := by
  induction items with
  | nil => rfl
  | cons item items induction => rw [normalItems, induction, List.map_cons]

theorem normalMembers_eq_map (members : List (String × Json)) :
    normalMembers members = members.map fun member => (member.1, normal member.2) := by
  induction members with
  | nil => rfl
  | cons member members induction => rw [normalMembers, induction, List.map_cons]

theorem exactMembers_iff {members : List (String × Json)} :
    ExactMembers members ↔ ∀ member ∈ members, member.2.Exact := by
  induction members with
  | nil => simp [ExactMembers]
  | cons member members induction => simp [ExactMembers, induction]

theorem exactItems_iff {items : List Json} : ExactItems items ↔ ∀ item ∈ items, item.Exact := by
  induction items with
  | nil => simp [ExactItems]
  | cons item items induction => simp [ExactItems, induction]

@[simp] theorem normal_strs (values : List String) : normal (strs values) = strs values := by
  simp [strs, normal, normalItems_eq_map, Function.comp_def]

@[simp] theorem exact_strs (values : List String) : (strs values).Exact := by
  simp [strs, Exact, exactItems_iff]

mutual

theorem exact_normal : (value : Json) → value.Exact → (normal value).Exact
  | .null, _ | .bool _, _ | .int _, _ | .str _, _ => trivial
  | .float _, exact => exact.elim
  | .arr items, exact => exactItems_normal items exact
  | .obj members, exact => by
      have kept := exactMembers_iff.mp (exactMembers_normal members exact)
      exact exactMembers_iff.mpr fun member inside => kept member ((mem_sortOn _).mp inside)

theorem exactItems_normal : (items : List Json) → ExactItems items →
    ExactItems (normalItems items)
  | [], _ => trivial
  | item :: items, exact => ⟨exact_normal item exact.1, exactItems_normal items exact.2⟩

theorem exactMembers_normal : (members : List (String × Json)) → ExactMembers members →
    ExactMembers (normalMembers members)
  | [], _ => trivial
  | (_, value) :: members, exact =>
      ⟨exact_normal value exact.1, exactMembers_normal members exact.2⟩

end

/-- Values without floats that have one canonical text are one value, up to the order of the
members of objects. -/
theorem normal_eq_of_dumps_eq {left right : Json} (leftExact : left.Exact)
    (rightExact : right.Exact) (same : dumps left = dumps right) : normal left = normal right := by
  rw [dumps_eq_text_normal, dumps_eq_text_normal, ← List.append_nil (text (normal left)),
    ← List.append_nil (text (normal right))] at same
  exact (text_append_cancel _ _ (exact_normal _ leftExact) (exact_normal _ rightExact) closed_nil
    closed_nil same).1

/-- Lists of the same elements with the same distinct keys in the same order are equal. -/
theorem eq_of_perm_of_map_eq {α κ : Type*} (key : α → κ) {lefts rights : List α}
    (perm : lefts.Perm rights) (distinct : (rights.map key).Nodup)
    (keys : lefts.map key = rights.map key) : lefts = rights := by
  refine List.ext_getElem perm.length_eq fun index inLeft inRight => ?_
  obtain ⟨other, inside, same⟩ := List.getElem_of_mem (perm.subset (List.getElem_mem inLeft))
  have leftKey : (lefts.map key)[index]? = some (key lefts[index]) := by simp [inLeft]
  have rightKey : (rights.map key)[index]? = some (key rights[index]) := by simp [inRight]
  have sameKey : key rights[other] = key rights[index] := by
    rw [same]
    exact Option.some_inj.mp (leftKey.symm.trans (keys ▸ rightKey))
  have position : other = index := by
    have inOther : other < (rights.map key).length := by simpa using inside
    have inIndex : index < (rights.map key).length := by simpa using inRight
    have sameEntry : (rights.map key)[other] = (rights.map key)[index] := by simpa using sameKey
    exact distinct.getElem_inj_iff.mp sameEntry
  subst position
  exact same.symm

/-- Objects with the same names in the same order have the same members when they have one normal
form. -/
theorem normalMembers_eq {left right : List (String × Json)}
    (names : left.map Prod.fst = right.map Prod.fst) (distinct : (left.map Prod.fst).Nodup)
    (same : normal (.obj left) = normal (.obj right)) :
    normalMembers left = normalMembers right := by
  have perm : (normalMembers left).Perm (normalMembers right) :=
    (sortOn_perm Prod.fst _).symm.trans (Json.obj.inj same ▸ sortOn_perm Prod.fst _)
  have kept (members : List (String × Json)) :
      (normalMembers members).map Prod.fst = members.map Prod.fst := by
    simp only [normalMembers_eq_map, List.map_map, Function.comp_def]
  refine eq_of_perm_of_map_eq Prod.fst perm ?_ ?_
  · rw [kept, ← names]
    exact distinct
  · rw [kept, kept, names]

end Json

/-! ## Joined texts -/

section Joined

variable {α : Type} [DecidableEq α] {separator : α}

theorem splitOn_joined {parts : List (List α)} (given : parts ≠ []) :
    ([separator].intercalate parts).splitOn separator =
      parts.flatMap (List.splitOn separator) := by
  induction parts with
  | nil => exact absurd rfl given
  | cons part rest induction =>
      cases rest with
      | nil => simp
      | cons next others =>
          rw [List.intercalate_cons_cons, List.append_assoc, List.singleton_append,
            List.splitOn_append_cons_self, induction (List.cons_ne_nil next others)]
          simp only [List.flatMap_cons]

/-- Two joined lists are equal exactly when their pieces are. -/
theorem joined_eq_iff {lefts rights : List (List α)} (leftGiven : lefts ≠ [])
    (rightGiven : rights ≠ []) :
    [separator].intercalate lefts = [separator].intercalate rights ↔
      lefts.flatMap (List.splitOn separator) = rights.flatMap (List.splitOn separator) := by
  rw [← splitOn_joined leftGiven, ← splitOn_joined rightGiven]
  constructor
  · exact congrArg (List.splitOn separator)
  · intro same
    have joined := congrArg (List.intercalate [separator]) same
    rwa [List.intercalate_splitOn, List.intercalate_splitOn] at joined

theorem flatMap_splitOn_of_plain {parts : List (List α)}
    (plain : ∀ part ∈ parts, separator ∉ part) :
    parts.flatMap (List.splitOn separator) = parts := by
  induction parts with
  | nil => rfl
  | cons part rest induction =>
      obtain ⟨partPlain, restPlain⟩ := List.forall_mem_cons.mp plain
      rw [List.flatMap_cons, List.splitOn_eq_singleton partPlain, induction restPlain,
        List.singleton_append]

end Joined

namespace Digest

/-- Two payloads of different canonical texts have different digests. -/
def Tells (digest : Digest) (left right : Json) : Prop :=
  digest.hexdigest left = digest.hexdigest right → left.dumps = right.dumps

/-- Values of different canonical texts have different digests. -/
def CollisionFree (digest : Digest) : Prop := ∀ left right, digest.Tells left right

/-- No two of the payloads have one digest and different canonical texts. -/
def CollisionFreeOn (digest : Digest) (payloads : List Json) : Prop :=
  ∀ left ∈ payloads, ∀ right ∈ payloads, digest.Tells left right

/-- The digest that keeps the canonical text whole. -/
def verbatim : Digest where
  hexdigest payload := "x" ++ String.ofList payload.dumps
  nonblank _ := Text.nonblank_append_left (by decide) _

theorem verbatim_collisionFree : verbatim.CollisionFree := by
  intro left right same
  have texts := congrArg String.toList ((String.append_right_inj "x").mp same)
  simpa only [String.toList_ofList] using texts

section

variable {digest : Digest}

theorem Tells.normalMembers_eq {left right : List (String × Json)}
    (tells : digest.Tells (.obj left) (.obj right))
    (same : digest.hexdigest (.obj left) = digest.hexdigest (.obj right))
    (leftExact : Json.ExactMembers left) (rightExact : Json.ExactMembers right)
    (names : left.map Prod.fst = right.map Prod.fst) (distinct : (left.map Prod.fst).Nodup) :
    Json.normalMembers left = Json.normalMembers right :=
  Json.normalMembers_eq names distinct
    (Json.normal_eq_of_dumps_eq leftExact rightExact (tells same))

theorem CollisionFreeOn.mono {payloads fewer : List Json} (free : digest.CollisionFreeOn payloads)
    (inside : fewer ⊆ payloads) : digest.CollisionFreeOn fewer :=
  fun left leftIn right rightIn => free left (inside leftIn) right (inside rightIn)

theorem collisionFreeOn_of_dumps_eq {payloads : List Json} {text : List Char}
    (same : ∀ payload ∈ payloads, payload.dumps = text) : digest.CollisionFreeOn payloads :=
  fun left leftIn right rightIn _ => (same left leftIn).trans (same right rightIn).symm

theorem collisionFreeOn_map_of_nodup {α : Type} {values : List α} {payload : α → Json}
    (distinct : (values.map fun value => digest.hexdigest (payload value)).Nodup) :
    digest.CollisionFreeOn (values.map payload) := by
  intro left leftIn right rightIn same
  obtain ⟨value, valueIn, rfl⟩ := List.mem_map.mp leftIn
  obtain ⟨other, otherIn, rfl⟩ := List.mem_map.mp rightIn
  rw [List.inj_on_of_nodup_map distinct valueIn otherIn same]

theorem collisionFreeOn_of_nodup {payloads : List Json}
    (distinct : (payloads.dedup.map digest.hexdigest).Nodup) :
    digest.CollisionFreeOn payloads := by
  intro left leftIn right rightIn same
  rw [List.inj_on_of_nodup_map distinct (List.mem_dedup.mpr leftIn) (List.mem_dedup.mpr rightIn)
    same]

end

end Digest
end Foundation
