import MercuryX.Foundation.Digest

/-!
# Digests on numbers

The digest of a payload computed on natural numbers: a word is its value, and a text the list of its
codes. The digest is the same one; numbers are what a kernel computes with, so that the digests of
given payloads are told apart in this form.
-/

namespace Foundation

namespace Sha256

/-! ## Words by their values -/

/-- Rotation to the right. -/
def rotrValue (value count : Nat) : Nat :=
  Nat.lor (Nat.shiftRight value count) (Nat.mod (Nat.shiftLeft value (Nat.sub 32 count)) 4294967296)

/-- One more value of the message schedule; the values stand latest first. -/
def nextValue (latest : List Nat) : Nat :=
  let back (n : Nat) := latest.getD (Nat.sub n 1) 0
  let small0 := Nat.xor (Nat.xor (rotrValue (back 15) 7) (rotrValue (back 15) 18))
    (Nat.shiftRight (back 15) 3)
  let small1 := Nat.xor (Nat.xor (rotrValue (back 2) 17) (rotrValue (back 2) 19))
    (Nat.shiftRight (back 2) 10)
  Nat.mod (Nat.add (Nat.add (Nat.add (back 16) small0) (back 7)) small1) 4294967296

/-- Extend a schedule, latest value first, by a number of values. -/
def extendValues : Nat → List Nat → List Nat
  | 0, latest => latest
  | count + 1, latest => extendValues count (nextValue latest :: latest)

/-- The values of the eight working words. -/
structure Values where
  /-- First value. -/
  a : Nat
  /-- Second value. -/
  b : Nat
  /-- Third value. -/
  c : Nat
  /-- Fourth value. -/
  d : Nat
  /-- Fifth value. -/
  e : Nat
  /-- Sixth value. -/
  f : Nat
  /-- Seventh value. -/
  g : Nat
  /-- Eighth value. -/
  h : Nat

/-- The values of working words. -/
def Words.values (words : Words) : Values :=
  ⟨words.a.toNat, words.b.toNat, words.c.toNat, words.d.toNat, words.e.toNat, words.f.toNat,
    words.g.toNat, words.h.toNat⟩

/-- One compression round. -/
def roundValues (values : Values) (input : Nat × Nat) : Values :=
  let big1 := Nat.xor (Nat.xor (rotrValue values.e 6) (rotrValue values.e 11))
    (rotrValue values.e 25)
  let choice := Nat.xor (Nat.land values.e values.f)
    (Nat.land (Nat.sub 4294967295 values.e) values.g)
  let temp1 := Nat.add (Nat.add (Nat.add (Nat.add values.h big1) choice) input.1) input.2
  let big0 := Nat.xor (Nat.xor (rotrValue values.a 2) (rotrValue values.a 13))
    (rotrValue values.a 22)
  let majority := Nat.xor (Nat.xor (Nat.land values.a values.b) (Nat.land values.a values.c))
    (Nat.land values.b values.c)
  ⟨Nat.mod (Nat.add temp1 (Nat.add big0 majority)) 4294967296, values.a, values.b, values.c,
    Nat.mod (Nat.add values.d temp1) 4294967296, values.e, values.f, values.g⟩

/-- The sums of two lists of eight values. -/
def Values.add (left right : Values) : Values :=
  ⟨Nat.mod (Nat.add left.a right.a) 4294967296, Nat.mod (Nat.add left.b right.b) 4294967296,
    Nat.mod (Nat.add left.c right.c) 4294967296, Nat.mod (Nat.add left.d right.d) 4294967296,
    Nat.mod (Nat.add left.e right.e) 4294967296, Nat.mod (Nat.add left.f right.f) 4294967296,
    Nat.mod (Nat.add left.g right.g) 4294967296, Nat.mod (Nat.add left.h right.h) 4294967296⟩

/-- Absorb one block of sixteen values. -/
def absorbValues (values : Values) (block : List Nat) : Values :=
  let schedule := (extendValues 48 block.reverse).reverse
  values.add (((roundConstants.map UInt32.toNat).zip schedule).foldl roundValues values)

/-- Absorb the blocks of sixteen values of a padded message. -/
def absorbAllValues : Nat → Values → List Nat → Values
  | 0, values, _ => values
  | blocks + 1, values, input =>
      absorbAllValues blocks (absorbValues values (input.take 16)) (input.drop 16)

/-- Big-endian values of a list of codes. -/
def valuesOf : List Nat → List Nat
  | c0 :: c1 :: c2 :: c3 :: rest =>
      Nat.lor (Nat.lor (Nat.lor (Nat.shiftLeft (Nat.mod c0 256) 24)
        (Nat.shiftLeft (Nat.mod c1 256) 16)) (Nat.shiftLeft (Nat.mod c2 256) 8)) (Nat.mod c3 256) ::
        valuesOf rest
  | _ => []

/-- The codes of a message with their padding. -/
def padCodes (codes : List Nat) : List Nat :=
  codes ++ (128 :: List.replicate ((119 - codes.length % 64) % 64) 0 ++
    [56, 48, 40, 32, 24, 16, 8, 0].map fun shift : Nat => 8 * codes.length / 2 ^ shift % 256)

/-- The digest of the codes of a message. -/
def digestOfCodes (codes : List Nat) : List Char :=
  let input := valuesOf (padCodes codes)
  let values := absorbAllValues (input.length / 16) initialWords.values input
  let hex8 (value : Nat) := Json.hex4 (value / 65536) ++ Json.hex4 (value % 65536)
  hex8 values.a ++ hex8 values.b ++ hex8 values.c ++ hex8 values.d ++ hex8 values.e ++
    hex8 values.f ++ hex8 values.g ++ hex8 values.h

section Values

theorem toNat_rotr (word count : UInt32) (positive : 0 < count.toNat) (small : count.toNat < 32) :
    (rotr word count).toNat = rotrValue word.toNat count.toNat := by
  have rest : (32 - count).toNat = 32 - count.toNat :=
    UInt32.toNat_sub_of_le 32 count (by rw [UInt32.le_iff_toNat_le]; exact small.le)
  have left : (32 - count.toNat) % 32 = 32 - count.toNat := Nat.mod_eq_of_lt (by omega)
  rw [rotr, UInt32.toNat_or, UInt32.toNat_shiftRight, UInt32.toNat_shiftLeft, rest,
    Nat.mod_eq_of_lt small, left]
  rfl

theorem toNat_nextWord (latest : List UInt32) :
    (nextWord latest).toNat = nextValue (latest.map UInt32.toNat) := by
  have back (n : Nat) : (latest.map UInt32.toNat).getD n 0 = (latest.getD n 0).toNat := by
    rw [List.getD_eq_getElem?_getD, List.getD_eq_getElem?_getD, List.getElem?_map]
    cases latest[n]? <;> rfl
  have sums (w x y z : Nat) : (((w + x) % 2 ^ 32 + y) % 2 ^ 32 + z) % 2 ^ 32 =
      (w + x + y + z) % 2 ^ 32 := by omega
  simp only [nextWord, UInt32.toNat_add, UInt32.toNat_xor, UInt32.toNat_shiftRight, sums,
    toNat_rotr _ 7 (by decide) (by decide), toNat_rotr _ 18 (by decide) (by decide),
    toNat_rotr _ 17 (by decide) (by decide), toNat_rotr _ 19 (by decide) (by decide)]
  simp only [← back]
  rfl

theorem values_round (words : Words) (input : UInt32 × UInt32) :
    (round words input).values = roundValues words.values (input.1.toNat, input.2.toNat) := by
  have one (x y : Nat) : (x + y % 2 ^ 32) % 2 ^ 32 = (x + y) % 2 ^ 32 := Nat.add_mod_mod _ _ _
  have two (x y : Nat) : (x % 2 ^ 32 + y) % 2 ^ 32 = (x + y) % 2 ^ 32 := Nat.mod_add_mod _ _ _
  simp only [round, Words.values, UInt32.toNat_add, UInt32.toNat_xor, UInt32.toNat_and,
    UInt32.toNat_not, one, two,
    toNat_rotr _ 6 (by decide) (by decide), toNat_rotr _ 11 (by decide) (by decide),
    toNat_rotr _ 25 (by decide) (by decide), toNat_rotr _ 2 (by decide) (by decide),
    toNat_rotr _ 13 (by decide) (by decide), toNat_rotr _ 22 (by decide) (by decide)]
  rfl

theorem toNat_extend (count : Nat) (latest : List UInt32) :
    (extend count latest).map UInt32.toNat = extendValues count (latest.map UInt32.toNat) := by
  induction count generalizing latest with
  | zero => rfl
  | succ count induction =>
      rw [extend, extendValues, induction, List.map_cons, toNat_nextWord]

theorem values_foldl (inputs : List (UInt32 × UInt32)) (words : Words) :
    (inputs.foldl round words).values = (inputs.map fun input =>
      (input.1.toNat, input.2.toNat)).foldl roundValues words.values := by
  induction inputs generalizing words with
  | nil => rfl
  | cons input inputs induction =>
      rw [List.foldl_cons, induction, List.map_cons, List.foldl_cons, values_round]

theorem values_absorb (words : Words) (block : List UInt32) :
    (absorb words block).values = absorbValues words.values (block.map UInt32.toNat) := by
  let mixed := (roundConstants.zip (extend 48 block.reverse).reverse).foldl round words
  have summed : (absorb words block).values = words.values.add mixed.values := by
    simp only [absorb, Words.values, Values.add, UInt32.toNat_add]
    rfl
  have inputs : (roundConstants.zip (extend 48 block.reverse).reverse).map
      (fun input => (input.1.toNat, input.2.toNat)) = (roundConstants.map UInt32.toNat).zip
        (extendValues 48 (block.map UInt32.toNat).reverse).reverse := by
    rw [← List.map_reverse, ← toNat_extend, ← List.map_reverse, List.zip_map]
    rfl
  rw [summed, values_foldl, inputs, absorbValues]

theorem values_absorbAll (blocks : Nat) (words : Words) (input : List UInt32) :
    (absorbAll blocks words input).values =
      absorbAllValues blocks words.values (input.map UInt32.toNat) := by
  induction blocks generalizing words input with
  | zero => rfl
  | succ blocks induction =>
      rw [absorbAll, induction, values_absorb, List.map_take, List.map_drop, absorbAllValues]

theorem toNat_wordsOf (codes : List Nat) :
    (wordsOf (codes.map UInt8.ofNat)).map UInt32.toNat = valuesOf codes := by
  induction codes using valuesOf.induct with
  | case1 c0 c1 c2 c3 rest induction =>
      have shifted (code shift : Nat) (small : shift ≤ 24) :
          (code % 256) <<< shift % 2 ^ 32 = (code % 256) <<< shift := by
        have bound : 2 ^ shift ≤ 2 ^ 24 := Nat.pow_le_pow_right (by decide) small
        refine Nat.mod_eq_of_lt ?_
        rw [Nat.shiftLeft_eq]
        calc code % 256 * 2 ^ shift ≤ 255 * 2 ^ 24 := Nat.mul_le_mul (by omega) bound
          _ < 2 ^ 32 := by decide
      have first := shifted c0 24 (by decide)
      have second := shifted c1 16 (by decide)
      have third := shifted c2 8 (by decide)
      simp only [List.map_cons, wordsOf, induction, UInt32.toNat_or, UInt32.toNat_shiftLeft,
        UInt8.toNat_toUInt32, UInt8.toNat_ofNat']
      rw [show (24 : UInt32).toNat % 32 = 24 from rfl, show (16 : UInt32).toNat % 32 = 16 from rfl,
        show (8 : UInt32).toNat % 32 = 8 from rfl, first, second, third]
      rfl
  | case2 codes short =>
      rcases codes with _ | ⟨c0, _ | ⟨c1, _ | ⟨c2, _ | ⟨c3, rest⟩⟩⟩⟩
      case cons.cons.cons.cons => exact (short c0 c1 c2 c3 rest rfl).elim
      all_goals rfl

theorem pad_map (codes : List Nat) :
    pad (codes.map UInt8.ofNat) = (padCodes codes).map UInt8.ofNat := by
  simp only [pad, padCodes, List.length_map, lengthBytes, List.map_append, List.map_cons,
    List.map_replicate, List.append_assoc, List.cons_append, List.nil_append]
  rfl

/-- The digest of a message is that of its codes. -/
theorem hexdigest_map (codes : List Nat) :
    hexdigest (codes.map UInt8.ofNat) = digestOfCodes codes := by
  have input : valuesOf (padCodes codes) =
      (wordsOf (pad (codes.map UInt8.ofNat))).map UInt32.toNat := by
    rw [pad_map, toNat_wordsOf]
  have values := values_absorbAll ((wordsOf (pad (codes.map UInt8.ofNat))).length / 16)
    initialWords (wordsOf (pad (codes.map UInt8.ofNat)))
  simp only [digestOfCodes, input, List.length_map, ← values]
  rfl

end Values

end Sha256

namespace Json

/-! ## Texts by their codes -/

/-- The codes of a text. Where they are all below 128 they are its bytes. -/
def textCodes (text : String) : List Nat :=
  let bytes := text.toByteArray.data.toList.map UInt8.toNat
  if bytes.all fun byte => Nat.blt byte 128 then bytes else text.toList.map Char.toNat

/-- The codes of the escaped form of the character of a code. -/
def escapeCode (code : Nat) : List Nat :=
  if (Nat.ble 32 code && Nat.ble code 126) && !(Nat.beq code 34 || Nat.beq code 92) then [code]
  else (escapeChar (Char.ofNat code)).map Char.toNat

/-- The codes of a quoted and escaped text. -/
def quoteCodes (codes : List Nat) : List Nat := 34 :: (codes.flatMap escapeCode ++ [34])

/-- Codes joined by a comma. -/
def commaCodes : List (List Nat) → List Nat
  | [] => []
  | [item] => item
  | item :: rest => item ++ 44 :: commaCodes rest

/-- Whether a list of codes does not come after another. -/
def notAfter : List Nat → List Nat → Bool
  | [], _ => true
  | _ :: _, [] => false
  | left :: lefts, right :: rights =>
      Nat.blt left right || (Nat.beq left right && notAfter lefts rights)

mutual

/-- The codes of the canonical text of a value. -/
def codes : Json → List Nat
  | .null => [110, 117, 108, 108]
  | .bool true => [116, 114, 117, 101]
  | .bool false => [102, 97, 108, 115, 101]
  | .int value => (toString value).toList.map Char.toNat
  | .float value => (floatText value).map Char.toNat
  | .str value => quoteCodes (textCodes value)
  | .arr items => 91 :: (commaCodes (itemCodes items) ++ [93])
  | .obj members =>
      let printed := (memberCodes members).insertionSort fun left right => notAfter left.1 right.1
      123 :: (commaCodes (printed.map fun member => quoteCodes member.1 ++ 58 :: member.2) ++ [125])

/-- The codes of the canonical texts of the items of an array. -/
def itemCodes : List Json → List (List Nat)
  | [] => []
  | item :: items => codes item :: itemCodes items

/-- The codes of the member names of an object with those of the texts of their values. -/
def memberCodes : List (String × Json) → List (List Nat × List Nat)
  | [] => []
  | (name, value) :: members => (textCodes name, codes value) :: memberCodes members

end

/-- A character is encoded in one byte exactly where its code is below 128. -/
theorem utf8EncodeChar_of_small {c : Char}
    (small : ∀ byte ∈ String.utf8EncodeChar c, byte.toNat < 128) :
    (String.utf8EncodeChar c).map UInt8.toNat = [c.toNat] := by
  have value : c.val.toNat = c.toNat := rfl
  unfold String.utf8EncodeChar at small ⊢
  simp only [value] at small ⊢
  split_ifs at small ⊢ with one two three
  · rw [List.map_singleton, UInt8.toNat_ofNat', Nat.mod_eq_of_lt (by omega)]
  -- The first of several bytes is 192 at least.
  all_goals
    have first := small _ List.mem_cons_self
    rw [UInt8.toNat_ofNat'] at first
    omega

/-- The codes of a text are those of its characters. -/
theorem textCodes_eq (text : String) : textCodes text = text.toList.map Char.toNat := by
  obtain ⟨chars, rfl⟩ := text.exists_eq_ofList
  have bytes : (String.ofList chars).toByteArray.data.toList =
      chars.flatMap String.utf8EncodeChar := List.toList_data_toByteArray
  have encoded (rest : List Char)
      (small : ∀ byte ∈ rest.flatMap String.utf8EncodeChar, byte.toNat < 128) :
      (rest.flatMap String.utf8EncodeChar).map UInt8.toNat = rest.map Char.toNat := by
    induction rest with
    | nil => rfl
    | cons c rest induction =>
        simp only [List.flatMap_cons, List.mem_append, or_imp, forall_and] at small
        rw [List.flatMap_cons, List.map_append, utf8EncodeChar_of_small small.1,
          induction small.2, List.map_cons, List.singleton_append]
  simp only [textCodes, bytes, String.toList_ofList]
  split
  · next small =>
      refine encoded chars fun byte member => ?_
      simpa using List.all_eq_true.mp small byte.toNat (List.mem_map_of_mem member)
  · rfl

theorem escapeCode_toNat (c : Char) : escapeCode c.toNat = (escapeChar c).map Char.toNat := by
  unfold escapeCode
  split
  · next plain =>
      simp only [Bool.and_eq_true, Bool.not_eq_true', Bool.or_eq_false_iff, Nat.ble_eq] at plain
      obtain ⟨⟨low, high⟩, noQuote, noBackslash⟩ := plain
      have differs (other : Char) (apart : other.toNat ≠ c.toNat) : (c == other) = false := by
        rw [beq_eq_false_iff_ne]
        rintro rfl
        exact apart rfl
      have quote : '"'.toNat ≠ c.toNat := fun same => by simp [← same] at noQuote
      have backslash : '\\'.toNat ≠ c.toNat := fun same => by simp [← same] at noBackslash
      have visible (other : Char) (control : other.toNat < 32) : other.toNat ≠ c.toNat := by omega
      have printable : 0x20 ≤ c.toNat ∧ c.toNat ≤ 0x7E := ⟨low, high⟩
      have eight : (c.toNat == 8) = false := beq_false_of_ne (by omega)
      have twelve : (c.toNat == 12) = false := beq_false_of_ne (by omega)
      simp [escapeChar, differs _ quote, differs _ backslash, differs _ (visible '\n' (by decide)),
        differs _ (visible '\r' (by decide)), differs _ (visible '\t' (by decide)), eight, twelve,
        printable]
  · rw [Char.ofNat_toNat]

theorem quoteCodes_eq (text : String) :
    quoteCodes (textCodes text) = (quote text).map Char.toNat := by
  have escaped : (text.toList.map Char.toNat).flatMap escapeCode =
      ((text.toList.map escapeChar).flatten).map Char.toNat := by
    rw [List.flatMap_map, List.map_flatten, List.map_map, List.flatMap_def]
    exact congrArg List.flatten (List.map_congr_left fun c _ => escapeCode_toNat c)
  rw [quoteCodes, textCodes_eq, escaped, quote]
  simp

theorem commaCodes_map (items : List (List Char)) :
    commaCodes (items.map (List.map Char.toNat)) = (commas items).map Char.toNat := by
  induction items using commas.induct with
  | case1 => rfl
  | case2 item => rfl
  | case3 item rest several induction =>
      obtain ⟨next, rest, rfl⟩ := List.exists_cons_of_ne_nil several
      simpa [commaCodes, commas] using induction

theorem notAfter_iff (left right : String) :
    notAfter (textCodes left) (textCodes right) = true ↔ left ≤ right := by
  have lists (lefts rights : List Char) :
      notAfter (lefts.map Char.toNat) (rights.map Char.toNat) = true ↔ ¬ rights < lefts := by
    induction lefts generalizing rights with
    | nil => simp [notAfter]
    | cons c lefts induction =>
        cases rights with
        | nil => simp [notAfter]
        | cons d rights =>
            rw [List.cons_lt_cons_iff, List.map_cons, List.map_cons, notAfter, Bool.or_eq_true,
              Bool.and_eq_true, induction, Nat.blt_eq, Nat.beq_eq, Char.toNat_inj]
            change c < d ∨ _ ↔ _
            rcases lt_trichotomy c d with before | rfl | after
            · simp [before, before.asymm, before.ne']
            · simp
            · simp [after, after.asymm, after.ne']
  rw [textCodes_eq, textCodes_eq, lists, ← not_lt, String.lt_iff_toList_lt]

mutual

theorem codes_eq : (value : Json) → value.codes = value.dumps.map Char.toNat
  | .null => rfl
  | .bool true => rfl
  | .bool false => rfl
  | .int _ => rfl
  | .float _ => rfl
  | .str value => by rw [codes, dumps, quoteCodes_eq]
  | .arr items => by
      rw [codes, dumps, itemCodes_eq items, commaCodes_map]
      simp
  | .obj members => by
      have printed : (memberCodes members).insertionSort (fun left right =>
          notAfter left.1 right.1) = (sortOn Prod.fst (dumpsMembers members)).map fun member =>
            (textCodes member.1, member.2.map Char.toNat) := by
        rw [memberCodes_eq members, sortOn]
        exact (List.map_insertionSort _ _ _ _ fun left _ right _ =>
          (notAfter_iff left.1 right.1).symm).symm
      have members : (sortOn Prod.fst (dumpsMembers members)).map (fun member =>
          quoteCodes (textCodes member.1) ++ 58 :: member.2.map Char.toNat) =
            ((sortOn Prod.fst (dumpsMembers members)).map fun member =>
              quote member.1 ++ [ ':'] ++ member.2).map (List.map Char.toNat) := by
        rw [List.map_map]
        refine List.map_congr_left fun member _ => ?_
        simp [quoteCodes_eq]
      rw [codes, printed, List.map_map, dumps]
      simp only [Function.comp_def, members, commaCodes_map]
      simp

theorem itemCodes_eq : (items : List Json) →
    itemCodes items = (dumpsItems items).map (List.map Char.toNat)
  | [] => rfl
  | item :: items => by
      rw [itemCodes, dumpsItems, List.map_cons, codes_eq item, itemCodes_eq items]

theorem memberCodes_eq : (members : List (String × Json)) →
    memberCodes members = (dumpsMembers members).map fun member =>
      (textCodes member.1, member.2.map Char.toNat)
  | [] => rfl
  | (name, value) :: members => by
      rw [memberCodes, dumpsMembers, List.map_cons, codes_eq value, memberCodes_eq members]

end

end Json

namespace Digest

/-- SHA-256 of the canonical text of a payload, on numbers. -/
def numeric : Digest where
  hexdigest payload := String.ofList (Sha256.digestOfCodes payload.codes)
  nonblank payload := by
    rw [← Sha256.hexdigest_map, Text.nonblank_iff, String.toList_ofList]
    exact Sha256.exists_visible_hexdigest _

/-- On numbers the digest is the same. -/
theorem sha256_eq_numeric : sha256 = numeric := by
  have same (payload : Json) : sha256.hexdigest payload = numeric.hexdigest payload := by
    simp only [sha256, numeric, ← Sha256.hexdigest_map, Json.codes_eq, List.map_map]
    rfl
  simp only [sha256, numeric, mk.injEq]
  exact funext same

end Digest
end Foundation
