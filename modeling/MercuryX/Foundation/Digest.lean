import MercuryX.Foundation.Json
import MercuryX.Foundation.Text

/-!
# Digests of canonical JSON

A digest turns a canonical payload into a nonblank hexadecimal text. Results that hold for every
digest take one as a parameter; `Digest.sha256` is SHA-256 of the canonical text, in lower-case
hexadecimal.
-/

namespace Foundation

/-- A function from canonical payloads to nonblank texts. -/
structure Digest where
  /-- The digest of a payload, as text. -/
  hexdigest : Json → String
  /-- A digest is never blank. -/
  nonblank : ∀ payload, Text.Nonblank (hexdigest payload)

namespace Sha256

/-- The round constants. -/
def roundConstants : List UInt32 :=
  [0x428a2f98, 0x71374491, 0xb5c0fbcf, 0xe9b5dba5, 0x3956c25b, 0x59f111f1, 0x923f82a4, 0xab1c5ed5,
    0xd807aa98, 0x12835b01, 0x243185be, 0x550c7dc3, 0x72be5d74, 0x80deb1fe, 0x9bdc06a7, 0xc19bf174,
    0xe49b69c1, 0xefbe4786, 0x0fc19dc6, 0x240ca1cc, 0x2de92c6f, 0x4a7484aa, 0x5cb0a9dc, 0x76f988da,
    0x983e5152, 0xa831c66d, 0xb00327c8, 0xbf597fc7, 0xc6e00bf3, 0xd5a79147, 0x06ca6351, 0x14292967,
    0x27b70a85, 0x2e1b2138, 0x4d2c6dfc, 0x53380d13, 0x650a7354, 0x766a0abb, 0x81c2c92e, 0x92722c85,
    0xa2bfe8a1, 0xa81a664b, 0xc24b8b70, 0xc76c51a3, 0xd192e819, 0xd6990624, 0xf40e3585, 0x106aa070,
    0x19a4c116, 0x1e376c08, 0x2748774c, 0x34b0bcb5, 0x391c0cb3, 0x4ed8aa4a, 0x5b9cca4f, 0x682e6ff3,
    0x748f82ee, 0x78a5636f, 0x84c87814, 0x8cc70208, 0x90befffa, 0xa4506ceb, 0xbef9a3f7, 0xc67178f2]

/-- The eight working words. -/
structure Words where
  /-- First word. -/
  a : UInt32
  /-- Second word. -/
  b : UInt32
  /-- Third word. -/
  c : UInt32
  /-- Fourth word. -/
  d : UInt32
  /-- Fifth word. -/
  e : UInt32
  /-- Sixth word. -/
  f : UInt32
  /-- Seventh word. -/
  g : UInt32
  /-- Eighth word. -/
  h : UInt32

/-- The initial words. -/
def initialWords : Words :=
  ⟨0x6a09e667, 0xbb67ae85, 0x3c6ef372, 0xa54ff53a, 0x510e527f, 0x9b05688c, 0x1f83d9ab, 0x5be0cd19⟩

/-- Rotation to the right. -/
def rotr (word count : UInt32) : UInt32 := (word >>> count) ||| (word <<< (32 - count))

/-- One more word of the message schedule; the words stand latest first. -/
def nextWord (latest : List UInt32) : UInt32 :=
  let back (n : Nat) := latest.getD (n - 1) 0
  let small0 := rotr (back 15) 7 ^^^ rotr (back 15) 18 ^^^ (back 15 >>> 3)
  let small1 := rotr (back 2) 17 ^^^ rotr (back 2) 19 ^^^ (back 2 >>> 10)
  back 16 + small0 + back 7 + small1

/-- Extend a schedule, latest word first, by a number of words. -/
def extend : Nat → List UInt32 → List UInt32
  | 0, latest => latest
  | count + 1, latest => extend count (nextWord latest :: latest)

/-- One compression round. -/
def round (words : Words) (input : UInt32 × UInt32) : Words :=
  let big1 := rotr words.e 6 ^^^ rotr words.e 11 ^^^ rotr words.e 25
  let choice := (words.e &&& words.f) ^^^ (~~~words.e &&& words.g)
  let temp1 := words.h + big1 + choice + input.1 + input.2
  let big0 := rotr words.a 2 ^^^ rotr words.a 13 ^^^ rotr words.a 22
  let majority := (words.a &&& words.b) ^^^ (words.a &&& words.c) ^^^ (words.b &&& words.c)
  ⟨temp1 + (big0 + majority), words.a, words.b, words.c, words.d + temp1, words.e, words.f,
    words.g⟩

/-- Absorb one block of sixteen words. -/
def absorb (words : Words) (block : List UInt32) : Words :=
  let schedule := (extend 48 block.reverse).reverse
  let mixed := (roundConstants.zip schedule).foldl round words
  ⟨words.a + mixed.a, words.b + mixed.b, words.c + mixed.c, words.d + mixed.d, words.e + mixed.e,
    words.f + mixed.f, words.g + mixed.g, words.h + mixed.h⟩

/-- Big-endian words of a list of bytes. -/
def wordsOf : List UInt8 → List UInt32
  | b0 :: b1 :: b2 :: b3 :: rest =>
      (b0.toUInt32 <<< 24 ||| b1.toUInt32 <<< 16 ||| b2.toUInt32 <<< 8 ||| b3.toUInt32) ::
        wordsOf rest
  | _ => []

/-- The 64-bit big-endian form of a bit length. -/
def lengthBytes (bits : Nat) : List UInt8 :=
  [56, 48, 40, 32, 24, 16, 8, 0].map fun shift : Nat => UInt8.ofNat (bits / 2 ^ shift % 256)

/-- The message with its padding. -/
def pad (message : List UInt8) : List UInt8 :=
  message ++ [0x80] ++ List.replicate ((119 - message.length % 64) % 64) 0 ++
    lengthBytes (8 * message.length)

/-- Absorb the sixteen-word blocks of a padded message. -/
def absorbAll : Nat → Words → List UInt32 → Words
  | 0, words, _ => words
  | blocks + 1, words, input => absorbAll blocks (absorb words (input.take 16)) (input.drop 16)

/-- The eight hexadecimal digits of a word. -/
def hex8 (word : UInt32) : List Char :=
  Json.hex4 (word.toNat / 65536) ++ Json.hex4 (word.toNat % 65536)

/-- The digest of a message, in lower-case hexadecimal. -/
def hexdigest (message : List UInt8) : List Char :=
  let input := wordsOf (pad message)
  let words := absorbAll (input.length / 16) initialWords input
  hex8 words.a ++ hex8 words.b ++ hex8 words.c ++ hex8 words.d ++ hex8 words.e ++ hex8 words.f ++
    hex8 words.g ++ hex8 words.h

theorem hexDigit_not_space (value : Nat) (small : value < 16) :
    ¬ Text.isSpace (Json.hexDigit value) := by
  interval_cases value <;> decide

theorem exists_visible_hex8 (word : UInt32) : ∃ c ∈ hex8 word, ¬ Text.isSpace c := by
  refine ⟨Json.hexDigit (word.toNat % 65536 % 16), ?_, ?_⟩
  · simp [hex8, Json.hex4]
  · exact hexDigit_not_space _ (Nat.mod_lt _ (by decide))

theorem exists_visible_hexdigest (message : List UInt8) :
    ∃ c ∈ hexdigest message, ¬ Text.isSpace c := by
  obtain ⟨c, member, visible⟩ := exists_visible_hex8
    (absorbAll ((wordsOf (pad message)).length / 16) initialWords (wordsOf (pad message))).h
  exact ⟨c, List.mem_append_right _ member, visible⟩

theorem hexDigit_mem (value : Nat) (small : value < 16) :
    Json.hexDigit value ∈ "0123456789abcdef".toList := by
  interval_cases value <;> decide

theorem hex8_subset (word : UInt32) : ∀ c ∈ hex8 word, c ∈ "0123456789abcdef".toList := by
  intro c member
  simp only [hex8, Json.hex4, List.mem_append, List.mem_cons, List.not_mem_nil, or_false] at member
  rcases member with (rfl | rfl | rfl | rfl) | rfl | rfl | rfl | rfl
  all_goals exact hexDigit_mem _ (Nat.mod_lt _ (by decide))

theorem hexdigest_subset (message : List UInt8) :
    ∀ c ∈ hexdigest message, c ∈ "0123456789abcdef".toList := by
  intro c member
  simp only [hexdigest, List.mem_append] at member
  rcases member with ((((((first | second) | third) | fourth) | fifth) | sixth) | seventh) | eighth
  all_goals exact hex8_subset _ c (by assumption)

theorem length_hexdigest (message : List UInt8) : (hexdigest message).length = 64 := by
  simp [hexdigest, hex8, Json.hex4]

end Sha256

namespace Digest

/-- SHA-256 of the canonical text of a payload. -/
def sha256 : Digest where
  hexdigest payload :=
    String.ofList (Sha256.hexdigest (payload.dumps.map fun c => UInt8.ofNat c.toNat))
  nonblank payload := by
    rw [Text.nonblank_iff, String.toList_ofList]
    exact Sha256.exists_visible_hexdigest _

theorem length_sha256 (payload : Json) : (sha256.hexdigest payload).toList.length = 64 := by
  rw [sha256, String.toList_ofList, Sha256.length_hexdigest]

/-- Every digest is 64 lower-case hexadecimal digits. -/
def Hexadecimal (digest : Digest) : Prop :=
  ∀ payload, (digest.hexdigest payload).toList.length = 64 ∧
    ∀ c ∈ (digest.hexdigest payload).toList, c ∈ "0123456789abcdef".toList

theorem Hexadecimal.trimmed {digest : Digest} (hexadecimal : digest.Hexadecimal) (payload : Json) :
    Text.Trimmed (digest.hexdigest payload) := by
  refine ⟨digest.nonblank payload, Text.strip_of_visible fun c member => ?_⟩
  have digits : "0123456789abcdef".toList.all (fun digit => !Text.isSpace digit) = true := by decide
  simpa using List.all_eq_true.mp digits c ((hexadecimal payload).2 c member)

theorem sha256_hexadecimal : sha256.Hexadecimal := by
  intro payload
  refine ⟨length_sha256 payload, ?_⟩
  rw [sha256, String.toList_ofList]
  exact Sha256.hexdigest_subset _

end Digest
end Foundation
