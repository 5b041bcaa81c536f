import Mathlib.Data.Int.Log
import Mathlib.Data.List.DropRight
import MercuryX.Foundation.Rounding

/-!
# The shortest text of a float

How a finite double is printed: with the fewest significant digits that read back as the same
double, in plain notation from `0.0001` up to but not including `1e+16`, and with an exponent of at
least two digits outside that range. A rational stands for the double nearest to it.
-/

namespace Foundation

/-- The double nearest to a positive number, ties to even: 53 binary digits, of which none stands
below `2 ^ -1074`. -/
def nearestDouble (value : ℚ) : ℚ :=
  let unit : ℚ := 2 ^ max (Int.log 2 value - 52) (-1074)
  roundEven (value / unit) * unit

/-- A decimal with a count of significant digits that reads back as a double, the nearest one where
there are several; as its digits and the power of ten of the last digit. -/
def readBack (double : ℚ) (count : ℕ) : Option (ℕ × ℤ) :=
  let power := Int.log 10 double + 1 - count
  let scaled := double / 10 ^ power
  let candidates := [roundEven scaled, ⌊scaled⌋, ⌊scaled⌋ + 1]
  let readsBack (digits : ℤ) : Bool := nearestDouble (digits * 10 ^ power) = double
  (candidates.find? readsBack).map fun digits => (digits.toNat, power)

/-- The digits of a positive number, without trailing zeros, and where its decimal point stands
among them. Seventeen digits always read back. -/
def shortest (value : ℚ) : List Char × ℤ :=
  let counts := (List.range 17).map Nat.succ
  let (digits, power) := (counts.findSome? (readBack (nearestDouble value))).getD (0, 0)
  let written := Nat.toDigits 10 digits
  (written.rdropWhile (· = '0'), written.length + power)

/-- The power of ten after the letter, with a sign and at least two digits. -/
def exponentText (power : ℤ) : List Char :=
  let digits := Nat.toDigits 10 power.natAbs
  [ 'e', if power < 0 then '-' else '+'] ++ List.replicate (2 - digits.length) '0' ++ digits

/-- Digits with the decimal point at a place, or with an exponent where the point is far. -/
def placePoint (digits : List Char) (point : ℤ) : List Char :=
  if point ≤ -4 ∨ 16 < point then
    let fraction := if digits.length = 1 then [] else [ '.'] ++ digits.drop 1
    digits.take 1 ++ fraction ++ exponentText (point - 1)
  else if point ≤ 0 then
    [ '0', '.'] ++ List.replicate (-point).toNat '0' ++ digits
  else if digits.length ≤ point then
    digits ++ List.replicate (point.toNat - digits.length) '0' ++ [ '.', '0']
  else
    digits.take point.toNat ++ [ '.'] ++ digits.drop point.toNat

/-- The text of a float. -/
def floatText (value : ℚ) : List Char :=
  if value = 0 then [ '0', '.', '0'] else
    let (digits, point) := shortest |value|
    (if value < 0 then [ '-'] else []) ++ placePoint digits point

-- The last of these is written with the second nearest of its decimals of sixteen digits: the
-- nearest one reads back as another double.
example : [1 / 10, -5 / 2, 1200, 1 / 3, 1 / 10000, 1 / 100000, 12 / 10 ^ 20, 10 ^ 16,
    1 / 2 ^ 44].map (fun value => String.ofList (floatText value)) =
      ["0.1", "-2.5", "1200.0", "0.3333333333333333", "0.0001", "1e-05", "1.2e-19", "1e+16",
        "5.684341886080802e-14"] := by decide +kernel

end Foundation
