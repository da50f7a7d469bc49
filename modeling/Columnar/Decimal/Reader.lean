import Columnar.Text.Numeral

/-!
# Reading a real number

A real number is an optional sign and then `inf`, `infinity` or `nan` in any case, or digits with an
optional point among or around them and an optional exponent. The value is the double nearest to the
decimal that is written.
-/

namespace Columnar.Decimal

/-- An exponent's sign and digits, as an integer. -/
def readExponent : List Char → Option Int
  | [] => some 0
  | c :: cs => if c = 'e' ∨ c = 'E' then Text.readInt cs else none

/-- The double nearest to `significand · 10 ^ exponent`. Decimals far outside the range of the format
are zero or infinite without being computed. -/
def nearest (significand : Nat) (exponent : Int) : Float :=
  let magnitude := (Text.digits significand).length + exponent
  if significand = 0 ∨ magnitude < -400 then 0
  else if 400 < magnitude then 1 / 0
  else Float.ofScientific significand (exponent < 0) exponent.natAbs

/-- Digits, an optional point with digits after it, and an optional exponent; at least one digit
stands before the exponent. -/
def readMagnitude (cs : List Char) : Option Float :=
  let whole := cs.takeWhile Char.isDigit
  let rest := cs.dropWhile Char.isDigit
  let (places, tail) :=
    match rest with
    | '.' :: more => (more.takeWhile Char.isDigit, more.dropWhile Char.isDigit)
    | _ => ([], rest)
  (Text.readDigits (whole ++ places)).bind fun significand =>
    (readExponent tail).map fun exponent => nearest significand (exponent - places.length)

/-- Reads a number without a sign. -/
def readUnsigned (cs : List Char) : Option Float :=
  let lower := cs.map Char.toLower
  if lower = "inf".toList ∨ lower = "infinity".toList then some (1 / 0)
  else if lower = "nan".toList then some (0 / 0)
  else readMagnitude cs

/-- Reads a real number. -/
def readFloat : List Char → Option Float
  | '+' :: cs => readUnsigned cs
  | '-' :: cs => (readUnsigned cs).map fun x => -x
  | cs => readUnsigned cs

end Columnar.Decimal
