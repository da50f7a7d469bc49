import Columnar.Decimal.Binary
import Columnar.Text.Numeral

/-!
# The shortest decimal that reads back

A number is written with the fewest digits that denote it: among the decimals that round to the
number, those on the coarsest grid `10 ^ p`, and of these the nearest to its exact value. The text is
positional at every magnitude and has no point for a whole number.

## Termination

The search goes down the grids one power of ten at a time, from just above the number. Every double has
a decimal of at most 17 digits, so 22 grids are enough.
-/

namespace Columnar.Decimal

/-- The decimal `significand · 10 ^ exponent`. -/
structure Decimal where
  significand : Nat
  exponent : Int
  deriving DecidableEq, Repr

/-- The decimals that round to `m · 2 ^ q`, in quarters of the last binary place: all of
`lower … upper`, the ends included iff `closed`. -/
structure Rounding where
  lower : Nat
  value : Nat
  upper : Nat
  closed : Bool
  /-- The numbers above count multiples of `2 ^ exponent`. -/
  exponent : Int
  deriving Repr

/-- Below a power of two the neighbour is half as far as above, except among the subnormals. -/
def Rounding.of (m : Nat) (q : Int) : Rounding where
  lower := if m = Nat.pow 2 52 ∧ q ≠ -1074 then 4 * m - 1 else 4 * m - 2
  value := 4 * m
  upper := 4 * m + 2
  closed := m % 2 = 0
  exponent := q - 2

namespace Rounding

/-- The decimal of the grid `10 ^ p` inside the interval that is nearest to the value, if there is one;
of two equally near ones the larger. -/
def onGrid (r : Rounding) (p : Int) : Option Decimal :=
  let grid := Nat.pow 10 p.toNat * Nat.pow 2 (-r.exponent).toNat
  let scale := Nat.pow 2 r.exponent.toNat * Nat.pow 10 (-p).toNat
  let inside (n : Nat) : Bool :=
    if r.closed then r.lower * scale ≤ n * grid && n * grid ≤ r.upper * scale
    else r.lower * scale < n * grid && n * grid < r.upper * scale
  let below := r.value * scale / grid
  let above := below + 1
  let belowIsNearer := r.value * scale - below * grid < above * grid - r.value * scale
  match inside below, inside above with
  | true, true => some ⟨if belowIsNearer then below else above, p⟩
  | true, false => some ⟨below, p⟩
  | false, true => some ⟨above, p⟩
  | false, false => none

/-- The first of `grids` grids from `10 ^ p` downwards with a decimal inside the interval. -/
def coarsest (r : Rounding) (p : Int) : (grids : Nat) → Option Decimal
  | 0 => none
  | grids + 1 => (r.onGrid p).or (r.coarsest (p - 1) grids)

end Rounding

/-- The shortest decimal that rounds to `m · 2 ^ q`, for a positive `m`. -/
def shortest (m : Nat) (q : Int) : Decimal :=
  let bits := (m.log2 : Int) + 1 + q
  ((Rounding.of m q).coarsest (bits * 30103 / 100000 + 2) 22).getD ⟨0, 0⟩

/-- A decimal in positional notation. -/
def positional (d : Decimal) : List Char :=
  let ds := Text.digits d.significand
  if 0 ≤ d.exponent then
    ds ++ List.replicate d.exponent.toNat '0'
  else
    let places := (-d.exponent).toNat
    if places < ds.length then
      ds.take (ds.length - places) ++ '.' :: ds.drop (ds.length - places)
    else
      '0' :: '.' :: (List.replicate (places - ds.length) '0' ++ ds)

/-- A number with the fewest digits that read back. -/
def shortestChars (x : Float) : List Char :=
  match Binary.ofFloat x with
  | .nan => "NaN".toList
  | .infinite negative => (if negative then "-inf" else "inf").toList
  | .finite negative m q =>
    let body := if m = 0 then ['0'] else positional (shortest m q)
    if negative then '-' :: body else body

/-- The text of `shortestChars`. -/
def shortestText (x : Float) : String :=
  String.ofList (shortestChars x)

end Columnar.Decimal
