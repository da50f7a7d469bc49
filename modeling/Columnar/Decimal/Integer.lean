import Columnar.Decimal.Binary

/-!
# The integer nearest to a number

A number is rounded by exact arithmetic on its mantissa and its exponent, a half away from zero, and cut down
to 64 bits. A NaN becomes zero.
-/

namespace Columnar.Decimal

/-- The integer nearest to `m · 2 ^ q`; of two equally near ones the greater one. -/
def wholeUnits (m : Nat) (q : Int) : Nat :=
  (2 * (m * Nat.pow 2 q.toNat) + Nat.pow 2 (-q).toNat) / (2 * Nat.pow 2 (-q).toNat)

/-- The 64-bit integer nearest to a number. -/
def toInt64 (x : Float) : Int64 :=
  match Binary.ofFloat x with
  | .nan => 0
  | .infinite negative => if negative then Int64.minValue else Int64.maxValue
  | .finite negative m q =>
    let units : Int := wholeUnits m q
    .ofIntClamp (if negative then -units else units)

end Columnar.Decimal
