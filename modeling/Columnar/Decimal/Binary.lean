/-!
# The exact value of a binary64 number

A finite number is `m · 2 ^ q` with a sign; `m` and `q` are read off its 64 bits. Decimal texts are
computed from these three in exact integer arithmetic.
-/

namespace Columnar.Decimal

/-- What the 64 bits of a number say. -/
inductive Binary where
  | nan
  | infinite (negative : Bool)
  /-- The number `mantissa · 2 ^ exponent`, negated if `negative`. -/
  | finite (negative : Bool) (mantissa : Nat) (exponent : Int)
  deriving DecidableEq, Repr

/-- Reads the sign bit, the eleven exponent bits and the 52 fraction bits. -/
def Binary.ofBits (bits : Nat) : Binary :=
  let negative : Bool := bits / Nat.pow 2 63 % 2 == 1
  let biased : Nat := bits / Nat.pow 2 52 % Nat.pow 2 11
  let fraction : Nat := bits % Nat.pow 2 52
  if biased = 2047 then
    if fraction = 0 then .infinite negative else .nan
  else if biased = 0 then .finite negative fraction (-1074)
  else .finite negative (Nat.pow 2 52 + fraction) ((biased : Int) - 1075)

/-- The exact value of a number. -/
def Binary.ofFloat (x : Float) : Binary :=
  .ofBits x.toBits.toNat

end Columnar.Decimal
