import Columnar.Decimal.Binary
import Columnar.Text.Numeral

/-!
# Fixed decimal places

A number is written with a fixed count of decimal places: its exact binary value is rounded to that
grid, a half going to the even neighbour. The sign of a negative number stays, also before a zero.

## Main statements

* `roundQuotient_mul_le`, `le_roundQuotient_mul`: the rounded quotient is within half a unit of the
  quotient.
* `roundQuotient_tie`: of two equally near neighbours the even one is taken.
-/

namespace Columnar.Decimal

/-- The integer nearest to `num / den`; of two equally near ones the even one. -/
def roundQuotient (num den : Nat) : Nat :=
  if 2 * (num % den) < den then num / den
  else if den < 2 * (num % den) then num / den + 1
  else if num / den % 2 = 0 then num / den else num / den + 1

theorem roundQuotient_mul_le (num den : Nat) :
    2 * (roundQuotient num den * den) ≤ 2 * num + den := by
  have h := Nat.div_add_mod num den
  have hc := Nat.mul_comm den (num / den)
  unfold roundQuotient
  split
  · omega
  · split
    · rw [Nat.add_mul]
      omega
    · split
      · omega
      · rw [Nat.add_mul]
        omega

theorem le_roundQuotient_mul {num den : Nat} (hden : 0 < den) :
    2 * num ≤ 2 * (roundQuotient num den * den) + den := by
  have h := Nat.div_add_mod num den
  have hc := Nat.mul_comm den (num / den)
  have hm := Nat.mod_lt num hden
  unfold roundQuotient
  split
  · omega
  · split
    · rw [Nat.add_mul]
      omega
    · split
      · omega
      · rw [Nat.add_mul]
        omega

/-- **Ties go to even**: what is rounded by half a unit becomes even. -/
theorem roundQuotient_tie {num den : Nat} (hden : 0 < den)
    (h : 2 * (roundQuotient num den * den) = 2 * num + den ∨ 2 * num = 2 * (roundQuotient num den * den) + den) :
    roundQuotient num den % 2 = 0 := by
  have hdiv := Nat.div_add_mod num den
  have hc := Nat.mul_comm den (num / den)
  have hlt := Nat.mod_lt num hden
  rcases Nat.lt_trichotomy (2 * (num % den)) den with hlow | hhalf | hhigh
  · rw [roundQuotient, if_pos hlow] at h
    omega
  · rw [roundQuotient, if_neg (by omega), if_neg (by omega)]
    split <;> omega
  · rw [roundQuotient, if_neg (by omega), if_pos hhigh, Nat.add_mul] at h
    omega

/-- The digits of `units`, at least one before the last `places` of them, with a point between. -/
def placePoint (places units : Nat) : List Char :=
  let ds := Text.digits units
  let padded := List.replicate (places + 1 - ds.length) '0' ++ ds
  padded.take (padded.length - places) ++ '.' :: padded.drop (padded.length - places)

/-- `m · 2 ^ q` in units of the last of `places` decimal places. -/
def unitsOf (places m : Nat) (q : Int) : Nat :=
  roundQuotient (m * Nat.pow 2 q.toNat * Nat.pow 10 places) (Nat.pow 2 (-q).toNat)

/-- A number with `places` decimal places. -/
def fixedChars (places : Nat) (x : Float) : List Char :=
  match Binary.ofFloat x with
  | .nan => "NaN".toList
  | .infinite negative => (if negative then "-inf" else "inf").toList
  | .finite negative m q =>
    let body := placePoint places (unitsOf places m q)
    if negative then '-' :: body else body

end Columnar.Decimal
