import Mathlib.Data.Prod.Lex
import Mathlib.Order.Lattice

/-!
# Comparing binary64 numbers

A comparison of two numbers looks at their classes first, from minus infinity over the negative numbers
and the two zeros up to infinity, and then at exponent and mantissa. So each number that is one has a
place in a linear order, and comparing is comparing places. A NaN has no place: it compares with nothing.

* `Decimal.le_iff`, `Decimal.lt_iff` — comparisons as comparisons of places
* `Decimal.le_trans` — **comparing is transitive**
* `Decimal.not_le_iff` — when a number is not at most another one
-/

namespace Columnar.Decimal

open Float.Model

/-! ## Places -/

/-- The place of a number in the order of all numbers: its class, then its exponent and its mantissa,
both negated below zero. -/
def place : UnpackedFloat → Int ×ₗ Int ×ₗ Int
  | .infinity .negative => toLex (-2, toLex (0, 0))
  | .finite .negative mantissa exponent _ => toLex (-1, toLex (-exponent, -mantissa))
  | .zero _ => toLex (0, toLex (0, 0))
  | .finite .positive mantissa exponent _ => toLex (1, toLex (exponent, mantissa))
  | .infinity .positive => toLex (2, toLex (0, 0))
  | .notANumber => toLex (0, toLex (0, 0))

theorem compare_toLex (c c' e e' m m' : Int) :
    compare (toLex (c, toLex (e, m))) (toLex (c', toLex (e', m'))) =
      (compare c c').then ((compare e e').then (compare m m')) := by
  simp only [Prod.Lex.compare_def, compareLex, compareOn, ofLex_toLex]

theorem compare_neg_neg (a b : Int) : compare (-a) (-b) = (compare a b).swap := by
  rw [Int.compare_swap, Int.compare_eq_ite_lt, Int.compare_eq_ite_lt]
  simp only [Int.neg_lt_neg_iff]

theorem compare_natCast (a b : Nat) : compare (a : Int) (b : Int) = compare a b := by
  rw [Nat.compare_eq_ite_lt, Int.compare_eq_ite_lt]
  simp only [Int.ofNat_lt]

/-- Positive numbers compare by their exponents, and by their mantissas where these are equal. -/
theorem compare_positive (e e' : Int) (m m' : Nat) :
    (compare e e').then (compare m m') =
      compare (toLex (1, toLex (e, (m : Int)))) (toLex ((1 : Int), toLex (e', (m' : Int)))) := by
  rw [compare_toLex, compare_natCast]
  rfl

/-- Negative numbers compare the other way round. -/
theorem compare_negative (e e' : Int) (m m' : Nat) :
    ((compare e e').then (compare m m')).swap =
      compare (toLex (-1, toLex (-e, -(m : Int)))) (toLex ((-1 : Int), toLex (-e', -(m' : Int)))) := by
  rw [compare_toLex, compare_neg_neg e e', compare_neg_neg m m', compare_natCast, Ordering.swap_then]
  rfl

/-- **Numbers compare as their places do.** Classes that differ decide alone. -/
theorem compare_eq_some {x y : UnpackedFloat} (hx : x.isNaN = false) (hy : y.isNaN = false) :
    x.compare y = some (compare (place x) (place y)) := by
  rcases x with (_ | _) | _ | _ | ⟨_ | _, m, e, hm⟩ <;>
    rcases y with (_ | _) | _ | _ | ⟨_ | _, m', e', hm'⟩ <;>
    first
      | rfl
      | contradiction
      | exact congrArg some (compare_positive ..)
      | exact congrArg some (compare_negative ..)

theorem compare_of_isNaN {x y : UnpackedFloat} (h : x.isNaN = true ∨ y.isNaN = true) : x.compare y = none := by
  have hnan : ∀ {z : UnpackedFloat}, z.isNaN = true → z = .notANumber := by
    rintro (_ | _ | _ | _) hz <;> first | rfl | contradiction
  rcases h with h | h
  · rw [hnan h]
    rfl
  · rw [hnan h]
    rcases x with (_ | _) | _ | _ | _ <;> rfl

/-! ## The order of the numbers -/

variable {a b c : Float}

/-- The place of a number in the order of all numbers. -/
def placeOf (a : Float) : Int ×ₗ Int ×ₗ Int :=
  place a.toModel.unpack

theorem compare_unpack (a b : Float) :
    a.toModel.unpack.compare b.toModel.unpack =
      if a.isNaN || b.isNaN then none else some (compare (placeOf a) (placeOf b)) := by
  split
  · rename_i h
    exact compare_of_isNaN (Bool.or_eq_true_iff.1 h)
  · rename_i h
    obtain ⟨ha, hb⟩ := Bool.or_eq_false_iff.1 (Bool.eq_false_iff.2 h)
    exact compare_eq_some ha hb

/-- **A number is at most another one iff both are numbers and their places are in that order.** -/
protected theorem le_iff : a ≤ b ↔ a.isNaN = false ∧ b.isNaN = false ∧ placeOf a ≤ placeOf b := by
  have hle : a ≤ b ↔ (a.toModel.unpack.compare b.toModel.unpack).any Ordering.isLE = true :=
    decide_eq_true_iff
  rw [hle, compare_unpack]
  cases a.isNaN <;> cases b.isNaN <;> simp [Ordering.isLE_iff_ne_gt, compare_le_iff_le]

protected theorem lt_iff : a < b ↔ a.isNaN = false ∧ b.isNaN = false ∧ placeOf a < placeOf b := by
  have hlt : a < b ↔ (a.toModel.unpack.compare b.toModel.unpack == some Ordering.lt) = true :=
    decide_eq_true_iff
  rw [hlt, compare_unpack]
  cases a.isNaN <;> cases b.isNaN <;> simp [compare_lt_iff_lt]

/-- **Comparing is transitive.** -/
protected theorem le_trans (hab : a ≤ b) (hbc : b ≤ c) : a ≤ c := by
  obtain ⟨ha, -, hab⟩ := Decimal.le_iff.1 hab
  obtain ⟨-, hc, hbc⟩ := Decimal.le_iff.1 hbc
  exact Decimal.le_iff.2 ⟨ha, hc, hab.trans hbc⟩

/-- A number is not at most another one if one of them is a NaN or it is the greater one. -/
protected theorem not_le_iff : ¬ a ≤ b ↔ a.isNaN = true ∨ b.isNaN = true ∨ b < a := by
  rw [Decimal.le_iff, Decimal.lt_iff]
  cases a.isNaN <;> cases b.isNaN <;> simp

end Columnar.Decimal
