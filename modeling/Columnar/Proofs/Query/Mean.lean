import Columnar.Proofs.Decimal.Places
import Columnar.Query.Aggregate

/-!
# The text of a mean

A mean is printed as a double with two places. Here its text is told by numbers: the exact sum and the
count are rounded to the nearest doubles, so is their quotient, and that one is rounded to hundredths. Sums
and counts of at most 53 bits are doubles themselves, and then the quotient is rounded once.

* `Mean.text_eq` — **the text of a mean is that of the average**
* `averageText_of_le` — the text of an average whose sum and count fit into 128 and 64 bits
* `averageText_of_le_two_pow` — **where both are exact, the double is nearest to the exact average**
-/

namespace Columnar

open Decimal Float.Model Float.Model.UnpackedFloat

/-- The text of an average with two places, after a minus sign if the sum is negative. The double nearest
to the quotient of the doubles nearest to the sum and to the count is rounded to hundredths. Doubles from
`2 ^ 1024` on are infinite. -/
def averageText (sum : ℤ) (count : ℕ) : String :=
  let sign := if sum < 0 then "-" else ""
  let total := nearestDouble |(sum : ℚ)|
  let size := nearestDouble count
  if size < 2 ^ 1024 then
    if total < 2 ^ 1024 then sign ++ hundredthsText (nearestInt (100 * nearestDouble (total / size))).toNat
    else sign ++ "inf"
  else if total < 2 ^ 1024 then sign ++ "0.00"
  else "NaN"

variable {sum : ℤ} {count : ℕ}

theorem sign_text_eq (n : ℤ) : (if isNegative (signOf n / .positive) then "-" else "") = if n < 0 then "-" else "" := by
  unfold signOf
  split <;> rfl

theorem one_le_nearestDouble (h : 0 < count) : 1 ≤ nearestDouble count := by
  rw [← pow_zero 2]
  exact le_nearestDouble (isDouble_two_pow 0) (by exact_mod_cast h)

/-- A quotient by at least one does not overflow. -/
theorem nearestDouble_div_le (sum : ℤ) (h : 0 < count) :
    nearestDouble (nearestDouble |(sum : ℚ)| / nearestDouble count) ≤ nearestDouble |(sum : ℚ)| :=
  nearestDouble_le (isDouble_nearestDouble _)
    (div_le_self (nearestDouble_nonneg (abs_nonneg _)) (one_le_nearestDouble h))

/-- **The text of a mean is that of the average.** -/
theorem Mean.text_eq (m : Mean) (h : 0 < m.count) : m.text = averageText m.sum m.count := by
  obtain ⟨sum, count⟩ := m
  have htotal := isNearest_ofInt sum
  have hsize := isNearest_ofNat count
  show String.ofList (fixedChars 2 (Float.ofInt sum / Float.ofNat count)) = _
  simp only [averageText, ← sign_text_eq]
  by_cases hcount : nearestDouble count < 2 ^ 1024
  · rw [if_pos hcount]
    by_cases hsum : nearestDouble |(sum : ℚ)| < 2 ^ 1024
    · have hne : nearestDouble count ≠ 0 := (zero_lt_one.trans_le (one_le_nearestDouble h)).ne'
      have hdiv := isNearest_div (htotal.holds hsum) (hsize.holds hcount) hne
      rw [if_pos hsum]
      exact ofList_fixedChars_of_holds (hdiv.holds ((nearestDouble_div_le sum h).trans_lt hsum))
    · rw [if_neg hsum]
      exact ofList_fixedChars_of_infinity
        (unpack_infinity_div (htotal.infinite (not_lt.1 hsum)) (hsize.holds hcount))
  · rw [if_neg hcount]
    by_cases hsum : nearestDouble |(sum : ℚ)| < 2 ^ 1024
    · have hzero : hundredthsText (nearestInt (100 * 0)).toNat = "0.00" := by decide +kernel
      rw [if_pos hsum, ← hzero]
      exact ofList_fixedChars_of_holds (holds_div_infinity (htotal.holds hsum) (hsize.infinite (not_lt.1 hcount)))
    · rw [if_neg hsum]
      exact ofList_fixedChars_of_notANumber
        (unpack_infinity_div_infinity (htotal.infinite (not_lt.1 hsum)) (hsize.infinite (not_lt.1 hcount)))

/-- A sum of 128 bits and a count of 64 bits do not overflow. -/
theorem averageText_of_le (hsum : |sum| ≤ 2 ^ 127) (hcount : count ≤ 2 ^ 64) :
    averageText sum count =
      (if sum < 0 then "-" else "") ++
        hundredthsText (nearestInt (100 * nearestDouble (nearestDouble |(sum : ℚ)| / nearestDouble count))).toNat := by
  have htotal : nearestDouble |(sum : ℚ)| < 2 ^ 1024 :=
    (nearestDouble_le (isDouble_two_pow 127) (by exact_mod_cast hsum)).trans_lt
      (pow_lt_pow_right₀ one_lt_two (by decide))
  have hsize : nearestDouble count < 2 ^ 1024 :=
    (nearestDouble_le (isDouble_two_pow 64) (by exact_mod_cast hcount)).trans_lt
      (pow_lt_pow_right₀ one_lt_two (by decide))
  simp only [averageText, if_pos htotal, if_pos hsize]

/-- **Where the sum and the count are exact, the double is the one nearest to the exact average.** -/
theorem averageText_of_le_two_pow (hsum : |sum| ≤ 2 ^ 53) (hcount : count ≤ 2 ^ 53) :
    averageText sum count =
      (if sum < 0 then "-" else "") ++ hundredthsText (nearestInt (100 * nearestDouble (|(sum : ℚ)| / count))).toNat := by
  rw [averageText_of_le (hsum.trans (by norm_num)) (hcount.trans (by norm_num)), nearestDouble_natCast hcount,
    ← Int.cast_abs, Int.abs_eq_natAbs, Int.cast_natCast, nearestDouble_natCast]
  rw [Int.abs_eq_natAbs] at hsum
  exact_mod_cast hsum

example : averageText (-7) 2 = "-3.50" := by
  decide +kernel

end Columnar
