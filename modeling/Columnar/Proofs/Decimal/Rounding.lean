import Columnar.Proofs.Decimal.Nearest
import Mathlib

/-!
# Rounding to doubles

The arithmetic of doubles is defined on mantissas and exponents. A result is computed to a mantissa with
two more bits, which tell whether the exact result is at the mantissa, at a half above it, or between; it is
shifted to its place and rounded by the two bits. Here a mantissa with two more bits is read as a set of
rational numbers, each step is told by what it does to these, and what the steps give together is the double
nearest to the exact result.

* `Represents.shift`, `Represents.roundedMantissa` — a shift divides, and the two bits decide the rounding
* `holds_roundWithAccuracy`, `holds_round` — **rounding gives the nearest double**
-/

namespace Columnar.Decimal

open Float.Model Float.Model.UnpackedFloat

/-! ## Mantissas with residual bits -/

/-- The number that a mantissa stands for with its two residual bits: the first one tells whether the
number is at least a half above the mantissa, the second one whether it is more than that. -/
inductive Represents : ExtendedMantissa → ℚ → Prop
  | exact (m : ℕ) : Represents ⟨m, false, false⟩ m
  | belowHalf {m : ℕ} {x : ℚ} (hlow : m < x) (hhigh : x < m + 1 / 2) : Represents ⟨m, false, true⟩ x
  | half (m : ℕ) : Represents ⟨m, true, false⟩ (m + 1 / 2)
  | aboveHalf {m : ℕ} {x : ℚ} (hlow : m + 1 / 2 < x) (hhigh : x < m + 1) : Represents ⟨m, true, true⟩ x

namespace Represents

variable {em : ExtendedMantissa} {x : ℚ}

theorem le (h : Represents em x) : (em.mantissa : ℚ) ≤ x := by
  cases h <;> dsimp only <;> linarith

theorem lt (h : Represents em x) : x < em.mantissa + 1 := by
  cases h <;> dsimp only <;> linarith

/-- **The residual bits decide the rounding.** -/
theorem roundedMantissa (h : Represents em x) : nearestInt x = em.roundedMantissa := by
  rw [nearestInt_eq_iff]
  cases h with
  | exact m => simp [ExtendedMantissa.roundedMantissa, ExtendedMantissa.accuracy, Accuracy.roundToNearestEven]
  | @belowHalf m _ hlow hhigh =>
    show |x - (m : ℤ)| ≤ _ ∧ (|x - (m : ℤ)| = _ → _)
    rw [Int.cast_natCast, abs_of_nonneg (by linarith)]
    exact ⟨by linarith, fun hhalf => by linarith⟩
  | half m =>
    show |(m : ℚ) + 1 / 2 - ((m + m % 2 : ℕ) : ℤ)| ≤ _ ∧ (_ → Even ((m + m % 2 : ℕ) : ℤ))
    rcases Nat.mod_two_eq_zero_or_one m with hm | hm
    · rw [hm, Int.even_coe_nat]
      exact ⟨by simp, fun _ => Nat.even_iff.2 hm⟩
    · rw [hm, Int.even_coe_nat]
      refine ⟨?_, fun _ => (Nat.odd_iff.2 hm).add_one⟩
      push_cast
      rw [abs_of_nonpos] <;> linarith
  | @aboveHalf m _ hlow hhigh =>
    show |x - ((m + 1 : ℕ) : ℤ)| ≤ _ ∧ (|x - ((m + 1 : ℕ) : ℤ)| = _ → _)
    push_cast
    rw [abs_of_nonpos (by linarith)]
    exact ⟨by linarith, fun hhalf => by linarith⟩

theorem shiftRightOne_even (k : ℕ) (r s : Bool) :
    ExtendedMantissa.shiftRightOne ⟨2 * k, r, s⟩ = ⟨k, false, r || s⟩ := by
  simp [ExtendedMantissa.shiftRightOne]

theorem shiftRightOne_odd (k : ℕ) (r s : Bool) :
    ExtendedMantissa.shiftRightOne ⟨2 * k + 1, r, s⟩ = ⟨k, true, r || s⟩ := by
  simp [ExtendedMantissa.shiftRightOne]
  omega

/-- A shift by one bit halves the number: an even mantissa is halved, and of an odd one the last bit
becomes a residual bit. -/
theorem shiftRightOne (h : Represents em x) : Represents em.shiftRightOne (x / 2) := by
  obtain ⟨m, r, s⟩ := em
  obtain ⟨k, rfl | rfl⟩ := m.even_or_odd'
  · rw [shiftRightOne_even]
    cases h with
    | exact => simpa using Represents.exact k
    | belowHalf hlow hhigh =>
      push_cast at hlow hhigh
      exact .belowHalf (by linarith) (by linarith)
    | half =>
      push_cast
      exact .belowHalf (by linarith) (by linarith)
    | aboveHalf hlow hhigh =>
      push_cast at hlow hhigh
      exact .belowHalf (by linarith) (by linarith)
  · rw [shiftRightOne_odd]
    cases h with
    | exact =>
      have hhalf : ((2 * k + 1 : ℕ) : ℚ) / 2 = k + 1 / 2 := by
        push_cast
        ring
      rw [hhalf]
      exact .half k
    | belowHalf hlow hhigh =>
      push_cast at hlow hhigh
      exact .aboveHalf (by linarith) (by linarith)
    | half =>
      push_cast
      exact .aboveHalf (by linarith) (by linarith)
    | aboveHalf hlow hhigh =>
      push_cast at hlow hhigh
      exact .aboveHalf (by linarith) (by linarith)

/-- **A shift divides the number by a power of two.** -/
theorem shift (h : Represents em x) (k : ℕ) : Represents (em >>> k) (x / 2 ^ k) := by
  show Represents (k.repeat ExtendedMantissa.shiftRightOne em) _
  induction k with
  | zero => simpa [Nat.repeat] using h
  | succ k ih =>
    rw [pow_succ, ← div_div]
    exact ih.shiftRightOne

/-- A mantissa and a fraction. -/
theorem ofFraction (m : ℕ) {num den : ℕ} (h : num < den) :
    Represents (.ofMantissaAndAccuracy m (accuracyOfFraction num den)) (m + num / den) := by
  have hden : (0 : ℚ) < den := by exact_mod_cast Nat.zero_lt_of_lt h
  have hlt : (num : ℚ) / den < 1 := (div_lt_one hden).2 (by exact_mod_cast h)
  unfold accuracyOfFraction
  split
  · rename_i hzero
    rw [hzero, Nat.cast_zero, zero_div, add_zero]
    exact .exact m
  · rename_i hzero
    have hpos : (0 : ℚ) < num / den := div_pos (by exact_mod_cast Nat.pos_of_ne_zero hzero) hden
    rcases Nat.lt_trichotomy (2 * num) den with hhalf | hhalf | hhalf
    · rw [Nat.compare_eq_lt.2 hhalf]
      have hbelow : (num : ℚ) / den < 1 / 2 := by
        rw [div_lt_div_iff₀ hden two_pos, one_mul]
        exact_mod_cast (Nat.mul_comm num 2).trans_lt hhalf
      exact .belowHalf (by linarith) (by linarith)
    · rw [Nat.compare_eq_eq.2 hhalf]
      have heq : (num : ℚ) / den = 1 / 2 := by
        rw [div_eq_div_iff hden.ne' two_ne_zero, one_mul]
        exact_mod_cast (Nat.mul_comm num 2).trans hhalf
      rw [heq]
      exact .half m
    · rw [Nat.compare_eq_gt.2 hhalf]
      have habove : (1 : ℚ) / 2 < num / den := by
        rw [div_lt_div_iff₀ two_pos hden, one_mul]
        exact_mod_cast hhalf.trans_eq (Nat.mul_comm 2 num)
      exact .aboveHalf (by linarith) (by linarith)

end Represents

/-! ## Rounding -/

/-- A finite number with its sign and its magnitude, whose mantissa has 53 bits unless the exponent is the
least one. -/
inductive Holds (s : Sign) : ℚ → UnpackedFloat → Prop
  | zero : Holds s 0 (.zero s)
  | finite {m : ℕ} {e : ℤ} (hpos : 0 < m) (hlt : m < 2 ^ 53) (hleast : -1074 ≤ e)
      (hbits : 2 ^ 52 ≤ m ∨ e = -1074) : Holds s (m * 2 ^ e) (.finite s m e hpos)

variable {m : ℕ} {e : ℤ} {s t : Sign}

theorem targetExponent_eq (m : ℕ) (e : ℤ) :
    Format.binary64.targetExponent (totalExponent m e) = max (m.log2 + e - 52) (-1074) := by
  simp only [Format.targetExponent, totalExponent, Format.mantissaBits, Format.minExponent]
  norm_num
  omega

/-- The leading bit of a mantissa is that of the number it stands for. -/
theorem log_eq {v : ℚ} (hm : 0 < m) (hlow : m ≤ v) (hhigh : v < m + 1) :
    Int.log 2 (v * 2 ^ e) = m.log2 + e := by
  have hv : (0 : ℚ) < v * 2 ^ e := mul_pos ((Nat.cast_pos.2 hm).trans_le hlow) (two_zpow_pos e)
  have hleast : (2 : ℚ) ^ m.log2 ≤ v :=
    le_trans (by exact_mod_cast Nat.log2_self_le hm.ne') hlow
  have hmost : v < (2 : ℚ) ^ (m.log2 + 1) :=
    hhigh.trans_le (by exact_mod_cast Nat.succ_le_of_lt Nat.lt_log2_self)
  apply le_antisymm
  · rw [← Int.lt_add_one_iff, ← Int.lt_zpow_iff_log_lt one_lt_two hv, add_right_comm, ← Nat.cast_succ]
    push_cast
    rw [two_zpow_add]
    exact mul_lt_mul_of_pos_right (by exact_mod_cast hmost) (two_zpow_pos e)
  · rw [← Int.zpow_le_iff_le_log one_lt_two hv]
    push_cast
    rw [two_zpow_add, zpow_natCast]
    exact mul_le_mul_of_nonneg_right hleast (two_zpow_pos e).le

/-- A result is shifted to the last place of the exact result. -/
theorem targetExponent_eq_lastPlace {v : ℚ} (hpos : 0 < v) (hlow : m ≤ v) (hhigh : v < m + 1)
    (hbits : 0 < m ∨ e ≤ -1074) :
    Format.binary64.targetExponent (totalExponent m e) = lastPlace (v * 2 ^ e) := by
  have habs : |v * 2 ^ e| = v * 2 ^ e := abs_of_pos (mul_pos hpos (two_zpow_pos e))
  rw [targetExponent_eq, lastPlace, habs]
  rcases Nat.eq_zero_or_pos m with rfl | hm
  · -- a number below the least mantissa is among the smallest
    have hleast := hbits.resolve_left (lt_irrefl 0)
    have hlog : Int.log 2 (v * 2 ^ e) < e := by
      rw [← Int.lt_zpow_iff_log_lt one_lt_two (mul_pos hpos (two_zpow_pos e))]
      push_cast at hhigh ⊢
      nlinarith [two_zpow_pos e]
    rw [Nat.log2_zero]
    omega
  · rw [log_eq hm hlow hhigh]

/-- A mantissa that fits stays where it is. -/
theorem shiftToTargetExponent_of_lt (hm : m < 2 ^ 53) (he : -1074 ≤ e) :
    shiftToTargetExponent .binary64 m e .exact = (⟨m, false, false⟩, e) := by
  have hlog : m.log2 < 53 := by
    rcases Nat.eq_zero_or_pos m with rfl | hpos
    · decide
    · exact (Nat.log2_lt hpos.ne').2 hm
  have hshift : (Format.binary64.targetExponent (totalExponent m e) - e).toNat = 0 := by
    rw [targetExponent_eq]
    omega
  rw [shiftToTargetExponent, shiftToExponent, hshift]
  simp only [Nat.cast_zero, add_zero]
  rfl

/-- The power of two after 53 bits is shifted by one bit. -/
theorem shiftToTargetExponent_two_pow (he : -1074 ≤ e) :
    shiftToTargetExponent .binary64 (2 ^ 53) e .exact = (⟨2 ^ 52, false, false⟩, e + 1) := by
  have hshift : (Format.binary64.targetExponent (totalExponent (2 ^ 53) e) - e).toNat = 1 := by
    rw [targetExponent_eq, Nat.log2_two_pow]
    omega
  rw [shiftToTargetExponent, shiftToExponent, hshift]
  rfl

/-- After the first shift, what is rounded to at most 53 bits is the result, and the power of two after them
is shifted once more. -/
theorem holds_of_rounded {r : ℕ} (hr : r ≤ 2 ^ 53) (he : -1074 ≤ e) (hbits : 2 ^ 52 ≤ r ∨ e = -1074) :
    Holds s (r * 2 ^ e) (
      let shifted := shiftToTargetExponent .binary64 r e .exact
      if h : shifted.1.mantissa = 0 then .zero s
      else .finite s shifted.1.mantissa shifted.2 (Nat.pos_of_ne_zero h)) := by
  rcases hr.lt_or_eq with hlt | rfl
  · rw [shiftToTargetExponent_of_lt hlt he]
    rcases Nat.eq_zero_or_pos r with rfl | hpos
    · simpa using Holds.zero
    · simpa [hpos.ne'] using Holds.finite hpos hlt he hbits
  · rw [shiftToTargetExponent_two_pow he]
    have hvalue : ((2 ^ 53 : ℕ) : ℚ) * 2 ^ e = (2 ^ 52 : ℕ) * 2 ^ (e + 1) := by
      rw [two_zpow_add]
      push_cast
      ring
    rw [hvalue]
    exact .finite (by decide) (by decide) (by omega) (.inl le_rfl)

/-- **Rounding gives the nearest double**, from a mantissa that loses bits only. -/
theorem holds_roundWithAccuracy {acc : Accuracy} {v : ℚ}
    (hv : Represents (.ofMantissaAndAccuracy m acc) v) (hpos : 0 < v) (hbits : 2 ^ 52 ≤ m ∨ e ≤ -1074) :
    Holds s (nearestDouble (v * 2 ^ e)) (roundWithAccuracy .binary64 s m e acc) := by
  have hmantissa : (ExtendedMantissa.ofMantissaAndAccuracy m acc).mantissa = m := by
    rcases acc with _ | _ | _ | _ <;> rfl
  have hlow := hv.le
  have hhigh := hv.lt
  rw [hmantissa] at hlow hhigh
  have htarget := targetExponent_eq_lastPlace hpos hlow hhigh (hbits.imp_left (by omega))
  have hplace : e ≤ lastPlace (v * 2 ^ e) := by
    rw [← htarget, targetExponent_eq]
    have hlog : 2 ^ 52 ≤ m → 52 ≤ m.log2 := fun h => (Nat.le_log2 (by omega)).2 h
    omega
  obtain ⟨k, hk⟩ : ∃ k : ℕ, lastPlace (v * 2 ^ e) = e + k := ⟨(lastPlace (v * 2 ^ e) - e).toNat, by omega⟩
  have hshift : (lastPlace (v * 2 ^ e) - e).toNat = k := by omega
  have hscaled : v * 2 ^ e / 2 ^ lastPlace (v * 2 ^ e) = v / 2 ^ k := by
    rw [hk, two_zpow_add, zpow_natCast, mul_comm, mul_div_mul_left _ _ (two_zpow_pos e).ne']
  have hrounded := (hv.shift k).roundedMantissa
  have hmost := abs_nearestInt_div_lastPlace_le (v * 2 ^ e)
  rw [hscaled, hrounded, Nat.abs_cast] at hmost
  rw [nearestDouble, hscaled, hrounded, Int.cast_natCast, roundWithAccuracy, shiftToTargetExponent, htarget,
    shiftToExponent, hshift, hk]
  refine holds_of_rounded (by exact_mod_cast hmost) (hk ▸ neg_1074_le_lastPlace _) ?_
  by_cases hleast : lastPlace (v * 2 ^ e) = -1074
  · exact .inr (hk ▸ hleast)
  · -- unless it is among the smallest, the exact result has 53 bits before it is rounded
    have hfull := le_abs_div_lastPlace (mul_pos hpos (two_zpow_pos e)).ne'
      (lt_of_le_of_ne (neg_1074_le_lastPlace _) (Ne.symm hleast))
    rw [hscaled, abs_of_pos (div_pos hpos (by positivity))] at hfull
    have hle : 2 ^ 52 ≤ nearestInt (v / 2 ^ k) := le_nearestInt (by push_cast; exact hfull)
    rw [hrounded] at hle
    exact .inl (by exact_mod_cast hle)

/-- Rounding a mantissa that may have too few bits, which is lengthened first. -/
theorem holds_round (s : Sign) (hm : 0 < m) (e : ℤ) :
    Holds s (nearestDouble (m * 2 ^ e)) (UnpackedFloat.round .binary64 s m e) := by
  obtain ⟨k, hk⟩ : ∃ k, (e - Format.binary64.targetExponent (totalExponent m e)).toNat = k := ⟨_, rfl⟩
  have hvalue : (m : ℚ) * 2 ^ e = (m * 2 ^ k : ℕ) * 2 ^ (e - k) := by
    rw [Nat.cast_mul, mul_assoc]
    push_cast
    rw [← zpow_natCast, ← two_zpow_add, add_sub_cancel]
  have hround : UnpackedFloat.round .binary64 s m e =
      roundWithAccuracy .binary64 s (m * 2 ^ k) (e - k) .exact := by
    rw [UnpackedFloat.round, decreaseExponent, hk, Nat.shiftLeft_eq]
  rw [hvalue, hround]
  refine holds_roundWithAccuracy (.exact _) (by exact_mod_cast Nat.mul_pos hm (by positivity)) ?_
  rw [targetExponent_eq] at hk
  rw [or_iff_not_imp_right]
  intro hleast
  calc 2 ^ 52 ≤ 2 ^ (m.log2 + k) := Nat.pow_le_pow_right two_pos (by omega)
    _ = 2 ^ m.log2 * 2 ^ k := pow_add 2 _ k
    _ ≤ m * 2 ^ k := Nat.mul_le_mul_right _ (Nat.log2_self_le hm.ne')

end Columnar.Decimal
