import Columnar.Decimal.Fixed
import Columnar.Proofs.Decimal.Arithmetic

/-!
# Two decimal places

A double is written with two decimal places by exact arithmetic on its mantissa and its exponent. Here that
text is told by the number alone: it is the integer nearest to a hundred times the number, written with a
point before its last two digits.

* `roundQuotient_eq` — rounding a quotient of natural numbers is rounding to nearest
* `Binary.ofFloat_eq` — what is read off the bits of a number
* `ofList_fixedChars_of_holds` — **the text of a double with two places**
-/

namespace Columnar.Decimal

open Float.Model Float.Model.UnpackedFloat

/-! ## Hundredths -/

/-- A rounded quotient of natural numbers is the nearest integer. -/
theorem roundQuotient_eq (num : ℕ) {den : ℕ} (hden : 0 < den) :
    nearestInt (num / den) = roundQuotient num den := by
  have hpos : (0 : ℚ) < den := Nat.cast_pos.2 hden
  have hupper : (2 : ℚ) * (roundQuotient num den * den) ≤ 2 * num + den := by
    exact_mod_cast roundQuotient_mul_le num den
  have hlower : (2 : ℚ) * num ≤ 2 * (roundQuotient num den * den) + den := by
    exact_mod_cast le_roundQuotient_mul hden
  have hdist : (num : ℚ) / den - (roundQuotient num den : ℤ) =
      (num - roundQuotient num den * den) / den := by
    rw [Int.cast_natCast, sub_div, mul_div_cancel_right₀ _ hpos.ne']
  rw [nearestInt_eq_iff, hdist, abs_div, abs_of_pos hpos, div_le_iff₀ hpos, div_eq_iff hpos.ne']
  refine ⟨abs_le.2 ⟨by linarith, by linarith⟩, fun htie => ?_⟩
  rw [Int.even_coe_nat, Nat.even_iff]
  apply roundQuotient_tie hden
  rcases (abs_eq (by linarith)).1 htie with h | h
  · have hbelow : (2 : ℚ) * num = 2 * (roundQuotient num den * den) + den := by linarith
    exact .inr (by exact_mod_cast hbelow)
  · have habove : (2 : ℚ) * (roundQuotient num den * den) = 2 * num + den := by linarith
    exact .inl (by exact_mod_cast habove)

/-- A number of hundredths with a point before its last two digits. -/
def hundredthsText (n : ℕ) : String :=
  toString (n / 100) ++ "." ++ toString (n / 10 % 10) ++ toString (n % 10)

theorem toList_toString (n : ℕ) : (toString n).toList = Text.digits n := by
  rw [Nat.toString_eq_repr, Nat.toList_repr, Text.digits]

theorem digits_of_lt {n : ℕ} (h : n < 10) : Text.digits n = [n.digitChar] :=
  Nat.toDigits_of_lt_base h

theorem digits_of_le {n : ℕ} (h : 10 ≤ n) : Text.digits n = Text.digits (n / 10) ++ [(n % 10).digitChar] :=
  Nat.toDigits_of_base_le (by decide) h

/-- **Two decimal places are hundredths.** Of less than three digits zeros are put in front. -/
theorem placePoint_two (n : ℕ) : String.ofList (placePoint 2 n) = hundredthsText n := by
  have htext : (hundredthsText n).toList =
      Text.digits (n / 100) ++ '.' :: [(n / 10 % 10).digitChar, (n % 10).digitChar] := by
    rw [hundredthsText, String.toList_append, String.toList_append, String.toList_append, toList_toString,
      toList_toString, toList_toString, digits_of_lt (Nat.mod_lt (n / 10) (by decide)),
      digits_of_lt (Nat.mod_lt n (by decide))]
    simp
  rw [← String.ofList_toList (s := hundredthsText n), htext, placePoint]
  congr 1
  rcases lt_or_ge n 10 with hten | hten
  · rw [digits_of_lt hten, Nat.div_eq_of_lt (by omega : n < 100), Nat.div_eq_of_lt hten, Nat.mod_eq_of_lt hten]
    rfl
  · rcases lt_or_ge n 100 with hhundred | hhundred
    · have hquot : n / 10 < 10 := by omega
      rw [digits_of_le hten, digits_of_lt hquot, Nat.div_eq_of_lt hhundred, Nat.mod_eq_of_lt hquot]
      rfl
    · have hquot : n / 10 / 10 = n / 100 := by rw [Nat.div_div_eq_div_mul]
      have hpos : 0 < (Text.digits (n / 100)).length := List.length_pos_of_ne_nil (Text.digits_ne_nil _)
      rw [digits_of_le hten, digits_of_le (n := n / 10) (by omega), hquot]
      simp [show 2 + 1 - ((Text.digits (n / 100)).length + 1 + 1) = 0 by omega]

/-! ## The bits of a number -/

/-- Whether a minus sign is written. -/
def isNegative : Sign → Bool
  | .negative => true
  | .positive => false

/-- What is read off the bits of a number; a zero has the least exponent. -/
def Binary.ofUnpacked : UnpackedFloat → Binary
  | .notANumber => .nan
  | .infinity s => .infinite (isNegative s)
  | .zero s => .finite (isNegative s) 0 (-1074)
  | .finite s m e _ => .finite (isNegative s) m e

section Bits

variable (bits : BitVec 64)

theorem toNat_unpackMantissa : (@unpackMantissa .binary64 bits).toNat = bits.toNat % 2 ^ 52 := by
  simp [unpackMantissa]

theorem toNat_unpackExponent :
    (@unpackExponent .binary64 bits).toNat = bits.toNat / 2 ^ 52 % 2 ^ 11 := by
  simp [unpackExponent, Nat.shiftRight_eq_div_pow]

theorem isNegative_unpackSign :
    isNegative (Sign.ofBitVec (@unpackSign .binary64 bits)) = (bits.toNat / 2 ^ 63 % 2 == 1) := by
  have hsign : (@unpackSign .binary64 bits).toNat = bits.toNat / 2 ^ 63 % 2 := by
    simp [unpackSign, Nat.shiftRight_eq_div_pow]
  rw [← hsign]
  generalize (@unpackSign .binary64 bits : BitVec 1) = sign
  revert sign
  decide

end Bits

/-- **Reading the bits of a number is unpacking it.** -/
theorem Binary.ofFloat_eq (x : Float) : Binary.ofFloat x = .ofUnpacked x.toModel.unpack := by
  show Binary.ofBits x.toModel.toBits.toBitVec.toNat = .ofUnpacked (UnpackedFloat.unpack .binary64 _)
  generalize x.toModel.toBits.toBitVec = bits
  have hsign := isNegative_unpackSign bits
  have hmantissa := toNat_unpackMantissa bits
  have hexponent := toNat_unpackExponent bits
  rw [Binary.ofBits, UnpackedFloat.unpack]
  simp only [Nat.pow_eq, ← hsign, ← hmantissa, ← hexponent]
  have hall : (@unpackExponent .binary64 bits).toNat = 2047 ↔ _ := BitVec.toNat_inj (y := -1#11)
  have hnone : (@unpackExponent .binary64 bits).toNat = 0 ↔ _ := BitVec.toNat_inj (y := 0#11)
  have hempty : (@unpackMantissa .binary64 bits).toNat = 0 ↔ _ := BitVec.toNat_inj (y := 0#52)
  simp only [hall, hnone, hempty]
  split_ifs with hinfinite hzero hsubnormal hzero
  · rfl
  · rfl
  · rw [hempty.2 hzero]
    rfl
  · rw [Binary.ofUnpacked, hsubnormal]
    rfl
  · rw [Binary.ofUnpacked, toNat_implicit_append]
    rfl

/-! ## The text of a double -/

variable {x : Float} {s : Sign} {q : ℚ}

/-- A mantissa and an exponent in hundredths. -/
theorem unitsOf_two (m : ℕ) (e : ℤ) : nearestInt (100 * (m * 2 ^ e)) = unitsOf 2 m e := by
  have hquotient : (100 : ℚ) * (m * 2 ^ e) =
      (m * Nat.pow 2 e.toNat * Nat.pow 10 2 : ℕ) / (Nat.pow 2 (-e).toNat : ℕ) := by
    rw [two_zpow_eq_div]
    push_cast [Nat.pow_eq]
    ring
  rw [hquotient]
  exact roundQuotient_eq _ (Nat.pow_pos two_pos)

theorem Holds.exists_ofUnpacked {u : UnpackedFloat} (h : Holds s q u) :
    ∃ (m : ℕ) (e : ℤ), Binary.ofUnpacked u = .finite (isNegative s) m e ∧ q = m * 2 ^ e := by
  cases h with
  | zero => exact ⟨0, -1074, rfl, by simp⟩
  | finite => exact ⟨_, _, rfl, rfl⟩

/-- **The text of a double with two places** is the nearest number of hundredths, after its sign. -/
theorem ofList_fixedChars_of_holds (h : Holds s q x.toModel.unpack) :
    String.ofList (fixedChars 2 x) =
      (if isNegative s then "-" else "") ++ hundredthsText (nearestInt (100 * q)).toNat := by
  obtain ⟨m, e, hbinary, rfl⟩ := h.exists_ofUnpacked
  rw [fixedChars, Binary.ofFloat_eq, hbinary, unitsOf_two, Int.toNat_natCast, ← placePoint_two]
  cases isNegative s
  · simp
  · simp [String.ofList_cons]

theorem ofList_fixedChars_of_infinity (h : x.toModel.unpack = .infinity s) :
    String.ofList (fixedChars 2 x) = (if isNegative s then "-" else "") ++ "inf" := by
  rw [fixedChars, Binary.ofFloat_eq, h]
  cases s <;> rfl

theorem ofList_fixedChars_of_notANumber (h : x.toModel.unpack = .notANumber) :
    String.ofList (fixedChars 2 x) = "NaN" := by
  rw [fixedChars, Binary.ofFloat_eq, h]
  rfl

end Columnar.Decimal
