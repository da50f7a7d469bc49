import Columnar.Decimal.Integer
import Columnar.Proofs.Decimal.Order
import Columnar.Proofs.Decimal.Places

/-!
# Integers and the numbers they are nearest to

Every double that is neither infinite nor a NaN holds a number, and doubles compare as these numbers do.
Rounding a double to an integer is rounding the number that it holds: the arithmetic on mantissa and exponent
loses nothing.

* `holds_unpack` — **finite doubles hold numbers**
* `Holds.le_of_place_le` — comparing doubles is comparing numbers
* `toInt64_of_holds` — **what a double is rounded to**
-/

namespace Columnar.Decimal

open Float.Model Float.Model.UnpackedFloat

/-! ## Magnitudes -/

/-- The number that stands behind the sign of a double. Infinities and NaNs hold none. -/
def magnitude : UnpackedFloat → ℚ
  | .finite _ m e _ => m * 2 ^ e
  | _ => 0

variable {x y : Float} {s t : Sign} {q r : ℚ} {u v : UnpackedFloat}

theorem Holds.eq_magnitude (h : Holds s q u) : q = magnitude u := by
  cases h with
  | zero => rfl
  | finite => rfl

theorem Holds.nonneg (h : Holds s q u) : 0 ≤ q := by
  cases h with
  | zero => rfl
  | finite => exact mul_nonneg (Nat.cast_nonneg _) (two_zpow_pos _).le

/-- **Sixty-four bits are a NaN or an infinity, or they hold a number.** -/
theorem holds_unpack (bits : BitVec 64) :
    UnpackedFloat.unpack .binary64 bits = .notANumber ∨ (∃ s, UnpackedFloat.unpack .binary64 bits = .infinity s) ∨
      ∃ s q, Holds s q (UnpackedFloat.unpack .binary64 bits) := by
  have hmantissa : (@unpackMantissa .binary64 bits).toNat < 2 ^ 52 := (@unpackMantissa .binary64 bits).isLt
  rw [UnpackedFloat.unpack]
  dsimp only
  split_ifs with hinfinite hzero hsubnormal hzero
  · exact .inr (.inl ⟨_, rfl⟩)
  · exact .inl rfl
  · exact .inr (.inr ⟨_, _, .zero⟩)
  · refine .inr (.inr ⟨_, _, .finite _ (by omega) ?_ (.inr ?_)⟩) <;> rw [hsubnormal] <;> decide
  · have hpos : 0 < (@unpackExponent .binary64 bits).toNat :=
      Nat.pos_of_ne_zero fun h => hsubnormal (BitVec.toNat_inj.1 h)
    have hlead := toNat_implicit_append (@unpackMantissa .binary64 bits)
    refine .inr (.inr ⟨_, _, .finite _ ?_ ?_ (.inl ?_)⟩)
    · exact hlead.trans_lt (by omega)
    · show -1074 ≤ ((@unpackExponent .binary64 bits).toNat : ℤ) - 1075
      omega
    · exact hlead.symm.le.trans' (Nat.le_add_right _ _)

/-! ## Comparing -/

/-- A positive double at a higher place holds a greater number. -/
theorem Holds.le_of_place_le (hu : Holds .positive q u) (hv : Holds .positive r v) (h : place u ≤ place v) :
    q ≤ r := by
  cases hu with
  | zero => exact hv.nonneg
  | @finite m e hpos hlt hleast hbits =>
    cases hv with
    | zero => exact absurd h (by simp [place, Prod.Lex.toLex_le_toLex])
    | @finite m' e' hpos' hlt' hleast' hbits' =>
      have hexponent : e < e' ∨ e = e' ∧ m ≤ m' := by
        simpa [place, Prod.Lex.toLex_le_toLex] using h
      rcases hexponent with he | ⟨rfl, hle⟩
      · have hlow : ((2 ^ 52 : ℕ) : ℚ) ≤ m' := Nat.cast_le.2 (hbits'.resolve_right (by omega))
        have hmantissa : |(m : ℤ)| < 2 ^ 53 := by
          rw [Nat.abs_cast]
          exact_mod_cast hlt
        calc (m : ℚ) * 2 ^ e ≤ |((m : ℤ) : ℚ) * 2 ^ e| := le_abs_self _
          _ ≤ 2 ^ 52 * 2 ^ e' := (abs_lt_of_exponent_lt hmantissa he).le
          _ ≤ m' * 2 ^ e' := mul_le_mul_of_nonneg_right (by exact_mod_cast hlow) (two_zpow_pos e').le
      · exact mul_le_mul_of_nonneg_right (by exact_mod_cast hle) (two_zpow_pos e).le

/-- Of the negative doubles only zero is not placed below zero. -/
theorem Holds.eq_zero_of_le_place (h : Holds .negative q u) (hle : toLex (0, toLex (0, 0)) ≤ place u) : q = 0 := by
  cases h with
  | zero => rfl
  | finite => simp [place, Prod.Lex.toLex_le_toLex] at hle

theorem holds_one_unpack : Holds .positive 1 (1 : Float).toModel.unpack := by
  have hnear := (isNearest_ofNat 1).holds
  rw [nearestDouble_natCast (by decide)] at hnear
  exact_mod_cast hnear (lt_two_pow_1024 (by decide))

/-- **Doubles of the unit interval hold numbers of it**, and only zero may be negative. -/
theorem exists_holds_of_le_one (hzero : 0 ≤ x) (hone : x ≤ 1) :
    ∃ s, Holds s (magnitude x.toModel.unpack) x.toModel.unpack ∧ magnitude x.toModel.unpack ≤ 1 ∧
      (s = .negative → magnitude x.toModel.unpack = 0) := by
  obtain ⟨-, hnan, hlow⟩ := Decimal.le_iff.1 hzero
  obtain ⟨-, -, hhigh⟩ := Decimal.le_iff.1 hone
  have hplaceZero : placeOf 0 = toLex (0, toLex (0, 0)) := by decide +kernel
  have hplaceOne : placeOf 1 = toLex (1, toLex (-52, 2 ^ 52)) := by decide +kernel
  have hunpack := holds_unpack x.toModel.toBits.toBitVec
  change x.toModel.unpack.isNaN = false at hnan
  change _ ≤ place x.toModel.unpack at hlow
  change place x.toModel.unpack ≤ _ at hhigh
  change x.toModel.unpack = _ ∨ (∃ s, x.toModel.unpack = _) ∨ ∃ s q, Holds s q x.toModel.unpack at hunpack
  rcases hunpack with hbits | ⟨s, hbits⟩ | ⟨s, q, hq⟩
  · rw [hbits] at hnan
    cases hnan
  · rw [hbits] at hlow hhigh
    cases s with
    | negative => simp [place, hplaceZero, Prod.Lex.toLex_le_toLex] at hlow
    | positive => simp [place, hplaceOne, Prod.Lex.toLex_le_toLex] at hhigh
  · obtain rfl := hq.eq_magnitude
    refine ⟨s, hq, ?_⟩
    cases s with
    | positive => exact ⟨hq.le_of_place_le holds_one_unpack hhigh, nofun⟩
    | negative =>
      rw [hplaceZero] at hlow
      have hzero := hq.eq_zero_of_le_place hlow
      exact ⟨hzero.trans_le zero_le_one, fun _ => hzero⟩

/-! ## Rounding to integers -/

theorem round_nonneg (h : 0 ≤ q) : 0 ≤ round q := by
  rw [round_eq, Int.floor_nonneg]
  linarith

theorem round_le {n : ℤ} (h : q ≤ n) : round q ≤ n := by
  rw [round_eq, ← Int.lt_add_one_iff, Int.floor_lt]
  push_cast
  linarith

/-- What is not below the least integer of 64 bits is cut down to the greatest one. -/
theorem toInt_ofIntClamp {n : ℤ} (h : Int64.minValue.toInt ≤ n) :
    (Int64.ofIntClamp n).toInt = min n Int64.maxValue.toInt := by
  rcases le_or_gt n Int64.maxValue.toInt with hle | hgt
  · rw [Int64.toInt_ofIntClamp h hle, min_eq_left hle]
  · rw [Int64.ofIntClamp, dif_pos h, dif_neg (not_le.2 hgt), min_eq_right hgt.le]

/-- A mantissa and an exponent are rounded by exact division. -/
theorem wholeUnits_eq (m : ℕ) (e : ℤ) : round (m * 2 ^ e : ℚ) = wholeUnits m e := by
  have hquotient : (m : ℚ) * 2 ^ e + 1 / 2 =
      (2 * (m * Nat.pow 2 e.toNat) + Nat.pow 2 (-e).toNat : ℕ) / (2 * Nat.pow 2 (-e).toNat : ℕ) := by
    rw [two_zpow_eq_div]
    push_cast [Nat.pow_eq]
    field_simp
  rw [round_eq, hquotient, Rat.floor_natCast_div_natCast, wholeUnits]
  rfl

/-- **A double is rounded to the integer nearest to the number that it holds**, after its sign, if that is one
of 64 bits. -/
theorem toInt64_of_holds (h : Holds s q x.toModel.unpack) :
    toInt64 x = .ofIntClamp (if isNegative s then -round q else round q) := by
  obtain ⟨m, e, hbinary, rfl⟩ := h.exists_ofUnpacked
  rw [toInt64, Binary.ofFloat_eq, hbinary, wholeUnits_eq]

end Columnar.Decimal
