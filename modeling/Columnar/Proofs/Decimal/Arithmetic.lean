import Columnar.Proofs.Decimal.Rounding

/-!
# Arithmetic of doubles is rounded to nearest

A double is 64 bits, and these hold a sign, a mantissa and an exponent without loss unless the exponent is
too large. So what an operation packs is what it computed: the double nearest to the exact result, or
infinity from `2 ^ 1024` on.

* `unpack_pack`, `unpack_pack_of_le` — **64 bits hold a double, or infinity**
* `isNearest_mul`, `isNearest_div` — **products and quotients**
* `isNearest_ofNat`, `isNearest_ofInt` — **integers**
-/

namespace Columnar.Decimal

open Float.Model Float.Model.UnpackedFloat

/-! ## Sixty-four bits -/

variable {m : ℕ} {e : ℤ} {s t : Sign} {q r : ℚ} {u : UnpackedFloat}

/-- The leading bit of a mantissa that is not written stands above its other bits. -/
theorem toNat_implicit_append (m : BitVec 52) : (1#1 ++ m).toNat = 2 ^ 52 + m.toNat := by
  rw [BitVec.toNat_append, ← Nat.shiftLeft_add_eq_or_of_lt m.isLt]
  rfl

/-- Bits with an exponent above the least one hold a mantissa without its leading bit. -/
theorem unpack_normal (s : Sign) {biased m : ℕ} (hpos : 0 < biased) (hlt : biased < 2047) (hlow : 2 ^ 52 ≤ m)
    (hhigh : m < 2 ^ 53) :
    UnpackedFloat.unpack .binary64
        (packComponents .binary64 s (BitVec.ofNat 11 biased) (BitVec.ofNat 52 m)) =
      .finite s m (biased - 1075) (by omega) := by
  have hbiased : (BitVec.ofNat 11 biased).toNat = biased := by
    rw [BitVec.toNat_ofNat, Nat.mod_eq_of_lt (by omega)]
  have hinfinite : BitVec.ofNat 11 biased ≠ -1#11 := fun h => by
    rw [h] at hbiased
    exact hlt.ne (hbiased.symm.trans (by decide))
  have hzero : BitVec.ofNat 11 biased ≠ 0#11 := fun h => by
    rw [h] at hbiased
    exact hpos.ne hbiased
  have hmantissa : (1#1 ++ BitVec.ofNat 52 m).toNat = m := by
    rw [toNat_implicit_append, BitVec.toNat_ofNat]
    omega
  simp only [UnpackedFloat.unpack, unpackMantissa_packComponents, unpackExponent_packComponents,
    unpackSign_packComponents, Sign.ofBitVec_toBitVec, hinfinite, hzero, hbiased, hmantissa, if_false]
  rfl

/-- Bits with the least exponent hold the whole mantissa. -/
theorem unpack_subnormal (s : Sign) (hpos : 0 < m) (hlt : m < 2 ^ 52) :
    UnpackedFloat.unpack .binary64 (packComponents .binary64 s 0#11 (BitVec.ofNat 52 m)) =
      .finite s m (-1074) hpos := by
  have hmantissa : (BitVec.ofNat 52 m).toNat = m := by
    rw [BitVec.toNat_ofNat, Nat.mod_eq_of_lt hlt]
  have hzero : BitVec.ofNat 52 m ≠ 0#52 := fun h => by
    rw [h] at hmantissa
    exact hpos.ne hmantissa
  have hinfinite : 0#11 ≠ -1#11 := by decide
  simp only [UnpackedFloat.unpack, unpackMantissa_packComponents, unpackExponent_packComponents,
    unpackSign_packComponents, Sign.ofBitVec_toBitVec, hinfinite, hzero, hmantissa, if_false, if_true]
  rfl

/-- Exponents from 972 on do not fit, and a mantissa with 53 bits is written without the leading one. -/
theorem pack_finite (s : Sign) (hpos : 0 < m) :
    UnpackedFloat.pack .binary64 (.finite s m e hpos) =
      if 972 ≤ e then packedInfinity .binary64 s
      else if m.log2 = 52 then
        packComponents .binary64 s (BitVec.ofNat 11 (e + 1075).toNat) (BitVec.ofNat 52 m)
      else packComponents .binary64 s 0#11 (BitVec.ofNat 52 m) := by
  have hbiased : e + Format.binary64.exponentBias + Format.binary64.mantissaBitsWithoutImplicit = e + 1075 := by
    rw [Int.add_assoc]
    rfl
  have hbits : m.log2 + 1 = Format.binary64.mantissaBits ↔ m.log2 = 52 := by
    show m.log2 + 1 = 53 ↔ _
    omega
  have hlarge : 2 ^ Format.binary64.exponentBits ≤ (e + 1075).toNat + 1 ↔ 972 ≤ e := by
    show 2 ^ 11 ≤ _ ↔ _
    omega
  simp only [UnpackedFloat.pack, hbiased, hbits, hlarge]

theorem log2_eq (hlow : 2 ^ 52 ≤ m) (hhigh : m < 2 ^ 53) : m.log2 = 52 :=
  (Nat.log2_eq_iff (by omega)).2 ⟨hlow, hhigh⟩

/-- Below `2 ^ 1024` exponents fit. -/
theorem lt_two_pow_iff (hlt : m < 2 ^ 53) (hbits : 2 ^ 52 ≤ m ∨ e = -1074) :
    (m : ℚ) * 2 ^ e < 2 ^ 1024 ↔ e < 972 := by
  constructor
  · intro hq
    rcases hbits with hlow | rfl
    · have hm : (2 : ℚ) ^ 52 ≤ m := by exact_mod_cast hlow
      have hpow : (2 : ℚ) ^ (52 + e) < 2 ^ (1024 : ℤ) := by
        rw [two_zpow_add]
        exact (mul_le_mul_of_nonneg_right hm (two_zpow_pos e).le).trans_lt (by exact_mod_cast hq)
      have hexponent := (zpow_lt_zpow_iff_right₀ (one_lt_two (α := ℚ))).1 hpow
      omega
    · omega
  · intro he
    have hm : (m : ℚ) < 2 ^ 53 := by exact_mod_cast hlt
    calc (m : ℚ) * 2 ^ e < 2 ^ 53 * 2 ^ e := mul_lt_mul_of_pos_right hm (two_zpow_pos e)
      _ = 2 ^ (53 + e) := (two_zpow_add 53 e).symm
      _ ≤ 2 ^ (1024 : ℤ) := zpow_le_zpow_right₀ one_le_two (by omega)
      _ = 2 ^ 1024 := by norm_num

/-- **Packing a number loses nothing**, if it is below `2 ^ 1024`. -/
theorem unpack_pack (h : Holds s q u) (hq : q < 2 ^ 1024) : (Float.Model.pack u).unpack = u := by
  cases h with
  | zero => cases s <;> rfl
  | @finite m e hpos hlt hleast hbits =>
    have he := (lt_two_pow_iff hlt hbits).1 hq
    show UnpackedFloat.unpack .binary64 (UnpackedFloat.pack .binary64 (.finite s m e hpos)) = _
    rw [pack_finite, if_neg (by omega)]
    rcases le_or_gt (2 ^ 52) m with hlow | hlow
    · rw [if_pos (log2_eq hlow hlt), unpack_normal s (by omega) (by omega) hlow hlt]
      congr 1
      omega
    · have hlog : m.log2 ≠ 52 := ((Nat.log2_lt hpos.ne').2 hlow).ne
      obtain rfl := hbits.resolve_left (by omega)
      rw [if_neg hlog, unpack_subnormal s hpos hlow]

theorem unpack_pack_infinity (s : Sign) : (Float.Model.pack (.infinity s)).unpack = .infinity s := by
  cases s <;> rfl

/-- **From `2 ^ 1024` on it is infinity that is packed.** -/
theorem unpack_pack_of_le (h : Holds s q u) (hq : 2 ^ 1024 ≤ q) :
    (Float.Model.pack u).unpack = .infinity s := by
  cases h with
  | zero => exact absurd hq (by norm_num)
  | @finite m e hpos hlt hleast hbits =>
    have he : ¬ e < 972 := fun he => absurd ((lt_two_pow_iff hlt hbits).2 he) (not_lt.2 hq)
    show UnpackedFloat.unpack .binary64 (UnpackedFloat.pack .binary64 (.finite s m e hpos)) = _
    rw [pack_finite, if_pos (not_lt.1 he)]
    exact unpack_pack_infinity s

/-! ## Numbers, products and quotients -/

/-- A double is the one nearest to a number of a sign and a magnitude: it holds the nearest double, or is
infinite if that one reaches `2 ^ 1024`. -/
structure IsNearest (x : Float) (s : Sign) (q : ℚ) : Prop where
  holds : nearestDouble q < 2 ^ 1024 → Holds s (nearestDouble q) x.toModel.unpack
  infinite : 2 ^ 1024 ≤ nearestDouble q → x.toModel.unpack = .infinity s

/-- What is rounded to nearest and packed. -/
theorem isNearest_pack (h : Holds s (nearestDouble q) u) : IsNearest (.ofModel (.pack u)) s q where
  holds hq := by
    rw [unpack_pack h hq]
    exact h
  infinite hq := unpack_pack_of_le h hq

variable {x y : Float}

/-- **Products are rounded to nearest.** -/
theorem isNearest_mul (hx : Holds s q x.toModel.unpack) (hy : Holds t r y.toModel.unpack) :
    IsNearest (x * y) (s * t) (q * r) := by
  refine isNearest_pack (u := UnpackedFloat.mul .binary64 x.toModel.unpack y.toModel.unpack) ?_
  revert hx hy
  generalize x.toModel.unpack = a
  generalize y.toModel.unpack = b
  rintro (_ | ⟨hm₁, -, -, hbits₁⟩) (_ | ⟨hm₂, -, -, hbits₂⟩)
  · rw [zero_mul, nearestDouble_zero]
    exact .zero
  · rw [zero_mul, nearestDouble_zero]
    exact .zero
  · rw [mul_zero, nearestDouble_zero]
    exact .zero
  · rename_i m₁ e₁ m₂ e₂
    have hvalue : (m₁ : ℚ) * 2 ^ e₁ * (m₂ * 2 ^ e₂) = (m₁ * m₂ : ℕ) * 2 ^ (e₁ + e₂) := by
      rw [two_zpow_add]
      push_cast
      ring
    rw [hvalue]
    refine holds_roundWithAccuracy (.exact _) (by exact_mod_cast Nat.mul_pos hm₁ hm₂) ?_
    rcases hbits₁ with hlow | hleast
    · exact .inl (hlow.trans (Nat.le_mul_of_pos_right _ hm₂))
    · rcases hbits₂ with hlow | hleast'
      · exact .inl (hlow.trans (Nat.le_mul_of_pos_left _ hm₁))
      · exact .inr (by omega)

/-- The quotient of two mantissas has 53 bits before it is rounded, unless it is among the smallest. -/
theorem divCore_bits {m₁ m₂ : ℕ} (e₁ e₂ : ℤ) (hm₁ : 0 < m₁) (hm₂ : 0 < m₂) :
    2 ^ 52 ≤ (divCore .binary64 m₁ e₁ m₂ e₂).1 ∨ (divCore .binary64 m₁ e₁ m₂ e₂).2.1 ≤ -1074 := by
  have htarget : (divCore .binary64 m₁ e₁ m₂ e₂).2.1 =
      min (e₁ - e₂) (max ((m₁.log2 : ℤ) - m₂.log2 + (e₁ - e₂) - 53) (-1074)) := by
    simp only [divCore, Format.targetExponent, totalExponent, Format.mantissaBits, Format.minExponent]
    norm_num
    omega
  rw [or_iff_not_imp_right]
  intro hleast
  obtain ⟨k, hk⟩ : ∃ k : ℕ, e₁ - e₂ - (divCore .binary64 m₁ e₁ m₂ e₂).2.1 = k :=
    ⟨(e₁ - e₂ - (divCore .binary64 m₁ e₁ m₂ e₂).2.1).toNat, by omega⟩
  have hshift : (divCore .binary64 m₁ e₁ m₂ e₂).1 = m₁ * 2 ^ k / m₂ := by
    show m₁ <<< (e₁ - e₂ - (divCore .binary64 m₁ e₁ m₂ e₂).2.1).toNat / m₂ = _
    rw [hk, Int.toNat_natCast, Nat.shiftLeft_eq]
  rw [hshift, Nat.le_div_iff_mul_le hm₂]
  calc 2 ^ 52 * m₂ ≤ 2 ^ 52 * 2 ^ (m₂.log2 + 1) := Nat.mul_le_mul_left _ Nat.lt_log2_self.le
    _ = 2 ^ (52 + (m₂.log2 + 1)) := (pow_add 2 52 _).symm
    _ ≤ 2 ^ (m₁.log2 + k) := Nat.pow_le_pow_right two_pos (by omega)
    _ = 2 ^ m₁.log2 * 2 ^ k := pow_add 2 _ k
    _ ≤ m₁ * 2 ^ k := Nat.mul_le_mul_right _ (Nat.log2_self_le hm₁.ne')

/-- The quotient of two mantissas with the accuracy of its fraction. -/
theorem exists_divCore {m₁ m₂ : ℕ} (e₁ e₂ : ℤ) (hm₁ : 0 < m₁) (hm₂ : 0 < m₂) :
    ∃ v : ℚ, 0 < v ∧ (m₁ * 2 ^ e₁ : ℚ) / (m₂ * 2 ^ e₂) = v * 2 ^ (divCore .binary64 m₁ e₁ m₂ e₂).2.1 ∧
      Represents (.ofMantissaAndAccuracy (divCore .binary64 m₁ e₁ m₂ e₂).1
        (divCore .binary64 m₁ e₁ m₂ e₂).2.2) v := by
  obtain ⟨k, hk⟩ : ∃ k : ℕ, e₁ - e₂ = k + (divCore .binary64 m₁ e₁ m₂ e₂).2.1 := by
    refine ⟨(e₁ - e₂ - (divCore .binary64 m₁ e₁ m₂ e₂).2.1).toNat, ?_⟩
    have hle : (divCore .binary64 m₁ e₁ m₂ e₂).2.1 ≤ e₁ - e₂ := min_le_left _ _
    omega
  have hm : m₁ <<< (e₁ - e₂ - (divCore .binary64 m₁ e₁ m₂ e₂).2.1).toNat = m₁ * 2 ^ k := by
    rw [hk, add_sub_cancel_right, Int.toNat_natCast, Nat.shiftLeft_eq]
  have hcast₁ : (0 : ℚ) < m₁ := by exact_mod_cast hm₁
  have hcast₂ : (0 : ℚ) < m₂ := by exact_mod_cast hm₂
  have hfraction := Represents.ofFraction (m₁ * 2 ^ k / m₂) (Nat.mod_lt (m₁ * 2 ^ k) hm₂)
  have hdivision : ((m₁ * 2 ^ k / m₂ : ℕ) : ℚ) + (m₁ * 2 ^ k % m₂ : ℕ) / m₂ = m₁ * 2 ^ k / m₂ := by
    rw [eq_div_iff hcast₂.ne', add_mul, div_mul_cancel₀ _ hcast₂.ne']
    exact_mod_cast Nat.div_add_mod' (m₁ * 2 ^ k) m₂
  rw [hdivision, ← hm] at hfraction
  refine ⟨m₁ * 2 ^ k / m₂, by positivity, ?_, hfraction⟩
  rw [mul_div_mul_comm, ← zpow_sub₀ two_ne_zero, hk, two_zpow_add, zpow_natCast]
  ring

/-- **Quotients are rounded to nearest.** -/
theorem isNearest_div (hx : Holds s q x.toModel.unpack) (hy : Holds t r y.toModel.unpack) (hr : r ≠ 0) :
    IsNearest (x / y) (s / t) (q / r) := by
  refine isNearest_pack (u := UnpackedFloat.div .binary64 x.toModel.unpack y.toModel.unpack) ?_
  revert hx hy
  generalize x.toModel.unpack = a
  generalize y.toModel.unpack = b
  rintro (_ | ⟨hm₁⟩) (_ | ⟨hm₂⟩)
  · exact absurd rfl hr
  · rw [zero_div, nearestDouble_zero]
    exact .zero
  · exact absurd rfl hr
  · rename_i m₁ e₁ _ _ _ m₂ e₂ _ _ _
    obtain ⟨v, hpos, hvalue, hv⟩ := exists_divCore e₁ e₂ hm₁ hm₂
    rw [hvalue]
    exact holds_roundWithAccuracy hv hpos (divCore_bits e₁ e₂ hm₁ hm₂)

theorem Holds.infinity_div (h : Holds t r u) (s : Sign) :
    UnpackedFloat.div .binary64 (.infinity s) u = .infinity (s / t) := by
  cases h <;> rfl

theorem Holds.div_infinity (h : Holds s q u) (t : Sign) :
    UnpackedFloat.div .binary64 u (.infinity t) = .zero (s / t) := by
  cases h <;> rfl

theorem unpack_div (x y : Float) :
    (x / y).toModel.unpack =
      (Float.Model.pack (UnpackedFloat.div .binary64 x.toModel.unpack y.toModel.unpack)).unpack :=
  rfl

/-- Infinity divided by a number is infinite. -/
theorem unpack_infinity_div (hx : x.toModel.unpack = .infinity s) (hy : Holds t r y.toModel.unpack) :
    (x / y).toModel.unpack = .infinity (s / t) := by
  rw [unpack_div, hx, hy.infinity_div, unpack_pack_infinity]

/-- A number divided by infinity is zero. -/
theorem holds_div_infinity (hx : Holds s q x.toModel.unpack) (hy : y.toModel.unpack = .infinity t) :
    Holds (s / t) 0 (x / y).toModel.unpack := by
  rw [unpack_div, hy, hx.div_infinity, unpack_pack .zero (by norm_num)]
  exact .zero

theorem unpack_infinity_div_infinity (hx : x.toModel.unpack = .infinity s) (hy : y.toModel.unpack = .infinity t) :
    (x / y).toModel.unpack = .notANumber := by
  have hdiv : UnpackedFloat.div .binary64 (.infinity s) (.infinity t) = .notANumber := rfl
  rw [unpack_div, hx, hy, hdiv]
  rfl

theorem lt_two_pow_1024 {n : ℕ} (hn : n ≤ 2 ^ 53) : (n : ℚ) < 2 ^ 1024 :=
  calc (n : ℚ) ≤ 2 ^ 53 := by exact_mod_cast hn
    _ < 2 ^ 1024 := pow_lt_pow_right₀ one_lt_two (by norm_num)

/-- Natural numbers are converted from 64 bits by rounding a mantissa. -/
theorem holds_ofNat (n : ℕ) : Holds .positive (nearestDouble n) (UnpackedFloat.ofNat .binary64 n) := by
  rcases Nat.eq_zero_or_pos n with rfl | hpos
  · rw [Nat.cast_zero, nearestDouble_zero]
    exact .zero
  · have hcompare : compare (n : ℤ) 0 = .gt := Int.compare_eq_gt.2 (by exact_mod_cast hpos)
    have hround := holds_round .positive hpos 0
    rw [zpow_zero, mul_one] at hround
    simpa only [UnpackedFloat.ofNat, UnpackedFloat.ofInt, UnpackedFloat.normalize, hcompare, Int.toNat_natCast] using hround

theorem holds_one : Holds .positive 1 (Float.ofBits 0x3FF0000000000000).toModel.unpack := by
  have hone : Holds .positive 1 (.finite .positive (2 ^ 52) (-52) (by decide)) := by
    have h := Holds.finite (s := .positive) (m := 2 ^ 52) (e := -52) (by decide) (by decide) (by decide) (.inl le_rfl)
    have hvalue : ((2 ^ 52 : ℕ) : ℚ) * 2 ^ (-52 : ℤ) = 1 := by norm_num
    rwa [hvalue] at h
  exact (unpack_pack hone (by exact_mod_cast lt_two_pow_1024 (n := 1) (by decide))).symm ▸ hone

/-- Numbers of at most 53 bits are converted from 64 bits and multiplied by one. -/
theorem ofNat_of_lt {n : ℕ} (hn : n < 2 ^ 53) :
    Float.ofNat n = n.toUInt64.toFloat * Float.ofBits 0x3FF0000000000000 :=
  dif_pos ⟨hn, by decide⟩

/-- Larger ones are lengthened and multiplied by one. -/
theorem ofNat_of_le {n : ℕ} (hn : 2 ^ 53 ≤ n) : Float.ofNat n = .ofModel (.ofScientific n 0) :=
  dif_neg fun h => absurd h.1 (not_lt.2 hn)

theorem ofScientific_zero {n : ℕ} (hn : n ≠ 0) :
    UnpackedFloat.ofScientific .binary64 n 0 =
      roundWithAccuracy .binary64 .positive (n <<< 53) (-53) .exact := by
  have hlarge : ¬ (0 : ℤ) > 2 ^ Format.binary64.exponentBits := by decide
  have hsmall : ¬ (0 : ℤ) < -((2 ^ Format.binary64.exponentBits : ℤ) + n.log2) := by
    show ¬ (0 : ℤ) < -(2048 + n.log2)
    omega
  unfold UnpackedFloat.ofScientific
  simp only [hn, hsmall, hlarge, dif_neg, not_false_eq_true, if_false, le_refl, if_true, UnpackedFloat.mul,
    Int.toNat_zero, pow_zero, mul_one, add_zero]
  rfl

/-- **Natural numbers are rounded to nearest.** -/
theorem isNearest_ofNat (n : ℕ) : IsNearest (Float.ofNat n) .positive n := by
  rcases lt_or_ge n (2 ^ 53) with hn | hn
  · have hexact := nearestDouble_natCast hn.le
    have hword : n.toUInt64.toNat = n := by
      show n % 2 ^ 64 = n
      omega
    have hmodel : n.toUInt64.toFloat = .ofModel (.pack (UnpackedFloat.ofNat .binary64 n)) :=
      congrArg (fun k => Float.ofModel (.pack (UnpackedFloat.ofNat .binary64 k))) hword
    have hconverted : Holds .positive n n.toUInt64.toFloat.toModel.unpack := by
      have hholds := holds_ofNat n
      rw [hexact] at hholds
      rw [hmodel, unpack_pack hholds (lt_two_pow_1024 hn.le)]
      exact hholds
    have hmul := isNearest_mul hconverted holds_one
    rwa [mul_one, ← ofNat_of_lt hn] at hmul
  · have hvalue : (n : ℚ) = (n <<< 53 : ℕ) * 2 ^ (-53 : ℤ) := by
      rw [Nat.shiftLeft_eq]
      push_cast
      rw [mul_assoc]
      norm_num
    have hlong : 2 ^ 52 ≤ n <<< 53 := by
      rw [Nat.shiftLeft_eq]
      omega
    rw [ofNat_of_le hn]
    refine isNearest_pack (u := UnpackedFloat.ofScientific .binary64 n 0) ?_
    rw [hvalue, ofScientific_zero (by omega)]
    exact holds_roundWithAccuracy (.exact _) (by exact_mod_cast Nat.zero_lt_of_lt hlong) (.inl hlong)

theorem Holds.neg (h : Holds s q u) : Holds (-s) q u.neg := by
  cases h with
  | zero => exact .zero
  | finite hpos hlt hleast hbits => exact .finite hpos hlt hleast hbits

/-- A negated number is negated without rounding. -/
theorem IsNearest.neg (h : IsNearest x s q) : IsNearest (-x) (-s) q where
  holds hq := by
    have hneg := (h.holds hq).neg
    show Holds _ _ (Float.Model.pack x.toModel.unpack.neg).unpack
    rwa [unpack_pack hneg hq]
  infinite hq := by
    show (Float.Model.pack x.toModel.unpack.neg).unpack = _
    rw [h.infinite hq]
    exact unpack_pack_infinity (-s)

/-- The sign of an integer; zero is positive. -/
def signOf (n : ℤ) : Sign :=
  if n < 0 then .negative else .positive

/-- **Integers are rounded to nearest.** -/
theorem isNearest_ofInt (n : ℤ) : IsNearest (Float.ofInt n) (signOf n) |n| := by
  cases n with
  | ofNat n =>
    have hsign : signOf (.ofNat n) = .positive := if_neg (by simp)
    rw [hsign, Int.ofNat_eq_natCast, Int.cast_natCast, Nat.abs_cast]
    exact isNearest_ofNat n
  | negSucc n =>
    have hsign : signOf (.negSucc n) = .negative := if_pos (Int.negSucc_lt_zero n)
    rw [hsign, Int.cast_negSucc, abs_neg, Nat.abs_cast]
    exact (isNearest_ofNat (n + 1)).neg

end Columnar.Decimal
