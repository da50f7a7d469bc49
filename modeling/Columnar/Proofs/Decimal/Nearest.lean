import Mathlib.Algebra.Order.Floor.Ring
import Mathlib.Algebra.Order.Round
import Mathlib.Data.Int.Log
import Mathlib.Data.Rat.Floor
import Mathlib.Tactic.FieldSimp
import Mathlib.Tactic.Linarith
import Mathlib.Tactic.Positivity.Core
import Mathlib.Tactic.Ring

/-!
# Nearest integers and nearest doubles

What rounding means, told by rational numbers and not by bits. An integer is nearest to a number if no
other one is nearer, and the even one of two. A double is an integer of at most 53 bits times a power of
two that is not below `2 ^ -1074`; the double nearest to a number is the nearest multiple of the power of
two that leaves 53 bits. How large a double may be is not asked here: arithmetic is infinite where the
nearest one reaches `2 ^ 1024`.

* `nearestInt_eq_iff` — which integer is nearest
* `isDouble_nearestDouble`, `abs_sub_nearestDouble_le` — **the nearest double is a double, and none is nearer**
* `nearestDouble_of_isDouble` — a double is nearest to itself
-/

namespace Columnar.Decimal

/-! ## Integers -/

/-- The integer nearest to a number; of two equally near ones the even one. -/
def nearestInt (x : ℚ) : ℤ :=
  if Int.fract x < 1 / 2 then ⌊x⌋
  else if 1 / 2 < Int.fract x then ⌊x⌋ + 1
  else if Even ⌊x⌋ then ⌊x⌋ else ⌊x⌋ + 1

variable {x y : ℚ} {n : ℤ}

theorem abs_sub_nearestInt_le (x : ℚ) : |x - nearestInt x| ≤ 1 / 2 := by
  have hfloor := Int.floor_add_fract x
  have hnonneg := Int.fract_nonneg x
  have hlt := Int.fract_lt_one x
  unfold nearestInt
  rw [abs_le]
  split_ifs <;> push_cast <;> constructor <;> linarith

theorem even_nearestInt (h : |x - nearestInt x| = 1 / 2) : Even (nearestInt x) := by
  have hfloor := Int.floor_add_fract x
  have hnonneg := Int.fract_nonneg x
  have hlt := Int.fract_lt_one x
  unfold nearestInt at h ⊢
  split_ifs at h ⊢ with hlow hhigh heven
  · rcases abs_eq (by norm_num) |>.1 h with h | h <;> linarith
  · push_cast at h
    rcases abs_eq (by norm_num) |>.1 h with h | h <;> linarith
  · exact heven
  · exact (Int.not_even_iff_odd.1 heven).add_one

/-- **An integer is nearest iff it is at most a half away, and even if it is a half away.** -/
theorem nearestInt_eq_iff : nearestInt x = n ↔ |x - n| ≤ 1 / 2 ∧ (|x - n| = 1 / 2 → Even n) := by
  constructor
  · rintro rfl
    exact ⟨abs_sub_nearestInt_le x, even_nearestInt⟩
  · rintro ⟨hle, heven⟩
    have hle' := abs_sub_nearestInt_le x
    by_contra hne
    -- two integers that are so near are neighbours, both a half away; only one of them is even
    have hfar : (1 : ℚ) ≤ |(nearestInt x : ℚ) - n| := by
      rw [← Int.cast_sub, ← Int.cast_abs]
      exact_mod_cast Int.one_le_abs (sub_ne_zero.2 hne)
    have htriangle := abs_sub_le (nearestInt x : ℚ) x n
    rw [abs_sub_comm (nearestInt x : ℚ) x] at htriangle
    have hn : |x - n| = 1 / 2 := by linarith
    have hm : |x - nearestInt x| = 1 / 2 := by linarith
    have hneighbours : |nearestInt x - n| = 1 := by
      have hone : |(nearestInt x : ℚ) - n| = 1 := by linarith
      exact_mod_cast hone
    have hsum := (even_nearestInt hm).sub (heven hn)
    rcases (abs_eq zero_le_one).1 hneighbours with h | h <;> rw [h] at hsum <;> exact absurd hsum (by decide)

/-- **No integer is nearer than the nearest one.** -/
theorem abs_sub_nearestInt_le_abs_sub (x : ℚ) (n : ℤ) : |x - nearestInt x| ≤ |x - n| := by
  by_cases hn : nearestInt x = n
  · rw [hn]
  · have hfar : (1 : ℚ) ≤ |(nearestInt x : ℚ) - n| := by
      rw [← Int.cast_sub, ← Int.cast_abs]
      exact_mod_cast Int.one_le_abs (sub_ne_zero.2 hn)
    have htriangle := abs_sub_le (nearestInt x : ℚ) x n
    rw [abs_sub_comm (nearestInt x : ℚ) x] at htriangle
    have hle := abs_sub_nearestInt_le x
    linarith

/-- What is not below an integer is not rounded below it. -/
theorem le_nearestInt (h : (n : ℚ) ≤ x) : n ≤ nearestInt x := by
  by_contra hlt
  have hstep : (nearestInt x : ℚ) + 1 ≤ n := by exact_mod_cast not_le.1 hlt
  have hnear := abs_sub_nearestInt_le_abs_sub x n
  rw [abs_of_nonneg (sub_nonneg.2 h), abs_of_nonneg (by linarith)] at hnear
  linarith

theorem nearestInt_le (h : x ≤ n) : nearestInt x ≤ n := by
  by_contra hlt
  have hstep : (n : ℚ) + 1 ≤ nearestInt x := by exact_mod_cast not_le.1 hlt
  have hnear := abs_sub_nearestInt_le_abs_sub x n
  rw [abs_of_nonpos (sub_nonpos.2 h), abs_of_nonpos (by linarith)] at hnear
  linarith

/-! ## Doubles -/

/-- An integer of at most 53 bits times a power of two that is not below `2 ^ -1074`. -/
def IsDouble (x : ℚ) : Prop :=
  ∃ m e : ℤ, |m| < 2 ^ 53 ∧ -1074 ≤ e ∧ x = m * 2 ^ e

/-- The exponent of the power of two that leaves 53 bits of a number, or fewer among the smallest. -/
def lastPlace (x : ℚ) : ℤ :=
  max (Int.log 2 |x| - 52) (-1074)

/-- The double nearest to a number; of two equally near ones the one whose last bit is zero. -/
def nearestDouble (x : ℚ) : ℚ :=
  nearestInt (x / 2 ^ lastPlace x) * 2 ^ lastPlace x

theorem nearestDouble_zero : nearestDouble 0 = 0 := by
  simp [nearestDouble, nearestInt]

theorem two_zpow_pos (e : ℤ) : (0 : ℚ) < 2 ^ e :=
  zpow_pos two_pos e

theorem two_zpow_add (d e : ℤ) : (2 : ℚ) ^ (d + e) = 2 ^ d * 2 ^ e :=
  zpow_add₀ two_ne_zero d e

/-- Of the two powers at most one is not `1`. -/
theorem two_zpow_eq_div (e : ℤ) : (2 : ℚ) ^ e = 2 ^ e.toNat / 2 ^ (-e).toNat := by
  rw [← zpow_natCast, ← zpow_natCast, ← zpow_sub₀ two_ne_zero]
  congr 1
  omega

/-- In units of its last place a number has at most 53 bits. -/
theorem abs_div_lastPlace_lt (x : ℚ) : |x / 2 ^ lastPlace x| < 2 ^ 53 := by
  have hlog : |x| < 2 ^ (Int.log 2 |x| + 1) := Int.lt_zpow_succ_log_self one_lt_two |x|
  have hle : (2 : ℚ) ^ (Int.log 2 |x| + 1) ≤ 2 ^ (53 + lastPlace x) :=
    zpow_le_zpow_right₀ one_le_two (by rw [lastPlace]; omega)
  rw [abs_div, abs_of_pos (two_zpow_pos _), div_lt_iff₀ (two_zpow_pos _)]
  calc |x| < 2 ^ (53 + lastPlace x) := hlog.trans_le hle
    _ = 2 ^ 53 * 2 ^ lastPlace x := two_zpow_add 53 _

/-- Unless it is zero or among the smallest, it has 53 of them. -/
theorem le_abs_div_lastPlace (hx : x ≠ 0) (h : -1074 < lastPlace x) : 2 ^ 52 ≤ |x / 2 ^ lastPlace x| := by
  have hplace : Int.log 2 |x| = 52 + lastPlace x := by
    rw [lastPlace] at h ⊢
    omega
  rw [abs_div, abs_of_pos (two_zpow_pos _), le_div_iff₀ (two_zpow_pos _)]
  calc (2 : ℚ) ^ 52 * 2 ^ lastPlace x = 2 ^ (52 + lastPlace x) := (two_zpow_add 52 _).symm
    _ = 2 ^ Int.log 2 |x| := by rw [hplace]
    _ ≤ |x| := Int.zpow_log_le_self one_lt_two (abs_pos.2 hx)

/-- In units of its last place a number is rounded to at most 53 bits, or to the power of two after them. -/
theorem abs_nearestInt_div_lastPlace_le (x : ℚ) : |nearestInt (x / 2 ^ lastPlace x)| ≤ 2 ^ 53 := by
  have hlt := abs_lt.1 (abs_div_lastPlace_lt x)
  refine abs_le.2 ⟨le_nearestInt ?_, nearestInt_le ?_⟩
  · push_cast
    exact hlt.1.le
  · push_cast
    exact hlt.2.le

theorem neg_1074_le_lastPlace (x : ℚ) : -1074 ≤ lastPlace x :=
  le_max_right _ _

/-- **The nearest double is a double.** -/
theorem isDouble_nearestDouble (x : ℚ) : IsDouble (nearestDouble x) := by
  rcases (abs_nearestInt_div_lastPlace_le x).lt_or_eq with hlt | heq
  · exact ⟨_, _, hlt, neg_1074_le_lastPlace x, rfl⟩
  · -- the power of two after 53 bits has one bit
    have hplace := neg_1074_le_lastPlace x
    have hdouble : nearestDouble x = (nearestInt (x / 2 ^ lastPlace x) / 2 ^ 53 : ℚ) * 2 ^ (53 + lastPlace x) := by
      rw [two_zpow_add, nearestDouble]
      field_simp
    rcases (abs_eq (by norm_num)).1 heq with h | h
    · refine ⟨1, 53 + lastPlace x, by norm_num, by omega, ?_⟩
      rw [hdouble, h]
      norm_num
    · refine ⟨-1, 53 + lastPlace x, by norm_num, by omega, ?_⟩
      rw [hdouble, h]
      norm_num

/-- No multiple of the power of two in the last place is nearer. -/
theorem abs_sub_nearestDouble_le_of_multiple (x : ℚ) (n : ℤ) :
    |x - nearestDouble x| ≤ |x - n * 2 ^ lastPlace x| := by
  have hscaled : ∀ k : ℤ, |x - k * 2 ^ lastPlace x| = |x / 2 ^ lastPlace x - k| * 2 ^ lastPlace x := by
    intro k
    have hpos := two_zpow_pos (lastPlace x)
    rw [← abs_of_pos hpos, ← abs_mul, abs_of_pos hpos, sub_mul, div_mul_cancel₀ _ hpos.ne']
  rw [nearestDouble, hscaled, hscaled]
  exact mul_le_mul_of_nonneg_right (abs_sub_nearestInt_le_abs_sub _ n) (two_zpow_pos _).le

/-- A double with a smaller last place is below all that have 53 bits in this one. -/
theorem abs_lt_of_exponent_lt {m e place : ℤ} (hm : |m| < 2 ^ 53) (he : e < place) :
    |(m : ℚ) * 2 ^ e| < 2 ^ 52 * 2 ^ place := by
  have hmantissa : |(m : ℚ)| < 2 ^ 53 := by exact_mod_cast hm
  rw [abs_mul, abs_of_pos (two_zpow_pos e)]
  calc |(m : ℚ)| * 2 ^ e < 2 ^ 53 * 2 ^ e := mul_lt_mul_of_pos_right hmantissa (two_zpow_pos e)
    _ = 2 ^ (53 + e) := (two_zpow_add 53 e).symm
    _ ≤ 2 ^ (52 + place) := zpow_le_zpow_right₀ one_le_two (by omega)
    _ = 2 ^ 52 * 2 ^ place := two_zpow_add 52 place

/-- **No double is nearer than the nearest one.** -/
theorem abs_sub_nearestDouble_le (hy : IsDouble y) : |x - nearestDouble x| ≤ |x - y| := by
  obtain ⟨m, e, hm, he, rfl⟩ := hy
  rcases le_or_gt (lastPlace x) e with hplace | hplace
  · -- the double is a multiple of the power in the last place
    obtain ⟨k, rfl⟩ : ∃ k : ℕ, e = k + lastPlace x := ⟨(e - lastPlace x).toNat, by omega⟩
    have hmultiple : (m : ℚ) * 2 ^ (k + lastPlace x) = (m * 2 ^ k : ℤ) * 2 ^ lastPlace x := by
      rw [two_zpow_add, zpow_natCast]
      push_cast
      ring
    rw [hmultiple]
    exact abs_sub_nearestDouble_le_of_multiple x _
  · rcases eq_or_ne x 0 with rfl | hx
    · rw [nearestDouble_zero, sub_zero, abs_zero]
      exact abs_nonneg _
    -- the double is smaller than the least number of 53 bits in the last place, and that one is a multiple
    have hbits := le_abs_div_lastPlace hx (by omega)
    rw [abs_div, abs_of_pos (two_zpow_pos _), le_div_iff₀ (two_zpow_pos _)] at hbits
    have hsmall := abs_lt_of_exponent_lt hm hplace
    rcases abs_cases x with ⟨habs, hsign⟩ | ⟨habs, hsign⟩
    · refine (abs_sub_nearestDouble_le_of_multiple x (2 ^ 52)).trans ?_
      have hy := (abs_lt.1 hsmall).2
      rw [habs] at hbits
      push_cast
      rw [abs_of_nonneg (by linarith), abs_of_nonneg (by linarith)]
      linarith
    · refine (abs_sub_nearestDouble_le_of_multiple x (-2 ^ 52)).trans ?_
      have hy := (abs_lt.1 hsmall).1
      rw [habs] at hbits
      push_cast
      rw [abs_of_nonpos (by linarith), abs_of_nonpos (by linarith)]
      linarith

/-- **A double is nearest to itself.** -/
theorem nearestDouble_of_isDouble (h : IsDouble x) : nearestDouble x = x := by
  have hle := abs_sub_nearestDouble_le (x := x) h
  rw [sub_self, abs_zero, abs_nonpos_iff, sub_eq_zero] at hle
  exact hle.symm

/-- What is not below a double is not rounded below it. -/
theorem le_nearestDouble (hy : IsDouble y) (h : y ≤ x) : y ≤ nearestDouble x := by
  by_contra hlt
  have hnear := abs_sub_nearestDouble_le (x := x) hy
  rw [abs_of_nonneg (sub_nonneg.2 h), abs_of_nonneg (by linarith)] at hnear
  linarith

theorem nearestDouble_le (hy : IsDouble y) (h : x ≤ y) : nearestDouble x ≤ y := by
  by_contra hlt
  have hnear := abs_sub_nearestDouble_le (x := x) hy
  rw [abs_of_nonpos (sub_nonpos.2 h), abs_of_nonpos (by linarith)] at hnear
  linarith

theorem nearestDouble_nonneg (h : 0 ≤ x) : 0 ≤ nearestDouble x :=
  le_nearestDouble ⟨0, 0, by norm_num, by norm_num, by simp⟩ h

theorem isDouble_two_pow (n : ℕ) : IsDouble (2 ^ n) :=
  ⟨1, n, by norm_num, by omega, by rw [zpow_natCast]; norm_num⟩

/-- **Integers of at most 53 bits are doubles.** -/
theorem isDouble_natCast {n : ℕ} (h : n ≤ 2 ^ 53) : IsDouble n := by
  rcases h.lt_or_eq with h | rfl
  · exact ⟨n, 0, by rw [Nat.abs_cast]; exact_mod_cast h, by norm_num, by simp⟩
  · exact_mod_cast isDouble_two_pow 53

theorem nearestDouble_natCast {n : ℕ} (h : n ≤ 2 ^ 53) : nearestDouble n = n :=
  nearestDouble_of_isDouble (isDouble_natCast h)

end Columnar.Decimal
