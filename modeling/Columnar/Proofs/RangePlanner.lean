import Columnar.Proofs.Dataset.Runs
import Columnar.Proofs.Decimal.Integers
import Columnar.Random.Record
import Columnar.RangePlanner

/-!
# Where planned ranges lie

The width of a range is a share of the domain: the size of the domain and its product with the selectivity
are rounded to doubles, and then to an integer. Placing a range relies on nothing but that the width is not
below the least one: a width that covers the domain is cut down to it and takes no draw, and any other width
leaves places in the domain to draw from. All ends lie in the domain, so no arithmetic on them wraps around.

* `RangePlanner.isSelectivity_eq_false_iff` — which reals are no selectivities
* `RangePlanner.toInt_offset` — **the width of a range**
* `RangePlanner.run_place_of_le`, `RangePlanner.run_place_of_lt` — placing a width that covers the domain,
  and one that leaves room in it
* `RangePlanner.plan_outcomes` — **what becomes of a selectivity**
-/

namespace Columnar.RangePlanner

open Generation Columnar.Random Decimal Float.Model

variable {p : RangePlanner} {width low high : Int64} {f : Float}

/-! ## Selectivities and widths -/

/-- **A real is no selectivity iff it is a NaN or lies outside of the unit interval.** -/
theorem isSelectivity_eq_false_iff : isSelectivity f = false ↔ f.isNaN = true ∨ f < 0 ∨ 1 < f := by
  have hzero : (0 : Float).isNaN = false := by decide +kernel
  have hone : (1 : Float).isNaN = false := by decide +kernel
  rw [isSelectivity, Bool.and_eq_false_iff, decide_eq_false_iff_not, decide_eq_false_iff_not,
    Decimal.not_le_iff, Decimal.not_le_iff, hzero, hone]
  tauto

theorem toInt_max (a b : Int64) : (max a b).toInt = max a.toInt b.toInt := by
  have hmax : max a b = if a ≤ b then b else a := rfl
  rw [hmax]
  split
  · rename_i h
    rw [Int64.le_iff_toInt_le] at h
    omega
  · rename_i h
    rw [Int64.le_iff_toInt_le] at h
    omega

/-- The width of a range is at least the least width. -/
theorem le_offset (h : p.offset f = .ok width) : p.leastWidth.toInt ≤ width.toInt := by
  rw [((offset_eq_ok_iff p f width).1 h).2, toInt_max]
  omega

/-! ## The share of a domain -/

/-- The share of a domain, rounded three times: the size of the domain and its product with the share to the
nearest doubles, and these to an integer, a half away from zero. -/
def roundedShare (domain : ℤ) (share : ℚ) : ℤ :=
  let size := round (nearestDouble (nearestDouble |(domain : ℚ)| * share))
  if domain < 0 then -size else size

/-- The sign of a product is that of the domain, unless the share is zero. -/
theorem roundedShare_eq (domain : ℤ) {share : ℚ} {s : UnpackedFloat.Sign} (h : s = .negative → share = 0) :
    (if isNegative (signOf domain * s) then -round (nearestDouble (nearestDouble |(domain : ℚ)| * share))
      else round (nearestDouble (nearestDouble |(domain : ℚ)| * share))) = roundedShare domain share := by
  rw [roundedShare, signOf]
  cases s with
  | negative => simp [h rfl, nearestDouble_zero]
  | positive => split <;> rfl

/-- **The share of a domain is rounded**, and cut down to 64 bits. -/
theorem toInt_scaled (h : isSelectivity f = true) :
    (p.scaled f).toInt =
      min (roundedShare p.domain.toInt (magnitude f.toModel.unpack)) Int64.maxValue.toInt := by
  obtain ⟨hzero, hone⟩ := Bool.and_eq_true_iff.1 h
  obtain ⟨s, hf, hle, hnegative⟩ := exists_holds_of_le_one (of_decide_eq_true hzero) (of_decide_eq_true hone)
  have habs : |p.domain.toInt| ≤ 2 ^ 63 := abs_le.2 ⟨p.domain.le_toInt, p.domain.toInt_lt.le⟩
  have hsize : nearestDouble |(p.domain.toInt : ℚ)| ≤ 2 ^ 63 :=
    nearestDouble_le (isDouble_two_pow 63) (by exact_mod_cast habs)
  have hproduct : nearestDouble (nearestDouble |(p.domain.toInt : ℚ)| * magnitude f.toModel.unpack) ≤ 2 ^ 63 :=
    (nearestDouble_le (isDouble_nearestDouble _)
      (mul_le_of_le_one_right (nearestDouble_nonneg (abs_nonneg _)) hle)).trans hsize
  have hfits : (2 : ℚ) ^ 63 < 2 ^ 1024 := pow_lt_pow_right₀ one_lt_two (by decide)
  have hdomain := (isNearest_ofInt p.domain.toInt).holds (hsize.trans_lt hfits)
  have hholds := (isNearest_mul hdomain hf).holds (hproduct.trans_lt hfits)
  rw [scaled, toInt64_of_holds hholds, roundedShare_eq p.domain.toInt hnegative]
  refine toInt_ofIntClamp ?_
  have hnonneg := round_nonneg hholds.nonneg
  have hround := round_le (n := 2 ^ 63) (hproduct.trans_eq (by norm_num))
  show -2 ^ 63 ≤ roundedShare _ _
  rw [roundedShare]
  split <;> omega

/-- **The width of a range** is the share of the domain, or the least width if that is greater. -/
theorem toInt_offset (h : p.offset f = .ok width) :
    width.toInt = max p.leastWidth.toInt
      (min (roundedShare p.domain.toInt (magnitude f.toModel.unpack)) Int64.maxValue.toInt) := by
  obtain ⟨hselectivity, rfl⟩ := (offset_eq_ok_iff p f width).1 h
  rw [toInt_max, toInt_scaled hselectivity]

example : offset ⟨10000, 1⟩ 0.001 = .ok 10 :=
  (offset_eq_ok_iff ..).2 (by decide +kernel)

/-- The share of a domain that is a double lies in the domain. -/
theorem roundedShare_le {domain : ℕ} (hdomain : domain ≤ 2 ^ 53) {share : ℚ} (hshare : share ≤ 1) :
    roundedShare domain share ≤ domain := by
  have hproduct : nearestDouble (domain * share) ≤ domain :=
    nearestDouble_le (isDouble_natCast hdomain) (mul_le_of_le_one_right (Nat.cast_nonneg _) hshare)
  rw [roundedShare, if_neg (by omega), Int.cast_natCast, Nat.abs_cast, nearestDouble_natCast hdomain]
  exact round_le (by exact_mod_cast hproduct)

/-! ## Placing a range -/

/-- A range of a width in the domain of a planner, with the draws that placing it took. Ends and widths
are compared as integers. -/
structure IsPlaced (p : RangePlanner) (width low high : Int64) (draws : List Draw) : Prop where
  zero_le : 0 ≤ low.toInt
  low_le_high : low.toInt ≤ high.toInt
  high_le : high.toInt ≤ max p.domain.toInt 0
  extent : high.toInt - low.toInt = min width.toInt (max p.domain.toInt 0)
  least_le : min p.leastWidth.toInt (max p.domain.toInt 0) ≤ high.toInt - low.toInt
  /-- A width below the size of the domain takes one draw, from the places that it leaves. -/
  draws_eq : draws = if width < p.domain then [.int 0 (p.domain - width)] else []
  /-- Then there are such places, and neither operation on the ends wraps around. -/
  room : width < p.domain →
    0 < p.domain - width ∧ (p.domain - width).toInt = p.domain.toInt - width.toInt ∧
      high = low + width ∧ (low + width).toInt = low.toInt + width.toInt

section Draws

variable {σ : Type} [DrawSource σ]

/-- **A width that covers the domain** is cut down to it, without a draw. -/
theorem run_place_of_le (h : p.domain ≤ width) (s : σ) :
    (p.place width).run s = (.range 0 (max p.domain 0), s) := by
  rw [place, if_pos h]
  rfl

/-- **A width that leaves room in the domain** is placed by a draw. -/
theorem run_place_of_lt (h : width < p.domain) (s : σ) :
    let drawn := DrawSource.drawInt 0 (p.domain - width) s
    (p.place width).run s = (.range drawn.1 (drawn.1 + width), drawn.2) := by
  rw [place, if_neg (Int64.not_le.2 h)]
  rfl

theorem run_plan_of_ok (h : p.offset f = .ok width) (s : σ) :
    (p.plan f).run s = (.ok ((p.place width).run s).1, ((p.place width).run s).2) :=
  (run_bind_of_run (run_ofExcept h s)).trans (run_ofDraws _ s)

theorem run_plan_of_error {e : GenerationError} (h : p.offset f = .error e) (s : σ) :
    (p.plan f).run s = (.error e, s) := by
  rw [plan, h]
  rfl

end Draws

theorem isPlaced_of_le (hwidth : 0 ≤ width.toInt) (h : p.domain ≤ width) :
    p.IsPlaced width 0 (max p.domain 0) [] := by
  have hnot : ¬ width < p.domain := Int64.not_lt.2 h
  have hle := Int64.le_iff_toInt_le.1 h
  have hlow : (0 : Int64).toInt = 0 := Int64.toInt_zero
  have hhigh := toInt_max p.domain 0
  exact {
    zero_le := by omega
    low_le_high := by omega
    high_le := by omega
    extent := by omega
    least_le := by omega
    draws_eq := (if_neg hnot).symm
    room := fun hlt => absurd hlt hnot }

/-- The places that a width leaves are counted without wrapping around. -/
theorem toInt_room (hwidth : 0 ≤ width.toInt) (h : width < p.domain) :
    (p.domain - width).toInt = p.domain.toInt - width.toInt := by
  have hdomain := p.domain.toInt_lt
  have hlt := Int64.lt_iff_toInt_lt.1 h
  rw [Int64.toInt_sub]
  exact Int.bmod_eq_of_le (by omega) (by omega)

theorem room_pos (hwidth : 0 ≤ width.toInt) (h : width < p.domain) : 0 < p.domain - width := by
  have hlt := Int64.lt_iff_toInt_lt.1 h
  rw [Int64.lt_iff_toInt_lt, toInt_room hwidth h, Int64.toInt_zero]
  omega

theorem isPlaced_of_lt (hleast : p.leastWidth.toInt ≤ width.toInt) (hwidth : 0 ≤ width.toInt)
    (h : width < p.domain) (hlow : 0 ≤ low ∧ low < p.domain - width) :
    p.IsPlaced width low (low + width) [.int 0 (p.domain - width)] := by
  have hdomain := p.domain.toInt_lt
  have hroom := toInt_room hwidth h
  have hzero := Int64.le_iff_toInt_le.1 hlow.1
  have hplace := Int64.lt_iff_toInt_lt.1 hlow.2
  rw [Int64.toInt_zero] at hzero
  have hhigh : (low + width).toInt = low.toInt + width.toInt := by
    rw [Int64.toInt_add]
    exact Int.bmod_eq_of_le (by omega) (by omega)
  exact {
    zero_le := hzero
    low_le_high := by omega
    high_le := by omega
    extent := by omega
    least_le := by omega
    draws_eq := (if_pos h).symm
    room := fun _ => ⟨room_pos hwidth h, hroom, rfl, hhigh⟩ }

/-! ## Planning a range -/

section Draws

variable {σ : Type} [DrawSource σ] [LawfulDrawSource σ]

/-- Whatever its width, a range is placed in the domain, and the record of the draws changes nothing. -/
theorem exists_run_place (hleast : p.leastWidth.toInt ≤ width.toInt) (hwidth : 0 ≤ width.toInt) (s : σ) :
    ∃ low high s' draws, (p.place width).run s = (.range low high, s') ∧
      (p.place width).run (Recorded.start s) = (.range low high, ⟨s', draws⟩) ∧
      p.IsPlaced width low high draws := by
  by_cases h : p.domain ≤ width
  · exact ⟨_, _, _, _, run_place_of_le h s, run_place_of_le h _, isPlaced_of_le hwidth h⟩
  · have hlt : width < p.domain := Int64.not_le.1 h
    exact ⟨_, _, _, _, run_place_of_lt hlt s, run_place_of_lt hlt _,
      isPlaced_of_lt hleast hwidth hlt (LawfulDrawSource.drawInt_mem 0 _ s (room_pos hwidth hlt))⟩

/-- **What becomes of a selectivity**: a NaN and what lies outside of the unit interval is refused without
a draw, and for any other real a range of its width is placed in the domain. -/
theorem plan_outcomes (p : RangePlanner) (hleast : 0 ≤ p.leastWidth.toInt) (f : Float) (s : σ) :
    ((f.isNaN = true ∨ f < 0 ∨ 1 < f) ∧
      (p.plan f).run s = (.error (.invalidSelectivity f), s) ∧
      (p.plan f).run (Recorded.start s) = (.error (.invalidSelectivity f), ⟨s, []⟩)) ∨
    (¬ (f.isNaN = true ∨ f < 0 ∨ 1 < f) ∧
      ∃ width low high s' draws, p.offset f = .ok width ∧
        (p.plan f).run s = (.ok (.range low high), s') ∧
        (p.plan f).run (Recorded.start s) = (.ok (.range low high), ⟨s', draws⟩) ∧
        p.IsPlaced width low high draws) := by
  rw [← isSelectivity_eq_false_iff]
  cases h : isSelectivity f with
  | false =>
    have hoffset : p.offset f = .error (.invalidSelectivity f) := by
      rw [offset, h]
      rfl
    exact .inl ⟨rfl, run_plan_of_error hoffset s, run_plan_of_error hoffset _⟩
  | true =>
    have hoffset := (offset_eq_ok_iff p f _).2 ⟨h, rfl⟩
    have hwidth := le_offset hoffset
    obtain ⟨low, high, s', draws, hplace, hrecorded, hplaced⟩ :=
      exists_run_place hwidth (Int.le_trans hleast hwidth) s
    refine .inr ⟨by decide, _, low, high, s', draws, hoffset, ?_, ?_, hplaced⟩
    · rw [run_plan_of_ok hoffset, hplace]
    · rw [run_plan_of_ok hoffset, hrecorded]

end Draws

/-- A quarter of the largest domain, which is rounded to `2 ^ 63` first. -/
theorem plan_largestDomain :
    0 ≤ (⟨Int64.maxValue, 5⟩ : RangePlanner).leastWidth.toInt ∧
      ∃ low high s' draws, offset ⟨Int64.maxValue, 5⟩ 0.25 = .ok (2 ^ 61) ∧
        (plan ⟨Int64.maxValue, 5⟩ 0.25).run (Stream.ofSeed 47) = (.ok (.range low high), s') ∧
        (plan ⟨Int64.maxValue, 5⟩ 0.25).run (Recorded.start (Stream.ofSeed 47)) =
          (.ok (.range low high), ⟨s', draws⟩) ∧
        IsPlaced ⟨Int64.maxValue, 5⟩ (2 ^ 61) low high draws := by
  have hleast : 0 ≤ (⟨Int64.maxValue, 5⟩ : RangePlanner).leastWidth.toInt := by decide
  have hquarter : offset ⟨Int64.maxValue, 5⟩ 0.25 = .ok (2 ^ 61) :=
    (offset_eq_ok_iff ..).2 (by decide +kernel)
  refine ⟨hleast, ?_⟩
  rcases plan_outcomes ⟨Int64.maxValue, 5⟩ hleast 0.25 (Stream.ofSeed 47) with ⟨hrefused, -⟩ | ⟨-, hplanned⟩
  · exact absurd hrefused (by decide +kernel)
  · obtain ⟨width, low, high, s', draws, hwidth, hplan⟩ := hplanned
    obtain rfl := Except.ok.inj (hquarter.symm.trans hwidth)
    exact ⟨low, high, s', draws, hwidth, hplan⟩

end Columnar.RangePlanner
