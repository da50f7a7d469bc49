import Columnar.Proofs.Dataset.Refusals
import Columnar.Proofs.Decimal.Order
import Mathlib.Order.Bounds.Defs

/-!
# Sampling inverts the cumulative probability

The walk up the ranks carries a total along, and the cumulative probability of a rank is a sum that is
taken afresh. Both add the same shares in the same order, so the total is the cumulative probability of
the rank that the walk has come to, rounded alike. No law of addition is needed for that, and no
rounding error comes in between: where the walk stops is told by the cumulative probabilities alone.

* `Zipf.cdf_succ` — the cumulative probability of the next rank
* `Zipf.stopsAt_walk` — where a walk stops
* `Zipf.sample_inverts_cdf` — **a sample is the least rank whose cumulative probability exceeds the draw**
-/

namespace Columnar.Zipf

variable {z : Zipf} {u v : Float} {k rank stop : Nat}

/-! ## Cumulative probabilities -/

theorem total_concat (xs : List Float) (x : Float) : total (xs ++ [x]) = total xs + x :=
  List.foldl_concat ..

/-- Nothing has a cumulative probability of zero. -/
theorem cdf_zero (z : Zipf) : z.cdf 0 = 0 := by
  rw [cdf, Nat.zero_min]
  rfl

/-- **The cumulative probability of the next rank** is one addition away, as in a walk. -/
theorem cdf_succ (h : k < z.domain) : z.cdf (k + 1) = z.cdf k + z.share (k + 1) := by
  have hshare : z.probability (k + 1) = z.share (k + 1) := by
    rw [probability, if_neg (by omega)]
  rw [cdf, cdf, Nat.min_eq_left h, Nat.min_eq_left (Nat.le_of_lt h), List.range'_concat, List.map_append,
    List.map_singleton, total_concat, Nat.one_mul, Nat.add_comm 1 k, hshare]

/-! ## Walks -/

/-- Where a walk from a rank stops for a draw: at the last rank, or at the first one on its way whose
cumulative probability exceeds the draw. -/
structure StopsAt (z : Zipf) (u : Float) (rank stop : Nat) : Prop where
  le_stop : rank ≤ stop
  stop_le : stop ≤ z.domain
  passed : ∀ j, rank ≤ j → j < stop → z.cdf j ≤ u
  reached : stop = z.domain ∨ ¬ z.cdf stop ≤ u

/-- **A walk that carries the cumulative probability of its rank** goes on carrying it. -/
theorem stopsAt_walk (u : Float) {left rank : Nat} (h : rank + left = z.domain) :
    z.StopsAt u rank (z.walk u left rank (z.cdf rank)) := by
  induction left generalizing rank with
  | zero =>
    rw [walk]
    exact ⟨Nat.le_refl _, Nat.le_of_eq h, fun j hj hlt => absurd hlt (Nat.not_lt.2 hj), .inl h⟩
  | succ left ih =>
    rw [walk]
    split
    · rename_i hpass
      rw [← cdf_succ (by omega)]
      have hnext : rank + 1 + left = z.domain := by omega
      obtain ⟨hle, hdomain, hpassed, hreached⟩ := ih hnext
      refine ⟨by omega, hdomain, fun j hj hlt => ?_, hreached⟩
      rcases Nat.eq_or_lt_of_le hj with rfl | hj
      · exact hpass
      · exact hpassed j hj hlt
    · rename_i hstop
      exact ⟨Nat.le_refl _, by omega, fun j hj hlt => absurd hlt (Nat.not_lt.2 hj), .inr hstop⟩

/-! ## Samples -/

/-- The ranks whose cumulative probability exceeds a draw. -/
def above (z : Zipf) (u : Float) : Set Nat :=
  {k | (1 ≤ k ∧ k ≤ z.domain) ∧ ¬ z.cdf k ≤ u}

/-- The rank that a draw from zero up samples is where the walk stops. -/
theorem stopsAt_sample (h : 1 ≤ z.domain) (hu : 0 ≤ u) : z.StopsAt u 0 (z.sample u) ∧ 1 ≤ z.sample u := by
  have hstops := stopsAt_walk (z := z) u (Nat.zero_add z.domain)
  rw [cdf_zero] at hstops
  have hpos : 1 ≤ z.walk u z.domain 0 0 := by
    rcases hstops.reached with hlast | hstop
    · omega
    · refine Nat.pos_of_ne_zero fun hzero => hstop ?_
      rwa [hzero, cdf_zero]
  rw [sample, Nat.max_eq_right hpos]
  exact ⟨hstops, hpos⟩

/-- **A draw from zero up samples the least rank that exceeds it**, or the last rank where none does. -/
theorem isLeast_sample (h : 1 ≤ z.domain) (hu : 0 ≤ u) :
    IsLeast (z.above u) (z.sample u) ∨
      (∀ k, 1 ≤ k → k ≤ z.domain → z.cdf k ≤ u) ∧ z.sample u = z.domain := by
  obtain ⟨⟨-, hdomain, hpassed, hreached⟩, hpos⟩ := stopsAt_sample h hu
  by_cases hexceeds : z.cdf (z.sample u) ≤ u
  · -- the walk came to the last rank, so it has passed every other one
    have hlast : z.sample u = z.domain := hreached.resolve_right fun hstop => hstop hexceeds
    refine .inr ⟨fun k _ hk => ?_, hlast⟩
    rcases Nat.eq_or_lt_of_le hk with rfl | hlt
    · rwa [← hlast]
    · exact hpassed k (Nat.zero_le k) (hlast.symm ▸ hlt)
  · refine .inl ⟨⟨⟨hpos, hdomain⟩, hexceeds⟩, fun k hk => ?_⟩
    exact Nat.not_lt.1 fun hlt => hk.2 (hpassed k (Nat.zero_le k) hlt)

/-- A draw below zero and a NaN sample the first rank. -/
theorem sample_of_not_le (hu : ¬ 0 ≤ u) : z.sample u = 1 := by
  have hwalk : z.walk u z.domain 0 0 = 0 := by
    cases z.domain with
    | zero => rfl
    | succ left => rw [walk, if_neg hu]
  rw [sample, hwalk]
  rfl

/-- A greater draw is exceeded by fewer ranks. -/
theorem above_subset (huv : u ≤ v) : z.above v ⊆ z.above u :=
  fun _ hk => ⟨hk.1, fun hle => hk.2 (Decimal.le_trans hle huv)⟩

/-- **A greater draw samples no smaller rank.** -/
theorem sample_le_sample (h : 1 ≤ z.domain) (huv : u ≤ v) : z.sample u ≤ z.sample v := by
  by_cases hu : 0 ≤ u
  · rcases isLeast_sample h (Decimal.le_trans hu huv) with hleast | ⟨-, hlast⟩
    · have hmem := above_subset huv hleast.1
      rcases isLeast_sample h hu with hleast' | ⟨hnone, -⟩
      · exact hleast'.2 hmem
      · exact absurd (hnone _ hmem.1.1 hmem.1.2) hmem.2
    · rw [hlast]
      exact (sample_mem z h u).2
  · rw [sample_of_not_le hu]
    exact (sample_mem z h v).1

/-- **Sampling inverts the cumulative probability.** -/
theorem sample_inverts_cdf {skew : Float} {domain : Nat} (hz : Zipf.of skew domain = .ok z) :
    (∀ u, 0 ≤ u →
      IsLeast {k | (1 ≤ k ∧ k ≤ domain) ∧ ¬ z.cdf k ≤ u} (z.sample u) ∨
        (∀ k, 1 ≤ k → k ≤ domain → z.cdf k ≤ u) ∧ z.sample u = domain) ∧
    (∀ u, u < 0 ∨ u.isNaN = true → z.sample u = 1) ∧
    (∀ u, 1 ≤ z.sample u ∧ z.sample u ≤ domain) ∧
    ∀ u v, u ≤ v → z.sample u ≤ z.sample v := by
  obtain ⟨rfl, hdomain⟩ := domain_of_eq_ok hz
  refine ⟨fun u => isLeast_sample hdomain, fun u hu => ?_, z.sample_mem hdomain,
    fun u v => sample_le_sample hdomain⟩
  exact sample_of_not_le (Decimal.not_le_iff.2 (.inr hu.symm))

/-- The law of skew one over three ranks. -/
theorem sample_inverts_cdf_threeRanks :
    ∃ z, Zipf.of 1 3 = .ok z ∧
      (IsLeast {k | (1 ≤ k ∧ k ≤ 3) ∧ ¬ z.cdf k ≤ 0.5} (z.sample 0.5) ∨
        (∀ k, 1 ≤ k → k ≤ 3 → z.cdf k ≤ 0.5) ∧ z.sample 0.5 = 3) ∧
      z.sample (-1) = 1 ∧ z.sample (0 / 0) = 1 ∧ z.sample 0.25 ≤ z.sample 0.5 := by
  obtain ⟨z, hz⟩ := (Zipf.exists_of_iff 1 3).2 (by decide +kernel)
  obtain ⟨hleast, hfirst, -, hmono⟩ := sample_inverts_cdf hz
  exact ⟨z, hz, hleast 0.5 (by decide +kernel), hfirst _ (.inl (by decide +kernel)),
    hfirst _ (.inr (by decide +kernel)), hmono _ _ (by decide +kernel)⟩

end Columnar.Zipf
