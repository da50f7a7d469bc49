import Columnar.Dataset.Error
import Columnar.Random.Source

/-!
# Zipf's law

Rank `k` of `1 … N` has the probability `k ^ (-s) / H`, where `H` is the sum of the weights `k ^ (-s)`.
A rank is drawn by walking up the ranks until their cumulative probability exceeds a unit draw; the walk
stops at `N` even if rounding leaves the cumulative probability short of the draw.

## Termination

The walk recurses on the number of ranks that are left.

## Main statements

* `Zipf.sample_mem`: a sampled rank lies in `1 … N`.
-/

namespace Columnar

/-- Zipf's law of a skew over the ranks `1 … domain`, with the sum of its weights. -/
structure Zipf where
  skew : Float
  domain : Nat
  harmonic : Float
  deriving Repr

namespace Zipf

/-- The weight of a rank. -/
def weight (skew : Float) (k : Nat) : Float :=
  1 / Float.pow (Float.ofNat k) skew

/-- A sum of reals, from the left. -/
def total (xs : List Float) : Float :=
  xs.foldl (· + ·) 0

/-- Whether a law has these parameters: a positive finite skew and at least one rank. -/
def isValid (skew : Float) (domain : Nat) : Bool :=
  1 ≤ domain && skew.isFinite && 0 < skew

/-- The law of a skew over the ranks `1 … domain`. -/
def of (skew : Float) (domain : Nat) : Except GenerationError Zipf :=
  if isValid skew domain then
    .ok ⟨skew, domain, total ((List.range' 1 domain).map (weight skew))⟩
  else
    .error (.invalidZipf skew domain)

/-- The share of a rank in the sum of the weights. -/
def share (z : Zipf) (k : Nat) : Float :=
  weight z.skew k / z.harmonic

/-- The probability of a rank, zero outside `1 … N`. -/
def probability (z : Zipf) (k : Nat) : Float :=
  if k < 1 ∨ z.domain < k then 0 else z.share k

/-- The cumulative probability of the ranks up to `k`. -/
def cdf (z : Zipf) (k : Nat) : Float :=
  total ((List.range' 1 (min k z.domain)).map z.probability)

/-- The walk at a rank with its cumulative probability, with some ranks left above. -/
def walk (z : Zipf) (u : Float) : (left rank : Nat) → (cumulated : Float) → Nat
  | 0, rank, _ => rank
  | left + 1, rank, cumulated =>
    if cumulated ≤ u then walk z u left (rank + 1) (cumulated + z.share (rank + 1)) else rank

/-- The least rank whose cumulative probability exceeds `u`, or the last rank. -/
def sample (z : Zipf) (u : Float) : Nat :=
  max 1 (z.walk u z.domain 0 0)

section Draws

variable {σ : Type} [Random.DrawSource σ]

/-- Draws a rank. -/
def draw (z : Zipf) : StateM σ Nat := do
  return z.sample (← Random.unit)

/-- Draws `n` ranks. -/
def drawMany (z : Zipf) (n : Nat) : StateM σ (List Nat) := do
  return (← Random.repeatDraw n Random.unit).map z.sample

end Draws

theorem walk_le (z : Zipf) (u : Float) (left rank : Nat) (cumulated : Float) :
    z.walk u left rank cumulated ≤ rank + left := by
  induction left generalizing rank cumulated with
  | zero => exact Nat.le_refl _
  | succ left ih =>
    rw [walk]
    split
    · have := ih (rank + 1) (cumulated + z.share (rank + 1))
      omega
    · omega

/-- **A sampled rank lies in `1 … N`.** -/
theorem sample_mem (z : Zipf) (h : 1 ≤ z.domain) (u : Float) : 1 ≤ z.sample u ∧ z.sample u ≤ z.domain := by
  have := z.walk_le u z.domain 0 0
  rw [sample]
  omega

end Zipf

end Columnar
