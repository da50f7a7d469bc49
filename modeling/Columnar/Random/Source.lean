import Columnar.Random.ChaCha

/-!
# Sources of draws

Everything that is generated at random takes integers from a half-open range and reals from the unit
interval, one after the other, and hands on the source as the draws left it. What is generated depends
on the source through these two draws only, so it is stated for every source; a seeded stream is one.

## Termination

An integer is drawn by multiplying the range into a 64-bit word and taking the upper half; words whose
lower half would favour some integers are passed over. Fewer than half of all words are, so the number
of attempts is bounded by one that no stream of random words comes near.

## Main statements

* `Stream.drawInt_mem`: an integer drawn from a stream lies in its range.
-/

namespace Columnar.Random

/-- A source of draws, threaded through what uses it. -/
class DrawSource (σ : Type) where
  /-- An integer that is at least `low` and below `high`. -/
  drawInt : (low high : Int64) → σ → Int64 × σ
  /-- A real that is at least zero and below one. -/
  drawUnit : σ → Float × σ

/-- The integers drawn from a source lie in their ranges. -/
class LawfulDrawSource (σ : Type) [DrawSource σ] : Prop where
  drawInt_mem : ∀ (low high : Int64) (s : σ), low < high →
    low ≤ (DrawSource.drawInt low high s).1 ∧ (DrawSource.drawInt low high s).1 < high

section Draws

variable {σ : Type} [DrawSource σ]

/-- Draws an integer from `[low, high)`. -/
def uniform (low high : Int64) : StateM σ Int64 :=
  DrawSource.drawInt low high

/-- Draws a real from `[0, 1)`. -/
def unit : StateM σ Float :=
  DrawSource.drawUnit

/-- `n` results of a draw, in order. -/
def repeatDraw {α : Type} : (n : Nat) → StateM σ α → StateM σ (List α)
  | 0, _ => pure []
  | n + 1, draw => do
    let a ← draw
    let rest ← repeatDraw n draw
    return a :: rest

omit [DrawSource σ] in
theorem repeatDraw_succ {α : Type} (n : Nat) (draw : StateM σ α) (s : σ) :
    (repeatDraw (n + 1) draw).run s =
      (((draw.run s).1 :: ((repeatDraw n draw).run (draw.run s).2).1),
        ((repeatDraw n draw).run (draw.run s).2).2) := rfl

omit [DrawSource σ] in
/-- As many results are drawn as were asked for. -/
theorem length_repeatDraw {α : Type} (n : Nat) (draw : StateM σ α) (s : σ) :
    ((repeatDraw n draw).run s).1.length = n := by
  induction n generalizing s with
  | zero => rfl
  | succ n ih => rw [repeatDraw_succ, List.length_cons, ih]

end Draws

/-! ## Streams as sources -/

namespace Stream

/-- The words that are taken: those whose product with the range has a lower half up to this one. -/
def zone (range : UInt64) : Nat :=
  range.toNat <<< (63 - range.toNat.log2) - 1

/-- Draws a number below `range`, in at most `attempts` attempts, and zero after them. -/
def below (range : UInt64) : (attempts : Nat) → Stream → Nat × Stream
  | 0, s => (0, s)
  | attempts + 1, s =>
    let (word, s) := s.next
    let product := word.toNat * range.toNat
    if product % UInt64.size ≤ zone range then (product / UInt64.size, s) else below range attempts s

/-- The number of attempts that a draw may take. -/
def attempts : Nat := 1024

/-- Draws an integer from `[low, high)`. -/
def drawInt (low high : Int64) (s : Stream) : Int64 × Stream :=
  let drawn := below (high.toUInt64 - low.toUInt64) attempts s
  (low + Int64.ofNat drawn.1, drawn.2)

/-- Draws a real from `[0, 1)`: the upper 53 bits of a word as a fraction. -/
def drawUnit (s : Stream) : Float × Stream :=
  let (word, s) := s.next
  ((word >>> 11).toFloat / 9007199254740992, s)

instance : DrawSource Stream where
  drawInt := drawInt
  drawUnit := drawUnit

/-- A number drawn below a range is below it. -/
theorem below_lt {range : UInt64} (h : 0 < range.toNat) (attempts : Nat) (s : Stream) :
    (below range attempts s).1 < range.toNat := by
  induction attempts generalizing s with
  | zero => exact h
  | succ attempts ih =>
    rw [below]
    split
    rename_i word s' _
    simp only
    split
    · have hw := word.toNat_lt
      exact Nat.div_lt_of_lt_mul (Nat.mul_lt_mul_of_pos_right hw h)
    · exact ih s'

/-- The signed value of a word is its unsigned value, balanced around zero. -/
theorem toInt_eq_bmod (v : Int64) : v.toInt = (v.toUInt64.toNat : Int).bmod UInt64.size :=
  BitVec.toInt_eq_toNat_bmod v.toBitVec

/-- The length of a range, as an unsigned difference of its ends. -/
theorem toNat_range {low high : Int64} (h : low < high) :
    ((high.toUInt64 - low.toUInt64).toNat : Int) = high.toInt - low.toInt := by
  have hl := toInt_eq_bmod low
  have hh := toInt_eq_bmod high
  have lt := Int64.lt_iff_toInt_lt.1 h
  have bl := low.toUInt64.toNat_lt
  have bh := high.toUInt64.toNat_lt
  rw [UInt64.toNat_sub]
  rw [Int.bmod_def, UInt64.size] at hl hh
  omega

/-- An offset below the length of a range, added to its low end, stays in the range. -/
theorem add_offset_mem {low high : Int64} {n : Nat} (h : (n : Int) < high.toInt - low.toInt) :
    low ≤ low + Int64.ofNat n ∧ low + Int64.ofNat n < high := by
  have bl := low.le_toInt
  have bh := high.toInt_lt
  have value : (low + Int64.ofNat n).toInt = low.toInt + n := by
    rw [Int64.toInt_add, Int64.toInt_ofNat']
    simp only [Int64.size]
    rw [Int.add_bmod_bmod]
    exact Int.bmod_eq_of_le (by omega) (by omega)
  rw [Int64.le_iff_toInt_le, Int64.lt_iff_toInt_lt, value]
  omega

/-- **An integer drawn from a stream lies in its range.** -/
theorem drawInt_mem (low high : Int64) (s : Stream) (h : low < high) :
    low ≤ (drawInt low high s).1 ∧ (drawInt low high s).1 < high := by
  have length := toNat_range h
  have lt := Int64.lt_iff_toInt_lt.1 h
  have drawn := @below_lt (high.toUInt64 - low.toUInt64) (by omega) attempts s
  rw [drawInt]
  generalize below (high.toUInt64 - low.toUInt64) attempts s = r at drawn
  exact add_offset_mem (by omega)

instance : LawfulDrawSource Stream where
  drawInt_mem := drawInt_mem

end Stream

end Columnar.Random
