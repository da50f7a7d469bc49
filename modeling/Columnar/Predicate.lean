import Columnar.Text.Numeral

/-!
# Range predicates

A predicate is a half-open range of 64-bit integers: its low bound is included, its high bound is not,
and either may be missing. Its text is the two bounds with a comma between, `null` for a missing one.

## Main statements

* `Predicate.holds_iff`: a value satisfies a predicate iff it is not below the low bound and below the
  high bound.
* `Bound.parse_chars`: a bound reads back from its text.
-/

namespace Columnar

/-- One end of a range. -/
inductive Bound where
  | unbounded
  | value (v : Int64)
  deriving DecidableEq, Repr

namespace Bound

/-- The text of a bound. -/
def chars : Bound → List Char
  | unbounded => "null".toList
  | value v => Text.int64Chars v

/-- Reads a bound, up to surrounding blanks. -/
def parse? (cs : List Char) : Option Bound :=
  if Text.trim cs = "null".toList then some unbounded
  else (Text.readInt64 (Text.trim cs)).map value

/-- **A bound reads back from its text.** -/
theorem parse_chars (b : Bound) : parse? b.chars = some b := by
  cases b with
  | unbounded => rfl
  | value v =>
    have hc : ∀ c ∈ Text.int64Chars v, Text.isBlank c = false := by
      intro c h
      rcases Text.mem_intChars h with rfl | h
      · rfl
      · exact Text.isBlank_of_isDigit h
    have hn : Text.int64Chars v ≠ "null".toList := by
      intro h
      have hm : 'n' ∈ Text.int64Chars v := by
        rw [h]
        decide
      rcases Text.mem_intChars hm with h | h <;> simp at h
    rw [parse?, chars, Text.trim_of_forall_not_isBlank hc, if_neg hn, Text.readInt64_int64Chars,
      Option.map_some]

/-- Whether the range is open on this side. -/
def isUnbounded : Bound → Bool
  | unbounded => true
  | value _ => false

end Bound

/-- The range of the values that are at least `low` and below `high`. -/
structure Predicate where
  low : Bound
  high : Bound
  deriving DecidableEq, Repr

namespace Predicate

/-- The range `[low, high)`. -/
def range (low high : Int64) : Predicate :=
  ⟨.value low, .value high⟩

/-- The range of all values below `high`. -/
def below (high : Int64) : Predicate :=
  ⟨.unbounded, .value high⟩

/-- Whether a value lies in the range. -/
def holds (p : Predicate) (v : Int64) : Bool :=
  (match p.low with
    | .unbounded => true
    | .value low => low ≤ v) &&
  (match p.high with
    | .unbounded => true
    | .value high => v < high)

/-- The text of a predicate. -/
def chars (p : Predicate) : List Char :=
  p.low.chars ++ ',' :: p.high.chars

/-- The text of a predicate. -/
def text (p : Predicate) : String :=
  String.ofList p.chars

theorem holds_iff (p : Predicate) (v : Int64) :
    p.holds v = true ↔ (∀ low, p.low = .value low → low ≤ v) ∧ (∀ high, p.high = .value high → v < high) := by
  obtain ⟨low, high⟩ := p
  cases low <;> cases high <;> simp [holds]

@[simp] theorem holds_range (low high v : Int64) :
    (range low high).holds v = true ↔ low ≤ v ∧ v < high := by
  simp [range, holds]

@[simp] theorem holds_below (high v : Int64) : (below high).holds v = true ↔ v < high := by
  simp [below, holds]

end Predicate

end Columnar
