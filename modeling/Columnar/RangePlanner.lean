import Columnar.Dataset.Error
import Columnar.Decimal.Integer
import Columnar.Predicate
import Columnar.Random.Source

/-!
# Planning ranges by selectivity

A planner knows that a column's values lie in `[0, domain)`. For a selectivity `f` it plans a range of
width `domain · f`, rounded to the nearest integer and at least a least width, at a place drawn
uniformly inside the domain. Where the width covers the domain, the range is the domain and nothing is
drawn.

## Main statements

* `RangePlanner.offset_eq_ok_iff`: a width is planned iff the selectivity lies in the unit interval.
-/

namespace Columnar

/-- The domain of a column and the least width of its ranges. -/
structure RangePlanner where
  domain : Int64
  leastWidth : Int64
  deriving DecidableEq, Repr

namespace RangePlanner

/-- The planner of a domain, for ranges of any width. -/
def ofDomain (domain : Int64) : RangePlanner :=
  ⟨domain, 0⟩

/-- The planner of the same domain for ranges at least so wide. -/
def withLeastWidth (p : RangePlanner) (width : Int64) : RangePlanner :=
  { p with leastWidth := width }

/-- Whether a number is a selectivity. -/
def isSelectivity (f : Float) : Bool :=
  0 ≤ f && f ≤ 1

/-- The share `f` of the domain, rounded to the nearest integer, a half away from zero. -/
def scaled (p : RangePlanner) (f : Float) : Int64 :=
  Decimal.toInt64 (Float.ofInt p.domain.toInt * f)

/-- The width of a range of a selectivity. -/
def offset (p : RangePlanner) (f : Float) : Except GenerationError Int64 :=
  if isSelectivity f then .ok (max p.leastWidth (p.scaled f)) else .error (.invalidSelectivity f)

/-- The range of all values below the share `f` of the domain. -/
def planUpper (p : RangePlanner) (f : Float) : Except GenerationError Predicate :=
  if isSelectivity f then .ok (.below (p.scaled f)) else .error (.invalidSelectivity f)

section Draws

variable {σ : Type} [Random.DrawSource σ]

/-- A range of a given width, placed in the domain. -/
def place (p : RangePlanner) (width : Int64) : StateM σ Predicate := do
  if p.domain ≤ width then
    return .range 0 (max p.domain 0)
  else
    let low ← Random.uniform 0 (p.domain - width)
    return .range low (low + width)

/-- A range of a selectivity, placed in the domain. -/
def plan (p : RangePlanner) (f : Float) : Generation σ Predicate := do
  let width ← Generation.ofExcept (p.offset f)
  Generation.ofDraws (p.place width)

/-- `count` ranges of one selectivity, in the order of their draws. -/
def planMany (p : RangePlanner) (f : Float) : (count : Nat) → Generation σ (List Predicate)
  | 0 => return []
  | count + 1 => do
    let range ← p.plan f
    return range :: (← p.planMany f count)

end Draws

/-- A width is planned iff the selectivity lies in the unit interval. -/
theorem offset_eq_ok_iff (p : RangePlanner) (f : Float) (width : Int64) :
    p.offset f = .ok width ↔ isSelectivity f = true ∧ width = max p.leastWidth (p.scaled f) := by
  rw [offset]
  split
  · rename_i h
    simp [h, eq_comm]
  · rename_i h
    simp [h]

end RangePlanner

end Columnar
