import Columnar.Decimal.Fixed

/-!
# Sums and means

Sums are exact. A mean is kept as a fraction and becomes a double, rounded once from the sum, once from
the count and once from their quotient, when its text is asked for; the text has two places. The sum of
no values is written `0` and their mean `0.00`.
-/

namespace Columnar

/-- What an aggregate computes of a list of values. -/
inductive AggregateFunction where
  | sum
  | avg
  deriving DecidableEq, Repr

/-- The name of an aggregate in a script. -/
def AggregateFunction.text : AggregateFunction → String
  | sum => "sum"
  | avg => "avg"

/-- The mean of `count` values. -/
structure Mean where
  sum : Int
  count : Nat
  deriving DecidableEq, Repr

namespace Mean

/-- The double nearest to the quotient of the doubles nearest to the sum and to the count. -/
def toFloat (m : Mean) : Float :=
  Float.ofInt m.sum / Float.ofNat m.count

/-- A mean with two places. -/
def chars (m : Mean) : List Char :=
  Decimal.fixedChars 2 m.toFloat

/-- A mean with two places. -/
def text (m : Mean) : String :=
  String.ofList m.chars

end Mean

namespace Query

/-- The exact sum of a non-empty list of values. -/
def sum (values : List Int64) : Option Int :=
  if values.isEmpty then none else some ((values.map Int64.toInt).foldl (· + ·) 0)

/-- The mean of a non-empty list of values. -/
def avg (values : List Int64) : Option Mean :=
  (sum values).map fun total => ⟨total, values.length⟩

end Query

/-- The result of an aggregate; there is none for an empty list. -/
inductive Aggregate where
  | sum (total : Option Int)
  | avg (mean : Option Mean)
  deriving DecidableEq, Repr

namespace Aggregate

/-- The aggregate of a list of values. -/
def of : AggregateFunction → List Int64 → Aggregate
  | .sum, values => sum (Query.sum values)
  | .avg, values => avg (Query.avg values)

/-- Whether there were no values. -/
def isEmptyGroup : Aggregate → Bool
  | sum total => total.isNone
  | avg mean => mean.isNone

/-- The text of a result. -/
def chars : Aggregate → List Char
  | sum total => Text.intChars (total.getD 0)
  | avg (some mean) => mean.chars
  | avg none => "0.00".toList

/-- The text of a result. -/
def text (a : Aggregate) : String :=
  String.ofList a.chars

/-- There is no result iff there were no values. -/
theorem isEmptyGroup_of (f : AggregateFunction) (values : List Int64) :
    (of f values).isEmptyGroup = values.isEmpty := by
  cases f <;> cases values <;> simp [of, isEmptyGroup, Query.avg, Query.sum]

end Aggregate

end Columnar
