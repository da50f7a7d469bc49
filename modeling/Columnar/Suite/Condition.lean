import Columnar.Predicate

/-!
# Ranges in comments

Comments of scenarios tell in SQL what their queries ask.
-/

namespace Columnar.Predicate

/-- The decimal text of a value. -/
def valueText (v : Int64) : String :=
  String.ofList (Text.int64Chars v)

/-- The condition that a column's value lies in a range. -/
def condition (column : String) (p : Predicate) : String :=
  match p.low, p.high with
  | .value low, .value high =>
    column ++ " >= " ++ valueText low ++ " AND " ++ column ++ " < " ++ valueText high
  | .value low, .unbounded => column ++ " >= " ++ valueText low
  | .unbounded, .value high => column ++ " < " ++ valueText high
  | .unbounded, .unbounded => "TRUE"

end Columnar.Predicate
