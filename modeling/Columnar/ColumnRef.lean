import Columnar.DataError
import Columnar.Text.Lines

/-!
# Column references

A column is referred to as `database.table.column`: three non-empty parts without dots. Blanks around
the whole reference are ignored; blanks inside a part belong to it.

## Main statements

* `ColumnRef.parse_chars`: a reference whose parts are non-empty, hold no dot, and do not begin or end
  the whole with a blank reads back from its text.
-/

namespace Columnar

/-- A column of a table of a database. -/
structure ColumnRef where
  database : String
  table : String
  column : String
  deriving DecidableEq, Repr

namespace ColumnRef

/-- The text of a reference. -/
def chars (r : ColumnRef) : List Char :=
  r.database.toList ++ '.' :: (r.table.toList ++ '.' :: r.column.toList)

/-- The text of a reference. -/
def text (r : ColumnRef) : String :=
  String.ofList r.chars

/-- Reads a reference. -/
def parse (cs : List Char) : Except DataError ColumnRef :=
  match Text.splitOn '.' (Text.trim cs) with
  | [database, table, column] =>
    if database.isEmpty || table.isEmpty || column.isEmpty then
      .error (.invalidColumnRef (String.ofList cs))
    else
      .ok ⟨String.ofList database, String.ofList table, String.ofList column⟩
  | _ => .error (.invalidColumnRef (String.ofList cs))

theorem parse_chars {r : ColumnRef}
    (hd : '.' ∉ r.database.toList) (ht : '.' ∉ r.table.toList) (hc : '.' ∉ r.column.toList)
    (nd : r.database.toList ≠ []) (nt : r.table.toList ≠ []) (nc : r.column.toList ≠ [])
    (trimmed : Text.trim r.chars = r.chars) : parse r.chars = .ok r := by
  rw [parse, trimmed, chars, Text.splitOn_append hd, Text.splitOn_append ht, Text.splitOn_of_not_mem hc]
  simp_all

end ColumnRef

end Columnar
