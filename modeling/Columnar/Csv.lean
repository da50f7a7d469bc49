import Columnar.Table
import Columnar.Text.Numeral

/-!
# Tables as comma-separated text

The first line names the columns as `database.table.column`; each row follows on a line of its own.
Every line ends with a line feed, and fields are separated by commas. Integers need no quoting, and
names are written as they are.
-/

namespace Columnar.Csv

/-- A line of fields. -/
def line (fields : List (List Char)) : List Char :=
  List.intercalate [','] fields ++ ['\n']

/-- The header names each column by its table. -/
def header (t : Table) : List Char :=
  line (t.columnNames.map fun name => (t.qualifiedName ++ "." ++ name).toList)

/-- The text of a table. -/
def chars (t : Table) : List Char :=
  header t ++ t.rows.flatMap fun row => line (row.map Text.int64Chars)

/-- The text of a table. -/
def text (t : Table) : String :=
  String.ofList (chars t)

end Columnar.Csv
