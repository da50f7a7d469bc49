import Columnar.Script.Basic
import Columnar.Script.Line

/-!
# Writing scripts

Every operation has one written form: a comment after `--`, the word `shutdown`, or a call without
spaces. Names of tables' columns and paths are put in quotes. A script is one operation a line.

## Main statements

* `Script.chars_append`: the text of two scripts in sequence is their texts in sequence.
-/

namespace Columnar

namespace Op

/-- A text between quotes. -/
def quoted (text : String) : List Char :=
  '"' :: (text.toList ++ ['"'])

/-- The arguments that name what a select scans. -/
def sourceArgs : SelectSource → List (List Char)
  | .column column => [column.chars]
  | .refine rows values => [rows.toList, values.toList]

/-- The written form of an operation. -/
def line : Op → Line
  | comment text => .comment text.toList
  | createTable name database columns =>
    .call ⟨[], "create".toList, ["tbl".toList, quoted name, database.toList, Text.uint64Chars columns]⟩
  | createColumn name database table =>
    .call ⟨[], "create".toList, ["col".toList, quoted name, database.toList ++ '.' :: table.toList]⟩
  | createIndex column kind clustering =>
    .call ⟨[], "create".toList, ["idx".toList, column.chars, kind.text.toList, clustering.text.toList]⟩
  | load path => .call ⟨[], "load".toList, [quoted path]⟩
  | select out source predicate =>
    .call ⟨[out.toList], "select".toList,
      sourceArgs source ++ [predicate.low.chars, predicate.high.chars]⟩
  | fetch out column rows => .call ⟨[out.toList], "fetch".toList, [column.chars, rows.toList]⟩
  | join leftOut rightOut left right kind =>
    .call ⟨[leftOut.toList, rightOut.toList], "join".toList,
      [left.values.toList, left.rows.toList, right.values.toList, right.rows.toList, kind.text.toList]⟩
  | aggregate function out input => .call ⟨[out.toList], function.text.toList, [input.toList]⟩
  | print handles => .call ⟨[], "print".toList, handles.map String.toList⟩
  | shutdown => .shutdown

/-- The text of an operation. -/
def chars (op : Op) : List Char :=
  op.line.chars

/-- The text of an operation. -/
def text (op : Op) : String :=
  String.ofList op.chars

end Op

namespace Script

/-- The text of a script: each operation on a line of its own. -/
def chars (s : Script) : List Char :=
  s.flatMap fun op => op.chars ++ ['\n']

/-- The text of a script. -/
def text (s : Script) : String :=
  String.ofList (chars s)

theorem chars_append (s t : Script) : chars (s ++ t) = chars s ++ chars t := by
  simp [chars]

end Script

end Columnar
