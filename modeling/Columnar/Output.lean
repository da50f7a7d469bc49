import Columnar.Grid
import Columnar.Query.Aggregate
import Columnar.Query.Error

/-!
# Laying out what a script prints

Each print is a block. A block of scalars is one line with commas between; a block of rows is one line
a row, and each row's values have commas between. Every block ends its last line, and a block of rows
is followed by a blank line unless it is the last block, so a reader sees where a sequence ends.

## Main statements

* `Block.ofColumns_eq_ok_iff`: columns are printed side by side iff all have the length of the first.
* `Layout.chars_append`: the text of two lists of blocks is the text of the first, a separator where it
  is due, and the text of the second.
-/

namespace Columnar

open Text (intChars int64Chars)

/-- What one print lays out. -/
inductive Block where
  | scalars (items : List Aggregate)
  | rows (rows : List (List Int64))
  deriving DecidableEq, Repr

namespace Block

/-- The block of a list of values: one value a row. -/
def ofValues (values : List Int64) : Block :=
  rows (values.map fun v => [v])

/-- The block of columns of equal length, side by side. -/
def ofColumns (columns : List (List Int64)) : Except QueryError Block :=
  let length := (columns.head?.map List.length).getD 0
  match columns.find? (·.length ≠ length) with
  | some other => .error (.lengthMismatch .print length other.length)
  | none => .ok (rows (Grid.rows length columns))

/-- The block of columns of equal length, side by side, with their rows read cell by cell. -/
def readColumns (columns : List (List Int64)) : Except Grid.MissingCell (Except QueryError Block) :=
  let length := (columns.head?.map List.length).getD 0
  match columns.find? (·.length ≠ length) with
  | some other => return .error (.lengthMismatch .print length other.length)
  | none => return .ok (rows (← Grid.readRows length columns))

/-- Whether a block is a line of scalars. -/
def isScalars : Block → Bool
  | scalars _ => true
  | rows _ => false

/-- Texts with commas between. -/
def commaSeparated (fields : List (List Char)) : List Char :=
  List.intercalate [','] fields

/-- The lines of a block. -/
def lines : Block → List (List Char)
  | scalars items => [commaSeparated (items.map Aggregate.chars)]
  | rows rs => rs.map fun row => commaSeparated (row.map int64Chars)

/-- The text of a block, without the end of its last line. -/
def chars (b : Block) : List Char :=
  List.intercalate ['\n'] b.lines

/-- The text of a block, without the end of its last line. -/
def text (b : Block) : String :=
  String.ofList b.chars

/-- **Columns are printed side by side iff all have the length of the first.** -/
theorem ofColumns_eq_ok_iff {columns : List (List Int64)} {b : Block} :
    ofColumns columns = .ok b ↔
      (∀ c ∈ columns, c.length = (columns.head?.map List.length).getD 0) ∧
        b = rows (Grid.rows ((columns.head?.map List.length).getD 0) columns) := by
  simp only [ofColumns]
  split
  · rename_i other h
    have hm := List.mem_of_find?_eq_some h
    have hp := List.find?_some h
    simp only [reduceCtorEq, false_iff, not_and]
    intro all
    simp [all other hm] at hp
  · rename_i h
    rw [List.find?_eq_none] at h
    simp only [Except.ok.injEq]
    constructor
    · rintro rfl
      exact ⟨fun c hc => by simpa using h c hc, rfl⟩
    · rintro ⟨_, rfl⟩
      rfl

/-- A single column is printed as its values. -/
theorem ofColumns_singleton (values : List Int64) : ofColumns [values] = .ok (ofValues values) := by
  simp [ofColumns, ofValues, Grid.rows_singleton]

end Block

/-! ## Blocks in sequence -/

namespace Layout

/-- What stands between a block and a block after it. -/
def separator (b : Block) : List Char :=
  if b.isScalars then [] else ['\n']

/-- The text of a list of blocks. -/
def chars : List Block → List Char
  | [] => []
  | [b] => b.chars ++ ['\n']
  | b :: bs => b.chars ++ '\n' :: (separator b ++ chars bs)

/-- The text of a list of blocks. -/
def text (bs : List Block) : String :=
  String.ofList (chars bs)

theorem chars_cons {b : Block} {bs : List Block} (h : bs ≠ []) :
    chars (b :: bs) = b.chars ++ '\n' :: (separator b ++ chars bs) := by
  cases bs with
  | nil => exact absurd rfl h
  | cons c cs => rfl

/-- **Texts of lists of blocks are put together with the last block's separator between.** -/
theorem chars_append (bs : List Block) (b : Block) {cs : List Block} (h : cs ≠ []) :
    chars (bs ++ [b] ++ cs) = chars (bs ++ [b]) ++ (separator b ++ chars cs) := by
  induction bs with
  | nil => simp [chars_cons h, chars]
  | cons d ds ih =>
    have h1 : ds ++ [b] ++ cs ≠ [] := by simp
    have h2 : ds ++ [b] ≠ [] := by simp
    rw [List.cons_append, List.cons_append, chars_cons h1, ih, chars_cons h2]
    simp

end Layout

end Columnar
