import Columnar.Random.Zipf
import Columnar.Table

/-!
# Tables under construction

A draft has a fixed number of rows and columns that are filled one after the other. Filling a column
that is there already replaces its values and keeps its place. Each filling takes its draws in a fixed
order, so the sequence of fillings fixes the draws.

## Main statements

* `Draft.values_set`: a filled column holds the new values, and the other columns are as before.
-/

namespace Columnar

open Columnar.Random

/-- A table whose columns are being filled. -/
structure Draft where
  database : String
  name : String
  rowCount : Nat
  columns : List Column
  deriving DecidableEq, Repr

namespace Draft

/-- A draft without columns. -/
def empty (database name : String) (rowCount : Nat) : Draft :=
  ⟨database, name, rowCount, []⟩

/-- The values of a column. -/
def values (d : Draft) (column : String) : Except GenerationError (List Int64) :=
  match d.columns.find? (·.name = column) with
  | some c => .ok c.values
  | none => .error (.unknownColumn column)

/-- Puts values in the place of a column's, or in a new column at the end. -/
def place (column : String) (values : List Int64) : List Column → List Column
  | [] => [⟨column, values⟩]
  | c :: cs => if c.name = column then ⟨column, values⟩ :: cs else c :: place column values cs

/-- Fills a column. -/
def set (d : Draft) (column : String) (values : List Int64) : Draft :=
  { d with columns := place column values d.columns }

/-- Fills several columns, the last of equal names winning. -/
def setMany (d : Draft) (columns : List (String × List Int64)) : Draft :=
  columns.foldl (fun d (column, values) => d.set column values) d

/-- That a range for a column holds a value. -/
def checkRange (column : String) (low high : Int64) : Except GenerationError Unit :=
  if low < high then .ok () else .error (.emptyRange column low high)

/-! ## Fillings without draws -/

/-- Fills a column with one value. -/
def fillConstant (d : Draft) (column : String) (value : Int64) : Draft :=
  d.set column (List.replicate d.rowCount value)

/-- Fills a column with `start`, `start + 1`, … The offsets are signed 64-bit integers: a row count that
is negative as one has none. -/
def fillSequence (d : Draft) (column : String) (start : Int64) : Draft :=
  d.set column ((List.range (Int64.ofNat d.rowCount).toNatClampNeg).map fun i => start + Int64.ofNat i)

/-- Overwrites a column with a value at the rows that a mask selects. -/
def inject (d : Draft) (column : String) (mask : List Bool) (value : Int64) : Except GenerationError Draft :=
  if mask.length = d.rowCount then do
    let old ← d.values column
    return d.set column (old.zipWith (fun v selected => if selected then value else v) mask)
  else
    .error (.maskLength d.rowCount mask.length)

/-- Adds each value of one column to the value of another in its row. -/
def addColumn (d : Draft) (target source : String) : Except GenerationError Draft := do
  let addends ← d.values source
  let old ← d.values target
  return d.set target (old.zipWith (· + ·) addends)

/-- The table of the columns, in the order in which they were first filled. -/
def finish (d : Draft) : Except GenerationError Table :=
  (Table.ofColumns d.database d.name d.rowCount d.columns).mapError .data

/-! ## Fillings by draws -/

section Draws

variable {σ : Type} [DrawSource σ]

/-- Fills several columns with integers from one range, drawn row by row. An empty range is the error of
the first column; no columns need no range. -/
def uniformColumns (d : Draft) (names : List String) (low high : Int64) : Generation σ Draft := do
  match names with
  | [] => return d
  | first :: _ =>
    Generation.ofExcept (checkRange first low high)
    let matrix ← Generation.ofDraws (repeatDraw d.rowCount (repeatDraw names.length (uniform low high)))
    return d.setMany (names.zip (Grid.rows names.length matrix))

/-- Fills a column with integers from a range. -/
def fillUniform (d : Draft) (column : String) (low high : Int64) : Generation σ Draft := do
  Generation.ofExcept (checkRange column low high)
  return d.set column (← Generation.ofDraws (repeatDraw d.rowCount (uniform low high)))

/-- Fills a column with ranks. -/
def fillZipf (d : Draft) (column : String) (z : Zipf) : StateM σ Draft := do
  return d.set column ((← z.drawMany d.rowCount).map Int64.ofNat)

/-- Selects each row whose unit draw is below a threshold. -/
def mask (d : Draft) (threshold : Float) : StateM σ (List Bool) := do
  return (← repeatDraw d.rowCount unit).map fun u => u < threshold

end Draws

/-- **A filled column holds the new values, and the other columns are as before.** -/
theorem values_set (d : Draft) (column other : String) (values : List Int64) :
    (d.set column values).values other = if column = other then .ok values else d.values other := by
  have find : (place column values d.columns).find? (·.name = other) =
      if column = other then some ⟨column, values⟩ else d.columns.find? (·.name = other) := by
    induction d.columns with
    | nil => by_cases h : column = other <;> simp [place, h]
    | cons c cs ih =>
      rw [place]
      split
      · rename_i same
        by_cases h : column = other <;> simp [h, same]
      · rename_i differs
        rw [List.find?_cons, ih, List.find?_cons]
        by_cases h : column = other
        · subst h
          simp [differs]
        · simp [h]
  rw [set, Draft.values]
  simp only [find]
  by_cases h : column = other <;> simp [h, Draft.values]

end Draft

end Columnar
