import Columnar.Table

/-!
# Editing a table in place

A caller that holds a table adds columns and renames it call by call, and goes on after a call that was
refused. So here an edit works on the table where it stands, statement by statement, and what it has
changed before an error stays changed. What is stored is not known to be a table: nothing says that its
columns have different names or a value for each row, and reading a row fails where a cell is missing.
The functions of `Columnar.Table` make a new table of an old one instead, of a type that knows all this.
-/

namespace Columnar.Table

/-- What is stored of a table. -/
structure Raw where
  database : String
  name : String
  rowCount : Nat
  columns : List Column
  deriving DecidableEq, Repr

/-- What is stored of a table. -/
def raw (t : Table) : Raw :=
  ⟨t.database, t.name, t.rowCount, t.columns⟩

namespace Raw

/-- A table without columns, as it is stored. -/
def empty (database name : String) (rowCount : Nat) : Raw :=
  ⟨database, name, rowCount, []⟩

/-- The name of a stored table among all databases. -/
def qualifiedName (t : Raw) : String :=
  t.database ++ "." ++ t.name

/-- The names of the columns, in order. -/
def columnNames (t : Raw) : List String :=
  t.columns.map Column.name

/-- The row of a given id, cell by cell. -/
def readRow? (t : Raw) (i : Nat) : Except Grid.MissingCell (Option (List Int64)) :=
  if t.rowCount ≤ i then
    return none
  else
    return some (← Grid.readRow (t.columns.map Column.values) i)

end Raw

/-- Work on a stored table in place. An error ends it and takes nothing back. -/
abbrev Editing := ExceptT DataError (StateM Raw)

/-- A change that is asked of a table. -/
inductive Edit where
  | push (column : Column)
  | rename (name : String)
  deriving DecidableEq, Repr

namespace Edit

/-- Changes a stored table. A name that is taken is refused before a length that does not fit. -/
def perform : Edit → Editing Unit
  | push column => do
    let t ← get
    if column.name ∈ t.columnNames then
      throw (.duplicateColumn column.name t.qualifiedName)
    else if column.values.length ≠ t.rowCount then
      throw (.lengthMismatch column.name t.rowCount column.values.length)
    else
      set { t with columns := t.columns ++ [column] }
  | rename name =>
    modify fun t => { t with name := name }

/-- What comes of an edit of a stored table, and what is stored then. -/
def runOn (edit : Edit) (t : Raw) : Except DataError Unit × Raw :=
  (ExceptT.run edit.perform).run t

/-- Performs edits one after the other, whether or not they are refused, and tells what came of each. -/
def performAll : List Edit → StateM Raw (List (Except DataError Unit))
  | [] => return []
  | edit :: edits => do
    let outcome ← ExceptT.run edit.perform
    return outcome :: (← performAll edits)

/-- The columns that an edit adds where it is not refused. -/
def added : Edit → List Column
  | push column => [column]
  | rename _ => []

/-- The columns that edits have added, in order, of those that were not refused. -/
def accepted (edits : List Edit) (outcomes : List (Except DataError Unit)) : List Column :=
  (edits.zip outcomes).flatMap fun (edit, outcome) => if outcome.isOk then edit.added else []

/-- The table that an edit makes of a table. -/
def on : Edit → Table → Except DataError Table
  | push column, t => t.push column
  | rename name, t => .ok (t.renamed name)

/-- What comes of an edit of a table, and the table that is held then. -/
def settle (edit : Edit) (t : Table) : Except DataError Unit × Table :=
  match edit.on t with
  | .ok u => (.ok (), u)
  | .error e => (.error e, t)

end Edit

end Columnar.Table
