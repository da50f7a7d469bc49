import Columnar.DataError
import Columnar.Grid

/-!
# Tables

A table has a fixed number of rows and a list of named integer columns. Row ids are implicit: row `i`
is position `i` of every column. That no two columns share a name and that every column has a value for
each row are part of the type, so a row never lacks a value.

## Main statements

* `Table.push_eq_ok_iff`: a column is accepted iff its name is new and its length fits, and it becomes
  the last column.
* `Table.row?_eq_none_iff`: a row is missing iff its id is past the end.
* `Table.getElem?_rows`: the list of all rows holds row `i` at position `i`.
-/

namespace Columnar

/-- A named sequence of integers. -/
structure Column where
  name : String
  values : List Int64
  deriving DecidableEq, Repr

/-- A table of a database: columns of different names and of one length. -/
structure Table where
  database : String
  name : String
  rowCount : Nat
  columns : List Column
  names_nodup : (columns.map Column.name).Nodup
  length_values : ∀ c ∈ columns, c.values.length = rowCount
  deriving DecidableEq, Repr

namespace Table

/-- A table without columns. -/
def empty (database name : String) (rowCount : Nat) : Table where
  database := database
  name := name
  rowCount := rowCount
  columns := []
  names_nodup := List.nodup_nil
  length_values := by simp

/-- The name of a table among all databases. -/
def qualifiedName (t : Table) : String :=
  t.database ++ "." ++ t.name

/-- The names of the columns, in order. -/
def columnNames (t : Table) : List String :=
  t.columns.map Column.name

/-- Adds a column at the end. A name that is taken is refused before a length that does not fit. -/
def push (t : Table) (c : Column) : Except DataError Table :=
  if taken : c.name ∈ t.columns.map Column.name then
    .error (.duplicateColumn c.name t.qualifiedName)
  else if fits : c.values.length = t.rowCount then
    .ok { t with
      columns := t.columns ++ [c]
      names_nodup := by
        rw [List.map_append, List.nodup_append]
        refine ⟨t.names_nodup, by simp, ?_⟩
        intro a ha b hb
        rw [List.map_singleton, List.mem_singleton] at hb
        exact fun e => taken (hb ▸ e ▸ ha)
      length_values := by
        intro d hd
        rcases List.mem_append.1 hd with h | h
        · exact t.length_values d h
        · rw [List.mem_singleton.1 h]
          exact fits }
  else
    .error (.lengthMismatch c.name t.rowCount c.values.length)

/-- The table that holds `columns`, unless one of them is refused. -/
def ofColumns (database name : String) (rowCount : Nat) (columns : List Column) : Except DataError Table :=
  columns.foldlM push (empty database name rowCount)

/-- The same columns under another table name. -/
def renamed (t : Table) (name : String) : Table :=
  { t with name := name }

/-- The column of a given name. -/
def column (t : Table) (name : String) : Except DataError Column :=
  match t.columns.find? (·.name = name) with
  | some c => .ok c
  | none => .error (.columnNotFound name t.qualifiedName)

/-- The values of the column of a given name. -/
def values (t : Table) (name : String) : Except DataError (List Int64) :=
  (t.column name).map Column.values

/-- All rows, each with its values in column order. -/
def rows (t : Table) : List (List Int64) :=
  Grid.rows t.rowCount (t.columns.map Column.values)

/-- The row of a given id, with its values in column order. -/
def row? (t : Table) (i : Nat) : Option (List Int64) :=
  if i < t.rowCount then some (t.columns.filterMap (·.values[i]?)) else none

/-- **A column is accepted iff its name is new and its length fits.** It becomes the last column. -/
theorem push_eq_ok_iff {t u : Table} {c : Column} :
    t.push c = .ok u ↔
      c.name ∉ t.columnNames ∧ c.values.length = t.rowCount ∧ u.database = t.database ∧ u.name = t.name ∧
        u.rowCount = t.rowCount ∧ u.columns = t.columns ++ [c] := by
  unfold push columnNames
  split
  · rename_i taken
    simp [taken]
  · rename_i free
    split
    · rename_i fits
      constructor
      · intro h
        injection h with h
        subst h
        exact ⟨free, fits, rfl, rfl, rfl, rfl⟩
      · rintro ⟨_, _, hd, hn, hr, hc⟩
        obtain ⟨d, n, r, cs, nodup, len⟩ := u
        subst hd hn hr hc
        rfl
    · rename_i misfit
      simp [misfit]

/-- A row is missing iff its id is past the end. -/
theorem row?_eq_none_iff {t : Table} {i : Nat} : t.row? i = none ↔ t.rowCount ≤ i := by
  simp [row?]

/-- The `i`-th of all rows is row `i`. -/
theorem getElem?_rows (t : Table) (i : Nat) : t.rows[i]? = t.row? i := by
  by_cases h : i < t.rowCount
  · rw [rows, Grid.getElem?_rows h, row?, if_pos h, List.filterMap_map]
    rfl
  · rw [row?, if_neg h, List.getElem?_eq_none_iff]
    simpa [rows] using h

end Table

end Columnar
