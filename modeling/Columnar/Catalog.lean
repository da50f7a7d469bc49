import Columnar.ColumnRef
import Columnar.Table

/-!
# Catalogs

A catalog holds at most one table for each pair of database and table name, in the order in which the
pairs first came; a table inserted under a known pair takes the place of the earlier one.

## Main statements

* `Catalog.table_insert`: after an insert, the pair of the table is found there and every other look-up
  is as before.
-/

namespace Columnar

namespace Table

/-- Whether a table goes by a database and a table name. -/
def isNamed (database name : String) (t : Table) : Bool :=
  t.database = database && t.name = name

/-- The reference to a column of a table. -/
def columnRef (t : Table) (column : String) : ColumnRef :=
  ⟨t.database, t.name, column⟩

end Table

/-- The tables that scripts refer to. -/
structure Catalog where
  tables : List Table
  deriving DecidableEq, Repr

namespace Catalog

/-- The catalog without tables. -/
def empty : Catalog := ⟨[]⟩

/-- Puts a table in the place of the one with its names, or at the end. -/
def place (t : Table) : List Table → List Table
  | [] => [t]
  | u :: us => if u.isNamed t.database t.name then t :: us else u :: place t us

/-- Adds a table, or replaces the one with its names. -/
def insert (catalog : Catalog) (t : Table) : Catalog :=
  ⟨place t catalog.tables⟩

/-- The catalog of a list of tables, of which later ones win. -/
def ofList (tables : List Table) : Catalog :=
  tables.foldl insert empty

/-- The table of a database and a table name. -/
def table (catalog : Catalog) (database name : String) : Except DataError Table :=
  match catalog.tables.find? (Table.isNamed database name) with
  | some t => .ok t
  | none => .error (.tableNotFound (database ++ "." ++ name))

/-- The values of a column of the catalog. -/
def resolve (catalog : Catalog) (r : ColumnRef) : Except DataError (List Int64) := do
  (← catalog.table r.database r.table).values r.column

theorem find?_place (t : Table) (ts : List Table) (database name : String) :
    (place t ts).find? (Table.isNamed database name) =
      if t.isNamed database name then some t else ts.find? (Table.isNamed database name) := by
  induction ts with
  | nil => cases h : t.isNamed database name <;> simp [place, h]
  | cons u us ih =>
    rw [place]
    split
    · rename_i same
      simp only [Table.isNamed, Bool.and_eq_true, decide_eq_true_eq] at same
      have agree : u.isNamed database name = t.isNamed database name := by
        simp [Table.isNamed, same.1, same.2]
      cases h : t.isNamed database name <;> simp [h, agree]
    · rename_i other
      rw [List.find?_cons, ih]
      cases hu : u.isNamed database name with
      | false => simp [hu]
      | true =>
        have ht : t.isNamed database name = false := by
          cases ht : t.isNamed database name with
          | false => rfl
          | true =>
            simp only [Table.isNamed, Bool.and_eq_true, decide_eq_true_eq] at hu ht other
            exact absurd ⟨hu.1.trans ht.1.symm, hu.2.trans ht.2.symm⟩ other
        simp [hu, ht]

/-- **After an insert the table is found under its names, and every other look-up is as before.** -/
theorem table_insert (catalog : Catalog) (t : Table) (database name : String) :
    (catalog.insert t).table database name =
      if t.isNamed database name then .ok t else catalog.table database name := by
  rw [table, insert, find?_place]
  cases t.isNamed database name <;> rfl

end Catalog

end Columnar
