import Columnar.Proofs.Catalog
import Mathlib.Data.List.Basic
import Mathlib.Logic.Equiv.Fin.Basic

/-!
# Putting the rows of tables in another order

A permutation of the rows of a table moves all of its columns together: row `i` of the reordered table
is row `π i` of the table. A catalog is reordered with one permutation for each of its tables. Seen from
outside, each name of a table gets a permutation of row ids, and a column of the reordered catalog holds
at `i` what the column of the catalog holds at the place that `i` came from.

* `Table.values_reorder` — the columns of a reordered table
* `Catalog.resolve_reorder` — the columns of a reordered catalog
-/

namespace Columnar

/-- A permutation of the first `n` row ids, as one of all row ids. -/
def rowPerm {n : Nat} (π : Equiv.Perm (Fin n)) : Equiv.Perm Nat :=
  π.extendDomain Fin.equivSubtype

theorem rowPerm_of_lt {n : Nat} (π : Equiv.Perm (Fin n)) {i : Nat} (h : i < n) :
    rowPerm π i = π ⟨i, h⟩ :=
  π.extendDomain_apply_subtype Fin.equivSubtype h

theorem rowPerm_of_le {n : Nat} (π : Equiv.Perm (Fin n)) {i : Nat} (h : n ≤ i) : rowPerm π i = i :=
  π.extendDomain_apply_not_subtype Fin.equivSubtype (Nat.not_lt.2 h)

/-! ## Tables -/

namespace Table

/-- The table whose row `i` is row `π i` of `t`. -/
def reorder (t : Table) (π : Equiv.Perm (Fin t.rowCount)) : Table where
  database := t.database
  name := t.name
  rowCount := t.rowCount
  columns := t.columns.map fun c => { c with values := List.ofFn fun i => c.values.getD (π i) 0 }
  names_nodup := by
    rw [List.map_map]
    exact t.names_nodup
  length_values := by
    intro c hc
    obtain ⟨d, _, rfl⟩ := List.mem_map.1 hc
    exact List.length_ofFn

variable (t : Table) (π : Equiv.Perm (Fin t.rowCount))

/-- The values of a column, read in another order. -/
theorem getElem?_reordered {values : List Int64} (h : values.length = t.rowCount) (i : Nat) :
    (List.ofFn fun i => values.getD (π i) 0)[i]? = values[rowPerm π i]? := by
  by_cases hi : i < t.rowCount
  · have hπ : (π ⟨i, hi⟩ : Nat) < values.length := by
      rw [h]
      exact (π ⟨i, hi⟩).isLt
    rw [List.getElem?_ofFn, dif_pos hi, rowPerm_of_lt π hi, List.getElem?_eq_getElem hπ,
      List.getD_eq_getElem?_getD, List.getElem?_eq_getElem hπ, Option.getD_some]
  · rw [List.getElem?_ofFn, dif_neg hi, rowPerm_of_le π (Nat.not_lt.1 hi),
      List.getElem?_eq_none (by omega)]

theorem values_reorder {name : String} {values : List Int64} (h : t.values name = .ok values) :
    (t.reorder π).values name = .ok (List.ofFn fun i => values.getD (π i) 0) := by
  obtain ⟨c, hc, rfl⟩ := Except.map_eq_ok_iff.1 h
  refine Except.map_eq_ok_iff.2 ⟨{ c with values := _ }, column_eq_ok_iff.2 ?_, rfl⟩
  rw [reorder, List.find?_map]
  exact congrArg (Option.map _) (column_eq_ok_iff.1 hc)

end Table

/-! ## Catalogs -/

namespace Catalog

variable (catalog : Catalog) (π : (t : Table) → Equiv.Perm (Fin t.rowCount))

/-- The catalog with the rows of each of its tables in another order. -/
def reorder : Catalog :=
  ⟨catalog.tables.map fun t => t.reorder (π t)⟩

/-- Which row of the table of some names each row of the reordered one is. -/
def oldRow (name : TableName) : Equiv.Perm Nat :=
  match catalog.table name.database name.name with
  | .ok t => rowPerm (π t)
  | .error _ => .refl Nat

variable {catalog}

theorem table_reorder {database name : String} {t : Table} (h : catalog.table database name = .ok t) :
    (catalog.reorder π).table database name = .ok (t.reorder (π t)) := by
  rw [table_eq_ok_iff, reorder, List.find?_map]
  exact congrArg (Option.map _) (table_eq_ok_iff.1 h)

/-- **A column of the reordered catalog holds at each row what the column holds at the old row.** -/
theorem resolve_reorder {r : ColumnRef} {values : List Int64} (h : catalog.resolve r = .ok values) :
    ∃ values', (catalog.reorder π).resolve r = .ok values' ∧
      ∀ i, values'[i]? = values[catalog.oldRow π r.tableName i]? := by
  obtain ⟨t, ht, hvalues⟩ := resolve_eq_ok_iff.1 h
  refine ⟨_, resolve_eq_ok_iff.2 ⟨_, table_reorder π ht, t.values_reorder (π t) hvalues⟩, fun i => ?_⟩
  have hrow : catalog.oldRow π r.tableName = rowPerm (π t) := by
    show (match catalog.table r.database r.table with | .ok t => rowPerm (π t) | .error _ => .refl Nat) = _
    rw [ht]
  rw [hrow, Table.getElem?_reordered t (π t) (Table.length_of_values_eq_ok hvalues)]

end Catalog

end Columnar
