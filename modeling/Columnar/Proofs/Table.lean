import Columnar.Proofs.Grid
import Columnar.Table

/-!
# Columns and rows of a table

A column is refused for its name or for its length, and for nothing else. So a list of columns makes a table
iff the names differ and each column has a value for each row; and each row then has a cell in every column.

* `Table.push_eq_error_iff` — when a column is refused, and why
* `Table.ofColumns_eq_ok_iff` — **which columns make a table**
* `Table.exists_row?` — the cells of a row
-/

namespace Columnar.Table

variable {t u : Table} {c : Column} {cs : List Column} {database name : String} {n : Nat}

theorem eq_of_fields (hdatabase : u.database = t.database) (hname : u.name = t.name)
    (hrows : u.rowCount = t.rowCount) (hcolumns : u.columns = t.columns) : u = t := by
  cases t
  cases u
  simp_all

/-! ## One column -/

/-- **A column is refused iff its name is taken, or else its length does not fit.** -/
theorem push_eq_error_iff {e : DataError} :
    t.push c = .error e ↔
      (c.name ∈ t.columnNames ∧ e = .duplicateColumn c.name t.qualifiedName) ∨
        (c.name ∉ t.columnNames ∧ c.values.length ≠ t.rowCount ∧
          e = .lengthMismatch c.name t.rowCount c.values.length) := by
  unfold push columnNames
  split
  · rename_i taken
    simp [taken, eq_comm]
  · rename_i free
    split
    · rename_i fits
      simp [free, fits]
    · rename_i misfit
      simp [free, misfit, eq_comm]

theorem exists_push (hnew : c.name ∉ t.columnNames) (hlength : c.values.length = t.rowCount) :
    ∃ u, t.push c = .ok u := by
  cases h : t.push c with
  | ok u => exact ⟨u, rfl⟩
  | error e =>
    rcases push_eq_error_iff.1 h with ⟨htaken, -⟩ | ⟨-, hmisfit, -⟩
    · exact absurd htaken hnew
    · exact absurd hlength hmisfit

/-! ## A list of columns -/

theorem foldlM_push_eq_ok_iff :
    cs.foldlM push t = .ok u ↔
      ((t.columnNames ++ cs.map Column.name).Nodup ∧ ∀ c ∈ cs, c.values.length = t.rowCount) ∧
        u.database = t.database ∧ u.name = t.name ∧ u.rowCount = t.rowCount ∧
        u.columns = t.columns ++ cs := by
  induction cs generalizing t with
  | nil =>
    constructor
    · intro h
      obtain rfl : t = u := Except.ok.inj h
      simp [columnNames, t.names_nodup]
    · rintro ⟨_, hdatabase, hname, hrows, hcolumns⟩
      rw [List.append_nil] at hcolumns
      rw [eq_of_fields hdatabase hname hrows hcolumns]
      rfl
  | cons c cs ih =>
    rw [List.foldlM_cons, Except.bind_eq_ok_iff]
    constructor
    · rintro ⟨v, hv, hu⟩
      obtain ⟨_, hlength, hdatabase, hname, hrows, hcolumns⟩ := push_eq_ok_iff.1 hv
      rw [ih] at hu
      simpa [columnNames, hdatabase, hname, hrows, hcolumns, hlength] using hu
    · rintro ⟨⟨hnodup, hlengths⟩, hu⟩
      -- the first column is pushed since its name stands in front of all names that are pushed later
      have hnew : c.name ∉ t.columnNames := by
        rw [List.map_cons, List.nodup_append] at hnodup
        intro hmem
        exact hnodup.2.2 _ hmem _ (List.mem_cons_self ..) rfl
      obtain ⟨v, hv⟩ := exists_push hnew (hlengths c (List.mem_cons_self ..))
      obtain ⟨_, hlength, hdatabase, hname, hrows, hcolumns⟩ := push_eq_ok_iff.1 hv
      refine ⟨v, hv, ih.2 ⟨⟨?_, fun d hd => ?_⟩, ?_⟩⟩
      · simpa [columnNames, hcolumns] using hnodup
      · rw [hrows]
        exact hlengths d (List.mem_cons_of_mem c hd)
      · simpa [hdatabase, hname, hrows, hcolumns] using hu

/-- **Columns make a table iff their names differ and each has a value for each row.** -/
theorem ofColumns_eq_ok_iff :
    ofColumns database name n cs = .ok t ↔
      ((cs.map Column.name).Nodup ∧ ∀ c ∈ cs, c.values.length = n) ∧
        t.database = database ∧ t.name = name ∧ t.rowCount = n ∧ t.columns = cs :=
  foldlM_push_eq_ok_iff

theorem exists_ofColumns_iff :
    (∃ t, ofColumns database name n cs = .ok t) ↔
      (cs.map Column.name).Nodup ∧ ∀ c ∈ cs, c.values.length = n := by
  constructor
  · rintro ⟨t, ht⟩
    exact (ofColumns_eq_ok_iff.1 ht).1
  · intro h
    exact ⟨⟨database, name, n, cs, h.1, h.2⟩, ofColumns_eq_ok_iff.2 ⟨h, rfl, rfl, rfl, rfl⟩⟩

/-! ## Rows -/

/-- Every column reaches the last row. -/
theorem le_length_values (t : Table) : ∀ values ∈ t.columns.map Column.values, t.rowCount ≤ values.length := by
  simpa using fun c hc => Nat.le_of_eq (t.length_values c hc).symm

/-- The row of a given id lists the values of the columns there. -/
theorem exists_row? {i : Nat} (hi : i < t.rowCount) :
    ∃ row, t.row? i = some row ∧ row.map some = t.columns.map (·.values[i]?) := by
  obtain ⟨row, hrow, hvalues⟩ := Grid.exists_row t.le_length_values hi
  exact ⟨row, (getElem?_rows t i).symm.trans hrow, hvalues.trans List.map_map⟩

end Columnar.Table
