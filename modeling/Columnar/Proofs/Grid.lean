import Columnar.Grid
import Columnar.Proofs.Results
import Mathlib.Data.List.Basic

/-!
# Rows and the columns they are read off

Where every column holds a value for each row, no value is lost when columns are read as rows: the rows
are as wide as there are columns, and they tell the columns. Then no cell is missing either when the rows
are read cell by cell.

* `Grid.exists_row` — the values of a row
* `Grid.getElem?_bind_rows` — **row and column exchange places**
* `Grid.rows_rows` — **columns are read back off their rows**
* `Grid.readRows_eq_rows` — **no cell of the rows is missing**
-/

namespace Columnar.Grid

variable {α : Type} {n m i : Nat} {columns columns' : List (List α)}

/-- Nothing is dropped from a list of which every element is kept. -/
theorem map_some_filterMap {β : Type} {f : α → Option β} {l : List α} (h : ∀ a ∈ l, ∃ b, f a = some b) :
    (l.filterMap f).map some = l.map f := by
  induction l with
  | nil => rfl
  | cons a l ih =>
    obtain ⟨b, hb⟩ := h a (List.mem_cons_self ..)
    rw [List.filterMap_cons_some hb, List.map_cons, List.map_cons, hb,
      ih fun c hc => h c (List.mem_cons_of_mem a hc)]

/-- **A row holds one value of every column.** -/
theorem exists_row (h : ∀ c ∈ columns, n ≤ c.length) (hi : i < n) :
    ∃ row, (rows n columns)[i]? = some row ∧ row.map some = columns.map (·[i]?) :=
  ⟨_, getElem?_rows hi columns, map_some_filterMap fun c hc =>
    ⟨_, List.getElem?_eq_getElem (Nat.lt_of_lt_of_le hi (h c hc))⟩⟩

/-- A cell of a row is that of its column. -/
theorem exists_cell (h : ∀ c ∈ columns, n ≤ c.length) (hi : i < n) {j : Nat} {column : List α}
    (hj : columns[j]? = some column) :
    ∃ row v, (rows n columns)[i]? = some row ∧ row[j]? = some v ∧ column[i]? = some v := by
  obtain ⟨row, hrow, hvalues⟩ := exists_row h hi
  have hcell := congrArg (·[j]?) hvalues
  simp only [List.getElem?_map, hj, Option.map_some] at hcell
  obtain ⟨v, hv, hcolumn⟩ := Option.map_eq_some_iff.1 hcell
  exact ⟨row, v, hrow, hv, hcolumn.symm⟩

/-- **Row and column exchange places**: cell `j` of row `i` is cell `i` of column `j`. -/
theorem getElem?_bind_rows (h : ∀ c ∈ columns, c.length = n) {j : Nat} {column : List α}
    (hj : columns[j]? = some column) (i : Nat) : (rows n columns)[i]?.bind (·[j]?) = column[i]? := by
  by_cases hi : i < n
  · obtain ⟨row, v, hrow, hv, hcolumn⟩ := exists_cell (fun c hc => Nat.le_of_eq (h c hc).symm) hi hj
    rw [hrow, Option.bind_some, hv, hcolumn]
  · have hrows : (rows n columns)[i]? = none := by simpa using hi
    have hcolumn : column[i]? = none := by
      rw [List.getElem?_eq_none_iff, h column (List.mem_of_getElem? hj)]
      exact Nat.le_of_not_lt hi
    rw [hrows, hcolumn]
    rfl

/-- Rows are as wide as there are columns. -/
theorem length_of_mem_rows (h : ∀ c ∈ columns, n ≤ c.length) {row : List α} (hrow : row ∈ rows n columns) :
    row.length = columns.length := by
  obtain ⟨i, hi⟩ := List.getElem?_of_mem hrow
  have hin : i < n := by
    rw [← length_rows n columns]
    exact (List.getElem?_eq_some_iff.1 hi).1
  obtain ⟨row', hrow', hvalues⟩ := exists_row h hin
  obtain rfl : row' = row := Option.some.inj (hrow'.symm.trans hi)
  simpa using congrArg List.length hvalues

/-- The values of a row come from the columns. -/
theorem exists_mem_of_mem_rows {row : List α} (hrow : row ∈ rows n columns) {v : α} (hv : v ∈ row) :
    ∃ c ∈ columns, v ∈ c := by
  induction n generalizing columns with
  | zero => cases hrow
  | succ n ih =>
    rcases List.mem_cons.1 hrow with rfl | hrow
    · obtain ⟨c, hc, hhead⟩ := List.mem_filterMap.1 hv
      exact ⟨c, hc, List.mem_of_mem_head? hhead⟩
    · obtain ⟨tail, htail, hv⟩ := ih hrow
      obtain ⟨c, hc, rfl⟩ := List.mem_map.1 htail
      exact ⟨c, hc, List.mem_of_mem_tail hv⟩

/-- The columns of a matrix whose rows are told by their numbers. -/
theorem getElem?_rows_range {c : Nat} (h : c < n) (m : Nat) (f : Nat → Nat → α) :
    (rows n ((List.range m).map fun r => (List.range n).map (f r)))[c]? =
      some ((List.range m).map fun r => f r c) := by
  have hentry : ∀ r, ((List.range n).map (f r))[c]? = some (f r c) := fun r => by simp [h]
  rw [getElem?_rows h, List.filterMap_map, ← List.filterMap_eq_map]
  congr 2
  exact funext hentry

/-- A further column gives each row its first value. -/
theorem rows_cons (c : List α) (columns : List (List α)) :
    rows c.length (c :: columns) = (c.zip (rows c.length columns)).map fun (v, row) => v :: row := by
  induction c generalizing columns with
  | nil => rfl
  | cons v c ih =>
    rw [List.length_cons, rows, List.filterMap_cons_some (List.head?_cons ..), List.map_cons, List.tail_cons, ih]
    rfl

/-- **Columns are read back off their rows.** -/
theorem rows_rows (h : ∀ c ∈ columns, c.length = n) : rows columns.length (rows n columns) = columns := by
  induction columns with
  | nil => rfl
  | cons c cs ih =>
    obtain ⟨rfl, hcs⟩ := List.forall_mem_cons.1 h
    have hzip : c.length = (rows c.length cs).length := (length_rows ..).symm
    have hhead : (rows c.length (c :: cs)).filterMap List.head? = c := by
      rw [rows_cons, List.filterMap_map]
      exact (congrFun List.filterMap_eq_map _).trans (List.map_fst_zip (Nat.le_of_eq hzip))
    have htail : (rows c.length (c :: cs)).map List.tail = rows c.length cs := by
      rw [rows_cons, List.map_map]
      exact List.map_snd_zip (Nat.le_of_eq hzip.symm)
    rw [List.length_cons, rows, hhead, htail, ih hcs]

/-- Equal rows come from equal columns, where there are as many of them. -/
theorem rows_injective (h : ∀ c ∈ columns, c.length = n) (h' : ∀ c ∈ columns', c.length = m)
    (hlength : columns.length = columns'.length) (hrows : rows n columns = rows m columns') :
    columns = columns' := by
  rw [← rows_rows h, hlength, hrows, rows_rows h']

/-! ## Cell by cell -/

theorem readCell_eq_ok_iff {column : List α} {v : α} : readCell column i = .ok v ↔ column[i]? = some v := by
  unfold readCell
  split
  · rename_i w hw
    rw [hw, Except.ok.injEq, Option.some.injEq]
  · rename_i hnone
    rw [hnone]
    exact iff_of_false nofun nofun

/-- A row is read iff each of its cells is there. -/
theorem readRow_eq_ok_iff {row : List α} : readRow columns i = .ok row ↔ row.map some = columns.map (·[i]?) := by
  rw [readRow, Except.mapM_eq_ok_iff]
  induction columns generalizing row with
  | nil => simp
  | cons c cs ih =>
    cases row with
    | nil => simp
    | cons v row =>
      simp only [List.map_cons, List.cons.injEq, readCell_eq_ok_iff, ih]
      exact and_congr_left' eq_comm

/-- The cells of a row that every column reaches. -/
theorem readRow_eq_ok (h : ∀ c ∈ columns, n ≤ c.length) (hi : i < n) :
    readRow columns i = .ok (columns.filterMap (·[i]?)) := by
  obtain ⟨row, hrow, hvalues⟩ := exists_row h hi
  rw [getElem?_rows hi, Option.some.injEq] at hrow
  rw [hrow]
  exact readRow_eq_ok_iff.2 hvalues

/-- **No cell of the rows is missing** where every column reaches the last one. -/
theorem readRows_eq_rows (h : ∀ c ∈ columns, n ≤ c.length) : readRows n columns = .ok (rows n columns) := by
  refine Except.mapM_eq_ok_iff.2 (List.ext_getElem? fun i => ?_)
  rw [List.getElem?_map, List.getElem?_map]
  by_cases hi : i < n
  · rw [getElem?_rows hi, List.getElem?_range hi, Option.map_some, Option.map_some, readRow_eq_ok h hi]
  · have hrange : (List.range n)[i]? = none := by simpa using hi
    have hrows : (rows n columns)[i]? = none := by simpa using hi
    rw [hrange, hrows]
    rfl

end Columnar.Grid
