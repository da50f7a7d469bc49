/-!
# Columns read as rows

`Grid.rows n columns` reads the first `n` rows off a list of columns. Where every column holds at least
`n` values, row `i` lists the `i`-th value of each column in column order. Where a column is shorter, its
cells are left out. `Grid.readRows` reads the same rows cell by cell and fails at a cell that is missing.

## Termination

Structural in the number of rows; each step takes the head of every column.

## Main statements

* `Grid.length_rows`: there are `n` rows.
* `Grid.getElem?_rows`: row `i` holds the columns' `i`-th values.
-/

namespace Columnar.Grid

variable {α : Type}

/-- The first `n` rows of a list of columns. -/
def rows : Nat → List (List α) → List (List α)
  | 0, _ => []
  | n + 1, columns => columns.filterMap List.head? :: rows n (columns.map List.tail)

@[simp] theorem length_rows (n : Nat) (columns : List (List α)) : (rows n columns).length = n := by
  induction n generalizing columns with
  | zero => rfl
  | succ n ih => simp [rows, ih]

/-- **Row `i` holds the columns' `i`-th values.** -/
theorem getElem?_rows {n i : Nat} (h : i < n) (columns : List (List α)) :
    (rows n columns)[i]? = some (columns.filterMap (·[i]?)) := by
  induction n generalizing i columns with
  | zero => omega
  | succ n ih =>
    cases i with
    | zero =>
      simp only [rows, List.getElem?_cons_zero, Option.some.injEq]
      congr 1
      funext l
      cases l <;> rfl
    | succ i =>
      rw [rows, List.getElem?_cons_succ, ih (by omega), List.filterMap_map]
      congr 2
      funext l
      cases l <;> simp

/-- A single column has one value in each row. -/
theorem rows_singleton (l : List α) : rows l.length [l] = l.map fun v => [v] := by
  induction l with
  | nil => rfl
  | cons v l ih => simp [rows, ih]

/-! ## Cell by cell -/

/-- A row that is past the end of a column. -/
structure MissingCell where
  row : Nat
  length : Nat
  deriving DecidableEq, Repr

/-- The cell of a column in row `i`. -/
def readCell (column : List α) (i : Nat) : Except MissingCell α :=
  match column[i]? with
  | some v => .ok v
  | none => .error ⟨i, column.length⟩

/-- The cells of row `i`, in column order. -/
def readRow (columns : List (List α)) (i : Nat) : Except MissingCell (List α) :=
  columns.mapM fun column => readCell column i

/-- The first `n` rows, one after the other. -/
def readRows (n : Nat) (columns : List (List α)) : Except MissingCell (List (List α)) :=
  (List.range n).mapM (readRow columns)

end Columnar.Grid
