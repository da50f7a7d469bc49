import Columnar.Predicate
import Columnar.Query.Error

/-!
# Selecting and fetching by scan

A row set is a list of row ids. A select lists the rows of a column whose values lie in a range,
ascending; a refining select keeps some ids of an earlier row set, in its order; a fetch lists a
column's values at a row set, in its order.

## Main statements

* `select_eq`: a select keeps the positions of the values in the range.
* `mem_select`: a row is selected iff its value is in the range.
* `selectWithin_eq_ok`: aligned inputs are always refined, and each kept id goes with a value in the range.
* `fetch_eq_ok_iff`: a fetch succeeds iff every id is a row of the column.
-/

namespace Columnar.Query

/-- Row ids in the order in which an operation lists them. -/
abbrev RowSet := List Nat

/-- Goes through the values from row `i` on; the rows found before stand with the last one first. -/
def scan (p : Predicate) : (i : Nat) → (found : RowSet) → List Int64 → RowSet
  | _, found, [] => found.reverse
  | i, found, v :: vs => scan p (i + 1) (if p.holds v then i :: found else found) vs

/-- The rows of a column whose values lie in a range, ascending. -/
def select (column : List Int64) (p : Predicate) : RowSet :=
  scan p 0 [] column

/-- The rows of an earlier row set whose values, listed beside them, lie in a range. -/
def selectWithin (rows : RowSet) (values : List Int64) (p : Predicate) : Except QueryError RowSet :=
  if rows.length = values.length then
    .ok (((rows.zip values).filter fun (_, v) => p.holds v).map Prod.fst)
  else
    .error (.lengthMismatch .select rows.length values.length)

/-- The values of a column at a row set. The first id that is no row of the column is the error. -/
def fetch (column : List Int64) (rows : RowSet) : Except QueryError (List Int64) :=
  let cells := column.toArray
  rows.mapM fun row =>
    match cells[row]? with
    | some v => .ok v
    | none => .error (.rowOutOfRange row column.length)

theorem scan_eq (p : Predicate) (i : Nat) (found : RowSet) (values : List Int64) :
    scan p i found values =
      found.reverse ++ ((values.zipIdx i).filter fun (v, _) => p.holds v).map Prod.snd := by
  induction values generalizing i found with
  | nil => simp [scan]
  | cons v vs ih =>
    rw [scan, ih, List.zipIdx_cons, List.filter_cons]
    by_cases h : p.holds v = true <;> simp [h]

/-- A select keeps the positions of the values in the range. -/
theorem select_eq (column : List Int64) (p : Predicate) :
    select column p = (column.zipIdx.filter fun (v, _) => p.holds v).map Prod.snd :=
  scan_eq p 0 [] column

/-- **A row is selected iff its value is in the range.** -/
theorem mem_select {column : List Int64} {p : Predicate} {i : Nat} :
    i ∈ select column p ↔ ∃ v, column[i]? = some v ∧ p.holds v = true := by
  simp only [select_eq, List.mem_map, List.mem_filter, Prod.exists, exists_eq_right]
  constructor
  · rintro ⟨v, hm, hp⟩
    exact ⟨v, List.mk_mem_zipIdx_iff_getElem?.1 hm, hp⟩
  · rintro ⟨v, hv, hp⟩
    exact ⟨v, List.mk_mem_zipIdx_iff_getElem?.2 hv, hp⟩

theorem selectWithin_eq_ok {rows : RowSet} {values : List Int64} (p : Predicate)
    (h : rows.length = values.length) :
    selectWithin rows values p = .ok (((rows.zip values).filter fun (_, v) => p.holds v).map Prod.fst) := by
  rw [selectWithin, if_pos h]

@[simp] theorem fetch_nil (column : List Int64) : fetch column [] = .ok [] := rfl

theorem fetch_cons (column : List Int64) (row : Nat) (rows : RowSet) :
    fetch column (row :: rows) =
      match column[row]? with
      | some v => (fetch column rows).map (v :: ·)
      | none => .error (.rowOutOfRange row column.length) := by
  simp only [fetch, List.mapM_cons, List.getElem?_toArray]
  cases column[row]? with
  | none => rfl
  | some v =>
    simp only [bind, Except.bind, pure, Except.pure]
    split <;> simp_all [Except.map]

/-- **A fetch succeeds iff every id is a row of the column**, and then it lists the values at them. -/
theorem fetch_eq_ok_iff {column : List Int64} {rows : RowSet} {values : List Int64} :
    fetch column rows = .ok values ↔ rows.map (column[·]?) = values.map some := by
  induction rows generalizing values with
  | nil => cases values <;> simp
  | cons row rows ih =>
    rw [fetch_cons]
    cases hv : column[row]? with
    | none => cases values <;> simp [hv]
    | some v =>
      cases values with
      | nil => cases fetch column rows <;> simp [Except.map]
      | cons w ws =>
        rw [List.map_cons, List.map_cons, List.cons.injEq, ← ih, hv]
        cases fetch column rows <;> simp [Except.map]

end Columnar.Query
