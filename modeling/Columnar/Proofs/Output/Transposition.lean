import Columnar.Proofs.Csv
import Columnar.Proofs.Output.Items

/-!
# Columns printed side by side

Columns are held one after the other and printed row by row. No number holds a comma or a line feed, so
the rows are read back from the text: line feeds cut it into rows and commas cut a row into its cells. What
is read back is the transpose of the columns. Columns of different lengths are refused before the first
cell is read, and so no cell is missing when they are printed cell by cell.

* `Block.ofColumns_eq_error_iff` — which columns are refused, and why
* `Block.readColumns_eq_ok` — printing cell by cell
* `Block.readMatrix_text` — the rows of a text
* `Block.ofColumns_outcomes` — **columns are printed as their transpose, or refused**
-/

namespace Columnar.Block

open Text (int64Chars)

variable {columns : List (List Int64)}

/-! ## Columns that are refused -/

/-- That the first column has `n` values, and that `m` is the length of the first one that differs. -/
def FirstMisfit (columns : List (List Int64)) (n m : Nat) : Prop :=
  ∃ first same other rest, columns = first :: same ++ other :: rest ∧ first.length = n ∧
    (∀ c ∈ same, c.length = n) ∧ other.length = m ∧ m ≠ n

theorem ofColumns_cons (first : List Int64) (cs : List (List Int64)) :
    ofColumns (first :: cs) =
      match (first :: cs).find? (·.length ≠ first.length) with
      | some other => .error (.lengthMismatch .print first.length other.length)
      | none => .ok (rows (Grid.rows first.length (first :: cs))) := rfl

theorem FirstMisfit.ofColumns_eq {n m : Nat} (h : FirstMisfit columns n m) :
    ofColumns columns = .error (.lengthMismatch .print n m) := by
  obtain ⟨first, same, other, rest, rfl, rfl, hsame, rfl, hother⟩ := h
  have hfound : (first :: same ++ other :: rest).find? (·.length ≠ first.length) = some other :=
    List.find?_eq_some_iff_append.2 ⟨by simpa using hother, first :: same, rest, rfl, by simpa using hsame⟩
  rw [List.cons_append, ofColumns_cons, ← List.cons_append, hfound]

theorem exists_firstMisfit {e : QueryError} (h : ofColumns columns = .error e) :
    ∃ n m, FirstMisfit columns n m ∧ e = .lengthMismatch .print n m := by
  cases columns with
  | nil => cases h
  | cons first cs =>
    rw [ofColumns_cons] at h
    split at h
    · rename_i other hfound
      obtain ⟨hother, front, rest, hcolumns, hfront⟩ := List.find?_eq_some_iff_append.1 hfound
      cases front with
      | nil =>
        -- the first column has its own length
        obtain ⟨rfl, -⟩ := List.cons.inj hcolumns
        simp at hother
      | cons head same =>
        obtain ⟨rfl, -⟩ := List.cons.inj hcolumns
        obtain ⟨-, hsame⟩ := List.forall_mem_cons.1 hfront
        exact ⟨first.length, other.length, ⟨first, same, other, rest, hcolumns, rfl, by simpa using hsame, rfl,
          by simpa using hother⟩, (Except.error.inj h).symm⟩
    · cases h

/-- **Columns are refused iff one differs in length from the first**, and the first such one is told. -/
theorem ofColumns_eq_error_iff {e : QueryError} :
    ofColumns columns = .error e ↔ ∃ n m, FirstMisfit columns n m ∧ e = .lengthMismatch .print n m := by
  refine ⟨exists_firstMisfit, ?_⟩
  rintro ⟨n, m, hmisfit, rfl⟩
  exact hmisfit.ofColumns_eq

/-- Columns are printed unless they differ in length. -/
theorem exists_ofColumns_eq_error_iff :
    (∃ e, ofColumns columns = .error e) ↔ ¬ ∃ n, ∀ c ∈ columns, c.length = n := by
  constructor
  · rintro ⟨e, he⟩ ⟨n, h⟩
    obtain ⟨_, _, ⟨first, same, other, rest, rfl, rfl, -, rfl, hother⟩, -⟩ := ofColumns_eq_error_iff.1 he
    exact hother ((h other (by simp)).trans (h first (by simp)).symm)
  · intro h
    cases hprint : ofColumns columns with
    | error e => exact ⟨e, rfl⟩
    | ok b => exact absurd ⟨_, (ofColumns_eq_ok_iff.1 hprint).1⟩ h

/-! ## Cell by cell -/

/-- **No cell is missing** when columns are read row by row. -/
theorem readColumns_eq_ok (columns : List (List Int64)) : readColumns columns = .ok (ofColumns columns) := by
  simp only [readColumns, ofColumns]
  generalize (columns.head?.map List.length).getD 0 = n
  split
  · rfl
  · rename_i hnone
    have hlength : ∀ c ∈ columns, c.length = n := by simpa using List.find?_eq_none.1 hnone
    rw [Grid.readRows_eq_rows fun c hc => Nat.le_of_eq (hlength c hc).symm]
    rfl

/-! ## Reading back -/

/-- Reads the rows of a text: its lines, and the numbers between the commas of each of them. -/
def readMatrix (text : String) : Option (List (List Int64)) :=
  (Text.splitOn '\n' text.toList).mapM Csv.readRow

/-- Commas cut the line of a row into its numbers. -/
theorem readRow_commaSeparated {row : List Int64} (hrow : row ≠ []) :
    Csv.readRow (commaSeparated (row.map int64Chars)) = some row :=
  Csv.readRow_of_splitOn (Text.splitOn_intercalate (by simpa using hrow) fun _ hfield =>
    (Csv.not_mem_rowFields hfield).1)

/-- Line feeds cut a text into its lines. -/
theorem splitOn_text {b : Block} (h : b.lines ≠ []) : Text.splitOn '\n' b.text.toList = b.lines := by
  rw [text, String.toList_ofList]
  refine Text.splitOn_intercalate h fun line hline hfeed => ?_
  exact absurd (not_isBlank_of_mem_lines hline hfeed) (by decide)

/-- **The rows of a text are read back**, if there are any and each holds a number. -/
theorem readMatrix_text {rs : List (List Int64)} (hrows : rs ≠ []) (hfull : (rows rs).NoEmptyRow) :
    readMatrix (rows rs).text = some rs := by
  rw [readMatrix, splitOn_text (by simpa [lines] using hrows)]
  exact Csv.mapM_map_eq_some fun row hrow => readRow_commaSeparated (hfull row hrow)

/-- Values are printed one a line. -/
theorem text_ofValues (values : List Int64) :
    (ofValues values).text = String.ofList (List.intercalate ['\n'] (values.map int64Chars)) := by
  rw [text, chars, lines_ofValues]

/-- **Columns are printed as their transpose, or refused.** They are refused iff they differ in length, with
the length of the first column and that of the first one that differs; and no cell is missing when they are
printed cell by cell. The text of at least one column and one row, cut into lines and these into numbers,
is a matrix in which cell `c` of row `r` is cell `r` of column `c`. A single column is printed one value a
line. -/
theorem ofColumns_outcomes (columns : List (List Int64)) :
    readColumns columns = .ok (ofColumns columns) ∧
      ((∃ e, ofColumns columns = .error e) ↔ ¬ ∃ n, ∀ c ∈ columns, c.length = n) ∧
      (∀ e, ofColumns columns = .error e ↔
        ∃ n m, FirstMisfit columns n m ∧ e = .lengthMismatch .print n m) ∧
      (∀ n, columns ≠ [] → 0 < n → (∀ c ∈ columns, c.length = n) →
        ∃ b matrix, ofColumns columns = .ok b ∧ readMatrix b.text = some matrix ∧ matrix.length = n ∧
          (∀ row ∈ matrix, row.length = columns.length) ∧
          ∀ (r c : Nat) column, columns[c]? = some column → matrix[r]?.bind (·[c]?) = column[r]?) ∧
      ∀ values, columns = [values] → ofColumns columns = .ok (ofValues values) ∧
        (ofValues values).text = String.ofList (List.intercalate ['\n'] (values.map int64Chars)) := by
  refine ⟨readColumns_eq_ok columns, exists_ofColumns_eq_error_iff, fun e => ofColumns_eq_error_iff,
    fun n hne hn h => ?_, ?_⟩
  · have hrows : Grid.rows n columns ≠ [] := by
      rw [← List.length_pos_iff, Grid.length_rows]
      exact hn
    exact ⟨rows (Grid.rows n columns), Grid.rows n columns, ofColumns_of_aligned hne h,
      readMatrix_text hrows (noEmptyRow_columns hne h), Grid.length_rows n columns,
      fun row hrow => Grid.length_of_mem_rows (fun c hc => (h c hc).ge) hrow,
      fun r c column hcolumn => Grid.getElem?_bind_rows h hcolumn r⟩
  · rintro values rfl
    exact ⟨ofColumns_singleton values, text_ofValues values⟩

/-- Three columns of two rows, and the least and the greatest value among them. -/
def limitColumns : List (List Int64) :=
  [[1, Int64.minValue], [-20, 3], [0, Int64.maxValue]]

/-- A column that is too short behind one that fits, and before one that is too long. -/
def unevenColumns : List (List Int64) :=
  [[1, 2], [3, 4], [5], [6, 7, 8]]

theorem ofColumns_outcomes_samples :
    (ofColumns limitColumns).map text = .ok "1,-20,0\n-9223372036854775808,3,9223372036854775807" ∧
      (∃ b matrix, ofColumns limitColumns = .ok b ∧ readMatrix b.text = some matrix ∧ matrix.length = 2 ∧
        matrix[0]?.bind (·[1]?) = some (-20 : Int64) ∧ matrix[1]?.bind (·[2]?) = some Int64.maxValue) ∧
      ofColumns unevenColumns = .error (.lengthMismatch .print 2 1) := by
  obtain ⟨-, -, -, hmatrix, -⟩ := ofColumns_outcomes limitColumns
  obtain ⟨-, -, hrefused, -, -⟩ := ofColumns_outcomes unevenColumns
  have haligned : ∀ c ∈ limitColumns, c.length = 2 := by decide
  obtain ⟨b, matrix, hb, hread, hlength, -, hcells⟩ := hmatrix 2 (by decide) (by decide) haligned
  have hmisfit : FirstMisfit unevenColumns 2 1 :=
    ⟨[1, 2], [[3, 4]], [5], [[6, 7, 8]], rfl, rfl, by decide, rfl, by decide⟩
  exact ⟨by decide +kernel, ⟨b, matrix, hb, hread, hlength, hcells 0 1 _ rfl, hcells 1 2 _ rfl⟩,
    (hrefused _).2 ⟨2, 1, hmisfit, rfl⟩⟩

end Columnar.Block
