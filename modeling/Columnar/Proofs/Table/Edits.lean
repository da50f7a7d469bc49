import Columnar.Proofs.Table
import Columnar.Table.Editing

/-!
# What edits leave of a table

What is stored of a table that is edited in place is always that of a table: an edit that is refused has
changed nothing, and a column that is accepted fits. So whatever is asked of it, its columns keep different
names and a value for each row, they are those that were accepted, in order, and each row is read without a
missing cell.

* `Table.readRow?_raw` — a row that is read cell by cell
* `Table.Edit.runOn_raw` — one edit in place
* `Table.Edit.exists_performAll` — what a sequence of edits keeps
* `Table.Edit.wellFormed_performAll` — **any edits leave a table**
-/

namespace Columnar.Table

variable {t : Table}

/-- **No cell of a row is missing** when it is read cell by cell. -/
theorem readRow?_raw (t : Table) (i : Nat) : t.raw.readRow? i = .ok (t.row? i) := by
  rw [Raw.readRow?]
  by_cases hi : t.rowCount ≤ i
  · rw [row?_eq_none_iff.2 hi]
    exact if_pos hi
  · obtain ⟨row, hrow, hvalues⟩ := exists_row? (Nat.lt_of_not_le hi)
    have hcells : Grid.readRow (t.columns.map Column.values) i = .ok row := by
      rw [Grid.readRow_eq_ok_iff, hvalues, List.map_map]
      rfl
    refine (if_neg hi).trans ?_
    rw [raw, hcells, hrow]
    rfl

namespace Edit

/-! ## One edit -/

section InPlace

variable {c : Column} {t : Raw}

/-- The checks of a column, with what is stored put into them. -/
theorem runOn_push_eq (c : Column) (t : Raw) :
    (push c).runOn t =
      StateT.run (m := Id) (ExceptT.run (if c.name ∈ t.columnNames then
          throw (.duplicateColumn c.name t.qualifiedName)
        else if c.values.length ≠ t.rowCount then
          throw (.lengthMismatch c.name t.rowCount c.values.length)
        else
          set { t with columns := t.columns ++ [c] } : Editing Unit)) t := rfl

theorem runOn_push_of_mem (taken : c.name ∈ t.columnNames) :
    (push c).runOn t = (.error (.duplicateColumn c.name t.qualifiedName), t) := by
  rw [runOn_push_eq, if_pos taken]
  rfl

theorem runOn_push_of_length_ne (free : c.name ∉ t.columnNames) (misfit : c.values.length ≠ t.rowCount) :
    (push c).runOn t = (.error (.lengthMismatch c.name t.rowCount c.values.length), t) := by
  rw [runOn_push_eq, if_neg free, if_pos misfit]
  rfl

theorem runOn_push (free : c.name ∉ t.columnNames) (fits : c.values.length = t.rowCount) :
    (push c).runOn t = (.ok (), { t with columns := t.columns ++ [c] }) := by
  rw [runOn_push_eq, if_neg free, if_neg (not_not.2 fits)]
  rfl

end InPlace

theorem settle_of_ok {edit : Edit} {u : Table} (h : edit.on t = .ok u) : edit.settle t = (.ok (), u) := by
  rw [settle, h]

theorem settle_of_error {edit : Edit} {e : DataError} (h : edit.on t = .error e) :
    edit.settle t = (.error e, t) := by
  rw [settle, h]

theorem settle_fst_eq_error_iff {edit : Edit} {e : DataError} :
    (edit.settle t).1 = .error e ↔ edit.on t = .error e := by
  cases h : edit.on t with
  | error e' =>
    rw [settle_of_error h]
    simp only [Except.error.injEq]
  | ok u =>
    rw [settle_of_ok h]
    exact iff_of_false nofun nofun

/-- **An edit in place leaves what the table is then**, and changes nothing if it is refused. -/
theorem runOn_raw (edit : Edit) (t : Table) :
    edit.runOn t.raw = ((edit.settle t).1, (edit.settle t).2.raw) := by
  cases edit with
  | rename name => rfl
  | push c =>
    cases h : (push c).on t with
    | error e =>
      rw [settle_of_error h]
      rcases push_eq_error_iff.1 h with ⟨taken, rfl⟩ | ⟨free, misfit, rfl⟩
      · exact runOn_push_of_mem taken
      · exact runOn_push_of_length_ne free misfit
    | ok u =>
      obtain ⟨free, fits, hdatabase, hname, hrows, hcolumns⟩ := push_eq_ok_iff.1 h
      have hraw : u.raw = { t.raw with columns := t.columns ++ [c] } := by
        rw [raw, hdatabase, hname, hrows, hcolumns, raw]
      rw [settle_of_ok h, hraw]
      exact runOn_push free fits

/-- **An edit keeps the database and the row count of a table**, and adds its column at the end unless it is
refused. -/
theorem settle_keeps (edit : Edit) (t : Table) :
    (edit.settle t).2.database = t.database ∧ (edit.settle t).2.rowCount = t.rowCount ∧
      (edit.settle t).2.columns = t.columns ++ if (edit.settle t).1.isOk then edit.added else [] := by
  cases h : edit.on t with
  | error e =>
    rw [settle_of_error h]
    exact ⟨rfl, rfl, (List.append_nil _).symm⟩
  | ok u =>
    rw [settle_of_ok h]
    cases edit with
    | rename name =>
      obtain rfl := Except.ok.inj h
      exact ⟨rfl, rfl, (List.append_nil _).symm⟩
    | push c =>
      obtain ⟨-, -, hdatabase, -, hrows, hcolumns⟩ := push_eq_ok_iff.1 h
      exact ⟨hdatabase, hrows, hcolumns⟩

/-! ## A sequence of edits -/

theorem run_performAll_cons (edit : Edit) (edits : List Edit) (t : Raw) :
    (performAll (edit :: edits)).run t =
      let rest := (performAll edits).run (edit.runOn t).2
      ((edit.runOn t).1 :: rest.1, rest.2) := rfl

/-- **What edits leave is stored of a table**, which has the columns from before and those accepted. -/
theorem exists_performAll (edits : List Edit) (t : Table) :
    let run := (performAll edits).run t.raw
    ∃ u : Table, run.2 = u.raw ∧ u.database = t.database ∧ u.rowCount = t.rowCount ∧
      u.columns = t.columns ++ accepted edits run.1 := by
  induction edits generalizing t with
  | nil => exact ⟨t, rfl, rfl, rfl, (List.append_nil _).symm⟩
  | cons edit edits ih =>
    obtain ⟨hdatabase, hrows, hcolumns⟩ := edit.settle_keeps t
    obtain ⟨u, hu, hudatabase, hurows, hucolumns⟩ := ih (edit.settle t).2
    rw [run_performAll_cons, runOn_raw]
    refine ⟨u, hu, hudatabase.trans hdatabase, hurows.trans hrows, ?_⟩
    rw [hucolumns, hcolumns, List.append_assoc]
    rfl

/-- **Any edits leave a table.** After each sequence of them, refused ones included, the columns have
different names and a value for each row, and they are the ones accepted, in order. A further column is
refused iff its name is taken, or else its length does not fit, and an edit that is refused changes
nothing. A row is read cell by cell without a missing cell; there is none iff its id is past the end, and
else it lists the values of the columns there. All this is what the functions on tables do. -/
theorem wellFormed_performAll (database name : String) (n : Nat) (edits : List Edit) :
    let run := (performAll edits).run (Raw.empty database name n)
    let t := run.2
    t.columnNames.Nodup ∧ (∀ c ∈ t.columns, c.values.length = n) ∧ t.columns = accepted edits run.1 ∧
      (∀ (c : Column) (e : DataError), ((push c).runOn t).1 = .error e ↔
        (c.name ∈ t.columnNames ∧ e = .duplicateColumn c.name t.qualifiedName) ∨
          (c.name ∉ t.columnNames ∧ c.values.length ≠ n ∧ e = .lengthMismatch c.name n c.values.length)) ∧
      (∀ (edit : Edit) (e : DataError), (edit.runOn t).1 = .error e → (edit.runOn t).2 = t) ∧
      (∀ i, (t.readRow? i = .ok none ↔ n ≤ i) ∧ (i < n →
        ∃ row, t.readRow? i = .ok (some row) ∧ row.map some = t.columns.map (·.values[i]?))) ∧
      ∃ u : Table, t = u.raw ∧ (∀ edit : Edit, edit.runOn t = ((edit.settle u).1, (edit.settle u).2.raw)) ∧
        ∀ i, t.readRow? i = .ok (u.row? i) := by
  intro run t
  obtain ⟨u, hu, -, hrows, hcolumns⟩ := exists_performAll edits (.empty database name n)
  have ht : t = u.raw := hu
  have hn : u.rowCount = n := hrows
  have houtcome : ∀ edit : Edit, edit.runOn t = ((edit.settle u).1, (edit.settle u).2.raw) := fun edit => by
    rw [ht, runOn_raw]
  have hrow : ∀ i, t.readRow? i = .ok (u.row? i) := fun i => by rw [ht, readRow?_raw]
  refine ⟨?_, ?_, ?_, fun c e => ?_, fun edit e he => ?_, fun i => ⟨?_, fun hi => ?_⟩, u, ht, houtcome, hrow⟩
  · rw [ht]
    exact u.names_nodup
  · rw [ht]
    exact fun c hc => (u.length_values c hc).trans hn
  · rw [ht]
    exact hcolumns
  · rw [houtcome, settle_fst_eq_error_iff, ht, ← hn]
    exact push_eq_error_iff
  · rw [houtcome, settle_fst_eq_error_iff] at he
    rw [houtcome, settle_of_error he, ht]
  · rw [hrow, Except.ok.injEq, row?_eq_none_iff, hn]
  · obtain ⟨row, hsome, hvalues⟩ := exists_row? (hn ▸ hi)
    rw [hrow, hsome, ht]
    exact ⟨row, rfl, hvalues⟩

/-- Edits of a table of two rows: a taken name with a wrong length, a new name with one, a column that comes
after it was refused, and a name that is taken after the table got another one. -/
def mixedSample : List Edit := [
  push ⟨"a", [1, 2]⟩,
  push ⟨"a", [3]⟩,
  push ⟨"b", [3]⟩,
  rename "u",
  push ⟨"b", [Int64.minValue, 4]⟩,
  push ⟨"a", [5, 6]⟩]

theorem wellFormed_performAll_mixedSample :
    let run := (performAll mixedSample).run (Raw.empty "db1" "t" 2)
    run.1 = [.ok (), .error (.duplicateColumn "a" "db1.t"), .error (.lengthMismatch "b" 2 1), .ok (), .ok (),
        .error (.duplicateColumn "a" "db1.u")] ∧
      run.2.columns = [⟨"a", [1, 2]⟩, ⟨"b", [Int64.minValue, 4]⟩] ∧
      ((push ⟨"b", []⟩).runOn run.2).1 = .error (.duplicateColumn "b" "db1.u") ∧
      run.2.readRow? 1 = .ok (some [2, 4]) ∧ run.2.readRow? 2 = .ok none := by
  intro run
  obtain ⟨-, -, hcolumns, hpush, -, hrows, -⟩ := wellFormed_performAll "db1" "t" 2 mixedSample
  refine ⟨by decide +kernel, hcolumns.trans (by decide +kernel), (hpush _ _).2 (.inl (by decide +kernel)), ?_,
    (hrows 2).1.2 (Nat.le_refl 2)⟩
  obtain ⟨row, hrow, hvalues⟩ := (hrows 1).2 (by decide)
  have hcells : row.map some = [2, 4].map some := hvalues.trans (by decide +kernel)
  rw [hrow, (List.map_inj_right fun _ _ => Option.some.inj).1 hcells]

end Edit

end Columnar.Table
