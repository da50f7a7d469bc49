import Columnar.Proofs.Dataset.Fillings

/-!
# The order of uniform draws

Uniform columns are drawn row by row, and each draw may take as much of the source as it likes. So what a
column holds is told by counting results: where there are `n` columns, the value of column `c` in row `r`
is result `r * n + c`. The columns are set one after the other, and so a name that occurs more than once
is left with the values of its last occurrence. A single uniform column is the case of one name.

* `Draft.values_setMany_of_getElem?`, `Draft.filter_columns_setMany` — what several settings change
* `Draft.run_uniformColumns_results` — the columns that are drawn
* `Filling.uniform_row_major` — **uniform columns in place**
-/

namespace Columnar

open Generation Columnar.Random

namespace Draft

variable {d : Draft} {columns : List (String × List Int64)} {name : String} {values : List Int64}

/-! ## Several settings -/

theorem values_setMany_of_notMem (h : name ∉ columns.map Prod.fst) :
    (d.setMany columns).values name = d.values name := by
  induction columns generalizing d with
  | nil => rfl
  | cons c cs ih =>
    rw [List.map_cons, List.mem_cons, not_or] at h
    exact (ih h.2).trans ((values_set ..).trans (if_neg (Ne.symm h.1)))

/-- **The last setting of a name counts.** -/
theorem values_setMany_of_getElem? {c : Nat} (hc : columns[c]? = some (name, values))
    (hlast : name ∉ (columns.drop (c + 1)).map Prod.fst) : (d.setMany columns).values name = .ok values := by
  induction columns generalizing d c with
  | nil => cases hc
  | cons e es ih =>
    cases c with
    | zero =>
      obtain rfl : e = (name, values) := Option.some.inj hc
      exact (values_setMany_of_notMem hlast).trans ((values_set ..).trans (if_pos rfl))
    | succ c => exact ih hc hlast

/-- A setting leaves the columns of other names where they are. -/
theorem filter_place {p : Column → Bool} (h : ∀ vs, p ⟨name, vs⟩ = false) (values : List Int64)
    (cs : List Column) : (place name values cs).filter p = cs.filter p := by
  induction cs with
  | nil => simp [place, h]
  | cons c cs ih =>
    rw [place]
    split
    · rename_i hname
      have hc : p c = false := by simpa [← hname] using h c.values
      simp [h, hc]
    · rw [List.filter_cons, List.filter_cons, ih]

theorem filter_columns_setMany {p : Column → Bool} (h : ∀ e ∈ columns, ∀ vs, p ⟨e.1, vs⟩ = false) :
    (d.setMany columns).columns.filter p = d.columns.filter p := by
  induction columns generalizing d with
  | nil => rfl
  | cons e es ih =>
    obtain ⟨he, hes⟩ := List.forall_mem_cons.1 h
    exact (ih hes).trans (filter_place he e.2 d.columns)

theorem setMany_eq (d : Draft) (columns : List (String × List Int64)) :
    d.setMany columns = { d with columns := (d.setMany columns).columns } := by
  induction columns generalizing d with
  | nil => rfl
  | cons e es ih => exact ih (d.set e.1 e.2)

/-! ## Uniform columns -/

section Draws

variable {σ : Type} [DrawSource σ] {low high : Int64}

/-- **Uniform columns hold the results of one draw, dealt out row by row.** -/
theorem run_uniformColumns_results (d : Draft) (names : List String) (h : low < high) (s : σ) :
    let draw := uniform low high
    let n := names.length
    ∃ columns : List (String × List Int64), columns.map Prod.fst = names ∧
      (∀ c name, names[c]? = some name →
        columns[c]? = some (name, (List.range d.rowCount).map fun r => result draw s (r * n + c))) ∧
      (d.uniformColumns names low high).run s = (.ok (d.setMany columns), after draw (d.rowCount * n) s) := by
  intro draw n
  rcases eq_or_ne names [] with rfl | hne
  · refine ⟨[], rfl, fun c name hname => ?_, rfl⟩
    simp at hname
  · have hrun := d.run_uniformColumns hne h s
    rw [run_repeatDraw_repeatDraw] at hrun
    refine ⟨_, List.map_fst_zip (Nat.le_of_eq (Grid.length_rows ..).symm), fun c name hname => ?_, hrun⟩
    have hc : c < n := (List.getElem?_eq_some_iff.1 hname).1
    exact List.getElem?_zip_eq_some.2 ⟨hname, Grid.getElem?_rows_range hc d.rowCount _⟩

/-- **A single uniform column is filled like a list of one name**, also where it is refused. -/
theorem run_fillUniform_eq (d : Draft) (column : String) (low high : Int64) (s : σ) :
    (d.fillUniform column low high).run s = (d.uniformColumns [column] low high).run s := by
  by_cases h : low < high
  · obtain ⟨columns, hnames, hvalues, hrun⟩ := d.run_uniformColumns_results [column] h s
    obtain ⟨e, rfl⟩ : ∃ e, columns = [e] := List.length_eq_one_iff.1 (by simpa using congrArg List.length hnames)
    obtain rfl := Option.some.inj (hvalues 0 column rfl)
    rw [hrun, run_fillUniform d column h, run_repeatDraw]
    simp [setMany]
  · rw [run_fillUniform_of_not_lt d column h, run_uniformColumns_of_not_lt d column [] h]

end Draws

end Draft

namespace Filling

variable {σ : Type} [DrawSource σ]

/-- **Uniform columns are drawn row by row.** On a draft and a source, whatever they are, the columns of
`n` names take one draw for each row and name. Column `c` holds result `r * n + c` in row `r`; where a
name occurs more than once, the column holds what it was given at its last occurrence. Columns of other
names are as before. A single uniform column is filled like a list of one name: with the same draft and
the same source after it, or with the same error. -/
theorem uniform_row_major (d : Draft) (low high : Int64) (s : σ) :
    (low < high → ∀ names : List String,
      let draw := Random.uniform low high
      let n := names.length
      let drawn := fun c => (List.range d.rowCount).map fun r => result draw s (r * n + c)
      ∃ d', (uniformColumns names low high).perform.run (d, s) = (.ok (), (d', after draw (d.rowCount * n) s)) ∧
        (names.Nodup → ∀ c name, names[c]? = some name → d'.values name = .ok (drawn c)) ∧
        (∀ c name, names[c]? = some name → name ∉ names.drop (c + 1) → d'.values name = .ok (drawn c)) ∧
        d'.columns.filter (fun c => c.name ∉ names) = d.columns.filter (fun c => c.name ∉ names) ∧
        d' = { d with columns := d'.columns }) ∧
      ∀ column, (uniform column low high).perform.run (d, s) =
        (uniformColumns [column] low high).perform.run (d, s) := by
  constructor
  · intro h names draw n drawn
    obtain ⟨columns, rfl, hcolumns, hrun⟩ := d.run_uniformColumns_results names h s
    have hlast : ∀ c name, (columns.map Prod.fst)[c]? = some name →
        name ∉ (columns.map Prod.fst).drop (c + 1) → (d.setMany columns).values name = .ok (drawn c) :=
      fun c name hname hlast => Draft.values_setMany_of_getElem? (hcolumns c name hname)
        (List.map_drop .. ▸ hlast)
    refine ⟨d.setMany columns, ?_, fun hnodup c name hname => hlast c name hname ?_, hlast, ?_, d.setMany_eq columns⟩
    · rw [run_perform, on, hrun]
    · -- a name that occurs once does not come again
      obtain ⟨hc, rfl⟩ := List.getElem?_eq_some_iff.1 hname
      have hdrop := hnodup.sublist (List.drop_sublist c _)
      rw [List.drop_eq_getElem_cons hc] at hdrop
      exact (List.nodup_cons.1 hdrop).1
    · exact Draft.filter_columns_setMany fun e he vs => by simp [List.mem_map_of_mem he]
  · intro column
    rw [run_perform, run_perform, on, on, Draft.run_fillUniform_eq]

/-- Two rows, of which a column is filled already. -/
def filledSample : Draft :=
  (Draft.empty "db1" "t" 2).fillConstant "x" 7

theorem uniform_row_major_filledSample :
    let s := Stream.ofSeed 47
    let draw := Random.uniform 0 100
    (∃ d', (uniformColumns ["a", "x"] 0 100).perform.run (filledSample, s) = (.ok (), (d', after draw 4 s)) ∧
      d'.values "a" = .ok [result draw s 0, result draw s 2] ∧
      d'.values "x" = .ok [result draw s 1, result draw s 3]) ∧
    ∃ d', (uniformColumns ["a", "b", "a"] 0 100).perform.run (filledSample, s) = (.ok (), (d', after draw 6 s)) ∧
      d'.values "a" = .ok [result draw s 2, result draw s 5] ∧
      d'.values "b" = .ok [result draw s 1, result draw s 4] ∧
      d'.columns.filter (fun c => c.name ∉ ["a", "b", "a"]) = [⟨"x", [7, 7]⟩] := by
  intro s draw
  have huniform := (uniform_row_major filledSample 0 100 s).1 (by decide)
  constructor
  · obtain ⟨d', hrun, hvalues, -⟩ := huniform ["a", "x"]
    have hnodup : ["a", "x"].Nodup := by decide
    exact ⟨d', hrun, hvalues hnodup 0 "a" rfl, hvalues hnodup 1 "x" rfl⟩
  · obtain ⟨d', hrun, -, hvalues, hothers, -⟩ := huniform ["a", "b", "a"]
    exact ⟨d', hrun, hvalues 2 "a" rfl (by decide), hvalues 1 "b" rfl (by decide), hothers⟩

end Filling

end Columnar
