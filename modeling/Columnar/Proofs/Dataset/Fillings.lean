import Columnar.Dataset.Filling
import Columnar.Proofs.Dataset.Runs
import Columnar.Proofs.Keyed
import Columnar.Proofs.Random.Successive

/-!
# What a sequence of fillings leaves behind

A filling is refused before it has drawn or set anything, or it sets columns that have a value for each
row. So a caller that goes on after a refusal holds a draft that is as good as new, and whatever is asked
of it, its columns keep different names, in the order in which these were first set, and make a table.

* `Filling.run_perform` — filling in place leaves the draft that the filling makes of it
* `Filling.outcome_perform` — the two ways in which a filling ends
* `Filling.isBuilt_performAll` — what a sequence of fillings keeps
* `Filling.exists_finish_performAll` — **any fillings build a table**
-/

namespace Columnar

open Generation Columnar.Random

namespace Draft

variable {d d' : Draft} {database name : String} {n : Nat} {set : List String}

/-- A draft of a table in which some names were set, in this order, with a value for each row. -/
structure IsBuilt (d : Draft) (database name : String) (n : Nat) (set : List String) : Prop where
  shape : d.Shape database name n set.eraseDups
  aligned : d.Aligned

theorem Shape.setMany_eraseDups {columns : List (String × List Int64)}
    (h : d.Shape database name n set.eraseDups) :
    (d.setMany columns).Shape database name n (set ++ columns.map Prod.fst).eraseDups := by
  induction columns generalizing d set with
  | nil => rwa [List.map_nil, List.append_nil]
  | cons c cs ih =>
    -- a name that was set before keeps its place, also one that was set by the same filling
    have hset : (d.set c.1 c.2).Shape database name n (set ++ [c.1]).eraseDups := by
      rw [eraseDups_concat]
      split
      · rename_i hmem
        exact h.set (List.mem_eraseDups.2 hmem)
      · rename_i hmem
        exact h.set_of_notMem fun h => hmem (List.mem_eraseDups.1 h)
    have hrest := ih hset
    rwa [List.append_assoc] at hrest

/-- Setting columns that fit keeps a draft built. -/
theorem IsBuilt.setMany {columns : List (String × List Int64)} (h : d.IsBuilt database name n set)
    (hvalues : ∀ c ∈ columns, c.2.length = d.rowCount) :
    (d.setMany columns).IsBuilt database name n (set ++ columns.map Prod.fst) :=
  ⟨h.shape.setMany_eraseDups, h.aligned.setMany hvalues⟩

theorem isBuilt_empty (database name : String) (n : Nat) : (empty database name n).IsBuilt database name n [] :=
  ⟨⟨rfl, rfl, rfl, rfl⟩, fun c hc => by cases hc⟩

theorem IsBuilt.nodup_names (h : d.IsBuilt database name n set) : (d.columns.map Column.name).Nodup := by
  rw [h.shape.names_eq]
  exact nodup_eraseDups set

/-- **A built draft is finished as the table of its columns.** -/
theorem IsBuilt.exists_finish (h : d.IsBuilt database name n set) :
    ∃ t, d.finish = .ok t ∧ t.database = database ∧ t.name = name ∧ t.rowCount = n ∧ t.columns = d.columns := by
  obtain ⟨t, ht, hdatabase, hname, hrows, hcolumns⟩ := Draft.exists_finish h.nodup_names h.aligned
  exact ⟨t, ht, hdatabase.trans h.shape.database_eq, hname.trans h.shape.name_eq,
    hrows.trans h.shape.rowCount_eq, hcolumns⟩

/-! ## What a filling does to a draft -/

/-- Sets columns of given names, in this order; from an aligned draft, to a value for each row. -/
def RefillsMany (d : Draft) (names : List String) (d' : Draft) : Prop :=
  ∃ columns, d' = d.setMany columns ∧ columns.map Prod.fst = names ∧
    (d.Aligned → ∀ c ∈ columns, c.2.length = d.rowCount)

theorem refillsMany_none (d : Draft) : d.RefillsMany [] d :=
  ⟨[], rfl, rfl, fun _ c hc => by cases hc⟩

theorem Refills.many {column : String} (h : d.Refills column d') : d.RefillsMany [column] d' := by
  obtain ⟨values, rfl, hlength⟩ := h
  refine ⟨[(column, values)], rfl, rfl, fun hd c hc => ?_⟩
  rw [List.mem_singleton.1 hc]
  exact hlength hd

/-- A matrix with a row for each row of the draft is set column by column. -/
theorem refillsMany_rows {names : List String} {matrix : List (List Int64)} (hcount : matrix.length = d.rowCount)
    (hrows : ∀ row ∈ matrix, row.length = names.length) :
    d.RefillsMany names (d.setMany (names.zip (Grid.rows names.length matrix))) :=
  ⟨_, rfl, List.map_fst_zip (Nat.le_of_eq (Grid.length_rows ..).symm), fun _ _ hc =>
    (length_of_mem_zip_rows hrows hc).trans hcount⟩

theorem refills_fillSequence (hrows : (d.rowCount : Int) ≤ Int64.maxValue.toInt) (column : String)
    (start : Int64) : d.Refills column (d.fillSequence column start) := by
  have hword : d.rowCount < UInt64.size := by
    rw [Int64.toInt_maxValue] at hrows
    rw [UInt64.size]
    omega
  refine ⟨_, rfl, fun hd => ?_⟩
  have haligned : (d.fillSequence column start).Aligned := (aligned_fillSequence_iff hd hword start).2 hrows
  exact (aligned_set_iff hd).1 haligned

/-- What a filling does keeps a draft built. -/
theorem IsBuilt.refillsMany {names : List String} (h : d.IsBuilt database name n set)
    (hrefills : d.RefillsMany names d') : d'.IsBuilt database name n (set ++ names) := by
  obtain ⟨columns, rfl, rfl, hlength⟩ := hrefills
  exact h.setMany (hlength h.aligned)

end Draft

namespace Filling

section Draws

variable {σ : Type}

/-! ## Filling in place -/

theorem run_fills (columns : List (String × List Int64)) (d : Draft) (s : σ) :
    Generation.run (columns.forM (m := InPlace σ) fun (name, values) => InPlace.fill name values) (d, s) =
      (.ok (), (d.setMany columns, s)) := by
  induction columns generalizing d with
  | nil => rfl
  | cons c cs ih => exact ih (d.set c.1 c.2)

theorem run_draft (d : Draft) (s : σ) : InPlace.draft.run (d, s) = (.ok d, (d, s)) := rfl

theorem run_draw {α : Type} (draws : StateM σ α) (d : Draft) (s : σ) :
    (InPlace.draw draws).run (d, s) = (.ok (draws.run s).1, (d, (draws.run s).2)) := rfl

variable [DrawSource σ]

/-- **Filling in place leaves the draft that the filling makes of it**, and a draft that was refused one
is left as it was. -/
theorem run_perform (filling : Filling) (d : Draft) (s : σ) :
    filling.perform.run (d, s) =
      match (filling.on d).run s with
      | (.ok d', s') => (.ok (), (d', s'))
      | (.error e, s') => (.error e, (d, s')) := by
  cases filling with
  | uniformColumns names low high =>
    cases names with
    | nil =>
      -- the range is not looked at, and the rows that are drawn are empty
      show (Except.ok (), (d, ((repeatDraw d.rowCount (repeatDraw 0 (Random.uniform low high))).run s).2)) = _
      rw [run_repeatDraw_repeatDraw]
      rfl
    | cons first rest =>
      by_cases h : low < high
      · rw [on, Draft.run_uniformColumns d (List.cons_ne_nil first rest) h, perform]
        refine (run_bind_of_run (run_ofExcept (Draft.checkRange_of_lt first h) _)).trans ?_
        exact (run_bind_of_run (run_draw ..)).trans (run_fills ..)
      · rw [on, Draft.run_uniformColumns_of_not_lt d first rest h, perform, Draft.checkRange, if_neg h]
        rfl
  | uniform column low high =>
    by_cases h : low < high
    · rw [on, Draft.run_fillUniform d column h, perform, Draft.checkRange_of_lt column h]
      rfl
    · rw [on, Draft.run_fillUniform_of_not_lt d column h, perform, Draft.checkRange, if_neg h]
      rfl
  | zipf column law => rfl
  | constant column value => rfl
  | sequence column start => rfl
  | drawMask threshold => rfl
  | inject column mask value =>
    refine (run_bind_of_run (run_draft d s)).trans ?_
    by_cases h : mask.length = d.rowCount
    · rw [if_pos h]
      refine (run_bind_of_run (run_draft d s)).trans ?_
      cases hold : d.values column with
      | ok old =>
        rw [on, Draft.inject_of_values hold h]
        rfl
      | error e =>
        simp only [on, Draft.inject, if_pos h, hold]
        rfl
    · rw [if_neg h, on, Draft.inject, if_neg h]
      rfl
  | addColumn target source =>
    refine (run_bind_of_run (run_draft d s)).trans ?_
    cases hsource : d.values source with
    | ok addends =>
      refine (run_bind_of_run (run_ofExcept rfl _)).trans (Eq.trans (run_bind_of_run (run_draft d s)) ?_)
      cases hold : d.values target with
      | ok old =>
        rw [on, Draft.addColumn_of_values hold hsource]
        rfl
      | error e =>
        simp only [on, Draft.addColumn, hsource, hold]
        rfl
    | error e =>
      simp only [on, Draft.addColumn, hsource]
      rfl

/-! ## One filling -/

/-- **A filling is refused before it has drawn anything, or it sets its columns to a value for each row.** -/
theorem outcome_on (filling : Filling) {d : Draft} (hrows : (d.rowCount : Int) ≤ Int64.maxValue.toInt) (s : σ) :
    (∃ e, (filling.on d).run s = (.error e, s)) ∨
      ∃ d' s', (filling.on d).run s = (.ok d', s') ∧ d.RefillsMany filling.names d' := by
  cases filling with
  | uniformColumns names low high =>
    cases names with
    | nil => exact .inr ⟨d, s, rfl, d.refillsMany_none⟩
    | cons first rest =>
      by_cases h : low < high
      · exact .inr ⟨_, _, d.run_uniformColumns (List.cons_ne_nil first rest) h s, Draft.refillsMany_rows
          (length_repeatDraw ..) (Draft.forall_mem_repeatDraw (fun s => length_repeatDraw ..) _ s)⟩
      · exact .inl ⟨_, d.run_uniformColumns_of_not_lt first rest h s⟩
  | uniform column low high =>
    by_cases h : low < high
    · exact .inr ⟨_, _, d.run_fillUniform column h s, Draft.Refills.many ⟨_, rfl, fun _ => length_repeatDraw ..⟩⟩
    · exact .inl ⟨_, d.run_fillUniform_of_not_lt column h s⟩
  | zipf column law => exact .inr ⟨_, _, rfl, (d.refills_fillZipf column law s).many⟩
  | constant column value => exact .inr ⟨_, s, rfl, (d.refills_fillConstant column value).many⟩
  | sequence column start => exact .inr ⟨_, s, rfl, (Draft.refills_fillSequence hrows column start).many⟩
  | drawMask threshold => exact .inr ⟨d, _, rfl, d.refillsMany_none⟩
  | inject column mask value =>
    cases h : d.inject column mask value with
    | ok d' => exact .inr ⟨d', s, run_ofExcept h s, (Draft.inject_eq_ok h).many⟩
    | error e => exact .inl ⟨e, run_ofExcept_error h s⟩
  | addColumn target source =>
    cases h : d.addColumn target source with
    | ok d' => exact .inr ⟨d', s, run_ofExcept h s, (Draft.addColumn_eq_ok h).many⟩
    | error e => exact .inl ⟨e, run_ofExcept_error h s⟩

/-- The same in place: a refused filling leaves the draft and the source as they were. -/
theorem outcome_perform (filling : Filling) {d : Draft} (hrows : (d.rowCount : Int) ≤ Int64.maxValue.toInt)
    (s : σ) :
    (∃ e, filling.perform.run (d, s) = (.error e, (d, s))) ∨
      ∃ d' s', filling.perform.run (d, s) = (.ok (), (d', s')) ∧ d.RefillsMany filling.names d' := by
  rw [run_perform]
  rcases filling.outcome_on hrows s with ⟨e, h⟩ | ⟨d', s', h, hrefills⟩
  · rw [h]
    exact .inl ⟨e, rfl⟩
  · rw [h]
    exact .inr ⟨d', s', rfl, hrefills⟩

/-! ## A sequence of fillings -/

variable {d : Draft} {database name : String} {n : Nat} {set : List String}

theorem run_performAll_cons (filling : Filling) (fillings : List Filling) (held : Draft × σ) :
    (performAll (filling :: fillings)).run held =
      let rest := (performAll fillings).run (filling.perform.run held).2
      ((filling.perform.run held).1 :: rest.1, rest.2) := rfl

/-- **What is built is kept by each filling of a sequence, whatever comes of it.** -/
theorem isBuilt_performAll (hn : (n : Int) ≤ Int64.maxValue.toInt) (fillings : List Filling) (s : σ)
    (h : d.IsBuilt database name n set) :
    let run := (performAll fillings).run (d, s)
    run.2.1.IsBuilt database name n (set ++ namesSet fillings run.1) := by
  induction fillings generalizing d s set with
  | nil =>
    show d.IsBuilt database name n (set ++ [])
    rwa [List.append_nil]
  | cons filling fillings ih =>
    have hrows : (d.rowCount : Int) ≤ Int64.maxValue.toInt := by
      rwa [h.shape.rowCount_eq]
    rw [run_performAll_cons]
    rcases filling.outcome_perform hrows s with ⟨e, hrun⟩ | ⟨d', s', hrun, hrefills⟩
    · -- the rest starts from what was there before
      rw [hrun]
      exact ih s h
    · rw [hrun]
      have hrest := ih s' (h.refillsMany hrefills)
      simp only [List.append_assoc] at hrest
      exact hrest

/-- **Any fillings build a table.** After each sequence of them, refused ones included, the columns have
different names and a value for each row; a further filling that is refused changes neither them nor the
source of draws; and the draft is finished as the table of its columns, in the order in which their names
were first set. -/
theorem exists_finish_performAll (database name : String) (n : Nat) (hn : (n : Int) ≤ Int64.maxValue.toInt)
    (fillings : List Filling) (s : σ) :
    let run := (performAll fillings).run (Draft.empty database name n, s)
    let d := run.2.1
    (d.columns.map Column.name).Nodup ∧
      (∀ c ∈ d.columns, c.values.length = n) ∧
      (∀ (filling : Filling) e, (filling.perform.run run.2).1 = .error e → (filling.perform.run run.2).2 = run.2) ∧
      ∃ t, d.finish = .ok t ∧ t.database = database ∧ t.name = name ∧ t.rowCount = n ∧
        t.columns = d.columns ∧ t.columnNames = (namesSet fillings run.1).eraseDups := by
  intro run d
  have hbuilt : d.IsBuilt database name n (namesSet fillings run.1) :=
    isBuilt_performAll hn fillings s (Draft.isBuilt_empty database name n)
  obtain ⟨t, ht, hdatabase, hname, hcount, hcolumns⟩ := hbuilt.exists_finish
  refine ⟨hbuilt.nodup_names, fun c hc => (hbuilt.aligned c hc).trans hbuilt.shape.rowCount_eq,
    fun filling e he => ?_, t, ht, hdatabase, hname, hcount, hcolumns, ?_⟩
  · have hrows : (d.rowCount : Int) ≤ Int64.maxValue.toInt := by
      rwa [hbuilt.shape.rowCount_eq]
    rcases filling.outcome_perform hrows run.2.2 with ⟨e', hrun⟩ | ⟨d', s', hrun, -⟩
    · exact congrArg Prod.snd hrun
    · cases he.symm.trans (congrArg Prod.fst hrun)
  · rw [Table.columnNames, hcolumns, hbuilt.shape.names_eq]

end Draws

/-- Fillings of three rows: a name that occurs twice, refusals of each kind, an empty range that no column
needs, a column added to itself, and one that is filled again. -/
def mixedSample : List Filling :=
  [uniformColumns ["a", "b", "a"] 0 100, uniform "c" 7 7, uniformColumns [] 5 5, constant "c" 2,
    inject "x" [true, true, true] 1, inject "a" [true] 1, inject "a" [true, false, true] 9, addColumn "b" "b",
    addColumn "b" "x", sequence "d" 1, constant "a" 3]

theorem exists_finish_performAll_mixedSample :
    let run := (performAll mixedSample).run (Draft.empty "db1" "t" 3, Stream.ofSeed 47)
    run.1.map Except.isOk = [true, false, true, true, false, false, true, true, false, true, true] ∧
      ∃ t, run.2.1.finish = .ok t ∧ t.rowCount = 3 ∧ t.columnNames = ["a", "b", "c", "d"] := by
  obtain ⟨-, -, -, t, ht, -, -, hrows, -, hnames⟩ :=
    exists_finish_performAll "db1" "t" 3 (by decide) mixedSample (Stream.ofSeed 47)
  exact ⟨by decide +kernel, t, ht, hrows, hnames.trans (by decide +kernel)⟩

end Filling

end Columnar
