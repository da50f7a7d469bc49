import Columnar.Proofs.Dataset.Contents

/-!
# Fillings as functions of their draws

A filling that is not refused takes its draws from the source and puts them into a column. Here the result
of each filling is told exactly, with the source after it: what a draft holds is then a function of the
draws, and no later proof opens a filling.

* `Generation.run_bind_of_run` — two steps, of which the first one succeeds
* `Draft.run_uniformColumns`, `Draft.run_fillUniform` — fillings by draws
* `Draft.inject_of_values`, `Draft.addColumn_of_values`, `Draft.exists_finish` — steps without draws
-/

namespace Columnar

open Columnar.Random

namespace Generation

variable {σ α β : Type} {g : Generation σ α} {f : α → Generation σ β}

/-- After a first step that succeeds, the second one goes on from the source that is left. -/
theorem run_bind_of_run {s s' : σ} {a : α} (h : g.run s = (.ok a, s')) : (g >>= f).run s = (f a).run s' := by
  have hok : (g.run s).1 = .ok a := by rw [h]
  rw [run_bind_of_ok hok, h]

theorem run_ofDraws (draws : StateM σ α) (s : σ) :
    (ofDraws draws).run s = (.ok (draws.run s).1, (draws.run s).2) := rfl

theorem run_ofExcept {r : Except GenerationError α} {a : α} (h : r = .ok a) (s : σ) :
    (ofExcept r : Generation σ α).run s = (.ok a, s) := by
  rw [h]
  rfl

theorem run_ofExcept_error {r : Except GenerationError α} {e : GenerationError} (h : r = .error e) (s : σ) :
    (ofExcept r : Generation σ α).run s = (.error e, s) := by
  rw [h]
  rfl

end Generation

namespace Draft

open Generation

variable {d : Draft} {column : String} {low high : Int64}

theorem checkRange_of_lt (column : String) (h : low < high) : checkRange column low high = .ok () :=
  if_pos h

/-! ## Fillings by draws

A range without a value is refused before the first draw. -/

section Draws

variable {σ : Type} [DrawSource σ]

/-- **Uniform columns hold the columns of a matrix that is drawn row by row.** -/
theorem run_uniformColumns (d : Draft) {names : List String} (hne : names ≠ []) (h : low < high) (s : σ) :
    let drawn := (repeatDraw d.rowCount (repeatDraw names.length (uniform low high))).run s
    (d.uniformColumns names low high).run s =
      (.ok (d.setMany (names.zip (Grid.rows names.length drawn.1))), drawn.2) := by
  cases names with
  | nil => exact absurd rfl hne
  | cons first rest =>
    exact (run_bind_of_run (run_ofExcept (checkRange_of_lt first h) s)).trans (run_bind_of_run (run_ofDraws _ s))

theorem run_fillUniform (d : Draft) (column : String) (h : low < high) (s : σ) :
    let drawn := (repeatDraw d.rowCount (uniform low high)).run s
    (d.fillUniform column low high).run s = (.ok (d.set column drawn.1), drawn.2) :=
  (run_bind_of_run (run_ofExcept (checkRange_of_lt column h) s)).trans (run_bind_of_run (run_ofDraws _ s))

theorem run_uniformColumns_of_not_lt (d : Draft) (first : String) (rest : List String) (h : ¬ low < high) (s : σ) :
    (d.uniformColumns (first :: rest) low high).run s = (.error (.emptyRange first low high), s) := by
  rw [uniformColumns, checkRange, if_neg h]
  rfl

theorem run_fillUniform_of_not_lt (d : Draft) (column : String) (h : ¬ low < high) (s : σ) :
    (d.fillUniform column low high).run s = (.error (.emptyRange column low high), s) := by
  rw [fillUniform, checkRange, if_neg h]
  rfl

end Draws

/-! ## Steps without draws -/

/-- Values that are overwritten with one value where a mask selects them. -/
def overwrite (mask : List Bool) (value : Int64) (values : List Int64) : List Int64 :=
  values.zipWith (fun v selected => if selected then value else v) mask

theorem length_overwrite {n : Nat} {mask : List Bool} {values : List Int64} (hmask : mask.length = n)
    (h : values.length = n) (value : Int64) : (overwrite mask value values).length = n := by
  rw [overwrite, List.length_zipWith, h, hmask, Nat.min_self]

theorem getElem?_overwrite {mask : List Bool} {values : List Int64} {i : Nat} {selected : Bool} {v : Int64}
    (hmask : mask[i]? = some selected) (hv : values[i]? = some v) (value : Int64) :
    (overwrite mask value values)[i]? = some (if selected then value else v) := by
  rw [overwrite, List.getElem?_zipWith, hv, hmask]

theorem inject_of_values {values : List Int64} (h : d.values column = .ok values) {mask : List Bool}
    (hmask : mask.length = d.rowCount) (value : Int64) :
    d.inject column mask value = .ok (d.set column (overwrite mask value values)) := by
  rw [inject, if_pos hmask, h]
  rfl

theorem addColumn_of_values {source : String} {values addends : List Int64} (h : d.values column = .ok values)
    (hsource : d.values source = .ok addends) :
    d.addColumn column source = .ok (d.set column (values.zipWith (· + ·) addends)) := by
  rw [addColumn, hsource, Except.ok_bind, h]
  rfl

/-- **Columns of different names, each with a value for each row, are finished as they are.** -/
theorem exists_finish (hnodup : (d.columns.map Column.name).Nodup) (haligned : d.Aligned) :
    ∃ t, d.finish = .ok t ∧ t.database = d.database ∧ t.name = d.name ∧ t.rowCount = d.rowCount ∧
      t.columns = d.columns := by
  obtain ⟨t, ht⟩ := Table.exists_ofColumns_iff.2 ⟨hnodup, haligned⟩
  exact ⟨t, Except.mapError_eq_ok_iff.2 ht, (Table.ofColumns_eq_ok_iff.1 ht).2⟩

end Draft

end Columnar
