import Columnar.Dataset.Draft
import Columnar.Proofs.Dataset.Generation
import Columnar.Proofs.Table

/-!
# What filling a draft results in

Whatever a filling draws, it sets one column to some values. So a draft keeps its names while columns
that are there are filled again, and it stays aligned while each filling gives as many values as there
are rows. A draft becomes a table iff its column names differ and it is aligned.

* `Draft.Refills` — what all fillings have in common
* `Draft.spec_uniformColumns`, `Draft.spec_fillUniform`, `Draft.spec_finish` — when fillings succeed
-/

namespace Columnar

open Generation Columnar.Random

/-! ## Names and lengths of the columns of a draft -/

namespace Draft

variable {d d' : Draft} {column database name : String} {values : List Int64} {names : List String} {n : Nat}

/-- A draft of a table with columns of given names, in that order. -/
structure Shape (d : Draft) (database name : String) (n : Nat) (names : List String) : Prop where
  database_eq : d.database = database
  name_eq : d.name = name
  rowCount_eq : d.rowCount = n
  names_eq : d.columns.map Column.name = names

/-- Every column has a value for each row. -/
def Aligned (d : Draft) : Prop :=
  ∀ c ∈ d.columns, c.values.length = d.rowCount

theorem names_place (cs : List Column) :
    (place column values cs).map Column.name =
      if column ∈ cs.map Column.name then cs.map Column.name else cs.map Column.name ++ [column] := by
  induction cs with
  | nil => simp [place]
  | cons c cs ih =>
    rw [place]
    by_cases hc : c.name = column
    · simp [hc]
    · by_cases hcs : column ∈ cs.map Column.name
      · rw [if_pos hcs] at ih
        rw [if_neg hc, List.map_cons, ih, List.map_cons, if_pos (List.mem_cons_of_mem _ hcs)]
      · rw [if_neg hcs] at ih
        rw [if_neg hc, List.map_cons, ih, List.map_cons, if_neg (by simp [Ne.symm hc, hcs]),
          List.cons_append]

theorem mem_place {c : Column} {cs : List Column} (h : c ∈ place column values cs) :
    c = ⟨column, values⟩ ∨ c ∈ cs := by
  induction cs with
  | nil => simpa [place] using h
  | cons e es ih =>
    rw [place] at h
    by_cases he : e.name = column
    · rw [if_pos he, List.mem_cons] at h
      exact h.imp_right (List.mem_cons_of_mem e)
    · rw [if_neg he, List.mem_cons] at h
      rcases h with rfl | h
      · exact .inr (List.mem_cons_self ..)
      · exact (ih h).imp_right (List.mem_cons_of_mem e)

theorem mem_place_self (cs : List Column) : ⟨column, values⟩ ∈ place column values cs := by
  induction cs with
  | nil => simp [place]
  | cons e es ih =>
    rw [place]
    by_cases he : e.name = column
    · rw [if_pos he]
      exact List.mem_cons_self ..
    · rw [if_neg he]
      exact List.mem_cons_of_mem e ih

/-- Filling a column that is there keeps the names. -/
theorem Shape.set (h : d.Shape database name n names) (hcolumn : column ∈ names) :
    (d.set column values).Shape database name n names where
  database_eq := h.database_eq
  name_eq := h.name_eq
  rowCount_eq := h.rowCount_eq
  names_eq := by
    rw [Draft.set, names_place, h.names_eq, if_pos hcolumn]

/-- Filling a new column adds its name at the end. -/
theorem Shape.set_of_notMem (h : d.Shape database name n names) (hcolumn : column ∉ names) :
    (d.set column values).Shape database name n (names ++ [column]) where
  database_eq := h.database_eq
  name_eq := h.name_eq
  rowCount_eq := h.rowCount_eq
  names_eq := by
    rw [Draft.set, names_place, h.names_eq, if_neg hcolumn]

theorem Aligned.set (h : d.Aligned) (hvalues : values.length = d.rowCount) : (d.set column values).Aligned := by
  intro c hc
  rcases mem_place hc with rfl | hc
  · exact hvalues
  · exact h c hc

theorem aligned_set_iff (h : d.Aligned) : (d.set column values).Aligned ↔ values.length = d.rowCount :=
  ⟨fun hset => hset _ (mem_place_self d.columns), h.set⟩

theorem Shape.setMany {columns : List (String × List Int64)} (h : d.Shape database name n names)
    (hnodup : (names ++ columns.map Prod.fst).Nodup) :
    (d.setMany columns).Shape database name n (names ++ columns.map Prod.fst) := by
  induction columns generalizing d names with
  | nil => simpa [Draft.setMany] using h
  | cons c cs ih =>
    rw [List.map_cons, List.append_cons] at hnodup ⊢
    refine ih (h.set_of_notMem fun hmem => ?_) hnodup
    rw [List.append_assoc, List.nodup_append] at hnodup
    exact hnodup.2.2 _ hmem _ (by simp) rfl

theorem shape_setMany_empty {columns : List (String × List Int64)} (hnames : columns.map Prod.fst = names)
    (hnodup : names.Nodup) : ((Draft.empty database name n).setMany columns).Shape database name n names := by
  subst hnames
  have hempty : (Draft.empty database name n).Shape database name n [] := ⟨rfl, rfl, rfl, rfl⟩
  exact hempty.setMany hnodup

theorem Aligned.setMany {columns : List (String × List Int64)} (h : d.Aligned)
    (hvalues : ∀ c ∈ columns, c.2.length = d.rowCount) : (d.setMany columns).Aligned := by
  induction columns generalizing d with
  | nil => exact h
  | cons c cs ih =>
    exact ih (h.set (hvalues c (List.mem_cons_self ..))) fun e he => hvalues e (List.mem_cons_of_mem c he)

/-- A column that is read off a matrix has as many values as the matrix has rows. -/
theorem length_of_mem_zip_rows {matrix : List (List Int64)} (h : ∀ row ∈ matrix, row.length = names.length)
    {c : String × List Int64} (hc : c ∈ names.zip (Grid.rows names.length matrix)) :
    c.2.length = matrix.length :=
  Grid.length_of_mem_rows (fun row hrow => Nat.le_of_eq (h row hrow).symm) (List.of_mem_zip hc).2

/-! ## Fillings -/

/-- Sets a column to some values; from an aligned draft, to one for each row. -/
def Refills (d : Draft) (column : String) (d' : Draft) : Prop :=
  ∃ values, d' = d.set column values ∧ (d.Aligned → values.length = d.rowCount)

theorem Refills.shape (h : d.Refills column d') (hd : d.Shape database name n names)
    (hcolumn : column ∈ names) : d'.Shape database name n names := by
  obtain ⟨values, rfl, _⟩ := h
  exact hd.set hcolumn

theorem Refills.aligned (h : d.Refills column d') (hd : d.Aligned) : d'.Aligned := by
  obtain ⟨values, rfl, hlength⟩ := h
  exact hd.set (hlength hd)

theorem refills_fillConstant (d : Draft) (column : String) (value : Int64) :
    d.Refills column (d.fillConstant column value) :=
  ⟨_, rfl, fun _ => List.length_replicate⟩

/-- Counting the rows gives one value for each row iff the number of rows is a signed integer. -/
theorem aligned_fillSequence_iff (hd : d.Aligned) (hrows : d.rowCount < UInt64.size) (start : Int64) :
    (d.fillSequence column start).Aligned ↔ (d.rowCount : Int) ≤ Int64.maxValue.toInt := by
  rw [fillSequence, aligned_set_iff hd, List.length_map, List.length_range, Int64.toNatClampNeg,
    Int64.toInt_ofNat', Int64.toInt_maxValue, Int.bmod_def]
  simp only [Int64.size, UInt64.size] at hrows ⊢
  omega

/-- The values of a column that a draft has. -/
theorem exists_values (hd : d.Shape database name n names) (hcolumn : column ∈ names) :
    ∃ values, d.values column = .ok values := by
  rw [← hd.names_eq] at hcolumn
  obtain ⟨c, hc, hname⟩ := List.mem_map.1 hcolumn
  unfold values
  split
  · exact ⟨_, rfl⟩
  · rename_i hnone
    exact absurd hname (by simpa using List.find?_eq_none.1 hnone c hc)

theorem length_of_values_eq_ok (hd : d.Aligned) (h : d.values column = .ok values) :
    values.length = d.rowCount := by
  unfold Draft.values at h
  split at h
  · rename_i c hc
    obtain rfl : c.values = values := Except.ok.inj h
    exact hd c (List.mem_of_find?_eq_some hc)
  · cases h

theorem inject_eq_ok {mask : List Bool} {value : Int64} (h : d.inject column mask value = .ok d') :
    d.Refills column d' := by
  unfold inject at h
  split at h
  · rename_i hmask
    obtain ⟨old, hold, h⟩ := Except.bind_eq_ok_iff.1 h
    obtain rfl := Except.ok.inj h
    refine ⟨_, rfl, fun hd => ?_⟩
    rw [List.length_zipWith, length_of_values_eq_ok hd hold, hmask, Nat.min_self]
  · cases h

theorem exists_inject {mask : List Bool} (hd : d.Shape database name n names) (hcolumn : column ∈ names)
    (hmask : mask.length = n) (value : Int64) : ∃ d', d.inject column mask value = .ok d' := by
  obtain ⟨old, hold⟩ := exists_values hd hcolumn
  rw [inject, if_pos (hmask.trans hd.rowCount_eq.symm), hold]
  exact ⟨_, rfl⟩

theorem addColumn_eq_ok {source : String} (h : d.addColumn column source = .ok d') : d.Refills column d' := by
  obtain ⟨addends, haddends, h⟩ := Except.bind_eq_ok_iff.1 h
  obtain ⟨old, hold, h⟩ := Except.bind_eq_ok_iff.1 h
  obtain rfl := Except.ok.inj h
  refine ⟨_, rfl, fun hd => ?_⟩
  rw [List.length_zipWith, length_of_values_eq_ok hd hold, length_of_values_eq_ok hd haddends, Nat.min_self]

theorem exists_addColumn {source : String} (hd : d.Shape database name n names) (hcolumn : column ∈ names)
    (hsource : source ∈ names) : ∃ d', d.addColumn column source = .ok d' := by
  obtain ⟨addends, haddends⟩ := exists_values hd hsource
  obtain ⟨old, hold⟩ := exists_values hd hcolumn
  rw [addColumn, haddends, Except.ok_bind, hold]
  exact ⟨_, rfl⟩

theorem checkRange_eq_ok_iff {low high : Int64} : (∃ u, checkRange column low high = .ok u) ↔ low < high := by
  unfold checkRange
  by_cases h : low < high <;> simp [h]

/-! ## Specifications of the fillings -/

section Draws

variable {σ : Type} [DrawSource σ]

omit [DrawSource σ] in
/-- What holds of each result of a draw holds of all results of repeating it. -/
theorem forall_mem_repeatDraw {α : Type} {draw : StateM σ α} {P : α → Prop} (h : ∀ s, P (draw.run s).1)
    (n : Nat) (s : σ) : ∀ a ∈ ((repeatDraw n draw).run s).1, P a := by
  induction n generalizing s with
  | zero =>
    intro a ha
    cases ha
  | succ n ih =>
    rw [repeatDraw_succ]
    intro a ha
    rcases List.mem_cons.1 ha with rfl | ha
    · exact h s
    · exact ih _ a ha

/-- **Uniform columns make a draft of their names iff their range holds a value.** -/
theorem spec_uniformColumns (database name : String) (n : Nat) (names : List String) (hne : names ≠ [])
    (hnodup : names.Nodup) (low high : Int64) :
    ((Draft.empty database name n).uniformColumns names low high : Generation σ Draft).Spec (low < high)
      fun d => d.Shape database name n names ∧ d.Aligned := by
  cases names with
  | nil => exact absurd rfl hne
  | cons first rest =>
    have haligned : (Draft.empty database name n).Aligned := fun c hc => by cases hc
    refine (spec_ofExcept_any checkRange_eq_ok_iff).bind_true fun _ _ => ?_
    refine (spec_ofDraws (P := fun matrix => matrix.length = n ∧
      ∀ row ∈ matrix, row.length = (first :: rest).length) fun s => ⟨length_repeatDraw .., ?_⟩).bind_of_true
      fun matrix hmatrix => spec_pure ?_
    · exact forall_mem_repeatDraw (fun s => length_repeatDraw ..) n s
    · constructor
      · exact shape_setMany_empty (List.map_fst_zip (Nat.le_of_eq (Grid.length_rows ..).symm)) hnodup
      · exact haligned.setMany fun c hc => (length_of_mem_zip_rows hmatrix.2 hc).trans hmatrix.1

theorem spec_fillUniform (d : Draft) (column : String) (low high : Int64) :
    (d.fillUniform column low high : Generation σ Draft).Spec (low < high) (d.Refills column) := by
  refine (spec_ofExcept_any checkRange_eq_ok_iff).bind_true fun _ _ => ?_
  refine (spec_ofDraws (P := fun values => values.length = d.rowCount) fun s => length_repeatDraw ..).bind_of_true
    fun values hvalues => spec_pure ⟨values, rfl, fun _ => hvalues⟩

theorem refills_fillZipf (d : Draft) (column : String) (z : Zipf) (s : σ) :
    d.Refills column ((d.fillZipf column z).run s).1 :=
  ⟨_, rfl, fun _ => by
    rw [List.length_map]
    exact (List.length_map ..).trans (length_repeatDraw ..)⟩

theorem length_mask (d : Draft) (threshold : Float) (s : σ) :
    ((d.mask threshold).run s).1.length = d.rowCount :=
  (List.length_map ..).trans (length_repeatDraw ..)

omit [DrawSource σ] in
/-- **A draft of different names becomes a table iff it is aligned.** -/
theorem spec_finish (hd : d.Shape database name n names) (hnodup : names.Nodup) :
    (Generation.ofExcept d.finish : Generation σ Table).Spec d.Aligned fun t =>
      t.database = database ∧ t.name = name ∧ t.rowCount = n ∧ t.columnNames = names := by
  refine spec_ofExcept ?_ fun t ht => ?_
  · rw [← hd.names_eq] at hnodup
    simp only [finish, Except.mapError_eq_ok_iff, Table.exists_ofColumns_iff, hnodup, true_and]
    rfl
  · obtain ⟨_, hdatabase, hname, hrows, hcolumns⟩ :=
      Table.ofColumns_eq_ok_iff.1 (Except.mapError_eq_ok_iff.1 ht)
    exact ⟨hdatabase.trans hd.database_eq, hname.trans hd.name_eq, hrows.trans hd.rowCount_eq, by
      rw [Table.columnNames, hcolumns, hd.names_eq]⟩

end Draws

end Draft

end Columnar
