import Columnar.Proofs.Dataset.Refusals
import Columnar.Proofs.Dataset.Runs

/-!
# The contents of the index dataset

The index dataset is a function of its draws. First the values of all four columns are drawn row by row,
and of these the third column alone is kept. The first and the fourth column are drawn anew; then come two
masks, the second column and the two repeated values. A repeated value is put over the second column where
its mask selects the row, the second one last, and the first column is added to the fourth one, which never
leaves the signed 64-bit integers.

* `IndexDataset.run_generate` — **a dataset is made of its draws, and takes no others**
* `IndexDraws.isLawful_take` — the ranges of the draws
* `IndexDataset.exists_isMadeOf` — **what every row holds**
-/

namespace Columnar

open Generation Columnar.Random

/-! ## Draws -/

/-- What is drawn for an index dataset, in the order of the draws. -/
structure IndexDraws where
  /-- The values of all four columns, row by row. -/
  base : List (List Int64)
  col1 : List Int64
  col4 : List Int64
  /-- A unit draw for each row, for the first mask. -/
  units1 : List Float
  /-- A unit draw for each row, for the second mask. -/
  units2 : List Float
  col2 : List Int64
  frequent1 : Int64
  frequent2 : Int64

namespace IndexDraws

section Draws

variable {σ : Type} [DrawSource σ]

/-- Takes the draws for an index dataset. -/
def take (rows : UInt64) : StateM σ IndexDraws := do
  let base ← repeatDraw rows.toNat (repeatDraw 4 (uniform 0 (baseDomain rows)))
  let col1 ← repeatDraw rows.toNat (uniform 0 1000)
  let col4 ← repeatDraw rows.toNat (uniform 0 10000)
  let units1 ← repeatDraw rows.toNat unit
  let units2 ← repeatDraw rows.toNat unit
  let col2 ← repeatDraw rows.toNat (uniform 0 10000)
  let frequent1 ← uniform 0 (baseDomain rows)
  let frequent2 ← uniform 0 (baseDomain rows)
  return ⟨base, col1, col4, units1, units2, col2, frequent1, frequent2⟩

end Draws

/-- The rows that take the first repeated value, unless they take the second one. -/
def mask1 (w : IndexDraws) : List Bool :=
  w.units1.map fun u => u < 0.05

/-- The rows that take the second repeated value. -/
def mask2 (w : IndexDraws) : List Bool :=
  w.units2.map fun u => u < 0.02

/-- The columns that are made of the draws. -/
def columns (w : IndexDraws) : List Column :=
  [⟨"col1", w.col1⟩,
    ⟨"col2", Draft.overwrite w.mask2 w.frequent2 (Draft.overwrite w.mask1 w.frequent1 w.col2)⟩,
    ⟨"col3", w.base.filterMap (·[2]?)⟩,
    ⟨"col4", w.col4.zipWith (· + ·) w.col1⟩]

/-! ## The ranges of the draws -/

/-- A value for each row, from a half-open range. -/
def Fills (n : Nat) (low high : Int64) (values : List Int64) : Prop :=
  values.length = n ∧ InRange low high values

/-- Draws with a result for each row, from the ranges that they are drawn from. -/
structure IsLawful (w : IndexDraws) (rows : UInt64) : Prop where
  base : w.base.length = rows.toNat
  base_row : ∀ row ∈ w.base, Fills 4 0 (baseDomain rows) row
  col1 : Fills rows.toNat 0 1000 w.col1
  col4 : Fills rows.toNat 0 10000 w.col4
  units1 : w.units1.length = rows.toNat
  units2 : w.units2.length = rows.toNat
  col2 : Fills rows.toNat 0 10000 w.col2
  frequent : InRange 0 (baseDomain rows) [w.frequent1, w.frequent2]

variable {w : IndexDraws} {rows : UInt64}

theorem Fills.exists_getElem? {n i : Nat} {low high : Int64} {values : List Int64} (h : Fills n low high values)
    (hi : i < n) : ∃ v, values[i]? = some v ∧ low.toInt ≤ v.toInt ∧ v.toInt < high.toInt := by
  have hlt : i < values.length := h.1.symm ▸ hi
  exact ⟨values[i], List.getElem?_eq_getElem hlt, h.2.toInt _ (List.getElem_mem hlt)⟩

/-- The third column holds the third value of each row that is drawn first. -/
theorem IsLawful.col3 (h : w.IsLawful rows) :
    Fills rows.toNat 0 (baseDomain rows) (w.base.filterMap (·[2]?)) := by
  have hmem : w.base.filterMap (·[2]?) ∈ Grid.rows 4 w.base :=
    List.mem_of_getElem? (Grid.getElem?_rows (by decide) w.base)
  refine ⟨(Grid.length_of_mem_rows (fun row hrow => ?_) hmem).trans h.base, fun v hv => ?_⟩
  · exact Nat.le_of_eq (h.base_row row hrow).1.symm
  · obtain ⟨row, hrow, hv⟩ := Grid.exists_mem_of_mem_rows hmem hv
    exact (h.base_row row hrow).2 v hv

theorem IsLawful.length_mask1 (h : w.IsLawful rows) : w.mask1.length = rows.toNat :=
  (List.length_map ..).trans h.units1

theorem IsLawful.length_mask2 (h : w.IsLawful rows) : w.mask2.length = rows.toNat :=
  (List.length_map ..).trans h.units2

theorem IsLawful.length_columns (h : w.IsLawful rows) : ∀ c ∈ w.columns, c.values.length = rows.toNat := by
  have hfirst := Draft.length_overwrite h.length_mask1 h.col2.1 w.frequent1
  have hcol4 : (w.col4.zipWith (· + ·) w.col1).length = rows.toNat := by
    rw [List.length_zipWith, h.col4.1, h.col1.1, Nat.min_self]
  simp only [columns, List.forall_mem_cons]
  exact ⟨h.col1.1, Draft.length_overwrite h.length_mask2 hfirst w.frequent2, h.col3.1, hcol4, List.forall_mem_nil _⟩

theorem isLawful_take {σ : Type} [DrawSource σ] [LawfulDrawSource σ] (h : 0 < baseDomain rows) (s : σ) :
    ((take rows).run s).1.IsLawful rows := by
  have hfills : ∀ (n : Nat) {low high : Int64} (_ : low < high) (s : σ),
      Fills n low high ((repeatDraw n (uniform low high)).run s).1 := fun n _ _ h s =>
    ⟨length_repeatDraw .., Draft.inRange_repeatDraw h n s⟩
  have hfrequent : ∀ s : σ, 0 ≤ ((uniform 0 (baseDomain rows)).run s).1 ∧
      ((uniform 0 (baseDomain rows)).run s).1 < baseDomain rows :=
    fun s => LawfulDrawSource.drawInt_mem 0 (baseDomain rows) s h
  exact {
    base := length_repeatDraw ..
    base_row := Draft.forall_mem_repeatDraw (fun s => hfills 4 h s) _ s
    col1 := hfills _ (by decide) _
    col4 := hfills _ (by decide) _
    units1 := length_repeatDraw ..
    units2 := length_repeatDraw ..
    col2 := hfills _ (by decide) _
    frequent := List.forall_mem_cons.2 ⟨hfrequent _, List.forall_mem_singleton.2 (hfrequent _)⟩ }

end IndexDraws

namespace IndexDataset

/-! ## From draws to columns -/

/-- A draft of the index table with given columns. -/
def draftOf (rows : UInt64) (col1 col2 col3 col4 : List Int64) : Draft :=
  ⟨generatedDatabase, tableName, rows.toNat, [⟨"col1", col1⟩, ⟨"col2", col2⟩, ⟨"col3", col3⟩, ⟨"col4", col4⟩]⟩

/-- The draft that draws alone have filled, all columns first and then three of them anew. -/
def filled (rows : UInt64) (w : IndexDraws) : Draft :=
  let base := (Draft.empty generatedDatabase tableName rows.toNat).setMany
    (columnNames.zip (Grid.rows columnNames.length w.base))
  ((base.set "col1" w.col1).set "col4" w.col4).set "col2" w.col2

/-- Of the values that are drawn row by row, only those of the third column are left. -/
theorem filled_eq (rows : UInt64) (w : IndexDraws) :
    filled rows w = draftOf rows w.col1 w.col2 (w.base.filterMap (·[2]?)) w.col4 := by
  have hthird : (Grid.rows columnNames.length w.base)[2]? = some (w.base.filterMap (·[2]?)) :=
    Grid.getElem?_rows (by decide) w.base
  obtain ⟨c1, c2, c3, c4, hcolumns⟩ : ∃ c1 c2 c3 c4, Grid.rows columnNames.length w.base = [c1, c2, c3, c4] :=
    ⟨_, _, _, _, rfl⟩
  rw [hcolumns] at hthird
  obtain rfl : c3 = w.base.filterMap (·[2]?) := Option.some.inj hthird
  rw [filled, hcolumns]
  rfl

variable {σ : Type} [DrawSource σ] [LawfulDrawSource σ] {rows : UInt64}

/-- **A dataset is made of its draws**: it takes no others, and its columns and repeated values are functions
of them. -/
theorem run_generate (h : 0 < baseDomain rows) (s : σ) :
    let (w, left) := (IndexDraws.take rows).run s
    ∃ d : IndexDataset, (generate rows).run s = (.ok d, left) ∧ d.table.rowCount = rows.toNat ∧
      d.table.columns = w.columns ∧ d.frequent = (w.frequent1, w.frequent2) := by
  have hw := IndexDraws.isLawful_take h s
  let w := ((IndexDraws.take rows).run s).1
  have hfirst : (filled rows w).inject "col2" w.mask1 w.frequent1 =
      .ok (draftOf rows w.col1 (Draft.overwrite w.mask1 w.frequent1 w.col2) (w.base.filterMap (·[2]?)) w.col4) := by
    rw [filled_eq]
    exact Draft.inject_of_values rfl hw.length_mask1 w.frequent1
  obtain ⟨t, ht, -, -, hrows, hcolumns⟩ :=
    Draft.exists_finish (d := ⟨generatedDatabase, tableName, rows.toNat, w.columns⟩)
      (show columnNames.Nodup by decide) hw.length_columns
  refine ⟨⟨t, w.frequent1, w.frequent2⟩, ?_, hrows, hcolumns, rfl⟩
  -- first the draws, in their order
  refine (run_bind_of_run (Draft.run_uniformColumns _ (by decide) h s)).trans ?_
  refine (run_bind_of_run (Draft.run_fillUniform _ "col1" (by decide) _)).trans ?_
  refine (run_bind_of_run (Draft.run_fillUniform _ "col4" (by decide) _)).trans ?_
  refine (run_bind_of_run (run_ofDraws _ _)).trans ?_
  refine (run_bind_of_run (run_ofDraws _ _)).trans ?_
  refine (run_bind_of_run (Draft.run_fillUniform _ "col2" (by decide) _)).trans ?_
  refine (run_bind_of_run (run_ofDraws _ _)).trans ?_
  refine (run_bind_of_run (run_ofDraws _ _)).trans ?_
  -- then the steps on what is drawn
  refine (run_bind_of_run (run_ofExcept hfirst _)).trans ?_
  refine (run_bind_of_run (run_ofExcept (Draft.inject_of_values rfl hw.length_mask2 _) _)).trans ?_
  refine (run_bind_of_run (run_ofExcept (Draft.addColumn_of_values rfl rfl) _)).trans ?_
  exact run_bind_of_run (run_ofExcept ht _)

/-! ## What every row holds -/

/-- A row of a dataset: the values of its columns, by whether the two masks hit it and by what is drawn for
its second and its fourth column. -/
structure IsRow (d : IndexDataset) (domain : Int) (hit1 hit2 : Bool) (drawn addend v1 v2 v3 v4 : Int64) :
    Prop where
  col1 : 0 ≤ v1.toInt ∧ v1.toInt < 1000
  col2 : (0 ≤ v2.toInt ∧ v2.toInt < 10000) ∨ v2 = d.frequent.1 ∨ v2 = d.frequent.2
  /-- A row that no mask hits keeps the value that is drawn for it. -/
  unhit : hit1 = false → hit2 = false → v2 = drawn
  first : hit1 = true → hit2 = false → v2 = d.frequent.1
  /-- The second mask wins. -/
  second : hit2 = true → v2 = d.frequent.2
  col3 : 0 ≤ v3.toInt ∧ v3.toInt < domain
  col4 : v1.toInt ≤ v4.toInt ∧ v4.toInt < v1.toInt + 10000
  /-- The sum is the sum of the integers, so adding does not overflow. -/
  sum : v4.toInt = addend.toInt + v1.toInt

/-- A dataset of a number of rows whose rows are made of what is drawn for them. -/
structure IsMadeOf (d : IndexDataset) (rows : Nat) (w : IndexDraws) : Prop where
  names : d.table.columnNames = ["col1", "col2", "col3", "col4"]
  rowCount : d.table.rowCount = rows
  lengths : ∀ c ∈ d.table.columns, c.values.length = rows
  frequent : ∀ v ∈ [d.frequent.1, d.frequent.2], 0 ≤ v.toInt ∧ v.toInt < (rows : Int) / 5
  row : ∀ i < rows, ∃ hit1 hit2 drawn addend v1 v2 v3 v4,
    w.mask1[i]? = some hit1 ∧ w.mask2[i]? = some hit2 ∧ w.col2[i]? = some drawn ∧ w.col4[i]? = some addend ∧
    d.table.row? i = some [v1, v2, v3, v4] ∧ d.IsRow ((rows : Int) / 5) hit1 hit2 drawn addend v1 v2 v3 v4

omit [DrawSource σ] [LawfulDrawSource σ]

/-- The sum of a value of the fourth column and one of the first is small. -/
theorem toInt_sum {addend v : Int64} (haddend : 0 ≤ addend.toInt ∧ addend.toInt < 10000)
    (hv : 0 ≤ v.toInt ∧ v.toInt < 1000) : (addend + v).toInt = addend.toInt + v.toInt := by
  rw [Int64.toInt_add]
  exact Int.bmod_eq_of_le (by omega) (by omega)

/-- Where the second mask hits, the second value is put over what the first mask has left. -/
theorem isRow_of_draws {d : IndexDataset} {domain : Int} {addend v1 drawn v3 : Int64} (hit1 hit2 : Bool)
    (haddend : 0 ≤ addend.toInt ∧ addend.toInt < 10000) (hv1 : 0 ≤ v1.toInt ∧ v1.toInt < 1000)
    (hdrawn : 0 ≤ drawn.toInt ∧ drawn.toInt < 10000) (hv3 : 0 ≤ v3.toInt ∧ v3.toInt < domain) :
    d.IsRow domain hit1 hit2 drawn addend v1
      (if hit2 then d.frequent.2 else if hit1 then d.frequent.1 else drawn) v3 (addend + v1) := by
  have hsum := toInt_sum haddend hv1
  refine ⟨hv1, ?_, ?_, ?_, ?_, hv3, by omega, hsum⟩
  · cases hit2 with
    | true => exact .inr (.inr rfl)
    | false =>
      cases hit1 with
      | true => exact .inr (.inl rfl)
      | false => exact .inl hdrawn
  · rintro rfl rfl
    rfl
  · rintro rfl rfl
    rfl
  · rintro rfl
    rfl

/-- A row is read off the columns, which are functions of the draws. -/
theorem exists_row {d : IndexDataset} {rows : UInt64} {w : IndexDraws} (hw : w.IsLawful rows)
    (hcount : d.table.rowCount = rows.toNat) (hcolumns : d.table.columns = w.columns)
    (hfrequent : d.frequent = (w.frequent1, w.frequent2)) {i : Nat} (hi : i < rows.toNat) :
    ∃ hit1 hit2 drawn addend v1 v2 v3 v4,
      w.mask1[i]? = some hit1 ∧ w.mask2[i]? = some hit2 ∧ w.col2[i]? = some drawn ∧ w.col4[i]? = some addend ∧
      d.table.row? i = some [v1, v2, v3, v4] ∧
      d.IsRow ((rows.toNat : Int) / 5) hit1 hit2 drawn addend v1 v2 v3 v4 := by
  obtain ⟨v1, hv1, hrange1⟩ := hw.col1.exists_getElem? hi
  obtain ⟨drawn, hdrawn, hrange2⟩ := hw.col2.exists_getElem? hi
  obtain ⟨v3, hv3, hrange3⟩ := hw.col3.exists_getElem? hi
  obtain ⟨addend, haddend, hrange4⟩ := hw.col4.exists_getElem? hi
  obtain ⟨hit1, hhit1⟩ : ∃ hit1, w.mask1[i]? = some hit1 :=
    ⟨_, List.getElem?_eq_getElem (hw.length_mask1.symm ▸ hi)⟩
  obtain ⟨hit2, hhit2⟩ : ∃ hit2, w.mask2[i]? = some hit2 :=
    ⟨_, List.getElem?_eq_getElem (hw.length_mask2.symm ▸ hi)⟩
  rw [toInt_baseDomain] at hrange3
  have hcol2 := Draft.getElem?_overwrite hhit2 (Draft.getElem?_overwrite hhit1 hdrawn w.frequent1) w.frequent2
  have hrow : d.table.row? i =
      some [v1, if hit2 then d.frequent.2 else if hit1 then d.frequent.1 else drawn, v3, addend + v1] := by
    have hcol4 : (w.col4.zipWith (· + ·) w.col1)[i]? = some (addend + v1) := by
      rw [List.getElem?_zipWith, haddend, hv1]
    rw [Table.row?, if_pos (hcount.symm ▸ hi), hcolumns, hfrequent, IndexDraws.columns]
    simp only [List.filterMap_cons, List.filterMap_nil, hv1, hcol2, hv3, hcol4]
  exact ⟨hit1, hit2, drawn, addend, v1, _, v3, _, hhit1, hhit2, hdrawn, haddend, hrow,
    isRow_of_draws hit1 hit2 hrange4 hrange1 hrange2 hrange3⟩

/-- **A dataset of at least five rows is generated, whatever is drawn**, and every row is made of what is
drawn for it: the repeated values stand where the masks hit, the second one over the first one, and the fourth
column exceeds the first one by less than ten thousand. -/
theorem exists_isMadeOf {σ : Type} [DrawSource σ] [LawfulDrawSource σ] (rows : UInt64) (hrows : 5 ≤ rows)
    (source : σ) :
    ∃ d, (generate rows).run source = (.ok d, ((IndexDraws.take rows).run source).2) ∧
      d.IsMadeOf rows.toNat ((IndexDraws.take rows).run source).1 := by
  have hpos := (baseDomain_pos_iff rows).2 hrows
  have hdomain := toInt_baseDomain rows
  obtain ⟨d, hd, hcount, hcolumns, hfrequent⟩ := run_generate hpos source
  have hw := IndexDraws.isLawful_take hpos source
  refine ⟨d, hd, ?_, hcount, fun c hc => ?_, fun v hv => ?_, fun i hi => ?_⟩
  · rw [Table.columnNames, hcolumns]
    rfl
  · exact (d.table.length_values c hc).trans hcount
  · rw [hfrequent] at hv
    rw [← hdomain]
    exact hw.frequent.toInt v hv
  · exact exists_row hw hcount hcolumns hfrequent hi

/-- A dataset of a thousand rows. -/
theorem exists_isMadeOf_thousandRows :
    ∃ d, (generate 1000).run (Stream.ofSeed 47) = (.ok d, ((IndexDraws.take 1000).run (Stream.ofSeed 47)).2) ∧
      d.IsMadeOf 1000 ((IndexDraws.take 1000).run (Stream.ofSeed 47)).1 :=
  exists_isMadeOf 1000 (by decide) (Stream.ofSeed 47)

end IndexDataset

end Columnar
