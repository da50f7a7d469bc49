import Columnar.Dataset.Join
import Columnar.Proofs.Dataset.Draft

/-!
# The generated tables

The tables of both datasets have fixed names and columns, and a dataset is generated iff its domains
hold a value: nothing that is drawn makes a generation fail.

* `IndexDataset.spec_generate`, `JoinDataset.spec_generate` — when a dataset is generated, and the names
  of its tables and columns
-/

namespace Columnar

open Generation Columnar.Random

variable {σ : Type} [DrawSource σ]

/-- A table of the generated database with columns of given names. -/
structure Table.IsGenerated (t : Table) (name : String) (columns : List String) (n : Nat) : Prop where
  database_eq : t.database = generatedDatabase
  name_eq : t.name = name
  names_eq : t.columnNames = columns
  rowCount_eq : t.rowCount = n

/-! ## Drafts of the generated tables -/

/-- An aligned draft of a table of the generated database. -/
structure Draft.IsGenerated (d : Draft) (name : String) (columns : List String) (n : Nat) : Prop where
  shape : d.Shape generatedDatabase name n columns
  aligned : d.Aligned

namespace Draft

variable {d d' : Draft} {column name : String} {columns : List String} {n : Nat}

theorem IsGenerated.refill (hd : d.IsGenerated name columns n) (h : d.Refills column d')
    (hcolumn : column ∈ columns) : d'.IsGenerated name columns n :=
  ⟨h.shape hd.shape hcolumn, h.aligned hd.aligned⟩

theorem IsGenerated.spec_fillUniform (hd : d.IsGenerated name columns n) (hcolumn : column ∈ columns)
    (low high : Int64) :
    (d.fillUniform column low high : Generation σ Draft).Spec (low < high) fun d' =>
      d'.IsGenerated name columns n :=
  (Draft.spec_fillUniform d column low high).imp Iff.rfl fun _ h => hd.refill h hcolumn

theorem IsGenerated.spec_fillUniform_of_lt (hd : d.IsGenerated name columns n) (hcolumn : column ∈ columns)
    {low high : Int64} (h : low < high) :
    (d.fillUniform column low high : Generation σ Draft).Spec True fun d' => d'.IsGenerated name columns n :=
  (hd.spec_fillUniform hcolumn low high).imp (iff_true_intro h) fun _ h => h

theorem IsGenerated.spec_mask (hd : d.IsGenerated name columns n) (threshold : Float) :
    (Generation.ofDraws (d.mask threshold) : Generation σ (List Bool)).Spec True fun mask =>
      mask.length = n :=
  spec_ofDraws fun s => (d.length_mask threshold s).trans hd.shape.rowCount_eq

omit [DrawSource σ] in
theorem IsGenerated.spec_inject (hd : d.IsGenerated name columns n) (hcolumn : column ∈ columns)
    {mask : List Bool} (hmask : mask.length = n) (value : Int64) :
    (Generation.ofExcept (d.inject column mask value) : Generation σ Draft).Spec True fun d' =>
      d'.IsGenerated name columns n :=
  spec_ofExcept (iff_true_intro (exists_inject hd.shape hcolumn hmask value)) fun _ h =>
    hd.refill (inject_eq_ok h) hcolumn

omit [DrawSource σ] in
theorem IsGenerated.spec_addColumn (hd : d.IsGenerated name columns n) {source : String}
    (hcolumn : column ∈ columns) (hsource : source ∈ columns) :
    (Generation.ofExcept (d.addColumn column source) : Generation σ Draft).Spec True fun d' =>
      d'.IsGenerated name columns n :=
  spec_ofExcept (iff_true_intro (exists_addColumn hd.shape hcolumn hsource)) fun _ h =>
    hd.refill (addColumn_eq_ok h) hcolumn

theorem IsGenerated.spec_fillZipf (hd : d.IsGenerated name columns n) (hcolumn : column ∈ columns)
    (z : Zipf) :
    (Generation.ofDraws (d.fillZipf column z) : Generation σ Draft).Spec True fun d' =>
      d'.IsGenerated name columns n :=
  spec_ofDraws fun s => hd.refill (refills_fillZipf d column z s) hcolumn

omit [DrawSource σ] in
theorem IsGenerated.spec_finish (hd : d.IsGenerated name columns n) (hnodup : columns.Nodup) :
    (Generation.ofExcept d.finish : Generation σ Table).Spec True fun t => t.IsGenerated name columns n :=
  (Draft.spec_finish hd.shape hnodup).imp (iff_true_intro hd.aligned) fun _ ⟨hdatabase, hname, hrows, hnames⟩ =>
    ⟨hdatabase, hname, hnames, hrows⟩

end Draft

/-! ## The index dataset -/

namespace IndexDataset

/-- The columns of the index table. -/
def columnNames : List String :=
  ["col1", "col2", "col3", "col4"]

/-- **An index dataset is generated iff the domain of its third column holds a value.** -/
theorem spec_generate (rows : UInt64) :
    (IndexDataset.generate rows : Generation σ IndexDataset).Spec (0 < baseDomain rows) fun d =>
      d.table.IsGenerated tableName columnNames rows.toNat := by
  refine (Draft.spec_uniformColumns generatedDatabase tableName rows.toNat columnNames (by decide)
    (by decide) 0 (baseDomain rows)).bind_true fun d hd => ?_
  have hd : d.IsGenerated tableName columnNames rows.toNat := ⟨hd.1, hd.2⟩
  refine (hd.spec_fillUniform_of_lt (by decide) (by decide)).bind_of_true fun d hd => ?_
  refine (hd.spec_fillUniform_of_lt (by decide) (by decide)).bind_of_true fun d hd => ?_
  refine (hd.spec_mask 0.05).bind_of_true fun mask1 hmask1 => ?_
  refine (hd.spec_mask 0.02).bind_of_true fun mask2 hmask2 => ?_
  refine (hd.spec_fillUniform_of_lt (by decide) (by decide)).bind_of_true fun d hd => ?_
  refine (spec_ofDraws_any _).bind_of_true fun frequent1 _ => ?_
  refine (spec_ofDraws_any _).bind_of_true fun frequent2 _ => ?_
  refine (hd.spec_inject (by decide) hmask1 frequent1).bind_of_true fun d hd => ?_
  refine (hd.spec_inject (by decide) hmask2 frequent2).bind_of_true fun d hd => ?_
  refine (hd.spec_addColumn (by decide) (by decide)).bind_of_true fun d hd => ?_
  exact (hd.spec_finish (by decide)).bind_of_true fun t ht => spec_pure ht

end IndexDataset

/-! ## The join dataset -/

namespace JoinSizes

/-- Sizes for which every domain holds a value and the rows of the second dimension can be counted. -/
structure IsGenerable (sizes : JoinSizes) : Prop where
  fact : 0 < baseDomain sizes.fact
  dim1 : 0 < baseDomain sizes.dim1
  dim2 : 0 < baseDomain sizes.dim2
  select : 0 < baseDomain sizes.select
  references : 1 < sizes.dim2.toInt64
  count : (sizes.dim2.toNat : Int) ≤ Int64.maxValue.toInt

end JoinSizes

namespace JoinDataset

/-- The five tables with their columns. -/
structure IsGenerated (d : JoinDataset) (sizes : JoinSizes) : Prop where
  fact : d.fact.IsGenerated factName ["col1", "col2", "col3", "col4"] sizes.fact.toNat
  dim1 : d.dim1.IsGenerated dim1Name ["col1", "col2", "col3"] sizes.dim1.toNat
  dim2 : d.dim2.IsGenerated dim2Name ["col1", "col2"] sizes.dim2.toNat
  sel1 : d.sel1.IsGenerated sel1Name ["col1", "col2"] sizes.select.toNat
  sel2 : d.sel2.IsGenerated sel2Name ["col1", "col2"] sizes.select.toNat

theorem spec_base (name : String) (rows : UInt64) {columns : List String} (hne : columns ≠ [])
    (hnodup : columns.Nodup) :
    (base name rows columns : Generation σ Draft).Spec (0 < baseDomain rows) fun d =>
      d.IsGenerated name columns rows.toNat :=
  (Draft.spec_uniformColumns generatedDatabase name rows.toNat columns hne hnodup 0 (baseDomain rows)).imp
    Iff.rfl fun _ h => ⟨h.1, h.2⟩

/-- **A join dataset is generated iff all its domains hold values**, whatever the law of the keys. -/
theorem spec_generate (sizes : JoinSizes) (zipf : Zipf) :
    (generate sizes zipf : Generation σ JoinDataset).Spec sizes.IsGenerable fun d => d.IsGenerated sizes := by
  suffices h : (generate sizes zipf : Generation σ JoinDataset).Spec
      (0 < baseDomain sizes.fact ∧ 1 < sizes.dim2.toInt64 ∧ 0 < baseDomain sizes.dim1 ∧
        1 < sizes.dim2.toInt64 ∧ 0 < baseDomain sizes.dim2 ∧ 0 < baseDomain sizes.select ∧
        0 < baseDomain sizes.select ∧ (sizes.dim2.toNat : Int) ≤ Int64.maxValue.toInt) fun d => d.IsGenerated sizes by
    refine h.imp ⟨?_, ?_⟩ fun _ h => h
    · rintro ⟨hfact, hreferences, hdim1, _, hdim2, hselect, _, hcount⟩
      exact ⟨hfact, hdim1, hdim2, hselect, hreferences, hcount⟩
    · rintro ⟨hfact, hdim1, hdim2, hselect, hreferences, hcount⟩
      exact ⟨hfact, hreferences, hdim1, hreferences, hdim2, hselect, hselect, hcount⟩
  refine (spec_base factName sizes.fact (by decide) (by decide)).bind fun fact hfact => ?_
  refine (hfact.spec_fillZipf (by decide) zipf).bind_of_true fun fact hfact => ?_
  have hfact := hfact.refill (fact.refills_fillConstant "col3" 1) (by decide)
  refine (hfact.spec_fillUniform (by decide) 1 _).bind fun fact hfact => ?_
  refine (spec_base dim1Name sizes.dim1 (by decide) (by decide)).bind fun dim1 hdim1 => ?_
  refine (hdim1.spec_fillZipf (by decide) zipf).bind_of_true fun dim1 hdim1 => ?_
  refine (hdim1.spec_fillUniform (by decide) 1 _).bind fun dim1 hdim1 => ?_
  refine (spec_base dim2Name sizes.dim2 (by decide) (by decide)).bind fun dim2 hdim2 => ?_
  refine (spec_base sel1Name sizes.select (by decide) (by decide)).bind fun sel1 hsel1 => ?_
  refine (spec_base sel2Name sizes.select (by decide) (by decide)).bind fun sel2 hsel2 => ?_
  refine (hfact.spec_finish (by decide)).bind_of_true fun fact hfact => ?_
  refine (hdim1.spec_finish (by decide)).bind_of_true fun dim1 hdim1 => ?_
  -- the counted column is the only one that may not fit its table
  have haligned : (dim2.fillSequence "col1" 1).Aligned ↔ (sizes.dim2.toNat : Int) ≤ Int64.maxValue.toInt := by
    rw [Draft.aligned_fillSequence_iff hdim2.aligned (hdim2.shape.rowCount_eq ▸ sizes.dim2.toNat_lt_size) 1,
      hdim2.shape.rowCount_eq]
  refine ((Draft.spec_finish (hdim2.shape.set (by decide)) (by decide)).imp haligned fun t ht => ht).bind_true
    fun dim2 hdim2 => ?_
  refine (hsel1.spec_finish (by decide)).bind_of_true fun sel1 hsel1 => ?_
  refine (hsel2.spec_finish (by decide)).bind_of_true fun sel2 hsel2 => ?_
  exact spec_pure ⟨hfact, hdim1, ⟨hdim2.1, hdim2.2.1, hdim2.2.2.2, hdim2.2.2.1⟩, hsel1, hsel2⟩

end JoinDataset

end Columnar
