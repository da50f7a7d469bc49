import Columnar.Proofs.Dataset.Contents
import Columnar.Proofs.Dataset.Refusals
import Columnar.Proofs.Run.ManyToOne

/-!
# The keys of the join dataset

Every column of the join dataset is drawn from a fifth of its table's rows first, and some of them are
filled again: with ranks, with ones, with references to the second dimension, or by counting. What is left
of all this is that references refer: each is the key of exactly one row of the second dimension, and a
join by it pairs every row once.

* `JoinDataset.ensures_generate` — what the fillings leave in each column
* `JoinDataset.exists_integrity` — **every dataset is generated with its keys intact**
-/

namespace Columnar.JoinDataset

open Generation Columnar.Random

/-! ## What the fillings leave -/

/-- Columns as they are drawn first. -/
def baseContents (rows : UInt64) : Contents :=
  fun _ => InRange 0 (baseDomain rows)

def factContents (sizes : JoinSizes) (domain : Nat) : Contents :=
  Function.update (Function.update (Function.update (baseContents sizes.fact)
    "col1" (AreRanks domain)) "col3" fun values => ∀ v ∈ values, v = 1) "col4" (InRange 1 sizes.dim2.toInt64)

def dim1Contents (sizes : JoinSizes) (domain : Nat) : Contents :=
  Function.update (Function.update (baseContents sizes.dim1)
    "col1" (AreRanks domain)) "col2" (InRange 1 sizes.dim2.toInt64)

def dim2Contents (sizes : JoinSizes) : Contents :=
  Function.update (baseContents sizes.dim2) "col1" (CountFrom 1)

/-- The five tables with what they were filled with last. -/
structure IsFilled (d : JoinDataset) (sizes : JoinSizes) (domain : Nat) : Prop where
  fact : d.fact.Satisfies (factContents sizes domain)
  dim1 : d.dim1.Satisfies (dim1Contents sizes domain)
  dim2 : d.dim2.Satisfies (dim2Contents sizes)
  sel1 : d.sel1.Satisfies (baseContents sizes.select)
  sel2 : d.sel2.Satisfies (baseContents sizes.select)

variable {σ : Type} [DrawSource σ] [LawfulDrawSource σ] {sizes : JoinSizes} {d : JoinDataset} {domain : Nat}

theorem ensures_base (name : String) (rows : UInt64) (columns : List String) :
    (base name rows columns : Generation σ Draft).Ensures fun d => d.Satisfies (baseContents rows) :=
  Draft.ensures_uniformColumns generatedDatabase name rows.toNat columns 0 (baseDomain rows)

/-- **Each column holds what it is filled with last.** -/
theorem ensures_generate (sizes : JoinSizes) {zipf : Zipf} (hdomain : 1 ≤ zipf.domain)
    (hlast : zipf.domain < 2 ^ 63) :
    (generate sizes zipf : Generation σ JoinDataset).Ensures fun d => d.IsFilled sizes zipf.domain := by
  refine (ensures_base factName _ _).bind fun fact hfact => ?_
  refine (hfact.fillZipf "col1" hdomain hlast).bind fun fact hfact => ?_
  -- the fourth column is drawn anew, so what it held before does not matter
  refine ((hfact.fillConstant "col3" 1).fillUniform "col4" 1 _).bind fun fact hfact => ?_
  refine (ensures_base dim1Name _ _).bind fun dim1 hdim1 => ?_
  refine (hdim1.fillZipf "col1" hdomain hlast).bind fun dim1 hdim1 => ?_
  refine (hdim1.fillUniform "col2" 1 _).bind fun dim1 hdim1 => ?_
  refine (ensures_base dim2Name _ _).bind fun dim2 hdim2 => ?_
  refine (ensures_base sel1Name _ _).bind fun sel1 hsel1 => ?_
  refine (ensures_base sel2Name _ _).bind fun sel2 hsel2 => ?_
  refine hfact.finish.bind fun fact hfact => ?_
  refine hdim1.finish.bind fun dim1 hdim1 => ?_
  refine (hdim2.fillSequence "col1" 1).finish.bind fun dim2 hdim2 => ?_
  refine hsel1.finish.bind fun sel1 hsel1 => ?_
  refine hsel2.finish.bind fun sel2 hsel2 => ?_
  exact ensures_pure ⟨hfact, hdim1, hdim2, hsel1, hsel2⟩

/-! ## Integrity -/

/-- A dataset with all rows that were asked for, of which each column holds what joins rely on; its many
keys are ranks of a law over `1 … domain`. -/
structure Integrity (d : JoinDataset) (sizes : JoinSizes) (domain : Nat) : Prop where
  rowCounts : d.tables.map Table.rowCount =
    [sizes.fact, sizes.dim1, sizes.dim2, sizes.select, sizes.select].map UInt64.toNat
  ranks : ∀ t ∈ [d.fact, d.dim1], t.Holds "col1" (AreRanks domain)
  ones : d.fact.Holds "col3" fun values => ∀ v ∈ values, v = 1
  /-- The second dimension counts its rows from one. -/
  keys : d.dim2.values "col1" = .ok (Query.countedKeys sizes.dim2.toNat)
  references : ∀ p ∈ [(d.fact, "col4"), (d.dim1, "col2")],
    p.1.Holds p.2 fun refs => IsManyToOne refs (Query.countedKeys sizes.dim2.toNat)
  /-- All other columns are as they are drawn first. -/
  uniform : ∀ p ∈ [(d.fact, "col2"), (d.dim1, "col3"), (d.dim2, "col2"), (d.sel1, "col1"), (d.sel1, "col2"),
    (d.sel2, "col1"), (d.sel2, "col2")],
    p.1.Holds p.2 fun values => ∀ v ∈ values, 0 ≤ v.toInt ∧ v.toInt < p.1.rowCount / 5

omit [DrawSource σ] [LawfulDrawSource σ]

/-- References are drawn below the number of rows, so each of them is a key. -/
theorem isManyToOne_of_inRange (hrows : sizes.dim2.toNat < 2 ^ 63) {refs : List Int64}
    (h : InRange 1 sizes.dim2.toInt64 refs) : IsManyToOne refs (Query.countedKeys sizes.dim2.toNat) := by
  refine isManyToOne_of_refersTo (Query.refersTo_countedKeys hrows fun v hv => ?_)
  obtain ⟨hlow, hhigh⟩ := h.toInt v hv
  rw [Int64.toInt_one] at hlow
  rw [toInt_toInt64_of_lt hrows] at hhigh
  omega

theorem eq_countedKeys {values : List Int64} (h : CountFrom 1 values) :
    values = Query.countedKeys values.length := by
  refine h.trans ?_
  rw [Query.countedKeys, List.range'_eq_map_range, List.map_map]
  exact List.map_congr_left fun i _ => (Int64.ofNat_add 1 i).symm

/-- The domain of a base column is a fifth of the rows of its own table. -/
theorem uniform_of_inRange {t : Table} {rows : UInt64} (ht : t.rowCount = rows.toNat) {column : String}
    (h : t.Holds column (InRange 0 (baseDomain rows))) :
    t.Holds column fun values => ∀ v ∈ values, 0 ≤ v.toInt ∧ v.toInt < t.rowCount / 5 := by
  refine h.imp fun values hvalues v hv => ?_
  obtain ⟨hlow, hhigh⟩ := hvalues.toInt v hv
  rw [Int64.toInt_zero] at hlow
  rw [toInt_baseDomain, ← ht] at hhigh
  exact ⟨hlow, hhigh⟩

theorem integrity_of_isFilled (hd : d.IsGenerated sizes) (hrows : sizes.dim2.toNat < 2 ^ 63)
    (h : d.IsFilled sizes domain) : d.Integrity sizes domain := by
  have hfact := h.fact.holds hd.fact.names_eq
  have hdim1 := h.dim1.holds hd.dim1.names_eq
  have hdim2 := h.dim2.holds hd.dim2.names_eq
  have hsel1 := h.sel1.holds hd.sel1.names_eq
  have hsel2 := h.sel2.holds hd.sel2.names_eq
  simp only [List.forall_mem_cons] at hfact hdim1 hdim2 hsel1 hsel2
  obtain ⟨fact1, fact2, fact3, fact4, -⟩ := hfact
  obtain ⟨dim1_1, dim1_2, dim1_3, -⟩ := hdim1
  obtain ⟨dim2_1, dim2_2, -⟩ := hdim2
  obtain ⟨sel1_1, sel1_2, -⟩ := hsel1
  obtain ⟨sel2_1, sel2_2, -⟩ := hsel2
  constructor
  · simp only [tables, List.map_cons, List.map_nil, hd.fact.rowCount_eq, hd.dim1.rowCount_eq,
      hd.dim2.rowCount_eq, hd.sel1.rowCount_eq, hd.sel2.rowCount_eq]
  · simp only [List.forall_mem_cons]
    exact ⟨fact1, dim1_1, by simp⟩
  · exact fact3
  · obtain ⟨keys, hkeys, hcount⟩ := dim2_1
    rw [hkeys, eq_countedKeys hcount, Table.length_of_values_eq_ok hkeys, hd.dim2.rowCount_eq]
  · simp only [List.forall_mem_cons]
    exact ⟨fact4.imp fun _ => isManyToOne_of_inRange hrows, dim1_2.imp fun _ => isManyToOne_of_inRange hrows,
      by simp⟩
  · simp only [List.forall_mem_cons]
    exact ⟨uniform_of_inRange hd.fact.rowCount_eq fact2, uniform_of_inRange hd.dim1.rowCount_eq dim1_3,
      uniform_of_inRange hd.dim2.rowCount_eq dim2_2, uniform_of_inRange hd.sel1.rowCount_eq sel1_1,
      uniform_of_inRange hd.sel1.rowCount_eq sel1_2, uniform_of_inRange hd.sel2.rowCount_eq sel2_1,
      uniform_of_inRange hd.sel2.rowCount_eq sel2_2, by simp⟩

/-- **A join dataset of at least five rows for each table is generated with its keys intact**, by any law of
the ranks and whatever is drawn: each reference is the key of one row of the second dimension, and a join by
it pairs every row once. -/
theorem exists_integrity {σ : Type} [DrawSource σ] [LawfulDrawSource σ] (sizes : JoinSizes)
    (hsizes : ∀ n ∈ [sizes.fact, sizes.dim1, sizes.dim2, sizes.select], 5 ≤ n) (hrows : sizes.dim2.toNat < 2 ^ 63)
    {skew : Float} {domain : Nat} {zipf : Zipf} (hzipf : Zipf.of skew domain = .ok zipf) (hlast : domain < 2 ^ 63)
    (source : σ) :
    ∃ d, ((generate sizes zipf).run source).1 = .ok d ∧ d.Integrity sizes domain := by
  obtain ⟨hdomain, hpos⟩ := Zipf.domain_of_eq_ok hzipf
  subst hdomain
  simp only [List.forall_mem_cons] at hsizes
  obtain ⟨hfact, hdim1, hdim2, hselect, -⟩ := hsizes
  have hgenerable := sizes.isGenerable_iff.2 ⟨hfact, hdim1, hselect, hdim2, hrows⟩
  obtain ⟨d, hd⟩ := ((spec_generate sizes zipf).succeeds_iff source).2 hgenerable
  refine ⟨d, hd, integrity_of_isFilled ((spec_generate sizes zipf).ensures source d hd) hrows ?_⟩
  exact ensures_generate sizes hpos hlast source d hd

/-- A small dataset. -/
theorem exists_integrity_small :
    ∃ zipf d, Zipf.of 1 50 = .ok zipf ∧
      ((generate ⟨400, 200, 100, 300⟩ zipf).run (Stream.ofSeed 47)).1 = .ok d ∧
      d.Integrity ⟨400, 200, 100, 300⟩ 50 := by
  obtain ⟨zipf, hzipf⟩ := (Zipf.exists_of_iff 1 50).2 (by decide)
  obtain ⟨d, hd, hintegrity⟩ := exists_integrity ⟨400, 200, 100, 300⟩ (by simp) (by decide) hzipf (by decide)
    (Stream.ofSeed 47)
  exact ⟨zipf, d, hzipf, hd, hintegrity⟩

end Columnar.JoinDataset
