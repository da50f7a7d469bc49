import Columnar.Proofs.Dataset.Tables
import Mathlib.Algebra.Group.Nat.Defs

/-!
# Why no dataset is generated

A dataset is refused for its sizes alone, and a size is refused because some range that is to be drawn
from holds no value. In the join dataset the second dimension is counted as well, which takes a number
of rows that is a signed integer; but where it is none, the references to it have been refused before.

* `baseDomain_pos_iff`, `JoinSizes.isGenerable_iff`, `Zipf.exists_of_iff` — which sizes are not refused
* `IndexDataset.failsWith_generate`, `JoinDataset.failsWith_generate` — **the only error is an empty range**
-/

namespace Columnar

open Generation Columnar.Random

/-! ## Sizes -/

theorem toInt_toInt64 (x : UInt64) : x.toInt64.toInt = Int.bmod x.toNat (2 ^ 64) :=
  Stream.toInt_eq_bmod x.toInt64

theorem toInt_toInt64_of_lt {x : UInt64} (h : x.toNat < 2 ^ 63) : x.toInt64.toInt = x.toNat := by
  rw [toInt_toInt64, Int.bmod_def]
  split <;> omega

theorem one_lt_toInt64_iff (x : UInt64) : 1 < x.toInt64 ↔ 1 < x.toNat ∧ x.toNat < 2 ^ 63 := by
  have hlt := x.toNat_lt
  rw [Int64.lt_iff_toInt_lt, toInt_toInt64, Int64.toInt_one, Int.bmod_def]
  split <;> omega

theorem le_maxValue_iff (n : Nat) : (n : Int) ≤ Int64.maxValue.toInt ↔ n < 2 ^ 63 := by
  rw [Int64.toInt_maxValue]
  omega

/-- A fifth of any number of rows is a signed integer. -/
theorem toInt_baseDomain (rows : UInt64) : (baseDomain rows).toInt = rows.toNat / 5 := by
  have hrows := rows.toNat_lt
  have hfifth : (rows / 5).toNat = rows.toNat / 5 := UInt64.toNat_div rows 5
  rw [baseDomain, toInt_toInt64_of_lt (by omega), hfifth]
  rfl

/-- The domain of a base column is positive iff there are five rows. -/
theorem baseDomain_pos_iff (rows : UInt64) : 0 < baseDomain rows ↔ 5 ≤ rows := by
  have hfive : (5 : UInt64).toNat = 5 := rfl
  rw [Int64.lt_iff_toInt_lt, toInt_baseDomain, Int64.toInt_zero, UInt64.le_iff_toNat_le, hfive]
  omega

/-- **Sizes are not refused iff every table has five rows**, and no more in the second dimension than a
signed integer counts. -/
theorem JoinSizes.isGenerable_iff (sizes : JoinSizes) :
    sizes.IsGenerable ↔
      5 ≤ sizes.fact ∧ 5 ≤ sizes.dim1 ∧ 5 ≤ sizes.select ∧ 5 ≤ sizes.dim2 ∧ sizes.dim2.toNat < 2 ^ 63 := by
  have hfive : 5 ≤ sizes.dim2 ↔ 5 ≤ sizes.dim2.toNat := UInt64.le_iff_toNat_le
  constructor
  · rintro ⟨hfact, hdim1, hdim2, hselect, -, hrows⟩
    rw [baseDomain_pos_iff] at hfact hdim1 hdim2 hselect
    exact ⟨hfact, hdim1, hselect, hdim2, (le_maxValue_iff _).1 hrows⟩
  · rintro ⟨hfact, hdim1, hselect, hdim2, hrows⟩
    rw [← baseDomain_pos_iff] at hfact hdim1 hselect
    have hmany : 1 < sizes.dim2.toNat := by
      have := hfive.1 hdim2
      omega
    exact ⟨hfact, hdim1, (baseDomain_pos_iff _).2 hdim2, hselect, (one_lt_toInt64_iff _).2 ⟨hmany, hrows⟩,
      (le_maxValue_iff _).2 hrows⟩

theorem Zipf.exists_of_iff (skew : Float) (domain : Nat) :
    (∃ zipf, Zipf.of skew domain = .ok zipf) ↔ 1 ≤ domain ∧ skew.isFinite = true ∧ 0 < skew := by
  have hvalid : isValid skew domain = true ↔ 1 ≤ domain ∧ skew.isFinite = true ∧ 0 < skew := by
    simp [isValid, and_assoc]
  rw [← hvalid, Zipf.of]
  by_cases h : isValid skew domain = true <;> simp [h]

/-- A law has the ranks that it was made of, of which there is one at least. -/
theorem Zipf.domain_of_eq_ok {skew : Float} {domain : Nat} {zipf : Zipf} (h : Zipf.of skew domain = .ok zipf) :
    zipf.domain = domain ∧ 1 ≤ zipf.domain := by
  obtain ⟨hdomain, -, -⟩ := (exists_of_iff skew domain).1 ⟨zipf, h⟩
  unfold Zipf.of at h
  split at h
  · obtain rfl := Except.ok.inj h
    exact ⟨rfl, hdomain⟩
  · cases h

/-! ## Errors of fillings -/

variable {σ : Type} [DrawSource σ]

/-- Whether an error tells of a range without a value. -/
def GenerationError.IsEmptyRange (e : GenerationError) : Prop :=
  ∃ column low high, e = .emptyRange column low high

namespace Draft

omit [DrawSource σ] in
theorem failsWith_checkRange (column : String) (low high : Int64) :
    (Generation.ofExcept (checkRange column low high) : Generation σ Unit).FailsWith
      GenerationError.IsEmptyRange := by
  refine failsWith_ofExcept fun e he => ?_
  unfold checkRange at he
  split at he
  · cases he
  · exact ⟨column, low, high, (Except.error.inj he).symm⟩

/-- Only the check of a range fails, not the draws after it. -/
theorem failsWith_fillUniform (d : Draft) (column : String) (low high : Int64) :
    (d.fillUniform column low high : Generation σ Draft).FailsWith GenerationError.IsEmptyRange := by
  refine (spec_ofExcept_any Iff.rfl).failsWith_bind (failsWith_checkRange column low high) fun _ _ _ => ?_
  exact (spec_ofDraws_any _).failsWith_bind_of_true fun values _ => failsWith_pure _

theorem failsWith_uniformColumns (d : Draft) (names : List String) (low high : Int64) :
    (d.uniformColumns names low high : Generation σ Draft).FailsWith GenerationError.IsEmptyRange := by
  cases names with
  | nil => exact failsWith_pure d
  | cons first rest =>
    refine (spec_ofExcept_any Iff.rfl).failsWith_bind (failsWith_checkRange first low high) fun _ _ _ => ?_
    exact (spec_ofDraws_any _).failsWith_bind_of_true fun matrix _ => failsWith_pure _

end Draft

/-! ## Errors of datasets -/

/-- **An index dataset is refused for an empty range only.** -/
theorem IndexDataset.failsWith_generate (rows : UInt64) :
    (generate rows : Generation σ IndexDataset).FailsWith GenerationError.IsEmptyRange := by
  -- every step after the first one succeeds
  refine (Draft.spec_uniformColumns generatedDatabase tableName rows.toNat columnNames (by decide)
    (by decide) 0 (baseDomain rows)).failsWith_bind_of_first (spec_generate rows) ?_
  exact Draft.failsWith_uniformColumns _ columnNames 0 (baseDomain rows)

namespace JoinDataset

theorem failsWith_base (name : String) (rows : UInt64) (columns : List String) :
    (base name rows columns : Generation σ Draft).FailsWith GenerationError.IsEmptyRange :=
  Draft.failsWith_uniformColumns _ columns 0 (baseDomain rows)

/-- **A join dataset is refused for an empty range only**, whatever the law of the keys. -/
theorem failsWith_generate (sizes : JoinSizes) (zipf : Zipf) :
    (generate sizes zipf : Generation σ JoinDataset).FailsWith GenerationError.IsEmptyRange := by
  refine (spec_base factName sizes.fact (by decide) (by decide)).failsWith_bind (failsWith_base _ _ _)
    fun _ fact hfact => ?_
  refine (hfact.spec_fillZipf (by decide) zipf).failsWith_bind_of_true fun fact hfact => ?_
  have hfact := hfact.refill (fact.refills_fillConstant "col3" 1) (by decide)
  refine (hfact.spec_fillUniform (by decide) 1 _).failsWith_bind (Draft.failsWith_fillUniform _ _ _ _)
    fun hreferences fact hfact => ?_
  refine (spec_base dim1Name sizes.dim1 (by decide) (by decide)).failsWith_bind (failsWith_base _ _ _)
    fun _ dim1 hdim1 => ?_
  refine (hdim1.spec_fillZipf (by decide) zipf).failsWith_bind_of_true fun dim1 hdim1 => ?_
  refine (hdim1.spec_fillUniform (by decide) 1 _).failsWith_bind (Draft.failsWith_fillUniform _ _ _ _)
    fun _ dim1 hdim1 => ?_
  refine (spec_base dim2Name sizes.dim2 (by decide) (by decide)).failsWith_bind (failsWith_base _ _ _)
    fun _ dim2 hdim2 => ?_
  refine (spec_base sel1Name sizes.select (by decide) (by decide)).failsWith_bind (failsWith_base _ _ _)
    fun _ sel1 hsel1 => ?_
  refine (spec_base sel2Name sizes.select (by decide) (by decide)).failsWith_bind (failsWith_base _ _ _)
    fun _ sel2 hsel2 => ?_
  refine (hfact.spec_finish (by decide)).failsWith_bind_of_true fun fact _ => ?_
  refine (hdim1.spec_finish (by decide)).failsWith_bind_of_true fun dim1 _ => ?_
  -- rows that can be referred to can be counted
  have hcounted := (le_maxValue_iff _).2 ((one_lt_toInt64_iff sizes.dim2).1 hreferences).2
  have haligned : (dim2.fillSequence "col1" 1).Aligned := by
    rw [Draft.aligned_fillSequence_iff hdim2.aligned (hdim2.shape.rowCount_eq ▸ sizes.dim2.toNat_lt_size),
      hdim2.shape.rowCount_eq]
    exact hcounted
  refine ((Draft.spec_finish (hdim2.shape.set (by decide)) (by decide)).imp (iff_true_intro haligned)
    fun _ ht => ht).failsWith_bind_of_true fun dim2 _ => ?_
  refine (hsel1.spec_finish (by decide)).failsWith_bind_of_true fun sel1 _ => ?_
  refine (hsel2.spec_finish (by decide)).failsWith_bind_of_true fun sel2 _ => ?_
  exact failsWith_pure _

end JoinDataset

end Columnar
