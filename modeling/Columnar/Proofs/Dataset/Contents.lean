import Columnar.Proofs.Catalog
import Columnar.Proofs.Dataset.Draft
import Mathlib.Algebra.Group.Nat.Defs
import Mathlib.Logic.Function.Basic

/-!
# What the columns of a draft hold

A column holds what it was filled with last. So the contents of a draft are a map from column names to
what is known of their values, and a filling updates the map at its column, whatever it held before. What
a column holds in the end is read off the order of the updates, and a finished table holds what its draft
did.

* `Draft.Satisfies.set` — a filling updates the contents
* `Draft.ensures_uniformColumns`, `Draft.Satisfies.fillUniform`, `Draft.Satisfies.fillZipf`,
  `Draft.Satisfies.fillConstant`, `Draft.Satisfies.fillSequence` — the fillings
* `Draft.Satisfies.finish` — **a finished table holds what its draft did**
-/

namespace Columnar

open Generation Columnar.Random

/-! ## Contents -/

/-- What is known of the values of each column. -/
abbrev Contents := String → List Int64 → Prop

/-- Values from a half-open range. -/
def InRange (low high : Int64) (values : List Int64) : Prop :=
  ∀ v ∈ values, low ≤ v ∧ v < high

theorem InRange.toInt {low high : Int64} {values : List Int64} (h : InRange low high values) :
    ∀ v ∈ values, low.toInt ≤ v.toInt ∧ v.toInt < high.toInt := fun v hv =>
  ⟨Int64.le_iff_toInt_le.1 (h v hv).1, Int64.lt_iff_toInt_lt.1 (h v hv).2⟩

/-- Ranks of a law over `1 … domain`. -/
def AreRanks (domain : Nat) (values : List Int64) : Prop :=
  ∀ v ∈ values, 1 ≤ v.toInt ∧ v.toInt ≤ domain

/-- Values that count from a first one on. -/
def CountFrom (start : Int64) (values : List Int64) : Prop :=
  values = (List.range values.length).map fun i => start + Int64.ofNat i

namespace Table

/-- Whether a table has a column of a given name, with values of a given property. -/
def Holds (t : Table) (column : String) (P : List Int64 → Prop) : Prop :=
  ∃ values, t.values column = .ok values ∧ P values

/-- Whether the values of each column are as they are known to be. -/
def Satisfies (t : Table) (contents : Contents) : Prop :=
  ∀ column values, t.values column = .ok values → contents column values

variable {t : Table} {column : String} {P Q : List Int64 → Prop}

theorem Satisfies.holds {contents : Contents} (h : t.Satisfies contents) {names : List String}
    (hnames : t.columnNames = names) : ∀ column ∈ names, t.Holds column (contents column) := by
  intro column hcolumn
  rw [← hnames] at hcolumn
  obtain ⟨values, hvalues⟩ := exists_values hcolumn
  exact ⟨values, hvalues, h column values hvalues⟩

theorem Holds.imp (h : t.Holds column P) (hPQ : ∀ values, P values → Q values) : t.Holds column Q := by
  obtain ⟨values, hvalues, hP⟩ := h
  exact ⟨values, hvalues, hPQ values hP⟩

end Table

namespace Draft

/-- Whether the values of each column are as they are known to be. -/
def Satisfies (d : Draft) (contents : Contents) : Prop :=
  ∀ column values, d.values column = .ok values → contents column values

variable {d : Draft} {contents : Contents} {P : List Int64 → Prop}

/-- A draft without columns holds nothing. -/
theorem satisfies_empty (database name : String) (n : Nat) : (empty database name n).Satisfies contents := by
  intro column values h
  cases h

/-- **A filling updates the contents at its column.** -/
theorem Satisfies.set (h : d.Satisfies contents) (column : String) {values : List Int64} (hP : P values) :
    (d.set column values).Satisfies (Function.update contents column P) := by
  intro other vs hvs
  rw [values_set] at hvs
  by_cases hother : column = other
  · subst hother
    rw [if_pos rfl] at hvs
    obtain rfl := Except.ok.inj hvs
    rwa [Function.update_self]
  · rw [if_neg hother] at hvs
    rw [Function.update_of_ne (Ne.symm hother)]
    exact h other vs hvs

/-- Fillings that have one property in common. -/
theorem Satisfies.setMany {columns : List (String × List Int64)} (h : d.Satisfies fun _ => P)
    (hP : ∀ c ∈ columns, P c.2) : (d.setMany columns).Satisfies fun _ => P := by
  induction columns generalizing d with
  | nil => exact h
  | cons c cs ih =>
    have hset := h.set c.1 (hP c (List.mem_cons_self ..))
    rw [Function.update_eq_self_iff.2 rfl] at hset
    exact ih hset fun e he => hP e (List.mem_cons_of_mem c he)

/-! ## Fillings -/

theorem Satisfies.fillConstant (h : d.Satisfies contents) (column : String) (value : Int64) :
    (d.fillConstant column value).Satisfies
      (Function.update contents column fun values => ∀ v ∈ values, v = value) :=
  h.set column fun _ hv => List.eq_of_mem_replicate hv

theorem Satisfies.fillSequence (h : d.Satisfies contents) (column : String) (start : Int64) :
    (d.fillSequence column start).Satisfies (Function.update contents column (CountFrom start)) := by
  refine h.set column ?_
  rw [CountFrom, List.length_map, List.length_range]

section Draws

variable {σ : Type} [DrawSource σ]

/-- Ranks are stored as they are, as the last one is a signed integer. -/
theorem Satisfies.fillZipf (h : d.Satisfies contents) (column : String) {z : Zipf} (hdomain : 1 ≤ z.domain)
    (hlast : z.domain < 2 ^ 63) :
    (Generation.ofDraws (d.fillZipf column z) : Generation σ Draft).Ensures fun d' =>
      d'.Satisfies (Function.update contents column (AreRanks z.domain)) := by
  refine ensures_ofDraws fun s => h.set column fun v hv => ?_
  obtain ⟨k, hk, rfl⟩ := List.mem_map.1 hv
  obtain ⟨u, -, rfl⟩ := List.mem_map.1 hk
  obtain ⟨hlow, hhigh⟩ := z.sample_mem hdomain u
  rw [Int64.toInt_ofNat_of_lt (Nat.lt_of_le_of_lt hhigh hlast)]
  omega

variable [LawfulDrawSource σ]

theorem inRange_repeatDraw {low high : Int64} (h : low < high) (n : Nat) (s : σ) :
    InRange low high ((repeatDraw n (uniform low high)).run s).1 :=
  forall_mem_repeatDraw (fun s => LawfulDrawSource.drawInt_mem low high s h) n s

omit [DrawSource σ] [LawfulDrawSource σ] in
theorem ensures_checkRange (column : String) (low high : Int64) :
    (Generation.ofExcept (checkRange column low high) : Generation σ Unit).Ensures fun _ => low < high :=
  ensures_ofExcept fun _ h => checkRange_eq_ok_iff.1 ⟨_, h⟩

theorem Satisfies.fillUniform (h : d.Satisfies contents) (column : String) (low high : Int64) :
    (d.fillUniform column low high : Generation σ Draft).Ensures fun d' =>
      d'.Satisfies (Function.update contents column (InRange low high)) := by
  refine (ensures_checkRange column low high).bind fun _ hrange => ?_
  refine (ensures_ofDraws (P := InRange low high) fun s => inRange_repeatDraw hrange _ s).bind
    fun values hvalues => ensures_pure (h.set column hvalues)

/-- Each of some uniform columns holds values from their common range. -/
theorem ensures_uniformColumns (database name : String) (n : Nat) (names : List String) (low high : Int64) :
    ((empty database name n).uniformColumns names low high : Generation σ Draft).Ensures fun d =>
      d.Satisfies fun _ => InRange low high := by
  cases names with
  | nil => exact ensures_pure (satisfies_empty database name n)
  | cons first rest =>
    refine (ensures_checkRange first low high).bind fun _ hrange => ?_
    refine (ensures_ofDraws (P := fun matrix => ∀ row ∈ matrix, InRange low high row) fun s =>
      forall_mem_repeatDraw (fun s => inRange_repeatDraw hrange _ s) _ s).bind fun matrix hmatrix => ensures_pure ?_
    refine (satisfies_empty database name n).setMany fun c hc v hv => ?_
    -- a column of the transposed matrix holds values of its rows only
    obtain ⟨row, hrow, hv⟩ := Grid.exists_mem_of_mem_rows (List.of_mem_zip hc).2 hv
    exact hmatrix row hrow v hv

end Draws

/-! ## Tables -/

/-- The columns of a finished table are those of the draft. -/
theorem values_of_finish {t : Table} (ht : d.finish = .ok t) {column : String} {values : List Int64}
    (h : t.values column = .ok values) : d.values column = .ok values := by
  obtain ⟨-, -, -, -, hcolumns⟩ := Table.ofColumns_eq_ok_iff.1 (Except.mapError_eq_ok_iff.1 ht)
  obtain ⟨c, hc, rfl⟩ := Except.map_eq_ok_iff.1 h
  have hfind := Table.column_eq_ok_iff.1 hc
  rw [hcolumns] at hfind
  simp only [Draft.values, hfind]

/-- **A finished table holds what its draft did.** -/
theorem Satisfies.finish {σ : Type} (h : d.Satisfies contents) :
    (Generation.ofExcept d.finish : Generation σ Table).Ensures fun t => t.Satisfies contents :=
  ensures_ofExcept fun _ ht column values hvalues => h column values (values_of_finish ht hvalues)

end Draft

end Columnar
