import Columnar.Proofs.Query.Ids
import Columnar.Proofs.Query.Origins
import Mathlib.Algebra.BigOperators.Group.Finset.Basic

/-!
# Joins told by positions

A join is given values with a row id beside each, and ids may repeat with any values. So what it pairs
are positions: two of them go together iff their values are equal. Two loops over the positions list each
pair once, and the rows at these positions are what the join lists. Exchanging the sides exchanges the
positions of every pair, and counting the pairs key by key multiplies how often each side holds the key.

* `Query.mem_equalPositions`, `Query.pairwise_equalPositions` — which positions go together, in which order
* `Query.nestedLoop_eq_map` — **a join lists the rows at positions of equal values**
* `Query.nestedLoop_swap` — **exchanging the sides exchanges each pair**
* `Query.length_nestedLoop` — **how many pairs there are**
-/

namespace Columnar.Query

variable {leftValues rightValues : List Int64} {leftRows rightRows : RowSet}

/-! ## Positions of equal values -/

/-- The pairs of positions of equal values, by two loops over the positions of both lists. -/
def equalPositions (left right : List Int64) : List (Nat × Nat) :=
  (List.range left.length).flatMap fun i =>
    (List.range right.length).filterMap fun j => if left[i]? = right[j]? then some (i, j) else none

/-- The rows at two positions. -/
def rowsAt (leftRows rightRows : RowSet) (p : Nat × Nat) : Nat × Nat :=
  (leftRows.getD p.1 0, rightRows.getD p.2 0)

theorem mem_equalPositions {i j : Nat} :
    (i, j) ∈ equalPositions leftValues rightValues ↔
      ∃ v, leftValues[i]? = some v ∧ rightValues[j]? = some v := by
  simp only [equalPositions, List.mem_flatMap, List.mem_filterMap, List.mem_range,
    Option.ite_none_right_eq_some, Option.some.injEq, Prod.mk.injEq]
  constructor
  · rintro ⟨i, hi, j, -, heq, rfl, rfl⟩
    exact ⟨leftValues[i], List.getElem?_eq_getElem hi, heq ▸ List.getElem?_eq_getElem hi⟩
  · rintro ⟨v, hleft, hright⟩
    exact ⟨i, (List.getElem?_eq_some_iff.1 hleft).1, j, (List.getElem?_eq_some_iff.1 hright).1,
      hleft.trans hright.symm, rfl, rfl⟩

/-- **Positions are listed by the left one and, for the same left one, by the right one.** -/
theorem pairwise_equalPositions (leftValues rightValues : List Int64) :
    (equalPositions leftValues rightValues).Pairwise fun p q => p.1 < q.1 ∨ p.1 = q.1 ∧ p.2 < q.2 := by
  simp only [equalPositions, List.pairwise_flatMap, List.pairwise_filterMap, List.mem_filterMap,
    Option.ite_none_right_eq_some, Option.some.injEq]
  constructor
  · intro i _
    refine List.pairwise_lt_range.imp ?_
    rintro j j' hlt _ ⟨-, rfl⟩ _ ⟨-, rfl⟩
    exact .inr ⟨rfl, hlt⟩
  · refine List.pairwise_lt_range.imp ?_
    rintro i i' hlt _ ⟨j, -, -, rfl⟩ _ ⟨j', -, -, rfl⟩
    exact .inl hlt

theorem nodup_equalPositions (leftValues rightValues : List Int64) :
    (equalPositions leftValues rightValues).Nodup := by
  refine (pairwise_equalPositions leftValues rightValues).imp fun {p q} h heq => ?_
  subst heq
  omega

/-- The positions of the exchanged lists are the exchanged positions. -/
theorem equalPositions_swap (leftValues rightValues : List Int64) :
    (equalPositions rightValues leftValues).Perm ((equalPositions leftValues rightValues).map Prod.swap) := by
  -- neither side lists a pair twice, so it is enough that they list the same pairs
  refine (List.perm_ext_iff_of_nodup (nodup_equalPositions _ _)
    ((nodup_equalPositions _ _).map Prod.swap_injective)).2 fun ⟨j, i⟩ => ?_
  rw [mem_equalPositions, List.mem_map]
  constructor
  · rintro ⟨v, hright, hleft⟩
    exact ⟨(i, j), mem_equalPositions.2 ⟨v, hleft, hright⟩, rfl⟩
  · rintro ⟨⟨i', j'⟩, hmem, h⟩
    obtain ⟨rfl, rfl⟩ := Prod.mk.inj h
    obtain ⟨v, hleft, hright⟩ := mem_equalPositions.1 hmem
    exact ⟨v, hright, hleft⟩

/-! ## The rows at positions of equal values -/

/-- Values with their rows, position by position. -/
theorem zip_eq_map_range {values : List Int64} {rows : RowSet} (h : values.length = rows.length) :
    values.zip rows = (List.range values.length).map fun i => (values.getD i 0, rows.getD i 0) := by
  refine List.ext_getElem (by simp [h]) fun i hi _ => ?_
  rw [List.length_zip, ← h, Nat.min_self] at hi
  simp [hi, h ▸ hi]

/-- **A join lists the rows at positions of equal values**, in the order of two loops over the positions. -/
theorem nestedLoop_eq_map (hleft : leftValues.length = leftRows.length)
    (hright : rightValues.length = rightRows.length) :
    nestedLoop (leftValues.zip leftRows) (rightValues.zip rightRows) =
      (equalPositions leftValues rightValues).map (rowsAt leftRows rightRows) := by
  rw [nestedLoop, zip_eq_map_range hleft, zip_eq_map_range hright, List.flatMap_map, equalPositions,
    List.map_flatMap]
  refine List.flatMap_congr fun i hi => ?_
  show List.filterMap _ (List.map _ (List.range rightValues.length)) = _
  rw [List.filterMap_map, List.map_filterMap]
  refine List.filterMap_congr fun j hj => ?_
  rw [List.mem_range] at hi hj
  -- at positions of the lists, equal entries are equal values
  have hequal : leftValues[i]? = rightValues[j]? ↔ rightValues.getD j 0 = leftValues.getD i 0 := by
    simp [hi, hj, eq_comm]
  show (if rightValues.getD j 0 = leftValues.getD i 0 then some _ else none) = _
  by_cases h : leftValues[i]? = rightValues[j]?
  · rw [if_pos (hequal.1 h), if_pos h]
    rfl
  · rw [if_neg (mt hequal.2 h), if_neg h]
    rfl

/-- **Exchanging the sides of a join exchanges each of its pairs**, in another order. -/
theorem nestedLoop_swap (hleft : leftValues.length = leftRows.length)
    (hright : rightValues.length = rightRows.length) :
    (nestedLoop (rightValues.zip rightRows) (leftValues.zip leftRows)).Perm
      ((nestedLoop (leftValues.zip leftRows) (rightValues.zip rightRows)).map Prod.swap) := by
  rw [nestedLoop_eq_map hright hleft, nestedLoop_eq_map hleft hright, List.map_map]
  have hrows : Prod.swap ∘ rowsAt leftRows rightRows = rowsAt rightRows leftRows ∘ Prod.swap := rfl
  rw [hrows, ← List.map_map]
  exact (equalPositions_swap leftValues rightValues).map _

/-- **A column has the same values at the left rows, whichever side is given first**, in another order. -/
theorem exists_fetch_swap (hleft : leftValues.length = leftRows.length)
    (hright : rightValues.length = rightRows.length) {cells : List Int64}
    (hcells : ∀ i ∈ leftRows, i < cells.length) :
    let pairs := nestedLoop (leftValues.zip leftRows) (rightValues.zip rightRows)
    let exchanged := nestedLoop (rightValues.zip rightRows) (leftValues.zip leftRows)
    ∃ values values', fetch cells (pairs.map Prod.fst) = .ok values ∧
      fetch cells (exchanged.map Prod.snd) = .ok values' ∧ values.Perm values' := by
  have hrows := (nestedLoop_swap hleft hright).map Prod.snd
  rw [List.map_map] at hrows
  refine ⟨_, _, fetch_eq_ok fun i hi => hcells i ?_, fetch_eq_ok fun i hi => hcells i ?_, hrows.symm.map _⟩
  · obtain ⟨pair, hpair, rfl⟩ := List.mem_map.1 hi
    exact (mem_of_mem_nestedLoop hpair).1
  · obtain ⟨pair, hpair, rfl⟩ := List.mem_map.1 hi
    exact (mem_of_mem_nestedLoop hpair).2

/-! ## Counting pairs -/

/-- One left row is paired as often as the right side holds its key. -/
theorem length_partners (key : Int64) (l : Nat) (right : List (Int64 × Nat)) :
    (right.filterMap fun (k, r) => if k = key then some (l, r) else none).length =
      (right.map Prod.fst).count key := by
  induction right with
  | nil => rfl
  | cons kr right ih =>
    obtain ⟨k, r⟩ := kr
    by_cases h : k = key <;> simp [h, ih]

/-- **A join has as many pairs as the sides hold each key, multiplied and summed over all keys.** -/
theorem length_nestedLoop (hleft : leftValues.length = leftRows.length)
    (hright : rightValues.length = rightRows.length) :
    (nestedLoop (leftValues.zip leftRows) (rightValues.zip rightRows)).length =
      ∑ key ∈ leftValues.toFinset ∪ rightValues.toFinset, leftValues.count key * rightValues.count key := by
  have hfst : ∀ {values : List Int64} {rows : RowSet}, values.length = rows.length →
      (values.zip rows).map Prod.fst = values := fun h => List.map_fst_zip (Nat.le_of_eq h)
  calc (nestedLoop (leftValues.zip leftRows) (rightValues.zip rightRows)).length
      = (((leftValues.zip leftRows).map Prod.fst).map
          (((rightValues.zip rightRows).map Prod.fst).count ·)).sum := by
        rw [nestedLoop, List.length_flatMap, List.map_map]
        simp only [length_partners]
        rfl
    _ = (leftValues.map (rightValues.count ·)).sum := by
        rw [hfst hleft, hfst hright]
    _ = ∑ key ∈ leftValues.toFinset, leftValues.count key * rightValues.count key :=
        Finset.sum_list_map_count leftValues (rightValues.count ·)
    _ = ∑ key ∈ leftValues.toFinset ∪ rightValues.toFinset, leftValues.count key * rightValues.count key := by
        -- keys of the right side alone count nothing
        refine Finset.sum_subset Finset.subset_union_left fun key _ hkey => ?_
        rw [List.mem_toFinset] at hkey
        rw [List.count_eq_zero_of_not_mem hkey, Nat.zero_mul]

end Columnar.Query
