import Columnar.Proofs.Query.Ids
import Columnar.Proofs.Query.Matching
import Columnar.Proofs.Query.Origins
import Mathlib.Algebra.BigOperators.Group.Finset.Basic
import Mathlib.Data.Finset.Prod
import Mathlib.Data.List.ProdSigma

/-!
# Joins as filtered products

A query over two tables has a plain meaning: of all pairs of a row of the one and a row of the other, it
takes those that satisfy its conditions, each of them once, and aggregates a column over these. Here this
meaning is stated without selects, fetches and row sets, and a join of two selects is shown to list
exactly the pairs that it takes.

* `Query.nestedLoop_eq_filter` — a join is a filtered product
* `Query.toFinset_joinedPairs`, `Query.nodup_joinedPairs` — **a join of two selects lists the pairs of a product**
* `Query.text_of_joinedPairs` — an aggregate through a join is one over a finite set of pairs
-/

namespace Columnar

namespace Query

/-! ## Pairs of rows -/

/-- The columns of one table that a query over two tables looks at: a row takes part if its filter value
is below the bound, and goes with the rows of the other table that have its key. -/
structure Factor where
  filter : List Int64
  bound : Int64
  key : List Int64

/-- The pairs of rows of two tables that satisfy the conditions of a query. -/
def productPairs (l r : Factor) : Finset (Nat × Nat) :=
  (Finset.range l.filter.length ×ˢ Finset.range r.filter.length).filter fun p =>
    l.filter.getD p.1 0 < l.bound ∧ r.filter.getD p.2 0 < r.bound ∧ l.key.getD p.1 0 = r.key.getD p.2 0

/-- The rows of one table that take part. -/
def Factor.rows (f : Factor) : RowSet :=
  select f.filter (.below f.bound)

/-- The pairs of rows that a join of the selected rows lists. -/
def joinedPairs (l r : Factor) : List (Nat × Nat) :=
  nestedLoop ((l.rows.map fun i => l.key.getD i 0).zip l.rows) ((r.rows.map fun j => r.key.getD j 0).zip r.rows)

variable {l r : Factor} {i j : Nat}

/-- **A join is a filtered product.** -/
theorem nestedLoop_eq_filter (leftKey rightKey : Nat → Int64) (leftRows rightRows : RowSet) :
    nestedLoop ((leftRows.map leftKey).zip leftRows) ((rightRows.map rightKey).zip rightRows) =
      (leftRows.product rightRows).filter fun p => rightKey p.2 = leftKey p.1 := by
  have hkeyed : ∀ (key : Nat → Int64) (rows : RowSet),
      (rows.map key).zip rows = rows.map fun i => (key i, i) := by
    intro key rows
    conv_lhs => rw [← List.map_id rows, List.map_map]
    exact List.zip_map'
  rw [hkeyed, hkeyed, nestedLoop, List.flatMap_map]
  show _ = List.filter _ (leftRows.flatMap fun i => rightRows.map fun j => (i, j))
  rw [List.filter_flatMap]
  congr 1
  funext i
  show List.filterMap _ (List.map _ rightRows) = _
  -- one left row meets the right rows one by one
  induction rightRows with
  | nil => rfl
  | cons j rows ih =>
    by_cases hkey : rightKey j = leftKey i <;> simp_all

theorem mem_rows : i ∈ l.rows ↔ i < l.filter.length ∧ l.filter.getD i 0 < l.bound := by
  rw [Factor.rows, mem_select]
  constructor
  · rintro ⟨v, hv, hp⟩
    obtain ⟨hi, rfl⟩ := List.getElem?_eq_some_iff.1 hv
    exact ⟨hi, by simpa [List.getD_eq_getElem?_getD, hi] using hp⟩
  · rintro ⟨hi, hp⟩
    exact ⟨l.filter[i], List.getElem?_eq_getElem hi, by simpa [List.getD_eq_getElem?_getD, hi] using hp⟩

/-- No pair is listed twice. -/
theorem nodup_joinedPairs (l r : Factor) : (joinedPairs l r).Nodup := by
  rw [joinedPairs, nestedLoop_eq_filter]
  exact ((select_nodup _ _).product (select_nodup _ _)).filter _

/-- **A join of two selects lists the pairs of a product that satisfy the conditions.** -/
theorem toFinset_joinedPairs (l r : Factor) : (joinedPairs l r).toFinset = productPairs l r := by
  ext ⟨i, j⟩
  rw [joinedPairs, nestedLoop_eq_filter, List.mem_toFinset, List.mem_filter, List.pair_mem_product, mem_rows,
    mem_rows, productPairs, Finset.mem_filter, Finset.mem_product, Finset.mem_range, Finset.mem_range,
    decide_eq_true_iff]
  constructor
  · rintro ⟨⟨⟨hi, hleft⟩, hj, hright⟩, hkey⟩
    exact ⟨⟨hi, hj⟩, hleft, hright, hkey.symm⟩
  · rintro ⟨⟨hi, hj⟩, hleft, hright, hkey⟩
    exact ⟨⟨⟨hi, hleft⟩, hj, hright⟩, hkey.symm⟩

end Query

/-! ## Aggregates over finite sets -/

namespace AggregateFunction

/-- The text of the sum or the average of values over a finite set, which is `0` or `0.00` if it is empty. -/
def textOver (pairs : Finset (Nat × Nat)) (value : Nat × Nat → Int64) : AggregateFunction → String
  | sum => toString (∑ p ∈ pairs, (value p).toInt)
  | avg => if pairs = ∅ then "0.00" else averageText (∑ p ∈ pairs, (value p).toInt) pairs.card

end AggregateFunction

/-- An aggregate over a list without repetitions is one over the set of its elements. -/
theorem Aggregate.text_of_map (f : AggregateFunction) {pairs : List (Nat × Nat)} (hnodup : pairs.Nodup)
    (value : Nat × Nat → Int64) : (Aggregate.of f (pairs.map value)).text = f.textOver pairs.toFinset value := by
  have hsum : ((pairs.map value).map Int64.toInt).sum = ∑ p ∈ pairs.toFinset, (value p).toInt := by
    rw [List.sum_toFinset _ hnodup, List.map_map]
    rfl
  rw [Aggregate.text_of]
  cases f with
  | sum => rw [AggregateFunction.textOf, AggregateFunction.textOver, hsum]
  | avg =>
    rw [AggregateFunction.textOf, AggregateFunction.textOver, hsum, List.length_map,
      List.toFinset_card_of_nodup hnodup]
    simp only [List.map_eq_nil_iff, List.toFinset_eq_empty_iff]

/-- **An aggregate through a join is one over the pairs that satisfy the conditions.** -/
theorem Query.text_of_joinedPairs (f : AggregateFunction) (l r : Factor) (value : Nat × Nat → Int64) :
    (Aggregate.of f ((joinedPairs l r).map value)).text = f.textOver (productPairs l r) value := by
  rw [Aggregate.text_of_map f (nodup_joinedPairs l r), toFinset_joinedPairs]

end Columnar
