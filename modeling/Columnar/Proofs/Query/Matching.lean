import Columnar.Proofs.Query.Mean
import Columnar.Query.Select

/-!
# Ranges of one column, values of another one

A query over one table asks for the values of a column at the rows whose value in another column lies in
a range. It is answered by a select and a fetch; here it is told without row ids, by the two columns side
by side, and its sums and means are told without the cases of an aggregate.

* `Query.fetch_select` — **a select and a fetch list the values at the matching rows**
* `Aggregate.text_of` — the text of an aggregate
-/

namespace Columnar

namespace Query

/-- The values of a column at the rows whose value in another column satisfies a predicate, in the order of
the rows. -/
def matching (filter target : List Int64) (p : Predicate) : List Int64 :=
  ((filter.zip target).filter fun (v, _) => p.holds v).map Prod.snd

/-- Columns side by side are rows side by side with the row ids. -/
theorem map_getElem?_zipIdx {filter target : List Int64} (h : filter.length = target.length) :
    (filter.zipIdx.map fun (v, i) => (v, target[i]?)) = (filter.zip target).map fun (v, w) => (v, some w) := by
  refine List.ext_getElem? fun i => ?_
  by_cases hi : i < filter.length
  · have hi' : i < target.length := h ▸ hi
    simp [hi, hi']
  · simp [hi]

/-- **A select and a fetch list the values at the matching rows.** -/
theorem fetch_select {filter target : List Int64} (h : filter.length = target.length) (p : Predicate) :
    fetch target (select filter p) = .ok (matching filter target p) := by
  rw [fetch_eq_ok_iff, select_eq]
  calc ((filter.zipIdx.filter fun (v, _) => p.holds v).map Prod.snd).map (target[·]?)
      = ((filter.zipIdx.map fun (v, i) => (v, target[i]?)).filter fun (v, _) => p.holds v).map Prod.snd := by
        rw [List.filter_map, List.map_map, List.map_map]
        rfl
    _ = (((filter.zip target).map fun (v, w) => (v, some w)).filter fun (v, _) => p.holds v).map Prod.snd := by
        rw [map_getElem?_zipIdx h]
    _ = (matching filter target p).map some := by
        rw [List.filter_map, matching, List.map_map, List.map_map]
        rfl

end Query

/-- The text of the sum or the average of a list of values, which is `0` or `0.00` if it is empty. -/
def AggregateFunction.textOf (values : List Int64) : AggregateFunction → String
  | sum => toString (values.map Int64.toInt).sum
  | avg => if values = [] then "0.00" else averageText (values.map Int64.toInt).sum values.length

theorem Query.sum_getD (values : List Int64) : (Query.sum values).getD 0 = (values.map Int64.toInt).sum := by
  rw [Query.sum, ← List.sum_eq_foldl]
  cases values <;> rfl

theorem Text.ofList_intChars (z : Int) : String.ofList (Text.intChars z) = toString z := by
  cases z with
  | ofNat n => rfl
  | negSucc n =>
    show _ = "-" ++ toString (n + 1)
    rw [Text.intChars, String.ofList_cons, ← Decimal.toList_toString, String.ofList_toList]
    rfl

/-- The text of an aggregate. -/
theorem Aggregate.text_of (f : AggregateFunction) (values : List Int64) :
    (Aggregate.of f values).text = f.textOf values := by
  cases f with
  | sum =>
    rw [AggregateFunction.textOf, ← Query.sum_getD, ← Text.ofList_intChars]
    rfl
  | avg =>
    rw [AggregateFunction.textOf, ← Query.sum_getD]
    cases values with
    | nil => rfl
    | cons v values => exact Mean.text_eq _ (Nat.succ_pos _)

end Columnar
