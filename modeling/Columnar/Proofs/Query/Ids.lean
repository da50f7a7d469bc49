import Columnar.Query.Join

/-!
# Where the row ids of a query come from

A select lists positions of its column, a refining select and a join list ids that they were given, and
a fetch succeeds on ids that are positions of its column. So ids never leave the table they started in.

* `Query.lt_length_of_mem_select`, `Query.mem_of_mem_refine`, `Query.mem_of_mem_nestedLoop`
* `Query.fetch_eq_ok` — what a fetch lists when every id is a position
-/

namespace Columnar.Query

variable {column : List Int64} {rows : RowSet} {values : List Int64} {p : Predicate} {i : Nat}

theorem lt_length_of_mem_select (h : i ∈ select column p) : i < column.length := by
  obtain ⟨v, hv, _⟩ := mem_select.1 h
  exact (List.getElem?_eq_some_iff.1 hv).1

theorem mem_of_mem_refine (h : i ∈ ((rows.zip values).filter fun (_, v) => p.holds v).map Prod.fst) :
    i ∈ rows := by
  obtain ⟨⟨r, v⟩, hm, rfl⟩ := List.mem_map.1 h
  exact (List.of_mem_zip (List.mem_filter.1 hm).1).1

/-- A fetch at positions of the column succeeds. -/
theorem fetch_eq_ok (h : ∀ i ∈ rows, i < column.length) :
    fetch column rows = .ok (rows.map fun i => column.getD i 0) := by
  rw [fetch_eq_ok_iff, List.map_map]
  refine List.map_congr_left fun i hi => ?_
  rw [Function.comp, List.getD_eq_getElem?_getD, List.getElem?_eq_getElem (h i hi), Option.getD_some]

theorem mem_of_mem_nestedLoop {leftValues rightValues : List Int64} {leftRows rightRows : RowSet}
    {pair : Nat × Nat} (h : pair ∈ nestedLoop (leftValues.zip leftRows) (rightValues.zip rightRows)) :
    pair.1 ∈ leftRows ∧ pair.2 ∈ rightRows := by
  obtain ⟨⟨k, l⟩, hl, h⟩ := List.mem_flatMap.1 h
  obtain ⟨⟨k', r⟩, hr, h⟩ := List.mem_filterMap.1 h
  by_cases hk : k' = k
  · obtain rfl : (l, r) = pair := by simpa [hk] using h
    exact ⟨(List.of_mem_zip hl).2, (List.of_mem_zip hr).2⟩
  · simp [hk] at h

end Columnar.Query
