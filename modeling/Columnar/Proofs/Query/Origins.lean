import Columnar.Query.Aggregate
import Columnar.Query.Join
import Mathlib.Data.List.Nodup
import Mathlib.Data.List.Perm.Basic
import Mathlib.Logic.Equiv.Defs

/-!
# Queries read off the origins of their entries

Every entry of a list that a query computes goes back to rows of tables: a selected entry to one row, an
entry of a join to the two entries that it pairs. If the lists that belong together are all read off one
list of origins, a query on them is a query on the origins, and the lists it computes are again read off
one list. So two runs that meet the same origins in different orders can be compared by the origins.

* `Query.select_perm` — a reordered column selects the same rows
* `Query.refine_map`, `Query.nestedLoop_map` — refining and joining, read off origins
* `Aggregate.of_perm` — an aggregate does not see the order of its values
-/

namespace Columnar

/-- Where an entry of a list comes from. -/
inductive Origin where
  /-- A row of a table. -/
  | row (i : Nat)
  /-- Two entries that a join paired. -/
  | pair (left right : Origin)
  deriving DecidableEq, Repr

namespace Origin

/-- The row of a selected entry. -/
def rowId : Origin → Nat
  | row i => i
  | pair _ _ => 0

/-- The left entry of a pair. -/
def left : Origin → Origin
  | row i => row i
  | pair l _ => l

/-- The right entry of a pair. -/
def right : Origin → Origin
  | row i => row i
  | pair _ r => r

/-- The pairs of origins with equal keys, in the order of two nested loops. -/
def join (leftKey rightKey : Origin → Int64) (ls rs : List Origin) : List Origin :=
  ls.flatMap fun l => rs.filterMap fun r => if rightKey r = leftKey l then some (pair l r) else none

/-- Joining in another order finds the same pairs. -/
theorem join_perm {ls ls' rs rs' : List Origin} (leftKey rightKey : Origin → Int64) (hl : ls.Perm ls')
    (hr : rs.Perm rs') : (join leftKey rightKey ls rs).Perm (join leftKey rightKey ls' rs') := by
  refine (hl.flatMap_right _).trans (List.Perm.flatMap_left ls' fun l _ => ?_)
  exact hr.filterMap _

theorem mem_of_mem_join {leftKey rightKey : Origin → Int64} {ls rs : List Origin} {o : Origin}
    (h : o ∈ join leftKey rightKey ls rs) : o.left ∈ ls ∧ o.right ∈ rs := by
  obtain ⟨l, hl, h⟩ := List.mem_flatMap.1 h
  obtain ⟨r, hr, h⟩ := List.mem_filterMap.1 h
  by_cases hkey : rightKey r = leftKey l
  · obtain rfl : pair l r = o := by simpa [hkey] using h
    exact ⟨hl, hr⟩
  · simp [hkey] at h

end Origin

namespace Query

/-! ## Selecting -/

theorem select_nodup (column : List Int64) (p : Predicate) : (select column p).Nodup := by
  have hsublist : (select column p).Sublist (column.zipIdx.map Prod.snd) := by
    rw [select_eq]
    exact List.filter_sublist.map Prod.snd
  rw [List.zipIdx_map_snd] at hsublist
  exact hsublist.nodup List.nodup_range'

/-- **A reordered column selects the same rows**, each under the id it has moved to. -/
theorem select_perm {column column' : List Int64} (p : Predicate) {π : Equiv.Perm Nat}
    (h : ∀ i, column'[i]? = column[π i]?) : (select column p).Perm ((select column' p).map π) := by
  -- neither side lists a row twice, so it is enough that they list the same rows
  refine (List.perm_ext_iff_of_nodup (select_nodup column p)
    ((select_nodup column' p).map π.injective)).2 fun i => ?_
  rw [List.mem_map]
  constructor
  · intro hi
    refine ⟨π.symm i, ?_, π.apply_symm_apply i⟩
    rw [mem_select] at hi ⊢
    simpa [h] using hi
  · rintro ⟨j, hj, rfl⟩
    rw [mem_select] at hj ⊢
    simpa [h] using hj

/-! ## Refining and joining -/

/-- Refining lists that are read off one list, such as one of origins, keeps the entries of matching values. -/
theorem refine_map {α : Type} (row : α → Nat) (value : α → Int64) (p : Predicate) (os : List α) :
    (((os.map row).zip (os.map value)).filter fun (_, v) => p.holds v).map Prod.fst =
      (os.filter fun o => p.holds (value o)).map row := by
  rw [List.zip_map', List.filter_map, List.map_map]
  rfl

/-- Joining lists that are read off origins joins the origins. -/
theorem nestedLoop_map (leftKey rightKey : Origin → Int64) (leftRow rightRow : Origin → Nat)
    (ls rs : List Origin) :
    nestedLoop ((ls.map leftKey).zip (ls.map leftRow)) ((rs.map rightKey).zip (rs.map rightRow)) =
      (Origin.join leftKey rightKey ls rs).map fun o => (leftRow o.left, rightRow o.right) := by
  rw [List.zip_map', List.zip_map', nestedLoop, Origin.join, List.flatMap_map, List.map_flatMap]
  congr 1
  funext l
  show List.filterMap _ (List.map _ rs) = _
  rw [List.filterMap_map, List.map_filterMap]
  congr 1
  funext r
  by_cases hkey : rightKey r = leftKey l <;> simp [hkey, Origin.left, Origin.right]

end Query

/-! ## Aggregating -/

theorem Query.sum_perm {values values' : List Int64} (h : values.Perm values') :
    Query.sum values = Query.sum values' := by
  have hfold := (h.map Int64.toInt).foldl_eq' (fun x _ y _ total => Int.add_right_comm total x y) 0
  rw [Query.sum, Query.sum, hfold, h.isEmpty_eq]

/-- **An aggregate does not see the order of its values.** -/
theorem Aggregate.of_perm (f : AggregateFunction) {values values' : List Int64} (h : values.Perm values') :
    Aggregate.of f values = Aggregate.of f values' := by
  cases f with
  | sum => rw [Aggregate.of, Aggregate.of, Query.sum_perm h]
  | avg => rw [Aggregate.of, Aggregate.of, Query.avg, Query.avg, Query.sum_perm h, h.length_eq]

end Columnar
