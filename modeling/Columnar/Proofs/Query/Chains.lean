import Columnar.Proofs.Query.Ids
import Columnar.Proofs.Query.Origins
import Columnar.Proofs.Results

/-!
# Selects on selects

A select lists the rows of one condition. Each further condition is asked of these rows alone: its column
is fetched at them, and the select is refined by the values. What is left after any number of steps are
the rows that meet all conditions, so a chain of selects is a conjunction, whose order does not matter.

Every row set on the way is a part of `List.range n`, cut by a test. One step adds its test to the cut
(`refineBy_eq_filter`); the chain is then one cut by all tests (`chain_eq_filter`), and the rest is read off
that list.

* `Query.Condition.admits_iff` — a condition in terms of its bounds
* `Query.chain_eq_filter` — the rows of a chain
* `Query.exists_chain` — **a chain of selects is a conjunction**
-/

namespace Columnar.Query

/-- A column and the range that is asked of its values. -/
structure Condition where
  column : List Int64
  range : Predicate
  deriving DecidableEq, Repr

namespace Condition

/-- Whether a condition holds of a row. -/
def admits (c : Condition) (i : Nat) : Bool :=
  c.column[i]?.any c.range.holds

/-- Whether a row has a value that is neither below the low bound nor at or above the high one. -/
def IsMetBy (c : Condition) (i : Nat) : Prop :=
  ∃ v, c.column[i]? = some v ∧
    (∀ low, c.range.low = .value low → low ≤ v) ∧ ∀ high, c.range.high = .value high → v < high

variable {c : Condition} {i : Nat}

theorem admits_iff : c.admits i = true ↔ c.IsMetBy i := by
  simp only [admits, Option.any_eq_true, IsMetBy, Predicate.holds_iff]

theorem lt_length_of_admits (h : c.admits i = true) : i < c.column.length := by
  obtain ⟨v, hv, -⟩ := admits_iff.1 h
  exact (List.getElem?_eq_some_iff.1 hv).1

theorem admits_eq_holds (h : i < c.column.length) : c.admits i = c.range.holds (c.column.getD i 0) := by
  simp [admits, h]

end Condition

/-- Fetches a column at a row set, and keeps the rows whose values lie in the range. -/
def refineBy (rows : RowSet) (c : Condition) : Except QueryError RowSet := do
  selectWithin rows (← fetch c.column rows) c.range

/-- Selects by a first condition and refines by all others in turn. -/
def chain (first : Condition) (rest : List Condition) : Except QueryError RowSet :=
  rest.foldlM refineBy (select first.column first.range)

/-- Whether all conditions hold of a row. -/
def admitsAll (cs : List Condition) (i : Nat) : Bool :=
  cs.all (·.admits i)

variable {n : Nat} {rows : RowSet} {first : Condition} {rest cs : List Condition} {column : List Int64}

/-! ## One step -/

theorem zipIdx_eq_map_range (column : List Int64) :
    column.zipIdx = (List.range column.length).map fun i => (column.getD i 0, i) := by
  refine List.ext_getElem (by simp) fun i hi _ => ?_
  rw [List.length_zipIdx] at hi
  simp [hi]

/-- A select cuts the rows of its column. -/
theorem select_eq_filter (c : Condition) :
    select c.column c.range = (List.range c.column.length).filter c.admits := by
  rw [select_eq, zipIdx_eq_map_range, List.filter_map, List.map_map]
  show List.map id _ = _
  rw [List.map_id]
  refine List.filter_congr fun i hi => ?_
  exact (Condition.admits_eq_holds (List.mem_range.1 hi)).symm

/-- **One step never fails on rows of its column, and cuts them by its condition.** -/
theorem refineBy_eq_filter {c : Condition} (h : ∀ i ∈ rows, i < c.column.length) :
    refineBy rows c = .ok (rows.filter c.admits) := by
  have hlength : rows.length = (rows.map fun i => c.column.getD i 0).length := (List.length_map _).symm
  -- each value stands beside its row, so a row is kept by its own value
  have hkept := refine_map id (fun i => c.column.getD i 0) c.range rows
  rw [List.map_id, List.map_id] at hkept
  rw [refineBy, fetch_eq_ok h, Except.ok_bind, selectWithin_eq_ok c.range hlength, hkept]
  exact congrArg _ (List.filter_congr fun i hi => (Condition.admits_eq_holds (h i hi)).symm)

/-! ## All steps -/

/-- A cut by one condition and then by others is a cut by all of them. -/
theorem filter_admitsAll (c : Condition) (cs : List Condition) (rows : RowSet) :
    (rows.filter c.admits).filter (admitsAll cs) = rows.filter (admitsAll (c :: cs)) := by
  rw [List.filter_filter]
  exact List.filter_congr fun i _ => Bool.and_comm ..

/-- Further steps add their conditions to the cut. -/
theorem foldlM_refineBy (hcs : ∀ c ∈ cs, c.column.length = n) (hrows : ∀ i ∈ rows, i < n) :
    cs.foldlM refineBy rows = .ok (rows.filter (admitsAll cs)) := by
  induction cs generalizing rows with
  | nil => exact congrArg Except.ok (List.filter_true rows).symm
  | cons c cs ih =>
    have hc : c.column.length = n := hcs c (by simp)
    have hkept : ∀ i ∈ rows.filter c.admits, i < n := fun i hi => hrows i (List.mem_filter.1 hi).1
    rw [List.foldlM_cons, refineBy_eq_filter (hc ▸ hrows), Except.ok_bind,
      ih (fun d hd => hcs d (List.mem_cons_of_mem c hd)) hkept, filter_admitsAll]

/-- **A chain of selects never fails, and lists the rows of all its conditions.** -/
theorem chain_eq_filter (h : ∀ c ∈ first :: rest, c.column.length = n) :
    chain first rest = .ok ((List.range n).filter (admitsAll (first :: rest))) := by
  obtain ⟨hfirst, hrest⟩ := List.forall_mem_cons.1 h
  have hrows : ∀ i ∈ select first.column first.range, i < n := fun i hi =>
    hfirst ▸ lt_length_of_mem_select hi
  rw [chain, foldlM_refineBy hrest hrows, select_eq_filter, hfirst, filter_admitsAll]

theorem admitsAll_perm {cs cs' : List Condition} (h : cs.Perm cs') : admitsAll cs = admitsAll cs' := by
  funext i
  exact h.all_eq

/-- A column at some of its rows, ascending, is the column cut to these rows. -/
theorem fetch_filter_range (test : Nat → Bool) :
    fetch column ((List.range column.length).filter test) =
      .ok ((column.zipIdx.filter fun (_, i) => test i).map Prod.fst) := by
  rw [fetch_eq_ok fun i hi => List.mem_range.1 (List.mem_filter.1 hi).1, zipIdx_eq_map_range, List.filter_map,
    List.map_map]
  rfl

/-- **A chain of selects is a conjunction.** On columns of one length it never fails. It lists each row that
meets every condition once, in ascending order, and so does the chain of the same conditions in any other
order. A column of that length, fetched at these rows, is the column cut to them. -/
theorem exists_chain (h : ∀ c ∈ first :: rest, c.column.length = n) :
    ∃ rows, chain first rest = .ok rows ∧ rows.Pairwise (· < ·) ∧
      (∀ i, i ∈ rows ↔ ∀ c ∈ first :: rest, c.IsMetBy i) ∧
      (∀ first' rest', (first' :: rest').Perm (first :: rest) → chain first' rest' = .ok rows) ∧
      ∀ column : List Int64, column.length = n →
        fetch column rows = .ok ((column.zipIdx.filter fun (_, i) => i ∈ rows).map Prod.fst) := by
  have hmem : ∀ i, i ∈ (List.range n).filter (admitsAll (first :: rest)) ↔
      admitsAll (first :: rest) i = true := by
    intro i
    refine ⟨fun hi => (List.mem_filter.1 hi).2, fun hi => List.mem_filter.2 ⟨List.mem_range.2 ?_, hi⟩⟩
    have hfirst : first.admits i = true := List.all_eq_true.1 hi first (by simp)
    exact h first (by simp) ▸ Condition.lt_length_of_admits hfirst
  refine ⟨_, chain_eq_filter h, List.pairwise_lt_range.filter _, fun i => ?_, fun first' rest' hperm => ?_,
    fun column hcolumn => ?_⟩
  · rw [hmem, admitsAll, List.all_eq_true]
    exact forall₂_congr fun c _ => Condition.admits_iff
  · rw [chain_eq_filter fun c hc => h c (hperm.mem_iff.1 hc), admitsAll_perm hperm]
  · subst hcolumn
    rw [fetch_filter_range]
    simp only [hmem, Bool.decide_eq_true]

/-- A condition without an upper bound. -/
def highEnough : Condition := ⟨[5, -3, 8, 5, 9], ⟨.value 5, .unbounded⟩⟩

/-- A condition without a lower bound. -/
def lowEnough : Condition := ⟨[1, 1, 0, 2, 3], .below 3⟩

/-- A condition that every row meets. -/
def unconditional : Condition := ⟨[7, 7, 7, 7, 7], ⟨.unbounded, .unbounded⟩⟩

/-- A chain of three conditions, and the same chain from its last condition on. -/
theorem exists_chain_threeConditions :
    chain highEnough [lowEnough, unconditional] = .ok [0, 2, 3] ∧
      chain unconditional [lowEnough, highEnough] = .ok [0, 2, 3] ∧
      fetch [10, 11, 12, 13, 14] [0, 2, 3] = .ok [10, 12, 13] := by
  have hlength : ∀ c ∈ highEnough :: [lowEnough, unconditional], c.column.length = 5 := by decide
  obtain ⟨rows, hchain, -, -, horder, hfetch⟩ := exists_chain hlength
  obtain rfl : [0, 2, 3] = rows := Except.ok.inj ((by decide : _ = _).trans hchain)
  exact ⟨hchain, horder _ _ (by decide), hfetch _ rfl⟩

end Columnar.Query
