import Columnar.Proofs.Catalog
import Columnar.Proofs.Query.Positions
import Columnar.Proofs.Run.Steps

/-!
# Join operations and their sides

A join operation joins what its handles are bound to, whatever kind of join it asks for: it stops the
script if a side lacks a value for some row, and else it binds two row sets of one length, which side by
side are the pairs of two loops over the positions. Which side is given first matters for the order of
the pairs only. So nothing that is aggregated through a side of a join tells which one it was.

* `Run.step_join_of_isBound` — a join operation is a join of what its handles are bound to
* `Run.join_outcomes` — **what a join results in, for all inputs**
* `Run.join_exchange` — **a join and the join with its sides exchanged**
-/

namespace Columnar

/-- Whether the handles of one side of a join are bound to given values and rows. -/
structure JoinInput.IsBound (input : JoinInput) (env : Environment) (values : List Int64)
    (rows : Query.RowSet) : Prop where
  values_eq : env.lookup? input.values = some (.values values)
  rows_eq : env.lookup? input.rows = some (.rows rows)

namespace Run

open Query (RowSet equalPositions nestedLoop rowsAt)

variable {catalog : Catalog} {env : Environment} {left right : JoinInput}
  {leftValues rightValues : List Int64} {leftRows rightRows : RowSet}

/-! ## One join operation -/

/-- **A join operation is a join of what its handles are bound to**, whatever kind of join it asks for. -/
theorem step_join_of_isBound (hleft : left.IsBound env leftValues leftRows)
    (hright : right.IsBound env rightValues rightRows) (leftOut rightOut : Handle) (kind : JoinKind) :
    step catalog env (.join leftOut rightOut left right kind) =
      (query (Query.join leftValues leftRows rightValues rightRows)).map fun pairs =>
        ((env.bind leftOut (.rows (pairs.map Prod.fst))).bind rightOut (.rows (pairs.map Prod.snd)), none) := by
  rw [step, joined, Environment.values_eq_ok hleft.values_eq, Environment.rows_eq_ok hleft.rows_eq,
    Environment.values_eq_ok hright.values_eq, Environment.rows_eq_ok hright.rows_eq]
  simp only [Except.ok_bind]
  cases query (Query.join leftValues leftRows rightValues rightRows) <;> rfl

/-- **What a join results in.** A side without a value for each row is refused, the left one first. Else
the result is the rows at all positions of equal values, by two loops over the positions; a join operation
of any kind binds them as two row sets of one length. -/
theorem join_outcomes (leftValues rightValues : List Int64) (leftRows rightRows : RowSet) :
    Query.join leftValues leftRows rightValues rightRows =
      (if leftValues.length ≠ leftRows.length then
        .error (.lengthMismatch .joinLeft leftValues.length leftRows.length)
      else if rightValues.length ≠ rightRows.length then
        .error (.lengthMismatch .joinRight rightValues.length rightRows.length)
      else
        .ok ((equalPositions leftValues rightValues).map fun p => (leftRows.getD p.1 0, rightRows.getD p.2 0))) ∧
    ∀ (catalog : Catalog) (env : Environment) (left right : JoinInput) (leftOut rightOut : Handle)
      (kind : JoinKind), left.IsBound env leftValues leftRows → right.IsBound env rightValues rightRows →
      (∀ cause, Query.join leftValues leftRows rightValues rightRows = .error cause →
        step catalog env (.join leftOut rightOut left right kind) = .error (.query cause)) ∧
      ∀ pairs, Query.join leftValues leftRows rightValues rightRows = .ok pairs →
        ∃ leftSet rightSet : RowSet,
          leftSet.length = rightSet.length ∧ leftSet.zip rightSet = pairs ∧
          step catalog env (.join leftOut rightOut left right kind) =
            .ok ((env.bind leftOut (.rows leftSet)).bind rightOut (.rows rightSet), none) := by
  constructor
  · by_cases hleft : leftValues.length = leftRows.length
    · by_cases hright : rightValues.length = rightRows.length
      · rw [if_neg (not_not_intro hleft), if_neg (not_not_intro hright), Query.join_eq_ok hleft hright,
          Query.nestedLoop_eq_map hleft hright]
        rfl
      · rw [Query.join, if_neg (not_not_intro hleft), if_pos hright, if_neg (not_not_intro hleft), if_pos hright]
    · rw [Query.join, if_pos hleft, if_pos hleft]
  · intro catalog env left right leftOut rightOut kind hleft hright
    rw [step_join_of_isBound hleft hright]
    constructor
    · intro cause hjoin
      rw [hjoin]
      rfl
    · intro pairs hjoin
      refine ⟨pairs.map Prod.fst, pairs.map Prod.snd, by simp, ?_, by rw [hjoin]; rfl⟩
      rw [List.zip_map', List.map_id']

/-- Two sides of a join, of which the first one repeats a key. -/
def keyedSides : Environment :=
  (((Environment.empty.bind "f1" (.values [1, 2, 1])).bind "p1" (.rows [0, 1, 2])).bind
    "f2" (.values [2, 1])).bind "p2" (.rows [0, 1])

/-- The pairs of two sides of which one repeats a key. -/
theorem join_outcomes_keyedSides :
    ∃ leftSet rightSet : RowSet,
      leftSet.length = rightSet.length ∧ leftSet.zip rightSet = [(0, 1), (1, 0), (2, 1)] ∧
      step .sample keyedSides (.join "t1" "t2" ⟨"f1", "p1"⟩ ⟨"f2", "p2"⟩ .graceHash) =
        .ok ((keyedSides.bind "t1" (.rows leftSet)).bind "t2" (.rows rightSet), none) := by
  obtain ⟨hjoin, hstep⟩ := join_outcomes [1, 2, 1] [2, 1] [0, 1, 2] [0, 1]
  exact (hstep .sample keyedSides ⟨"f1", "p1"⟩ ⟨"f2", "p2"⟩ "t1" "t2" .graceHash ⟨rfl, rfl⟩ ⟨rfl, rfl⟩).2 _
    (hjoin.trans (by decide))

/-! ## Exchanged sides -/

/-- Fetches a column at one side of a join and prints an aggregate of it. -/
def throughJoin (join : Op) (side : Handle) (column : ColumnRef) (f : AggregateFunction)
    (fetched result : Handle) : Script :=
  [join, .fetch fetched column side, .aggregate f result fetched, .print [result]]

theorem runFrom_throughJoin {join : Op} {env₁ : Environment} {rows : RowSet} {column : ColumnRef}
    {cells values : List Int64} (hjoin : step catalog env join = .ok (env₁, none)) (side : Handle)
    (hside : env₁.lookup? side = some (.rows rows)) (hcolumn : catalog.resolve column = .ok cells)
    (hfetch : Query.fetch cells rows = .ok values) (f : AggregateFunction) (fetched result : Handle) :
    ∃ env₂, runFrom catalog env (throughJoin join side column f fetched result) =
      .ok (env₂, [.scalars [.of f values]]) := by
  have hvalues : (env₁.bind fetched (.values values)).lookup? fetched = some (.values values) := by simp
  have hprinted : printed ((env₁.bind fetched (.values values)).bind result (.scalar (.of f values))) [result] =
      .ok (.scalars [.of f values]) := by
    rw [printed_scalars (by simp)]
    simp [scalar?]
  exact ⟨_, runFrom_cons hjoin (runFrom_cons (step_fetch hcolumn hside hfetch fetched)
    (runFrom_cons (step_aggregate hvalues f result) (runFrom_cons (step_print hprinted) rfl)))⟩

/-- **A join and the join with its sides exchanged.** They have as many pairs as the sides hold each key,
multiplied and summed over all keys; each pair of the one is an exchanged pair of the other, as often. So
the values of a column at the left rows have one sum and one mean, and whatever kinds of joins are asked
for, a script prints the same aggregate of them. -/
theorem join_exchange (leftValues rightValues : List Int64) (leftRows rightRows : RowSet)
    (hleft : leftValues.length = leftRows.length) (hright : rightValues.length = rightRows.length) :
    ∃ pairs exchanged,
      Query.join leftValues leftRows rightValues rightRows = .ok pairs ∧
      Query.join rightValues rightRows leftValues leftRows = .ok exchanged ∧
      pairs.length = ∑ key ∈ leftValues.toFinset ∪ rightValues.toFinset,
        leftValues.count key * rightValues.count key ∧
      exchanged.Perm (pairs.map Prod.swap) ∧
      ∀ cells : List Int64, (∀ i ∈ leftRows, i < cells.length) →
        (∃ values values', Query.fetch cells (pairs.map Prod.fst) = .ok values ∧
          Query.fetch cells (exchanged.map Prod.snd) = .ok values' ∧
          Query.sum values = Query.sum values' ∧ Query.avg values = Query.avg values') ∧
        ∀ (catalog : Catalog) (env : Environment) (left right : JoinInput) (column : ColumnRef),
          left.IsBound env leftValues leftRows → right.IsBound env rightValues rightRows →
          catalog.resolve column = .ok cells →
          ∀ (side other fetched result : Handle) (f : AggregateFunction) (kind kind' : JoinKind), side ≠ other →
            ∃ env₁ env₂ value,
              runFrom catalog env (throughJoin (.join side other left right kind) side column f fetched result) =
                .ok (env₁, [.scalars [value]]) ∧
              runFrom catalog env (throughJoin (.join other side right left kind') side column f fetched result) =
                .ok (env₂, [.scalars [value]]) := by
  refine ⟨_, _, Query.join_eq_ok hleft hright, Query.join_eq_ok hright hleft,
    Query.length_nestedLoop hleft hright, Query.nestedLoop_swap hleft hright, fun cells hcells => ?_⟩
  obtain ⟨values, values', hfetch, hfetch', hperm⟩ := Query.exists_fetch_swap hleft hright hcells
  refine ⟨⟨values, values', hfetch, hfetch', Query.sum_perm hperm, ?_⟩, ?_⟩
  · rw [Query.avg, Query.avg, Query.sum_perm hperm, hperm.length_eq]
  · intro catalog env left right column hl hr hcolumn side other fetched result f kind kind' hne
    obtain ⟨env₁, hrun⟩ := runFrom_throughJoin (step_join hl.values_eq hl.rows_eq hr.values_eq hr.rows_eq
      hleft hright side other kind) side (by simp [hne]) hcolumn hfetch f fetched result
    obtain ⟨env₂, hrun'⟩ := runFrom_throughJoin (step_join hr.values_eq hr.rows_eq hl.values_eq hl.rows_eq
      hright hleft other side kind') side (by simp) hcolumn hfetch' f fetched result
    refine ⟨env₁, env₂, .of f values, hrun, ?_⟩
    rw [Aggregate.of_perm f hperm]
    exact hrun'

/-- The sum of a column through a join of two tables that share their keys, and through the exchanged one. -/
theorem join_exchange_sample :
    ∃ env₁ env₂ value,
      runFrom .sample keyedSides
        (throughJoin (.join "t1" "t2" ⟨"f1", "p1"⟩ ⟨"f2", "p2"⟩ .nestedLoop) "t1" ⟨"db", "fact", "amount"⟩ .sum
          "f" "a") = .ok (env₁, [.scalars [value]]) ∧
      runFrom .sample keyedSides
        (throughJoin (.join "t2" "t1" ⟨"f2", "p2"⟩ ⟨"f1", "p1"⟩ .graceHash) "t1" ⟨"db", "fact", "amount"⟩ .sum
          "f" "a") = .ok (env₂, [.scalars [value]]) := by
  obtain ⟨pairs, exchanged, -, -, -, -, hcells⟩ := join_exchange [1, 2, 1] [2, 1] [0, 1, 2] [0, 1] rfl rfl
  exact (hcells [10, 20, 30] (by decide)).2 .sample keyedSides ⟨"f1", "p1"⟩ ⟨"f2", "p2"⟩ ⟨"db", "fact", "amount"⟩
    ⟨rfl, rfl⟩ ⟨rfl, rfl⟩ rfl "t1" "t2" "f" "a" .sum .nestedLoop .graceHash (by decide)

end Run

end Columnar
