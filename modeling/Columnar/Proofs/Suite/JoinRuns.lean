import Columnar.Proofs.Catalog
import Columnar.Proofs.Query.Product
import Columnar.Proofs.Run.Steps
import Columnar.Proofs.Suite.Lookups

/-!
# A query over two tables and its script

A query over two tables names them, a bound for a column of each, the columns whose values have to be
equal, and two aggregates. It has a text in SQL, and an answer that is read off the product of the two
tables (`ProductQuery.answer`). Its script gets there by two selects, two fetches of keys, a join, two
fetches through the join, and two aggregates (`ProductQuery.plan`).

* `ProductQuery.run_script` — **the script of a query prints its answer**
-/

namespace Columnar

open JoinQueries (JoinQuery)

/-! ## Queries -/

/-- One of the two tables of a query. -/
inductive ProductSide where
  | left
  | right
  deriving DecidableEq, Repr

/-- The place of a table's row in a pair of rows. -/
def ProductSide.row : ProductSide → Nat × Nat → Nat
  | left => Prod.fst
  | right => Prod.snd

/-- A table of a query, of which the rows below a bound in one column take part, with their key in
another one. -/
structure BoundedTable where
  table : String
  filter : String
  bound : Int64
  key : String
  deriving DecidableEq, Repr

/-- An aggregate of a column of one of the tables of a query. -/
structure SelectItem where
  function : AggregateFunction
  side : ProductSide
  column : String
  deriving DecidableEq, Repr

/-- A query for two aggregates over two tables; `between` stands between the names of the tables. -/
structure ProductQuery where
  left : BoundedTable
  right : BoundedTable
  between : String
  first : SelectItem
  second : SelectItem
  deriving DecidableEq, Repr

/-- The condition that a row of a table takes part. -/
def BoundedTable.condition (t : BoundedTable) : String :=
  t.table ++ "." ++ t.filter ++ " < " ++ Predicate.valueText t.bound

/-- The columns of a table that a query looks at. -/
def BoundedTable.factor (t : BoundedTable) (catalog : Catalog) : Except DataError Query.Factor := do
  let filter ← catalog.resolve (generatedColumn t.table t.filter)
  let key ← catalog.resolve (generatedColumn t.table t.key)
  return ⟨filter, t.bound, key⟩

namespace ProductQuery

/-- The table of a side. -/
def table (q : ProductQuery) : ProductSide → BoundedTable
  | .left => q.left
  | .right => q.right

/-- An aggregate as the query names it. -/
def itemText (q : ProductQuery) (item : SelectItem) : String :=
  item.function.text ++ "(" ++ (q.table item.side).table ++ "." ++ item.column ++ ")"

/-- The query in SQL. -/
def text (q : ProductQuery) : String :=
  "SELECT " ++ (q.itemText q.first ++ ", " ++ q.itemText q.second) ++
    " FROM " ++ (q.left.table ++ q.between ++ q.right.table) ++
    " WHERE " ++ (q.left.table ++ "." ++ q.left.key ++ "=" ++ q.right.table ++ "." ++ q.right.key) ++
    " AND " ++ q.left.condition ++ " AND " ++ q.right.condition ++ ";"

/-- The text of an aggregate over the pairs of rows that satisfy the conditions. -/
def itemAnswer (q : ProductQuery) (catalog : Catalog) (pairs : Finset (Nat × Nat)) (item : SelectItem) :
    Except DataError String := do
  let values ← catalog.resolve (generatedColumn (q.table item.side).table item.column)
  return item.function.textOver pairs fun p => values.getD (item.side.row p) 0

/-- **What the query asks for**: both aggregates over all pairs of a row of the left table below its bound
and a row of the right table below its bound with equal keys, on one line. -/
def answer (q : ProductQuery) (catalog : Catalog) : Except DataError String := do
  let l ← q.left.factor catalog
  let r ← q.right.factor catalog
  let x ← q.itemAnswer catalog (Query.productPairs l r) q.first
  let y ← q.itemAnswer catalog (Query.productPairs l r) q.second
  return x ++ "," ++ y ++ "\n"

/-- The columns that a query looks at. -/
def references (q : ProductQuery) : List ColumnRef :=
  [generatedColumn q.left.table q.left.filter, generatedColumn q.left.table q.left.key,
    generatedColumn q.right.table q.right.filter, generatedColumn q.right.table q.right.key,
    generatedColumn (q.table q.first.side).table q.first.column,
    generatedColumn (q.table q.second.side).table q.second.column]

/-- A query has an answer over every catalog that holds its columns. -/
theorem exists_answer {q : ProductQuery} {catalog : Catalog}
    (h : ∀ r ∈ q.references, ∃ values, catalog.resolve r = .ok values) :
    ∃ text, q.answer catalog = .ok text := by
  simp only [references, List.forall_mem_cons] at h
  obtain ⟨⟨leftFilter, hleftFilter⟩, ⟨leftKey, hleftKey⟩, ⟨rightFilter, hrightFilter⟩, ⟨rightKey, hrightKey⟩,
    ⟨first, hfirst⟩, ⟨second, hsecond⟩, -⟩ := h
  rw [answer, BoundedTable.factor, BoundedTable.factor, hleftFilter, hleftKey, hrightFilter, hrightKey]
  simp only [itemAnswer, hfirst, hsecond]
  exact ⟨_, rfl⟩

/-! ## Scripts -/

/-- The handle of the rows of a table that the join pairs. -/
def rowsHandle : ProductSide → Handle
  | .left => "t1"
  | .right => "t2"

/-- The join of a query, with handles for the values of its two aggregates. -/
def plan (q : ProductQuery) (firstHandle secondHandle : Handle) : JoinQuery where
  selects := q.itemText q.first ++ ", " ++ q.itemText q.second
  sources := q.left.table ++ q.between ++ q.right.table
  condition := q.left.table ++ "." ++ q.left.key ++ "=" ++ q.right.table ++ "." ++ q.right.key
  left := ⟨q.left.table, q.left.filter, q.left.key, .below q.left.bound⟩
  right := ⟨q.right.table, q.right.filter, q.right.key, .below q.right.bound⟩
  first := ⟨firstHandle, (q.table q.first.side).table, q.first.column, rowsHandle q.first.side, q.first.function⟩
  second :=
    ⟨secondHandle, (q.table q.second.side).table, q.second.column, rowsHandle q.second.side, q.second.function⟩

/-- The heading of a query's script tells the query. -/
theorem text_mem_heading (q : ProductQuery) (firstHandle secondHandle : Handle) (intro : String) :
    .comment q.text ∈ (q.plan firstHandle secondHandle).heading intro := by
  refine List.mem_map.2 ⟨q.text, ?_, rfl⟩
  exact List.mem_cons_of_mem _ (List.mem_cons_of_mem _ (List.mem_cons_of_mem _ (List.mem_cons_self ..)))

/-- The operations that select and join the tables of a query. -/
def joinOps (q : ProductQuery) (firstHandle secondHandle : Handle) (kind : JoinKind) : Script :=
  (q.plan firstHandle secondHandle).joinOps (generatedColumn q.left.table) (generatedColumn q.right.table) kind

/-- The operations that print the aggregates of a query. -/
def measureOps (q : ProductQuery) (firstHandle secondHandle : Handle) : Script :=
  (q.plan firstHandle secondHandle).measureOps (generatedColumn (q.table q.first.side).table)
    (generatedColumn (q.table q.second.side).table)

variable {catalog : Catalog} {env : Environment} {q : ProductQuery} {l r : Query.Factor}

/-! ## Selecting and joining -/

theorem factor_eq_ok {t : BoundedTable} {f : Query.Factor} (h : t.factor catalog = .ok f) :
    catalog.resolve (generatedColumn t.table t.filter) = .ok f.filter ∧
      catalog.resolve (generatedColumn t.table t.key) = .ok f.key ∧ f.bound = t.bound := by
  obtain ⟨filter, hfilter, h⟩ := Except.bind_eq_ok_iff.1 h
  obtain ⟨key, hkey, h⟩ := Except.bind_eq_ok_iff.1 h
  obtain rfl := Except.ok.inj h
  exact ⟨hfilter, hkey, rfl⟩

/-- A select of a table lists the rows that take part. -/
theorem step_selectTable {t : BoundedTable} {f : Query.Factor} (h : t.factor catalog = .ok f) (out : Handle) :
    Run.step catalog env (.select out (.column (generatedColumn t.table t.filter)) (.below t.bound)) =
      .ok (env.bind out (.rows f.rows), none) := by
  obtain ⟨hfilter, -, hbound⟩ := factor_eq_ok h
  rw [Run.step_select_column hfilter, Query.Factor.rows, hbound]

/-- A fetch of a column of a table at rows that take part. -/
theorem step_fetchTable {t : BoundedTable} {f : Query.Factor} (h : t.factor catalog = .ok f) {name : String}
    {values : List Int64} (hvalues : catalog.resolve (generatedColumn t.table name) = .ok values) {handle : Handle}
    {rows : Query.RowSet} (hhandle : env.lookup? handle = some (.rows rows)) (hrows : ∀ i ∈ rows, i ∈ f.rows)
    (out : Handle) :
    Run.step catalog env (.fetch out (generatedColumn t.table name) handle) =
      .ok (env.bind out (.values (rows.map fun i => values.getD i 0)), none) := by
  obtain ⟨hfilter, -⟩ := factor_eq_ok h
  refine Run.step_fetch hvalues hhandle (Query.fetch_eq_ok fun i hi => ?_) out
  rw [Catalog.length_eq_of_resolve hvalues hfilter rfl]
  exact (Query.mem_rows.1 (hrows i hi)).1

/-- **The join of a query lists the pairs of rows that satisfy its conditions.** -/
theorem run_joinOps (hl : q.left.factor catalog = .ok l) (hr : q.right.factor catalog = .ok r)
    (env : Environment) (firstHandle secondHandle : Handle) (kind : JoinKind) :
    ∃ env', Run.runFrom catalog env (q.joinOps firstHandle secondHandle kind) = .ok (env', []) ∧
      ∀ side, env'.lookup? (rowsHandle side) = some (.rows ((Query.joinedPairs l r).map side.row)) := by
  obtain ⟨-, hleftKey, -⟩ := factor_eq_ok hl
  obtain ⟨-, hrightKey, -⟩ := factor_eq_ok hr
  let env₁ := env.bind "p1" (.rows l.rows)
  let env₂ := env₁.bind "p2" (.rows r.rows)
  let env₃ := env₂.bind "f1" (.values (l.rows.map fun i => l.key.getD i 0))
  let env₄ := env₃.bind "f2" (.values (r.rows.map fun j => r.key.getD j 0))
  let env₅ := (env₄.bind "t1" (.rows ((Query.joinedPairs l r).map Prod.fst))).bind "t2"
    (.rows ((Query.joinedPairs l r).map Prod.snd))
  have hfetchLeft : Run.step catalog env₂ (.fetch "f1" (generatedColumn q.left.table q.left.key) "p1") =
      .ok (env₃, none) := step_fetchTable hl hleftKey rfl (fun _ h => h) "f1"
  have hfetchRight : Run.step catalog env₃ (.fetch "f2" (generatedColumn q.right.table q.right.key) "p2") =
      .ok (env₄, none) := step_fetchTable hr hrightKey rfl (fun _ h => h) "f2"
  have hjoin : Run.step catalog env₄ (.join "t1" "t2" ⟨"f1", "p1"⟩ ⟨"f2", "p2"⟩ kind) = .ok (env₅, none) :=
    Run.step_join rfl rfl rfl rfl (List.length_map _) (List.length_map _) "t1" "t2" kind
  refine ⟨env₅, Run.runFrom_cons (step_selectTable hl "p1") (Run.runFrom_cons (step_selectTable hr "p2")
    (Run.runFrom_cons hfetchLeft (Run.runFrom_cons hfetchRight (Run.runFrom_cons hjoin rfl)))), fun side => ?_⟩
  cases side <;> rfl

/-! ## Aggregating and printing -/

theorem itemAnswer_eq_ok {pairs : Finset (Nat × Nat)} {item : SelectItem} {text : String}
    (h : q.itemAnswer catalog pairs item = .ok text) :
    ∃ values, catalog.resolve (generatedColumn (q.table item.side).table item.column) = .ok values ∧
      text = item.function.textOver pairs fun p => values.getD (item.side.row p) 0 := by
  obtain ⟨values, hvalues, h⟩ := Except.bind_eq_ok_iff.1 h
  exact ⟨values, hvalues, (Except.ok.inj h).symm⟩

/-- A fetch through the join lists a value for each pair of rows. -/
theorem step_fetchItem (hl : q.left.factor catalog = .ok l) (hr : q.right.factor catalog = .ok r)
    {item : SelectItem} {values : List Int64}
    (hvalues : catalog.resolve (generatedColumn (q.table item.side).table item.column) = .ok values)
    (hrows : env.lookup? (rowsHandle item.side) = some (.rows ((Query.joinedPairs l r).map item.side.row)))
    (out : Handle) :
    Run.step catalog env (.fetch out (generatedColumn (q.table item.side).table item.column) (rowsHandle item.side)) =
      .ok (env.bind out (.values ((Query.joinedPairs l r).map fun p => values.getD (item.side.row p) 0)), none) := by
  have hmem : ∀ p ∈ Query.joinedPairs l r, p.1 ∈ l.rows ∧ p.2 ∈ r.rows := fun p hp =>
    Query.mem_of_mem_nestedLoop hp
  have hvalue : (fun p => values.getD (item.side.row p) 0) = (fun i => values.getD i 0) ∘ item.side.row := rfl
  rw [hvalue, ← List.map_map]
  obtain ⟨f, side, name⟩ := item
  cases side with
  | left => exact step_fetchTable hl hvalues hrows (List.forall_mem_map.2 fun p hp => (hmem p hp).1) out
  | right => exact step_fetchTable hr hvalues hrows (List.forall_mem_map.2 fun p hp => (hmem p hp).2) out

/-- **The aggregates of a query are printed side by side**, if its handles are kept apart. -/
theorem run_measureOps (hl : q.left.factor catalog = .ok l) (hr : q.right.factor catalog = .ok r)
    {firstHandle secondHandle : Handle} (hhandles : ["t1", "t2", firstHandle, secondHandle, "a1"].Nodup)
    (hrows : ∀ side, env.lookup? (rowsHandle side) = some (.rows ((Query.joinedPairs l r).map side.row)))
    {x y : String} (hx : q.itemAnswer catalog (Query.productPairs l r) q.first = .ok x)
    (hy : q.itemAnswer catalog (Query.productPairs l r) q.second = .ok y) :
    ∃ env' a b, Run.runFrom catalog env (q.measureOps firstHandle secondHandle) =
        .ok (env', [.scalars [a, b]]) ∧ a.text = x ∧ b.text = y := by
  obtain ⟨values, hvalues, rfl⟩ := itemAnswer_eq_ok hx
  obtain ⟨values', hvalues', rfl⟩ := itemAnswer_eq_ok hy
  simp only [List.nodup_cons, List.mem_cons, List.not_mem_nil, not_or] at hhandles
  obtain ⟨⟨-, hfirstLeft, -⟩, ⟨hfirstRight, -⟩, ⟨hhandles, -⟩, ⟨hsecond, -⟩, -⟩ := hhandles
  let vs := (Query.joinedPairs l r).map fun p => values.getD (q.first.side.row p) 0
  let ws := (Query.joinedPairs l r).map fun p => values'.getD (q.second.side.row p) 0
  let env₁ := env.bind firstHandle (.values vs)
  let env₂ := env₁.bind secondHandle (.values ws)
  let env₃ := env₂.bind "a1" (.scalar (.of q.first.function vs))
  let env₄ := env₃.bind "a2" (.scalar (.of q.second.function ws))
  -- no binding covers one that is read after it
  have hrows₁ : env₁.lookup? (rowsHandle q.second.side) =
      some (.rows ((Query.joinedPairs l r).map q.second.side.row)) := by
    refine (if_neg ?_).trans (hrows q.second.side)
    cases q.second.side with
    | left => exact hfirstLeft
    | right => exact hfirstRight
  have hvs : env₂.lookup? firstHandle = some (.values vs) := (if_neg hhandles).trans (if_pos rfl)
  have hws : env₃.lookup? secondHandle = some (.values ws) := (if_neg hsecond).trans (if_pos rfl)
  have hprint : Run.printed env₄ ["a1", "a2"] =
      .ok (.scalars [.of q.first.function vs, .of q.second.function ws]) :=
    Run.printed_scalars (by simp [env₄, env₃])
  refine ⟨env₄, .of q.first.function vs, .of q.second.function ws,
    Run.runFrom_cons (step_fetchItem hl hr hvalues (hrows _) firstHandle)
    (Run.runFrom_cons (step_fetchItem hl hr hvalues' hrows₁ secondHandle)
    (Run.runFrom_cons (Run.step_aggregate hvs q.first.function "a1")
    (Run.runFrom_cons (Run.step_aggregate hws q.second.function "a2")
    (Run.runFrom_cons (Run.step_print hprint) rfl)))), ?_, ?_⟩
  · exact Query.text_of_joinedPairs q.first.function l r _
  · exact Query.text_of_joinedPairs q.second.function l r _

/-! ## Whole scripts -/

theorem run_heading (jq : JoinQuery) (intro : String) (env : Environment) :
    Run.runFrom catalog env (jq.heading intro) = .ok (env, []) :=
  Run.runFrom_of_isInert (Script.isInert_comments _) env

theorem text_scalars (a b : Aggregate) : Layout.text [.scalars [a, b]] = a.text ++ "," ++ b.text ++ "\n" := by
  rw [← String.toList_inj]
  simp [Layout.text, Layout.chars, Block.chars, Block.lines, Block.commaSeparated, Aggregate.text]

/-- A query whose tables are found can be joined, and then prints nothing. -/
theorem run_timedScript (hl : q.left.factor catalog = .ok l) (hr : q.right.factor catalog = .ok r)
    (firstHandle secondHandle : Handle) (intro : String) (kind : JoinKind) :
    (q.plan firstHandle secondHandle).timedScript catalog intro kind =
        .ok ((q.plan firstHandle secondHandle).heading intro ++ q.joinOps firstHandle secondHandle kind) ∧
      ∃ env, Run.runFrom catalog .empty
          ((q.plan firstHandle secondHandle).heading intro ++ q.joinOps firstHandle secondHandle kind) =
            .ok (env, []) ∧
        ∀ side, env.lookup? (rowsHandle side) = some (.rows ((Query.joinedPairs l r).map side.row)) := by
  constructor
  · have hleft := Catalog.exists_generated_of_resolve (factor_eq_ok hl).1
    have hright := Catalog.exists_generated_of_resolve (factor_eq_ok hr).1
    exact JoinQuery.timedScript_eq_ok_iff.2 ⟨_, JoinQuery.joinScript_eq_ok_iff.2 ⟨hleft, hright, rfl⟩, rfl⟩
  · obtain ⟨env, hjoin, hrows⟩ := run_joinOps hl hr .empty firstHandle secondHandle kind
    exact ⟨env, Run.runFrom_append_of_ok (run_heading _ intro .empty) hjoin, hrows⟩

/-- **The script of a query is made and prints its answer**, by whatever kind of join. -/
theorem run_script {text : String} (h : q.answer catalog = .ok text) {firstHandle secondHandle : Handle}
    (hhandles : ["t1", "t2", firstHandle, secondHandle, "a1"].Nodup) (intro : String) (kind : JoinKind) :
    ∃ s, (q.plan firstHandle secondHandle).script catalog intro kind = .ok s ∧ .comment q.text ∈ s ∧
      s.prints = true ∧ Run.run catalog s = .ok text := by
  obtain ⟨l, hl, h⟩ := Except.bind_eq_ok_iff.1 h
  obtain ⟨r, hr, h⟩ := Except.bind_eq_ok_iff.1 h
  obtain ⟨x, hx, h⟩ := Except.bind_eq_ok_iff.1 h
  obtain ⟨y, hy, h⟩ := Except.bind_eq_ok_iff.1 h
  obtain rfl := Except.ok.inj h
  obtain ⟨htimed, env, hjoin, hrows⟩ := run_timedScript hl hr firstHandle secondHandle intro kind
  obtain ⟨env', a, b, hmeasures, rfl, rfl⟩ := run_measureOps hl hr hhandles hrows hx hy
  have hmeasureScript : (q.plan firstHandle secondHandle).measureScript catalog =
      .ok (q.measureOps firstHandle secondHandle) := by
    obtain ⟨_, hfirst, -⟩ := itemAnswer_eq_ok hx
    obtain ⟨_, hsecond, -⟩ := itemAnswer_eq_ok hy
    exact JoinQuery.measureScript_eq_ok_iff.2
      ⟨Catalog.exists_generated_of_resolve hfirst, Catalog.exists_generated_of_resolve hsecond, rfl⟩
  refine ⟨_, JoinQuery.script_eq_ok_iff.2 ⟨_, htimed, _, hmeasureScript, rfl⟩, ?_, ?_, ?_⟩
  · exact List.mem_append_left _ (List.mem_append_left _ (q.text_mem_heading ..))
  · rw [Script.prints_append]
    exact Bool.or_true _
  · rw [← text_scalars]
    exact Run.run_eq_ok (Run.runFrom_append_of_ok hjoin hmeasures)

end ProductQuery

end Columnar
