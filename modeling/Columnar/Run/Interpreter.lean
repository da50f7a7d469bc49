import Columnar.Catalog
import Columnar.Output
import Columnar.Run.Environment

/-!
# Answering a script

An operation is answered by plain scans of the catalog's columns and of the results bound so far. It
may bind handles and may print one block; declarations, loads and comments do neither. A script is
answered operation by operation from an empty environment, the first error ends it, and its answer is
the layout of the blocks it printed.

## Termination

`runFrom` recurses on the script; no operation loops.

## Main statements

* `runFrom_append`: a script is answered by answering a first part of it and then the rest.
-/

namespace Columnar

open Query (RowSet)

namespace Run

/-- Turns a refused query into the error of a run. -/
def query {α : Type} (r : Except QueryError α) : Except RunError α :=
  r.mapError .query

/-- Turns a refused look-up into the error of a run. -/
def data {α : Type} (r : Except DataError α) : Except RunError α :=
  r.mapError .data

/-- The rows that a select lists. -/
def selected (catalog : Catalog) (env : Environment) (p : Predicate) : SelectSource → Except RunError RowSet
  | .column column => do
    return Query.select (← data (catalog.resolve column)) p
  | .refine rows values => do
    let rows ← env.rows rows
    let values ← env.values values
    query (Query.selectWithin rows values p)

/-- The values that a fetch lists. -/
def fetched (catalog : Catalog) (env : Environment) (column : ColumnRef) (rows : Handle) :
    Except RunError (List Int64) := do
  let column ← data (catalog.resolve column)
  query (Query.fetch column (← env.rows rows))

/-- The pairs of rows that a join lists. -/
def joined (env : Environment) (left right : JoinInput) : Except RunError (List (Nat × Nat)) := do
  let leftValues ← env.values left.values
  let leftRows ← env.rows left.rows
  let rightValues ← env.values right.values
  let rightRows ← env.rows right.rows
  query (Query.join leftValues leftRows rightValues rightRows)

/-- The scalar that a result is, if it is one. -/
def scalar? : Binding → Option Aggregate
  | .scalar value => some value
  | _ => none

/-- The sequence that a result is printed as, if it is no scalar. -/
def sequence? : Binding → Option (List Int64)
  | .rows rows => some (rows.map Int64.ofNat)
  | .values values => some values
  | .scalar _ => none

/-- The block of a print: one line if all results are scalars, side by side if none is. -/
def printed (env : Environment) (handles : List Handle) : Except RunError Block := do
  let results ← handles.mapM env.get
  if results.all fun b => (scalar? b).isSome then
    return .scalars (results.filterMap scalar?)
  else if results.any fun b => (scalar? b).isSome then
    throw (.mixedPrint handles)
  else
    query (Block.ofColumns (results.filterMap sequence?))

/-- Answers one operation: what is bound after it, and the block it prints. -/
def step (catalog : Catalog) (env : Environment) : Op → Except RunError (Environment × Option Block)
  | .select out source p => do
    return (env.bind out (.rows (← selected catalog env p source)), none)
  | .fetch out column rows => do
    return (env.bind out (.values (← fetched catalog env column rows)), none)
  | .join leftOut rightOut left right _ => do
    let pairs ← joined env left right
    return ((env.bind leftOut (.rows (pairs.map Prod.fst))).bind rightOut (.rows (pairs.map Prod.snd)), none)
  | .aggregate f out input => do
    return (env.bind out (.scalar (.of f (← env.values input))), none)
  | .print handles => do
    return (env, some (← printed env handles))
  | .comment _ | .createTable .. | .createColumn .. | .createIndex .. | .load _ | .shutdown =>
    return (env, none)

/-- Answers a script from given bindings: what is bound after it, and the blocks it prints. -/
def runFrom (catalog : Catalog) : Environment → Script → Except RunError (Environment × List Block)
  | env, [] => .ok (env, [])
  | env, op :: ops => do
    let (env, block) ← step catalog env op
    let (env, blocks) ← runFrom catalog env ops
    return (env, block.toList ++ blocks)

/-- The blocks that a script prints. -/
def blocks (catalog : Catalog) (s : Script) : Except RunError (List Block) :=
  (runFrom catalog .empty s).map Prod.snd

/-- The text that a script prints. -/
def run (catalog : Catalog) (s : Script) : Except RunError String :=
  (blocks catalog s).map Layout.text

/-- **A script is answered by answering a first part of it and then the rest.** -/
theorem runFrom_append (catalog : Catalog) (env : Environment) (s t : Script) :
    runFrom catalog env (s ++ t) =
      (runFrom catalog env s).bind fun (env, bs) =>
        (runFrom catalog env t).map fun (env, cs) => (env, bs ++ cs) := by
  induction s generalizing env with
  | nil => cases h : runFrom catalog env t <;> simp [runFrom, Except.bind, Except.map, h]
  | cons op ops ih =>
    rw [List.cons_append, runFrom, runFrom]
    cases step catalog env op with
    | error e => rfl
    | ok r =>
      obtain ⟨env, block⟩ := r
      simp only [bind, Except.bind, ih]
      cases runFrom catalog env ops with
      | error e => rfl
      | ok r =>
        obtain ⟨env, bs⟩ := r
        cases ht : runFrom catalog env t with
        | error e => simp [Except.map, pure, Except.pure, ht]
        | ok r => simp [Except.map, pure, Except.pure, ht]

end Run

end Columnar
