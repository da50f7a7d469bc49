import Columnar.Proofs.Run.Steps

/-!
# Labels of a script

A script carries labels for the engine that runs it: comments, declarations, loads, the end of the
session, and the kind of each join. The answer of a script does not see them. They can be deleted and
exchanged wherever they stand, and the script prints the same text, or stops for the very same reason.

* `Run.runFrom_queries`, `Run.runFrom_withKinds` — deleting labels, and exchanging kinds of joins
* `Run.run_congr_of_relabel` — scripts that differ in labels alone
* `Run.run_relabel` — **no label changes an answer**
-/

namespace Columnar

/-- An operation with another kind of join, if it is a join. -/
def Op.withKind (kind : JoinKind) : Op → Op
  | join leftOut rightOut left right _ => .join leftOut rightOut left right kind
  | op => op

namespace Script

/-- A script with other kinds of joins: that of the join at place `i` is `kinds i`. -/
def withKinds (kinds : Nat → JoinKind) (s : Script) : Script :=
  s.zipIdx.map fun (op, i) => op.withKind (kinds i)

/-- The operations of a script that bind or print something. -/
def queries (s : Script) : Script :=
  s.filter fun op => !op.isInert

/-- A script without the operations that are for the engine alone, and with other kinds of joins. -/
def relabel (kinds : Nat → JoinKind) (s : Script) : Script :=
  s.queries.withKinds kinds

end Script

namespace Run

variable {catalog : Catalog}

theorem step_withKind (env : Environment) (op : Op) (kind : JoinKind) :
    step catalog env (op.withKind kind) = step catalog env op := by
  cases op <;> rfl

/-- An operation for the engine alone is passed over. -/
theorem runFrom_cons_of_isInert {op : Op} (h : op.isInert = true) (env : Environment) (s : Script) :
    runFrom catalog env (op :: s) = runFrom catalog env s := by
  rw [runFrom, step_of_isInert h, Except.ok_bind]
  show (runFrom catalog env s >>= fun result => pure (result.1, [] ++ result.2)) = _
  cases runFrom catalog env s <;> rfl

/-- **Deleting the operations for the engine alone changes nothing**, wherever they stand. -/
theorem runFrom_queries (env : Environment) (s : Script) :
    runFrom catalog env s.queries = runFrom catalog env s := by
  induction s generalizing env with
  | nil => rfl
  | cons op ops ih =>
    by_cases h : op.isInert = true
    · have hrest : Script.queries (op :: ops) = Script.queries ops := List.filter_cons_of_neg (by simp [h])
      rw [hrest, ih, runFrom_cons_of_isInert h]
    · have hrest : Script.queries (op :: ops) = op :: Script.queries ops := List.filter_cons_of_pos (by simp [h])
      rw [hrest, runFrom, runFrom]
      simp only [ih]

/-- **Exchanging the kinds of joins changes nothing.** -/
theorem runFrom_withKinds (env : Environment) (s : Script) (kinds : Nat → JoinKind) :
    runFrom catalog env (s.withKinds kinds) = runFrom catalog env s := by
  -- the places are counted from any first number on, since the rest of a script starts later
  suffices h : ∀ first env, runFrom catalog env ((s.zipIdx first).map fun (op, i) => op.withKind (kinds i)) =
      runFrom catalog env s from h 0 env
  induction s with
  | nil => exact fun _ _ => rfl
  | cons op ops ih =>
    intro first env
    rw [List.zipIdx_cons, List.map_cons, runFrom, runFrom, step_withKind]
    simp only [ih]

theorem runFrom_relabel (env : Environment) (s : Script) (kinds : Nat → JoinKind) :
    runFrom catalog env (s.relabel kinds) = runFrom catalog env s := by
  rw [Script.relabel, runFrom_withKinds, runFrom_queries]

/-- **Scripts that differ in labels alone print the same**, or stop for the same reason. -/
theorem run_congr_of_relabel {s t : Script} (kinds : Nat → JoinKind) (h : s.relabel kinds = t.relabel kinds) :
    run catalog s = run catalog t := by
  rw [run, run, blocks, blocks, ← runFrom_relabel _ s kinds, h, runFrom_relabel]

/-- **No label changes an answer.** Without its comments, declarations, loads and ends of sessions, and
with whatever kinds of joins, a script prints the same text or stops for the very same reason. -/
theorem run_relabel (catalog : Catalog) (s : Script) (kinds : Nat → JoinKind) :
    run catalog (s.relabel kinds) = run catalog s := by
  rw [run, run, blocks, blocks, runFrom_relabel]

end Run

end Columnar
