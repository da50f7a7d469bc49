import Columnar.Proofs.Catalog
import Columnar.Proofs.Run.Steps
import Mathlib.Logic.Function.Basic

/-!
# Handles under other names

Handles are names and nothing else. If every handle of a script is given another name, and no two handles
the same one, the script prints the same text; and where it stops, it stops for the same reason, told of
the new names.

The bindings of the renamed script are read through the renaming (`Environment.pullback`). What is bound
under new names, read in this way, is what the script binds under the old ones, and that one equation goes
from look-ups over single operations to whole scripts.

* `Environment.get_rename`, `Environment.pullback_bind` — look-ups and bindings under new names
* `Run.step_rename`, `Run.runFrom_rename` — operations and scripts from any bindings
* `Run.run_rename` — **a renamed script prints the same text or stops for the same reason**
-/

namespace Columnar

/-! ## New names -/

/-- What a select scans, under new names of the handles. -/
def SelectSource.rename (r : Handle → Handle) : SelectSource → SelectSource
  | .column c => .column c
  | .refine rows values => .refine (r rows) (r values)

/-- One side of a join, under new names of the handles. -/
def JoinInput.rename (r : Handle → Handle) (input : JoinInput) : JoinInput :=
  ⟨r input.values, r input.rows⟩

/-- An operation under new names of the handles that it binds and reads. -/
def Op.rename (r : Handle → Handle) : Op → Op
  | select out source p => .select (r out) (source.rename r) p
  | fetch out column rows => .fetch (r out) column (r rows)
  | join leftOut rightOut left right kind =>
    .join (r leftOut) (r rightOut) (left.rename r) (right.rename r) kind
  | aggregate f out input => .aggregate f (r out) (r input)
  | print handles => .print (handles.map r)
  | op => op

/-- A script under new names of its handles. -/
def Script.rename (r : Handle → Handle) (s : Script) : Script :=
  s.map (Op.rename r)

/-- Why a script stops, told of the new names of the handles. -/
def RunError.rename (r : Handle → Handle) : RunError → RunError
  | unknownHandle handle => .unknownHandle (r handle)
  | wrongBinding handle expected actual => .wrongBinding (r handle) expected actual
  | mixedPrint handles => .mixedPrint (handles.map r)
  | query cause => .query cause
  | data cause => .data cause

variable {catalog : Catalog} {env : Environment} {r : Handle → Handle}

/-! ## Look-ups -/

namespace Environment

/-- The bindings of an environment, read under the new names of the handles. -/
def pullback (env : Environment) (r : Handle → Handle) : Environment :=
  ⟨fun h => env.lookup? (r h)⟩

@[simp] theorem lookup_pullback (env : Environment) (r : Handle → Handle) (h : Handle) :
    (env.pullback r).lookup? h = env.lookup? (r h) := rfl

@[simp] theorem pullback_empty (r : Handle → Handle) : empty.pullback r = empty := rfl

/-- **Binding a new name is binding the handle**: no other handle has that name. -/
theorem pullback_bind (hr : r.Injective) (env : Environment) (out : Handle) (b : Binding) :
    (env.bind (r out) b).pullback r = (env.pullback r).bind out b := by
  refine congrArg mk (funext fun h => ?_)
  by_cases hh : h = out
  · simp [hh]
  · have hne : r h ≠ r out := fun e => hh (hr e)
    simp [hh, hne]

theorem get_rename (env : Environment) (r : Handle → Handle) (h : Handle) :
    env.get (r h) = ((env.pullback r).get h).mapError (RunError.rename r) := by
  unfold get
  rw [lookup_pullback]
  cases env.lookup? (r h) <;> rfl

theorem rows_rename (env : Environment) (r : Handle → Handle) (h : Handle) :
    env.rows (r h) = ((env.pullback r).rows h).mapError (RunError.rename r) := by
  rw [rows, rows, Except.mapError_bind, get_rename]
  congr 1
  funext b
  cases b <;> rfl

theorem values_rename (env : Environment) (r : Handle → Handle) (h : Handle) :
    env.values (r h) = ((env.pullback r).values h).mapError (RunError.rename r) := by
  rw [values, values, Except.mapError_bind, get_rename]
  congr 1
  funext b
  cases b <;> rfl

theorem mapM_get_rename (env : Environment) (r : Handle → Handle) (handles : List Handle) :
    (handles.map r).mapM env.get = (handles.mapM (env.pullback r).get).mapError (RunError.rename r) := by
  induction handles with
  | nil => rfl
  | cons h hs ih =>
    rw [List.map_cons, List.mapM_cons, List.mapM_cons, Except.mapError_bind, ih, get_rename]
    congr 1
    funext b
    rw [Except.mapError_bind]
    rfl

end Environment

namespace Run

/-! ## Queries -/

/-- A refused query tells of no handle. -/
theorem query_rename {α : Type} (x : Except QueryError α) (r : Handle → Handle) :
    (query x).mapError (RunError.rename r) = query x := by
  cases x <;> rfl

/-- A refused column tells of no handle. -/
theorem data_rename {α : Type} (x : Except DataError α) (r : Handle → Handle) :
    (data x).mapError (RunError.rename r) = data x := by
  cases x <;> rfl

theorem selected_rename (env : Environment) (r : Handle → Handle) (p : Predicate) (source : SelectSource) :
    selected catalog env p (source.rename r) =
      (selected catalog (env.pullback r) p source).mapError (RunError.rename r) := by
  cases source with
  | column column =>
    rw [SelectSource.rename, selected, selected, Except.mapError_bind, data_rename]
    rfl
  | refine rows values =>
    simp only [SelectSource.rename, selected, Except.mapError_bind, Environment.rows_rename env r,
      Environment.values_rename env r, query_rename]

theorem fetched_rename (env : Environment) (r : Handle → Handle) (column : ColumnRef) (rows : Handle) :
    fetched catalog env column (r rows) =
      (fetched catalog (env.pullback r) column rows).mapError (RunError.rename r) := by
  simp only [fetched, Except.mapError_bind, Environment.rows_rename env r, query_rename, data_rename]

theorem joined_rename (env : Environment) (r : Handle → Handle) (left right : JoinInput) :
    joined env (left.rename r) (right.rename r) =
      (joined (env.pullback r) left right).mapError (RunError.rename r) := by
  simp only [joined, JoinInput.rename, Except.mapError_bind, Environment.rows_rename env r,
    Environment.values_rename env r, query_rename]

theorem printed_rename (env : Environment) (r : Handle → Handle) (handles : List Handle) :
    printed env (handles.map r) = (printed (env.pullback r) handles).mapError (RunError.rename r) := by
  rw [printed, printed, Except.mapError_bind, Environment.mapM_get_rename]
  congr 1
  funext results
  -- of the three ways to go on, one is refused with the handles of the print
  split
  · rfl
  · split
    · rfl
    · exact (query_rename _ r).symm

/-! ## Operations -/

/-- What a handle is bound to by a step that prints nothing, read under the new names. -/
theorem ok_pullback_bind (hr : r.Injective) (env : Environment) (out : Handle) (b : Binding) :
    (Except.ok (env.bind (r out) b, (none : Option Block))).map (Prod.map (Environment.pullback · r) id) =
      (Except.ok ((env.pullback r).bind out b, none)).mapError (RunError.rename r) :=
  congrArg (fun e => Except.ok (e, none)) (Environment.pullback_bind hr env out b)

/-- **A renamed operation does the same under the new names.** -/
theorem step_rename (hr : r.Injective) (env : Environment) (op : Op) :
    (step catalog env (op.rename r)).map (Prod.map (Environment.pullback · r) id) =
      (step catalog (env.pullback r) op).mapError (RunError.rename r) := by
  cases op with
  | comment _ | createTable _ _ _ | createColumn _ _ _ | createIndex _ _ _ | load _ | shutdown => rfl
  | select out source p =>
    rw [Op.rename, step, step, selected_rename]
    exact Except.map_mapError_bind_eq _ fun rows => ok_pullback_bind hr env out _
  | fetch out column rows =>
    rw [Op.rename, step, step, fetched_rename]
    exact Except.map_mapError_bind_eq _ fun values => ok_pullback_bind hr env out _
  | join leftOut rightOut left right kind =>
    rw [Op.rename, step, step, joined_rename]
    refine Except.map_mapError_bind_eq _ fun pairs => ?_
    rw [← Environment.pullback_bind hr env leftOut]
    exact ok_pullback_bind hr _ rightOut _
  | aggregate f out input =>
    rw [Op.rename, step, step, Environment.values_rename]
    exact Except.map_mapError_bind_eq _ fun values => ok_pullback_bind hr env out _
  | print handles =>
    rw [Op.rename, step, step, printed_rename]
    exact Except.map_mapError_bind_eq _ fun block => rfl

/-! ## Scripts -/

/-- **A renamed script does the same under the new names**, whatever is bound before. -/
theorem runFrom_rename (hr : r.Injective) (env : Environment) (s : Script) :
    (runFrom catalog env (s.rename r)).map (Prod.map (Environment.pullback · r) id) =
      (runFrom catalog (env.pullback r) s).mapError (RunError.rename r) := by
  induction s generalizing env with
  | nil => rfl
  | cons op ops ih =>
    refine Except.map_bind_eq_mapError_bind (step_rename hr env op) fun ⟨env₁, block⟩ => ?_
    exact Except.map_bind_eq_mapError_bind (ih env₁) fun ⟨env₂, blocks⟩ => rfl

/-- **A script whose handles are given new names, no two the same one, prints the same text; or it stops
for the same reason, told of the new names.** -/
theorem run_rename (catalog : Catalog) (s : Script) {r : Handle → Handle} (hr : r.Injective) :
    run catalog (s.rename r) = (run catalog s).mapError (RunError.rename r) := by
  have h : (runFrom catalog .empty (s.rename r)).map _ = _ := runFrom_rename hr .empty s
  rw [Environment.pullback_empty] at h
  -- a text does not tell what is bound
  have htext : ∀ x : Except RunError (Environment × List Block), (x.map Prod.snd).map Layout.text =
      (x.map (Prod.map (Environment.pullback · r) id)).map fun result => Layout.text result.2 := by
    intro x
    cases x <;> rfl
  rw [run, blocks, htext, h, run, blocks]
  cases runFrom catalog .empty s <;> rfl

/-- A handle that is bound twice, and one that is printed twice side by side. -/
def reboundSample : Script := [
  .select "p" (.column ⟨"db", "fact", "amount"⟩) (.below 30),
  .fetch "v" ⟨"db", "fact", "key"⟩ "p",
  .print ["p", "v", "v"],
  .aggregate .sum "p" "v",
  .print ["p"]]

/-- The same with a last print of a scalar beside values. -/
def mixedPrintSample : Script :=
  reboundSample ++ [Op.print ["p", "v"]]

theorem run_rename_reboundSample :
    Function.Injective (fun h : Handle => "x_" ++ h) ∧
      run .sample (reboundSample.rename fun h => "x_" ++ h) = .ok "0,1,1\n1,2,2\n\n3\n" ∧
      run .sample (mixedPrintSample.rename fun h => "x_" ++ h) = .error (.mixedPrint ["x_p", "x_v"]) := by
  have hinjective : Function.Injective fun h : Handle => "x_" ++ h := fun a b h => by
    simpa using h
  refine ⟨hinjective, ?_, ?_⟩
  · rw [run_rename .sample reboundSample hinjective]
    decide +kernel
  · rw [run_rename .sample mixedPrintSample hinjective]
    decide +kernel

end Run

end Columnar
