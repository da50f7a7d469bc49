import Columnar.Query.Join
import Columnar.Script.Basic

/-!
# What handles are bound to

A handle is bound to a row set, to values or to a scalar. An environment is given by its look-up:
binding a handle changes the look-up of that handle and of no other, and the last binding counts.

## Main statements

* `Environment.lookup_bind`: the look-up after a binding.
-/

namespace Columnar

/-- A result that a handle stands for. -/
inductive Binding where
  | rows (rows : Query.RowSet)
  | values (values : List Int64)
  | scalar (value : Aggregate)
  deriving DecidableEq, Repr

/-- The kinds of results. -/
inductive BindingKind where
  | rows
  | values
  | scalar
  deriving DecidableEq, Repr

/-- How a message names a kind of results. -/
def BindingKind.text : BindingKind → String
  | rows => "row ids"
  | values => "values"
  | scalar => "a scalar"

/-- The kind of a result. -/
def Binding.kind : Binding → BindingKind
  | rows _ => .rows
  | values _ => .values
  | scalar _ => .scalar

/-- Why a script stops. -/
inductive RunError where
  | unknownHandle (handle : Handle)
  | wrongBinding (handle : Handle) (expected actual : BindingKind)
  | mixedPrint (handles : List Handle)
  | query (cause : QueryError)
  | data (cause : DataError)
  deriving DecidableEq, Repr

/-- The sentence that tells why. -/
def RunError.message : RunError → String
  | unknownHandle handle => s!"Unknown handle: {handle}"
  | wrongBinding handle expected actual =>
    s!"Handle '{handle}' holds {actual.text}, expected {expected.text}"
  | mixedPrint handles =>
    "Cannot print scalars and sequences together: print(" ++ ",".intercalate handles ++ ")"
  | query cause => cause.message
  | data cause => cause.message

/-- The results bound so far. -/
structure Environment where
  lookup? : Handle → Option Binding

namespace Environment

/-- Nothing is bound. -/
def empty : Environment := ⟨fun _ => none⟩

/-- Binds a handle, in the place of an earlier binding. -/
def bind (env : Environment) (handle : Handle) (b : Binding) : Environment :=
  ⟨fun h => if h = handle then some b else env.lookup? h⟩

@[simp] theorem lookup_bind (env : Environment) (handle : Handle) (b : Binding) (h : Handle) :
    (env.bind handle b).lookup? h = if h = handle then some b else env.lookup? h := rfl

/-- The result that a handle is bound to. -/
def get (env : Environment) (handle : Handle) : Except RunError Binding :=
  match env.lookup? handle with
  | some b => .ok b
  | none => .error (.unknownHandle handle)

/-- The row set that a handle is bound to. -/
def rows (env : Environment) (handle : Handle) : Except RunError Query.RowSet := do
  match ← env.get handle with
  | .rows rows => return rows
  | b => .error (.wrongBinding handle .rows b.kind)

/-- The values that a handle is bound to. -/
def values (env : Environment) (handle : Handle) : Except RunError (List Int64) := do
  match ← env.get handle with
  | .values values => return values
  | b => .error (.wrongBinding handle .values b.kind)

end Environment

end Columnar
