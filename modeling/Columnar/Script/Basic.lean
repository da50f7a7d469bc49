import Columnar.ColumnRef
import Columnar.Keyword
import Columnar.Predicate
import Columnar.Query.Aggregate
import Columnar.Table

/-!
# Query scripts

A script is a list of operations. An operation declares or loads data, binds handles to results, or
prints what handles are bound to. Declarations, loads and comments are for the engine that runs the
script; the answers of a script depend on its queries alone.
-/

namespace Columnar

/-- The name that a script gives to a result. -/
abbrev Handle := String

/-- What a select scans. -/
inductive SelectSource where
  /-- A column of the catalog. -/
  | column (column : ColumnRef)
  /-- The values fetched for the rows of an earlier select. -/
  | refine (rows values : Handle)
  deriving DecidableEq, Repr

/-- One side of a join: key values and the row ids they belong to. -/
structure JoinInput where
  values : Handle
  rows : Handle
  deriving DecidableEq, Repr

/-- One operation of a script. -/
inductive Op where
  | comment (text : String)
  | createTable (name database : String) (columns : UInt64)
  | createColumn (name database table : String)
  | createIndex (column : ColumnRef) (kind : IndexKind) (clustering : Clustering)
  | load (path : String)
  | select (out : Handle) (source : SelectSource) (predicate : Predicate)
  | fetch (out : Handle) (column : ColumnRef) (rows : Handle)
  | join (leftOut rightOut : Handle) (left right : JoinInput) (kind : JoinKind)
  | aggregate (function : AggregateFunction) (out input : Handle)
  | print (handles : List Handle)
  | shutdown
  deriving DecidableEq, Repr

/-- An ordered list of operations. -/
abbrev Script := List Op

namespace Op

/-- Whether an operation produces output. -/
def isPrint : Op → Bool
  | print _ => true
  | _ => false

/-- The handles that an operation binds. -/
def outs : Op → List Handle
  | select out _ _ => [out]
  | fetch out _ _ => [out]
  | join leftOut rightOut _ _ _ => [leftOut, rightOut]
  | aggregate _ out _ => [out]
  | _ => []

/-- The handles that an operation reads. -/
def reads : Op → List Handle
  | select _ (.refine rows values) _ => [rows, values]
  | fetch _ _ rows => [rows]
  | join _ _ left right _ => [left.values, left.rows, right.values, right.rows]
  | aggregate _ _ input => [input]
  | print handles => handles
  | _ => []

end Op

namespace Script

/-- Whether any operation produces output. -/
def prints (s : Script) : Bool :=
  s.any Op.isPrint

/-- Declares a table and each of its columns. -/
def declare (t : Table) : Script :=
  .createTable t.name t.database (UInt64.ofNat t.columns.length) ::
    t.columnNames.map fun column => .createColumn column t.database t.name

/-- Several comments, each on a line of its own. -/
def comments (texts : List String) : Script :=
  texts.map .comment

@[simp] theorem prints_append (s t : Script) : prints (s ++ t) = (prints s || prints t) := by
  simp [prints]

end Script

end Columnar
