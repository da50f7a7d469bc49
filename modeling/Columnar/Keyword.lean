import Columnar.DataError
import Columnar.Text.Lines

/-!
# Keywords of a script

Join kinds and index declarations are labels: they say how an engine may work, never what a query
answers. Each keyword has one spelling; blanks around it are ignored when it is read.

## Main statements

* `JoinKind.parse_text`, `IndexKind.parse_text`, `Clustering.parse_text`: every keyword reads back.
-/

namespace Columnar

open Text (trim)

/-! ## Join kinds -/

/-- How an engine is asked to compute an equi-join. -/
inductive JoinKind where
  | nestedLoop
  | hash
  | naiveHash
  | graceHash
  deriving DecidableEq, Repr

namespace JoinKind

/-- The spelling of a join kind. -/
def text : JoinKind → String
  | nestedLoop => "nested-loop"
  | hash => "hash"
  | naiveHash => "naive-hash"
  | graceHash => "grace-hash"

/-- The join kind spelled by a text, up to surrounding blanks. -/
def parse (cs : List Char) : Except DataError JoinKind :=
  match [nestedLoop, hash, naiveHash, graceHash].find? (fun k => k.text.toList = trim cs) with
  | some kind => .ok kind
  | none => .error (.unknownKeyword .joinKind (String.ofList cs))

theorem parse_text (k : JoinKind) : parse k.text.toList = .ok k := by
  cases k <;> rfl

end JoinKind

/-! ## Index declarations -/

/-- The physical form of an index. -/
inductive IndexKind where
  | sorted
  | btree
  deriving DecidableEq, Repr

namespace IndexKind

/-- The spelling of an index kind. -/
def text : IndexKind → String
  | sorted => "sorted"
  | btree => "btree"

/-- The index kind spelled by a text, up to surrounding blanks, which a refusal leaves out. -/
def parse (cs : List Char) : Except DataError IndexKind :=
  match [sorted, btree].find? (fun k => k.text.toList = trim cs) with
  | some kind => .ok kind
  | none => .error (.unknownKeyword .indexKind (String.ofList (trim cs)))

theorem parse_text (k : IndexKind) : parse k.text.toList = .ok k := by
  cases k <;> rfl

end IndexKind

/-- Whether an index dictates the order of its table's rows. -/
inductive Clustering where
  | clustered
  | unclustered
  deriving DecidableEq, Repr

namespace Clustering

/-- The spelling of a clustering. -/
def text : Clustering → String
  | clustered => "clustered"
  | unclustered => "unclustered"

/-- The clustering spelled by a text, up to surrounding blanks, which a refusal leaves out. -/
def parse (cs : List Char) : Except DataError Clustering :=
  match [clustered, unclustered].find? (fun k => k.text.toList = trim cs) with
  | some clustering => .ok clustering
  | none => .error (.unknownKeyword .clustering (String.ofList (trim cs)))

theorem parse_text (k : Clustering) : parse k.text.toList = .ok k := by
  cases k <;> rfl

end Clustering

end Columnar
