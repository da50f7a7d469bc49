import Columnar.Proofs.Results
import Columnar.Proofs.Script.LineForm
import Columnar.Script.Parser
import Columnar.Script.Printer

/-!
# Canonical operations

An operation holds arbitrary texts, but not every text survives being written and read: a comma ends an
argument, a line feed ends the line, and blanks at the end of an argument are cut. An operation is
*canonical* if none of its texts is hurt that way. What has to be asked differs from field to field: a
name in quotes may begin or end with blanks, an unquoted one may not; of a reference only the two ends
of the whole are cut.

* `Op.texts` — the texts of an operation
* `Op.HasForm` — what the written form asks of each of them, on one line
* `Op.IsCanonical` — the form, and no line feeds
-/

namespace Columnar

namespace Op

/-- A text that can stand between two commas. -/
def HasNoComma (s : String) : Prop :=
  ',' ∉ s.toList

/-- A text that can stand as an argument by itself: it holds no comma and equals its trim. -/
def IsArgument (s : String) : Prop :=
  HasNoComma s ∧ Text.trim s.toList = s.toList

/-- A result handle: a letter or underscore, followed by letters, digits and underscores. -/
def IsResult (h : Handle) : Prop :=
  Call.IsHandle h.toList

/-- A part of a column reference. -/
def IsPart (s : String) : Prop :=
  s ≠ "" ∧ '.' ∉ s.toList ∧ HasNoComma s

/-- A column reference whose text reads back: three parts, with no blank at either end of the whole. -/
def IsReference (r : ColumnRef) : Prop :=
  (IsPart r.database ∧ IsPart r.table ∧ IsPart r.column) ∧
    Text.NoBlankStart r.database.toList ∧ Text.NoBlankEnd r.column.toList

instance : DecidablePred HasNoComma := fun s => inferInstanceAs (Decidable (',' ∉ s.toList))

instance : DecidablePred IsArgument := fun s =>
  inferInstanceAs (Decidable (HasNoComma s ∧ Text.trim s.toList = s.toList))

instance : DecidablePred IsResult := fun h => inferInstanceAs (Decidable (Call.IsHandle h.toList))

instance : DecidablePred IsPart := fun s =>
  inferInstanceAs (Decidable (s ≠ "" ∧ '.' ∉ s.toList ∧ HasNoComma s))

instance : DecidablePred IsReference := fun r =>
  inferInstanceAs (Decidable ((IsPart r.database ∧ IsPart r.table ∧ IsPart r.column) ∧
    Text.NoBlankStart r.database.toList ∧ Text.NoBlankEnd r.column.toList))

/-- The texts of a reference. -/
def refTexts (r : ColumnRef) : List String :=
  [r.database, r.table, r.column]

/-- The texts of an operation. -/
def texts : Op → List String
  | comment text => [text]
  | createTable name database _ => [name, database]
  | createColumn name database table => [name, database, table]
  | createIndex column _ _ => refTexts column
  | load path => [path]
  | select out (.column column) _ => out :: refTexts column
  | select out (.refine rows values) _ => [out, rows, values]
  | fetch out column rows => out :: rows :: refTexts column
  | join leftOut rightOut left right _ =>
    [leftOut, rightOut, left.values, left.rows, right.values, right.rows]
  | aggregate _ out input => [out, input]
  | print handles => handles
  | shutdown => []

/-- What the written form of an operation asks of its texts. -/
def HasForm : Op → Prop
  | comment text => Text.NoBlankStart text.toList ∧ Text.NoBlankEnd text.toList
  | createTable name database _ => HasNoComma name ∧ IsArgument database
  | createColumn name database table =>
    (HasNoComma name ∧ HasNoComma database ∧ HasNoComma table) ∧ '.' ∉ database.toList ∧
      Text.NoBlankStart database.toList ∧ Text.NoBlankEnd table.toList
  | createIndex column _ _ => IsReference column
  | load path => HasNoComma path
  | select out (.column column) _ => IsResult out ∧ IsReference column
  | select out (.refine rows values) _ => IsResult out ∧ IsArgument rows ∧ IsArgument values
  | fetch out column rows => IsResult out ∧ IsReference column ∧ IsArgument rows
  | join leftOut rightOut left right _ =>
    (IsResult leftOut ∧ IsResult rightOut) ∧ (IsArgument left.values ∧ IsArgument left.rows) ∧
      IsArgument right.values ∧ IsArgument right.rows
  | aggregate _ out input => IsResult out ∧ IsArgument input
  | print handles => handles ≠ [] ∧ ∀ h ∈ handles, h ≠ "" ∧ IsArgument h
  | shutdown => True

/-- An operation whose texts survive being written and read. -/
def IsCanonical (op : Op) : Prop :=
  (∀ t ∈ op.texts, '\n' ∉ t.toList) ∧ op.HasForm

instance : DecidablePred HasForm
  | comment _ | createTable .. | createColumn .. | fetch .. | join .. | aggregate .. | print _ =>
    inferInstanceAs (Decidable (_ ∧ _))
  | select _ (.column _) _ | select _ (.refine ..) _ => inferInstanceAs (Decidable (_ ∧ _))
  | createIndex column _ _ => inferInstanceAs (Decidable (IsReference column))
  | load path => inferInstanceAs (Decidable (HasNoComma path))
  | shutdown => inferInstanceAs (Decidable True)

instance : DecidablePred IsCanonical := fun op =>
  inferInstanceAs (Decidable ((∀ t ∈ op.texts, '\n' ∉ t.toList) ∧ op.HasForm))

end Op

end Columnar
