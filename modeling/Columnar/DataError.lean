/-!
# What can be wrong with data and names

The causes for which a table, a look-up or a keyword is refused, and the sentence that tells each.
-/

namespace Columnar

/-- The classes of keywords that a script can hold. -/
inductive KeywordClass where
  | joinKind
  | indexKind
  | clustering
  deriving DecidableEq, Repr

/-- How a message names a class of keywords. -/
def KeywordClass.text : KeywordClass → String
  | .joinKind => "join kind"
  | .indexKind => "index kind"
  | .clustering => "clustering"

/-- Why a table, a name or a keyword is refused. Tables are named `database.table`. -/
inductive DataError where
  | duplicateColumn (column table : String)
  | columnNotFound (column table : String)
  | tableNotFound (table : String)
  | lengthMismatch (column : String) (expected actual : Nat)
  | invalidColumnRef (text : String)
  | unknownKeyword (keywords : KeywordClass) (text : String)
  deriving DecidableEq, Repr

/-- The sentence that tells the cause. -/
def DataError.message : DataError → String
  | .duplicateColumn column table => s!"Duplicate column '{column}' in table {table}"
  | .columnNotFound column table => s!"Column not found: {column} in table {table}"
  | .tableNotFound table => s!"Table not found: {table}"
  | .lengthMismatch column expected actual =>
    s!"Length mismatch for column '{column}': expected {expected} rows, got {actual}"
  | .invalidColumnRef text => s!"Invalid column reference: '{text}'"
  | .unknownKeyword keywords text => s!"Unknown {keywords.text}: '{text}'"

end Columnar
