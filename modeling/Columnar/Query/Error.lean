/-!
# What can be wrong with the inputs of a query
-/

namespace Columnar

/-- The operations that take lists of equal length. -/
inductive Alignment where
  | select
  | joinLeft
  | joinRight
  | print
  deriving DecidableEq, Repr

/-- How a message names the operation. -/
def Alignment.text : Alignment → String
  | select => "select"
  | joinLeft => "join (left)"
  | joinRight => "join (right)"
  | print => "print"

/-- Why the inputs of a query are refused. -/
inductive QueryError where
  /-- Two lists that belong together have different lengths. -/
  | lengthMismatch (context : Alignment) (left right : Nat)
  /-- A row id is past the end of a column. -/
  | rowOutOfRange (row length : Nat)
  deriving DecidableEq, Repr

/-- The sentence that tells why. -/
def QueryError.message : QueryError → String
  | lengthMismatch context left right => s!"Length mismatch in {context.text}: {left} vs {right}"
  | rowOutOfRange row length => s!"Row {row} out of range for column of {length} rows"

end Columnar
