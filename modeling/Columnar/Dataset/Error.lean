import Columnar.DataError
import Columnar.Decimal.Shortest

/-!
# Why data are not generated
-/

namespace Columnar

/-- Why a law, a range or a table is not generated. -/
inductive GenerationError where
  | invalidZipf (skew : Float) (domain : Nat)
  | invalidSelectivity (selectivity : Float)
  | emptyRange (column : String) (low high : Int64)
  | unknownColumn (column : String)
  | maskLength (expected actual : Nat)
  | data (cause : DataError)
  deriving Repr

/-- The sentence that tells why. Reals are written with the fewest digits that read back. -/
def GenerationError.message : GenerationError → String
  | invalidZipf skew domain =>
    s!"Invalid Zipfian parameters: skew {Decimal.shortestText skew}, domain {domain}"
  | invalidSelectivity selectivity =>
    s!"Selectivity must lie in [0, 1], got {Decimal.shortestText selectivity}"
  | emptyRange column low high => s!"Empty value range [{low.toInt}, {high.toInt}) for column '{column}'"
  | unknownColumn column => s!"Unknown column '{column}'"
  | maskLength expected actual => s!"Mask covers {actual} rows, table has {expected}"
  | data cause => cause.message

/-- A generation that draws from a source; the draws taken before an error stay taken. -/
abbrev Generation (σ : Type) := ExceptT GenerationError (StateM σ)

namespace Generation

variable {σ : Type} {α : Type}

/-- A step that takes no draws. -/
def ofExcept (r : Except GenerationError α) : Generation σ α :=
  ExceptT.mk (pure r)

/-- A step that takes draws and never fails. -/
def ofDraws (draws : StateM σ α) : Generation σ α :=
  ExceptT.lift draws

/-- The result of a generation from a source, and the source after it. -/
def run (generation : Generation σ α) (source : σ) : Except GenerationError α × σ :=
  StateT.run (ExceptT.run generation) source

end Generation

end Columnar
