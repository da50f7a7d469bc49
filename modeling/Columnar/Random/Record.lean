import Columnar.Random.Source

/-!
# Recorded draws

A recorded source hands on the draws of another source and writes each of them down. What is generated
from it is what is generated from the other source; its record tells which draws that took, in order.
-/

namespace Columnar.Random

/-- A draw that was taken. -/
inductive Draw where
  | int (low high : Int64)
  | unit
  deriving DecidableEq, Repr

/-- A source with the draws that were taken from it. -/
structure Recorded (σ : Type) where
  source : σ
  draws : List Draw
  deriving DecidableEq, Repr

namespace Recorded

variable {σ : Type} [DrawSource σ]

omit [DrawSource σ] in
/-- A source from which nothing was taken yet. -/
def start (source : σ) : Recorded σ :=
  ⟨source, []⟩

instance : DrawSource (Recorded σ) where
  drawInt low high s :=
    let drawn := DrawSource.drawInt low high s.source
    (drawn.1, ⟨drawn.2, s.draws ++ [.int low high]⟩)
  drawUnit s :=
    let drawn := DrawSource.drawUnit s.source
    (drawn.1, ⟨drawn.2, s.draws ++ [.unit]⟩)

end Recorded

end Columnar.Random
