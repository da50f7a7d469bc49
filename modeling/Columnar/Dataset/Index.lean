import Columnar.Dataset.Draft

/-!
# The index dataset

One table of four columns for selects, fetches, aggregates and indexes. `col3` is uniform over a fifth
of the number of rows; `col1` is uniform over `[0, 1000)` and `col2` over `[0, 10000)`, where two values
are repeated in a twentieth and in a fiftieth of the rows; `col4` is uniform over `[0, 10000)` plus
`col1`.

The draws come in the order: all four columns row by row, `col1`, `col4`, the two masks, `col2`, the two
repeated values.
-/

namespace Columnar

open Columnar.Random

/-- The database of every generated table. -/
def generatedDatabase : String := "db1"

/-- The domain of a uniform base column of a table: a fifth of its rows. -/
def baseDomain (rows : UInt64) : Int64 :=
  (rows / 5).toInt64

/-- A generated index table and its two repeated values. -/
structure IndexDataset where
  table : Table
  frequent : Int64 × Int64
  deriving DecidableEq, Repr

namespace IndexDataset

/-- The name of the table. -/
def tableName : String := "tbl4"

/-- The domain of the second column. -/
def col2Domain : Int64 := 10000

/-- Generates the dataset. -/
def generate {σ : Type} [DrawSource σ] (rows : UInt64) : Generation σ IndexDataset := do
  let domain := baseDomain rows
  let d := Draft.empty generatedDatabase tableName rows.toNat
  let d ← d.uniformColumns ["col1", "col2", "col3", "col4"] 0 domain
  let d ← d.fillUniform "col1" 0 1000
  let d ← d.fillUniform "col4" 0 10000
  let mask1 ← Generation.ofDraws (d.mask 0.05)
  let mask2 ← Generation.ofDraws (d.mask 0.02)
  let d ← d.fillUniform "col2" 0 col2Domain
  let frequent1 ← Generation.ofDraws (uniform 0 domain)
  let frequent2 ← Generation.ofDraws (uniform 0 domain)
  let d ← Generation.ofExcept (d.inject "col2" mask1 frequent1)
  let d ← Generation.ofExcept (d.inject "col2" mask2 frequent2)
  let d ← Generation.ofExcept (d.addColumn "col4" "col1")
  let table ← Generation.ofExcept d.finish
  return ⟨table, (frequent1, frequent2)⟩

/-- The domain of the third column. -/
def domain (d : IndexDataset) : Int64 :=
  baseDomain (UInt64.ofNat d.table.rowCount)

end IndexDataset

end Columnar
