import Columnar.Dataset.Index

/-!
# The join dataset

Five tables around a fact table. The first columns of `tbl5_fact` and `tbl5_dim1` are drawn by Zipf's
law, for joins of many rows with many; `tbl5_fact.col4` and `tbl5_dim1.col2` refer to `tbl5_dim2.col1`,
which counts the rows of `tbl5_dim2` from one, for joins of many rows with one; `tbl5_sel1` and
`tbl5_sel2` are uniform, for joins at varying selectivities. All other columns are uniform over a fifth
of their table's rows, except `tbl5_fact.col3`, which is constantly one.

The draws come table by table in that order, and for each table: all its columns row by row, then the
ranks, then the references.
-/

namespace Columnar

/-- The row counts of the five tables; the last one holds for two of them. -/
structure JoinSizes where
  fact : UInt64
  dim1 : UInt64
  dim2 : UInt64
  select : UInt64
  deriving DecidableEq, Repr

/-- The five generated tables. -/
structure JoinDataset where
  fact : Table
  dim1 : Table
  dim2 : Table
  sel1 : Table
  sel2 : Table
  deriving DecidableEq, Repr

namespace JoinDataset

/-- The name of the fact table. -/
def factName : String := "tbl5_fact"

/-- The name of the dimension table for joins of many rows with many. -/
def dim1Name : String := "tbl5_dim1"

/-- The name of the dimension table for joins of many rows with one. -/
def dim2Name : String := "tbl5_dim2"

/-- The name of the left table for joins at varying selectivities. -/
def sel1Name : String := "tbl5_sel1"

/-- The name of the right table for joins at varying selectivities. -/
def sel2Name : String := "tbl5_sel2"

section Draws

variable {σ : Type} [Random.DrawSource σ]

/-- A draft of uniform columns over a fifth of its rows. -/
def base (name : String) (rows : UInt64) (columns : List String) : Generation σ Draft :=
  (Draft.empty generatedDatabase name rows.toNat).uniformColumns columns 0 (baseDomain rows)

/-- Generates the dataset. -/
def generate (sizes : JoinSizes) (zipf : Zipf) : Generation σ JoinDataset := do
  let fact ← base factName sizes.fact ["col1", "col2", "col3", "col4"]
  let fact ← Generation.ofDraws (fact.fillZipf "col1" zipf)
  let fact := fact.fillConstant "col3" 1
  let fact ← fact.fillUniform "col4" 1 sizes.dim2.toInt64
  let dim1 ← base dim1Name sizes.dim1 ["col1", "col2", "col3"]
  let dim1 ← Generation.ofDraws (dim1.fillZipf "col1" zipf)
  let dim1 ← dim1.fillUniform "col2" 1 sizes.dim2.toInt64
  let dim2 ← base dim2Name sizes.dim2 ["col1", "col2"]
  let dim2 := dim2.fillSequence "col1" 1
  let sel1 ← base sel1Name sizes.select ["col1", "col2"]
  let sel2 ← base sel2Name sizes.select ["col1", "col2"]
  return ⟨← Generation.ofExcept fact.finish, ← Generation.ofExcept dim1.finish,
    ← Generation.ofExcept dim2.finish, ← Generation.ofExcept sel1.finish, ← Generation.ofExcept sel2.finish⟩

end Draws

/-- The tables, in the order of their files. -/
def tables (d : JoinDataset) : List Table :=
  [d.fact, d.dim1, d.dim2, d.sel1, d.sel2]

end JoinDataset

end Columnar
