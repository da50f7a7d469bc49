import Columnar.Dataset.Index
import Columnar.RangePlanner
import Columnar.Suite.Condition
import Columnar.Suite.Config
import Columnar.Suite.Scenario

/-!
# Scenarios on indexed tables

The scenarios 20 to 44 query one generated table that is loaded three times: without indexes, with a
clustered sorted and an unclustered tree index, and with a clustered tree and an unclustered sorted
index. An answer never depends on the indexes, so scenarios that differ in the table alone expect the
same text.

All ranges are drawn after the dataset, scenario by scenario in number order; what the scenarios are is
then a function of the dataset and the ranges.
-/

namespace Columnar.IndexQueries

/-! ## Tables -/

/-- The three copies of the generated table. -/
inductive Copy where
  | control
  | sorted
  | btree
  deriving DecidableEq, Repr

namespace Copy

/-- The name of a copy. -/
def name : Copy → String
  | control => "tbl4_ctrl"
  | sorted => IndexDataset.tableName
  | btree => "tbl4_clustered_btree"

/-- The file that a copy is loaded from. -/
def file : Copy → String
  | control => "data4_ctrl.csv"
  | sorted => "data4_btree.csv"
  | btree => "data4_clustered_btree.csv"

/-- The copies in the order of their files. -/
def all : List Copy :=
  [control, sorted, btree]

/-- The indexes of a copy: column, kind and clustering. -/
def indexes : Copy → List (String × IndexKind × Clustering)
  | control => []
  | sorted => [("col3", .sorted, .clustered), ("col2", .btree, .unclustered)]
  | btree => [("col3", .btree, .clustered), ("col2", .sorted, .unclustered)]

end Copy

/-- The files of the three copies and their tables. -/
def files : List (String × String) :=
  Copy.all.map fun c => (c.file, c.name)

/-- The catalog of the generated table and its two copies. -/
def catalog (d : IndexDataset) : Catalog :=
  Catalog.ofList [d.table.renamed Copy.control.name, d.table, d.table.renamed Copy.btree.name]

/-! ## Scripts

Each script is made for a table that is looked up in a catalog, and refers to the columns of the table that
is found. -/

/-- The handle of a letter and a number. -/
def handle (letter : String) (n : Nat) : Handle :=
  letter ++ toString n

/-- Creates, indexes and loads a table, and shuts down. -/
def setupOps (config : SuiteConfig) (t : Table) (c : Copy) (title : String) : Script :=
  Script.comments [title, "", "Loads data from: " ++ c.file, "", "Create Table"] ++
  Script.declare t ++
  c.indexes.flatMap (fun (column, kind, clustering) =>
    [.comment ("Create a " ++ clustering.text ++ " " ++ kind.text ++ " index on " ++ column),
      .createIndex (t.columnRef column) kind clustering]) ++
  Script.comments ["", "Load data immediately"] ++
  [.load (config.loadPath c.file)] ++
  Script.comments ["", "Testing that the data and their indexes are durable on disk."] ++
  [.shutdown]

/-- Creates, indexes and loads a copy, and shuts down. -/
def setupScript (config : SuiteConfig) (catalog : Catalog) (c : Copy) (title : String) :
    Except SuiteError Script := do
  let t ← catalog.generated c.name
  return setupOps config t c title

/-- Selects a range of one column and fetches another one at the selected rows. -/
def selectFetch (column : String → ColumnRef) (filter target : String) (n : Nat) (range : Predicate) : Script :=
  [.select (handle "s" n) (.column (column filter)) range,
    .fetch (handle "f" n) (column target) (handle "s" n)]

/-- Prints, for each range of `col3`, `col1` at the selected rows. -/
def projectOps (column : String → ColumnRef) (table : String) (ranges : List Predicate) (intro : List String) :
    Script :=
  [.comment ""] ++ Script.comments intro ++ [.comment "Query in SQL:"] ++
  ranges.map (fun range =>
    .comment ("SELECT col1 FROM " ++ table ++ " WHERE " ++ range.condition "col3" ++ ";")) ++
  [.comment ""] ++
  (ranges.zipIdx 1).flatMap fun (range, n) =>
    selectFetch column "col3" "col1" n range ++ [.print [handle "f" n]]

/-- Prints `col1` of a table for each range of `col3`. -/
def projectedRanges (catalog : Catalog) (table : String) (ranges : List Predicate) (intro : List String) :
    Except SuiteError Script := do
  let t ← catalog.generated table
  return projectOps t.columnRef t.name ranges intro

/-- Prints, for each range of a column, an aggregate of another column at the selected rows. -/
def aggregateOps (column : String → ColumnRef) (table filter target : String) (f : AggregateFunction)
    (ranges : List Predicate) (intro : List String) : Script :=
  Script.comments intro ++
  Script.comments ["", "Query form in SQL:",
    "SELECT " ++ f.text ++ "(" ++ target ++ ") FROM " ++ table ++ " WHERE " ++ filter ++ " >= _ AND " ++
      filter ++ " < _;", ""] ++
  ranges.zipIdx.flatMap fun (range, n) =>
    selectFetch column filter target n range ++
      [.aggregate f (handle "a" n) (handle "f" n), .print [handle "a" n]]

/-- Prints an aggregate of a column of a table for each range of another one. -/
def aggregateBatch (catalog : Catalog) (table filter target : String) (f : AggregateFunction)
    (ranges : List Predicate) (intro : List String) : Except SuiteError Script := do
  let t ← catalog.generated table
  return aggregateOps t.columnRef table filter target f ranges intro

/-- Selects by one range, refines by a second one, prints the rows that are left and their sum. -/
def refineOps (column : String → ColumnRef) (first second : Predicate) : Script :=
  Script.comments ["Test for a clustered index select followed by a second predicate", "", "Query in SQL:",
    "SELECT sum(col1) FROM tbl4 WHERE (" ++ first.condition "col3" ++ ") AND (" ++ second.condition "col2" ++ ");",
    ""] ++
  [.select "s1" (.column (column "col3")) first,
    .fetch "f1" (column "col2") "s1",
    .select "s2" (.refine "s1" "f1") second,
    .fetch "f2" (column "col1") "s2",
    .print ["f2"],
    .aggregate .sum "a1" "f2",
    .print ["a1"]]

/-- Prints the rows of the generated table in two ranges, and their sum. -/
def refinedSum (catalog : Catalog) (first second : Predicate) : Except SuiteError Script := do
  let t ← catalog.generated Copy.sorted.name
  return refineOps t.columnRef first second

/-- Prints the sum of `col1` for each range of `col2`. -/
def sumOps (column : String → ColumnRef) (ranges : List Predicate) : Script :=
  Script.comments ["Test for an unclustered index select on heavily repeated values", "", "Query in SQL:"] ++
  ranges.map (fun range => .comment ("SELECT sum(col1) FROM tbl4 WHERE " ++ range.condition "col2" ++ ";")) ++
  [.comment ""] ++
  (ranges.zipIdx 1).flatMap fun (range, n) =>
    selectFetch column "col2" "col1" n range ++
      [.aggregate .sum (handle "a" n) (handle "f" n), .print [handle "a" n]]

/-- Prints the sums of the generated table over ranges around repeated values. -/
def frequentSums (catalog : Catalog) (ranges : List Predicate) : Except SuiteError Script := do
  let t ← catalog.generated Copy.sorted.name
  return sumOps t.columnRef ranges

/-! ## Ranges -/

/-- A sweep scenario: twenty averages of one column over ranges of another at one selectivity. -/
structure Sweep where
  copy : Copy
  filter : String
  target : String
  selectivity : Float
  leastWidth : Int64
  /-- How texts name the selectivity. -/
  label : String
  deriving Repr

/-- The twelve sweeps: two pairs of columns, at two selectivities each, on the three copies. -/
def sweeps : List Sweep :=
  [("col3", "col1"), ("col2", "col3")].flatMap fun (filter, target) =>
    [(0.001, 1, "0.1%"), (0.01, 2, "1%")].flatMap fun (selectivity, leastWidth, label) =>
      Copy.all.map fun copy => ⟨copy, filter, target, selectivity, leastWidth, label⟩

/-- The drawn ranges of all scenarios. -/
structure Ranges where
  narrow : List Predicate
  refineFirst : Predicate
  refineSecond : Predicate
  sums : List Predicate
  averages : List Predicate
  narrowBtree : List Predicate
  sumsBtree : List Predicate
  /-- For each sweep its ranges. -/
  swept : List (Sweep × List Predicate)
  deriving Repr

section Draws

variable {σ : Type} [Random.DrawSource σ]

/-- Two ranges at a thousandth and at two thousandths of a domain. -/
def drawNarrow (p : RangePlanner) : Generation σ (List Predicate) := do
  let first ← (p.withLeastWidth 1).plan 0.001
  let second ← (p.withLeastWidth 2).plan 0.002
  return [first, second]

/-- For each sweep its ranges. -/
def drawSwept (p : RangePlanner) : List Sweep → Generation σ (List (Sweep × List Predicate))
  | [] => return []
  | s :: rest => do
    let ranges ← (p.withLeastWidth s.leastWidth).planMany s.selectivity 20
    return (s, ranges) :: (← drawSwept p rest)

/-- Draws the ranges of all scenarios, in number order. -/
def drawRanges (d : IndexDataset) : Generation σ Ranges := do
  let p := RangePlanner.ofDomain d.domain
  let narrow ← drawNarrow p
  let refineFirst ← (p.withLeastWidth 1).plan 0.5
  let refineSecond ← (RangePlanner.ofDomain IndexDataset.col2Domain).plan 0.2
  let sums ← (p.withLeastWidth 2).planMany 0.005 10
  let averages ← (p.withLeastWidth 2).planMany 0.01 100
  let narrowBtree ← drawNarrow p
  let sumsBtree ← (p.withLeastWidth 2).planMany 0.005 5
  let swept ← drawSwept p sweeps
  return ⟨narrow, refineFirst, refineSecond, sums, averages, narrowBtree, sumsBtree, swept⟩

end Draws

/-- The range of one value and its lower neighbour. -/
def around (v : Int64) : Predicate :=
  .range (v - 1) (v + 1)

/-! ## Scenarios -/

/-- The scenario that creates and loads a copy. -/
def setup (config : SuiteConfig) (catalog : Catalog) (c : Copy) (number : Nat) (title : String) : Plan where
  number := number
  title := title
  kind := .setup
  script := setupScript config catalog c title
  tags := ["setup", "index"]

/-- A scenario whose output is checked. -/
def check (number : Nat) (title : String) (tags : List String) (script : Except SuiteError Script) : Plan :=
  ⟨number, title, .correctness, script, tags⟩

/-- The scenario of a sweep. -/
def sweepPlan (catalog : Catalog) (number : Nat) (s : Sweep) (ranges : List Predicate) : Plan :=
  check number
    ("Averages of " ++ s.target ++ " over " ++ s.filter ++ " ranges at " ++ s.label ++ " on " ++ s.copy.name)
    ["select", "avg", "selectivity"]
    (aggregateBatch catalog s.copy.name s.filter s.target .avg ranges ["", "selectivity=" ++ s.label])

/-- The scenarios 20 to 44 over a catalog, for a dataset and its ranges. -/
def plans (config : SuiteConfig) (catalog : Catalog) (d : IndexDataset) (r : Ranges) : List Plan :=
  [setup config catalog .control 20 "Create a control table identical to tbl4, without any indexes",
    setup config catalog .sorted 21
      "Create tbl4 with a clustered sorted index on col3 and an unclustered btree on col2",
    check 22 "Range selects on col3 without indexes" ["select", "fetch", "control"]
      (projectedRanges catalog Copy.control.name r.narrow ["Range selects on the control table"]),
    check 23 "Range selects on col3 through the clustered sorted index" ["select", "fetch", "clustered"]
      (projectedRanges catalog Copy.sorted.name r.narrow
        ["tbl4 has a clustered sorted index on col3 and an unclustered btree on col2",
          "Testing for correctness; the select on col3 is expected to use the clustered index", ""]),
    check 24 "Clustered select followed by a second predicate and a sum"
      ["select", "refine", "sum", "clustered"] (refinedSum catalog r.refineFirst r.refineSecond),
    check 25 "Sums over col2 ranges on the control table" ["select", "sum", "control"]
      (aggregateBatch catalog Copy.control.name "col2" "col3" .sum r.sums
        ["Test for a non-clustered select followed by an aggregate (control)"]),
    check 26 "Sums over col2 ranges through the unclustered btree" ["select", "sum", "unclustered"]
      (aggregateBatch catalog Copy.sorted.name "col2" "col3" .sum r.sums
        ["Test for a non-clustered index select followed by an aggregate"]),
    check 27 "Sums over the two injected frequent values of col2" ["select", "sum", "frequent"]
      (frequentSums catalog [around d.frequent.1, around d.frequent.2]),
    check 28 "Many averages over col2 ranges on the control table" ["select", "avg", "control"]
      (aggregateBatch catalog Copy.control.name "col2" "col3" .avg r.averages
        ["Test for a non-clustered select followed by an aggregate (control, many queries)",
          "Compare to test 29 for timing differences between B-tree and scan"]),
    check 29 "Many averages over col2 ranges through the unclustered btree" ["select", "avg", "unclustered"]
      (aggregateBatch catalog Copy.sorted.name "col2" "col3" .avg r.averages
        ["Test for a non-clustered index select followed by an aggregate (many queries)"]),
    setup config catalog .btree 30
      "Create tbl4_clustered_btree with a clustered btree on col3 and an unclustered sorted index on col2",
    check 31 "Range selects on col3 through the clustered btree" ["select", "fetch", "clustered"]
      (projectedRanges catalog Copy.btree.name r.narrowBtree
        ["tbl4_clustered_btree has a clustered btree on col3 and an unclustered sorted index on col2",
          "Testing for correctness; the select on col3 is expected to use the clustered index", ""]),
    check 32 "Sums over col2 ranges through the unclustered sorted index" ["select", "sum", "unclustered"]
      (aggregateBatch catalog Copy.btree.name "col2" "col3" .sum r.sumsBtree
        ["Test for a non-clustered index select followed by an aggregate"])] ++
  (r.swept.zipIdx 33).map fun ((s, ranges), number) => sweepPlan catalog number s ranges

/-- The suite of a dataset and its ranges. -/
def suiteOf (config : SuiteConfig) (d : IndexDataset) (r : Ranges) : Except SuiteError Suite :=
  Suite.ofPlans "index" config.seed (catalog d) files (plans config (catalog d) d r)

/-- Generates the suite. -/
def generate {σ : Type} [Random.DrawSource σ] (config : SuiteConfig) : ExceptT SuiteError (StateM σ) Suite := do
  let (d, r) ← ExceptT.adapt SuiteError.generation do
    let d ← IndexDataset.generate config.indexRows
    return (d, ← drawRanges d)
  ExceptT.mk (pure (suiteOf config d r))

end Columnar.IndexQueries
