import Columnar.RangePlanner
import Columnar.Suite.Condition
import Columnar.Suite.Config
import Columnar.Suite.Scenario

/-!
# Join scenarios

The scenarios 45 to 59 join the generated tables of a star: many rows with one, many with many, and two
uniform tables. Each selects a share of both sides by an upper bound, joins the selected keys, and
aggregates two columns through the join. Nothing is drawn after the dataset, and scenarios that differ
in the kind of join alone expect the same text.
-/

namespace Columnar.JoinQueries

/-! ## Tables -/

/-- The files of the five tables. -/
def files : List (String × String) :=
  [("data5_fact.csv", JoinDataset.factName), ("data5_dimension1.csv", JoinDataset.dim1Name),
    ("data5_dimension2.csv", JoinDataset.dim2Name), ("data5_selectivity1.csv", JoinDataset.sel1Name),
    ("data5_selectivity2.csv", JoinDataset.sel2Name)]

/-- The catalog of the five tables. -/
def catalog (d : JoinDataset) : Catalog :=
  Catalog.ofList d.tables

/-! ## Scripts

Each script is made for tables that are looked up in a catalog, and refers to the columns of the tables that
are found. -/

/-- Creates and loads tables, and shuts down. -/
def setupOps (config : SuiteConfig) (dataFiles : List DataFile) : Script :=
  Script.comments ["Creates tables for join tests", "without any indexes"] ++
  List.intercalate [.comment ""]
    (dataFiles.map fun f => Script.declare f.table ++ [.load (config.loadPath f.file)]) ++
  Script.comments ["", "Testing that the data and their indexes are durable on disk."] ++
  [.shutdown]

/-- Creates and loads the five tables, and shuts down. -/
def setupScript (config : SuiteConfig) (catalog : Catalog) : Except SuiteError Script := do
  return setupOps config (← catalog.dataFiles files)

/-- One side of a join: the rows that a range of one column selects, keyed by another column. -/
structure Side where
  table : String
  filter : String
  key : String
  range : Predicate
  deriving DecidableEq, Repr

/-- The condition that a row is selected. -/
def Side.condition (s : Side) : String :=
  s.range.condition (s.table ++ "." ++ s.filter)

/-- A column fetched at the left or right rows of a join, and its aggregate. -/
structure Measure where
  handle : Handle
  table : String
  column : String
  rows : Handle
  function : AggregateFunction
  deriving DecidableEq, Repr

/-- A query over a join: what its comment says it selects, from and on, its sides, and its two measures. -/
structure JoinQuery where
  selects : String
  sources : String
  condition : String
  left : Side
  right : Side
  first : Measure
  second : Measure
  deriving DecidableEq, Repr

namespace JoinQuery

/-- The comments above a query. -/
def heading (q : JoinQuery) (intro : String) : Script :=
  Script.comments [intro, "Select + Join + aggregation", "Query in SQL:",
    "SELECT " ++ q.selects ++ " FROM " ++ q.sources ++ " WHERE " ++ q.condition ++ " AND " ++
      q.left.condition ++ " AND " ++ q.right.condition ++ ";", "", ""]

/-- Selects both sides and joins their keys into `t1` and `t2`. -/
def joinOps (q : JoinQuery) (left right : String → ColumnRef) (kind : JoinKind) : Script :=
  [.select "p1" (.column (left q.left.filter)) q.left.range,
    .select "p2" (.column (right q.right.filter)) q.right.range,
    .fetch "f1" (left q.left.key) "p1",
    .fetch "f2" (right q.right.key) "p2",
    .join "t1" "t2" ⟨"f1", "p1"⟩ ⟨"f2", "p2"⟩ kind]

/-- Selects and joins both sides of a query. -/
def joinScript (q : JoinQuery) (catalog : Catalog) (kind : JoinKind) : Except SuiteError Script := do
  let left ← catalog.generated q.left.table
  let right ← catalog.generated q.right.table
  return q.joinOps left.columnRef right.columnRef kind

/-- Fetches the two measures through the join, aggregates and prints them. -/
def measureOps (q : JoinQuery) (first second : String → ColumnRef) : Script :=
  [.fetch q.first.handle (first q.first.column) q.first.rows,
    .fetch q.second.handle (second q.second.column) q.second.rows,
    .aggregate q.first.function "a1" q.first.handle,
    .aggregate q.second.function "a2" q.second.handle,
    .print ["a1", "a2"]]

/-- Prints both measures of a query. -/
def measureScript (q : JoinQuery) (catalog : Catalog) : Except SuiteError Script := do
  let first ← catalog.generated q.first.table
  let second ← catalog.generated q.second.table
  return q.measureOps first.columnRef second.columnRef

/-- A query that stops after the join. -/
def timedScript (q : JoinQuery) (catalog : Catalog) (intro : String) (kind : JoinKind) :
    Except SuiteError Script := do
  return q.heading intro ++ (← q.joinScript catalog kind)

/-- A query that prints its measures. -/
def script (q : JoinQuery) (catalog : Catalog) (intro : String) (kind : JoinKind) : Except SuiteError Script := do
  return (← q.timedScript catalog intro kind) ++ (← q.measureScript catalog)

end JoinQuery

/-! ## Queries -/

/-- A share of a domain, with the text that names it. -/
structure Selectivity where
  share : Float
  label : String
  deriving Repr

/-- All values below a share of a domain. -/
def upper (domain : Int64) (s : Selectivity) : Except GenerationError Predicate :=
  (RangePlanner.ofDomain domain).planUpper s.share

/-- Fact rows with the rows of the second dimension that they refer to. With `ofDimension` the second
measure sums a column of the dimension instead of the fact table's constant column. -/
def manyToOne (sizes : JoinSizes) (s : Selectivity) (ofDimension : Bool) : Except GenerationError JoinQuery := do
  let left ← upper (baseDomain sizes.fact) s
  let right ← upper sizes.dim2.toInt64 s
  return {
    selects := if ofDimension then "avg(tbl5_fact.col2), sum(tbl5_dim2.col2)"
      else "avg(tbl5_fact.col2), sum(tbl5_fact.col3)"
    sources := "tbl5_fact,tbl5_dim2"
    condition := "tbl5_fact.col4=tbl5_dim2.col1"
    left := ⟨JoinDataset.factName, "col2", "col4", left⟩
    right := ⟨JoinDataset.dim2Name, "col1", "col1", right⟩
    first := ⟨"col2joined", JoinDataset.factName, "col2", "t1", .avg⟩
    second := if ofDimension then ⟨"col2t2joined", JoinDataset.dim2Name, "col2", "t2", .sum⟩
      else ⟨"col3joined", JoinDataset.factName, "col3", "t1", .sum⟩ }

/-- Fact rows with the rows of the first dimension of the same rank. -/
def manyToMany (sizes : JoinSizes) (s : Selectivity) : Except GenerationError JoinQuery := do
  let left ← upper (baseDomain sizes.fact) s
  let right ← upper (baseDomain sizes.dim1) s
  return {
    selects := "sum(tbl5_fact.col2), avg(tbl5_dim1.col1)"
    sources := "tbl5_fact,tbl5_dim1"
    condition := "tbl5_fact.col1=tbl5_dim1.col1"
    left := ⟨JoinDataset.factName, "col2", "col1", left⟩
    right := ⟨JoinDataset.dim1Name, "col3", "col1", right⟩
    first := ⟨"col2joined", JoinDataset.factName, "col2", "t1", .sum⟩
    second := ⟨"col1joined", JoinDataset.dim1Name, "col1", "t2", .avg⟩ }

/-- Rows of the two uniform tables with equal first columns. -/
def uniformPair (sizes : JoinSizes) (s : Selectivity) : Except GenerationError JoinQuery := do
  let range ← upper (baseDomain sizes.select) s
  return {
    selects := "sum(tbl5_sel1.col1), avg(tbl5_sel2.col2)"
    sources := "tbl5_sel1, tbl5_sel2"
    condition := "tbl5_sel1.col1=tbl5_sel2.col1"
    left := ⟨JoinDataset.sel1Name, "col1", "col1", range⟩
    right := ⟨JoinDataset.sel2Name, "col2", "col1", range⟩
    first := ⟨"col1joined", JoinDataset.sel1Name, "col1", "t1", .sum⟩
    second := ⟨"col2joined", JoinDataset.sel2Name, "col2", "t2", .avg⟩ }

/-! ## Scenarios -/

/-- The scenario that creates and loads the tables. -/
def setup (config : SuiteConfig) (catalog : Catalog) : Plan where
  number := 45
  title := "Create and load the join tables"
  kind := .setup
  script := setupScript config catalog
  tags := ["setup", "join"]

/-- A scenario that joins many rows with one. -/
def manyToOnePlan (catalog : Catalog) (sizes : JoinSizes) (number : Nat) (s : Selectivity) (kind : JoinKind)
    (ofDimension : Bool) : Plan :=
  let intro :=
    if ofDimension then "Join test 3 - " ++ kind.text ++ " many-to-one with larger selectivities."
    else "Join test 1 - " ++ kind.text ++ " many-to-one."
  { number := number
    title := "Many-to-one " ++ kind.text ++ " join of fact and dimension 2 at " ++ s.label
    kind := .correctness
    script := do
      let q ← (manyToOne sizes s ofDimension).mapError SuiteError.generation
      q.script catalog intro kind
    tags := ["join", "many-to-one", kind.text] }

/-- A scenario that joins many rows with many. -/
def manyToManyPlan (catalog : Catalog) (sizes : JoinSizes) (number : Nat) (s : Selectivity) (kind : JoinKind) :
    Plan :=
  let intro := "Join test 2 - " ++ kind.text ++ " many-to-many at selectivity " ++ s.label ++ "."
  { number := number
    title := "Many-to-many " ++ kind.text ++ " join of fact and dimension 1 at " ++ s.label
    kind := .correctness
    script := do
      let q ← (manyToMany sizes s).mapError SuiteError.generation
      q.script catalog intro kind
    tags := ["join", "many-to-many", kind.text] }

/-- A scenario that joins the uniform tables, with its output checked or only timed. -/
def uniformPlan (catalog : Catalog) (sizes : JoinSizes) (number : Nat) (s : Selectivity) (kind : JoinKind)
    (purpose : ScenarioKind) : Plan :=
  let intro := "Join performance test - " ++ kind.text ++ " with selectivities " ++ s.label ++ " and " ++ s.label ++ "."
  { number := number
    title := kind.text ++ " join " ++ purpose.text ++ " at selectivity " ++ s.label
    kind := purpose
    script := do
      let q ← (uniformPair sizes s).mapError SuiteError.generation
      if purpose = .correctness then q.script catalog intro kind else q.timedScript catalog intro kind
    tags := ["join", purpose.text, kind.text] }

/-- Four scenarios that join the uniform tables by two kinds of join, first checked and then timed. -/
def uniformPlans (catalog : Catalog) (sizes : JoinSizes) (first : Nat) (s : Selectivity) (kind1 kind2 : JoinKind) :
    List Plan :=
  [uniformPlan catalog sizes first s kind1 .correctness,
    uniformPlan catalog sizes (first + 1) s kind2 .correctness,
    uniformPlan catalog sizes (first + 2) s kind1 .performance,
    uniformPlan catalog sizes (first + 3) s kind2 .performance]

/-- The scenarios 45 to 59 over a catalog. -/
def plans (config : SuiteConfig) (catalog : Catalog) : List Plan :=
  let sizes := config.joinSizes
  let narrow : Selectivity := ⟨0.15, "0.15"⟩
  let wide : Selectivity := ⟨0.8, "0.8"⟩
  let small : Selectivity := ⟨0.1, "0.1"⟩
  [setup config catalog,
    manyToOnePlan catalog sizes 46 narrow .nestedLoop false,
    manyToOnePlan catalog sizes 47 narrow .hash false,
    manyToManyPlan catalog sizes 48 narrow .nestedLoop,
    manyToManyPlan catalog sizes 49 narrow .hash,
    manyToOnePlan catalog sizes 50 wide .hash true,
    manyToManyPlan catalog sizes 51 wide .hash] ++
  uniformPlans catalog sizes 52 small .nestedLoop .naiveHash ++
  uniformPlans catalog sizes 56 wide .naiveHash .graceHash

/-- The suite of a dataset. -/
def suiteOf (config : SuiteConfig) (d : JoinDataset) : Except SuiteError Suite :=
  Suite.ofPlans "join" config.seed (catalog d) files (plans config (catalog d))

/-- Generates the suite. The law of the keys is refused before anything is drawn. -/
def generate {σ : Type} [Random.DrawSource σ] (config : SuiteConfig) : ExceptT SuiteError (StateM σ) Suite := do
  let d ← ExceptT.adapt SuiteError.generation do
    let zipf ← Generation.ofExcept (Zipf.of config.zipfSkew config.zipfDomain.toNat)
    JoinDataset.generate config.joinSizes zipf
  ExceptT.mk (pure (suiteOf config d))

end Columnar.JoinQueries
