import Columnar.Proofs.Catalog
import Columnar.Proofs.Dataset.Tables
import Columnar.Suite.IndexQueries
import Columnar.Suite.JoinQueries

/-!
# The tables that scripts are made for

Scripts and data files are made for tables that are looked up in the catalog of the suite. A look-up finds a
table of the name that is asked for, so a script that is made refers to the columns of its table by that
name, whichever table it is. And the catalog of a generated dataset holds all tables of the suite.

* `Catalog.columnRef_of_generated` — what is found goes by the name it is looked up by
* `IndexQueries.aggregateBatch_eq_ok_iff`, `JoinQuery.script_eq_ok_iff` and the lemmas beside them — which
  scripts are made, and what they are
* `IndexQueries.dataFiles_catalog`, `JoinQueries.dataFiles_catalog` — **the data files of a dataset**
-/

namespace Columnar

/-- The reference to a column of a generated table. -/
def generatedColumn (table name : String) : ColumnRef :=
  ⟨generatedDatabase, table, name⟩

/-! ## Look-ups -/

namespace Catalog

variable {catalog : Catalog} {name : String} {t : Table}

theorem generated_eq_ok_iff : catalog.generated name = .ok t ↔ catalog.table generatedDatabase name = .ok t :=
  Except.mapError_eq_ok_iff

theorem tableName_of_generated (h : catalog.generated name = .ok t) : t.tableName = ⟨generatedDatabase, name⟩ :=
  Table.isNamed_iff.1 (List.find?_some (table_eq_ok_iff.1 (generated_eq_ok_iff.1 h)))

theorem name_of_generated (h : catalog.generated name = .ok t) : t.name = name :=
  congrArg TableName.name (tableName_of_generated h)

/-- **Columns of a table that is found are referred to by the name it was looked up by.** -/
theorem columnRef_of_generated (h : catalog.generated name = .ok t) : t.columnRef = generatedColumn name := by
  funext column
  have hdatabase : t.database = generatedDatabase := congrArg TableName.database (tableName_of_generated h)
  rw [Table.columnRef, generatedColumn, hdatabase, name_of_generated h]

/-- Where a column is resolved, its table is found. -/
theorem exists_generated_of_resolve {column : String} {values : List Int64}
    (h : catalog.resolve (generatedColumn name column) = .ok values) : ∃ t, catalog.generated name = .ok t := by
  obtain ⟨t, ht, -⟩ := resolve_eq_ok_iff.1 h
  exact ⟨t, generated_eq_ok_iff.2 ht⟩

/-- **A script for one table is made iff the table is found**, and then it refers to the table by its name. -/
theorem generated_bind_eq_ok_iff (ops : (String → ColumnRef) → String → Script) {s : Script} :
    (catalog.generated name >>= fun t => .ok (ops t.columnRef t.name)) = .ok s ↔
      (∃ t, catalog.generated name = .ok t) ∧ s = ops (generatedColumn name) name := by
  constructor
  · intro h
    obtain ⟨t, ht, h⟩ := Except.bind_eq_ok_iff.1 h
    rw [columnRef_of_generated ht, name_of_generated ht] at h
    exact ⟨⟨t, ht⟩, (Except.ok.inj h).symm⟩
  · rintro ⟨⟨t, ht⟩, rfl⟩
    rw [ht, Except.ok_bind, columnRef_of_generated ht, name_of_generated ht]

/-- Scripts for two tables. -/
theorem generated_bind_bind_eq_ok_iff {other : String}
    (ops : (String → ColumnRef) → (String → ColumnRef) → Script) {s : Script} :
    (catalog.generated name >>= fun t => catalog.generated other >>= fun u => .ok (ops t.columnRef u.columnRef)) =
        .ok s ↔
      (∃ t, catalog.generated name = .ok t) ∧ (∃ u, catalog.generated other = .ok u) ∧
        s = ops (generatedColumn name) (generatedColumn other) := by
  constructor
  · intro h
    obtain ⟨t, ht, h⟩ := Except.bind_eq_ok_iff.1 h
    obtain ⟨u, hu, h⟩ := Except.bind_eq_ok_iff.1 h
    rw [columnRef_of_generated ht, columnRef_of_generated hu] at h
    exact ⟨⟨t, ht⟩, ⟨u, hu⟩, (Except.ok.inj h).symm⟩
  · rintro ⟨⟨t, ht⟩, ⟨u, hu⟩, rfl⟩
    rw [ht, Except.ok_bind, hu, Except.ok_bind, columnRef_of_generated ht, columnRef_of_generated hu]

/-- **The table of a data file is the one that its name is looked up for.** -/
theorem table_of_mem_dataFiles {files : List (String × String)} {dataFiles : List DataFile}
    (h : catalog.dataFiles files = .ok dataFiles) {f : DataFile} (hf : f ∈ dataFiles) :
    catalog.table generatedDatabase f.table.name = .ok f.table := by
  obtain ⟨⟨file, name⟩, -, hfile⟩ := Except.exists_of_mem_mapM h hf
  obtain ⟨t, ht, hfile⟩ := Except.bind_eq_ok_iff.1 hfile
  obtain rfl := Except.ok.inj hfile
  rw [name_of_generated ht]
  exact generated_eq_ok_iff.1 ht

end Catalog

/-! ## The index suite -/

namespace IndexQueries

section Scripts

variable {catalog : Catalog} {table : String} {ranges : List Predicate} {intro : List String} {s : Script}

/-- **A batch of projections is made iff its table is found.** -/
theorem projectedRanges_eq_ok_iff :
    projectedRanges catalog table ranges intro = .ok s ↔
      (∃ t, catalog.generated table = .ok t) ∧ s = projectOps (generatedColumn table) table ranges intro :=
  Catalog.generated_bind_eq_ok_iff fun column table => projectOps column table ranges intro

/-- **A batch of aggregates is made iff its table is found.** -/
theorem aggregateBatch_eq_ok_iff {filter target : String} {f : AggregateFunction} :
    aggregateBatch catalog table filter target f ranges intro = .ok s ↔
      (∃ t, catalog.generated table = .ok t) ∧
        s = aggregateOps (generatedColumn table) table filter target f ranges intro :=
  Catalog.generated_bind_eq_ok_iff fun column _ => aggregateOps column table filter target f ranges intro

theorem refinedSum_eq_ok_iff {first second : Predicate} :
    refinedSum catalog first second = .ok s ↔
      (∃ t, catalog.generated Copy.sorted.name = .ok t) ∧
        s = refineOps (generatedColumn Copy.sorted.name) first second :=
  Catalog.generated_bind_eq_ok_iff fun column _ => refineOps column first second

theorem frequentSums_eq_ok_iff :
    frequentSums catalog ranges = .ok s ↔
      (∃ t, catalog.generated Copy.sorted.name = .ok t) ∧ s = sumOps (generatedColumn Copy.sorted.name) ranges :=
  Catalog.generated_bind_eq_ok_iff fun column _ => sumOps column ranges

end Scripts

variable {d : IndexDataset} {n : Nat}

/-- The generated table is the copy that keeps its name. -/
theorem catalog_eq (hd : d.table.IsGenerated IndexDataset.tableName IndexDataset.columnNames n) :
    catalog d = Catalog.ofList (Copy.all.map fun c => d.table.renamed c.name) := by
  have hsorted : d.table.renamed Copy.sorted.name = d.table := by
    rw [Table.renamed, Copy.name, ← hd.name_eq]
  show _ = Catalog.ofList [_, d.table.renamed Copy.sorted.name, _]
  rw [hsorted]
  rfl

/-- **The catalog of a dataset holds its table and the copies of it.** -/
theorem generated_catalog (hd : d.table.IsGenerated IndexDataset.tableName IndexDataset.columnNames n) (c : Copy) :
    (catalog d).generated c.name = .ok (d.table.renamed c.name) := by
  have hnodup : ((Copy.all.map fun c => d.table.renamed c.name).map Table.tableName).Nodup := by
    simp [Copy.all, Table.tableName, Table.renamed, Copy.name, IndexDataset.tableName]
  have hmem : d.table.renamed c.name ∈ Copy.all.map fun c => d.table.renamed c.name :=
    List.mem_map.2 ⟨c, by cases c <;> decide, rfl⟩
  rw [Catalog.generated_eq_ok_iff, ← hd.database_eq, catalog_eq hd]
  exact Catalog.table_ofList hnodup hmem

/-- **The data files of a dataset are the copies of its table.** -/
theorem dataFiles_catalog (hd : d.table.IsGenerated IndexDataset.tableName IndexDataset.columnNames n) :
    (catalog d).dataFiles files = .ok (Copy.all.map fun c => ⟨c.file, d.table.renamed c.name⟩) := by
  rw [Catalog.dataFiles, files, Except.mapM_eq_ok_iff, List.map_map, List.map_map]
  refine List.map_congr_left fun c _ => ?_
  show ((catalog d).generated c.name >>= fun t => .ok (DataFile.mk c.file t)) = _
  rw [generated_catalog hd]
  rfl

theorem setupScript_eq_ok (hd : d.table.IsGenerated IndexDataset.tableName IndexDataset.columnNames n)
    (config : SuiteConfig) (c : Copy) (title : String) :
    setupScript config (catalog d) c title = .ok (setupOps config (d.table.renamed c.name) c title) := by
  rw [setupScript, generated_catalog hd]
  rfl

end IndexQueries

/-! ## The join suite -/

namespace JoinQueries

namespace JoinQuery

variable {q : JoinQuery} {catalog : Catalog} {kind : JoinKind} {s : Script}

/-- **The join of a query is made iff its tables are found.** -/
theorem joinScript_eq_ok_iff :
    q.joinScript catalog kind = .ok s ↔
      (∃ t, catalog.generated q.left.table = .ok t) ∧ (∃ t, catalog.generated q.right.table = .ok t) ∧
        s = q.joinOps (generatedColumn q.left.table) (generatedColumn q.right.table) kind :=
  Catalog.generated_bind_bind_eq_ok_iff fun left right => q.joinOps left right kind

theorem measureScript_eq_ok_iff :
    q.measureScript catalog = .ok s ↔
      (∃ t, catalog.generated q.first.table = .ok t) ∧ (∃ t, catalog.generated q.second.table = .ok t) ∧
        s = q.measureOps (generatedColumn q.first.table) (generatedColumn q.second.table) :=
  Catalog.generated_bind_bind_eq_ok_iff q.measureOps

theorem timedScript_eq_ok_iff {intro : String} :
    q.timedScript catalog intro kind = .ok s ↔
      ∃ join, q.joinScript catalog kind = .ok join ∧ s = q.heading intro ++ join := by
  simp only [timedScript, Except.bind_eq_ok_iff, Except.pure_eq_ok, Except.ok.injEq, eq_comm (b := s)]

/-- **The script of a query is its timed script and what prints its measures.** -/
theorem script_eq_ok_iff {intro : String} :
    q.script catalog intro kind = .ok s ↔
      ∃ timed, q.timedScript catalog intro kind = .ok timed ∧
        ∃ measures, q.measureScript catalog = .ok measures ∧ s = timed ++ measures := by
  simp only [script, Except.bind_eq_ok_iff, Except.pure_eq_ok, Except.ok.injEq, eq_comm (b := s)]

end JoinQuery

variable {d : JoinDataset} {sizes : JoinSizes}

theorem table_catalog (hd : d.IsGenerated sizes) {t : Table} (ht : t ∈ d.tables) :
    (catalog d).table t.database t.name = .ok t := by
  refine Catalog.table_ofList ?_ ht
  simp only [JoinDataset.tables, List.map_cons, List.map_nil, Table.tableName, hd.fact.database_eq,
    hd.fact.name_eq, hd.dim1.database_eq, hd.dim1.name_eq, hd.dim2.database_eq, hd.dim2.name_eq,
    hd.sel1.database_eq, hd.sel1.name_eq, hd.sel2.database_eq, hd.sel2.name_eq]
  decide

/-- **The catalog of a dataset holds its tables.** -/
theorem generated_catalog (hd : d.IsGenerated sizes) {t : Table} (ht : t ∈ d.tables) {name : String}
    {columns : List String} {n : Nat} (hgenerated : t.IsGenerated name columns n) :
    (catalog d).generated name = .ok t := by
  have htable := table_catalog hd ht
  rwa [hgenerated.database_eq, hgenerated.name_eq, ← Catalog.generated_eq_ok_iff] at htable

/-- The five tables with their files. -/
def dataFilesOf (d : JoinDataset) : List DataFile :=
  [⟨"data5_fact.csv", d.fact⟩, ⟨"data5_dimension1.csv", d.dim1⟩, ⟨"data5_dimension2.csv", d.dim2⟩,
    ⟨"data5_selectivity1.csv", d.sel1⟩, ⟨"data5_selectivity2.csv", d.sel2⟩]

/-- **The data files of a dataset are its tables.** -/
theorem dataFiles_catalog (hd : d.IsGenerated sizes) : (catalog d).dataFiles files = .ok (dataFilesOf d) := by
  have hfact := generated_catalog hd (by simp [JoinDataset.tables]) hd.fact
  have hdim1 := generated_catalog hd (by simp [JoinDataset.tables]) hd.dim1
  have hdim2 := generated_catalog hd (by simp [JoinDataset.tables]) hd.dim2
  have hsel1 := generated_catalog hd (by simp [JoinDataset.tables]) hd.sel1
  have hsel2 := generated_catalog hd (by simp [JoinDataset.tables]) hd.sel2
  rw [Catalog.dataFiles, files, Except.mapM_eq_ok_iff]
  simp only [List.map_cons, List.map_nil, hfact, hdim1, hdim2, hsel1, hsel2]
  rfl

theorem setupScript_eq_ok (hd : d.IsGenerated sizes) (config : SuiteConfig) :
    setupScript config (catalog d) = .ok (setupOps config (dataFilesOf d)) := by
  rw [setupScript, dataFiles_catalog hd]
  rfl

end JoinQueries

end Columnar
