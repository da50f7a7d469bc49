import Columnar.Proofs.Output.ClosedLines
import Columnar.Proofs.Query.Matching
import Columnar.Proofs.Run.Steps
import Columnar.Proofs.Suite.Lookups

/-!
# Batches of ranges print their answers

The index scenarios ask for many ranges in one script: each range is selected and fetched under a number
of its own, and then aggregated or printed as it is. What is bound under the number before does not
matter, so a range prints the same wherever it stands, and a batch prints one answer after the other.

* `IndexQueries.exists_run_selectFetch` — a range binds the values at the rows that match it
* `IndexQueries.run_aggregateBatch`, `IndexQueries.run_projectedRanges` — what a batch prints
* `IndexQueries.run_batches` — **every batch prints its answers**, and the lines can be read back
-/

namespace Columnar.IndexQueries

open Run (runFrom run)

variable {catalog : Catalog}

/-- **Parts that are numbered, and print the same under every number, print their blocks in turn.** -/
theorem exists_run_numbered {part : Nat → Predicate → Script} {block : Predicate → Block}
    (h : ∀ n range env, ∃ env', runFrom catalog env (part n range) = .ok (env', [block range]))
    (ranges : List Predicate) (first : Nat) (env : Environment) :
    ∃ env', runFrom catalog env ((ranges.zipIdx first).flatMap fun (range, n) => part n range) =
      .ok (env', ranges.map block) := by
  have hblocks : (ranges.zipIdx first).map (fun rn => block rn.1) = ranges.map block := by
    rw [← Function.comp_def block Prod.fst, ← List.map_map, List.zipIdx_map_fst]
  rw [← hblocks]
  exact Run.exists_runFrom_flatMap (fun rn _ => h rn.2 rn.1) env

/-! ## Headings -/

/-- Above the ranges of a batch of projections stand comments. -/
theorem exists_projectOps_eq (column : String → ColumnRef) (table : String) (ranges : List Predicate)
    (intro : List String) :
    ∃ heading : Script, (∀ op ∈ heading, op.isInert = true) ∧
      projectOps column table ranges intro = heading ++ (ranges.zipIdx 1).flatMap fun (range, n) =>
        selectFetch column "col3" "col1" n range ++ [.print [handle "f" n]] := by
  refine ⟨_, ?_, rfl⟩
  simp only [List.forall_mem_append, List.forall_mem_map, List.forall_mem_singleton]
  exact ⟨⟨⟨⟨rfl, Script.isInert_comments intro⟩, rfl⟩, fun _ _ => rfl⟩, rfl⟩

/-- Above the ranges of a batch of aggregates stand comments. -/
theorem exists_aggregateOps_eq (column : String → ColumnRef) (table filter target : String)
    (f : AggregateFunction) (ranges : List Predicate) (intro : List String) :
    ∃ heading : Script, (∀ op ∈ heading, op.isInert = true) ∧
      aggregateOps column table filter target f ranges intro = heading ++ ranges.zipIdx.flatMap fun (range, n) =>
        selectFetch column filter target n range ++
          [.aggregate f (handle "a" n) (handle "f" n), .print [handle "a" n]] :=
  ⟨_, List.forall_mem_append.2 ⟨Script.isInert_comments intro, Script.isInert_comments _⟩, rfl⟩

section Ranges

variable {column : String → ColumnRef} {filter target : String} {fs ts : List Int64}
  (hlength : fs.length = ts.length) (hfs : catalog.resolve (column filter) = .ok fs)
  (hts : catalog.resolve (column target) = .ok ts)

include hlength hfs hts

/-! ## One range -/

/-- A select and a fetch bind the values at the matching rows, and print nothing. -/
theorem exists_run_selectFetch (n : Nat) (range : Predicate) (env : Environment) :
    ∃ env', runFrom catalog env (selectFetch column filter target n range) = .ok (env', []) ∧
      env'.lookup? (handle "f" n) = some (.values (Query.matching fs ts range)) := by
  have hselect : Run.step catalog env (.select (handle "s" n) (.column (column filter)) range) =
      .ok (env.bind (handle "s" n) (.rows (Query.select fs range)), none) :=
    Run.step_select_column hfs (handle "s" n) range
  have hrows : (env.bind (handle "s" n) (.rows (Query.select fs range))).lookup? (handle "s" n) =
      some (.rows (Query.select fs range)) := if_pos rfl
  have hfetch := Run.step_fetch hts hrows (Query.fetch_select hlength range) (handle "f" n)
  exact ⟨_, Run.runFrom_cons hselect (Run.runFrom_cons hfetch rfl), if_pos rfl⟩

/-- A range whose values are printed as they are. -/
theorem exists_run_selectPrint (n : Nat) (range : Predicate) (env : Environment) :
    ∃ env', runFrom catalog env (selectFetch column filter target n range ++ [.print [handle "f" n]]) =
      .ok (env', [.ofValues (Query.matching fs ts range)]) := by
  obtain ⟨env', hrun, hvalues⟩ := exists_run_selectFetch hlength hfs hts n range env
  have hprint : Run.step catalog env' (.print [handle "f" n]) =
      .ok (env', some (.ofValues (Query.matching fs ts range))) :=
    Run.step_print (Run.printed_values hvalues)
  exact ⟨env', Run.runFrom_append_of_ok hrun (Run.runFrom_cons hprint rfl)⟩

/-- A range whose aggregate is printed. -/
theorem exists_run_selectAggregate (f : AggregateFunction) (n : Nat) (range : Predicate) (env : Environment) :
    ∃ env', runFrom catalog env (selectFetch column filter target n range ++
        [.aggregate f (handle "a" n) (handle "f" n), .print [handle "a" n]]) =
      .ok (env', [.scalars [.of f (Query.matching fs ts range)]]) := by
  obtain ⟨env₁, hrun, hvalues⟩ := exists_run_selectFetch hlength hfs hts n range env
  let a := Aggregate.of f (Query.matching fs ts range)
  let env₂ := env₁.bind (handle "a" n) (.scalar a)
  have haggregate : Run.step catalog env₁ (.aggregate f (handle "a" n) (handle "f" n)) = .ok (env₂, none) :=
    Run.step_aggregate hvalues f (handle "a" n)
  have hprinted : Run.printed env₂ [handle "a" n] = .ok (.scalars [a]) := by
    rw [Run.printed_scalars (by simp [env₂])]
    simp [env₂, Run.scalar?]
  have hprint : Run.step catalog env₂ (.print [handle "a" n]) = .ok (env₂, some (.scalars [a])) :=
    Run.step_print hprinted
  exact ⟨env₂, Run.runFrom_append_of_ok hrun (Run.runFrom_cons haggregate (Run.runFrom_cons hprint rfl))⟩

/-! ## Batches -/

/-- **A batch of aggregates prints one line for each range.** -/
theorem run_aggregateOps (table : String) (f : AggregateFunction) (ranges : List Predicate) (intro : List String) :
    run catalog (aggregateOps column table filter target f ranges intro) =
      .ok (Text.closedLines (ranges.map fun range => f.textOf (Query.matching fs ts range))) := by
  obtain ⟨env, hbatch⟩ := exists_run_numbered (exists_run_selectAggregate hlength hfs hts f) ranges 0 .empty
  obtain ⟨heading, hheading, hscript⟩ := exists_aggregateOps_eq column table filter target f ranges intro
  have hlines : (ranges.map fun range => Block.scalars [.of f (Query.matching fs ts range)]) =
      (ranges.map fun range => Aggregate.of f (Query.matching fs ts range)).map fun a => .scalars [a] := by
    rw [List.map_map]
    rfl
  rw [hscript, Run.run_append_of_isInert hheading hbatch, hlines, Layout.text_scalars_singleton,
    List.map_map]
  simp only [Function.comp_def, Aggregate.text_of]

end Ranges

/-- **A batch of projections prints the values of each range**, and a blank line between two ranges. -/
theorem run_projectOps {column : String → ColumnRef} {col1 col3 : List Int64}
    (hlength : col3.length = col1.length) (hcol3 : catalog.resolve (column "col3") = .ok col3)
    (hcol1 : catalog.resolve (column "col1") = .ok col1) (table : String) (ranges : List Predicate)
    (intro : List String) :
    run catalog (projectOps column table ranges intro) =
      .ok ("\n".intercalate (ranges.map fun range =>
        Text.closedLines (Block.sequenceLines (Query.matching col3 col1 range)))) := by
  obtain ⟨env, hbatch⟩ := exists_run_numbered (exists_run_selectPrint hlength hcol3 hcol1) ranges 1 .empty
  obtain ⟨heading, hheading, hscript⟩ := exists_projectOps_eq column table ranges intro
  have hgroups : (ranges.map fun range => Block.ofValues (Query.matching col3 col1 range)) =
      (ranges.map (Query.matching col3 col1)).map .ofValues := by
    rw [List.map_map]
    rfl
  rw [hscript, Run.run_append_of_isInert hheading hbatch, hgroups, Layout.text_ofValues, List.map_map]
  rfl

theorem resolve_generatedColumn {t : Table} {table name : String} {values : List Int64}
    (ht : catalog.generated table = .ok t) (h : t.values name = .ok values) :
    catalog.resolve (generatedColumn table name) = .ok values :=
  Catalog.resolve_eq_ok_iff.2 ⟨t, Catalog.generated_eq_ok_iff.1 ht, h⟩

/-- **Every batch prints its answers.** Over a catalog in which its table is found, a batch of any ranges is
made. A batch of aggregates prints one line for each range; a batch of projections prints the values of each
range line by line, an empty line if there are none, and a blank line between two ranges. -/
theorem run_batches (catalog : Catalog) (table : String) (t : Table)
    (ht : catalog.table generatedDatabase table = .ok t) (ranges : List Predicate) (intro : List String) :
    (∀ filter target fs ts, t.values filter = .ok fs → t.values target = .ok ts → ∀ f,
      ∃ script text, aggregateBatch catalog table filter target f ranges intro = .ok script ∧
        run catalog script = .ok text ∧
        text = Text.closedLines (ranges.map fun range => f.textOf (Query.matching fs ts range)) ∧
        Text.lines text.toList = ranges.map fun range => (f.textOf (Query.matching fs ts range)).toList) ∧
      ∀ col1 col3, t.values "col1" = .ok col1 → t.values "col3" = .ok col3 →
        ∃ script, projectedRanges catalog table ranges intro = .ok script ∧
          run catalog script =
            .ok ("\n".intercalate (ranges.map fun range =>
              Text.closedLines (Block.sequenceLines (Query.matching col3 col1 range)))) := by
  have hfound := Catalog.generated_eq_ok_iff.2 ht
  have hresolve : ∀ name values, t.values name = .ok values →
      catalog.resolve (generatedColumn table name) = .ok values := fun _ _ => resolve_generatedColumn hfound
  have hlength : ∀ name other values values', t.values name = .ok values → t.values other = .ok values' →
      values.length = values'.length := fun _ _ _ _ h h' =>
    (Table.length_of_values_eq_ok h).trans (Table.length_of_values_eq_ok h').symm
  constructor
  · intro filter target fs ts hfs hts f
    refine ⟨_, _, aggregateBatch_eq_ok_iff.2 ⟨⟨t, hfound⟩, rfl⟩, run_aggregateOps (hlength _ _ _ _ hfs hts)
      (hresolve _ _ hfs) (hresolve _ _ hts) table f ranges intro, rfl, ?_⟩
    rw [Text.lines_closedLines, List.map_map]
    · rfl
    · intro l hl c hc
      obtain ⟨range, -, rfl⟩ := List.mem_map.1 hl
      rw [← Aggregate.text_of] at hc
      exact Aggregate.not_isBlank_of_mem_text _ hc
  · intro col1 col3 hcol1 hcol3
    exact ⟨_, projectedRanges_eq_ok_iff.2 ⟨⟨t, hfound⟩, rfl⟩, run_projectOps (hlength _ _ _ _ hcol3 hcol1)
      (hresolve _ _ hcol3) (hresolve _ _ hcol1) table ranges intro⟩

/-- A table of five rows. -/
def fiveRows : Table :=
  ⟨generatedDatabase, "tbl4", 5, [⟨"col1", [7, -3, 5, 4, -9]⟩, ⟨"col3", [0, 1, 3, 0, 3]⟩], by decide, by decide⟩

/-- Three ranges, of which the last one holds no value of the table. -/
def threeRanges : List Predicate :=
  [.range 0 2, .range 2 4, .range 8 9]

/-- The table of five rows under the three ranges. -/
theorem run_batches_fiveRows :
    (∃ script, aggregateBatch (.ofList [fiveRows]) "tbl4" "col3" "col1" .sum threeRanges ["sums"] = .ok script ∧
        run (.ofList [fiveRows]) script = .ok "8\n-4\n0\n") ∧
      (∃ script, aggregateBatch (.ofList [fiveRows]) "tbl4" "col3" "col1" .avg threeRanges ["means"] = .ok script ∧
        run (.ofList [fiveRows]) script = .ok "2.67\n-2.00\n0.00\n") ∧
      ∃ script, projectedRanges (.ofList [fiveRows]) "tbl4" threeRanges ["rows"] = .ok script ∧
        run (.ofList [fiveRows]) script = .ok "7\n-3\n4\n\n5\n-9\n\n\n" := by
  have htable : (Catalog.ofList [fiveRows]).table generatedDatabase "tbl4" = .ok fiveRows := by decide
  have hcol1 : fiveRows.values "col1" = .ok [7, -3, 5, 4, -9] := by decide
  have hcol3 : fiveRows.values "col3" = .ok [0, 1, 3, 0, 3] := by decide
  have hbatches := run_batches _ "tbl4" fiveRows htable threeRanges
  obtain ⟨sums, _, hsums, hsumsRun, rfl, -⟩ := (hbatches ["sums"]).1 "col3" "col1" _ _ hcol3 hcol1 .sum
  obtain ⟨means, _, hmeans, hmeansRun, rfl, -⟩ := (hbatches ["means"]).1 "col3" "col1" _ _ hcol3 hcol1 .avg
  obtain ⟨rows, hrows, hrowsRun⟩ := (hbatches ["rows"]).2 _ _ hcol1 hcol3
  refine ⟨⟨sums, hsums, hsumsRun.trans ?_⟩, ⟨means, hmeans, hmeansRun.trans ?_⟩, rows, hrows, hrowsRun.trans ?_⟩ <;>
    decide +kernel

end Columnar.IndexQueries
