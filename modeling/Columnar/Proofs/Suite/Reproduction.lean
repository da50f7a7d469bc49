import Columnar.Proofs.Script.RoundTrip
import Columnar.Proofs.Suite.IndexRuns
import Columnar.Proofs.Suite.IndexScripts
import Columnar.Proofs.Suite.JoinScripts
import Columnar.Proofs.Suite.Plans

/-!
# Suites reproduce what they expect

Every script of a suite reads back from its text and, over the tables of the suite's data files, prints
what its scenario expects. The only texts that come from outside are the paths of load operations: the
scripts read back iff the configured directory holds neither a comma nor a line feed, and whether they
do or not, they print what is expected.

* `Suite.parses_iff` — scripts of canonical operations and loads
* `Suite.parses_iff_and_reproduces` — **both, for every suite that is generated**
-/

namespace Columnar

namespace Suite

variable {config : SuiteConfig} {catalog : Catalog} {plans : List Plan} {scenarios : List Scenario}

/-- **If some script loads a file, all scripts read back iff loads do.** -/
theorem parses_iff (h : plans.mapM (Plan.evaluate catalog) = .ok scenarios)
    (hops : ∀ p ∈ plans, ∀ script, p.script = .ok script → ∀ op ∈ script, Op.IsCanonicalOrLoad config op)
    (hload : ∃ p ∈ plans, ∃ script file, p.script = .ok script ∧ (Op.load file).IsCanonical ∧
      .load (config.loadPath file) ∈ script) :
    (∀ c ∈ scenarios, Script.parse c.script.text = .ok c.script) ↔
      ',' ∉ config.loadDirectory.toList ∧ '\n' ∉ config.loadDirectory.toList := by
  constructor
  · intro hparse
    -- a script that reads back has canonical operations only, its load among them
    obtain ⟨p, hp, script, file, hscript, hfile, hmem⟩ := hload
    obtain ⟨c, hc, heval⟩ := Except.exists_mem_of_mapM h hp
    obtain rfl := Except.ok.inj (hscript.symm.trans (Plan.evaluate_eq_ok_iff.1 heval).1)
    exact (Op.isCanonical_load_iff config hfile).1 (Script.isCanonical_of_parse (hparse c hc) _ hmem)
  · intro hdirectory c hc
    obtain ⟨p, hp, heval⟩ := Except.exists_of_mem_mapM h hc
    refine Script.parse_text_of_isCanonical fun op hop => ?_
    rcases hops p hp c.script (Plan.evaluate_eq_ok_iff.1 heval).1 op hop with hcanonical | ⟨file, hfile, rfl⟩
    · exact hcanonical
    · exact (Op.isCanonical_load_iff config hfile).2 hdirectory

/-- Every script prints what its scenario expects. -/
theorem run_of_mem (h : plans.mapM (Plan.evaluate catalog) = .ok scenarios) :
    ∀ c ∈ scenarios, Run.run catalog c.script = .ok c.expected := by
  intro c hc
  obtain ⟨p, -, heval⟩ := Except.exists_of_mem_mapM h hc
  exact (Plan.evaluate_eq_ok_iff.1 heval).2.2

end Suite

/-! ## Setup scenarios load files -/

theorem IndexQueries.exists_load {d : IndexDataset} {n : Nat}
    (hd : d.table.IsGenerated IndexDataset.tableName IndexDataset.columnNames n) (config : SuiteConfig) (r : Ranges) :
    ∃ p ∈ plans config (catalog d) d r, ∃ script file, p.script = .ok script ∧ (Op.load file).IsCanonical ∧
      .load (config.loadPath file) ∈ script := by
  refine ⟨_, List.mem_append_left _ (List.mem_cons_self ..), _, Copy.control.file, setupScript_eq_ok hd .., by decide,
    ?_⟩
  simp [setupOps]

theorem JoinQueries.exists_load {d : JoinDataset} {sizes : JoinSizes} (hd : d.IsGenerated sizes)
    (config : SuiteConfig) :
    ∃ p ∈ plans config (catalog d), ∃ script file, p.script = .ok script ∧ (Op.load file).IsCanonical ∧
      .load (config.loadPath file) ∈ script := by
  refine ⟨setup config (catalog d), by simp [plans], _, "data5_fact.csv", setupScript_eq_ok hd config, by decide, ?_⟩
  simp [setupOps, dataFilesOf, List.intercalate_cons_cons]

/-! ## The catalogs of the suites -/

/-- The catalog of a suite is made of the tables of its data files. -/
theorem IndexQueries.catalog_eq_dataFiles {d : IndexDataset} {n : Nat}
    (hd : d.table.IsGenerated IndexDataset.tableName IndexDataset.columnNames n) {dataFiles : List DataFile}
    (h : (catalog d).dataFiles files = .ok dataFiles) : catalog d = .ofList (dataFiles.map DataFile.table) := by
  obtain rfl := Except.ok.inj ((dataFiles_catalog hd).symm.trans h)
  rw [catalog_eq hd, List.map_map]
  rfl

theorem JoinQueries.catalog_eq_dataFiles {d : JoinDataset} {sizes : JoinSizes} (hd : d.IsGenerated sizes)
    {dataFiles : List DataFile} (h : (catalog d).dataFiles files = .ok dataFiles) :
    catalog d = .ofList (dataFiles.map DataFile.table) := by
  obtain rfl := Except.ok.inj ((dataFiles_catalog hd).symm.trans h)
  rfl

/-! ## Generated suites -/

namespace Suite

open Columnar.Random

/-- **For every suite that is generated, the scripts read back iff the configured directory holds neither
a comma nor a line feed, and over the tables of its data files each script prints what its scenario
expects.** -/
theorem parses_iff_and_reproduces {σ : Type} [DrawSource σ] {config : SuiteConfig} {source : σ}
    {name : SuiteName} {s : Suite} (h : generateFrom config source name = .ok s) :
    ((∀ c ∈ s.scenarios, Script.parse c.script.text = .ok c.script) ↔
      ',' ∉ config.loadDirectory.toList ∧ '\n' ∉ config.loadDirectory.toList) ∧
    ∀ c ∈ s.scenarios, Run.run (.ofList (s.dataFiles.map DataFile.table)) c.script = .ok c.expected := by
  cases name with
  | index =>
    obtain ⟨d, r, hd, h⟩ := generateFrom_index_eq_ok h
    obtain ⟨hscenarios, hfiles, -⟩ := ofPlans_eq_ok_iff.1 h
    rw [← IndexQueries.catalog_eq_dataFiles hd.table hfiles]
    exact ⟨parses_iff hscenarios (IndexQueries.forall_mem_plans hd.table hd.swept config)
      (IndexQueries.exists_load hd.table config r), run_of_mem hscenarios⟩
  | join =>
    obtain ⟨d, hd, h⟩ := generateFrom_join_eq_ok h
    obtain ⟨hscenarios, hfiles, -⟩ := ofPlans_eq_ok_iff.1 h
    rw [← JoinQueries.catalog_eq_dataFiles hd hfiles]
    exact ⟨parses_iff hscenarios (JoinQueries.forall_mem_plans hd config) (JoinQueries.exists_load hd config),
      run_of_mem hscenarios⟩

/-- The standard index suite, whose directory is a plain path. -/
theorem parses_and_reproduces_standard :
    ∃ s, generate .standard .index = .ok s ∧
      (∀ c ∈ s.scenarios, Script.parse c.script.text = .ok c.script) ∧
      ∀ c ∈ s.scenarios, Run.run (.ofList (s.dataFiles.map DataFile.table)) c.script = .ok c.expected := by
  obtain ⟨d, r, hd, hdrawn⟩ := exists_generateFrom_index (show 0 < baseDomain SuiteConfig.standard.indexRows
    by decide) (Stream.ofSeed SuiteConfig.standard.seed)
  obtain ⟨s, hs⟩ := IndexQueries.exists_suiteOf hd
  obtain ⟨hparses, hreproduces⟩ := parses_iff_and_reproduces (hdrawn.trans hs)
  exact ⟨s, hdrawn.trans hs, hparses.2 (by decide), hreproduces⟩

end Suite

end Columnar
