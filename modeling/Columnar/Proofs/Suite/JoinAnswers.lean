import Columnar.Proofs.Suite.Generate
import Columnar.Proofs.Suite.JoinRuns
import Columnar.Proofs.Suite.Reproduction

/-!
# The join suite expects the answers of its queries

Each scenario of the join suite that prints something tells a query over two of the five tables in a
comment. What it expects is the answer of that query over the tables of the suite's data files.

* `JoinQueries.checkedQuery` — the queries, up to the bounds that are planned for them
* `JoinQueries.isChecked_or_isSilent` — the plans: each is for a query's script, or for one that prints nothing
* `JoinQueries.expects_answers` — **every expected text is an answer**
-/

namespace Columnar.JoinQueries

open RangePlanner (isSelectivity)

/-! ## The queries -/

/-- Fact rows with the rows of the second dimension that they refer to, and the sum of a column of the
dimension or of the fact table's constant column. -/
def factWithDim2 (leftBound rightBound : Int64) (ofDimension : Bool) : ProductQuery where
  left := ⟨JoinDataset.factName, "col2", leftBound, "col4"⟩
  right := ⟨JoinDataset.dim2Name, "col1", rightBound, "col1"⟩
  between := ","
  first := ⟨.avg, .left, "col2"⟩
  second := if ofDimension then ⟨.sum, .right, "col2"⟩ else ⟨.sum, .left, "col3"⟩

/-- Fact rows with the rows of the first dimension of the same rank. -/
def factWithDim1 (leftBound rightBound : Int64) : ProductQuery where
  left := ⟨JoinDataset.factName, "col2", leftBound, "col1"⟩
  right := ⟨JoinDataset.dim1Name, "col3", rightBound, "col1"⟩
  between := ","
  first := ⟨.sum, .left, "col2"⟩
  second := ⟨.avg, .right, "col1"⟩

/-- Rows of the two uniform tables with equal first columns. -/
def sel1WithSel2 (leftBound rightBound : Int64) : ProductQuery where
  left := ⟨JoinDataset.sel1Name, "col1", leftBound, "col1"⟩
  right := ⟨JoinDataset.sel2Name, "col2", rightBound, "col1"⟩
  between := ", "
  first := ⟨.sum, .left, "col1"⟩
  second := ⟨.avg, .right, "col2"⟩

/-- The query of a scenario whose output is checked, by the number of the scenario. -/
def checkedQuery (leftBound rightBound : Int64) : Nat → Option ProductQuery
  | 46 | 47 => some (factWithDim2 leftBound rightBound false)
  | 50 => some (factWithDim2 leftBound rightBound true)
  | 48 | 49 | 51 => some (factWithDim1 leftBound rightBound)
  | 52 | 53 | 56 | 57 => some (sel1WithSel2 leftBound rightBound)
  | _ => none

theorem checkedQuery_cases {leftBound rightBound : Int64} {number : Nat} {q : ProductQuery}
    (h : checkedQuery leftBound rightBound number = some q) :
    q = factWithDim2 leftBound rightBound false ∨
      q = factWithDim2 leftBound rightBound true ∨
      q = factWithDim1 leftBound rightBound ∨ q = sel1WithSel2 leftBound rightBound := by
  unfold checkedQuery at h
  split at h <;> simp_all

/-! ## The tables hold what the queries read -/

variable {d : JoinDataset} {sizes : JoinSizes} {config : SuiteConfig}

theorem exists_resolve (hd : d.IsGenerated sizes) {t : Table} (ht : t ∈ d.tables) {name : String}
    {columns : List String} {n : Nat} (hgenerated : t.IsGenerated name columns n) :
    ∀ c ∈ columns, ∃ values, (catalog d).resolve (generatedColumn name c) = .ok values := by
  intro c hc
  obtain ⟨values, hvalues⟩ := Table.exists_values (hgenerated.names_eq.symm ▸ hc)
  have htable := Catalog.generated_eq_ok_iff.1 (generated_catalog hd ht hgenerated)
  exact ⟨values, Catalog.resolve_eq_ok_iff.2 ⟨t, htable, hvalues⟩⟩

/-- **Every query has an answer over the generated tables.** -/
theorem exists_answer (hd : d.IsGenerated sizes) {number : Nat} {leftBound rightBound : Int64}
    {q : ProductQuery} (hq : checkedQuery leftBound rightBound number = some q) :
    ∃ text, q.answer (catalog d) = .ok text := by
  have hfact := exists_resolve hd (by simp [JoinDataset.tables]) hd.fact
  have hdim1 := exists_resolve hd (by simp [JoinDataset.tables]) hd.dim1
  have hdim2 := exists_resolve hd (by simp [JoinDataset.tables]) hd.dim2
  have hsel1 := exists_resolve hd (by simp [JoinDataset.tables]) hd.sel1
  have hsel2 := exists_resolve hd (by simp [JoinDataset.tables]) hd.sel2
  simp only [List.forall_mem_cons] at hfact hdim1 hdim2 hsel1 hsel2
  obtain ⟨fact1, fact2, fact3, fact4, -⟩ := hfact
  obtain ⟨dim1_1, -, dim1_3, -⟩ := hdim1
  obtain ⟨dim2_1, dim2_2, -⟩ := hdim2
  obtain ⟨sel1_1, -⟩ := hsel1
  obtain ⟨sel2_1, sel2_2, -⟩ := hsel2
  refine ProductQuery.exists_answer ?_
  simp only [ProductQuery.references, List.forall_mem_cons]
  rcases checkedQuery_cases hq with rfl | rfl | rfl | rfl
  · exact ⟨fact2, fact4, dim2_1, dim2_1, fact2, fact3, by simp⟩
  · exact ⟨fact2, fact4, dim2_1, dim2_1, fact2, dim2_2, by simp⟩
  · exact ⟨fact2, fact1, dim1_3, dim1_1, fact2, dim1_1, by simp⟩
  · exact ⟨sel1_1, sel1_1, sel2_2, sel2_1, sel1_1, sel2_2, by simp⟩

/-! ## The scenarios -/

variable {s : Selectivity}

/-- The bound that is planned for a share of a domain. -/
def upperBound (domain : Int64) (s : Selectivity) : Int64 :=
  (RangePlanner.ofDomain domain).scaled s.share

theorem upper_eq_ok (hs : isSelectivity s.share = true) (domain : Int64) :
    upper domain s = .ok (.below (upperBound domain s)) :=
  if_pos hs

theorem manyToOne_eq_ok (hs : isSelectivity s.share = true) (sizes : JoinSizes) (ofDimension : Bool) :
    manyToOne sizes s ofDimension =
      .ok ((factWithDim2 (upperBound (baseDomain sizes.fact) s) (upperBound sizes.dim2.toInt64 s) ofDimension).plan
        "col2joined" (if ofDimension then "col2t2joined" else "col3joined")) := by
  rw [manyToOne, upper_eq_ok hs, upper_eq_ok hs]
  cases ofDimension <;> rfl

theorem manyToMany_eq_ok (hs : isSelectivity s.share = true) (sizes : JoinSizes) :
    manyToMany sizes s =
      .ok ((factWithDim1 (upperBound (baseDomain sizes.fact) s) (upperBound (baseDomain sizes.dim1) s)).plan
        "col2joined" "col1joined") := by
  rw [manyToMany, upper_eq_ok hs, upper_eq_ok hs]
  rfl

theorem uniformPair_eq_ok (hs : isSelectivity s.share = true) (sizes : JoinSizes) :
    uniformPair sizes s =
      .ok ((sel1WithSel2 (upperBound (baseDomain sizes.select) s) (upperBound (baseDomain sizes.select) s)).plan
        "col1joined" "col2joined") := by
  rw [uniformPair, upper_eq_ok hs]
  rfl

/-- A plan for the script of its query. -/
def IsChecked (catalog : Catalog) (p : Plan) : Prop :=
  ∃ leftBound rightBound q firstHandle secondHandle intro kind,
    checkedQuery leftBound rightBound p.number = some q ∧
      ["t1", "t2", firstHandle, secondHandle, "a1"].Nodup ∧
      p.script = (q.plan firstHandle secondHandle).script catalog intro kind

/-- A plan without a query, for a script that prints nothing. -/
structure IsSilent (catalog : Catalog) (p : Plan) : Prop where
  unchecked : ∀ leftBound rightBound, checkedQuery leftBound rightBound p.number = none
  exists_script : ∃ script, p.script = .ok script ∧ script.prints = false ∧ Run.run catalog script = .ok ""

theorem isChecked_manyToOnePlan (catalog : Catalog) (hs : isSelectivity s.share = true) (sizes : JoinSizes)
    {number : Nat} {ofDimension : Bool}
    (hquery : ∀ leftBound rightBound, checkedQuery leftBound rightBound number =
      some (factWithDim2 leftBound rightBound ofDimension)) (kind : JoinKind) :
    IsChecked catalog (manyToOnePlan catalog sizes number s kind ofDimension) := by
  rw [manyToOnePlan, manyToOne_eq_ok hs]
  refine ⟨_, _, _, _, _, _, kind, hquery _ _, ?_, rfl⟩
  cases ofDimension <;> decide

theorem isChecked_manyToManyPlan (catalog : Catalog) (hs : isSelectivity s.share = true) (sizes : JoinSizes)
    {number : Nat}
    (hquery : ∀ leftBound rightBound, checkedQuery leftBound rightBound number =
      some (factWithDim1 leftBound rightBound)) (kind : JoinKind) :
    IsChecked catalog (manyToManyPlan catalog sizes number s kind) := by
  rw [manyToManyPlan, manyToMany_eq_ok hs]
  exact ⟨_, _, _, _, _, _, kind, hquery _ _, by decide, rfl⟩

theorem isInert_setupOps (config : SuiteConfig) (dataFiles : List DataFile) :
    ∀ op ∈ setupOps config dataFiles, op.isInert = true := by
  simp only [setupOps, List.forall_mem_append]
  refine ⟨⟨⟨Script.isInert_comments _, fun op hop => ?_⟩, Script.isInert_comments _⟩, by simp [Op.isInert]⟩
  rcases Text.mem_intercalate hop with rfl | ⟨part, hpart, hop⟩
  · rfl
  · obtain ⟨f, -, rfl⟩ := List.mem_map.1 hpart
    rcases List.mem_append.1 hop with hop | hop
    · exact Script.isInert_declare f.table op hop
    · rw [List.mem_singleton.1 hop]
      rfl

theorem isSilent_setup (hd : d.IsGenerated sizes) (config : SuiteConfig) :
    IsSilent (catalog d) (setup config (catalog d)) :=
  have hinert := isInert_setupOps config (dataFilesOf d)
  ⟨fun _ _ => rfl, _, setupScript_eq_ok hd config, Script.prints_of_isInert hinert,
    Run.run_eq_ok (Run.runFrom_of_isInert hinert .empty)⟩

theorem isChecked_uniformPlan (catalog : Catalog) (hs : isSelectivity s.share = true) (sizes : JoinSizes)
    {number : Nat}
    (hquery : ∀ leftBound rightBound, checkedQuery leftBound rightBound number =
      some (sel1WithSel2 leftBound rightBound)) (kind : JoinKind) :
    IsChecked catalog (uniformPlan catalog sizes number s kind .correctness) := by
  rw [uniformPlan, uniformPair_eq_ok hs]
  exact ⟨_, _, _, _, _, _, kind, hquery _ _, by decide, rfl⟩

/-- A query that stops after its join prints nothing. -/
theorem prints_timedScript {q : JoinQuery} {catalog : Catalog} {intro : String} {kind : JoinKind} {script : Script}
    (h : q.timedScript catalog intro kind = .ok script) : script.prints = false := by
  obtain ⟨join, hjoin, rfl⟩ := JoinQuery.timedScript_eq_ok_iff.1 h
  obtain ⟨-, -, rfl⟩ := JoinQuery.joinScript_eq_ok_iff.1 hjoin
  rw [Script.prints_append, JoinQuery.heading, Script.prints_of_isInert (Script.isInert_comments _)]
  rfl

theorem isSilent_uniformPlan (hd : d.IsGenerated sizes) (hs : isSelectivity s.share = true) {number : Nat}
    (hnumber : ∀ leftBound rightBound, checkedQuery leftBound rightBound number = none) (kind : JoinKind) :
    IsSilent (catalog d) (uniformPlan (catalog d) sizes number s kind .performance) := by
  -- a query that has an answer can be joined
  let bound := upperBound (baseDomain sizes.select) s
  obtain ⟨text, htext⟩ := exists_answer hd (show checkedQuery bound bound 52 = some (sel1WithSel2 bound bound) from rfl)
  obtain ⟨l, hl, htext⟩ := Except.bind_eq_ok_iff.1 htext
  obtain ⟨r, hr, -⟩ := Except.bind_eq_ok_iff.1 htext
  obtain ⟨hscript, env, hrun, -⟩ := ProductQuery.run_timedScript hl hr "col1joined" "col2joined"
    ("Join performance test - " ++ kind.text ++ " with selectivities " ++ s.label ++ " and " ++ s.label ++ ".") kind
  refine ⟨hnumber, _, ?_, prints_timedScript hscript, Run.run_eq_ok hrun⟩
  rw [uniformPlan, uniformPair_eq_ok hs]
  exact hscript

/-- Four plans over the uniform tables, of which the first two are checked. -/
theorem isChecked_or_isSilent_uniformPlans (hd : d.IsGenerated sizes) (hs : isSelectivity s.share = true)
    {first : Nat}
    (hquery : ∀ n ∈ [first, first + 1], ∀ leftBound rightBound, checkedQuery leftBound rightBound n =
      some (sel1WithSel2 leftBound rightBound))
    (hnone : ∀ n ∈ [first + 2, first + 3], ∀ leftBound rightBound,
      checkedQuery leftBound rightBound n = none) (kind1 kind2 : JoinKind) :
    ∀ p ∈ uniformPlans (catalog d) sizes first s kind1 kind2, IsChecked (catalog d) p ∨ IsSilent (catalog d) p := by
  simp only [List.forall_mem_cons] at hquery hnone
  obtain ⟨hquery1, hquery2, -⟩ := hquery
  obtain ⟨hnone1, hnone2, -⟩ := hnone
  simp only [uniformPlans, List.forall_mem_cons]
  exact ⟨.inl (isChecked_uniformPlan _ hs sizes hquery1 kind1), .inl (isChecked_uniformPlan _ hs sizes hquery2 kind2),
    .inr (isSilent_uniformPlan hd hs hnone1 kind1), .inr (isSilent_uniformPlan hd hs hnone2 kind2), by simp⟩

theorem map_number_plans (config : SuiteConfig) (catalog : Catalog) :
    (plans config catalog).map Plan.number = List.range' 45 15 := rfl

/-- **The plans over a dataset**: each is for the script of its query, or for one that prints nothing. -/
theorem isChecked_or_isSilent (hd : d.IsGenerated config.joinSizes) :
    ∀ p ∈ plans config (catalog d), IsChecked (catalog d) p ∨ IsSilent (catalog d) p := by
  have hnarrow : isSelectivity (Selectivity.mk 0.15 "0.15").share = true := by decide
  have hwide : isSelectivity (Selectivity.mk 0.8 "0.8").share = true := by decide
  have hsmall : isSelectivity (Selectivity.mk 0.1 "0.1").share = true := by decide
  simp only [plans, List.forall_mem_append, List.forall_mem_cons]
  refine ⟨⟨⟨?_, ?_, ?_, ?_, ?_, ?_, ?_, by simp⟩, ?_⟩, ?_⟩
  · exact .inr (isSilent_setup hd config)
  · exact .inl (isChecked_manyToOnePlan _ hnarrow _ (fun _ _ => rfl) _)
  · exact .inl (isChecked_manyToOnePlan _ hnarrow _ (fun _ _ => rfl) _)
  · exact .inl (isChecked_manyToManyPlan _ hnarrow _ (fun _ _ => rfl) _)
  · exact .inl (isChecked_manyToManyPlan _ hnarrow _ (fun _ _ => rfl) _)
  · exact .inl (isChecked_manyToOnePlan _ hwide _ (fun _ _ => rfl) _)
  · exact .inl (isChecked_manyToManyPlan _ hwide _ (fun _ _ => rfl) _)
  · exact isChecked_or_isSilent_uniformPlans hd hsmall (by simp [checkedQuery]) (by simp [checkedQuery]) _ _
  · exact isChecked_or_isSilent_uniformPlans hd hwide (by simp [checkedQuery]) (by simp [checkedQuery]) _ _

/-! ## The suite -/

/-- **The script of a query is made, tells the query and prints its answer.** -/
theorem IsChecked.exists_answer (hd : d.IsGenerated sizes) {p : Plan} (h : IsChecked (catalog d) p) :
    ∃ leftBound rightBound q script text, checkedQuery leftBound rightBound p.number = some q ∧
      p.script = .ok script ∧ .comment q.text ∈ script ∧ script.prints = true ∧
      q.answer (catalog d) = .ok text ∧ Run.run (catalog d) script = .ok text := by
  obtain ⟨leftBound, rightBound, q, firstHandle, secondHandle, intro, kind, hq, hhandles, hscript⟩ := h
  obtain ⟨text, htext⟩ := JoinQueries.exists_answer hd hq
  obtain ⟨script, hmade, hcomment, hprints, hrun⟩ := q.run_script htext hhandles intro kind
  exact ⟨leftBound, rightBound, q, script, text, hq, hscript.trans hmade, hcomment, hprints, htext, hrun⟩

theorem exists_script (hd : d.IsGenerated config.joinSizes) :
    ∀ p ∈ plans config (catalog d), ∃ script, p.script = .ok script ∧ ∃ text, Run.run (catalog d) script = .ok text := by
  intro p hp
  rcases isChecked_or_isSilent hd p hp with hchecked | hsilent
  · obtain ⟨_, _, _, script, text, _, hscript, _, _, _, hrun⟩ := hchecked.exists_answer hd
    exact ⟨script, hscript, text, hrun⟩
  · obtain ⟨script, hscript, -, hrun⟩ := hsilent.exists_script
    exact ⟨script, hscript, "", hrun⟩

/-- Every dataset makes a suite. -/
theorem exists_suiteOf (hd : d.IsGenerated config.joinSizes) : ∃ s, suiteOf config d = .ok s :=
  Suite.exists_ofPlans ⟨_, dataFiles_catalog hd⟩ (exists_script hd)

/-- Whether there is a query does not depend on the bounds. -/
theorem isSome_checkedQuery (leftBound rightBound : Int64) (number : Nat) :
    (checkedQuery leftBound rightBound number).isSome = (checkedQuery 0 0 number).isSome := by
  unfold checkedQuery
  split <;> rfl

/-- **A scenario prints something iff it has a query**, and then it expects the answer. -/
theorem expects_of_evaluate (hd : d.IsGenerated sizes) {p : Plan} (h : IsChecked (catalog d) p ∨ IsSilent (catalog d) p)
    {c : Scenario} (hc : p.evaluate (catalog d) = .ok c) :
    c.checksOutput = (checkedQuery 0 0 c.number).isSome ∧
      (c.checksOutput = true → ∃ leftBound rightBound q, checkedQuery leftBound rightBound c.number = some q ∧
        .comment q.text ∈ c.script ∧ q.answer (catalog d) = .ok c.expected) := by
  obtain ⟨hscript, houtline, hrun⟩ := Plan.evaluate_eq_ok_iff.1 hc
  have hnumber : c.number = p.number := congrArg Outline.number houtline
  rw [hnumber, Scenario.checksOutput]
  rcases h with hchecked | hsilent
  · obtain ⟨leftBound, rightBound, q, script, text, hq, hmade, hcomment, hprints, htext, hanswer⟩ :=
      hchecked.exists_answer hd
    obtain rfl := Except.ok.inj (hmade.symm.trans hscript)
    obtain rfl := Except.ok.inj (hanswer.symm.trans hrun)
    refine ⟨?_, fun _ => ⟨leftBound, rightBound, q, hq, hcomment, htext⟩⟩
    rw [hprints, ← isSome_checkedQuery leftBound rightBound, hq, Option.isSome_some]
  · obtain ⟨script, hmade, hprints, -⟩ := hsilent.exists_script
    obtain rfl := Except.ok.inj (hmade.symm.trans hscript)
    rw [hprints, hsilent.unchecked]
    exact ⟨rfl, nofun⟩

/-- **Every scenario that prints something expects the answer of the query in its comment**, over the tables
of the suite's data files. -/
theorem expects_answers {σ : Type} [Random.DrawSource σ] {source : σ} {s : Suite}
    (h : Suite.generateFrom config source .join = .ok s) :
    (s.scenarios.filter Scenario.checksOutput).map (fun c => c.number) =
        [46, 47, 48, 49, 50, 51, 52, 53, 56, 57] ∧
      ∀ c ∈ s.scenarios, c.checksOutput = true → ∃ leftBound rightBound q,
        checkedQuery leftBound rightBound c.number = some q ∧ .comment q.text ∈ c.script ∧
          q.answer (.ofList (s.dataFiles.map DataFile.table)) = .ok c.expected := by
  obtain ⟨d, hd, h⟩ := Suite.generateFrom_join_eq_ok h
  obtain ⟨hscenarios, hfiles, -⟩ := Suite.ofPlans_eq_ok_iff.1 h
  rw [← catalog_eq_dataFiles hd hfiles]
  have hform : ∀ c ∈ s.scenarios, c.checksOutput = (checkedQuery 0 0 c.number).isSome ∧
      (c.checksOutput = true → ∃ leftBound rightBound q, checkedQuery leftBound rightBound c.number = some q ∧
        .comment q.text ∈ c.script ∧ q.answer (catalog d) = .ok c.expected) := by
    intro c hc
    obtain ⟨p, hp, heval⟩ := Except.exists_of_mem_mapM hscenarios hc
    exact expects_of_evaluate hd (isChecked_or_isSilent hd p hp) heval
  refine ⟨?_, fun c hc => (hform c hc).2⟩
  rw [List.filter_congr fun c hc => (hform c hc).1]
  show List.map _ (List.filter ((fun n => (checkedQuery 0 0 n).isSome) ∘ fun c => c.number) s.scenarios) = _
  rw [← List.filter_map, Suite.map_number hscenarios, map_number_plans]
  rfl

/-- A fact table of four rows with two dimensions of three rows. -/
def smallStar : Catalog :=
  .ofList [
    ⟨generatedDatabase, JoinDataset.factName, 4,
      [⟨"col1", [1, 2, 1, 2]⟩, ⟨"col2", [5, -3, 2, 9]⟩, ⟨"col3", [7, 7, 7, 7]⟩, ⟨"col4", [1, 2, 1, 3]⟩],
      by decide, by decide⟩,
    ⟨generatedDatabase, JoinDataset.dim1Name, 3,
      [⟨"col1", [2, 1, 2]⟩, ⟨"col2", [4, 5, 6]⟩, ⟨"col3", [0, 3, 1]⟩], by decide, by decide⟩,
    ⟨generatedDatabase, JoinDataset.dim2Name, 3, [⟨"col1", [1, 2, 3]⟩, ⟨"col2", [40, 50, 60]⟩],
      by decide, by decide⟩]

/-- The standard join suite, and answers over the small star: three pairs of rows with the second dimension,
whose mean is 4/3, and four with the first one, whose mean is 3/2. -/
theorem expects_answers_standard :
    (∃ s, Suite.generate .standard .join = .ok s ∧
      ∀ c ∈ s.scenarios, c.checksOutput = true → ∃ leftBound rightBound q,
        checkedQuery leftBound rightBound c.number = some q ∧ .comment q.text ∈ c.script ∧
          q.answer (.ofList (s.dataFiles.map DataFile.table)) = .ok c.expected) ∧
      (factWithDim2 9 3 true).answer smallStar = .ok "1.33,130\n" ∧
      (factWithDim1 9 9).answer smallStar = .ok "1,1.50\n" := by
  refine ⟨?_, by decide +kernel, by decide +kernel⟩
  have hzipf : ∃ zipf, Zipf.of SuiteConfig.standard.zipfSkew SuiteConfig.standard.zipfDomain.toNat = .ok zipf :=
    ⟨_, if_pos (by decide)⟩
  have hsizes : SuiteConfig.standard.joinSizes.IsGenerable := by
    constructor <;> decide
  obtain ⟨d, hd, hdrawn⟩ := Suite.exists_generateFrom_join hzipf hsizes
    (Random.Stream.ofSeed SuiteConfig.standard.seed)
  obtain ⟨s, hs⟩ := exists_suiteOf hd
  exact ⟨s, hdrawn.trans hs, (expects_answers (hdrawn.trans hs)).2⟩

end Columnar.JoinQueries
