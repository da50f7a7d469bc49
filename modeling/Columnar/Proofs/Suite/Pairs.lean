import Columnar.Proofs.Run.Composition
import Columnar.Proofs.Run.Labels
import Columnar.Proofs.Run.Sorting
import Columnar.Proofs.Suite.BatchRuns
import Columnar.Proofs.Suite.ExpectedLines
import Columnar.Proofs.Suite.Outcomes

/-!
# Scenarios that expect the same text

An answer depends on values alone. So two scenarios of the index suite that put the same ranges to two
copies of the table expect the same text, and so do two scenarios of the join suite that differ in the
kind of join. Scenarios that only load or only measure time expect no text at all.

The scenarios of a suite are found by their numbers, and these are all different; so each of the theorems
below is one about the scripts of the two plans that the suite is made of.

* `Suite.IsMadeOf.expectsSame`, `Suite.IsMadeOf.expectsNothing` — scenarios from their plans
* `IndexQueries.run_projectedRanges_copy`, `IndexQueries.run_aggregateBatch_copy` — copies of a table
* `JoinQueries.run_planned_congr` — kinds of joins
* `Suite.generateFrom_pairs` — **the pairs of both suites**
-/

namespace Columnar

/-! ## The tables of a script -/

namespace Script

/-- Whether a script reads a column of a table. -/
def Reads (s : Script) (table : String) : Prop :=
  ∃ op ∈ s, ∃ r ∈ op.column?, r.table = table

/-- Whether a script reads one table and no other. -/
def ReadsOnly (s : Script) (table : String) : Prop :=
  ∀ other, s.Reads other ↔ other = table

variable {s s' : Script} {table : String}

theorem reads_append : (s ++ s').Reads table ↔ s.Reads table ∨ s'.Reads table := by
  simp only [Reads, List.mem_append, or_and_right, exists_or]

theorem not_reads (h : ∀ op ∈ s, op.column? = none) : ¬ s.Reads table := by
  rintro ⟨op, hop, r, hr, -⟩
  rw [h op hop] at hr
  cases hr

theorem ReadsOnly.append_left (h : s'.ReadsOnly table) (hs : ∀ op ∈ s, op.column? = none) :
    (s ++ s').ReadsOnly table := by
  intro other
  rw [reads_append, ← h other]
  exact or_iff_right (not_reads hs)

theorem ReadsOnly.append_right (h : s.ReadsOnly table) (hs' : ∀ op ∈ s', op.column? = none) :
    (s ++ s').ReadsOnly table := by
  intro other
  rw [reads_append, ← h other]
  exact or_iff_left (not_reads hs')

/-- Parts that all read one table read that table only, if there is a part. -/
theorem readsOnly_flatMap {α : Type} {xs : List α} (hne : xs ≠ []) {part : α → Script}
    (h : ∀ x ∈ xs, (part x).ReadsOnly table) : Script.ReadsOnly (xs.flatMap part) table := by
  intro other
  constructor
  · rintro ⟨op, hop, hreads⟩
    obtain ⟨x, hx, hop⟩ := List.mem_flatMap.1 hop
    exact (h x hx other).1 ⟨op, hop, hreads⟩
  · intro hother
    obtain ⟨x, hx⟩ := List.exists_mem_of_ne_nil xs hne
    obtain ⟨op, hop, hreads⟩ := (h x hx other).2 hother
    exact ⟨op, List.mem_flatMap.2 ⟨x, hx, hop⟩, hreads⟩

end Script

/-! ## Scenarios and their plans -/

namespace Suite

/-- Whether two scenarios of a suite expect the same text. -/
def ExpectsSame (s : Suite) (m n : Nat) : Prop :=
  ∃ a b, s.scenario? m = some a ∧ s.scenario? n = some b ∧ a.expected = b.expected

/-- Whether of two scenarios of a suite the first one reads one table only and the second one another. -/
def ReadsApart (s : Suite) (m n : Nat) (table other : String) : Prop :=
  ∃ a b, s.scenario? m = some a ∧ s.scenario? n = some b ∧ a.script.ReadsOnly table ∧ b.script.ReadsOnly other

/-- Whether a scenario of a suite expects no text, and no output is compared with it. -/
def ExpectsNothing (s : Suite) (n : Nat) : Prop :=
  ∃ c, s.scenario? n = some c ∧ c.expected = "" ∧ c.checksOutput = false

/-- Scenarios of different numbers are found by their numbers. -/
theorem scenario?_of_mem {s : Suite} (hnodup : s.numbers.Nodup) {c : Scenario} (hc : c ∈ s.scenarios) :
    s.scenario? c.number = some c := by
  exact (find?_key_eq_some_iff hnodup).2 ⟨hc, rfl⟩

/-- A suite with one scenario for each of some plans, which have different numbers. -/
structure IsMadeOf (s : Suite) (catalog : Catalog) (plans : List Plan) : Prop where
  evaluate_eq : plans.mapM (Plan.evaluate catalog) = .ok s.scenarios
  numbers_nodup : s.numbers.Nodup

namespace IsMadeOf

variable {s : Suite} {catalog : Catalog} {plans : List Plan} {p p' : Plan} {m n : Nat}

/-- A scenario is found by the number of its plan. -/
theorem exists_scenario? (h : s.IsMadeOf catalog plans) {i : Nat} (hp : plans[i]? = some p) (hn : p.number = n) :
    ∃ c, s.scenario? n = some c ∧ p.script = .ok c.script ∧ Run.run catalog c.script = .ok c.expected := by
  obtain ⟨c, hc, heval⟩ := Except.exists_mem_of_mapM h.evaluate_eq (List.mem_of_getElem? hp)
  obtain ⟨hscript, houtline, hrun⟩ := Plan.evaluate_eq_ok_iff.1 heval
  have hnumber : c.number = n := (congrArg Outline.number houtline).trans hn
  subst hnumber
  exact ⟨c, scenario?_of_mem h.numbers_nodup hc, hscript, hrun⟩

/-- Scenarios with scripts of one answer expect the same text. -/
theorem expectsSame (h : s.IsMadeOf catalog plans) (i j : Nat) (hp : plans[i]? = some p)
    (hp' : plans[j]? = some p') (hm : p.number = m) (hn : p'.number = n)
    (hrun : ∀ script script', p.script = .ok script → p'.script = .ok script' →
      Run.run catalog script = Run.run catalog script') : s.ExpectsSame m n := by
  obtain ⟨a, ha, hscript, hruna⟩ := h.exists_scenario? hp hm
  obtain ⟨b, hb, hscript', hrunb⟩ := h.exists_scenario? hp' hn
  rw [hrun _ _ hscript hscript', hrunb] at hruna
  exact ⟨a, b, ha, hb, (Except.ok.inj hruna).symm⟩

theorem readsApart (h : s.IsMadeOf catalog plans) (i j : Nat) (hp : plans[i]? = some p)
    (hp' : plans[j]? = some p') (hm : p.number = m) (hn : p'.number = n) {table other : String}
    (htable : ∀ script, p.script = .ok script → script.ReadsOnly table)
    (hother : ∀ script, p'.script = .ok script → script.ReadsOnly other) : s.ReadsApart m n table other := by
  obtain ⟨a, ha, hscript, -⟩ := h.exists_scenario? hp hm
  obtain ⟨b, hb, hscript', -⟩ := h.exists_scenario? hp' hn
  exact ⟨a, b, ha, hb, htable _ hscript, hother _ hscript'⟩

/-- A scenario whose script prints nothing expects no text. -/
theorem expectsNothing (h : s.IsMadeOf catalog plans) (i : Nat) (hp : plans[i]? = some p) (hn : p.number = n)
    (hsilent : ∀ script, p.script = .ok script → script.prints = false) : s.ExpectsNothing n := by
  obtain ⟨c, hc, hscript, hrun⟩ := h.exists_scenario? hp hn
  have hprints := hsilent _ hscript
  exact ⟨c, hc, (Run.eq_empty_iff_of_run hrun).2 hprints, hprints⟩

end IsMadeOf

end Suite

/-! ## Copies of a table -/

namespace IndexQueries

variable {config : SuiteConfig} {d : IndexDataset} {r : Ranges} {s : Suite}

/-- A column of every copy is resolved to the values of the generated table. -/
theorem exists_resolve_copies (hd : IsDrawn config d r) {name : String} (hname : name ∈ IndexDataset.columnNames) :
    ∃ values, values.length = d.table.rowCount ∧
      ∀ c : Copy, (catalog d).resolve (generatedColumn c.name name) = .ok values := by
  rw [← hd.table.names_eq] at hname
  obtain ⟨values, hvalues⟩ := Table.exists_values hname
  refine ⟨values, Table.length_of_values_eq_ok hvalues, fun c => ?_⟩
  exact resolve_generatedColumn (generated_catalog hd.table c) (Table.values_renamed hvalues c.name)

variable {c c' : Copy} {ranges : List Predicate} {intro intro' : List String} {script script' : Script}

/-- **Ranges print the same over every copy.** -/
theorem run_projectedRanges_copy (hd : IsDrawn config d r)
    (h : projectedRanges (catalog d) c.name ranges intro = .ok script)
    (h' : projectedRanges (catalog d) c'.name ranges intro' = .ok script') :
    Run.run (catalog d) script = Run.run (catalog d) script' := by
  obtain ⟨-, rfl⟩ := projectedRanges_eq_ok_iff.1 h
  obtain ⟨-, rfl⟩ := projectedRanges_eq_ok_iff.1 h'
  obtain ⟨col1, hlength1, hcol1⟩ := exists_resolve_copies hd (show "col1" ∈ _ by decide)
  obtain ⟨col3, hlength3, hcol3⟩ := exists_resolve_copies hd (show "col3" ∈ _ by decide)
  have hlength := hlength3.trans hlength1.symm
  rw [run_projectOps hlength (hcol3 c) (hcol1 c), run_projectOps hlength (hcol3 c') (hcol1 c')]

/-- **Aggregates over ranges print the same over every copy.** -/
theorem run_aggregateBatch_copy (hd : IsDrawn config d r) {filter target : String}
    (hfilter : filter ∈ IndexDataset.columnNames) (htarget : target ∈ IndexDataset.columnNames)
    {f : AggregateFunction} (h : aggregateBatch (catalog d) c.name filter target f ranges intro = .ok script)
    (h' : aggregateBatch (catalog d) c'.name filter target f ranges intro' = .ok script') :
    Run.run (catalog d) script = Run.run (catalog d) script' := by
  obtain ⟨-, rfl⟩ := aggregateBatch_eq_ok_iff.1 h
  obtain ⟨-, rfl⟩ := aggregateBatch_eq_ok_iff.1 h'
  obtain ⟨fs, hlengthFs, hfs⟩ := exists_resolve_copies hd hfilter
  obtain ⟨ts, hlengthTs, hts⟩ := exists_resolve_copies hd htarget
  have hlength := hlengthFs.trans hlengthTs.symm
  rw [run_aggregateOps hlength (hfs c) (hts c), run_aggregateOps hlength (hfs c') (hts c')]

theorem readsOnly_selectFetch (table filter target : String) (n : Nat) (range : Predicate) :
    (selectFetch (generatedColumn table) filter target n range).ReadsOnly table := by
  intro other
  simp [Script.Reads, selectFetch, Op.column?, generatedColumn, eq_comm]

theorem readsOnly_projectedRanges {catalog : Catalog} {table : String} (hne : ranges ≠ [])
    (h : projectedRanges catalog table ranges intro = .ok script) : script.ReadsOnly table := by
  obtain ⟨-, rfl⟩ := projectedRanges_eq_ok_iff.1 h
  obtain ⟨heading, hheading, hscript⟩ := exists_projectOps_eq (generatedColumn table) table ranges intro
  rw [hscript]
  refine Script.ReadsOnly.append_left ?_ fun op hop => Op.column?_of_isInert (hheading op hop)
  refine Script.readsOnly_flatMap (by simpa using hne) fun rn _ => ?_
  exact (readsOnly_selectFetch table "col3" "col1" rn.2 rn.1).append_right (by simp [Op.column?])

theorem readsOnly_aggregateBatch {catalog : Catalog} {table filter target : String} {f : AggregateFunction}
    (hne : ranges ≠ []) (h : aggregateBatch catalog table filter target f ranges intro = .ok script) :
    script.ReadsOnly table := by
  obtain ⟨-, rfl⟩ := aggregateBatch_eq_ok_iff.1 h
  obtain ⟨heading, hheading, hscript⟩ :=
    exists_aggregateOps_eq (generatedColumn table) table filter target f ranges intro
  rw [hscript]
  refine Script.ReadsOnly.append_left ?_ fun op hop => Op.column?_of_isInert (hheading op hop)
  refine Script.readsOnly_flatMap (by simpa using hne) fun rn _ => ?_
  exact (readsOnly_selectFetch table filter target rn.2 rn.1).append_right (by simp [Op.column?])

/-! ## The index suite -/

theorem isMadeOf_suiteOf (hd : IsDrawn config d r) (h : suiteOf config d r = .ok s) :
    s.IsMadeOf (catalog d) (plans config (catalog d) d r) :=
  ⟨(Suite.ofPlans_eq_ok_iff.1 h).1, numbers_of_suiteOf hd h ▸ List.nodup_range'⟩

/-- Scenarios without indexes expect what those with them do. -/
theorem pairs_of_suiteOf (hd : IsDrawn config d r) (h : suiteOf config d r = .ok s) :
    ∀ p ∈ [(22, 23), (25, 26), (28, 29)],
      s.ExpectsSame p.1 p.2 ∧ s.ReadsApart p.1 p.2 Copy.control.name Copy.sorted.name := by
  have hs := isMadeOf_suiteOf hd h
  have hasked := hd.asked
  simp only [List.forall_mem_cons] at hasked
  obtain ⟨hnarrow, hsums, haverages, -⟩ := hasked
  simp only [List.forall_mem_cons]
  -- the two scenarios of a pair stand side by side among the plans
  refine ⟨⟨?_, ?_⟩, ⟨?_, ?_⟩, ⟨?_, ?_⟩, by simp⟩
  · exact hs.expectsSame 2 3 rfl rfl rfl rfl fun _ _ => run_projectedRanges_copy hd
  · exact hs.readsApart 2 3 rfl rfl rfl rfl (fun _ => readsOnly_projectedRanges hnarrow)
      fun _ => readsOnly_projectedRanges hnarrow
  · exact hs.expectsSame 5 6 rfl rfl rfl rfl fun _ _ => run_aggregateBatch_copy hd (by decide) (by decide)
  · exact hs.readsApart 5 6 rfl rfl rfl rfl (fun _ => readsOnly_aggregateBatch hsums)
      fun _ => readsOnly_aggregateBatch hsums
  · exact hs.expectsSame 8 9 rfl rfl rfl rfl fun _ _ => run_aggregateBatch_copy hd (by decide) (by decide)
  · exact hs.readsApart 8 9 rfl rfl rfl rfl (fun _ => readsOnly_aggregateBatch haverages)
      fun _ => readsOnly_aggregateBatch haverages

theorem prints_setupScript {catalog : Catalog} {title : String}
    (h : setupScript config catalog c title = .ok script) : script.prints = false := by
  obtain ⟨t, -, h⟩ := Except.bind_eq_ok_iff.1 h
  obtain rfl := Except.ok.inj h
  exact Script.prints_of_isInert (isInert_setupOps config t c title)

/-- The scenarios that load the copies print nothing. -/
theorem expectsNothing_of_suiteOf (hd : IsDrawn config d r) (h : suiteOf config d r = .ok s) :
    ∀ n ∈ [20, 21, 30], s.ExpectsNothing n := by
  have hs := isMadeOf_suiteOf hd h
  have hsilent : ∀ (i : Nat) (c : Copy) (n : Nat) (title : String),
      (plans config (catalog d) d r)[i]? = some (setup config (catalog d) c n title) → s.ExpectsNothing n :=
    fun i c n title hi => hs.expectsNothing i hi rfl fun _ => prints_setupScript
  simp only [List.forall_mem_cons]
  exact ⟨hsilent 0 _ _ _ rfl, hsilent 1 _ _ _ rfl, hsilent 10 _ _ _ rfl, by simp⟩

end IndexQueries

/-! ## The join suite -/

namespace JoinQueries

variable {config : SuiteConfig} {d : JoinDataset} {s : Suite}

/-- **The kind of the join is a label of a query's script.** -/
theorem run_planned_congr {catalog : Catalog} {query : Except SuiteError JoinQuery} {intro intro' : String}
    {kind kind' : JoinKind} {script script' : Script}
    (h : (query >>= fun q => q.script catalog intro kind) = .ok script)
    (h' : (query >>= fun q => q.script catalog intro' kind') = .ok script') :
    Run.run catalog script = Run.run catalog script' := by
  have hform : ∀ {q : JoinQuery} {intro kind script}, q.script catalog intro kind = .ok script →
      script = q.heading intro ++ q.joinOps (generatedColumn q.left.table) (generatedColumn q.right.table) kind ++
        q.measureOps (generatedColumn q.first.table) (generatedColumn q.second.table) := by
    intro q intro kind script h
    obtain ⟨timed, htimed, measures, hmeasures, rfl⟩ := JoinQuery.script_eq_ok_iff.1 h
    obtain ⟨join, hjoin, rfl⟩ := JoinQuery.timedScript_eq_ok_iff.1 htimed
    obtain ⟨-, -, rfl⟩ := JoinQuery.joinScript_eq_ok_iff.1 hjoin
    obtain ⟨-, -, rfl⟩ := JoinQuery.measureScript_eq_ok_iff.1 hmeasures
    rfl
  obtain ⟨q, hq, h⟩ := Except.bind_eq_ok_iff.1 h
  obtain ⟨q', hq', h'⟩ := Except.bind_eq_ok_iff.1 h'
  obtain rfl := Except.ok.inj (hq.symm.trans hq')
  rw [hform h, hform h']
  exact Run.run_congr_of_relabel (fun _ => .hash) rfl

theorem isMadeOf_suiteOf (h : suiteOf config d = .ok s) : s.IsMadeOf (catalog d) (plans config (catalog d)) :=
  ⟨(Suite.ofPlans_eq_ok_iff.1 h).1, numbers_of_suiteOf h ▸ List.nodup_range'⟩

/-- Scenarios that differ in the kind of join expect the same. -/
theorem pairs_of_suiteOf (h : suiteOf config d = .ok s) :
    ∀ p ∈ [(46, 47), (48, 49), (52, 53), (56, 57)], s.ExpectsSame p.1 p.2 := by
  have hs := isMadeOf_suiteOf h
  simp only [List.forall_mem_cons]
  refine ⟨?_, ?_, ?_, ?_, by simp⟩
  · exact hs.expectsSame 1 2 rfl rfl rfl rfl fun _ _ => run_planned_congr
  · exact hs.expectsSame 3 4 rfl rfl rfl rfl fun _ _ => run_planned_congr
  · exact hs.expectsSame 7 8 rfl rfl rfl rfl fun _ _ => run_planned_congr
  · exact hs.expectsSame 11 12 rfl rfl rfl rfl fun _ _ => run_planned_congr

theorem prints_setupScript {catalog : Catalog} {script : Script} (h : setupScript config catalog = .ok script) :
    script.prints = false := by
  obtain ⟨dataFiles, -, h⟩ := Except.bind_eq_ok_iff.1 h
  obtain rfl := Except.ok.inj h
  exact Script.prints_of_isInert (isInert_setupOps config dataFiles)

theorem prints_uniformPlan {catalog : Catalog} {sizes : JoinSizes} {number : Nat} {sel : Selectivity}
    {kind : JoinKind} {script : Script}
    (h : (uniformPlan catalog sizes number sel kind .performance).script = .ok script) : script.prints = false := by
  obtain ⟨q, -, h⟩ := Except.bind_eq_ok_iff.1 h
  exact prints_timedScript h

/-- The scenarios that load the tables or stop after their join print nothing. -/
theorem expectsNothing_of_suiteOf (h : suiteOf config d = .ok s) :
    ∀ n ∈ [45, 54, 55, 58, 59], s.ExpectsNothing n := by
  have hs := isMadeOf_suiteOf h
  simp only [List.forall_mem_cons]
  refine ⟨?_, ?_, ?_, ?_, ?_, by simp⟩
  · exact hs.expectsNothing 0 rfl rfl fun _ => prints_setupScript
  · exact hs.expectsNothing 9 rfl rfl fun _ => prints_uniformPlan
  · exact hs.expectsNothing 10 rfl rfl fun _ => prints_uniformPlan
  · exact hs.expectsNothing 13 rfl rfl fun _ => prints_uniformPlan
  · exact hs.expectsNothing 14 rfl rfl fun _ => prints_uniformPlan

end JoinQueries

/-! ## Both suites -/

namespace Suite

/-- **Scenarios of a pair expect the same text, whatever is drawn**: in the index suite they put the same
ranges to two copies of the table, in the join suite they differ in the kind of join. Scenarios that load or
measure time expect nothing. -/
theorem generateFrom_pairs {σ : Type} [Random.DrawSource σ] (config : SuiteConfig) (source : σ) :
    (∀ s, generateFrom config source .index = .ok s →
      (∀ p ∈ [(22, 23), (25, 26), (28, 29)], s.ExpectsSame p.1 p.2 ∧
        s.ReadsApart p.1 p.2 IndexQueries.Copy.control.name IndexQueries.Copy.sorted.name) ∧
      ∀ n ∈ [20, 21, 30], s.ExpectsNothing n) ∧
    ∀ s, generateFrom config source .join = .ok s →
      (∀ p ∈ [(46, 47), (48, 49), (52, 53), (56, 57)], s.ExpectsSame p.1 p.2) ∧
      ∀ n ∈ [45, 54, 55, 58, 59], s.ExpectsNothing n := by
  constructor
  · intro s h
    obtain ⟨d, r, hd, h⟩ := generateFrom_index_eq_ok h
    exact ⟨IndexQueries.pairs_of_suiteOf hd h, IndexQueries.expectsNothing_of_suiteOf hd h⟩
  · intro s h
    obtain ⟨d, -, h⟩ := generateFrom_join_eq_ok h
    exact ⟨JoinQueries.pairs_of_suiteOf h, JoinQueries.expectsNothing_of_suiteOf h⟩

/-- The standard suites. -/
theorem generate_pairs_standard :
    (∃ s, generate .standard .index = .ok s ∧ s.ExpectsSame 28 29 ∧
      s.ReadsApart 28 29 "tbl4_ctrl" "tbl4" ∧ s.ExpectsNothing 30) ∧
    ∃ s, generate .standard .join = .ok s ∧ s.ExpectsSame 56 57 ∧ s.ExpectsNothing 59 := by
  let source := Random.Stream.ofSeed SuiteConfig.standard.seed
  obtain ⟨hindex, hjoin⟩ := generateFrom_pairs .standard source
  obtain ⟨s, hs⟩ := (exists_index_iff .standard source).2 (by decide)
  obtain ⟨s', hs'⟩ := (exists_join_iff .standard source).2 (by decide)
  obtain ⟨hpairs, hnothing⟩ := hindex s hs
  obtain ⟨hpairs', hnothing'⟩ := hjoin s' hs'
  refine ⟨⟨s, hs, ?_, ?_, hnothing 30 (by decide)⟩, s', hs', ?_, hnothing' 59 (by decide)⟩
  · exact (hpairs (28, 29) (by decide)).1
  · exact (hpairs (28, 29) (by decide)).2
  · exact hpairs' (56, 57) (by decide)

end Suite

end Columnar
