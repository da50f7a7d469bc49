import Columnar.Proofs.Dataset.Tables
import Columnar.Suite.Generate

/-!
# How a suite comes from its draws

Ranges are planned at selectivities that lie in the unit interval, so drawing them never fails, and a
suite is what its dataset and its ranges make of it. What is left of the random source is that the
tables have their names and columns and that each sweep has its ranges.

* `RangePlanner.spec_plan` — when a range is planned
* `IndexQueries.spec_draw` — the draws of the index suite
* `Suite.generateFrom_index_eq_ok`, `Suite.generateFrom_join_eq_ok` — suites without their sources
-/

namespace Columnar

open Generation Columnar.Random

variable {σ : Type} [DrawSource σ]

/-! ## Ranges -/

namespace RangePlanner

/-- **A range is planned iff the selectivity lies in the unit interval.** -/
theorem spec_plan (p : RangePlanner) (f : Float) :
    (p.plan f : Generation σ Predicate).Spec (isSelectivity f = true) fun _ => True := by
  have hoffset : (∃ width, p.offset f = .ok width) ↔ isSelectivity f = true := by
    simp [offset_eq_ok_iff]
  exact (spec_ofExcept_any hoffset).bind_true fun width _ => spec_ofDraws_any _

theorem spec_plan_of_isSelectivity (p : RangePlanner) {f : Float} (h : isSelectivity f = true) :
    (p.plan f : Generation σ Predicate).Spec True fun _ => True :=
  (p.spec_plan f).imp (iff_true_intro h) fun _ h => h

theorem spec_planMany (p : RangePlanner) {f : Float} (h : isSelectivity f = true) (count : Nat) :
    (p.planMany f count : Generation σ (List Predicate)).Spec True fun ranges => ranges.length = count := by
  induction count with
  | zero => exact spec_pure rfl
  | succ count ih =>
    refine (p.spec_plan_of_isSelectivity h).bind_of_true fun range _ => ?_
    exact ih.bind_of_true fun ranges hranges => spec_pure (by rw [List.length_cons, hranges])

end RangePlanner

/-! ## The index suite -/

namespace IndexQueries

theorem spec_drawNarrow (p : RangePlanner) :
    (drawNarrow p : Generation σ (List Predicate)).Spec True fun ranges => ranges.length = 2 := by
  refine ((p.withLeastWidth 1).spec_plan_of_isSelectivity (by decide)).bind_of_true fun first _ => ?_
  refine ((p.withLeastWidth 2).spec_plan_of_isSelectivity (by decide)).bind_of_true fun second _ => ?_
  exact spec_pure rfl

theorem spec_drawSwept (p : RangePlanner) {sweeps : List Sweep}
    (h : ∀ s ∈ sweeps, RangePlanner.isSelectivity s.selectivity = true) :
    (drawSwept p sweeps : Generation σ (List (Sweep × List Predicate))).Spec True fun swept =>
      swept.map Prod.fst = sweeps := by
  induction sweeps with
  | nil => exact spec_pure rfl
  | cons s rest ih =>
    have hs := h s (List.mem_cons_self ..)
    refine ((p.withLeastWidth s.leastWidth).spec_planMany hs 20).bind_of_true fun ranges _ => ?_
    refine (ih fun s' hs' => h s' (List.mem_cons_of_mem s hs')).bind_of_true fun swept hswept => ?_
    exact spec_pure (by rw [List.map_cons, hswept])

/-- Ranges that are drawn for every scenario. -/
structure Ranges.IsPlanned (r : Ranges) : Prop where
  swept : r.swept.map Prod.fst = sweeps
  asked : ∀ ranges ∈ [r.narrow, r.sums, r.averages], ranges ≠ []

theorem spec_drawRanges (d : IndexDataset) :
    (drawRanges d : Generation σ Ranges).Spec True Ranges.IsPlanned := by
  have hmany : ∀ (p : RangePlanner) {f : Float} (count : Nat), RangePlanner.isSelectivity f = true →
      (p.planMany f count : Generation σ (List Predicate)).Spec True fun ranges => ranges.length = count :=
    fun p _ count h => p.spec_planMany h count
  have hne : ∀ {n : Nat} {ranges : List Predicate}, ranges.length = n + 1 → ranges ≠ [] := fun h =>
    List.ne_nil_of_length_eq_add_one h
  refine (spec_drawNarrow _).bind_of_true fun narrow hnarrow => ?_
  refine (RangePlanner.spec_plan_of_isSelectivity _ (by decide)).bind_of_true fun refineFirst _ => ?_
  refine (RangePlanner.spec_plan_of_isSelectivity _ (by decide)).bind_of_true fun refineSecond _ => ?_
  refine (hmany _ 10 (by decide)).bind_of_true fun sums hsums => ?_
  refine (hmany _ 100 (by decide)).bind_of_true fun averages haverages => ?_
  refine (spec_drawNarrow _).bind_of_true fun narrowBtree _ => ?_
  refine (hmany _ 5 (by decide)).bind_of_true fun sumsBtree _ => ?_
  refine (spec_drawSwept _ (by decide)).bind_of_true fun swept hswept => ?_
  exact spec_pure ⟨hswept, by simp [hne hnarrow, hne hsums, hne haverages]⟩

/-- The dataset of a suite and its ranges. -/
def draw (config : SuiteConfig) : Generation σ (IndexDataset × Ranges) := do
  let d ← IndexDataset.generate config.indexRows
  return (d, ← drawRanges d)

/-- A dataset and ranges that the index suite can be made of. -/
structure IsDrawn (config : SuiteConfig) (d : IndexDataset) (r : Ranges) : Prop extends r.IsPlanned where
  table : d.table.IsGenerated IndexDataset.tableName IndexDataset.columnNames config.indexRows.toNat

/-- **The dataset and the ranges are drawn iff the domain of the third column holds a value.** -/
theorem spec_draw (config : SuiteConfig) :
    (draw config : Generation σ (IndexDataset × Ranges)).Spec (0 < baseDomain config.indexRows) fun dr =>
      IsDrawn config dr.1 dr.2 := by
  refine (IndexDataset.spec_generate config.indexRows).bind_true fun d hd => ?_
  exact (spec_drawRanges d).bind_of_true fun r hr => spec_pure ⟨hr, hd⟩

end IndexQueries

/-! ## The join suite -/

namespace JoinQueries

/-- The dataset of a suite. -/
def draw (config : SuiteConfig) : Generation σ JoinDataset := do
  let zipf ← Generation.ofExcept (Zipf.of config.zipfSkew config.zipfDomain.toNat)
  JoinDataset.generate config.joinSizes zipf

/-- **The dataset is drawn iff there is a law of the keys and all domains hold values.** -/
theorem spec_draw (config : SuiteConfig) :
    (draw config : Generation σ JoinDataset).Spec
      ((∃ zipf, Zipf.of config.zipfSkew config.zipfDomain.toNat = .ok zipf) ∧ config.joinSizes.IsGenerable)
      fun d => d.IsGenerated config.joinSizes :=
  (spec_ofExcept_any Iff.rfl).bind fun zipf _ =>
    JoinDataset.spec_generate config.joinSizes zipf

end JoinQueries

/-! ## Suites without their sources -/

namespace Suite

omit [DrawSource σ] in
/-- What is made of the result of a generation, or its error. -/
theorem run_adapt {α : Type} (g : Generation σ α) (make : α → Except SuiteError Suite) (source : σ) :
    ((ExceptT.adapt SuiteError.generation g >>= fun a => ExceptT.mk (pure (make a)) :
      ExceptT SuiteError (StateM σ) Suite).run.run source).1 =
      ((g.run source).1.mapError SuiteError.generation >>= make) := by
  have hadapt : (ExceptT.adapt SuiteError.generation g : ExceptT SuiteError (StateM σ) α).run.run source =
      ((g.run source).1.mapError SuiteError.generation, (g.run source).2) := rfl
  rw [ExceptT.run_bind, StateT.run_bind, hadapt]
  cases (g.run source).1 with
  | error e => rfl
  | ok a => rfl

theorem generateFrom_index (config : SuiteConfig) (source : σ) :
    generateFrom config source .index =
      (((IndexQueries.draw config).run source).1.mapError SuiteError.generation >>= fun dr =>
        IndexQueries.suiteOf config dr.1 dr.2) :=
  run_adapt (IndexQueries.draw config) (fun dr => IndexQueries.suiteOf config dr.1 dr.2) source

theorem generateFrom_join (config : SuiteConfig) (source : σ) :
    generateFrom config source .join =
      (((JoinQueries.draw config).run source).1.mapError SuiteError.generation >>=
        JoinQueries.suiteOf config) :=
  run_adapt (JoinQueries.draw config) (JoinQueries.suiteOf config) source

variable {config : SuiteConfig} {source : σ} {s : Suite}

/-- **A generated index suite is made of a drawn dataset and drawn ranges.** -/
theorem generateFrom_index_eq_ok (h : generateFrom config source .index = .ok s) :
    ∃ d r, IndexQueries.IsDrawn config d r ∧ IndexQueries.suiteOf config d r = .ok s := by
  rw [generateFrom_index] at h
  obtain ⟨dr, hdraw, hsuite⟩ := Except.bind_eq_ok_iff.1 h
  exact ⟨dr.1, dr.2,
    (IndexQueries.spec_draw config).ensures source dr (Except.mapError_eq_ok_iff.1 hdraw), hsuite⟩

/-- **A generated join suite is made of a drawn dataset.** -/
theorem generateFrom_join_eq_ok (h : generateFrom config source .join = .ok s) :
    ∃ d : JoinDataset, d.IsGenerated config.joinSizes ∧ JoinQueries.suiteOf config d = .ok s := by
  rw [generateFrom_join] at h
  obtain ⟨d, hdraw, hsuite⟩ := Except.bind_eq_ok_iff.1 h
  exact ⟨d, (JoinQueries.spec_draw config).ensures source d (Except.mapError_eq_ok_iff.1 hdraw), hsuite⟩

/-- Where the domain of the third column holds a value, an index suite is made of what is drawn. -/
theorem exists_generateFrom_index (h : 0 < baseDomain config.indexRows) (source : σ) :
    ∃ d r, IndexQueries.IsDrawn config d r ∧
      generateFrom config source .index = IndexQueries.suiteOf config d r := by
  obtain ⟨dr, hdraw⟩ := ((IndexQueries.spec_draw config).succeeds_iff source).2 h
  refine ⟨dr.1, dr.2, (IndexQueries.spec_draw config).ensures source dr hdraw, ?_⟩
  rw [generateFrom_index, Except.mapError_eq_ok_iff.2 hdraw, Except.ok_bind]

/-- Where there is a law of the keys and all domains hold values, a join suite is made of what is drawn. -/
theorem exists_generateFrom_join (hzipf : ∃ zipf, Zipf.of config.zipfSkew config.zipfDomain.toNat = .ok zipf)
    (h : config.joinSizes.IsGenerable) (source : σ) :
    ∃ d : JoinDataset, d.IsGenerated config.joinSizes ∧
      generateFrom config source .join = JoinQueries.suiteOf config d := by
  obtain ⟨d, hdraw⟩ := ((JoinQueries.spec_draw config).succeeds_iff source).2 ⟨hzipf, h⟩
  refine ⟨d, (JoinQueries.spec_draw config).ensures source d hdraw, ?_⟩
  rw [generateFrom_join, Except.mapError_eq_ok_iff.2 hdraw, Except.ok_bind]

end Suite

end Columnar
