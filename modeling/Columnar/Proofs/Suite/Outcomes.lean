import Columnar.Proofs.Dataset.Refusals
import Columnar.Proofs.Suite.JoinAnswers

/-!
# When a suite is made

A suite is made unless its dataset is refused, since every scenario of a dataset has an answer. So
whether there is a suite is told by the sizes alone, whatever the draws, and where there is none, the
error is that of the dataset: parameters that are no law, or a range without a value.

* `Suite.exists_index_iff`, `Suite.exists_join_iff` — the sizes of which a suite is made
* `IndexQueries.numbers_of_suiteOf`, `JoinQueries.numbers_of_suiteOf` — the scenarios it has
* `Suite.exists_cause_index`, `Suite.exists_cause_join` — the errors where none is made
* `Suite.generateFrom_outcomes` — **all of this for every source**
-/

namespace Columnar

open Generation Columnar.Random

variable {σ : Type} [DrawSource σ]

/-! ## The numbers of the scenarios -/

namespace IndexQueries

variable {config : SuiteConfig} {d : IndexDataset} {r : Ranges} {s : Suite}

/-- The twelve sweeps go on where the other thirteen scenarios end. -/
theorem map_number_plans (hd : IsDrawn config d r) :
    (plans config (catalog d) d r).map Plan.number = List.range' 20 25 := by
  have hlength : r.swept.length = 12 := by
    rw [← List.length_map Prod.fst, hd.swept]
    rfl
  have hnumbers : (r.swept.zipIdx 33).map Prod.snd = List.range' 33 12 := by
    rw [List.zipIdx_map_snd, hlength]
  rw [plans, List.map_append, List.map_map]
  -- the number of a sweep's plan is the one that it is counted with
  show _ ++ (r.swept.zipIdx 33).map Prod.snd = _
  rw [hnumbers]
  rfl

theorem numbers_of_suiteOf (hd : IsDrawn config d r) (h : suiteOf config d r = .ok s) :
    s.numbers = List.range' 20 25 := by
  exact (Suite.map_number (Suite.ofPlans_eq_ok_iff.1 h).1).trans (map_number_plans hd)

theorem failsWith_draw (config : SuiteConfig) :
    (draw config : Generation σ (IndexDataset × Ranges)).FailsWith GenerationError.IsEmptyRange :=
  (IndexDataset.spec_generate config.indexRows).failsWith_bind_of_first (spec_draw config)
    (IndexDataset.failsWith_generate config.indexRows)

end IndexQueries

namespace JoinQueries

variable {config : SuiteConfig} {d : JoinDataset} {s : Suite}

theorem numbers_of_suiteOf (h : suiteOf config d = .ok s) : s.numbers = List.range' 45 15 :=
  (Suite.map_number (Suite.ofPlans_eq_ok_iff.1 h).1).trans (map_number_plans config (catalog d))

theorem failsWith_draw (config : SuiteConfig) :
    (draw config : Generation σ JoinDataset).FailsWith fun e =>
      e = .invalidZipf config.zipfSkew config.zipfDomain.toNat ∨ e.IsEmptyRange := by
  refine (spec_ofExcept_any Iff.rfl).failsWith_bind (failsWith_ofExcept fun e he => .inl ?_) fun _ zipf _ => ?_
  · unfold Zipf.of at he
    split at he
    · cases he
    · exact (Except.error.inj he).symm
  · exact (JoinDataset.failsWith_generate config.joinSizes zipf).imp fun e he => .inr he

end JoinQueries

/-! ## The suites -/

namespace Suite

variable {config : SuiteConfig} {source : σ}

/-- **An index suite is made iff its table has five rows.** -/
theorem exists_index_iff (config : SuiteConfig) (source : σ) :
    (∃ s, generateFrom config source .index = .ok s) ↔ 5 ≤ config.indexRows := by
  rw [← baseDomain_pos_iff]
  constructor
  · rintro ⟨s, hs⟩
    rw [generateFrom_index] at hs
    obtain ⟨dr, hdraw, -⟩ := Except.bind_eq_ok_iff.1 hs
    exact ((IndexQueries.spec_draw config).succeeds_iff source).1 ⟨dr, Except.mapError_eq_ok_iff.1 hdraw⟩
  · intro hrows
    obtain ⟨d, r, hd, hdrawn⟩ := exists_generateFrom_index hrows source
    rw [hdrawn]
    exact IndexQueries.exists_suiteOf hd

/-- **A join suite is made iff its keys have a law and its tables have five rows**, of which those of the
second dimension can be counted. -/
theorem exists_join_iff (config : SuiteConfig) (source : σ) :
    (∃ s, generateFrom config source .join = .ok s) ↔
      (1 ≤ config.zipfDomain ∧ config.zipfSkew.isFinite = true ∧ 0 < config.zipfSkew) ∧
        5 ≤ config.joinSizes.fact ∧ 5 ≤ config.joinSizes.dim1 ∧ 5 ≤ config.joinSizes.select ∧
        5 ≤ config.joinSizes.dim2 ∧ config.joinSizes.dim2.toNat < 2 ^ 63 := by
  have hdomain : 1 ≤ config.zipfDomain ↔ 1 ≤ config.zipfDomain.toNat := UInt64.le_iff_toNat_le
  rw [hdomain, ← Zipf.exists_of_iff, ← JoinSizes.isGenerable_iff]
  constructor
  · rintro ⟨s, hs⟩
    rw [generateFrom_join] at hs
    obtain ⟨d, hdraw, -⟩ := Except.bind_eq_ok_iff.1 hs
    exact ((JoinQueries.spec_draw config).succeeds_iff source).1 ⟨d, Except.mapError_eq_ok_iff.1 hdraw⟩
  · rintro ⟨hzipf, hsizes⟩
    obtain ⟨d, hd, hdrawn⟩ := exists_generateFrom_join hzipf hsizes source
    rw [hdrawn]
    exact JoinQueries.exists_suiteOf hd

omit [DrawSource σ] in
/-- Where a suite is made of everything that is drawn, the errors are those of the draws. -/
theorem exists_cause {α : Type} {g : Generation σ α} {make : α → Except SuiteError Suite}
    {E : GenerationError → Prop} (hg : g.FailsWith E)
    (hmake : ∀ a, (g.run source).1 = .ok a → ∃ s, make a = .ok s) {e : SuiteError}
    (h : ((g.run source).1.mapError SuiteError.generation >>= make) = .error e) :
    ∃ cause, E cause ∧ e = .generation cause := by
  cases hrun : (g.run source).1 with
  | ok a =>
    obtain ⟨s, hs⟩ := hmake a hrun
    rw [hrun, Except.mapError_ok, Except.ok_bind, hs] at h
    cases h
  | error cause =>
    rw [hrun] at h
    exact ⟨cause, hg source cause hrun, (Except.error.inj h).symm⟩

/-- **An index suite that is not made has an empty range.** -/
theorem exists_cause_index {e : SuiteError} (h : generateFrom config source .index = .error e) :
    ∃ cause : GenerationError, cause.IsEmptyRange ∧ e = .generation cause := by
  rw [generateFrom_index] at h
  refine exists_cause (IndexQueries.failsWith_draw config) (fun dr hdraw => ?_) h
  exact IndexQueries.exists_suiteOf ((IndexQueries.spec_draw config).ensures source dr hdraw)

/-- **A join suite that is not made has parameters that are no law, or an empty range.** -/
theorem exists_cause_join {e : SuiteError} (h : generateFrom config source .join = .error e) :
    ∃ cause : GenerationError,
      (cause = .invalidZipf config.zipfSkew config.zipfDomain.toNat ∨ cause.IsEmptyRange) ∧
        e = .generation cause := by
  rw [generateFrom_join] at h
  refine exists_cause (JoinQueries.failsWith_draw config) (fun d hdraw => ?_) h
  exact JoinQueries.exists_suiteOf ((JoinQueries.spec_draw config).ensures source d hdraw)

/-- **Whether a suite is made is told by its sizes, from every source**: which sizes, the numbers of its
scenarios, the tables that are found for them, and the errors of all other sizes. -/
theorem generateFrom_outcomes {σ : Type} [DrawSource σ] (config : SuiteConfig) (source : σ) :
    ((∃ s, generateFrom config source .index = .ok s) ↔ 5 ≤ config.indexRows) ∧
    (∀ s, generateFrom config source .index = .ok s → s.numbers = List.range' 20 25) ∧
    ((∃ s, generateFrom config source .join = .ok s) ↔
      (1 ≤ config.zipfDomain ∧ config.zipfSkew.isFinite = true ∧ 0 < config.zipfSkew) ∧
        5 ≤ config.joinSizes.fact ∧ 5 ≤ config.joinSizes.dim1 ∧ 5 ≤ config.joinSizes.select ∧
        5 ≤ config.joinSizes.dim2 ∧ config.joinSizes.dim2.toNat < 2 ^ 63) ∧
    (∀ s, generateFrom config source .join = .ok s → s.numbers = List.range' 45 15) ∧
    (∀ name s, generateFrom config source name = .ok s → ∀ f ∈ s.dataFiles,
      (Catalog.ofList (s.dataFiles.map DataFile.table)).table generatedDatabase f.table.name = .ok f.table) ∧
    ∀ name e, generateFrom config source name = .error e →
      e = .generation (.invalidZipf config.zipfSkew config.zipfDomain.toNat) ∨
        ∃ column low high, e = .generation (.emptyRange column low high) := by
  refine ⟨exists_index_iff config source, fun s hs => ?_, exists_join_iff config source, fun s hs => ?_,
    fun name s hs => ?_, fun name e he => ?_⟩
  · obtain ⟨d, r, hd, hsuite⟩ := generateFrom_index_eq_ok hs
    exact IndexQueries.numbers_of_suiteOf hd hsuite
  · obtain ⟨d, hd, hsuite⟩ := generateFrom_join_eq_ok hs
    exact JoinQueries.numbers_of_suiteOf hsuite
  · cases name with
    | index =>
      obtain ⟨d, r, hd, hsuite⟩ := generateFrom_index_eq_ok hs
      have hfiles := (ofPlans_eq_ok_iff.1 hsuite).2.1
      rw [← IndexQueries.catalog_eq_dataFiles hd.table hfiles]
      exact fun f hf => Catalog.table_of_mem_dataFiles hfiles hf
    | join =>
      obtain ⟨d, hd, hsuite⟩ := generateFrom_join_eq_ok hs
      have hfiles := (ofPlans_eq_ok_iff.1 hsuite).2.1
      rw [← JoinQueries.catalog_eq_dataFiles hd hfiles]
      exact fun f hf => Catalog.table_of_mem_dataFiles hfiles hf
  · cases name with
    | index =>
      obtain ⟨_, ⟨column, low, high, rfl⟩, rfl⟩ := exists_cause_index he
      exact .inr ⟨column, low, high, rfl⟩
    | join =>
      obtain ⟨_, rfl | ⟨column, low, high, rfl⟩, rfl⟩ := exists_cause_join he
      · exact .inl rfl
      · exact .inr ⟨column, low, high, rfl⟩

/-- Sizes of which no suite is made: four rows of the index table, and no keys. -/
def tooSmall : SuiteConfig :=
  { SuiteConfig.standard with indexRows := 4, zipfDomain := 0 }

/-- Both standard suites are made, and neither is made of sizes that are too small. -/
theorem generate_outcomes_standard :
    (∃ s, generate .standard .index = .ok s ∧ s.numbers = List.range' 20 25) ∧
    (∃ s, generate .standard .join = .ok s ∧ s.numbers = List.range' 45 15 ∧
      ∀ f ∈ s.dataFiles,
        (Catalog.ofList (s.dataFiles.map DataFile.table)).table generatedDatabase f.table.name = .ok f.table) ∧
    ∀ name, ∃ e, generate tooSmall name = .error e ∧
      (e = .generation (.invalidZipf tooSmall.zipfSkew 0) ∨
        ∃ column low high, e = .generation (.emptyRange column low high)) := by
  obtain ⟨hindex, hindexNumbers, hjoin, hjoinNumbers, htables, -⟩ :=
    generateFrom_outcomes .standard (Stream.ofSeed SuiteConfig.standard.seed)
  obtain ⟨hnoIndex, -, hnoJoin, -, -, herrors⟩ := generateFrom_outcomes tooSmall (Stream.ofSeed tooSmall.seed)
  obtain ⟨s, hs⟩ := hindex.2 (by decide)
  obtain ⟨s', hs'⟩ := hjoin.2 (by decide)
  refine ⟨⟨s, hs, hindexNumbers s hs⟩, ⟨s', hs', hjoinNumbers s' hs', htables .join s' hs'⟩, fun name => ?_⟩
  cases hgenerate : generate tooSmall name with
  | error e => exact ⟨e, rfl, herrors name e hgenerate⟩
  | ok s =>
    cases name with
    | index => exact absurd (hnoIndex.1 ⟨s, hgenerate⟩) (by decide)
    | join => exact absurd (hnoJoin.1 ⟨s, hgenerate⟩) (by decide)

end Suite

end Columnar
