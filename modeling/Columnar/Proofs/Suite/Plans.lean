import Columnar.Proofs.Results
import Columnar.Suite.Scenario

/-!
# Scenarios and the plans that they are made of

A plan makes its script and answers it over the catalog of the suite. A suite is made of its plans one by
one, so it is made iff every script is made and has an answer, and all of its tables are found.

* `Plan.evaluate_eq_ok_iff` — a scenario has the script of its plan, and expects what that script prints
* `Suite.ofPlans_eq_ok_iff` — **the scenarios of a suite are those of its plans**
-/

namespace Columnar

/-! ## Plans -/

namespace Plan

variable {catalog : Catalog} {p : Plan} {c : Scenario}

/-- **A scenario has the script of its plan and expects what that script prints.** -/
theorem evaluate_eq_ok_iff :
    p.evaluate catalog = .ok c ↔
      p.script = .ok c.script ∧ c.toOutline = p.outline c.script ∧ Run.run catalog c.script = .ok c.expected := by
  rw [evaluate, Except.bind_eq_ok_iff]
  constructor
  · rintro ⟨script, hscript, h⟩
    obtain ⟨houtline, hrun⟩ := Outline.evaluate_eq_ok_iff.1 h
    obtain rfl : script = c.script := by rw [houtline, outline]
    exact ⟨hscript, houtline, hrun⟩
  · rintro ⟨hscript, houtline, hrun⟩
    exact ⟨c.script, hscript, Outline.evaluate_eq_ok_iff.2 ⟨houtline, hrun⟩⟩

theorem exists_evaluate {script : Script} (h : p.script = .ok script)
    (hrun : ∃ text, Run.run catalog script = .ok text) : ∃ c, p.evaluate catalog = .ok c := by
  obtain ⟨text, hrun⟩ := hrun
  exact ⟨{ p.outline script with expected := text }, evaluate_eq_ok_iff.2 ⟨h, rfl, hrun⟩⟩

end Plan

/-! ## Suites -/

namespace Suite

variable {name : String} {seed : UInt64} {catalog : Catalog} {files : List (String × String)} {plans : List Plan}
  {scenarios : List Scenario} {s : Suite}

/-- **The scenarios and the data files of a suite are those of its plans and its files.** -/
theorem ofPlans_eq_ok_iff :
    ofPlans name seed catalog files plans = .ok s ↔
      plans.mapM (Plan.evaluate catalog) = .ok s.scenarios ∧ catalog.dataFiles files = .ok s.dataFiles ∧
        s.name = name ∧ s.seed = seed := by
  obtain ⟨name', seed', dataFiles, scenarios⟩ := s
  simp only [ofPlans, Except.bind_eq_ok_iff]
  constructor
  · rintro ⟨_, hscenarios, _, hfiles, h⟩
    cases h
    exact ⟨hscenarios, hfiles, rfl, rfl⟩
  · rintro ⟨hscenarios, hfiles, rfl, rfl⟩
    exact ⟨_, hscenarios, _, hfiles, rfl⟩

/-- Scenarios have the numbers of their plans. -/
theorem map_number (h : plans.mapM (Plan.evaluate catalog) = .ok scenarios) :
    scenarios.map (fun c => c.number) = plans.map Plan.number := by
  have heach := Except.mapM_eq_ok_iff.1 h
  clear h
  induction plans generalizing scenarios with
  | nil => rw [List.map_eq_nil_iff.1 heach.symm, List.map_nil, List.map_nil]
  | cons p ps ih =>
    cases scenarios with
    | nil => cases heach
    | cons c cs =>
      obtain ⟨heval, hrest⟩ := List.cons.inj heach
      rw [List.map_cons, List.map_cons, ih hrest, (Plan.evaluate_eq_ok_iff.1 heval).2.1, Plan.outline]

/-- A suite is made wherever its tables are found and each plan makes a script that has an answer. -/
theorem exists_ofPlans (hfiles : ∃ dataFiles, catalog.dataFiles files = .ok dataFiles)
    (h : ∀ p ∈ plans, ∃ script, p.script = .ok script ∧ ∃ text, Run.run catalog script = .ok text) :
    ∃ s, ofPlans name seed catalog files plans = .ok s := by
  obtain ⟨dataFiles, hfiles⟩ := hfiles
  obtain ⟨scenarios, hscenarios⟩ : ∃ scenarios, plans.mapM (Plan.evaluate catalog) = .ok scenarios := by
    refine Except.exists_mapM fun p hp => ?_
    obtain ⟨script, hscript, hrun⟩ := h p hp
    exact Plan.exists_evaluate hscript hrun
  exact ⟨⟨name, seed, dataFiles, scenarios⟩, ofPlans_eq_ok_iff.2 ⟨hscenarios, hfiles, rfl, rfl⟩⟩

end Suite

end Columnar
