import Columnar.Proofs.Run.Labels
import Columnar.Proofs.Suite.Outcomes
import Mathlib.Data.List.Forall2

/-!
# What a suite does not depend on

A suite reads few of the parameters of its configuration. The directory of the data files is written into
load operations and read nowhere else, and neither suite reads the sizes of the other one. So two
configurations that agree on the parameters of a suite draw the same dataset and the same ranges, their
scripts differ in the paths of loads alone, and no answer sees a load.

* `Script.SameButLoads`, `Suite.SameButLoads` — scripts and suites that differ in the paths of loads alone
* `Plan.SameButLoads.evaluate` — such scripts have one answer, or none for one reason
* `Suite.generate_agree` — **configurations that agree on the parameters of a suite make it alike**, however
  a source is made of their seed
-/

/-! ## Agreement -/

namespace Except

variable {ε α β γ δ : Type}

/-- Both fail for the same reason, or both end with related results. -/
inductive Agree (R : α → β → Prop) : Except ε α → Except ε β → Prop
  | error (e : ε) : Agree R (.error e) (.error e)
  | ok {a : α} {b : β} (h : R a b) : Agree R (.ok a) (.ok b)

variable {R : α → β → Prop} {S : γ → δ → Prop} {Q : α → α → Prop} {x : Except ε α} {y : Except ε β}

theorem Agree.exists_of_ok (h : Agree R x y) {a : α} (hx : x = .ok a) : ∃ b, y = .ok b ∧ R a b := by
  cases h with
  | error e => cases hx
  | ok h =>
    obtain rfl := Except.ok.inj hx
    exact ⟨_, rfl, h⟩

/-- Sequences that agree step by step. -/
theorem Agree.bind (h : Agree R x y) {f : α → Except ε γ} {g : β → Except ε δ}
    (hfg : ∀ a b, R a b → Agree S (f a) (g b)) : Agree S (x >>= f) (y >>= g) := by
  cases h with
  | error e => exact .error e
  | ok h => exact hfg _ _ h

theorem Agree.refl (h : ∀ a, Q a a) (x : Except ε α) : Agree Q x x := by
  cases x with
  | error e => exact .error e
  | ok a => exact .ok (h a)

/-- Sequences with one and the same first step. -/
theorem Agree.bind_same (x : Except ε α) {f : α → Except ε γ} {g : α → Except ε δ}
    (hfg : ∀ a, Agree S (f a) (g a)) : Agree S (x >>= f) (x >>= g) := by
  cases x with
  | error e => exact .error e
  | ok a => exact hfg a

/-- Lists of steps that agree one by one. -/
theorem Agree.mapM {xs : List α} {ys : List β} (h : List.Forall₂ R xs ys) {f : α → Except ε γ}
    {g : β → Except ε δ} (hfg : ∀ a b, R a b → Agree S (f a) (g b)) :
    Agree (List.Forall₂ S) (xs.mapM f) (ys.mapM g) := by
  induction h with
  | nil => exact .ok .nil
  | cons hab _ ih =>
    rw [List.mapM_cons, List.mapM_cons]
    exact (hfg _ _ hab).bind fun c d hcd => ih.bind fun cs ds hcds => .ok (.cons hcd hcds)

end Except

namespace Columnar

/-! ## Scripts -/

/-- The same operation, or two loads. -/
inductive Op.SameButLoad : Op → Op → Prop
  | same (op : Op) : SameButLoad op op
  | load (path path' : String) : SameButLoad (.load path) (.load path')

namespace Script

/-- Scripts that are equal operation by operation, except for the paths of loads. -/
def SameButLoads (s t : Script) : Prop :=
  List.Forall₂ Op.SameButLoad s t

namespace SameButLoads

variable {s s' t t' : Script}

theorem refl (s : Script) : s.SameButLoads s :=
  List.forall₂_same.2 fun op _ => .same op

theorem load (path path' : String) : SameButLoads [.load path] [.load path'] :=
  .cons (.load path path') .nil

theorem append (h : s.SameButLoads t) (h' : s'.SameButLoads t') : (s ++ s').SameButLoads (t ++ t') :=
  List.rel_append h h'

theorem intercalate {ss ts : List Script} (h : List.Forall₂ SameButLoads ss ts) (sep : Script) :
    SameButLoads (List.intercalate sep ss) (List.intercalate sep ts) := by
  induction h with
  | nil => exact .nil
  | cons hhead hrest ih =>
    cases hrest with
    | nil => simpa only [List.intercalate_singleton] using hhead
    | cons _ _ =>
      rw [List.intercalate_cons_cons, List.intercalate_cons_cons]
      exact (hhead.append (refl sep)).append ih

/-- A load is no query. -/
theorem queries_eq (h : s.SameButLoads t) : s.queries = t.queries := by
  induction h with
  | nil => rfl
  | cons hop _ ih =>
    cases hop with
    | same op => rw [queries, queries, List.filter_cons, List.filter_cons, ← queries, ← queries, ih]
    | load path path' => exact ih

/-- **Where data are loaded from is in no answer.** -/
theorem run_eq (h : s.SameButLoads t) (catalog : Catalog) : Run.run catalog s = Run.run catalog t := by
  refine Run.run_congr_of_relabel (fun _ => .hash) ?_
  rw [relabel, relabel, h.queries_eq]

end SameButLoads

end Script

/-! ## Scenarios and suites -/

/-- Outlines that differ in the paths of loads alone. -/
structure Outline.SameButLoads (o o' : Outline) : Prop where
  number : o.number = o'.number
  title : o.title = o'.title
  kind : o.kind = o'.kind
  script : o.script.SameButLoads o'.script
  tags : o.tags = o'.tags

/-- Scenarios that differ in the paths of loads alone; they expect the same text. -/
structure Scenario.SameButLoads (c c' : Scenario) : Prop extends c.toOutline.SameButLoads c'.toOutline where
  expected : c.expected = c'.expected

/-- Plans for scripts that differ in the paths of loads alone, or that are not made for one reason. -/
structure Plan.SameButLoads (p p' : Plan) : Prop where
  number : p.number = p'.number
  title : p.title = p'.title
  kind : p.kind = p'.kind
  script : Except.Agree Script.SameButLoads p.script p'.script
  tags : p.tags = p'.tags

/-- Suites that differ in the paths of loads alone. -/
structure Suite.SameButLoads (s s' : Suite) : Prop where
  name : s.name = s'.name
  seed : s.seed = s'.seed
  dataFiles : s.dataFiles = s'.dataFiles
  scenarios : List.Forall₂ Scenario.SameButLoads s.scenarios s'.scenarios

/-- Scenarios are made of both outlines, with one expectation, or of none for one reason. -/
theorem Outline.SameButLoads.evaluate {o o' : Outline} (h : o.SameButLoads o') (catalog : Catalog) :
    Except.Agree Scenario.SameButLoads (o.evaluate catalog) (o'.evaluate catalog) := by
  unfold Outline.evaluate
  rw [h.script.run_eq catalog, h.number]
  cases Run.run catalog o'.script with
  | error cause => exact .error _
  | ok text => exact .ok ⟨h, rfl⟩

namespace Plan.SameButLoads

theorem refl (p : Plan) : p.SameButLoads p :=
  ⟨rfl, rfl, rfl, .refl .refl p.script, rfl⟩

theorem refl_all (ps : List Plan) : List.Forall₂ Plan.SameButLoads ps ps :=
  List.forall₂_same.2 fun p _ => refl p

/-- **Scenarios are made of both plans, with one expectation, or of none for one reason.** -/
theorem evaluate {p p' : Plan} (h : p.SameButLoads p') (catalog : Catalog) :
    Except.Agree Scenario.SameButLoads (p.evaluate catalog) (p'.evaluate catalog) :=
  h.script.bind fun _ _ hscript =>
    Outline.SameButLoads.evaluate ⟨h.number, h.title, h.kind, hscript, h.tags⟩ catalog

end Plan.SameButLoads

/-- **Suites of plans that differ in the paths of loads alone.** -/
theorem Suite.agree_ofPlans {plans plans' : List Plan} (h : List.Forall₂ Plan.SameButLoads plans plans')
    (name : String) (seed : UInt64) (catalog : Catalog) (files : List (String × String)) :
    Except.Agree Suite.SameButLoads (ofPlans name seed catalog files plans)
      (ofPlans name seed catalog files plans') :=
  (Except.Agree.mapM h fun _ _ hp => hp.evaluate catalog).bind fun _ _ hscenarios =>
    .bind_same _ fun _ => .ok ⟨rfl, rfl, rfl, hscenarios⟩

/-- Whether two configurations agree on the parameters of a suite. -/
def SuiteConfig.AgreesOn (config config' : SuiteConfig) : SuiteName → Prop
  | .index => config.seed = config'.seed ∧ config.indexRows = config'.indexRows
  | .join => config.seed = config'.seed ∧ config.joinSizes = config'.joinSizes ∧
      config.zipfSkew = config'.zipfSkew ∧ config.zipfDomain = config'.zipfDomain

theorem SuiteConfig.AgreesOn.seed_eq {config config' : SuiteConfig} {name : SuiteName}
    (h : config.AgreesOn config' name) : config.seed = config'.seed := by
  cases name with
  | index => exact h.1
  | join => exact h.1

/-! ## The index suite -/

namespace IndexQueries

theorem sameButLoads_setup (config config' : SuiteConfig) (catalog : Catalog) (c : Copy) (number : Nat)
    (title : String) :
    (setup config catalog c number title).SameButLoads (setup config' catalog c number title) := by
  refine ⟨rfl, rfl, rfl, .bind_same _ fun t => .ok ?_, rfl⟩
  exact (((Script.SameButLoads.refl _).append (.load _ _)).append (.refl _)).append (.refl _)

/-- Only the three setups read the configuration. -/
theorem sameButLoads_plans (config config' : SuiteConfig) (catalog : Catalog) (d : IndexDataset) (r : Ranges) :
    List.Forall₂ Plan.SameButLoads (plans config catalog d r) (plans config' catalog d r) := by
  have hsetup := sameButLoads_setup config config' catalog
  have hcheck := Plan.SameButLoads.refl
  refine List.rel_append ?_ (Plan.SameButLoads.refl_all _)
  refine .cons (hsetup ..) (.cons (hsetup ..) ?_)
  refine .cons (hcheck _) (.cons (hcheck _) (.cons (hcheck _) (.cons (hcheck _) (.cons (hcheck _)
    (.cons (hcheck _) (.cons (hcheck _) (.cons (hcheck _) ?_)))))))
  exact .cons (hsetup ..) (Plan.SameButLoads.refl_all _)

theorem agree_suiteOf {config config' : SuiteConfig} (hseed : config.seed = config'.seed) (d : IndexDataset)
    (r : Ranges) : Except.Agree Suite.SameButLoads (suiteOf config d r) (suiteOf config' d r) := by
  rw [suiteOf, suiteOf, hseed]
  exact Suite.agree_ofPlans (sameButLoads_plans config config' (catalog d) d r) _ _ _ _

end IndexQueries

/-! ## The join suite -/

namespace JoinQueries

theorem sameButLoads_setup (config config' : SuiteConfig) (catalog : Catalog) :
    (setup config catalog).SameButLoads (setup config' catalog) := by
  refine ⟨rfl, rfl, rfl, .bind_same _ fun dataFiles => .ok ?_, rfl⟩
  have hfiles : List.Forall₂ Script.SameButLoads
      (dataFiles.map fun f => Script.declare f.table ++ [.load (config.loadPath f.file)])
      (dataFiles.map fun f => Script.declare f.table ++ [.load (config'.loadPath f.file)]) := by
    rw [List.forall₂_map_left_iff, List.forall₂_map_right_iff]
    exact List.forall₂_same.2 fun f _ => (Script.SameButLoads.refl _).append (.load _ _)
  exact (((Script.SameButLoads.refl _).append (.intercalate hfiles _)).append (.refl _)).append (.refl _)

/-- Only the setup reads more of the configuration than the sizes. -/
theorem sameButLoads_plans {config config' : SuiteConfig} (hsizes : config.joinSizes = config'.joinSizes)
    (catalog : Catalog) : List.Forall₂ Plan.SameButLoads (plans config catalog) (plans config' catalog) := by
  unfold plans
  rw [hsizes]
  exact .cons (sameButLoads_setup config config' catalog) (Plan.SameButLoads.refl_all _)

theorem agree_suiteOf {config config' : SuiteConfig} (hseed : config.seed = config'.seed)
    (hsizes : config.joinSizes = config'.joinSizes) (d : JoinDataset) :
    Except.Agree Suite.SameButLoads (suiteOf config d) (suiteOf config' d) := by
  rw [suiteOf, suiteOf, hseed]
  exact Suite.agree_ofPlans (sameButLoads_plans hsizes (catalog d)) _ _ _ _

end JoinQueries

/-! ## Generation -/

namespace Suite

variable {config config' : SuiteConfig} {name : SuiteName}

/-- From one source, suites are made of the same draws. -/
theorem generateFrom_agree {σ : Type} [Random.DrawSource σ] (h : config.AgreesOn config' name) (source : σ) :
    Except.Agree SameButLoads (generateFrom config source name) (generateFrom config' source name) := by
  cases name with
  | index =>
    obtain ⟨hseed, hrows⟩ := h
    rw [generateFrom_index, generateFrom_index, IndexQueries.draw, hrows]
    exact .bind_same _ fun dr => IndexQueries.agree_suiteOf hseed dr.1 dr.2
  | join =>
    obtain ⟨hseed, hsizes, hskew, hdomain⟩ := h
    rw [generateFrom_join, generateFrom_join, JoinQueries.draw, hsizes, hskew, hdomain]
    exact .bind_same _ (JoinQueries.agree_suiteOf hseed hsizes)

/-- **Neither the directory of the data files nor the sizes of the other suite are seen in a suite**, however
a source is made of the seed. Configurations that agree on the parameters of a suite refuse it for the same
reason, or make it of the same tables and of scenarios that differ in the paths of loads alone. -/
theorem generate_agree (h : config.AgreesOn config' name) :
    (∀ {σ : Type} [Random.DrawSource σ] (seeding : UInt64 → σ),
      Except.Agree SameButLoads (generateFrom config (seeding config.seed) name)
        (generateFrom config' (seeding config'.seed) name)) ∧
    Except.Agree SameButLoads (generate config name) (generate config' name) := by
  have hagree : ∀ {σ : Type} [Random.DrawSource σ] (seeding : UInt64 → σ),
      Except.Agree SameButLoads (generateFrom config (seeding config.seed) name)
        (generateFrom config' (seeding config'.seed) name) := by
    intro σ _ seeding
    rw [h.seed_eq]
    exact generateFrom_agree h _
  exact ⟨hagree, hagree Random.Stream.ofSeed⟩

/-- The standard configuration, with data files elsewhere and other parameters of the other suite. -/
def elsewhere : SuiteName → SuiteConfig
  | .index => { SuiteConfig.standard with loadDirectory := "/mnt/data/", joinSizes := ⟨7, 7, 7, 7⟩, zipfDomain := 0 }
  | .join => { SuiteConfig.standard with loadDirectory := "/mnt/data/", indexRows := 4 }

/-- Each standard suite is made elsewhere as well. -/
theorem generate_agree_elsewhere :
    (∃ s s', generate .standard .index = .ok s ∧ generate (elsewhere .index) .index = .ok s' ∧ s.SameButLoads s') ∧
    ∃ s s', generate .standard .join = .ok s ∧ generate (elsewhere .join) .join = .ok s' ∧ s.SameButLoads s' := by
  have hindex : SuiteConfig.standard.AgreesOn (elsewhere .index) .index := ⟨rfl, rfl⟩
  have hjoin : SuiteConfig.standard.AgreesOn (elsewhere .join) .join := ⟨rfl, rfl, rfl, rfl⟩
  obtain ⟨s, hs⟩ := (exists_index_iff .standard (Random.Stream.ofSeed 47)).2 (by decide)
  obtain ⟨t, ht⟩ := (exists_join_iff .standard (Random.Stream.ofSeed 47)).2 (by decide)
  obtain ⟨s', hs', hsame⟩ := (generate_agree hindex).2.exists_of_ok hs
  obtain ⟨t', ht', hsame'⟩ := (generate_agree hjoin).2.exists_of_ok ht
  exact ⟨⟨s, s', hs, hs', hsame⟩, t, t', ht, ht', hsame'⟩

end Suite

end Columnar
