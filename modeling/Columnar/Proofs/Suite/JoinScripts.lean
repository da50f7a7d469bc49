import Columnar.Proofs.Suite.Canonical
import Columnar.Proofs.Suite.Lookups
import Columnar.Proofs.Text.Splitting

/-!
# The scripts of the join scenarios are canonical

A query over a join is written with fixed names, so that its operations are canonical whatever its
ranges are; the setup scenario loads its files from the configured directory, which may be any text.

* `JoinQueries.JoinQuery.isCanonical_script` — the script of a query
* `JoinQueries.forall_mem_plans` — all scenarios
-/

namespace Columnar.JoinQueries

open Op Text

/-! ## Queries -/

namespace JoinQuery

/-- The columns that a query reads. -/
def references (q : JoinQuery) : List ColumnRef :=
  [generatedColumn q.left.table q.left.filter, generatedColumn q.right.table q.right.filter,
    generatedColumn q.left.table q.left.key, generatedColumn q.right.table q.right.key,
    generatedColumn q.first.table q.first.column, generatedColumn q.second.table q.second.column]

/-- A query whose names can stand in a script. -/
structure IsClean (q : JoinQuery) : Prop where
  words : ∀ t ∈ [q.selects, q.sources, q.condition, q.left.table, q.left.filter, q.right.table,
    q.right.filter], OnLine t
  references : ∀ r ∈ q.references, IsCleanReference r
  handles : ∀ h ∈ [q.first.handle, q.first.rows, q.second.handle, q.second.rows], IsResult h

variable {q : JoinQuery}

theorem IsClean.isCanonical_heading (hq : q.IsClean) {intro : String} (hintro : (comment intro).IsCanonical) :
    ∀ op ∈ q.heading intro, op.IsCanonical := by
  have hwords := hq.words
  simp only [List.forall_mem_cons] at hwords
  obtain ⟨hselects, hsources, hcondition, hleftTable, hleftFilter, hrightTable, hrightFilter, _⟩ := hwords
  have hleft : OnLine q.left.condition :=
    onLine_condition ((hleftTable.append (by decide)).append hleftFilter) q.left.range
  have hright : OnLine q.right.condition :=
    onLine_condition ((hrightTable.append (by decide)).append hrightFilter) q.right.range
  have hopens : OpensLine ("SELECT " ++ q.selects ++ " FROM " ++ q.sources ++ " WHERE " ++ q.condition ++
      " AND " ++ q.left.condition ++ " AND " ++ q.right.condition) :=
    have hselect := (show OpensLine "SELECT " by decide).append hselects
    have hfrom := (hselect.append (show OnLine " FROM " by decide)).append hsources
    have hwhere := (hfrom.append (show OnLine " WHERE " by decide)).append hcondition
    have hand := (hwhere.append (show OnLine " AND " by decide)).append hleft
    (hand.append (show OnLine " AND " by decide)).append hright
  refine isCanonical_comments ?_
  simp only [List.forall_mem_cons]
  exact ⟨hintro, isCanonical_comment_ofList (by decide), isCanonical_comment_ofList (by decide),
    isCanonical_comment_append hopens (by decide), isCanonical_comment_ofList (by decide),
    isCanonical_comment_ofList (by decide), by simp⟩

theorem IsClean.isCanonical_joinOps (hq : q.IsClean) (kind : JoinKind) :
    ∀ op ∈ q.joinOps (generatedColumn q.left.table) (generatedColumn q.right.table) kind, op.IsCanonical := by
  have hreferences := hq.references
  simp only [JoinQuery.references, List.forall_mem_cons] at hreferences
  obtain ⟨hleftFilter, hrightFilter, hleftKey, hrightKey, _⟩ := hreferences
  have hjoin : ∀ h ∈ ["t1", "t2", "f1", "p1", "f2", "p2"], IsResult h := by decide
  simp only [joinOps, List.forall_mem_cons]
  refine ⟨?_, ?_, ?_, ?_, ?_, by simp⟩
  · exact isCanonical_select hleftFilter (by decide) _
  · exact isCanonical_select hrightFilter (by decide) _
  · exact isCanonical_fetch hleftKey (by decide) (by decide)
  · exact isCanonical_fetch hrightKey (by decide) (by decide)
  · exact isCanonical_of_handles rfl (by simp) hjoin fun r hr => by cases hr

theorem IsClean.isCanonical_measureOps (hq : q.IsClean) :
    ∀ op ∈ q.measureOps (generatedColumn q.first.table) (generatedColumn q.second.table), op.IsCanonical := by
  have hreferences := hq.references
  simp only [JoinQuery.references, List.forall_mem_cons] at hreferences
  obtain ⟨_, _, _, _, hfirst, hsecond, _⟩ := hreferences
  have hhandles := hq.handles
  simp only [List.forall_mem_cons] at hhandles
  obtain ⟨hfirstHandle, hfirstRows, hsecondHandle, hsecondRows, _⟩ := hhandles
  simp only [measureOps, List.forall_mem_cons]
  refine ⟨?_, ?_, ?_, ?_, by decide, by simp⟩
  · exact isCanonical_fetch hfirst hfirstHandle hfirstRows
  · exact isCanonical_fetch hsecond hsecondHandle hsecondRows
  · exact isCanonical_aggregate _ (by decide) hfirstHandle
  · exact isCanonical_aggregate _ (by decide) hsecondHandle

/-- **The script of a clean query is canonical**, with its measures or without. -/
theorem IsClean.isCanonical_timedScript (hq : q.IsClean) {intro : String}
    (hintro : (comment intro).IsCanonical) {catalog : Catalog} {kind : JoinKind} {s : Script}
    (h : q.timedScript catalog intro kind = .ok s) : ∀ op ∈ s, op.IsCanonical := by
  obtain ⟨join, hjoin, rfl⟩ := timedScript_eq_ok_iff.1 h
  obtain ⟨-, -, rfl⟩ := joinScript_eq_ok_iff.1 hjoin
  exact List.forall_mem_append.2 ⟨hq.isCanonical_heading hintro, hq.isCanonical_joinOps kind⟩

theorem IsClean.isCanonical_script (hq : q.IsClean) {intro : String} (hintro : (comment intro).IsCanonical)
    {catalog : Catalog} {kind : JoinKind} {s : Script} (h : q.script catalog intro kind = .ok s) :
    ∀ op ∈ s, op.IsCanonical := by
  obtain ⟨timed, htimed, measures, hmeasures, rfl⟩ := script_eq_ok_iff.1 h
  obtain ⟨-, -, rfl⟩ := measureScript_eq_ok_iff.1 hmeasures
  exact List.forall_mem_append.2 ⟨hq.isCanonical_timedScript hintro htimed, hq.isCanonical_measureOps⟩

end JoinQuery

/-! ## The queries of the scenarios -/

variable {sizes : JoinSizes} {s : Selectivity} {q : JoinQuery}

theorem isClean_manyToOne {ofDimension : Bool} (h : manyToOne sizes s ofDimension = .ok q) : q.IsClean := by
  obtain ⟨left, _, h⟩ := Except.bind_eq_ok_iff.1 h
  obtain ⟨right, _, h⟩ := Except.bind_eq_ok_iff.1 h
  obtain rfl := Except.ok.inj h
  -- the drawn ranges are no part of what has to be clean: they are projected away before deciding
  cases ofDimension with
  | false =>
    constructor
    · dsimp only
      decide
    · dsimp only [JoinQuery.references]
      decide
    · dsimp only
      decide
  | true =>
    constructor
    · dsimp only
      decide
    · dsimp only [JoinQuery.references]
      decide
    · dsimp only
      decide

theorem isClean_manyToMany (h : manyToMany sizes s = .ok q) : q.IsClean := by
  obtain ⟨left, _, h⟩ := Except.bind_eq_ok_iff.1 h
  obtain ⟨right, _, h⟩ := Except.bind_eq_ok_iff.1 h
  obtain rfl := Except.ok.inj h
  constructor
  · dsimp only
    decide
  · dsimp only [JoinQuery.references]
    decide
  · dsimp only
    decide

theorem isClean_uniformPair (h : uniformPair sizes s = .ok q) : q.IsClean := by
  obtain ⟨range, _, h⟩ := Except.bind_eq_ok_iff.1 h
  obtain rfl := Except.ok.inj h
  constructor
  · dsimp only
    decide
  · dsimp only [JoinQuery.references]
    decide
  · dsimp only
    decide

/-! ## The setup script -/

variable {d : JoinDataset} {config : SuiteConfig}

/-- Declaring and loading one of the tables. -/
theorem isCanonicalOrLoad_dataFile (hd : d.IsGenerated sizes) :
    ∀ f ∈ dataFilesOf d, ∀ op ∈ Script.declare f.table ++ [.load (config.loadPath f.file)],
      IsCanonicalOrLoad config op := by
  have hpart : ∀ {t : Table} {file : String}, (∀ op ∈ Script.declare t, op.IsCanonical) →
      (load file).IsCanonical → ∀ op ∈ Script.declare t ++ [.load (config.loadPath file)],
        IsCanonicalOrLoad config op := by
    intro t file hdeclare hfile op hop
    rcases List.mem_append.1 hop with hop | hop
    · exact .inl (hdeclare op hop)
    · exact .inr ⟨file, hfile, List.mem_singleton.1 hop⟩
  simp only [dataFilesOf, List.forall_mem_cons]
  refine ⟨?_, ?_, ?_, ?_, ?_, by simp⟩
  · exact hpart (isCanonical_declare hd.fact (by decide) (by decide)) (by decide)
  · exact hpart (isCanonical_declare hd.dim1 (by decide) (by decide)) (by decide)
  · exact hpart (isCanonical_declare hd.dim2 (by decide) (by decide)) (by decide)
  · exact hpart (isCanonical_declare hd.sel1 (by decide) (by decide)) (by decide)
  · exact hpart (isCanonical_declare hd.sel2 (by decide) (by decide)) (by decide)

theorem isCanonicalOrLoad_setupOps (hd : d.IsGenerated sizes) :
    ∀ op ∈ setupOps config (dataFilesOf d), IsCanonicalOrLoad config op := by
  simp only [setupOps, List.forall_mem_append]
  refine ⟨⟨⟨?_, ?_⟩, ?_⟩, ?_⟩
  · refine fun op hop => .inl (isCanonical_comments ?_ op hop)
    simp only [List.forall_mem_cons]
    exact ⟨isCanonical_comment_ofList (by decide), isCanonical_comment_ofList (by decide), by simp⟩
  · intro op hop
    rcases mem_intercalate hop with rfl | ⟨part, hpart, hop⟩
    · exact .inl (isCanonical_comment_ofList (by decide))
    · obtain ⟨f, hf, rfl⟩ := List.mem_map.1 hpart
      exact isCanonicalOrLoad_dataFile hd f hf op hop
  · refine fun op hop => .inl (isCanonical_comments ?_ op hop)
    simp only [List.forall_mem_cons]
    exact ⟨isCanonical_comment_ofList (by decide), isCanonical_comment_ofList (by decide), by simp⟩
  · exact List.forall_mem_singleton.2 (.inl (by decide))

/-! ## All scenarios -/

section Plans

variable {catalog : Catalog} {number : Nat} {kind : JoinKind} {script : Script}

theorem isCanonical_manyToOnePlan {ofDimension : Bool}
    (h : (manyToOnePlan catalog sizes number s kind ofDimension).script = .ok script) :
    ∀ op ∈ script, op.IsCanonical := by
  obtain ⟨q, hq, h⟩ := Except.bind_eq_ok_iff.1 h
  refine (isClean_manyToOne (Except.mapError_eq_ok_iff.1 hq)).isCanonical_script ?_ h
  have hkind : OnLine kind.text := by
    cases kind <;> decide
  cases ofDimension with
  | false =>
    have hopens : OpensLine ("Join test 1 - " ++ kind.text) :=
      (show OpensLine "Join test 1 - " by decide).append hkind
    exact isCanonical_comment_append hopens (by decide)
  | true =>
    have hopens : OpensLine ("Join test 3 - " ++ kind.text) :=
      (show OpensLine "Join test 3 - " by decide).append hkind
    exact isCanonical_comment_append hopens (by decide)

theorem isCanonical_manyToManyPlan (hlabel : OnLine s.label)
    (h : (manyToManyPlan catalog sizes number s kind).script = .ok script) : ∀ op ∈ script, op.IsCanonical := by
  obtain ⟨q, hq, h⟩ := Except.bind_eq_ok_iff.1 h
  refine (isClean_manyToMany (Except.mapError_eq_ok_iff.1 hq)).isCanonical_script ?_ h
  have hkind : OnLine kind.text := by
    cases kind <;> decide
  have hopens : OpensLine ("Join test 2 - " ++ kind.text ++ " many-to-many at selectivity " ++ s.label) :=
    (((show OpensLine "Join test 2 - " by decide).append hkind).append (by decide)).append hlabel
  exact isCanonical_comment_append hopens (by decide)

theorem isCanonical_uniformPlan (hlabel : OnLine s.label) {purpose : ScenarioKind}
    (h : (uniformPlan catalog sizes number s kind purpose).script = .ok script) :
    ∀ op ∈ script, op.IsCanonical := by
  obtain ⟨q, hq, h⟩ := Except.bind_eq_ok_iff.1 h
  have hclean := isClean_uniformPair (Except.mapError_eq_ok_iff.1 hq)
  have hkind : OnLine kind.text := by
    cases kind <;> decide
  have hopens : OpensLine ("Join performance test - " ++ kind.text ++ " with selectivities " ++ s.label ++
      " and " ++ s.label) :=
    (((((show OpensLine "Join performance test - " by decide).append hkind).append (by decide)).append
      hlabel).append (by decide)).append hlabel
  have hintro := isCanonical_comment_append hopens (show ClosesLine "." by decide)
  split at h
  · exact hclean.isCanonical_script hintro h
  · exact hclean.isCanonical_timedScript hintro h

theorem isCanonical_uniformPlans (hlabel : OnLine s.label) (kind1 kind2 : JoinKind) :
    ∀ p ∈ uniformPlans catalog sizes number s kind1 kind2, ∀ script, p.script = .ok script →
      ∀ op ∈ script, op.IsCanonical := by
  have heach : ∀ n kind purpose script, (uniformPlan catalog sizes n s kind purpose).script = .ok script →
      ∀ op ∈ script, op.IsCanonical := fun _ _ _ _ h => isCanonical_uniformPlan hlabel h
  simp only [uniformPlans, List.forall_mem_cons]
  exact ⟨heach _ _ _, heach _ _ _, heach _ _ _, heach _ _ _, by simp⟩

end Plans

/-- **Every operation of every scenario is canonical or a load.** -/
theorem forall_mem_plans (hd : d.IsGenerated sizes) (config : SuiteConfig) :
    ∀ p ∈ plans config (catalog d), ∀ script, p.script = .ok script →
      ∀ op ∈ script, IsCanonicalOrLoad config op := by
  have hsetup : ∀ script, setupScript config (catalog d) = .ok script →
      ∀ op ∈ script, IsCanonicalOrLoad config op := by
    intro script h
    rw [setupScript_eq_ok hd] at h
    obtain rfl := Except.ok.inj h
    exact isCanonicalOrLoad_setupOps hd
  simp only [plans, List.forall_mem_append, List.forall_mem_cons]
  refine ⟨⟨⟨hsetup, ?_, ?_, ?_, ?_, ?_, ?_, by simp⟩, ?_⟩, ?_⟩
  · exact fun _ h op hop => .inl (isCanonical_manyToOnePlan h op hop)
  · exact fun _ h op hop => .inl (isCanonical_manyToOnePlan h op hop)
  · exact fun _ h op hop => .inl (isCanonical_manyToManyPlan (by decide) h op hop)
  · exact fun _ h op hop => .inl (isCanonical_manyToManyPlan (by decide) h op hop)
  · exact fun _ h op hop => .inl (isCanonical_manyToOnePlan h op hop)
  · exact fun _ h op hop => .inl (isCanonical_manyToManyPlan (by decide) h op hop)
  · exact fun p hp _ h op hop => .inl (isCanonical_uniformPlans (by decide) _ _ p hp _ h op hop)
  · exact fun p hp _ h op hop => .inl (isCanonical_uniformPlans (by decide) _ _ p hp _ h op hop)

end Columnar.JoinQueries
