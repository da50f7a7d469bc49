import Columnar.Proofs.Suite.Canonical
import Columnar.Proofs.Suite.Lookups

/-!
# The scripts of the index scenarios are canonical

Every operation of a scenario is canonical, whatever ranges were drawn, except that a setup scenario
loads its file from the configured directory, which may be any text.

* `IndexQueries.isCanonical_selectFetch` and the lemmas after it — one for each form of script
* `IndexQueries.forall_mem_plans` — all scenarios
-/

namespace Columnar.IndexQueries

open Op Text

variable {c : Copy} {filter target : String}

/-! ## Parts of scripts -/

theorem isResult_handle {letter : String} (h : IsResult letter) (n : Nat) : IsResult (handle letter n) := by
  have hdigits : (toString n).toList = digits n := by
    simp [digits, toString]
  rw [IsResult] at h ⊢
  rw [handle, String.toList_append, hdigits]
  cases hl : letter.toList with
  | nil => exact absurd h (by simp [hl, Call.IsHandle])
  | cons d ds =>
    rw [hl] at h
    refine ⟨h.1, fun e he => ?_⟩
    rcases List.mem_append.1 he with he | he
    · exact h.2 e he
    · simp [Call.isHandleChar, Char.isAlphanum, isDigit_of_mem_digits he]

theorem isCleanReference_column (c : Copy) {name : String} (h : name ∈ IndexDataset.columnNames) :
    IsCleanReference (generatedColumn c.name name) := by
  have hall : ∀ name ∈ IndexDataset.columnNames, IsCleanReference (generatedColumn c.name name) := by
    cases c <;> decide
  exact hall name h

theorem onLine_columnName {name : String} (h : name ∈ IndexDataset.columnNames) : OnLine name := by
  have hall : ∀ name ∈ IndexDataset.columnNames, OnLine name := by decide
  exact hall name h

theorem isCanonical_selectFetch (hfilter : filter ∈ IndexDataset.columnNames)
    (htarget : target ∈ IndexDataset.columnNames) (n : Nat) (range : Predicate) :
    ∀ op ∈ selectFetch (generatedColumn c.name) filter target n range, op.IsCanonical := by
  have hs : IsResult (handle "s" n) := isResult_handle (by decide) n
  have hf : IsResult (handle "f" n) := isResult_handle (by decide) n
  refine List.forall_mem_cons.2 ⟨?_, List.forall_mem_singleton.2 ?_⟩
  · exact isCanonical_select (isCleanReference_column c hfilter) hs range
  · exact isCanonical_fetch (isCleanReference_column c htarget) hf hs

/-- A select, a fetch, an aggregate of what was fetched, and its print. -/
theorem isCanonical_selectAggregate (hfilter : filter ∈ IndexDataset.columnNames)
    (htarget : target ∈ IndexDataset.columnNames) (f : AggregateFunction) (n : Nat) (range : Predicate) :
    ∀ op ∈ selectFetch (generatedColumn c.name) filter target n range ++
      [.aggregate f (handle "a" n) (handle "f" n), .print [handle "a" n]], op.IsCanonical := by
  have ha : IsResult (handle "a" n) := isResult_handle (by decide) n
  have hf : IsResult (handle "f" n) := isResult_handle (by decide) n
  refine List.forall_mem_append.2 ⟨isCanonical_selectFetch hfilter htarget n range, ?_⟩
  exact List.forall_mem_cons.2 ⟨isCanonical_aggregate f ha hf,
    List.forall_mem_singleton.2 (isCanonical_print ha)⟩

/-! ## Query scripts -/

theorem isCanonical_projectOps (c : Copy) (ranges : List Predicate) {intro : List String}
    (hintro : ∀ t ∈ intro, (comment t).IsCanonical) :
    ∀ op ∈ projectOps (generatedColumn c.name) c.name ranges intro, op.IsCanonical := by
  have hopens : OpensLine ("SELECT col1 FROM " ++ c.name ++ " WHERE ") := by
    cases c <;> decide
  simp only [projectOps, List.forall_mem_append]
  refine ⟨⟨⟨⟨⟨?_, isCanonical_comments hintro⟩, ?_⟩, ?_⟩, ?_⟩, ?_⟩
  · exact List.forall_mem_singleton.2 (isCanonical_comment_ofList (by decide))
  · exact List.forall_mem_singleton.2 (isCanonical_comment_ofList (by decide))
  · refine Script.forall_mem_map fun range _ => isCanonical_comment_append ?_ (by decide)
    exact hopens.append (onLine_condition (by decide) range)
  · exact List.forall_mem_singleton.2 (isCanonical_comment_ofList (by decide))
  · refine Script.forall_mem_flatMap fun ⟨range, n⟩ _ => List.forall_mem_append.2 ⟨?_, ?_⟩
    · exact isCanonical_selectFetch (by decide) (by decide) n range
    · exact List.forall_mem_singleton.2 (isCanonical_print (isResult_handle (by decide) n))

theorem isCanonical_aggregateOps (c : Copy) (hfilter : filter ∈ IndexDataset.columnNames)
    (htarget : target ∈ IndexDataset.columnNames) (f : AggregateFunction) (ranges : List Predicate)
    {intro : List String} (hintro : ∀ t ∈ intro, (comment t).IsCanonical) :
    ∀ op ∈ aggregateOps (generatedColumn c.name) c.name filter target f ranges intro, op.IsCanonical := by
  have hopens : OpensLine ("SELECT " ++ f.text ++ "(" ++ target ++ ") FROM " ++ c.name ++ " WHERE " ++ filter ++
      " >= _ AND " ++ filter) := by
    have hselect : OpensLine ("SELECT " ++ f.text ++ "(") := by
      cases f <;> decide
    have hname : OnLine c.name := by
      cases c <;> decide
    exact (((((hselect.append (onLine_columnName htarget)).append (by decide)).append hname).append
      (by decide)).append (onLine_columnName hfilter)).append (by decide) |>.append (onLine_columnName hfilter)
  simp only [aggregateOps, List.forall_mem_append]
  refine ⟨⟨isCanonical_comments hintro, isCanonical_comments ?_⟩, ?_⟩
  · simp only [List.forall_mem_cons]
    exact ⟨isCanonical_comment_ofList (by decide), isCanonical_comment_ofList (by decide),
      isCanonical_comment_append hopens (by decide), isCanonical_comment_ofList (by decide), by simp⟩
  · exact Script.forall_mem_flatMap fun ⟨range, n⟩ _ => isCanonical_selectAggregate hfilter htarget f n range

theorem isCanonical_refineOps (first second : Predicate) :
    ∀ op ∈ refineOps (generatedColumn Copy.sorted.name) first second, op.IsCanonical := by
  have hopens : OpensLine ("SELECT sum(col1) FROM tbl4 WHERE (" ++ first.condition "col3" ++ ") AND (" ++
      second.condition "col2") :=
    ((show OpensLine "SELECT sum(col1) FROM tbl4 WHERE (" by decide).append
      (onLine_condition (by decide) first)).append (by decide) |>.append (onLine_condition (by decide) second)
  simp only [refineOps, List.forall_mem_append]
  refine ⟨isCanonical_comments ?_, ?_⟩
  · simp only [List.forall_mem_cons]
    exact ⟨isCanonical_comment_ofList (by decide), isCanonical_comment_ofList (by decide),
      isCanonical_comment_ofList (by decide), isCanonical_comment_append hopens (by decide),
      isCanonical_comment_ofList (by decide), by simp⟩
  · simp only [List.forall_mem_cons]
    refine ⟨?_, by decide, ?_, by decide, by decide, by decide, by decide, by simp⟩
    · exact isCanonical_select (isCleanReference_column .sorted (by decide)) (by decide) first
    · have hhandles : ∀ h ∈ ["s2", "s1", "f1"], IsResult h := by decide
      exact isCanonical_of_handles rfl (by simp) hhandles fun r hr => by cases hr

theorem isCanonical_sumOps (ranges : List Predicate) :
    ∀ op ∈ sumOps (generatedColumn Copy.sorted.name) ranges, op.IsCanonical := by
  simp only [sumOps, List.forall_mem_append]
  refine ⟨⟨⟨isCanonical_comments ?_, ?_⟩, ?_⟩, ?_⟩
  · simp only [List.forall_mem_cons]
    exact ⟨isCanonical_comment_ofList (by decide), isCanonical_comment_ofList (by decide),
      isCanonical_comment_ofList (by decide), by simp⟩
  · refine Script.forall_mem_map fun range _ => isCanonical_comment_append ?_ (by decide)
    exact (show OpensLine "SELECT sum(col1) FROM tbl4 WHERE " by decide).append
      (onLine_condition (by decide) range)
  · exact List.forall_mem_singleton.2 (isCanonical_comment_ofList (by decide))
  · exact Script.forall_mem_flatMap fun ⟨range, n⟩ _ =>
      isCanonical_selectAggregate (by decide) (by decide) .sum n range

/-! ## Setup scripts -/

/-- Declaring a copy of the generated table. -/
theorem isCanonical_declare_copy {d : IndexDataset} {rows : Nat}
    (hd : d.table.IsGenerated IndexDataset.tableName IndexDataset.columnNames rows) (c : Copy) :
    ∀ op ∈ Script.declare (d.table.renamed c.name), op.IsCanonical := by
  have hcopy : (d.table.renamed c.name).IsGenerated c.name IndexDataset.columnNames rows :=
    ⟨hd.database_eq, rfl, hd.names_eq, hd.rowCount_eq⟩
  refine isCanonical_declare hcopy ?_ ?_
  · cases c <;> decide
  · cases c <;> decide

theorem isCanonicalOrLoad_setupOps {d : IndexDataset} {rows : Nat}
    (hd : d.table.IsGenerated IndexDataset.tableName IndexDataset.columnNames rows) (config : SuiteConfig)
    (c : Copy) {title : String} (htitle : (comment title).IsCanonical) :
    ∀ op ∈ setupOps config (d.table.renamed c.name) c title, IsCanonicalOrLoad config op := by
  have hcolumn : (d.table.renamed c.name).columnRef = generatedColumn c.name :=
    Catalog.columnRef_of_generated (generated_catalog hd c)
  have hindexes : ∀ i ∈ c.indexes, ∀ op ∈ [comment ("Create a " ++ i.2.2.text ++ " " ++ i.2.1.text ++
      " index on " ++ i.1), createIndex (generatedColumn c.name i.1) i.2.1 i.2.2], op.IsCanonical := by
    cases c <;> decide
  have hfile : (comment ("Loads data from: " ++ c.file)).IsCanonical := by
    cases c <;> decide
  simp only [setupOps, hcolumn, List.forall_mem_append]
  refine ⟨⟨⟨⟨⟨⟨?_, ?_⟩, ?_⟩, ?_⟩, ?_⟩, ?_⟩, ?_⟩
  · refine fun op hop => .inl (isCanonical_comments ?_ op hop)
    simp only [List.forall_mem_cons]
    exact ⟨htitle, isCanonical_comment_ofList (by decide), hfile, isCanonical_comment_ofList (by decide),
      isCanonical_comment_ofList (by decide), by simp⟩
  · exact fun op hop => .inl (isCanonical_declare_copy hd c op hop)
  · exact fun op hop => .inl (Script.forall_mem_flatMap hindexes op hop)
  · refine fun op hop => .inl (isCanonical_comments ?_ op hop)
    simp only [List.forall_mem_cons]
    exact ⟨isCanonical_comment_ofList (by decide), isCanonical_comment_ofList (by decide), by simp⟩
  · refine List.forall_mem_singleton.2 (.inr ⟨c.file, ?_, rfl⟩)
    cases c <;> decide
  · refine fun op hop => .inl (isCanonical_comments ?_ op hop)
    simp only [List.forall_mem_cons]
    exact ⟨isCanonical_comment_ofList (by decide), isCanonical_comment_ofList (by decide), by simp⟩
  · exact List.forall_mem_singleton.2 (.inl (by decide))

/-! ## All scenarios -/

/-- What the labels and columns of the sweeps are needed for. -/
theorem isCanonical_sweep {s : Sweep} (hs : s ∈ sweeps) (ranges : List Predicate) :
    ∀ op ∈ aggregateOps (generatedColumn s.copy.name) s.copy.name s.filter s.target .avg ranges
      ["", "selectivity=" ++ s.label], op.IsCanonical := by
  have hall : ∀ s ∈ sweeps, (s.filter ∈ IndexDataset.columnNames ∧ s.target ∈ IndexDataset.columnNames) ∧
      ∀ t ∈ ["", "selectivity=" ++ s.label], (comment t).IsCanonical := by
    decide
  obtain ⟨⟨hfilter, htarget⟩, hintro⟩ := hall s hs
  exact isCanonical_aggregateOps s.copy hfilter htarget .avg ranges hintro

/-- **Every operation of every scenario is canonical or a load.** -/
theorem forall_mem_plans {d : IndexDataset} {rows : Nat} {r : Ranges}
    (hd : d.table.IsGenerated IndexDataset.tableName IndexDataset.columnNames rows)
    (hr : r.swept.map Prod.fst = sweeps) (config : SuiteConfig) :
    ∀ p ∈ plans config (catalog d) d r, ∀ s, p.script = .ok s → ∀ op ∈ s, IsCanonicalOrLoad config op := by
  have hsetup : ∀ (c : Copy) {title : String}, (comment title).IsCanonical → ∀ s,
      setupScript config (catalog d) c title = .ok s → ∀ op ∈ s, IsCanonicalOrLoad config op := by
    intro c title htitle s h
    rw [setupScript_eq_ok hd] at h
    obtain rfl := Except.ok.inj h
    exact isCanonicalOrLoad_setupOps hd config c htitle
  have hranges : ∀ (c : Copy) (ranges : List Predicate) {intro : List String},
      (∀ t ∈ intro, (comment t).IsCanonical) → ∀ s, projectedRanges (catalog d) c.name ranges intro = .ok s →
        ∀ op ∈ s, IsCanonicalOrLoad config op := by
    intro c ranges intro hintro s h op hop
    obtain ⟨-, rfl⟩ := projectedRanges_eq_ok_iff.1 h
    exact .inl (isCanonical_projectOps c ranges hintro op hop)
  have hbatch : ∀ (c : Copy) (f : AggregateFunction) (ranges : List Predicate) {intro : List String},
      (∀ t ∈ intro, (comment t).IsCanonical) → ∀ s,
        aggregateBatch (catalog d) c.name "col2" "col3" f ranges intro = .ok s →
          ∀ op ∈ s, IsCanonicalOrLoad config op := by
    intro c f ranges intro hintro s h op hop
    obtain ⟨-, rfl⟩ := aggregateBatch_eq_ok_iff.1 h
    exact .inl (isCanonical_aggregateOps c (by decide) (by decide) f ranges hintro op hop)
  have hthree : ∀ {t u : String}, (comment t).IsCanonical → (comment u).IsCanonical →
      ∀ v ∈ [t, u, ""], (comment v).IsCanonical := by
    intro t u ht hu
    simp only [List.forall_mem_cons]
    exact ⟨ht, hu, isCanonical_comment_ofList (by decide), by simp⟩
  simp only [plans, List.forall_mem_append, List.forall_mem_cons]
  refine ⟨⟨?_, ?_, ?_, ?_, ?_, ?_, ?_, ?_, ?_, ?_, ?_, ?_, ?_, by simp⟩, ?_⟩
  · exact hsetup _ (isCanonical_comment_ofList (by decide))
  · exact hsetup _ (isCanonical_comment_ofList (by decide))
  · exact hranges _ _ (List.forall_mem_singleton.2 (isCanonical_comment_ofList (by decide)))
  · exact hranges _ _ (hthree (isCanonical_comment_ofList (by decide)) (isCanonical_comment_ofList (by decide)))
  · intro s h op hop
    obtain ⟨-, rfl⟩ := refinedSum_eq_ok_iff.1 h
    exact .inl (isCanonical_refineOps _ _ op hop)
  · exact hbatch _ _ _ (List.forall_mem_singleton.2 (isCanonical_comment_ofList (by decide)))
  · exact hbatch _ _ _ (List.forall_mem_singleton.2 (isCanonical_comment_ofList (by decide)))
  · intro s h op hop
    obtain ⟨-, rfl⟩ := frequentSums_eq_ok_iff.1 h
    exact .inl (isCanonical_sumOps _ op hop)
  · exact hbatch _ _ _ (List.forall_mem_cons.2 ⟨isCanonical_comment_ofList (by decide),
      List.forall_mem_singleton.2 (isCanonical_comment_ofList (by decide))⟩)
  · exact hbatch _ _ _ (List.forall_mem_singleton.2 (isCanonical_comment_ofList (by decide)))
  · exact hsetup _ (isCanonical_comment_ofList (by decide))
  · exact hranges _ _ (hthree (isCanonical_comment_ofList (by decide)) (isCanonical_comment_ofList (by decide)))
  · exact hbatch _ _ _ (List.forall_mem_singleton.2 (isCanonical_comment_ofList (by decide)))
  intro p hp
  obtain ⟨⟨⟨sweep, ranges⟩, number⟩, hmem, rfl⟩ := List.mem_map.1 hp
  have hsweep : sweep ∈ sweeps := by
    rw [← hr]
    exact List.mem_map_of_mem (List.fst_mem_of_mem_zipIdx hmem)
  intro s h op hop
  obtain ⟨-, rfl⟩ := aggregateBatch_eq_ok_iff.1 h
  exact .inl (isCanonical_sweep hsweep ranges op hop)

end Columnar.IndexQueries
