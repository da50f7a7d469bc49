import Columnar.Proofs.Run.Progress
import Columnar.Proofs.Suite.Generate
import Columnar.Proofs.Suite.Lookups
import Columnar.Proofs.Suite.Plans

/-!
# The index suite is always made

Each script of the index scenarios binds what it reads, and reads columns that all copies of the table
have. So it has an answer on every generated dataset, and the suite is made wherever its dataset is.

* `IndexQueries.runsOver_plans` — every scenario has a script that has an answer
* `IndexQueries.exists_suiteOf` — **every drawn dataset makes a suite**
-/

namespace Columnar.IndexQueries

open Sorting (Printable)

variable {d : IndexDataset} {n : Nat} {c : Copy} {filter target : String}

/-- Every copy has all columns. -/
theorem isOk_resolve (hd : d.table.IsGenerated IndexDataset.tableName IndexDataset.columnNames n)
    (c : Copy) {name : String} (hname : name ∈ IndexDataset.columnNames) :
    ((catalog d).resolve (generatedColumn c.name name)).isOk = true := by
  rw [← hd.names_eq] at hname
  obtain ⟨values, hvalues⟩ : ∃ values, (d.table.renamed c.name).values name = .ok values :=
    Table.exists_values hname
  have htable := Catalog.generated_eq_ok_iff.1 (generated_catalog hd c)
  exact Except.isOk_iff.2 ⟨values, Catalog.resolve_eq_ok_iff.2 ⟨_, htable, hvalues⟩⟩

/-! ## Parts of scripts -/

/-- A select and a fetch leave the fetched values under the number's handle. -/
theorem run_selectFetch (Γ : Sorting) (c : Copy) (filter target : String) (n : Nat) (range : Predicate) :
    Sorting.Run Printable Γ (selectFetch (generatedColumn c.name) filter target n range)
      ((Γ.bind (handle "s" n) (.rows ⟨generatedDatabase, c.name⟩ Γ.fresh)).bind (handle "f" n)
        (.values Γ.fresh)) := by
  refine .cons .selectColumn (.single (.fetch ?_))
  rw [Sorting.sort?_bind, if_pos rfl]
  rfl

theorem holds_selectFetch (hd : d.table.IsGenerated IndexDataset.tableName IndexDataset.columnNames n)
    (c : Copy) (hfilter : filter ∈ IndexDataset.columnNames) (htarget : target ∈ IndexDataset.columnNames)
    (k : Nat) (range : Predicate) : (catalog d).Holds (selectFetch (generatedColumn c.name) filter target k range) := by
  refine List.forall_mem_cons.2 ⟨fun r hr => ?_, List.forall_mem_singleton.2 fun r hr => ?_⟩
  · obtain rfl := Option.some.inj hr
    exact isOk_resolve hd c hfilter
  · obtain rfl := Option.some.inj hr
    exact isOk_resolve hd c htarget

/-- A select, a fetch and a print of what was fetched. -/
theorem runsOver_selectPrint (hd : d.table.IsGenerated IndexDataset.tableName IndexDataset.columnNames n)
    (c : Copy) (hfilter : filter ∈ IndexDataset.columnNames) (htarget : target ∈ IndexDataset.columnNames)
    (k : Nat) (range : Predicate) :
    Script.RunsOver (selectFetch (generatedColumn c.name) filter target k range ++ [.print [handle "f" k]]) (catalog d) where
  sorts Γ := by
    refine ⟨_, (run_selectFetch Γ c filter target k range).append (.single (.print (.inr ⟨Γ.fresh, ?_⟩)))⟩
    refine List.forall_mem_singleton.2 ?_
    rw [Sorting.sort?_bind, if_pos rfl]
    rfl
  holds := List.forall_mem_append.2 ⟨holds_selectFetch hd c hfilter htarget k range,
    List.forall_mem_singleton.2 fun _ hr => by cases hr⟩

/-- A select, a fetch, an aggregate of what was fetched, and its print. -/
theorem runsOver_selectAggregate (hd : d.table.IsGenerated IndexDataset.tableName IndexDataset.columnNames n)
    (c : Copy) (hfilter : filter ∈ IndexDataset.columnNames) (htarget : target ∈ IndexDataset.columnNames)
    (f : AggregateFunction) (k : Nat) (range : Predicate) :
    Script.RunsOver (selectFetch (generatedColumn c.name) filter target k range ++
      [.aggregate f (handle "a" k) (handle "f" k), .print [handle "a" k]]) (catalog d) where
  sorts Γ := by
    have hinput : ((Γ.bind (handle "s" k) (.rows ⟨generatedDatabase, c.name⟩ Γ.fresh)).bind (handle "f" k)
        (.values Γ.fresh)).sort? (handle "f" k) = some (.values Γ.fresh) := by
      rw [Sorting.sort?_bind, if_pos rfl]
    refine ⟨_, (run_selectFetch Γ c filter target k range).append (.cons (.aggregate hinput) (.single
      (.print (.inl (List.forall_mem_singleton.2 ?_)))))⟩
    rw [Sorting.sort?_bind, if_pos rfl]
  holds := by
    refine List.forall_mem_append.2 ⟨holds_selectFetch hd c hfilter htarget k range, ?_⟩
    exact List.forall_mem_cons.2 ⟨fun _ hr => (by cases hr), List.forall_mem_singleton.2 fun _ hr => by cases hr⟩

/-- One comment for each entry of a list. -/
theorem runsOver_map_comment {α : Type} (xs : List α) (text : α → String) :
    Script.RunsOver (xs.map fun x => .comment (text x)) (catalog d) := by
  refine Script.runsOver_of_isInert fun op hop => ?_
  obtain ⟨x, _, rfl⟩ := List.mem_map.1 hop
  rfl

theorem runsOver_comments (texts : List String) : (Script.comments texts).RunsOver (catalog d) :=
  runsOver_map_comment texts id

/-! ## Scripts -/

theorem runsOver_projectOps (hd : d.table.IsGenerated IndexDataset.tableName IndexDataset.columnNames n)
    (c : Copy) (ranges : List Predicate) (intro : List String) :
    (projectOps (generatedColumn c.name) c.name ranges intro).RunsOver (catalog d) := by
  unfold projectOps
  refine .append (.append (.append (.append (.append ?_ (runsOver_comments intro)) ?_) ?_) ?_) ?_
  · exact runsOver_comments [""]
  · exact runsOver_comments ["Query in SQL:"]
  · exact runsOver_map_comment ranges _
  · exact runsOver_comments [""]
  · exact .flatMap fun ⟨range, k⟩ _ => runsOver_selectPrint hd c (by decide) (by decide) k range

theorem runsOver_aggregateOps (hd : d.table.IsGenerated IndexDataset.tableName IndexDataset.columnNames n)
    (c : Copy) (hfilter : filter ∈ IndexDataset.columnNames) (htarget : target ∈ IndexDataset.columnNames)
    (f : AggregateFunction) (ranges : List Predicate) (intro : List String) :
    (aggregateOps (generatedColumn c.name) c.name filter target f ranges intro).RunsOver (catalog d) := by
  unfold aggregateOps
  refine .append (.append (runsOver_comments intro) (runsOver_comments _)) ?_
  exact .flatMap fun ⟨range, k⟩ _ => runsOver_selectAggregate hd c hfilter htarget f k range

theorem runsOver_sumOps (hd : d.table.IsGenerated IndexDataset.tableName IndexDataset.columnNames n)
    (ranges : List Predicate) : (sumOps (generatedColumn Copy.sorted.name) ranges).RunsOver (catalog d) := by
  unfold sumOps
  refine .append (.append (.append (runsOver_comments _) ?_) (runsOver_comments [""])) ?_
  · exact runsOver_map_comment ranges _
  · exact .flatMap fun ⟨range, k⟩ _ => runsOver_selectAggregate hd .sorted (by decide) (by decide) .sum k range

theorem runsOver_refineOps (hd : d.table.IsGenerated IndexDataset.tableName IndexDataset.columnNames n)
    (first second : Predicate) : (refineOps (generatedColumn Copy.sorted.name) first second).RunsOver (catalog d) := by
  unfold refineOps
  refine .append (runsOver_comments _) ⟨fun Γ => ?_, ?_⟩
  · -- the refining select starts a second tag, and everything after it goes on with that one
    let table : TableName := ⟨generatedDatabase, Copy.sorted.name⟩
    let Γ₁ := (Γ.bind "s1" (.rows table Γ.fresh)).bind "f1" (.values Γ.fresh)
    let Γ₂ := (Γ₁.bind "s2" (.rows table Γ₁.fresh)).bind "f2" (.values Γ₁.fresh)
    have hselect : Sorting.Run Printable Γ [.select "s1" (.column (generatedColumn Copy.sorted.name "col3")) first,
        .fetch "f1" (generatedColumn Copy.sorted.name "col2") "s1"] Γ₁ :=
      .cons .selectColumn (.single (.fetch rfl))
    have hrefine : Sorting.Run Printable Γ₁ [.select "s2" (.refine "s1" "f1") second,
        .fetch "f2" (generatedColumn Copy.sorted.name "col1") "s2"] Γ₂ :=
      .cons (.selectRefine rfl rfl) (.single (.fetch rfl))
    have hprint : Sorting.Run Printable Γ₂ [.print ["f2"]] Γ₂ :=
      .single (.print (.inr ⟨Γ₁.fresh, List.forall_mem_singleton.2 rfl⟩))
    have hsum : Sorting.Run Printable Γ₂ [.aggregate .sum "a1" "f2", .print ["a1"]] (Γ₂.bind "a1" .scalar) :=
      .cons (.aggregate rfl) (.single (.print (.inl (List.forall_mem_singleton.2 rfl))))
    exact ⟨_, ((hselect.append hrefine).append hprint).append hsum⟩
  · have hresolve : ∀ name ∈ IndexDataset.columnNames, ∀ r ∈ some (generatedColumn Copy.sorted.name name),
        ((catalog d).resolve r).isOk = true := by
      intro name hname r hr
      obtain rfl := Option.some.inj hr
      exact isOk_resolve hd .sorted hname
    simp only [Catalog.Holds, List.forall_mem_cons]
    refine ⟨hresolve _ (by decide), hresolve _ (by decide), ?_, hresolve _ (by decide), ?_, ?_, ?_, by simp⟩
    · exact fun r hr => by cases hr
    · exact fun r hr => by cases hr
    · exact fun r hr => by cases hr
    · exact fun r hr => by cases hr

theorem isInert_setupOps (config : SuiteConfig) (t : Table) (c : Copy) (title : String) :
    ∀ op ∈ setupOps config t c title, op.isInert = true := by
  simp only [setupOps, List.forall_mem_append]
  refine ⟨⟨⟨⟨⟨⟨Script.isInert_comments _, Script.isInert_declare _⟩, fun op hop => ?_⟩,
    Script.isInert_comments _⟩, by simp [Op.isInert]⟩, Script.isInert_comments _⟩, by simp [Op.isInert]⟩
  obtain ⟨index, _, hop⟩ := List.mem_flatMap.1 hop
  rcases List.mem_cons.1 hop with rfl | hop
  · rfl
  · rw [List.mem_singleton.1 hop]
    rfl

/-! ## All scenarios -/

variable {config : SuiteConfig} {r : Ranges}

/-- **Every scenario has a script that binds what it reads.** -/
theorem runsOver_plans (hd : IsDrawn config d r) :
    ∀ p ∈ plans config (catalog d) d r, ∃ s, p.script = .ok s ∧ s.RunsOver (catalog d) := by
  have hfound : ∀ c : Copy, ∃ t, (catalog d).generated c.name = .ok t := fun c => ⟨_, generated_catalog hd.table c⟩
  have hsetup : ∀ (c : Copy) (title : String), ∃ s, setupScript config (catalog d) c title = .ok s ∧
      s.RunsOver (catalog d) := fun c title =>
    ⟨_, setupScript_eq_ok hd.table config c title, Script.runsOver_of_isInert (isInert_setupOps config _ c title)⟩
  have hbatch : ∀ (c : Copy) {filter target : String}, filter ∈ IndexDataset.columnNames →
      target ∈ IndexDataset.columnNames → ∀ (f : AggregateFunction) (ranges : List Predicate) (intro : List String),
        ∃ s, aggregateBatch (catalog d) c.name filter target f ranges intro = .ok s ∧ s.RunsOver (catalog d) :=
    fun c _ _ hfilter htarget f ranges intro => ⟨_, aggregateBatch_eq_ok_iff.2 ⟨hfound c, rfl⟩,
      runsOver_aggregateOps hd.table c hfilter htarget f ranges intro⟩
  have hranges : ∀ (c : Copy) (ranges : List Predicate) (intro : List String),
      ∃ s, projectedRanges (catalog d) c.name ranges intro = .ok s ∧ s.RunsOver (catalog d) :=
    fun c ranges intro => ⟨_, projectedRanges_eq_ok_iff.2 ⟨hfound c, rfl⟩, runsOver_projectOps hd.table c ranges intro⟩
  have hrefined : ∃ s, refinedSum (catalog d) r.refineFirst r.refineSecond = .ok s ∧ s.RunsOver (catalog d) :=
    ⟨_, refinedSum_eq_ok_iff.2 ⟨hfound .sorted, rfl⟩, runsOver_refineOps hd.table _ _⟩
  have hsums : ∀ ranges, ∃ s, frequentSums (catalog d) ranges = .ok s ∧ s.RunsOver (catalog d) := fun ranges =>
    ⟨_, frequentSums_eq_ok_iff.2 ⟨hfound .sorted, rfl⟩, runsOver_sumOps hd.table ranges⟩
  have hpair : ∀ (c : Copy) (f : AggregateFunction) (ranges : List Predicate) (intro : List String),
      ∃ s, aggregateBatch (catalog d) c.name "col2" "col3" f ranges intro = .ok s ∧ s.RunsOver (catalog d) :=
    fun c => hbatch c (by decide) (by decide)
  simp only [plans, List.forall_mem_append, List.forall_mem_cons]
  refine ⟨⟨hsetup _ _, hsetup _ _, hranges _ _ _, hranges _ _ _, hrefined, hpair _ _ _ _, hpair _ _ _ _, hsums _,
    hpair _ _ _ _, hpair _ _ _ _, hsetup _ _, hranges _ _ _, hpair _ _ _ _, by simp⟩, ?_⟩
  intro p hp
  obtain ⟨⟨⟨s, ranges⟩, number⟩, hmem, rfl⟩ := List.mem_map.1 hp
  have hs : s ∈ sweeps := by
    rw [← hd.swept]
    exact List.mem_map_of_mem (List.fst_mem_of_mem_zipIdx hmem)
  have hcolumns : ∀ s ∈ sweeps, s.filter ∈ IndexDataset.columnNames ∧ s.target ∈ IndexDataset.columnNames := by
    decide
  exact hbatch s.copy (hcolumns s hs).1 (hcolumns s hs).2 .avg ranges _

/-- **Every drawn dataset makes a suite.** -/
theorem exists_suiteOf (hd : IsDrawn config d r) : ∃ s, suiteOf config d r = .ok s := by
  refine Suite.exists_ofPlans ⟨_, dataFiles_catalog hd.table⟩ fun p hp => ?_
  obtain ⟨s, hs, hruns⟩ := runsOver_plans hd p hp
  exact ⟨s, hs, hruns.exists_text⟩

end Columnar.IndexQueries
