import Columnar.Proofs.Query.Ids
import Columnar.Proofs.Query.Origins
import Columnar.Proofs.Reorder
import Columnar.Proofs.Run.Sorting
import Mathlib.Data.Fin.Rev

/-!
# Scalars do not depend on the order of rows

A script is run over a catalog and over the same catalog with the rows of each table in another order.
The two runs list different ids in different orders, but their entries have the same origins: each tag
has a list of origins in the order of the first run and a permutation of it in the order of the second
run, and every list of the tag is read off it, in the first run by old row ids, in the second run by new
ones. Aggregates do not see the order of their values, so scalars agree, and if only scalars are printed,
so does the output.

* `Sorting.Step.exists_step_reorder` — one operation keeps the two runs matched and prints the same
* `Sorting.Run.exists_runFrom_reorder` — so does a script
* `Script.WellSorted.exists_run_reorder` — **a script that prints scalars only has one output**
-/

namespace Columnar

/-- The origins of the entries of a list, in the orders of two runs. -/
structure Origins where
  first : List Origin
  second : List Origin
  perm : first.Perm second

namespace Origins

/-- No entries. -/
def empty : Origins := ⟨[], [], .refl []⟩

/-- Entries that are rows of a table. -/
def ofRows {rs rs' : Query.RowSet} (h : rs.Perm rs') : Origins :=
  ⟨rs.map Origin.row, rs'.map Origin.row, h.map Origin.row⟩

/-- The entries that a refining select keeps. -/
def filter (os : Origins) (q : Origin → Bool) : Origins :=
  ⟨os.first.filter q, os.second.filter q, os.perm.filter q⟩

/-- The entries of a join. -/
def join (leftKey rightKey : Origin → Int64) (ls rs : Origins) : Origins :=
  ⟨Origin.join leftKey rightKey ls.first rs.first, Origin.join leftKey rightKey ls.second rs.second,
    Origin.join_perm leftKey rightKey ls.perm rs.perm⟩

end Origins

variable {catalog : Catalog} {π : (t : Table) → Equiv.Perm (Fin t.rowCount)} {origins : Nat → Origins}
  {Γ Γ' : Sorting} {env env' : Environment}

/-! ## The relation between two runs -/

/-- What a sort promises of the results of two runs, given the origins of the lists of each tag. -/
def HandleSort.Matches (catalog : Catalog) (π : (t : Table) → Equiv.Perm (Fin t.rowCount))
    (origins : Nat → Origins) : HandleSort → Binding → Binding → Prop
  | rows table tag, b, b' => ∃ row : Origin → Nat,
    b = .rows ((origins tag).first.map row) ∧
      b' = .rows ((origins tag).second.map fun o => (catalog.oldRow π table).symm (row o)) ∧
      ∀ o ∈ (origins tag).first, catalog.IsRow table (row o)
  | values tag, b, b' => ∃ value : Origin → Int64,
    b = .values ((origins tag).first.map value) ∧ b' = .values ((origins tag).second.map value)
  | scalar, b, b' => ∃ a, b = .scalar a ∧ b' = .scalar a

/-- Only the origins of its own tag matter to a sort. -/
theorem HandleSort.Matches.congr {origins' : Nat → Origins} {σ : HandleSort} {b b' : Binding}
    (hb : σ.Matches catalog π origins b b') (h : ∀ tag, σ.tag? = some tag → origins' tag = origins tag) :
    σ.Matches catalog π origins' b b' := by
  cases σ with
  | rows table tag =>
    obtain ⟨row, hb, hb', hrows⟩ := hb
    exact ⟨row, by rw [h tag rfl, hb], by rw [h tag rfl, hb'], by rw [h tag rfl]; exact hrows⟩
  | values tag =>
    obtain ⟨value, hb, hb'⟩ := hb
    exact ⟨value, by rw [h tag rfl, hb], by rw [h tag rfl, hb']⟩
  | scalar => exact hb

/-- Rows that start a tag are read off the origins that the tag is given. -/
theorem HandleSort.matches_rows {table : TableName} {tag : Nat} {os : Origins} {rs rs' : Query.RowSet}
    (row : Origin → Nat) (hrs : rs = os.first.map row)
    (hrs' : rs' = os.second.map fun o => (catalog.oldRow π table).symm (row o))
    (hrows : ∀ o ∈ os.first, catalog.IsRow table (row o)) :
    (HandleSort.rows table tag).Matches catalog π (Function.update origins tag os) (.rows rs) (.rows rs') := by
  subst hrs hrs'
  rw [HandleSort.Matches, Function.update_self]
  exact ⟨row, rfl, rfl, hrows⟩

theorem HandleSort.matches_values {tag : Nat} {vs vs' : List Int64} (value : Origin → Int64)
    (hvs : vs = (origins tag).first.map value) (hvs' : vs' = (origins tag).second.map value) :
    (HandleSort.values tag).Matches catalog π origins (.values vs) (.values vs') :=
  ⟨value, by rw [hvs], by rw [hvs']⟩

theorem HandleSort.matches_scalar (a : Aggregate) :
    HandleSort.scalar.Matches catalog π origins (.scalar a) (.scalar a) :=
  ⟨a, rfl, rfl⟩

namespace Sorting

/-- Every handle that has a sort is bound to matching results in both runs. -/
def Matches (Γ : Sorting) (catalog : Catalog) (π : (t : Table) → Equiv.Perm (Fin t.rowCount))
    (origins : Nat → Origins) (env env' : Environment) : Prop :=
  ∀ h σ, Γ.sort? h = some σ →
    ∃ b b', env.lookup? h = some b ∧ env'.lookup? h = some b' ∧ σ.Matches catalog π origins b b'

theorem matches_empty (catalog : Catalog) (π : (t : Table) → Equiv.Perm (Fin t.rowCount))
    (origins : Nat → Origins) : Sorting.empty.Matches catalog π origins .empty .empty := by
  intro h σ hσ
  cases hσ

/-- A tag that is not in use can be given any origins. -/
theorem Matches.extend (hΓ : Γ.Matches catalog π origins env env') (os : Origins) :
    Γ.Matches catalog π (Function.update origins Γ.fresh os) env env' := by
  intro h σ hσ
  obtain ⟨b, b', hb, hb', hmatches⟩ := hΓ h σ hσ
  -- tags in use lie below the fresh one, so they keep their origins
  refine ⟨b, b', hb, hb', hmatches.congr fun tag htag => ?_⟩
  exact Function.update_of_ne (Nat.ne_of_lt (Γ.tag_lt h σ tag hσ htag)) os origins

theorem Matches.bind {σ : HandleSort} {b b' : Binding} (hΓ : Γ.Matches catalog π origins env env')
    (hb : σ.Matches catalog π origins b b') (out : Handle) :
    (Γ.bind out σ).Matches catalog π origins (env.bind out b) (env'.bind out b') := by
  intro h τ hτ
  rw [sort?_bind] at hτ
  rw [Environment.lookup_bind, Environment.lookup_bind]
  by_cases hh : h = out
  · rw [if_pos hh] at hτ ⊢
    obtain rfl : σ = τ := by simpa using hτ
    exact ⟨b, b', rfl, if_pos hh, hb⟩
  · rw [if_neg hh] at hτ ⊢
    rw [if_neg hh]
    exact hΓ h τ hτ

/-! ## What handles of a sort are bound to -/

variable {h : Handle} {table : TableName} {tag : Nat}

theorem Matches.exists_rows (hΓ : Γ.Matches catalog π origins env env')
    (hσ : Γ.sort? h = some (.rows table tag)) :
    ∃ row : Origin → Nat, env.lookup? h = some (.rows ((origins tag).first.map row)) ∧
      env'.lookup? h =
        some (.rows ((origins tag).second.map fun o => (catalog.oldRow π table).symm (row o))) ∧
      ∀ o ∈ (origins tag).first, catalog.IsRow table (row o) := by
  obtain ⟨b, b', hb, hb', row, rfl, rfl, hrows⟩ := hΓ h _ hσ
  exact ⟨row, hb, hb', hrows⟩

theorem Matches.exists_values (hΓ : Γ.Matches catalog π origins env env')
    (hσ : Γ.sort? h = some (.values tag)) :
    ∃ value : Origin → Int64, env.lookup? h = some (.values ((origins tag).first.map value)) ∧
      env'.lookup? h = some (.values ((origins tag).second.map value)) := by
  obtain ⟨b, b', hb, hb', value, rfl, rfl⟩ := hΓ h _ hσ
  exact ⟨value, hb, hb'⟩

theorem Matches.exists_scalar (hΓ : Γ.Matches catalog π origins env env') (hσ : Γ.sort? h = some .scalar) :
    ∃ a, env.lookup? h = some (.scalar a) ∧ env'.lookup? h = some (.scalar a) := by
  obtain ⟨b, b', hb, hb', a, rfl, rfl⟩ := hΓ h _ hσ
  exact ⟨a, hb, hb'⟩

/-- Scalars are printed as the same block. -/
theorem Matches.exists_printed {handles : List Handle} (hΓ : Γ.Matches catalog π origins env env')
    (hprint : Γ.Scalars handles) :
    ∃ block, Run.printed env handles = .ok block ∧ Run.printed env' handles = .ok block := by
  refine ⟨_, Run.printed_scalars fun k hk => ?_, ?_⟩
  · obtain ⟨a, ha, _⟩ := hΓ.exists_scalar (hprint k hk)
    exact ⟨a, ha⟩
  · rw [Run.printed_scalars fun k hk => ?_]
    · congr 2
      refine List.filterMap_congr fun k hk => ?_
      obtain ⟨a, ha, ha'⟩ := hΓ.exists_scalar (hprint k hk)
      rw [ha, ha']
    · obtain ⟨a, _, ha'⟩ := hΓ.exists_scalar (hprint k hk)
      exact ⟨a, ha'⟩

/-! ## One operation in both runs -/

/-- Fetching at entries of the same origins lists the same values in both runs. -/
theorem exists_fetch_reorder (π : (t : Table) → Equiv.Perm (Fin t.rowCount)) {r : ColumnRef}
    {cells : List Int64} (hcells : catalog.resolve r = .ok cells) {os : Origins} {row : Origin → Nat}
    (hrows : ∀ o ∈ os.first, catalog.IsRow r.tableName (row o)) :
    Query.fetch cells (os.first.map row) = .ok (os.first.map fun o => cells.getD (row o) 0) ∧
      ∃ cells', (catalog.reorder π).resolve r = .ok cells' ∧
        Query.fetch cells' (os.second.map fun o => (catalog.oldRow π r.tableName).symm (row o)) =
          .ok (os.second.map fun o => cells.getD (row o) 0) := by
  have hlt : ∀ o ∈ os.first, row o < cells.length := fun o ho =>
    (Catalog.isRow_iff_lt_length hcells).1 (hrows o ho)
  obtain ⟨cells', hcells', hget⟩ := Catalog.resolve_reorder π hcells
  -- at the new id of a row, the reordered column holds what the column holds at the old one
  have hnew : ∀ o, cells'[(catalog.oldRow π r.tableName).symm (row o)]? = cells[row o]? := fun o => by
    rw [hget, Equiv.apply_symm_apply]
  constructor
  · rw [Query.fetch_eq_ok, List.map_map]
    · rfl
    · intro i hi
      obtain ⟨o, ho, rfl⟩ := List.mem_map.1 hi
      exact hlt o ho
  · refine ⟨cells', hcells', ?_⟩
    rw [Query.fetch_eq_ok, List.map_map]
    · congr 2
      funext o
      rw [Function.comp, List.getD_eq_getElem?_getD, hnew o, List.getD_eq_getElem?_getD]
    · intro i hi
      obtain ⟨o, ho, rfl⟩ := List.mem_map.1 hi
      have hsome := hnew o
      rw [List.getElem?_eq_getElem (hlt o (os.perm.mem_iff.2 ho))] at hsome
      exact (List.getElem?_eq_some_iff.1 hsome).1

/-- **A well-sorted operation keeps two runs matched and prints the same in both.** -/
theorem Step.exists_step_reorder {op : Op} (hop : Step Scalars Γ op Γ')
    (hΓ : Γ.Matches catalog π origins env env')
    (hcolumn : ∀ r, op.column? = some r → ∃ values, catalog.resolve r = .ok values) :
    ∃ env₁ env₁' block origins', Run.step catalog env op = .ok (env₁, block) ∧
      Run.step (catalog.reorder π) env' op = .ok (env₁', block) ∧
      Γ'.Matches catalog π origins' env₁ env₁' := by
  cases hop with
  | inert h => exact ⟨env, env', none, origins, Run.step_of_isInert h, Run.step_of_isInert h, hΓ⟩
  | @selectColumn out column p =>
    obtain ⟨values, hvalues⟩ := hcolumn column rfl
    obtain ⟨values', hvalues', hget⟩ := Catalog.resolve_reorder π hvalues
    refine ⟨_, _, _, _, Run.step_select_column hvalues out p, Run.step_select_column hvalues' out p,
      (hΓ.extend (.ofRows (Query.select_perm p hget))).bind
        (HandleSort.matches_rows Origin.rowId ?_ ?_ ?_) out⟩
    · rw [Origins.ofRows, List.map_map]
      exact (List.map_id _).symm
    · rw [Origins.ofRows, List.map_map, List.map_map]
      simp [Function.comp_def, Origin.rowId]
    · intro o ho
      obtain ⟨i, hi, rfl⟩ := List.mem_map.1 ho
      exact (Catalog.isRow_iff_lt_length hvalues).2 (Query.lt_length_of_mem_select hi)
  | @selectRefine out rows values p table tag hrows hvalues =>
    obtain ⟨row, hrs, hrs', hids⟩ := hΓ.exists_rows hrows
    obtain ⟨value, hvs, hvs'⟩ := hΓ.exists_values hvalues
    refine ⟨_, _, _, _, Run.step_select_refine hrs hvs (by simp) out p,
      Run.step_select_refine hrs' hvs' (by simp) out p,
      (hΓ.extend ((origins tag).filter fun o => p.holds (value o))).bind
        (HandleSort.matches_rows row ?_ ?_ ?_) out⟩
    · rw [Query.refine_map]
      rfl
    · rw [Query.refine_map]
      rfl
    · intro o ho
      exact hids o (List.mem_of_mem_filter ho)
  | @fetch out rows column tag hrows =>
    obtain ⟨cells, hcells⟩ := hcolumn column rfl
    obtain ⟨row, hrs, hrs', hids⟩ := hΓ.exists_rows hrows
    obtain ⟨hfetch, cells', hcells', hfetch'⟩ := exists_fetch_reorder π hcells hids
    exact ⟨_, _, _, origins, Run.step_fetch hcells hrs hfetch out, Run.step_fetch hcells' hrs' hfetch' out,
      hΓ.bind (HandleSort.matches_values _ rfl rfl) out⟩
  | @join leftOut rightOut left right kind leftTable rightTable leftTag rightTag
      hleftRows hleftValues hrightRows hrightValues =>
    obtain ⟨leftRow, hlrs, hlrs', hlids⟩ := hΓ.exists_rows hleftRows
    obtain ⟨leftKey, hlvs, hlvs'⟩ := hΓ.exists_values hleftValues
    obtain ⟨rightRow, hrrs, hrrs', hrids⟩ := hΓ.exists_rows hrightRows
    obtain ⟨rightKey, hrvs, hrvs'⟩ := hΓ.exists_values hrightValues
    -- both outputs are read off the joined origins, the left one by left entries and the right one by
    -- right entries
    refine ⟨_, _, _, _,
      Run.step_join hlvs hlrs hrvs hrrs (by simp) (by simp) leftOut rightOut kind,
      Run.step_join hlvs' hlrs' hrvs' hrrs' (by simp) (by simp) leftOut rightOut kind,
      ((hΓ.extend (.join leftKey rightKey (origins leftTag) (origins rightTag))).bind
        (HandleSort.matches_rows (fun o => leftRow o.left) ?_ ?_ ?_) leftOut).bind
        (HandleSort.matches_rows (fun o => rightRow o.right) ?_ ?_ ?_) rightOut⟩
    · rw [Query.nestedLoop_map, List.map_map]
      rfl
    · rw [Query.nestedLoop_map, List.map_map]
      rfl
    · intro o ho
      exact hlids _ (Origin.mem_of_mem_join ho).1
    · rw [Query.nestedLoop_map, List.map_map]
      rfl
    · rw [Query.nestedLoop_map, List.map_map]
      rfl
    · intro o ho
      exact hrids _ (Origin.mem_of_mem_join ho).2
  | @aggregate f out input tag hinput =>
    obtain ⟨value, hvs, hvs'⟩ := hΓ.exists_values hinput
    -- the values of the second run are those of the first in another order
    have hagree : Aggregate.of f ((origins tag).second.map value) =
        Aggregate.of f ((origins tag).first.map value) :=
      (Aggregate.of_perm f ((origins tag).perm.map value)).symm
    refine ⟨_, _, _, origins, Run.step_aggregate hvs f out, Run.step_aggregate hvs' f out, ?_⟩
    rw [hagree]
    exact hΓ.bind (HandleSort.matches_scalar _) out
  | print hprint =>
    obtain ⟨block, hblock, hblock'⟩ := hΓ.exists_printed hprint
    exact ⟨env, env', some block, origins, Run.step_print hblock, Run.step_print hblock', hΓ⟩

/-- **A well-sorted script prints the same blocks in both runs.** -/
theorem Run.exists_runFrom_reorder {s : Script} (hs : Sorting.Run Scalars Γ s Γ')
    (hΓ : Γ.Matches catalog π origins env env') (hcolumns : catalog.Holds s) :
    ∃ env₁ env₁' blocks, Run.runFrom catalog env s = .ok (env₁, blocks) ∧
      Run.runFrom (catalog.reorder π) env' s = .ok (env₁', blocks) := by
  induction hs generalizing origins env env' with
  | nil => exact ⟨env, env', [], rfl, rfl⟩
  | @cons Γ Γ₁ Γ₂ op ops first rest ih =>
    obtain ⟨env₁, env₁', block, origins₁, hstep, hstep', hΓ₁⟩ :=
      first.exists_step_reorder hΓ (hcolumns.exists_values (by simp))
    obtain ⟨env₂, env₂', blocks, hrun, hrun'⟩ := ih hΓ₁ hcolumns.tail
    exact ⟨env₂, env₂', block.toList ++ blocks, Run.runFrom_cons hstep hrun,
      Run.runFrom_cons hstep' hrun'⟩

end Sorting

/-- **A well-sorted script that prints scalars only has the same output however the rows of each table
are ordered.** -/
theorem Script.WellSorted.exists_run_reorder {s : Script} (hs : s.WellSorted Sorting.Scalars)
    (hcolumns : catalog.Holds s) (π : (t : Table) → Equiv.Perm (Fin t.rowCount)) :
    ∃ text, Run.run catalog s = .ok text ∧ Run.run (catalog.reorder π) s = .ok text := by
  obtain ⟨Γ, hs⟩ := hs
  obtain ⟨env, env', blocks, hrun, hrun'⟩ :=
    hs.exists_runFrom_reorder (Sorting.matches_empty catalog π fun _ => .empty) hcolumns
  exact ⟨Layout.text blocks, Run.run_eq_ok hrun, Run.run_eq_ok hrun'⟩

/-- Joins two tables and prints a sum and a mean of what was joined. -/
def Script.scalarSample : Script := [
  .select "p" (.column ⟨"db", "fact", "amount"⟩) (.below 40),
  .fetch "v" ⟨"db", "fact", "key"⟩ "p",
  .select "q" (.column ⟨"db", "dim", "key"⟩) ⟨.unbounded, .unbounded⟩,
  .fetch "w" ⟨"db", "dim", "key"⟩ "q",
  .join "l" "r" ⟨"v", "p"⟩ ⟨"w", "q"⟩ .hash,
  .fetch "a" ⟨"db", "fact", "amount"⟩ "l",
  .aggregate .sum "s" "a",
  .aggregate .avg "m" "a",
  .print ["s", "m"]]

/-- Here the rows of each table are put in reverse order. -/
theorem exists_run_reorder_scalarSample :
    ∃ text, Run.run .sample .scalarSample = .ok text ∧
      Run.run (Catalog.sample.reorder fun _ => Fin.revPerm) .scalarSample = .ok text :=
  Script.WellSorted.exists_run_reorder (by decide) (by decide) fun _ => Fin.revPerm

end Columnar
