import Columnar.Proofs.Query.Ids
import Columnar.Proofs.Run.Sorting
import Mathlib.Logic.Function.Basic

/-!
# Well-sorted scripts never fail

The invariant of a run gives each tag a length. A handle of rows is bound to rows of its table, as many
as the length of its tag; a handle of values is bound to as many values as the length of its tag. Each
operation keeps the invariant, with a length for the tag it starts, and under the invariant no operation
fails: the columns of a table have all its rows, and lists of one tag have one length.

* `Sorting.Step.exists_step` — one operation succeeds and keeps the invariant
* `Sorting.Run.exists_runFrom` — so does a script
* `Script.WellSorted.exists_run` — **a well-sorted script always has an output**
-/

namespace Columnar

variable {catalog : Catalog} {length : Nat → Nat} {Γ Γ' : Sorting} {env : Environment}

/-! ## The invariant -/

/-- What a sort promises of a result, given the length of the lists of each tag. -/
def HandleSort.Fits (catalog : Catalog) (length : Nat → Nat) : HandleSort → Binding → Prop
  | rows table tag, b => ∃ rs, b = .rows rs ∧ rs.length = length tag ∧ ∀ i ∈ rs, catalog.IsRow table i
  | values tag, b => ∃ vs, b = .values vs ∧ vs.length = length tag
  | scalar, b => ∃ a, b = .scalar a

/-- Rows that start a tag have the length that the tag is given. -/
theorem HandleSort.fits_rows {table : TableName} {tag : Nat} {rs : Query.RowSet} {n : Nat}
    (hlength : rs.length = n) (hrows : ∀ i ∈ rs, catalog.IsRow table i) :
    (HandleSort.rows table tag).Fits catalog (Function.update length tag n) (.rows rs) :=
  ⟨rs, rfl, by rw [Function.update_self, hlength], hrows⟩

theorem HandleSort.fits_values {tag : Nat} {vs : List Int64} (hlength : vs.length = length tag) :
    (HandleSort.values tag).Fits catalog length (.values vs) :=
  ⟨vs, rfl, hlength⟩

theorem HandleSort.fits_scalar (a : Aggregate) : HandleSort.scalar.Fits catalog length (.scalar a) :=
  ⟨a, rfl⟩

/-- Only the length of its own tag matters to a sort. -/
theorem HandleSort.Fits.congr {length' : Nat → Nat} {σ : HandleSort} {b : Binding}
    (hb : σ.Fits catalog length b) (h : ∀ tag, σ.tag? = some tag → length' tag = length tag) :
    σ.Fits catalog length' b := by
  cases σ with
  | rows table tag =>
    obtain ⟨rs, hb, hlength, hrows⟩ := hb
    exact ⟨rs, hb, by rw [hlength, h tag rfl], hrows⟩
  | values tag =>
    obtain ⟨vs, hb, hlength⟩ := hb
    exact ⟨vs, hb, by rw [hlength, h tag rfl]⟩
  | scalar => exact hb

namespace Sorting

/-- Every handle that has a sort is bound to a result that fits it. -/
def Models (Γ : Sorting) (catalog : Catalog) (length : Nat → Nat) (env : Environment) : Prop :=
  ∀ h σ, Γ.sort? h = some σ → ∃ b, env.lookup? h = some b ∧ σ.Fits catalog length b

theorem models_empty (catalog : Catalog) (length : Nat → Nat) :
    Sorting.empty.Models catalog length .empty := by
  intro h σ hσ
  cases hσ

/-- A tag that is not in use can be given any length. -/
theorem Models.extend (hΓ : Γ.Models catalog length env) (n : Nat) :
    Γ.Models catalog (Function.update length Γ.fresh n) env := by
  intro h σ hσ
  obtain ⟨b, hb, hfits⟩ := hΓ h σ hσ
  -- tags in use lie below the fresh one, so they keep their lengths
  refine ⟨b, hb, hfits.congr fun tag htag => ?_⟩
  exact Function.update_of_ne (Nat.ne_of_lt (Γ.tag_lt h σ tag hσ htag)) n length

theorem Models.bind {σ : HandleSort} {b : Binding} (hΓ : Γ.Models catalog length env)
    (hb : σ.Fits catalog length b) (out : Handle) :
    (Γ.bind out σ).Models catalog length (env.bind out b) := by
  intro h τ hτ
  rw [sort?_bind] at hτ
  rw [Environment.lookup_bind]
  by_cases hh : h = out
  · rw [if_pos hh] at hτ ⊢
    obtain rfl : σ = τ := by simpa using hτ
    exact ⟨b, rfl, hb⟩
  · rw [if_neg hh] at hτ ⊢
    exact hΓ h τ hτ

/-! ## What handles of a sort are bound to -/

variable {h : Handle} {table : TableName} {tag : Nat}

theorem Models.exists_rows (hΓ : Γ.Models catalog length env) (hσ : Γ.sort? h = some (.rows table tag)) :
    ∃ rs, env.lookup? h = some (.rows rs) ∧ rs.length = length tag ∧ ∀ i ∈ rs, catalog.IsRow table i := by
  obtain ⟨b, hb, rs, rfl, hlength, hrows⟩ := hΓ h _ hσ
  exact ⟨rs, hb, hlength, hrows⟩

theorem Models.exists_values (hΓ : Γ.Models catalog length env) (hσ : Γ.sort? h = some (.values tag)) :
    ∃ vs, env.lookup? h = some (.values vs) ∧ vs.length = length tag := by
  obtain ⟨b, hb, vs, rfl, hlength⟩ := hΓ h _ hσ
  exact ⟨vs, hb, hlength⟩

theorem Models.exists_scalar (hΓ : Γ.Models catalog length env) (hσ : Γ.sort? h = some .scalar) :
    ∃ a, env.lookup? h = some (.scalar a) := by
  obtain ⟨b, hb, a, rfl⟩ := hΓ h _ hσ
  exact ⟨a, hb⟩

/-- A handle with a tag is bound to a sequence of the length of the tag. -/
theorem Models.exists_sequence (hΓ : Γ.Models catalog length env)
    (htag : (Γ.sort? h).bind HandleSort.tag? = some tag) :
    ∃ b values, env.lookup? h = some b ∧ Run.sequence? b = some values ∧ values.length = length tag := by
  obtain ⟨σ, hσ, htag⟩ := Option.bind_eq_some_iff.1 htag
  cases σ with
  | rows table tag' =>
    obtain rfl : tag' = tag := by simpa [HandleSort.tag?] using htag
    obtain ⟨rs, hrs, hlength, _⟩ := hΓ.exists_rows hσ
    exact ⟨.rows rs, rs.map Int64.ofNat, hrs, rfl, by rw [List.length_map, hlength]⟩
  | values tag' =>
    obtain rfl : tag' = tag := by simpa [HandleSort.tag?] using htag
    obtain ⟨vs, hvs, hlength⟩ := hΓ.exists_values hσ
    exact ⟨.values vs, vs, hvs, rfl, hlength⟩
  | scalar => simp [HandleSort.tag?] at htag

/-- What may be printed is laid out. -/
theorem Models.exists_printed {handles : List Handle} (hΓ : Γ.Models catalog length env)
    (hprint : Γ.Printable handles) : ∃ block, Run.printed env handles = .ok block := by
  rcases hprint with hscalars | ⟨tag, haligned⟩
  · exact ⟨_, Run.printed_scalars fun k hk => hΓ.exists_scalar (hscalars k hk)⟩
  · exact Run.exists_printed fun k hk => hΓ.exists_sequence (haligned k hk)

/-! ## Progress and preservation -/

/-- **A well-sorted operation succeeds and keeps the invariant.** -/
theorem Step.exists_step {op : Op} (hop : Step Printable Γ op Γ') (hΓ : Γ.Models catalog length env)
    (hcolumn : ∀ r, op.column? = some r → ∃ values, catalog.resolve r = .ok values) :
    ∃ env' block length', Run.step catalog env op = .ok (env', block) ∧
      Γ'.Models catalog length' env' := by
  cases hop with
  | inert h => exact ⟨env, none, length, Run.step_of_isInert h, hΓ⟩
  | @selectColumn out column p =>
    obtain ⟨values, hvalues⟩ := hcolumn column rfl
    refine ⟨_, _, _, Run.step_select_column hvalues out p,
      (hΓ.extend (Query.select values p).length).bind (HandleSort.fits_rows rfl ?_) out⟩
    intro i hi
    exact (Catalog.isRow_iff_lt_length hvalues).2 (Query.lt_length_of_mem_select hi)
  | @selectRefine out rows values p table tag hrows hvalues =>
    obtain ⟨rs, hrs, hlength, hids⟩ := hΓ.exists_rows hrows
    obtain ⟨vs, hvs, hlength'⟩ := hΓ.exists_values hvalues
    have hstep : Run.step catalog env (.select out (.refine rows values) p) = _ :=
      Run.step_select_refine hrs hvs (hlength.trans hlength'.symm) out p
    generalize hkept : List.map Prod.fst _ = kept at hstep
    refine ⟨_, _, _, hstep, (hΓ.extend kept.length).bind (HandleSort.fits_rows rfl ?_) out⟩
    intro i hi
    subst hkept
    exact hids i (Query.mem_of_mem_refine hi)
  | @fetch out rows column tag hrows =>
    obtain ⟨cells, hcells⟩ := hcolumn column rfl
    obtain ⟨rs, hrs, hlength, hids⟩ := hΓ.exists_rows hrows
    -- the ids are rows of the table, and each of its columns has all of them
    have hfetch : Query.fetch cells rs = .ok (rs.map fun i => cells.getD i 0) :=
      Query.fetch_eq_ok fun i hi => (Catalog.isRow_iff_lt_length hcells).1 (hids i hi)
    exact ⟨_, _, length, Run.step_fetch hcells hrs hfetch out,
      hΓ.bind (HandleSort.fits_values (by rw [List.length_map, hlength])) out⟩
  | @join leftOut rightOut left right kind leftTable rightTable leftTag rightTag
      hleftRows hleftValues hrightRows hrightValues =>
    obtain ⟨lrs, hlrs, hlrsLength, hlids⟩ := hΓ.exists_rows hleftRows
    obtain ⟨lvs, hlvs, hlvsLength⟩ := hΓ.exists_values hleftValues
    obtain ⟨rrs, hrrs, hrrsLength, hrids⟩ := hΓ.exists_rows hrightRows
    obtain ⟨rvs, hrvs, hrvsLength⟩ := hΓ.exists_values hrightValues
    have hleft : lvs.length = lrs.length := hlvsLength.trans hlrsLength.symm
    have hright : rvs.length = rrs.length := hrvsLength.trans hrrsLength.symm
    -- both outputs get the fresh tag, whose length is the number of pairs
    refine ⟨_, _, _, Run.step_join hlvs hlrs hrvs hrrs hleft hright leftOut rightOut kind,
      (((hΓ.extend (Query.nestedLoop (lvs.zip lrs) (rvs.zip rrs)).length).bind
        (HandleSort.fits_rows (List.length_map ..) ?_) leftOut).bind
        (HandleSort.fits_rows (List.length_map ..) ?_) rightOut)⟩
    · intro i hi
      obtain ⟨pair, hpair, rfl⟩ := List.mem_map.1 hi
      exact hlids _ (Query.mem_of_mem_nestedLoop hpair).1
    · intro i hi
      obtain ⟨pair, hpair, rfl⟩ := List.mem_map.1 hi
      exact hrids _ (Query.mem_of_mem_nestedLoop hpair).2
  | @aggregate f out input tag hinput =>
    obtain ⟨vs, hvs, _⟩ := hΓ.exists_values hinput
    exact ⟨_, _, length, Run.step_aggregate hvs f out, hΓ.bind (HandleSort.fits_scalar _) out⟩
  | print hprint =>
    obtain ⟨block, hblock⟩ := hΓ.exists_printed hprint
    exact ⟨env, some block, length, Run.step_print hblock, hΓ⟩

/-- **A well-sorted script succeeds from every environment that models its sorts.** -/
theorem Run.exists_runFrom {s : Script} (hs : Sorting.Run Printable Γ s Γ')
    (hΓ : Γ.Models catalog length env) (hcolumns : catalog.Holds s) :
    ∃ env' blocks, Run.runFrom catalog env s = .ok (env', blocks) := by
  -- the lengths change with every tag that starts, so the induction is over all of them
  induction hs generalizing length env with
  | nil => exact ⟨env, [], rfl⟩
  | @cons Γ Γ₁ Γ₂ op ops first rest ih =>
    obtain ⟨env₁, block, length₁, hstep, hΓ₁⟩ := first.exists_step hΓ (hcolumns.exists_values (by simp))
    obtain ⟨env₂, blocks, hrun⟩ := ih hΓ₁ hcolumns.tail
    exact ⟨env₂, block.toList ++ blocks, Columnar.Run.runFrom_cons hstep hrun⟩

/-- From an empty environment, a well-sorted script has an output. -/
theorem Run.exists_text {s : Script} (hs : Sorting.Run Printable .empty s Γ) (hcolumns : catalog.Holds s) :
    ∃ text, Run.run catalog s = .ok text := by
  obtain ⟨env, blocks, hrun⟩ := hs.exists_runFrom (models_empty catalog fun _ => 0) hcolumns
  exact ⟨Layout.text blocks, Run.run_eq_ok hrun⟩

end Sorting

/-! ## Scripts that run after any other one -/

/-- A script whose handles can be sorted after any other script, and whose columns a catalog holds. -/
structure Script.RunsOver (s : Script) (catalog : Catalog) : Prop where
  sorts : ∀ Γ, ∃ Γ', Sorting.Run Sorting.Printable Γ s Γ'
  holds : catalog.Holds s

namespace Script

variable {s t : Script}

theorem runsOver_of_isInert (h : ∀ op ∈ s, op.isInert = true) : s.RunsOver catalog where
  sorts Γ := ⟨Γ, .inert h⟩
  holds op hop r hr := by
    rw [Op.column?_of_isInert (h op hop)] at hr
    cases hr

theorem RunsOver.append (hs : s.RunsOver catalog) (ht : t.RunsOver catalog) : (s ++ t).RunsOver catalog where
  sorts Γ := by
    obtain ⟨Γ', hΓ'⟩ := hs.sorts Γ
    obtain ⟨Γ'', hΓ''⟩ := ht.sorts Γ'
    exact ⟨Γ'', hΓ'.append hΓ''⟩
  holds op hop := (List.mem_append.1 hop).elim (hs.holds op) (ht.holds op)

theorem RunsOver.flatMap {α : Type} {parts : List α} {part : α → Script}
    (h : ∀ a ∈ parts, (part a).RunsOver catalog) : Script.RunsOver (parts.flatMap part) catalog := by
  induction parts with
  | nil => exact runsOver_of_isInert (by simp)
  | cons a parts ih =>
    rw [List.flatMap_cons]
    exact (h a (List.mem_cons_self ..)).append (ih fun b hb => h b (List.mem_cons_of_mem a hb))

theorem RunsOver.exists_text (h : s.RunsOver catalog) : ∃ text, Run.run catalog s = .ok text := by
  obtain ⟨Γ, hΓ⟩ := h.sorts .empty
  exact hΓ.exists_text h.holds

end Script

/-! ## Well-sorted scripts -/

/-- **A well-sorted script always has an output**, over every catalog that holds the columns it reads. -/
theorem Script.WellSorted.exists_run {s : Script} (hs : s.WellSorted Sorting.Printable)
    (hcolumns : catalog.Holds s) : ∃ text, Run.run catalog s = .ok text := by
  obtain ⟨Γ, hs⟩ := hs
  exact hs.exists_text hcolumns

/-- Refines a select under its own handle, joins, and prints lists of one tag and a sum. -/
def Script.mixedSample : Script := [
  .select "p" (.column ⟨"db", "fact", "amount"⟩) (.below 30),
  .fetch "v" ⟨"db", "fact", "key"⟩ "p",
  .select "p" (.refine "p" "v") (.range 1 2),
  .fetch "v" ⟨"db", "fact", "key"⟩ "p",
  .select "q" (.column ⟨"db", "dim", "key"⟩) ⟨.unbounded, .unbounded⟩,
  .fetch "w" ⟨"db", "dim", "key"⟩ "q",
  .join "l" "r" ⟨"v", "p"⟩ ⟨"w", "q"⟩ .hash,
  .fetch "a" ⟨"db", "fact", "amount"⟩ "l",
  .print ["l", "r", "a"],
  .aggregate .sum "s" "a",
  .print ["s"]]

theorem exists_run_mixedSample : ∃ text, Run.run .sample .mixedSample = .ok text :=
  Script.WellSorted.exists_run (by decide) (by decide)

end Columnar
