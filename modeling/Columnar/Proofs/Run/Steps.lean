import Columnar.Proofs.Results
import Columnar.Run.Interpreter

/-!
# What an operation does once its handles are bound

Every operation looks handles up, reads a column, computes, and binds. Here the look-ups are done once:
given what the handles are bound to, each operation is the query on those results. Later modules never
open `Run.step` again.

* `Run.step_select_column`, `Run.step_select_refine`, `Run.step_fetch`, `Run.step_join`,
  `Run.step_aggregate` — the results that an operation binds
* `Run.printed_scalars`, `Run.printed_values`, `Run.exists_printed` — the block that a print lays out
* `Run.exists_runFrom_flatMap` — the blocks of parts in turn
-/

namespace Columnar

/-- Whether an operation is for the engine alone: it binds nothing and prints nothing. -/
def Op.isInert : Op → Bool
  | comment _ | createTable .. | createColumn .. | createIndex .. | load _ | shutdown => true
  | _ => false

namespace Script

variable {s : Script}

theorem isInert_comments (texts : List String) : ∀ op ∈ comments texts, op.isInert = true := by
  intro op hop
  obtain ⟨text, -, rfl⟩ := List.mem_map.1 hop
  rfl

theorem isInert_declare (t : Table) : ∀ op ∈ declare t, op.isInert = true := by
  refine List.forall_mem_cons.2 ⟨rfl, fun op hop => ?_⟩
  obtain ⟨column, -, rfl⟩ := List.mem_map.1 hop
  rfl

/-- Operations for the engine alone are no prints. -/
theorem prints_of_isInert (h : ∀ op ∈ s, op.isInert = true) : s.prints = false := by
  rw [prints, List.any_eq_false]
  intro op hop hprint
  cases op with
  | print handles => cases h _ hop
  | _ => cases hprint

end Script

/-! ## Look-ups -/

namespace Environment

variable {env : Environment} {handle : Handle} {handles : List Handle}

theorem get_eq_ok_iff {b : Binding} : env.get handle = .ok b ↔ env.lookup? handle = some b := by
  rw [get]
  cases env.lookup? handle <;> simp

theorem get_eq_ok {b : Binding} (h : env.lookup? handle = some b) : env.get handle = .ok b :=
  get_eq_ok_iff.2 h

theorem rows_eq_ok {rows : Query.RowSet} (h : env.lookup? handle = some (.rows rows)) :
    env.rows handle = .ok rows := by
  rw [Environment.rows, get_eq_ok h]
  rfl

theorem values_eq_ok {values : List Int64} (h : env.lookup? handle = some (.values values)) :
    env.values handle = .ok values := by
  rw [Environment.values, get_eq_ok h]
  rfl

/-- Handles that are all bound are looked up one by one. -/
theorem mapM_get_eq_ok (h : ∀ k ∈ handles, (env.lookup? k).isSome = true) :
    handles.mapM env.get = .ok (handles.filterMap env.lookup?) := by
  induction handles with
  | nil => rfl
  | cons k ks ih =>
    obtain ⟨b, hb⟩ := Option.isSome_iff_exists.1 (h k (by simp))
    rw [List.mapM_cons, get_eq_ok hb, ih fun k' hk' => h k' (List.mem_cons_of_mem k hk'),
      List.filterMap_cons_some hb]
    rfl

theorem toOption_get (env : Environment) (handle : Handle) :
    (env.get handle).toOption = env.lookup? handle := by
  rw [get]
  cases env.lookup? handle <;> rfl

/-- Handles that are looked up are all bound. -/
theorem map_lookup_of_mapM_get {results : List Binding} (h : handles.mapM env.get = .ok results) :
    handles.map env.lookup? = results.map some := by
  have hoptions := congrArg (List.map Except.toOption) (Except.mapM_eq_ok_iff.1 h)
  rw [List.map_map, List.map_map] at hoptions
  exact (List.map_congr_left fun k _ => (toOption_get env k).symm).trans hoptions

end Environment

namespace Run

variable {catalog : Catalog} {env : Environment}

/-! ## Operations that bind -/

theorem step_of_isInert {op : Op} (h : op.isInert = true) : step catalog env op = .ok (env, none) := by
  cases op with
  | comment _ | createTable _ _ _ | createColumn _ _ _ | createIndex _ _ _ | load _ | shutdown => rfl
  | select _ _ _ | fetch _ _ _ | join _ _ _ _ _ | aggregate _ _ _ | print _ => simp [Op.isInert] at h

theorem step_select_column {column : ColumnRef} {values : List Int64}
    (hcolumn : catalog.resolve column = .ok values) (out : Handle) (p : Predicate) :
    step catalog env (.select out (.column column) p) =
      .ok (env.bind out (.rows (Query.select values p)), none) := by
  rw [step, selected, hcolumn]
  rfl

theorem step_select_refine {rows values : Handle} {rs : Query.RowSet} {vs : List Int64}
    (hrows : env.lookup? rows = some (.rows rs)) (hvalues : env.lookup? values = some (.values vs))
    (hlength : rs.length = vs.length) (out : Handle) (p : Predicate) :
    step catalog env (.select out (.refine rows values) p) =
      .ok (env.bind out (.rows (((rs.zip vs).filter fun (_, v) => p.holds v).map Prod.fst)), none) := by
  rw [step, selected, Environment.rows_eq_ok hrows, Environment.values_eq_ok hvalues, Except.ok_bind,
    Except.ok_bind, Query.selectWithin_eq_ok p hlength]
  rfl

theorem step_fetch {column : ColumnRef} {rows : Handle} {cells : List Int64} {rs : Query.RowSet}
    {vs : List Int64} (hcolumn : catalog.resolve column = .ok cells)
    (hrows : env.lookup? rows = some (.rows rs)) (hfetch : Query.fetch cells rs = .ok vs) (out : Handle) :
    step catalog env (.fetch out column rows) = .ok (env.bind out (.values vs), none) := by
  rw [step, fetched, hcolumn, Environment.rows_eq_ok hrows]
  show (do return (env.bind out (.values (← query (Query.fetch cells rs))), none)) = _
  rw [hfetch]
  rfl

theorem step_join {left right : JoinInput} {lrs rrs : Query.RowSet} {lvs rvs : List Int64}
    (hleftValues : env.lookup? left.values = some (.values lvs))
    (hleftRows : env.lookup? left.rows = some (.rows lrs))
    (hrightValues : env.lookup? right.values = some (.values rvs))
    (hrightRows : env.lookup? right.rows = some (.rows rrs))
    (hleft : lvs.length = lrs.length) (hright : rvs.length = rrs.length)
    (leftOut rightOut : Handle) (kind : JoinKind) :
    step catalog env (.join leftOut rightOut left right kind) =
      .ok ((env.bind leftOut (.rows ((Query.nestedLoop (lvs.zip lrs) (rvs.zip rrs)).map Prod.fst))).bind
        rightOut (.rows ((Query.nestedLoop (lvs.zip lrs) (rvs.zip rrs)).map Prod.snd)), none) := by
  rw [step, joined, Environment.values_eq_ok hleftValues, Environment.rows_eq_ok hleftRows,
    Environment.values_eq_ok hrightValues, Environment.rows_eq_ok hrightRows]
  simp only [Except.ok_bind, Query.join_eq_ok hleft hright]
  rfl

theorem step_aggregate {input : Handle} {vs : List Int64}
    (hinput : env.lookup? input = some (.values vs)) (f : AggregateFunction) (out : Handle) :
    step catalog env (.aggregate f out input) = .ok (env.bind out (.scalar (.of f vs)), none) := by
  rw [step, Environment.values_eq_ok hinput]
  rfl

/-! ## Prints -/

theorem step_print {handles : List Handle} {block : Block} (h : printed env handles = .ok block) :
    step catalog env (.print handles) = .ok (env, some block) := by
  rw [step, h]
  rfl

/-- **An operation prints a block iff it is a print.** -/
theorem isSome_of_step {op : Op} {env₁ : Environment} {block : Option Block}
    (h : step catalog env op = .ok (env₁, block)) :
    block.isSome = op.isPrint := by
  cases op with
  | comment _ | createTable _ _ _ | createColumn _ _ _ | createIndex _ _ _ | load _ | shutdown =>
    rw [← (Prod.mk.inj (Except.ok.inj h)).2]
    rfl
  | select _ _ _ | fetch _ _ _ | join _ _ _ _ _ | aggregate _ _ _ | print _ =>
    obtain ⟨x, -, h⟩ := Except.bind_eq_ok_iff.1 h
    rw [← (Prod.mk.inj (Except.ok.inj h)).2]
    rfl

/-- **A print finds all its handles bound.** It lays out a line of scalars if it finds nothing else, and
columns if it finds none. -/
theorem exists_of_printed {handles : List Handle} {block : Block} (h : printed env handles = .ok block) :
    ∃ results : List Binding, handles.map env.lookup? = results.map some ∧
      ((results.all fun b => (scalar? b).isSome) = true ∧ block = .scalars (results.filterMap scalar?) ∨
        (results.all fun b => (scalar? b).isSome) = false ∧
          Block.ofColumns (results.filterMap sequence?) = .ok block) := by
  obtain ⟨results, hresults, h⟩ := Except.bind_eq_ok_iff.1 h
  refine ⟨results, Environment.map_lookup_of_mapM_get hresults, ?_⟩
  split at h
  · rename_i hall
    exact .inl ⟨hall, (Except.ok.inj h).symm⟩
  · rename_i hall
    split at h
    · cases h
    · exact .inr ⟨Bool.eq_false_iff.2 hall, Except.mapError_eq_ok_iff.1 h⟩

/-- Scalars are printed on one line. -/
theorem printed_scalars {handles : List Handle}
    (h : ∀ k ∈ handles, ∃ a, env.lookup? k = some (.scalar a)) :
    printed env handles = .ok (.scalars (handles.filterMap fun k => (env.lookup? k).bind scalar?)) := by
  have hbound : ∀ k ∈ handles, (env.lookup? k).isSome = true := by
    intro k hk
    obtain ⟨a, ha⟩ := h k hk
    simp [ha]
  have hall : (handles.filterMap env.lookup?).all (fun b => (scalar? b).isSome) = true := by
    rw [List.all_eq_true]
    intro b hb
    obtain ⟨k, hk, hkb⟩ := List.mem_filterMap.1 hb
    obtain ⟨a, ha⟩ := h k hk
    obtain rfl : Binding.scalar a = b := by simpa [ha] using hkb
    rfl
  rw [printed, Environment.mapM_get_eq_ok hbound, Except.ok_bind, if_pos hall, List.filterMap_filterMap]
  rfl

/-- A single sequence of values is printed as it is. -/
theorem printed_values {handle : Handle} {values : List Int64} (h : env.lookup? handle = some (.values values)) :
    printed env [handle] = .ok (.ofValues values) := by
  rw [printed, List.mapM_cons, Environment.get_eq_ok h, List.mapM_nil]
  show query (Block.ofColumns [values]) = _
  rw [Block.ofColumns_singleton]
  rfl

/-- Sequences of one length are printed side by side. -/
theorem exists_printed {handles : List Handle} {n : Nat}
    (h : ∀ k ∈ handles, ∃ b values,
      env.lookup? k = some b ∧ sequence? b = some values ∧ values.length = n) :
    ∃ block, printed env handles = .ok block := by
  have hbound : ∀ k ∈ handles, (env.lookup? k).isSome = true := by
    intro k hk
    obtain ⟨b, _, hb, _⟩ := h k hk
    simp [hb]
  rw [printed, Environment.mapM_get_eq_ok hbound, Except.ok_bind]
  split
  · exact ⟨_, rfl⟩
  · -- a sequence is no scalar, so nothing is mixed
    have hany : (handles.filterMap env.lookup?).any (fun b => (scalar? b).isSome) = false := by
      rw [List.any_eq_false]
      intro b hb
      obtain ⟨k, hk, hkb⟩ := List.mem_filterMap.1 hb
      obtain ⟨b', values, hb', hvalues, _⟩ := h k hk
      obtain rfl : b' = b := by simpa [hb'] using hkb
      cases b' <;> simp_all [scalar?, sequence?]
    rw [hany, if_neg Bool.false_ne_true]
    have hlength : ∀ c ∈ (handles.filterMap env.lookup?).filterMap sequence?, c.length = n := by
      intro c hc
      obtain ⟨b, hb, hbc⟩ := List.mem_filterMap.1 hc
      obtain ⟨k, hk, hkb⟩ := List.mem_filterMap.1 hb
      obtain ⟨b', values, hb', hvalues, hn⟩ := h k hk
      obtain rfl : b' = b := by simpa [hb'] using hkb
      obtain rfl : values = c := by simpa [hvalues] using hbc
      exact hn
    generalize (handles.filterMap env.lookup?).filterMap sequence? = columns at hlength
    refine ⟨_, Except.mapError_eq_ok_iff.2 (Block.ofColumns_eq_ok_iff.2 ⟨?_, rfl⟩)⟩
    intro c hc
    cases columns with
    | nil => simp at hc
    | cons d ds => rw [hlength c hc, List.head?_cons, Option.map_some, hlength d (by simp), Option.getD_some]

/-! ## Runs -/

theorem runFrom_cons {op : Op} {ops : Script} {env₁ env₂ : Environment} {block : Option Block}
    {blocks : List Block} (hstep : step catalog env op = .ok (env₁, block))
    (hrun : runFrom catalog env₁ ops = .ok (env₂, blocks)) :
    runFrom catalog env (op :: ops) = .ok (env₂, block.toList ++ blocks) := by
  rw [runFrom, hstep, Except.ok_bind]
  show (runFrom catalog env₁ ops >>= fun r => pure (r.1, block.toList ++ r.2)) = _
  rw [hrun]
  rfl

theorem runFrom_cons_eq_ok_iff {op : Op} {ops : Script} {env₂ : Environment} {bs : List Block} :
    runFrom catalog env (op :: ops) = .ok (env₂, bs) ↔
      ∃ env₁ block cs, step catalog env op = .ok (env₁, block) ∧ runFrom catalog env₁ ops = .ok (env₂, cs) ∧
        bs = block.toList ++ cs := by
  constructor
  · intro h
    obtain ⟨⟨env₁, block⟩, hstep, h⟩ := Except.bind_eq_ok_iff.1 h
    obtain ⟨⟨env₂, cs⟩, hrun, h⟩ := Except.bind_eq_ok_iff.1 h
    obtain ⟨rfl, rfl⟩ := Prod.mk.inj (Except.ok.inj h)
    exact ⟨env₁, block, cs, hstep, hrun, rfl⟩
  · rintro ⟨env₁, block, cs, hstep, hrun, rfl⟩
    exact runFrom_cons hstep hrun

/-- Operations for the engine alone are passed over. -/
theorem runFrom_of_isInert {s : Script} (h : ∀ op ∈ s, op.isInert = true) (env : Environment) :
    runFrom catalog env s = .ok (env, []) := by
  induction s with
  | nil => rfl
  | cons op ops ih =>
    obtain ⟨hop, hops⟩ := List.forall_mem_cons.1 h
    exact runFrom_cons (step_of_isInert hop) (ih hops)

theorem runFrom_append_of_ok {s t : Script} {env₁ env₂ : Environment} {bs cs : List Block}
    (hs : runFrom catalog env s = .ok (env₁, bs)) (ht : runFrom catalog env₁ t = .ok (env₂, cs)) :
    runFrom catalog env (s ++ t) = .ok (env₂, bs ++ cs) := by
  rw [runFrom_append, hs]
  show (runFrom catalog env₁ t).map _ = _
  rw [ht]
  rfl

theorem runFrom_append_eq_ok_iff {s t : Script} {env₂ : Environment} {bs : List Block} :
    runFrom catalog env (s ++ t) = .ok (env₂, bs) ↔
      ∃ env₁ cs ds, runFrom catalog env s = .ok (env₁, cs) ∧ runFrom catalog env₁ t = .ok (env₂, ds) ∧
        bs = cs ++ ds := by
  constructor
  · intro h
    rw [runFrom_append] at h
    obtain ⟨⟨env₁, cs⟩, hs, h⟩ := Except.bind_eq_ok_iff.1 h
    obtain ⟨⟨env₂, ds⟩, ht, h⟩ := Except.map_eq_ok_iff.1 h
    obtain ⟨rfl, rfl⟩ := Prod.mk.inj h
    exact ⟨env₁, cs, ds, hs, ht, rfl⟩
  · rintro ⟨env₁, cs, ds, hs, ht, rfl⟩
    exact runFrom_append_of_ok hs ht

/-- **Parts that print one block each, whatever is bound before them, print their blocks in turn.** -/
theorem exists_runFrom_flatMap {α : Type} {xs : List α} {part : α → Script} {block : α → Block}
    (h : ∀ x ∈ xs, ∀ env, ∃ env', runFrom catalog env (part x) = .ok (env', [block x])) (env : Environment) :
    ∃ env', runFrom catalog env (xs.flatMap part) = .ok (env', xs.map block) := by
  induction xs generalizing env with
  | nil => exact ⟨env, rfl⟩
  | cons x xs ih =>
    obtain ⟨hx, hxs⟩ := List.forall_mem_cons.1 h
    obtain ⟨env₁, hpart⟩ := hx env
    obtain ⟨env₂, hrest⟩ := ih hxs env₁
    exact ⟨env₂, runFrom_append_of_ok hpart hrest⟩

theorem run_eq_ok {s : Script} {blocks : List Block} (h : runFrom catalog .empty s = .ok (env, blocks)) :
    run catalog s = .ok (Layout.text blocks) := by
  rw [run, Run.blocks, h]
  rfl

/-- Operations for the engine alone may stand in front of a script. -/
theorem run_append_of_isInert {s body : Script} {blocks : List Block} (h : ∀ op ∈ s, op.isInert = true)
    (hbody : runFrom catalog .empty body = .ok (env, blocks)) :
    run catalog (s ++ body) = .ok (Layout.text blocks) :=
  run_eq_ok (runFrom_append_of_ok (runFrom_of_isInert h .empty) hbody)

theorem run_eq_ok_iff {s : Script} {text : String} :
    run catalog s = .ok text ↔
      ∃ env bs, runFrom catalog .empty s = .ok (env, bs) ∧ Layout.text bs = text := by
  rw [run, blocks]
  simp only [Except.map_eq_ok_iff, Prod.exists]
  constructor
  · rintro ⟨_, ⟨env, bs, hrun, rfl⟩, htext⟩
    exact ⟨env, bs, hrun, htext⟩
  · rintro ⟨env, bs, hrun, htext⟩
    exact ⟨bs, ⟨env, bs, hrun, rfl⟩, htext⟩

end Run

end Columnar
