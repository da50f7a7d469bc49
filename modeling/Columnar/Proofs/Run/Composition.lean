import Columnar.Proofs.Catalog
import Columnar.Proofs.Run.Steps

/-!
# Scripts one after the other

A script that is answered on its own is answered in the same way after another script. It binds a handle
before it reads it, so bindings from before stay behind its own; and the blocks that it prints stand
behind the blocks from before. Of the text from before nothing changes: if its last block is a sequence, a
blank line follows as soon as something else is printed.

* `Run.step_onto`, `Run.runFrom_onto` — bindings from before are never seen
* `Layout.chars_append_eq` — the text of blocks and of blocks after them
* `Run.endsInSequence_eq` — what the last print of a script prints, told by its last block
* `Run.run_append_of_ok` — **two scripts, one after the other**
* `Run.run_append_isPrefix_and_error` — **what a first part of a script prints stays, and so does its error**
-/

namespace Columnar

/-! ## Bindings from before -/

namespace Environment

variable {env : Environment} {handle : Handle}

/-- The bindings of `env` laid onto those of `base`. -/
def onto (env base : Environment) : Environment :=
  ⟨fun k => (env.lookup? k).or (base.lookup? k)⟩

@[simp] theorem lookup_onto (env base : Environment) (k : Handle) :
    (env.onto base).lookup? k = (env.lookup? k).or (base.lookup? k) := rfl

@[simp] theorem empty_onto (base : Environment) : empty.onto base = base := rfl

theorem bind_onto (env base : Environment) (handle : Handle) (b : Binding) :
    (env.bind handle b).onto base = (env.onto base).bind handle b := by
  refine congrArg mk (funext fun k => ?_)
  by_cases hk : k = handle <;> simp [hk]

theorem get_onto {b : Binding} (h : env.get handle = .ok b) (base : Environment) :
    (env.onto base).get handle = .ok b := by
  rw [get_eq_ok_iff] at h ⊢
  rw [lookup_onto, h, Option.some_or]

theorem rows_onto {rows : Query.RowSet} (h : env.rows handle = .ok rows) (base : Environment) :
    (env.onto base).rows handle = .ok rows := by
  obtain ⟨b, hb, h⟩ := Except.bind_eq_ok_iff.1 h
  exact Except.bind_eq_ok_iff.2 ⟨b, get_onto hb base, h⟩

theorem values_onto {values : List Int64} (h : env.values handle = .ok values) (base : Environment) :
    (env.onto base).values handle = .ok values := by
  obtain ⟨b, hb, h⟩ := Except.bind_eq_ok_iff.1 h
  exact Except.bind_eq_ok_iff.2 ⟨b, get_onto hb base, h⟩

end Environment

namespace Run

variable {catalog : Catalog} {env env₁ : Environment} {op : Op} {s : Script} {bs : List Block}

theorem selected_onto {p : Predicate} {source : SelectSource} {rows : Query.RowSet}
    (h : selected catalog env p source = .ok rows) (base : Environment) :
    selected catalog (env.onto base) p source = .ok rows := by
  cases source with
  | column column => exact h
  | refine rowsHandle valuesHandle =>
    obtain ⟨rs, hrs, h⟩ := Except.bind_eq_ok_iff.1 h
    obtain ⟨vs, hvs, h⟩ := Except.bind_eq_ok_iff.1 h
    exact Except.bind_eq_ok_iff.2 ⟨rs, Environment.rows_onto hrs base,
      Except.bind_eq_ok_iff.2 ⟨vs, Environment.values_onto hvs base, h⟩⟩

theorem fetched_onto {column : ColumnRef} {rows : Handle} {values : List Int64}
    (h : fetched catalog env column rows = .ok values) (base : Environment) :
    fetched catalog (env.onto base) column rows = .ok values := by
  obtain ⟨cells, hcells, h⟩ := Except.bind_eq_ok_iff.1 h
  obtain ⟨rs, hrs, h⟩ := Except.bind_eq_ok_iff.1 h
  exact Except.bind_eq_ok_iff.2 ⟨cells, hcells,
    Except.bind_eq_ok_iff.2 ⟨rs, Environment.rows_onto hrs base, h⟩⟩

theorem joined_onto {left right : JoinInput} {pairs : List (Nat × Nat)}
    (h : joined env left right = .ok pairs) (base : Environment) :
    joined (env.onto base) left right = .ok pairs := by
  obtain ⟨lvs, hlvs, h⟩ := Except.bind_eq_ok_iff.1 h
  obtain ⟨lrs, hlrs, h⟩ := Except.bind_eq_ok_iff.1 h
  obtain ⟨rvs, hrvs, h⟩ := Except.bind_eq_ok_iff.1 h
  obtain ⟨rrs, hrrs, h⟩ := Except.bind_eq_ok_iff.1 h
  exact Except.bind_eq_ok_iff.2 ⟨lvs, Environment.values_onto hlvs base,
    Except.bind_eq_ok_iff.2 ⟨lrs, Environment.rows_onto hlrs base,
      Except.bind_eq_ok_iff.2 ⟨rvs, Environment.values_onto hrvs base,
        Except.bind_eq_ok_iff.2 ⟨rrs, Environment.rows_onto hrrs base, h⟩⟩⟩⟩

theorem printed_onto {handles : List Handle} {block : Block} (h : printed env handles = .ok block)
    (base : Environment) : printed (env.onto base) handles = .ok block := by
  obtain ⟨results, hresults, h⟩ := Except.bind_eq_ok_iff.1 h
  refine Except.bind_eq_ok_iff.2 ⟨results, ?_, h⟩
  rw [Except.mapM_eq_ok_iff] at hresults ⊢
  rw [← hresults]
  refine List.map_congr_left fun k hk => ?_
  obtain ⟨b, -, hb⟩ := List.mem_map.1 (hresults ▸ List.mem_map_of_mem hk)
  rw [← hb, Environment.get_onto hb.symm base]

/-- **An operation that is answered sees no bindings from before.** -/
theorem step_onto {block : Option Block} (h : step catalog env op = .ok (env₁, block)) (base : Environment) :
    step catalog (env.onto base) op = .ok (env₁.onto base, block) := by
  cases op with
  | comment _ | createTable _ _ _ | createColumn _ _ _ | createIndex _ _ _ | load _ | shutdown =>
    obtain ⟨rfl, rfl⟩ := Prod.mk.inj (Except.ok.inj h)
    rfl
  | select out source p =>
    obtain ⟨rows, hrows, h⟩ := Except.bind_eq_ok_iff.1 h
    obtain ⟨rfl, rfl⟩ := Prod.mk.inj (Except.ok.inj h)
    rw [Environment.bind_onto]
    exact Except.bind_eq_ok_iff.2 ⟨rows, selected_onto hrows base, rfl⟩
  | fetch out column rows =>
    obtain ⟨values, hvalues, h⟩ := Except.bind_eq_ok_iff.1 h
    obtain ⟨rfl, rfl⟩ := Prod.mk.inj (Except.ok.inj h)
    rw [Environment.bind_onto]
    exact Except.bind_eq_ok_iff.2 ⟨values, fetched_onto hvalues base, rfl⟩
  | join leftOut rightOut left right kind =>
    obtain ⟨pairs, hpairs, h⟩ := Except.bind_eq_ok_iff.1 h
    obtain ⟨rfl, rfl⟩ := Prod.mk.inj (Except.ok.inj h)
    rw [Environment.bind_onto, Environment.bind_onto]
    exact Except.bind_eq_ok_iff.2 ⟨pairs, joined_onto hpairs base, rfl⟩
  | aggregate f out input =>
    obtain ⟨values, hvalues, h⟩ := Except.bind_eq_ok_iff.1 h
    obtain ⟨rfl, rfl⟩ := Prod.mk.inj (Except.ok.inj h)
    rw [Environment.bind_onto]
    exact Except.bind_eq_ok_iff.2 ⟨values, Environment.values_onto hvalues base, rfl⟩
  | print handles =>
    obtain ⟨b, hb, h⟩ := Except.bind_eq_ok_iff.1 h
    obtain ⟨rfl, rfl⟩ := Prod.mk.inj (Except.ok.inj h)
    exact Except.bind_eq_ok_iff.2 ⟨b, printed_onto hb base, rfl⟩

/-- **A script that is answered sees no bindings from before**, and leaves them behind its own. -/
theorem runFrom_onto (h : runFrom catalog env s = .ok (env₁, bs)) (base : Environment) :
    runFrom catalog (env.onto base) s = .ok (env₁.onto base, bs) := by
  induction s generalizing env bs with
  | nil =>
    obtain ⟨rfl, rfl⟩ := Prod.mk.inj (Except.ok.inj h)
    rfl
  | cons op ops ih =>
    obtain ⟨env', block, cs, hstep, hrun, rfl⟩ := runFrom_cons_eq_ok_iff.1 h
    exact runFrom_cons (step_onto hstep base) (ih hrun)

end Run

/-! ## Blocks before and blocks after -/

namespace Layout

/-- What stands between blocks and blocks after them. -/
def gap (bs cs : List Block) : List Char :=
  if cs = [] then [] else (bs.getLast?.map separator).getD []

/-- **The text of blocks and of blocks after them.** -/
theorem chars_append_eq (bs cs : List Block) : chars (bs ++ cs) = chars bs ++ (gap bs cs ++ chars cs) := by
  by_cases hcs : cs = []
  · simp [gap, hcs, chars]
  · rw [gap, if_neg hcs]
    rcases List.eq_nil_or_concat bs with rfl | ⟨bs, b, rfl⟩
    · rfl
    · rw [List.concat_eq_append, chars_append bs b hcs, List.getLast?_concat]
      rfl

end Layout

/-! ## The last print of a script -/

/-- What an operation prints. -/
def Op.printed? : Op → Option (List Handle)
  | print handles => some handles
  | _ => none

theorem Op.isSome_printed? (op : Op) : op.printed?.isSome = op.isPrint := by
  cases op <;> rfl

namespace Script

/-- The operations before the last print of a script, and what it prints. -/
def lastPrint? : Script → Option (Script × List Handle)
  | [] => none
  | op :: ops =>
    match lastPrint? ops with
    | some (front, handles) => some (op :: front, handles)
    | none => op.printed?.map fun handles => ([], handles)

theorem prints_eq_false_of_lastPrint? {s : Script} (h : s.lastPrint? = none) : s.prints = false := by
  induction s with
  | nil => rfl
  | cons op ops ih =>
    rw [lastPrint?] at h
    cases hops : lastPrint? ops with
    | some last => simp [hops] at h
    | none =>
      rw [hops, Option.map_eq_none_iff] at h
      rw [prints, List.any_cons, ← prints, ih hops, ← op.isSome_printed?, h]
      rfl

/-- After the last print nothing is printed. -/
theorem exists_of_lastPrint? {s front : Script} {handles : List Handle}
    (h : s.lastPrint? = some (front, handles)) :
    ∃ rest : Script, s = front ++ .print handles :: rest ∧ rest.prints = false := by
  induction s generalizing front with
  | nil => cases h
  | cons op ops ih =>
    rw [lastPrint?] at h
    cases hops : lastPrint? ops with
    | some last =>
      rw [hops] at h
      obtain ⟨rfl, rfl⟩ := Prod.mk.inj (Option.some.inj h)
      obtain ⟨rest, hrest, hsilent⟩ := ih hops
      exact ⟨rest, congrArg (op :: ·) hrest, hsilent⟩
    | none =>
      rw [hops] at h
      obtain ⟨_, hop, hlast⟩ := Option.map_eq_some_iff.1 h
      obtain ⟨rfl, rfl⟩ := Prod.mk.inj hlast
      cases op with
      | print handles =>
        obtain rfl := Option.some.inj hop
        exact ⟨ops, rfl, prints_eq_false_of_lastPrint? hops⟩
      | _ => cases hop

end Script

namespace Run

variable {catalog : Catalog} {env env₁ : Environment} {s a b : Script} {bs : List Block}

/-- **A script prints blocks iff it has a print.** -/
theorem isEmpty_of_runFrom (h : runFrom catalog env s = .ok (env₁, bs)) : bs.isEmpty = !s.prints := by
  induction s generalizing env bs with
  | nil =>
    obtain ⟨rfl, rfl⟩ := Prod.mk.inj (Except.ok.inj h)
    rfl
  | cons op ops ih =>
    obtain ⟨env', block, cs, hstep, hrun, rfl⟩ := runFrom_cons_eq_ok_iff.1 h
    rw [Script.prints, List.any_cons, ← Script.prints, ← isSome_of_step hstep, Bool.not_or, ← ih hrun]
    cases block <;> rfl

/-- A print lays out a line of scalars iff none of its handles is bound to rows or values. -/
theorem isScalars_of_printed {handles : List Handle} {block : Block} (h : printed env handles = .ok block) :
    block.isScalars = !handles.any fun k => (env.lookup? k).any (·.kind ≠ .scalar) := by
  obtain ⟨results, hresults, h⟩ := exists_of_printed h
  have hscalar : ∀ b : Binding, (scalar? b).isSome = !decide (b.kind ≠ .scalar) := by
    intro b
    cases b <;> rfl
  have hany : (handles.any fun k => (env.lookup? k).any (·.kind ≠ .scalar)) =
      !results.all fun b => (scalar? b).isSome := by
    calc (handles.any fun k => (env.lookup? k).any (·.kind ≠ .scalar))
        = (handles.map env.lookup?).any fun o => o.any (·.kind ≠ .scalar) := by rw [List.any_map]; rfl
      _ = results.any (·.kind ≠ .scalar) := by rw [hresults, List.any_map]; rfl
      _ = !results.all fun b => (scalar? b).isSome := by simp only [hscalar, List.not_all_eq_any_not, Bool.not_not]
  rw [hany, Bool.not_not]
  rcases h with ⟨hall, rfl⟩ | ⟨hall, hcolumns⟩
  · rw [hall]
    rfl
  · obtain ⟨-, rfl⟩ := Block.ofColumns_eq_ok_iff.1 hcolumns
    rw [hall]
    rfl

/-- Whether the last print of a script prints rows or values. -/
def endsInSequence (catalog : Catalog) (s : Script) : Bool :=
  match s.lastPrint? with
  | none => false
  | some (front, handles) =>
    match runFrom catalog .empty front with
    | .error _ => false
    | .ok (env, _) => handles.any fun k => (env.lookup? k).any (·.kind ≠ .scalar)

/-- The last print of a script prints rows or values iff its last block is no line of scalars. -/
theorem endsInSequence_eq (h : runFrom catalog .empty s = .ok (env₁, bs)) :
    endsInSequence catalog s = bs.getLast?.any (!·.isScalars) := by
  rw [endsInSequence]
  cases hlast : s.lastPrint? with
  | none =>
    have hempty := isEmpty_of_runFrom h
    rw [Script.prints_eq_false_of_lastPrint? hlast] at hempty
    rw [List.isEmpty_iff.1 hempty]
    rfl
  | some last =>
    obtain ⟨front, handles⟩ := last
    obtain ⟨rest, rfl, hrest⟩ := Script.exists_of_lastPrint? hlast
    obtain ⟨env, cs, ds, hfront, hlast, rfl⟩ := runFrom_append_eq_ok_iff.1 h
    obtain ⟨env', _, es, hstep, hrun, rfl⟩ := runFrom_cons_eq_ok_iff.1 hlast
    obtain ⟨block, hblock, hstep⟩ := Except.bind_eq_ok_iff.1 hstep
    obtain ⟨rfl, rfl⟩ := Prod.mk.inj (Except.ok.inj hstep)
    have hempty := isEmpty_of_runFrom hrun
    rw [hrest] at hempty
    rw [List.isEmpty_iff.1 hempty]
    simp only [hfront, Option.toList_some, List.append_nil, List.getLast?_concat, Option.any_some,
      isScalars_of_printed hblock, Bool.not_not]

/-! ## Two scripts -/

/-- The blank line that follows the text of a script if another one prints after it. -/
theorem ofList_gap {env₂ : Environment} {bs cs : List Block} (ha : runFrom catalog .empty a = .ok (env₁, bs))
    (hb : runFrom catalog env b = .ok (env₂, cs)) :
    String.ofList (Layout.gap bs cs) = if endsInSequence catalog a && b.prints then "\n" else "" := by
  have hprints : b.prints = !cs.isEmpty := by rw [isEmpty_of_runFrom hb, Bool.not_not]
  rw [endsInSequence_eq ha, hprints, Layout.gap]
  cases cs with
  | nil => simp
  | cons c cs =>
    cases bs.getLast? with
    | none => rfl
    | some block => cases block <;> rfl

/-- **Two scripts that are answered on their own are answered one after the other.** The texts stand one
after the other, with a blank line between if the first one ends in a sequence and the second one prints
something. Whatever is bound before, the second script prints the same blocks and binds the same results,
with the bindings from before behind them. -/
theorem run_append_of_ok {ta tb : String} (ha : run catalog a = .ok ta) (hb : run catalog b = .ok tb) :
    run catalog (a ++ b) =
        .ok (ta ++ (if endsInSequence catalog a && b.prints then "\n" else "") ++ tb) ∧
      ∃ env bs, runFrom catalog .empty b = .ok (env, bs) ∧
        ∀ base, runFrom catalog base b = .ok (env.onto base, bs) := by
  obtain ⟨env₁, bs, hruna, rfl⟩ := run_eq_ok_iff.1 ha
  obtain ⟨env₂, cs, hrunb, rfl⟩ := run_eq_ok_iff.1 hb
  have hafter : ∀ base, runFrom catalog base b = .ok (env₂.onto base, cs) := runFrom_onto hrunb
  refine ⟨?_, env₂, cs, hrunb, hafter⟩
  rw [run_eq_ok (runFrom_append_of_ok hruna (hafter env₁)), ← ofList_gap hruna hrunb]
  simp [Layout.text, Layout.chars_append_eq, String.append_assoc]

/-- The rows of the first table with small amounts. -/
def rowsSample : Script := [
  .select "p" (.column ⟨"db", "fact", "amount"⟩) (.below 30),
  .print ["p"]]

/-- The keys of the second table, by the same handle. -/
def keysSample : Script := [
  .select "p" (.column ⟨"db", "dim", "key"⟩) ⟨.unbounded, .unbounded⟩,
  .fetch "v" ⟨"db", "dim", "key"⟩ "p",
  .print ["v"]]

theorem run_append_rowsSample :
    run .sample rowsSample = .ok "0\n1\n" ∧ run .sample keysSample = .ok "2\n1\n" ∧
      run .sample (rowsSample ++ keysSample) = .ok "0\n1\n\n2\n1\n" := by
  have hrows : run .sample rowsSample = .ok "0\n1\n" := by decide +kernel
  have hkeys : run .sample keysSample = .ok "2\n1\n" := by decide +kernel
  have hgap : (endsInSequence .sample rowsSample && keysSample.prints) = true := by decide +kernel
  have happend := (run_append_of_ok hrows hkeys).1
  rw [hgap, if_pos rfl] at happend
  exact ⟨hrows, hkeys, happend⟩

/-- **What a first part of a script prints stays**: it is a prefix of what the whole script prints. An
error of a first part is the error of the whole script. -/
theorem run_append_isPrefix_and_error (catalog : Catalog) (a b : Script) :
    (∀ text, run catalog (a ++ b) = .ok text → ∃ first rest, run catalog a = .ok first ∧ text = first ++ rest) ∧
      ∀ e, run catalog a = .error e → run catalog (a ++ b) = .error e := by
  constructor
  · intro text h
    obtain ⟨env, bs, hrun, rfl⟩ := run_eq_ok_iff.1 h
    obtain ⟨env₁, cs, ds, hruna, -, rfl⟩ := runFrom_append_eq_ok_iff.1 hrun
    refine ⟨_, String.ofList (Layout.gap cs ds ++ Layout.chars ds), run_eq_ok hruna, ?_⟩
    simp [Layout.text, Layout.chars_append_eq]
  · intro e h
    rw [run, blocks, runFrom_append]
    rw [run, blocks] at h
    cases hrun : runFrom catalog .empty a with
    | ok r => simp [hrun, Except.map] at h
    | error e' =>
      rw [hrun] at h
      exact h

/-- A script that reads a handle before it is bound. -/
def unboundSample : Script :=
  [.fetch "v" ⟨"db", "dim", "key"⟩ "p", .print ["v"]]

theorem run_append_unboundSample :
    (∃ first rest, run .sample rowsSample = .ok first ∧ "0\n1\n\n2\n1\n" = first ++ rest) ∧
      run .sample (unboundSample ++ keysSample) = .error (.unknownHandle "p") :=
  ⟨(run_append_isPrefix_and_error .sample rowsSample keysSample).1 _ (by decide +kernel),
    (run_append_isPrefix_and_error .sample unboundSample keysSample).2 _ (by decide +kernel)⟩

end Run

end Columnar
