import Columnar.Proofs.Catalog
import Columnar.Proofs.Run.Steps
import Mathlib.Data.List.FinRange
import Mathlib.Data.List.Sort

/-!
# Operations that do not conflict can be exchanged

Two operations conflict if both print, or if one binds a handle that the other reads or binds. What an
operation does is local: the outcome depends on the bindings of the handles that it reads, and no other
binding changes than those of the handles that it binds. So two operations that do not conflict can
change places when they stand side by side, and a script can be brought into every order that leaves
conflicting operations in theirs.

* `Run.step_frame`, `Run.step_congr` — what an operation changes, and what it depends on
* `Run.SameOutcome.swap` — two operations side by side
* `Script.run_permute_eq_ok_iff` — **whole scripts**
-/

namespace Columnar

/-! ## Conflicts -/

namespace Op

/-- Whether an operation binds a handle that another one reads or binds. -/
def Disturbs (a b : Op) : Prop :=
  ∃ h ∈ a.outs, h ∈ b.reads ∨ h ∈ b.outs

/-- Whether two operations may not change places. -/
def Conflicts (a b : Op) : Prop :=
  (a.isPrint = true ∧ b.isPrint = true) ∨ a.Disturbs b ∨ b.Disturbs a

instance (a b : Op) : Decidable (a.Disturbs b) :=
  inferInstanceAs (Decidable (∃ h ∈ a.outs, h ∈ b.reads ∨ h ∈ b.outs))

instance (a b : Op) : Decidable (a.Conflicts b) :=
  inferInstanceAs (Decidable ((a.isPrint = true ∧ b.isPrint = true) ∨ a.Disturbs b ∨ b.Disturbs a))

variable {a b : Op}

theorem Conflicts.symm (h : a.Conflicts b) : b.Conflicts a := by
  rcases h with ⟨ha, hb⟩ | h | h
  · exact .inl ⟨hb, ha⟩
  · exact .inr (.inr h)
  · exact .inr (.inl h)

end Op

/-! ## Environments that agree -/

namespace Environment

variable {env env' : Environment} {handle : Handle}

theorem ext (h : ∀ k, env.lookup? k = env'.lookup? k) : env = env' := by
  cases env
  cases env'
  exact congrArg mk (funext h)

theorem get_congr (h : env.lookup? handle = env'.lookup? handle) : env.get handle = env'.get handle := by
  rw [get, get, h]

theorem rows_congr (h : env.lookup? handle = env'.lookup? handle) : env.rows handle = env'.rows handle := by
  rw [rows, rows, get_congr h]

theorem values_congr (h : env.lookup? handle = env'.lookup? handle) :
    env.values handle = env'.values handle := by
  rw [values, values, get_congr h]

end Environment

namespace Run

variable {catalog : Catalog} {env env' env₁ env₁' : Environment} {op a b : Op} {s t : Script}
  {block : Option Block}

/-! ## What an operation depends on -/

theorem selected_congr {source : SelectSource} (p : Predicate) (out : Handle)
    (h : ∀ k ∈ (Op.select out source p).reads, env.lookup? k = env'.lookup? k) :
    selected catalog env p source = selected catalog env' p source := by
  cases source with
  | column column => rfl
  | refine rows values =>
    rw [selected, selected, Environment.rows_congr (h rows (by simp [Op.reads])),
      Environment.values_congr (h values (by simp [Op.reads]))]

theorem joined_congr {left right : JoinInput}
    (h : ∀ k ∈ [left.values, left.rows, right.values, right.rows], env.lookup? k = env'.lookup? k) :
    joined env left right = joined env' left right := by
  rw [joined, joined, Environment.values_congr (h left.values (by simp)),
    Environment.rows_congr (h left.rows (by simp)), Environment.values_congr (h right.values (by simp)),
    Environment.rows_congr (h right.rows (by simp))]

theorem printed_congr {handles : List Handle} (h : ∀ k ∈ handles, env.lookup? k = env'.lookup? k) :
    printed env handles = printed env' handles := by
  have hget : handles.mapM env.get = handles.mapM env'.get := by
    induction handles with
    | nil => rfl
    | cons k ks ih =>
      rw [List.mapM_cons, List.mapM_cons, Environment.get_congr (h k (by simp)),
        ih fun j hj => h j (List.mem_cons_of_mem k hj)]
  rw [printed, printed, hget]

/-- **An operation changes no other binding than those of the handles that it binds.** -/
theorem step_frame (h : step catalog env op = .ok (env₁, block)) :
    ∀ k, k ∉ op.outs → env₁.lookup? k = env.lookup? k := by
  intro k hk
  cases op with
  | comment _ | createTable _ _ _ | createColumn _ _ _ | createIndex _ _ _ | load _ | shutdown =>
    obtain ⟨rfl, rfl⟩ := Prod.mk.inj (Except.ok.inj h)
    rfl
  | select out _ _ | fetch out _ _ | aggregate _ out _ =>
    obtain ⟨_, _, h⟩ := Except.bind_eq_ok_iff.1 h
    obtain ⟨rfl, rfl⟩ := Prod.mk.inj (Except.ok.inj h)
    exact if_neg fun e => hk (by simp [Op.outs, e])
  | join leftOut rightOut left right kind =>
    obtain ⟨pairs, _, h⟩ := Except.bind_eq_ok_iff.1 h
    obtain ⟨rfl, rfl⟩ := Prod.mk.inj (Except.ok.inj h)
    have hne : k ≠ leftOut ∧ k ≠ rightOut := by simpa [Op.outs] using hk
    rw [Environment.lookup_bind, if_neg hne.2, Environment.lookup_bind, if_neg hne.1]
  | print handles =>
    obtain ⟨b, _, h⟩ := Except.bind_eq_ok_iff.1 h
    obtain ⟨rfl, rfl⟩ := Prod.mk.inj (Except.ok.inj h)
    rfl

/-- **The outcome of an operation depends on the bindings of the handles that it reads.** -/
theorem step_congr (h : step catalog env op = .ok (env₁, block))
    (hreads : ∀ k ∈ op.reads, env.lookup? k = env'.lookup? k) :
    ∃ env₁', step catalog env' op = .ok (env₁', block) ∧ ∀ k ∈ op.outs, env₁.lookup? k = env₁'.lookup? k := by
  cases op with
  | comment _ | createTable _ _ _ | createColumn _ _ _ | createIndex _ _ _ | load _ | shutdown =>
    obtain ⟨rfl, rfl⟩ := Prod.mk.inj (Except.ok.inj h)
    exact ⟨env', rfl, fun k hk => by cases hk⟩
  | select out source p =>
    obtain ⟨rows, hrows, h⟩ := Except.bind_eq_ok_iff.1 h
    obtain ⟨rfl, rfl⟩ := Prod.mk.inj (Except.ok.inj h)
    rw [selected_congr p out hreads] at hrows
    refine ⟨_, Except.bind_eq_ok_iff.2 ⟨rows, hrows, rfl⟩, fun k hk => ?_⟩
    obtain rfl : k = out := by simpa [Op.outs] using hk
    simp
  | fetch out column rows =>
    obtain ⟨values, hvalues, h⟩ := Except.bind_eq_ok_iff.1 h
    obtain ⟨rfl, rfl⟩ := Prod.mk.inj (Except.ok.inj h)
    rw [fetched, Environment.rows_congr (hreads rows (by simp [Op.reads])), ← fetched] at hvalues
    refine ⟨_, Except.bind_eq_ok_iff.2 ⟨values, hvalues, rfl⟩, fun k hk => ?_⟩
    obtain rfl : k = out := by simpa [Op.outs] using hk
    simp
  | join leftOut rightOut left right kind =>
    obtain ⟨pairs, hpairs, h⟩ := Except.bind_eq_ok_iff.1 h
    obtain ⟨rfl, rfl⟩ := Prod.mk.inj (Except.ok.inj h)
    rw [joined_congr hreads] at hpairs
    refine ⟨_, Except.bind_eq_ok_iff.2 ⟨pairs, hpairs, rfl⟩, fun k hk => ?_⟩
    have hout : k = leftOut ∨ k = rightOut := by simpa [Op.outs] using hk
    simp only [Environment.lookup_bind]
    rcases hout with rfl | rfl <;> simp
  | aggregate f out input =>
    obtain ⟨values, hvalues, h⟩ := Except.bind_eq_ok_iff.1 h
    obtain ⟨rfl, rfl⟩ := Prod.mk.inj (Except.ok.inj h)
    rw [Environment.values_congr (hreads input (by simp [Op.reads]))] at hvalues
    refine ⟨_, Except.bind_eq_ok_iff.2 ⟨values, hvalues, rfl⟩, fun k hk => ?_⟩
    obtain rfl : k = out := by simpa [Op.outs] using hk
    simp
  | print handles =>
    obtain ⟨b, hb, h⟩ := Except.bind_eq_ok_iff.1 h
    obtain ⟨rfl, rfl⟩ := Prod.mk.inj (Except.ok.inj h)
    have hprinted : printed env handles = printed env' handles := printed_congr hreads
    rw [hprinted] at hb
    exact ⟨env', Except.bind_eq_ok_iff.2 ⟨b, hb, rfl⟩, fun k hk => by cases hk⟩

/-! ## Two operations side by side -/

/-- **Two operations that do not conflict can be answered in either order**, with the same bindings and
the same blocks. -/
theorem step_swap {env₂ : Environment} {block' : Option Block} (hab : ¬ a.Conflicts b)
    (ha : step catalog env a = .ok (env₁, block)) (hb : step catalog env₁ b = .ok (env₂, block')) :
    ∃ env₁', step catalog env b = .ok (env₁', block') ∧ step catalog env₁' a = .ok (env₂, block) := by
  simp only [Op.Conflicts, Op.Disturbs, not_or, not_exists, not_and] at hab
  obtain ⟨_, hab, hba⟩ := hab
  have frameA := step_frame ha
  have frameB := step_frame hb
  have hreadsB : ∀ k ∈ b.reads, env₁.lookup? k = env.lookup? k := fun k hk =>
    frameA k fun hka => (hab k hka).1 hk
  obtain ⟨env₁', hb', outsB⟩ := step_congr hb hreadsB
  have frameB' := step_frame hb'
  have hreadsA : ∀ k ∈ a.reads, env.lookup? k = env₁'.lookup? k := fun k hk =>
    (frameB' k fun hkb => (hba k hkb).1 hk).symm
  obtain ⟨env₂', ha', outsA⟩ := step_congr ha hreadsA
  have frameA' := step_frame ha'
  -- a handle is bound by one of the two operations or by neither
  have hsame : env₂' = env₂ := by
    refine Environment.ext fun k => ?_
    by_cases hka : k ∈ a.outs
    · rw [← outsA k hka, frameB k (hab k hka).2]
    · rw [frameA' k hka]
      by_cases hkb : k ∈ b.outs
      · rw [outsB k hkb]
      · rw [frameB' k hkb, frameB k hkb, frameA k hka]
  exact ⟨env₁', hb', hsame ▸ ha'⟩

/-- Of two operations that do not conflict at most one prints. -/
theorem toList_append_comm {env₂ : Environment} {block' : Option Block} (hab : ¬ a.Conflicts b)
    (ha : step catalog env a = .ok (env₁, block)) (hb : step catalog env₁ b = .ok (env₂, block')) :
    block.toList ++ block'.toList = block'.toList ++ block.toList := by
  by_cases hprint : a.isPrint = true
  · have hnone : block' = none := by
      have hsilent : b.isPrint = false := Bool.eq_false_iff.2 fun hb => hab (.inl ⟨hprint, hb⟩)
      simpa [hsilent] using isSome_of_step hb
    rw [hnone, Option.toList_none, List.append_nil, List.nil_append]
  · have hnone : block = none := by simpa [hprint] using isSome_of_step ha
    rw [hnone, Option.toList_none, List.append_nil, List.nil_append]

/-! ## Scripts -/

/-- Whether two scripts end well from the same environments, with the same bindings and blocks. -/
def SameOutcome (catalog : Catalog) (s t : Script) : Prop :=
  ∀ env r, runFrom catalog env s = .ok r ↔ runFrom catalog env t = .ok r

namespace SameOutcome

theorem refl (s : Script) : SameOutcome catalog s s :=
  fun _ _ => Iff.rfl

theorem trans {u : Script} (h : SameOutcome catalog s t) (h' : SameOutcome catalog t u) :
    SameOutcome catalog s u :=
  fun env r => (h env r).trans (h' env r)

theorem cons (op : Op) (h : SameOutcome catalog s t) : SameOutcome catalog (op :: s) (op :: t) := by
  intro env r
  rw [runFrom_cons_eq_ok_iff, runFrom_cons_eq_ok_iff]
  exact exists_congr fun env₁ => exists_congr fun block => exists_congr fun cs =>
    and_congr_right fun _ => and_congr_left fun _ => h env₁ (r.1, cs)

/-- **Two operations that do not conflict can change places.** -/
theorem swap (hab : ¬ a.Conflicts b) (s : Script) : SameOutcome catalog (a :: b :: s) (b :: a :: s) := by
  -- one direction is the other one with the two operations renamed
  have exchange : ∀ {a b : Op}, ¬ a.Conflicts b → ∀ env r,
      runFrom catalog env (a :: b :: s) = .ok r → runFrom catalog env (b :: a :: s) = .ok r := by
    intro a b hab env r h
    obtain ⟨env₁, block, cs, ha, h, hr⟩ := runFrom_cons_eq_ok_iff.1 h
    obtain ⟨env₂, block', ds, hb, h, hcs⟩ := runFrom_cons_eq_ok_iff.1 h
    obtain ⟨env₁', hb', ha'⟩ := step_swap hab ha hb
    refine runFrom_cons_eq_ok_iff.2 ⟨env₁', block', block.toList ++ ds, hb',
      runFrom_cons_eq_ok_iff.2 ⟨env₂, block, ds, ha', h, rfl⟩, ?_⟩
    rw [hr, hcs, ← List.append_assoc, toList_append_comm hab ha hb, List.append_assoc]
  exact fun env r => ⟨exchange hab env r, exchange (fun h => hab h.symm) env r⟩

/-- An operation that conflicts with none of the operations before it can be answered first. -/
theorem moveToFront {front : Script} (h : ∀ b ∈ front, ¬ a.Conflicts b) (rest : Script) :
    SameOutcome catalog (a :: (front ++ rest)) (front ++ a :: rest) := by
  induction front with
  | nil => exact refl _
  | cons b front ih =>
    have hfront := ih fun c hc => h c (List.mem_cons_of_mem b hc)
    exact (swap (h b (List.mem_cons_self ..)) (front ++ rest)).trans (hfront.cons b)

/-- **Operations in any order that keeps conflicting ones in theirs.** The operations are numbered in
their first order, and a smaller number stands behind a greater one only if the two do not conflict. -/
theorem of_perm {ι : Type} [LinearOrder ι] (f : ι → Op) {is js : List ι} (hsorted : is.Pairwise (· < ·))
    (hperm : is.Perm js) (hkeep : js.Pairwise fun j i => i < j → ¬ (f i).Conflicts (f j)) :
    SameOutcome catalog (is.map f) (js.map f) := by
  induction is generalizing js with
  | nil => rw [hperm.nil_eq]; exact refl _
  | cons i is ih =>
    obtain ⟨hfirst, hsorted⟩ := List.pairwise_cons.1 hsorted
    obtain ⟨front, rest, rfl⟩ := List.append_of_mem (hperm.subset (List.mem_cons_self ..))
    have hrest : is.Perm (front ++ rest) := (hperm.trans List.perm_middle).cons_inv
    obtain ⟨hfront, hbehind, hcross⟩ := List.pairwise_append.1 hkeep
    -- the first operation stands behind greater ones only
    have hmove : ∀ b ∈ front.map f, ¬ (f i).Conflicts b := by
      intro b hb
      obtain ⟨j, hj, rfl⟩ := List.mem_map.1 hb
      exact hcross j hj i (List.mem_cons_self ..) (hfirst j (hrest.symm.subset (List.mem_append_left rest hj)))
    have hkeep' : (front ++ rest).Pairwise fun j i => i < j → ¬ (f i).Conflicts (f j) :=
      List.pairwise_append.2 ⟨hfront, (List.pairwise_cons.1 hbehind).2, fun j hj k hk =>
        hcross j hj k (List.mem_cons_of_mem i hk)⟩
    rw [List.map_append, List.map_cons, List.map_cons]
    refine ((ih hsorted hrest hkeep').cons (f i)).trans ?_
    rw [List.map_append]
    exact moveToFront hmove (rest.map f)

theorem run_eq_ok_iff (h : SameOutcome catalog s t) (text : String) :
    run catalog s = .ok text ↔ run catalog t = .ok text := by
  rw [Run.run_eq_ok_iff, Run.run_eq_ok_iff]
  simp only [h Environment.empty]

end SameOutcome

end Run

/-! ## Scripts in another order -/

namespace Script

/-- The operations of a script in another order: at place `i` stands the operation of place `π i`. -/
def permute (s : Script) (π : Equiv.Perm (Fin s.length)) : Script :=
  List.ofFn fun i => s[π i]

/-- Whether of every two conflicting operations the first one stays in front of the second one. -/
def KeepsConflicts (s : Script) (π : Equiv.Perm (Fin s.length)) : Prop :=
  ∀ i j, i < j → s[i].Conflicts s[j] → π.symm i < π.symm j

instance (s : Script) : DecidablePred s.KeepsConflicts := fun π =>
  inferInstanceAs (Decidable (∀ i j, i < j → s[i].Conflicts s[j] → π.symm i < π.symm j))

/-- **A script prints the same in every order that keeps conflicting operations in theirs**, and it
prints in the one order iff it does in the other. -/
theorem run_permute_eq_ok_iff (catalog : Catalog) (s : Script) (π : Equiv.Perm (Fin s.length))
    (hπ : s.KeepsConflicts π) (text : String) :
    Run.run catalog s = .ok text ↔ Run.run catalog (s.permute π) = .ok text := by
  have hplaces : (List.finRange s.length).map (fun i => s[i]) = s := List.map_getElem_finRange s
  have horder : (List.ofFn π).map (fun i => s[i]) = s.permute π := by
    rw [List.map_ofFn]
    rfl
  have hperm : (List.finRange s.length).Perm (List.ofFn π) := by
    have h := π.ofFn_comp_perm id
    rw [List.ofFn_id] at h
    exact h.symm
  have hkeep : (List.ofFn π).Pairwise fun j i => i < j → ¬ s[i].Conflicts s[j] := by
    refine List.pairwise_ofFn.2 fun i j hij hlt hconflict => ?_
    have hback := hπ _ _ hlt hconflict
    rw [π.symm_apply_apply, π.symm_apply_apply] at hback
    exact absurd hback (lt_asymm hij)
  have hsame : Run.SameOutcome catalog ((List.finRange s.length).map fun i => s[i])
      ((List.ofFn π).map fun i => s[i]) :=
    .of_perm (fun i => s[i]) (List.sortedLT_finRange s.length).pairwise hperm hkeep
  rw [hplaces, horder] at hsame
  exact hsame.run_eq_ok_iff text

/-- Sums and averages over two tables, with one handle for the rows of both. -/
def rebindingSample : Script := [
  .select "p" (.column ⟨"db", "fact", "amount"⟩) (.below 30),
  .fetch "v" ⟨"db", "fact", "key"⟩ "p",
  .aggregate .sum "s" "v",
  .select "p" (.column ⟨"db", "dim", "key"⟩) ⟨.unbounded, .unbounded⟩,
  .fetch "w" ⟨"db", "dim", "key"⟩ "p",
  .print ["s"],
  .aggregate .avg "a" "w",
  .print ["a"]]

/-- The rows of the second table are selected as soon as those of the first have been read. -/
def rebindingOrder : Equiv.Perm (Fin rebindingSample.length) :=
  (((Equiv.swap 3 4).trans (Equiv.swap 2 3)).trans (Equiv.swap 5 6) : Equiv.Perm (Fin 8))

theorem run_permute_rebindingSample :
    rebindingSample.KeepsConflicts rebindingOrder ∧
      Run.run .sample (rebindingSample.permute rebindingOrder) = .ok "3\n1.50\n" := by
  have hkeep : rebindingSample.KeepsConflicts rebindingOrder := by decide +kernel
  have hrun : Run.run .sample rebindingSample = .ok "3\n1.50\n" := by decide +kernel
  exact ⟨hkeep, (run_permute_eq_ok_iff .sample rebindingSample rebindingOrder hkeep _).1 hrun⟩

end Script

end Columnar
