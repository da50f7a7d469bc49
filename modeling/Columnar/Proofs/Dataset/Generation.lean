import Columnar.Dataset.Error
import Columnar.Random.Source

/-!
# What a generation results in

Whether a generation fails never hangs on its draws, only on what it is asked for. So it is specified
by a condition under which it succeeds, from every source, and by a property of each of its results.
Specifications are put together step by step, and no later proof opens the state of the source.

* `Generation.Ensures.bind` — what holds of the results of two steps
* `Generation.Spec.bind` — a step and what follows it; `Spec.bind_of_true` and `Spec.bind_true` if one of
  the two always succeeds
* `Generation.spec_ofExcept`, `Generation.spec_ofDraws` — steps without draws, and draws
* `Generation.Spec.failsWith_bind`, `Generation.Spec.failsWith_bind_of_first` — the errors of two steps
-/

namespace Columnar.Generation

variable {σ α β : Type} {g : Generation σ α} {f : α → Generation σ β}

/-! ## Runs of two steps -/

theorem run_bind_of_ok {s : σ} {a : α} (h : (g.run s).1 = .ok a) :
    (g >>= f).run s = (f a).run (g.run s).2 := by
  show (match g.run s with
    | (r, s') => (ExceptT.bindCont (fun a => (f a : ExceptT _ (StateM σ) β)) r) s') = _
  rcases hr : g.run s with ⟨r, s'⟩
  obtain rfl : r = .ok a := by simpa [hr] using h
  rfl

theorem run_bind_of_error {s : σ} {e : GenerationError} (h : (g.run s).1 = .error e) :
    ((g >>= f).run s).1 = .error e := by
  show (match g.run s with
    | (r, s') => (ExceptT.bindCont (fun a => (f a : ExceptT _ (StateM σ) β)) r) s').1 = _
  rcases hr : g.run s with ⟨r, s'⟩
  obtain rfl : r = .error e := by simpa [hr] using h
  rfl

/-- An error of two steps comes from the first one, or from the second one after it. -/
theorem run_bind_eq_error {s : σ} {e : GenerationError} (h : ((g >>= f).run s).1 = .error e) :
    (g.run s).1 = .error e ∨ ∃ a, (g.run s).1 = .ok a ∧ ((f a).run (g.run s).2).1 = .error e := by
  cases hg : (g.run s).1 with
  | error e' =>
    rw [run_bind_of_error hg] at h
    exact .inl (congrArg Except.error (Except.error.inj h))
  | ok a =>
    rw [run_bind_of_ok hg] at h
    exact .inr ⟨a, rfl, h⟩

/-! ## Results -/

variable {P P' : α → Prop} {Q : β → Prop}

/-- Every result of a generation has a property. -/
def Ensures (g : Generation σ α) (P : α → Prop) : Prop :=
  ∀ s a, (g.run s).1 = .ok a → P a

/-- **The second of two steps may use what holds of the results of the first.** -/
theorem Ensures.bind (hg : g.Ensures P) (hf : ∀ a, P a → (f a).Ensures Q) : Ensures (g >>= f) Q := by
  intro s b hb
  cases h : (g.run s).1 with
  | error e =>
    rw [run_bind_of_error h] at hb
    cases hb
  | ok a =>
    rw [run_bind_of_ok h] at hb
    exact hf a (hg s a h) _ b hb

theorem ensures_pure {a : α} (h : P a) : Ensures (pure a : Generation σ α) P := by
  intro _ b hb
  obtain rfl : a = b := Except.ok.inj hb
  exact h

theorem ensures_ofExcept {r : Except GenerationError α} (h : ∀ a, r = .ok a → P a) :
    Ensures (ofExcept r : Generation σ α) P :=
  fun _ a ha => h a ha

theorem ensures_ofDraws {draws : StateM σ α} (h : ∀ s, P (draws.run s).1) : (ofDraws draws).Ensures P := by
  intro s a ha
  obtain rfl : (draws.run s).1 = a := Except.ok.inj ha
  exact h s

/-! ## Specifications -/

variable {ok ok' : Prop}

/-- A generation succeeds exactly under a condition, and its results have a property. -/
structure Spec (g : Generation σ α) (ok : Prop) (P : α → Prop) : Prop where
  succeeds_iff : ∀ s, (∃ a, (g.run s).1 = .ok a) ↔ ok
  ensures : g.Ensures P

theorem Spec.imp (h : g.Spec ok P) (hok : ok ↔ ok') (hP : ∀ a, P a → P' a) : g.Spec ok' P' where
  succeeds_iff s := (h.succeeds_iff s).trans hok
  ensures s a ha := hP a (h.ensures s a ha)

/-- **Two steps succeed if both do; the second one may use what holds of the result of the first.** -/
theorem Spec.bind (hg : g.Spec ok P) (hf : ∀ a, P a → (f a).Spec ok' Q) :
    Spec (g >>= f) (ok ∧ ok') Q where
  succeeds_iff s := by
    rw [← hg.succeeds_iff s]
    cases h : (g.run s).1 with
    | error e => simp [run_bind_of_error h]
    | ok a =>
      rw [run_bind_of_ok h, (hf a (hg.ensures s a h)).succeeds_iff]
      simp
  ensures := hg.ensures.bind fun a ha => (hf a ha).ensures

/-- A first step that always succeeds adds no condition. -/
theorem Spec.bind_of_true (hg : g.Spec True P) (hf : ∀ a, P a → (f a).Spec ok Q) : Spec (g >>= f) ok Q :=
  (hg.bind hf).imp (iff_of_eq (true_and ok)) fun _ h => h

/-- A second step that always succeeds adds no condition. -/
theorem Spec.bind_true (hg : g.Spec ok P) (hf : ∀ a, P a → (f a).Spec True Q) : Spec (g >>= f) ok Q :=
  (hg.bind hf).imp (iff_of_eq (and_true ok)) fun _ h => h

theorem spec_pure {a : α} (h : P a) : Spec (pure a : Generation σ α) True P where
  succeeds_iff _ := iff_true_intro ⟨a, rfl⟩
  ensures := ensures_pure h

theorem spec_ofExcept {r : Except GenerationError α} (hok : (∃ a, r = .ok a) ↔ ok)
    (hP : ∀ a, r = .ok a → P a) : Spec (ofExcept r : Generation σ α) ok P where
  succeeds_iff _ := hok
  ensures := ensures_ofExcept hP

/-- A computation of which only its success matters. -/
theorem spec_ofExcept_any {r : Except GenerationError α} (hok : (∃ a, r = .ok a) ↔ ok) :
    Spec (ofExcept r : Generation σ α) ok fun _ => True :=
  spec_ofExcept hok fun _ _ => trivial

theorem spec_ofDraws {draws : StateM σ α} (h : ∀ s, P (draws.run s).1) : (ofDraws draws).Spec True P where
  succeeds_iff s := iff_true_intro ⟨(draws.run s).1, rfl⟩
  ensures := ensures_ofDraws h

theorem spec_ofDraws_any (draws : StateM σ α) : (ofDraws draws).Spec True fun _ => True :=
  spec_ofDraws fun _ => trivial

/-! ## Errors -/

/-- Every error of a generation has a property. -/
def FailsWith (g : Generation σ α) (E : GenerationError → Prop) : Prop :=
  ∀ s e, (g.run s).1 = .error e → E e

variable {E E' : GenerationError → Prop}

theorem FailsWith.imp (h : g.FailsWith E) (hE : ∀ e, E e → E' e) : g.FailsWith E' :=
  fun s e he => hE e (h s e he)

/-- A generation that always succeeds has no errors. -/
theorem Spec.failsWith_of_true (h : g.Spec True P) : g.FailsWith E := by
  intro s e he
  obtain ⟨a, ha⟩ := (h.succeeds_iff s).2 trivial
  rw [ha] at he
  cases he

theorem failsWith_pure (a : α) : FailsWith (pure a : Generation σ α) E :=
  (spec_pure (show a = a from rfl)).failsWith_of_true

theorem failsWith_ofExcept {r : Except GenerationError α} (h : ∀ e, r = .error e → E e) :
    (ofExcept r : Generation σ α).FailsWith E :=
  fun _ e he => h e he

/-- **The errors of two steps**, of which the second one is taken only where the first one succeeds. -/
theorem Spec.failsWith_bind (hg : g.Spec ok P) (hfirst : g.FailsWith E)
    (hsecond : ok → ∀ a, P a → (f a).FailsWith E) : FailsWith (g >>= f) E := by
  intro s e he
  rcases run_bind_eq_error he with h | ⟨a, h, he⟩
  · exact hfirst s e h
  · exact hsecond ((hg.succeeds_iff s).1 ⟨a, h⟩) a (hg.ensures s a h) _ e he

theorem Spec.failsWith_bind_of_true (hg : g.Spec True P) (hsecond : ∀ a, P a → (f a).FailsWith E) :
    FailsWith (g >>= f) E :=
  hg.failsWith_bind hg.failsWith_of_true fun _ => hsecond

/-- Two steps that succeed where the first one does have its errors only. -/
theorem Spec.failsWith_bind_of_first (hg : g.Spec ok P) (hboth : Spec (g >>= f) ok Q) (hfirst : g.FailsWith E) :
    FailsWith (g >>= f) E := by
  intro s e he
  rcases run_bind_eq_error he with h | ⟨a, h, -⟩
  · exact hfirst s e h
  · obtain ⟨b, hb⟩ := (hboth.succeeds_iff s).2 ((hg.succeeds_iff s).1 ⟨a, h⟩)
    rw [hb] at he
    cases he

end Columnar.Generation
