/-!
# Steps that can fail

A sequence of steps ends well iff each of its steps does. These lemmas take a sequence apart at its
first step, so that proofs follow the steps instead of unfolding the monad.
-/

namespace Except

variable {ε ε' α β : Type}

theorem bind_eq_ok_iff {x : Except ε α} {f : α → Except ε β} {b : β} :
    (x >>= f) = .ok b ↔ ∃ a, x = .ok a ∧ f a = .ok b := by
  cases x with
  | error e => simp [bind, Except.bind]
  | ok a => simp [bind, Except.bind]

theorem map_eq_ok_iff {x : Except ε α} {f : α → β} {b : β} :
    x.map f = .ok b ↔ ∃ a, x = .ok a ∧ f a = b := by
  cases x <;> simp [Except.map]

@[simp] theorem mapError_ok (a : α) (f : ε → ε') : (Except.ok a).mapError f = .ok a := rfl

theorem mapError_eq_ok_iff {x : Except ε α} {f : ε → ε'} {a : α} : x.mapError f = .ok a ↔ x = .ok a := by
  cases x with
  | error e => exact iff_of_false nofun nofun
  | ok b => rw [mapError_ok, Except.ok.injEq, Except.ok.injEq]

theorem mapError_bind (x : Except ε α) (f : α → Except ε β) (g : ε → ε') :
    (x >>= f).mapError g = x.mapError g >>= fun a => (f a).mapError g := by
  cases x <;> rfl

/-- Two sequences whose steps correspond: results are read through `k` and errors are told through `e`. -/
theorem map_bind_eq_mapError_bind {α' β' : Type} {x : Except ε α} {y : Except ε' α'} {k : α → α'} {l : β → β'}
    {e : ε' → ε} (h : x.map k = y.mapError e) {f : α → Except ε β} {g : α' → Except ε' β'}
    (hfg : ∀ a, (f a).map l = (g (k a)).mapError e) : (x >>= f).map l = (y >>= g).mapError e := by
  cases x with
  | error e₁ =>
    cases y with
    | error e₂ => exact congrArg Except.error (Except.error.inj h)
    | ok b => cases h
  | ok a =>
    cases y with
    | error e₂ => cases h
    | ok b =>
      obtain rfl : k a = b := Except.ok.inj h
      exact hfg a

/-- Two sequences whose first steps differ in the telling of their errors alone. -/
theorem map_mapError_bind_eq {β' : Type} (y : Except ε' α) {l : β → β'} {e : ε' → ε} {f : α → Except ε β}
    {g : α → Except ε' β'} (hfg : ∀ a, (f a).map l = (g a).mapError e) :
    (y.mapError e >>= f).map l = (y >>= g).mapError e := by
  cases y with
  | error e₁ => rfl
  | ok a => exact hfg a

theorem isOk_iff {x : Except ε α} : x.isOk = true ↔ ∃ a, x = .ok a := by
  cases x <;> simp [Except.isOk, Except.toBool]

@[simp] theorem ok_bind (a : α) (f : α → Except ε β) : (Except.ok a >>= f) = f a := rfl

@[simp] theorem pure_eq_ok (a : α) : (pure a : Except ε α) = .ok a := rfl

/-- A list of steps ends well iff each step does, and then the results are those of the steps. -/
theorem mapM_eq_ok_iff {f : α → Except ε β} {xs : List α} {ys : List β} :
    xs.mapM f = .ok ys ↔ xs.map f = ys.map .ok := by
  induction xs generalizing ys with
  | nil => cases ys <;> simp
  | cons x xs ih =>
    rw [List.mapM_cons, bind_eq_ok_iff]
    constructor
    · rintro ⟨y, hy, h⟩
      obtain ⟨zs, hzs, h⟩ := bind_eq_ok_iff.1 h
      obtain rfl : y :: zs = ys := Except.ok.inj h
      rw [List.map_cons, List.map_cons, hy, ih.1 hzs]
    · intro h
      cases ys with
      | nil => simp at h
      | cons y zs =>
        obtain ⟨hy, hzs⟩ := List.cons.inj h
        refine ⟨y, hy, ?_⟩
        rw [ih.2 hzs]
        rfl

/-- Every result is that of a step. -/
theorem exists_of_mem_mapM {f : α → Except ε β} {xs : List α} {ys : List β} (h : xs.mapM f = .ok ys) {y : β}
    (hy : y ∈ ys) : ∃ x ∈ xs, f x = .ok y := by
  have hmem : .ok y ∈ ys.map (.ok : β → Except ε β) := List.mem_map_of_mem hy
  rw [← mapM_eq_ok_iff.1 h] at hmem
  exact List.mem_map.1 hmem

/-- Every step has a result. -/
theorem exists_mem_of_mapM {f : α → Except ε β} {xs : List α} {ys : List β} (h : xs.mapM f = .ok ys) {x : α}
    (hx : x ∈ xs) : ∃ y ∈ ys, f x = .ok y := by
  have hmem : f x ∈ xs.map f := List.mem_map_of_mem hx
  rw [mapM_eq_ok_iff.1 h] at hmem
  obtain ⟨y, hy, heq⟩ := List.mem_map.1 hmem
  exact ⟨y, hy, heq.symm⟩

theorem exists_mapM {f : α → Except ε β} {xs : List α} (h : ∀ x ∈ xs, ∃ y, f x = .ok y) :
    ∃ ys, xs.mapM f = .ok ys := by
  induction xs with
  | nil => exact ⟨[], rfl⟩
  | cons x xs ih =>
    obtain ⟨y, hy⟩ := h x (List.mem_cons_self ..)
    obtain ⟨ys, hys⟩ := ih fun z hz => h z (List.mem_cons_of_mem x hz)
    refine ⟨y :: ys, ?_⟩
    rw [List.mapM_cons, hy, ok_bind, hys]
    rfl

end Except
