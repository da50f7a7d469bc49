import Columnar.Text.Blank
import Mathlib.Data.List.DropRight

/-!
# Lines up to empty lines at the end

Two lists of lines are the same up to empty lines at their ends if they agree at every position, where a
list that has ended goes on with empty lines. Seen like that, empty lines in the middle count, and the
lists can be compared line by line from the front.

* `dropEndWhile_isEmpty_eq_iff` — cutting empty lines at the end tells lists apart that differ otherwise
* `EqUpToBlankEnd.cons_iff`, `EqUpToBlankEnd.append_blank` — comparing from the front, and going on
-/

namespace Columnar.Text

variable {l m : List (List Char)} {a b : List Char}

/-- Whether two lists of lines are the same up to empty lines at their ends. -/
def EqUpToBlankEnd (l m : List (List Char)) : Prop :=
  ∀ i, l.getD i [] = m.getD i []

namespace EqUpToBlankEnd

theorem refl (l : List (List Char)) : EqUpToBlankEnd l l :=
  fun _ => rfl

theorem symm (h : EqUpToBlankEnd l m) : EqUpToBlankEnd m l :=
  fun i => (h i).symm

theorem trans {n : List (List Char)} (h : EqUpToBlankEnd l m) (h' : EqUpToBlankEnd m n) :
    EqUpToBlankEnd l n :=
  fun i => (h i).trans (h' i)

/-- Lists are compared line by line. -/
theorem cons_iff : EqUpToBlankEnd (a :: l) (b :: m) ↔ a = b ∧ EqUpToBlankEnd l m := by
  constructor
  · intro h
    exact ⟨by simpa using h 0, fun i => by simpa using h (i + 1)⟩
  · rintro ⟨rfl, h⟩ i
    cases i with
    | zero => rfl
    | succ i => simpa using h i

/-- Equal lines in front make no difference. -/
theorem append_left_iff (k : List (List Char)) : EqUpToBlankEnd (k ++ l) (k ++ m) ↔ EqUpToBlankEnd l m := by
  induction k with
  | nil => rfl
  | cons a k ih => rw [List.cons_append, List.cons_append, cons_iff, ih, and_iff_right rfl]

/-- An empty line at the end makes no difference. -/
theorem append_blank (l : List (List Char)) : EqUpToBlankEnd (l ++ [[]]) l := by
  intro i
  induction l generalizing i with
  | nil => cases i <;> rfl
  | cons a l ih =>
    cases i with
    | zero => rfl
    | succ i => simpa using ih i

/-- Lists that do not end with an empty line are the same only if they are equal. -/
theorem eq_of_getLast?_ne (hl : l.getLast? ≠ some []) (hm : m.getLast? ≠ some [])
    (h : EqUpToBlankEnd l m) : l = m := by
  -- a list that goes on where the other one has ended would go on with empty lines up to its end
  have hlength : ∀ {l m : List (List Char)}, m.getLast? ≠ some [] → EqUpToBlankEnd l m →
      m.length ≤ l.length := by
    intro l m hm h
    by_contra hlt
    have hlast := h (m.length - 1)
    rw [List.getD_eq_getElem?_getD, List.getD_eq_getElem?_getD, List.getElem?_eq_none (by omega),
      ← List.getLast?_eq_getElem?] at hlast
    cases hcase : m.getLast? with
    | none =>
      rw [List.getLast?_eq_none_iff] at hcase
      simp [hcase] at hlt
    | some c =>
      rw [hcase] at hlast hm
      exact hm (congrArg some hlast.symm)
  refine List.ext_getElem (Nat.le_antisymm (hlength hl h.symm) (hlength hm h)) fun i hi hi' => ?_
  have hvalue := h i
  rwa [List.getD_eq_getElem?_getD, List.getD_eq_getElem?_getD, List.getElem?_eq_getElem hi,
    List.getElem?_eq_getElem hi'] at hvalue

end EqUpToBlankEnd

/-- Cutting empty lines at the end is seen in no other line. -/
theorem eqUpToBlankEnd_dropEndWhile (l : List (List Char)) :
    EqUpToBlankEnd (dropEndWhile List.isEmpty l) l := by
  induction l using List.reverseRecOn with
  | nil => exact .refl _
  | append_singleton l a ih =>
    rw [dropEndWhile_append_singleton]
    by_cases ha : a.isEmpty = true
    · rw [if_pos ha, List.isEmpty_iff.1 ha]
      exact ih.trans (EqUpToBlankEnd.append_blank l).symm
    · rw [if_neg ha]
      exact .refl _

theorem getLast?_dropEndWhile_ne (l : List (List Char)) :
    (dropEndWhile List.isEmpty l).getLast? ≠ some [] := by
  induction l using List.reverseRecOn with
  | nil => simp
  | append_singleton l a ih =>
    rw [dropEndWhile_append_singleton]
    by_cases ha : a.isEmpty = true
    · rwa [if_pos ha]
    · rw [if_neg ha, List.getLast?_append, List.getLast?_singleton]
      simpa using ha

/-- **Two lists of lines are the same up to empty lines at their ends iff they are equal without these.** -/
theorem dropEndWhile_isEmpty_eq_iff :
    dropEndWhile List.isEmpty l = dropEndWhile List.isEmpty m ↔ EqUpToBlankEnd l m := by
  constructor
  · intro h
    exact (eqUpToBlankEnd_dropEndWhile l).symm.trans (h ▸ eqUpToBlankEnd_dropEndWhile m)
  · intro h
    refine EqUpToBlankEnd.eq_of_getLast?_ne (getLast?_dropEndWhile_ne l) (getLast?_dropEndWhile_ne m) ?_
    exact (eqUpToBlankEnd_dropEndWhile l).trans (h.trans (eqUpToBlankEnd_dropEndWhile m).symm)

end Columnar.Text
