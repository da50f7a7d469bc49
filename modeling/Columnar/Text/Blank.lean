/-!
# Blank characters and trimming

A *blank* is a character of Unicode's `White_Space` property; a *space* is one of the six ASCII blanks.
Surrounding text of a line, of an argument or of a keyword is cut by blanks; the separators inside a
call line are spaces only. So a no-break space may surround a line but not the `=` in it.

## Main statements

* `isBlank_of_isSpace`: every space is a blank.
* `dropEndWhile_append_singleton`: cutting at the end, seen from the last element.
* `dropEndWhile_of_all`: a list of blanks is cut to nothing.
-/

namespace Columnar.Text

/-- A character of Unicode's `White_Space` property. -/
def isBlank (c : Char) : Bool :=
  (0x09 ≤ c.toNat && c.toNat ≤ 0x0D) || c.toNat == 0x20 || c.toNat == 0x85 || c.toNat == 0xA0 ||
    c.toNat == 0x1680 || (0x2000 ≤ c.toNat && c.toNat ≤ 0x200A) || c.toNat == 0x2028 ||
    c.toNat == 0x2029 || c.toNat == 0x202F || c.toNat == 0x205F || c.toNat == 0x3000

/-- An ASCII blank: tab, line feed, vertical tab, form feed, carriage return or space. -/
def isSpace (c : Char) : Bool :=
  (0x09 ≤ c.toNat && c.toNat ≤ 0x0D) || c.toNat == 0x20

theorem isBlank_of_isSpace {c : Char} (h : isSpace c = true) : isBlank c = true := by
  simp only [isSpace, Bool.or_eq_true] at h
  rcases h with h | h <;> simp [isBlank, h]

/-! ## Cutting at the end -/

/-- The list without its longest tail of elements that satisfy `p`. -/
def dropEndWhile {α : Type} (p : α → Bool) (l : List α) : List α :=
  (l.reverse.dropWhile p).reverse

@[simp] theorem dropEndWhile_nil {α : Type} (p : α → Bool) : dropEndWhile p [] = [] := rfl

/-- The last element decides: it is cut, and cutting goes on, or nothing is cut. -/
theorem dropEndWhile_append_singleton {α : Type} (p : α → Bool) (l : List α) (a : α) :
    dropEndWhile p (l ++ [a]) = if p a then dropEndWhile p l else l ++ [a] := by
  cases h : p a <;> simp [dropEndWhile, h]

/-- Nothing is cut from a list without elements that satisfy `p`. -/
theorem dropEndWhile_of_forall_not {α : Type} {p : α → Bool} {l : List α} (h : ∀ a ∈ l, p a = false) :
    dropEndWhile p l = l := by
  cases hr : l.reverse with
  | nil => simp [dropEndWhile, List.reverse_eq_nil_iff.1 hr]
  | cons a r =>
    have ha : p a = false := h a (List.mem_reverse.1 (by simp [hr]))
    rw [dropEndWhile, hr, List.dropWhile_cons_of_neg (by simp [ha]), ← hr, List.reverse_reverse]

theorem dropEndWhile_of_all {α : Type} {p : α → Bool} {l : List α} (h : ∀ a ∈ l, p a = true) :
    dropEndWhile p l = [] := by
  have hr : ∀ a ∈ l.reverse, p a = true := fun a m => h a (List.mem_reverse.1 m)
  have drop : ∀ r : List α, (∀ a ∈ r, p a = true) → r.dropWhile p = [] := by
    intro r
    induction r with
    | nil => intro _; rfl
    | cons a r ih => intro hp; simp [hp a (by simp), ih (fun b m => hp b (by simp [m]))]
  simp [dropEndWhile, drop l.reverse hr]

/-! ## Trimming -/

/-- The text without its leading blanks. -/
def trimStart (cs : List Char) : List Char :=
  cs.dropWhile isBlank

/-- The text without its trailing blanks. -/
def trimEnd (cs : List Char) : List Char :=
  dropEndWhile isBlank cs

/-- The text without its surrounding blanks. -/
def trim (cs : List Char) : List Char :=
  trimEnd (trimStart cs)

@[simp] theorem trim_nil : trim [] = [] := rfl

theorem trimStart_cons_of_not_isBlank {c : Char} {cs : List Char} (h : isBlank c = false) :
    trimStart (c :: cs) = c :: cs := by
  simp [trimStart, h]

/-- A text without blanks is trimmed. -/
theorem trim_of_forall_not_isBlank {cs : List Char} (h : ∀ c ∈ cs, isBlank c = false) : trim cs = cs := by
  have hs : trimStart cs = cs := by
    cases cs with
    | nil => rfl
    | cons c cs => exact trimStart_cons_of_not_isBlank (h c (by simp))
  rw [trim, hs, trimEnd, dropEndWhile_of_forall_not h]

/-- Digits are not blank. -/
theorem isBlank_of_isDigit {c : Char} (h : c.isDigit = true) : isBlank c = false := by
  have h : 48 ≤ c.toNat ∧ c.toNat ≤ 57 := by
    simpa [Char.isDigit, UInt32.le_iff_toNat_le] using h
  simp only [isBlank, Bool.or_eq_false_iff, Bool.and_eq_false_iff, decide_eq_false_iff_not, beq_eq_false_iff_ne]
  omega

end Columnar.Text
