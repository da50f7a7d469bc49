import Columnar.Proofs.Text.BlankEnds
import Columnar.Proofs.Text.Splitting
import Mathlib.Logic.Relation

/-!
# What stands at the ends of lines

Once the blanks at their ends are cut, the lines of a text are its pieces between line feeds, up to blank
lines at the end. A carriage return in front of a line feed is such a blank, and whether the last line is
closed is not seen any more. So a text may be retouched at its line ends and behind its last line.

* `map_trimEnd_lines` — trimmed lines are trimmed pieces
* `trimmedPieces_append` — texts that go on alike in this sense are alike
* `retouch_withReturns` — retouching all line ends of a text
* `Retouch.eqUpToBlankEnd` — **retouching a text changes its trimmed lines at the end at most**
-/

namespace Columnar.Text

variable {cs ds blanks : List Char}

/-- The pieces of a text between its line feeds, without the blanks at their ends. -/
def trimmedPieces (cs : List Char) : List (List Char) :=
  (splitOn '\n' cs).map trimEnd

/-! ## Lines and pieces -/

theorem trimEnd_dropReturn (line : List Char) : trimEnd (dropReturn line) = trimEnd line := by
  unfold dropReturn
  split
  · rename_i h
    obtain ⟨front, rfl⟩ := List.getLast?_eq_some_iff.1 h
    rw [List.dropLast_concat, trimEnd, trimEnd, dropEndWhile_append_singleton, if_pos (by decide)]
  · rfl

/-- **Trimmed lines are trimmed pieces**, up to blank lines at the end. -/
theorem map_trimEnd_lines (cs : List Char) : EqUpToBlankEnd ((lines cs).map trimEnd) (trimmedPieces cs) := by
  rw [lines, trimmedPieces]
  induction splitOn '\n' cs with
  | nil => exact .refl _
  | cons piece rest ih =>
    cases rest with
    | nil =>
      rw [linesOfPieces]
      split
      · rename_i h
        rw [List.isEmpty_iff.1 h]
        exact (EqUpToBlankEnd.append_blank []).symm
      · exact .refl _
    | cons next rest =>
      rw [linesOfPieces.eq_3 piece _ (by simp), List.map_cons, List.map_cons, EqUpToBlankEnd.cons_iff]
      exact ⟨trimEnd_dropReturn piece, ih⟩

/-! ## Going on alike -/

theorem trimEnd_cons_congr {c : Char} (h : trimEnd cs = trimEnd ds) : trimEnd (c :: cs) = trimEnd (c :: ds) := by
  -- a text is its trimmed text with blanks behind it, and these are cut again
  have hcons : ∀ cs : List Char, trimEnd (c :: trimEnd cs) = trimEnd (c :: cs) := by
    intro cs
    obtain ⟨blanks, hblanks, hcs⟩ := exists_trimEnd_append cs
    calc trimEnd (c :: trimEnd cs)
        = trimEnd (c :: trimEnd cs ++ blanks) := (trimEnd_append_blanks hblanks _).symm
      _ = trimEnd (c :: cs) := by rw [List.cons_append, ← hcs]
  rw [← hcons cs, h, hcons ds]

/-- **Texts that go on alike are alike**, whatever stands in front. -/
theorem trimmedPieces_append (front : List Char) (h : EqUpToBlankEnd (trimmedPieces cs) (trimmedPieces ds)) :
    EqUpToBlankEnd (trimmedPieces (front ++ cs)) (trimmedPieces (front ++ ds)) := by
  induction front with
  | nil => exact h
  | cons c front ih =>
    rw [List.cons_append, List.cons_append]
    by_cases hc : c = '\n'
    · subst hc
      rw [trimmedPieces, trimmedPieces, splitOn_cons_self, splitOn_cons_self, List.map_cons, List.map_cons,
        EqUpToBlankEnd.cons_iff]
      exact ⟨rfl, ih⟩
    · obtain ⟨p, ps, hp, hcp⟩ := exists_splitOn_cons hc (front ++ cs)
      obtain ⟨q, qs, hq, hcq⟩ := exists_splitOn_cons hc (front ++ ds)
      rw [trimmedPieces, trimmedPieces, hp, hq, List.map_cons, List.map_cons, EqUpToBlankEnd.cons_iff] at ih
      rw [trimmedPieces, trimmedPieces, hcp, hcq, List.map_cons, List.map_cons, EqUpToBlankEnd.cons_iff]
      exact ⟨trimEnd_cons_congr ih.1, ih.2⟩

/-! ## Retouching -/

/-- A change of a text at the end of a line or behind the last line. -/
inductive Retouch : List Char → List Char → Prop
  /-- A line end becomes a carriage return with a line feed. -/
  | carriageReturn (front back : List Char) : Retouch (front ++ '\n' :: back) (front ++ '\r' :: '\n' :: back)
  /-- Blanks come in front of a line end. -/
  | blanksAtLineEnd (front blanks back : List Char) (hblanks : ∀ c ∈ blanks, isBlank c = true)
      (hline : '\n' ∉ blanks) : Retouch (front ++ '\n' :: back) (front ++ (blanks ++ '\n' :: back))
  /-- Blanks come behind the text, among them as many line feeds as blank lines are added. -/
  | blankLines (text blanks : List Char) (hblanks : ∀ c ∈ blanks, isBlank c = true) :
      Retouch text (text ++ blanks)

theorem Retouch.cons (c : Char) (h : Retouch cs ds) : Retouch (c :: cs) (c :: ds) := by
  cases h with
  | carriageReturn front back => exact .carriageReturn (c :: front) back
  | blanksAtLineEnd front blanks back hblanks hline =>
    exact .blanksAtLineEnd (c :: front) blanks back hblanks hline
  | blankLines text blanks hblanks => exact .blankLines (c :: cs) blanks hblanks

/-- The text with a carriage return in every line end. -/
def withReturns (cs : List Char) : List Char :=
  cs.flatMap fun c => if c = '\n' then ['\r', '\n'] else [c]

/-- All line ends are retouched one after the other. -/
theorem retouch_withReturns (cs : List Char) : Relation.ReflTransGen Retouch cs (withReturns cs) := by
  induction cs with
  | nil => exact .refl
  | cons c cs ih =>
    have htail : Relation.ReflTransGen Retouch (c :: cs) (c :: withReturns cs) :=
      Relation.ReflTransGen.lift (c :: ·) (fun _ _ => Retouch.cons c) _ _ ih
    rw [withReturns, List.flatMap_cons]
    by_cases hc : c = '\n'
    · subst hc
      exact htail.tail (.carriageReturn [] _)
    · rwa [if_neg hc]

theorem trimEnd_of_blanks (h : ∀ c ∈ blanks, isBlank c = true) : trimEnd blanks = [] :=
  dropEndWhile_of_all h

theorem trimmedPieces_cons_newline (cs : List Char) : trimmedPieces ('\n' :: cs) = [] :: trimmedPieces cs := by
  rw [trimmedPieces, splitOn_cons_self, List.map_cons]
  rfl

theorem trimmedPieces_blanks_newline (blanks back : List Char) (h : ∀ c ∈ blanks, isBlank c = true)
    (hline : '\n' ∉ blanks) : trimmedPieces (blanks ++ '\n' :: back) = trimmedPieces ('\n' :: back) := by
  rw [trimmedPieces_cons_newline, trimmedPieces, splitOn_append hline, List.map_cons, trimEnd_of_blanks h]
  rfl

/-- Blanks alone are blank lines. -/
theorem trimmedPieces_blanks (h : ∀ c ∈ blanks, isBlank c = true) :
    EqUpToBlankEnd (trimmedPieces []) (trimmedPieces blanks) := by
  have hempty : ∀ piece ∈ trimmedPieces blanks, piece = [] := by
    intro piece hpiece
    obtain ⟨raw, hraw, rfl⟩ := List.mem_map.1 hpiece
    exact trimEnd_of_blanks fun c hc => h c (mem_of_mem_splitOn hraw hc)
  intro i
  have hvalue : (trimmedPieces blanks).getD i [] = [] := by
    rw [List.getD_eq_getElem?_getD]
    cases hi : (trimmedPieces blanks)[i]? with
    | none => rfl
    | some piece => exact hempty piece (List.mem_of_getElem? hi)
  rw [hvalue]
  cases i <;> rfl

/-- **Retouching a text changes its trimmed lines at the end at most.** -/
theorem Retouch.eqUpToBlankEnd (h : Retouch cs ds) : EqUpToBlankEnd (trimmedPieces cs) (trimmedPieces ds) := by
  cases h with
  | carriageReturn front back =>
    refine trimmedPieces_append front ?_
    rw [← trimmedPieces_blanks_newline ['\r'] back (List.all_eq_true.1 (by decide)) (by decide)]
    exact .refl _
  | blanksAtLineEnd front blanks back hblanks hline =>
    refine trimmedPieces_append front ?_
    rw [trimmedPieces_blanks_newline blanks back hblanks hline]
    exact .refl _
  | blankLines text blanks hblanks =>
    have happend := trimmedPieces_append cs (trimmedPieces_blanks hblanks)
    rwa [List.append_nil] at happend

end Columnar.Text
