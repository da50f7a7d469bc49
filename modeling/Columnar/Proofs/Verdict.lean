import Columnar.Proofs.Text.BlankEnds
import Columnar.Proofs.Text.Trimming
import Columnar.Verdict

/-!
# When an output passes

A comparison stops at the first line that differs and looks at the numbers of lines only after that, so
it passes exactly equal lists of lines. Since blank lines at the end are cut off before, two texts pass
iff their lines, without the blanks at their ends, are the same up to blank lines at the end.

* `Verdict.isNormalForm_iff` — **which lines of a text are compared**
* `Verdict.judge_eq_pass_iff` — when a text passes against another
-/

namespace Columnar.Verdict

variable {es as : List (List Char)}

/-! ## The lines that are compared -/

/-- The lines of a text, without the blanks at their ends. -/
def trimmedLines (cs : List Char) : List (List Char) :=
  (Text.lines cs).map Text.trimEnd

/-- A normal form of lines: nothing but blanks at line ends and blank lines at the end is left out, no line
ends with a blank and the last one is not empty. -/
structure IsNormalForm (lines normal : List (List Char)) : Prop where
  /-- Where the normal form has ended, only blanks follow. -/
  kept : ∀ i, ∃ blanks, (∀ c ∈ blanks, Text.isBlank c = true) ∧ lines.getD i [] = normal.getD i [] ++ blanks
  noBlankEnd : ∀ line ∈ normal, Text.NoBlankEnd line
  getLast?_ne : normal.getLast? ≠ some []

theorem getD_trimmedLines (cs : List Char) (i : Nat) :
    (trimmedLines cs).getD i [] = Text.trimEnd ((Text.lines cs).getD i []) := by
  rw [trimmedLines, List.getD_eq_getElem?_getD, List.getD_eq_getElem?_getD, List.getElem?_map]
  cases (Text.lines cs)[i]? <;> rfl

/-- **The lines that are compared are the one normal form of the lines of a text.** -/
theorem isNormalForm_iff {cs : List Char} {normal : List (List Char)} :
    IsNormalForm (Text.lines cs) normal ↔ normal = normalLines cs := by
  have hnormal : Text.EqUpToBlankEnd (normalLines cs) (trimmedLines cs) := Text.eqUpToBlankEnd_dropEndWhile _
  constructor
  · intro h
    refine Text.EqUpToBlankEnd.eq_of_getLast?_ne h.getLast?_ne (Text.getLast?_dropEndWhile_ne _) ?_
    refine Text.EqUpToBlankEnd.trans (fun i => ?_) hnormal.symm
    obtain ⟨blanks, hblanks, hline⟩ := h.kept i
    have hend : Text.NoBlankEnd (normal.getD i []) := by
      rw [List.getD_eq_getElem?_getD]
      cases hi : normal[i]? with
      | none => exact Text.noBlankEnd_nil
      | some line => exact h.noBlankEnd line (List.mem_of_getElem? hi)
    rw [getD_trimmedLines, hline, Text.trimEnd_append_blanks hblanks, Text.trimEnd_eq_self hend]
  · rintro rfl
    refine ⟨fun i => ?_, fun line hline => ?_, Text.getLast?_dropEndWhile_ne _⟩
    · rw [hnormal i, getD_trimmedLines]
      exact Text.exists_trimEnd_append _
    · obtain ⟨l, -, rfl⟩ := List.mem_map.1 ((List.rdropWhile_prefix List.isEmpty _).subset hline)
      exact Text.noBlankEnd_trimEnd l

/-! ## Passing -/

/-- Only equal lists of lines pass. -/
theorem judgeLines_eq_pass_iff : judgeLines es as = pass ↔ es = as := by
  unfold judgeLines
  split
  · rename_i n e a h
    refine iff_of_false nofun ?_
    rintro rfl
    rw [(firstDifference_eq_none_iff 1 es es).2 (.inl (List.prefix_refl es))] at h
    cases h
  · rename_i h
    split
    · rename_i hlength
      refine iff_of_true rfl ?_
      -- one list starts the other, and they are of one length
      rcases (firstDifference_eq_none_iff 1 es as).1 h with hstart | hstart
      · exact hstart.eq_of_length hlength
      · exact (hstart.eq_of_length hlength.symm).symm
    · rename_i hlength
      exact iff_of_false nofun fun e => hlength (congrArg List.length e)

/-- **A text passes against another iff their trimmed lines are the same up to blank lines at the end.** -/
theorem judge_eq_pass_iff {expected actual : String} :
    judge expected actual = pass ↔
      Text.EqUpToBlankEnd (trimmedLines expected.toList) (trimmedLines actual.toList) :=
  judgeLines_eq_pass_iff.trans Text.dropEndWhile_isEmpty_eq_iff

end Columnar.Verdict
