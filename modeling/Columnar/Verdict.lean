import Columnar.Text.Blank
import Columnar.Text.Lines

/-!
# Judging an engine's output

Two texts are compared line by line after their blank line ends and their blank last lines are cut off.
The first line that differs is the reason of a failure; where no line differs, the numbers of lines may.

## Main statements

* `Verdict.firstDifference_eq_none_iff`: no difference is found iff the shorter list starts the longer one.
* `Verdict.judge_self`: every text passes against itself.
-/

namespace Columnar

/-- The outcome of a comparison, with its reason. -/
inductive Verdict where
  | pass
  | fail (reason : String)
  | skip (reason : String)
  deriving DecidableEq, Repr

namespace Verdict

/-- Whether the output was accepted. -/
def isPass : Verdict → Bool
  | pass => true
  | _ => false

/-- The reason of a verdict that is no pass. -/
def reason? : Verdict → Option String
  | pass => none
  | fail reason => some reason
  | skip reason => some reason

/-- The lines of a text, without blanks at their ends and without blank lines at its end. -/
def normalLines (cs : List Char) : List (List Char) :=
  Text.dropEndWhile List.isEmpty ((Text.lines cs).map Text.trimEnd)

/-- The first position, counted from `n`, at which two lists of lines differ, with both lines. -/
def firstDifference : (n : Nat) → List (List Char) → List (List Char) → Option (Nat × List Char × List Char)
  | n, e :: es, a :: as => if e = a then firstDifference (n + 1) es as else some (n, e, a)
  | _, _, _ => none

/-- Compares lists of lines. -/
def judgeLines (expected actual : List (List Char)) : Verdict :=
  match firstDifference 1 expected actual with
  | some (n, e, a) =>
    fail s!"Line {n} mismatch: expected '{String.ofList e}', got '{String.ofList a}'"
  | none =>
    if expected.length = actual.length then pass
    else fail s!"Line count mismatch: expected {expected.length}, got {actual.length}"

/-- Compares an engine's output with the expected one. -/
def judge (expected actual : String) : Verdict :=
  judgeLines (normalLines expected.toList) (normalLines actual.toList)

/-- No difference is found iff the shorter list starts the longer one. -/
theorem firstDifference_eq_none_iff (n : Nat) (es as : List (List Char)) :
    firstDifference n es as = none ↔ es <+: as ∨ as <+: es := by
  induction es generalizing n as with
  | nil => simp [firstDifference]
  | cons e es ih =>
    cases as with
    | nil => simp [firstDifference]
    | cons a as =>
      rw [firstDifference]
      by_cases h : e = a
      · subst h
        simp [ih]
      · simp [h, Ne.symm h]

/-- **Every text passes against itself.** -/
theorem judge_self (text : String) : judge text text = pass := by
  have h : firstDifference 1 (normalLines text.toList) (normalLines text.toList) = none :=
    (firstDifference_eq_none_iff _ _ _).2 (.inl (List.prefix_refl _))
  simp [judge, judgeLines, h]

end Verdict

end Columnar
