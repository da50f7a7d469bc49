import Columnar.Text.Blank

/-!
# Splitting and joining

`splitOn sep` cuts a text at every `sep`, so there is always one piece more than there are separators;
joining is `List.intercalate`. `lines` reads a text as lines: the piece after the last line feed counts
only if it is not empty, and a carriage return right before a line feed belongs to the line end.

## Termination

Both functions recurse on the text, or on its pieces.

## Main statements

* `intercalate_splitOn`: joining the pieces with the separator gives the text back.
* `splitOn_append`: a piece without separators, a separator and a rest split into the piece and the rest's pieces.
-/

namespace Columnar.Text

/-- The pieces of a text between its separators. -/
def splitOn (sep : Char) : List Char → List (List Char)
  | [] => [[]]
  | c :: cs =>
    if c = sep then [] :: splitOn sep cs
    else
      match splitOn sep cs with
      | [] => [[c]]
      | piece :: pieces => (c :: piece) :: pieces

@[simp] theorem splitOn_nil (sep : Char) : splitOn sep [] = [[]] := rfl

@[simp] theorem splitOn_cons_self (sep : Char) (cs : List Char) :
    splitOn sep (sep :: cs) = [] :: splitOn sep cs := by
  simp [splitOn]

theorem splitOn_ne_nil (sep : Char) (cs : List Char) : splitOn sep cs ≠ [] := by
  cases cs with
  | nil => simp
  | cons c cs =>
    rw [splitOn]
    split
    · simp
    · split <;> simp

/-- **Joining undoes splitting.** -/
theorem intercalate_splitOn (sep : Char) (cs : List Char) :
    List.intercalate [sep] (splitOn sep cs) = cs := by
  induction cs with
  | nil => simp [List.intercalate]
  | cons c cs ih =>
    by_cases h : c = sep
    · subst h
      rw [splitOn_cons_self]
      cases hs : splitOn c cs with
      | nil => exact absurd hs (splitOn_ne_nil c cs)
      | cons piece pieces =>
        rw [hs] at ih
        simp_all [List.intercalate]
    · rw [splitOn, if_neg h]
      cases hs : splitOn sep cs with
      | nil => exact absurd hs (splitOn_ne_nil sep cs)
      | cons piece pieces =>
        rw [hs] at ih
        cases pieces with
        | nil => simp_all [List.intercalate]
        | cons q qs => simp_all [List.intercalate]

theorem splitOn_of_not_mem {sep : Char} {cs : List Char} (h : sep ∉ cs) : splitOn sep cs = [cs] := by
  induction cs with
  | nil => rfl
  | cons c cs ih =>
    have hc : c ≠ sep := fun e => h (by simp [e])
    rw [splitOn, if_neg hc, ih (fun m => h (List.mem_cons_of_mem c m))]

/-- A piece without separators, a separator and a rest split into the piece and the rest's pieces. -/
theorem splitOn_append {sep : Char} {piece : List Char} (h : sep ∉ piece) (rest : List Char) :
    splitOn sep (piece ++ sep :: rest) = piece :: splitOn sep rest := by
  induction piece with
  | nil => simp
  | cons c piece ih =>
    have hc : c ≠ sep := fun e => h (by simp [e])
    rw [List.cons_append, splitOn, if_neg hc, ih (fun m => h (List.mem_cons_of_mem c m))]

/-! ## Lines -/

/-- A line without the carriage return of its line end. -/
def dropReturn (line : List Char) : List Char :=
  if line.getLast? = some '\r' then line.dropLast else line

/-- The lines among the pieces between line feeds: each piece that a line feed closes, and the last
piece unless it is empty. -/
def linesOfPieces : List (List Char) → List (List Char)
  | [] => []
  | [last] => if last.isEmpty then [] else [last]
  | piece :: rest => dropReturn piece :: linesOfPieces rest

/-- The lines of a text. -/
def lines (cs : List Char) : List (List Char) :=
  linesOfPieces (splitOn '\n' cs)

@[simp] theorem lines_nil : lines [] = [] := rfl

/-- A text without line feeds is its only line. -/
theorem lines_of_not_mem {cs : List Char} (h : '\n' ∉ cs) (hne : cs ≠ []) : lines cs = [cs] := by
  rw [lines, splitOn_of_not_mem h]
  cases cs with
  | nil => exact absurd rfl hne
  | cons c cs => rfl

/-- A closed line is read off the front. -/
theorem lines_append_newline {line : List Char} (h : '\n' ∉ line) (rest : List Char) :
    lines (line ++ '\n' :: rest) = dropReturn line :: lines rest := by
  rw [lines, splitOn_append h, lines]
  cases hs : splitOn '\n' rest with
  | nil => exact absurd hs (splitOn_ne_nil '\n' rest)
  | cons piece pieces => rfl

end Columnar.Text
