import Columnar.Proofs.Output.Decoding
import Mathlib.Algebra.GroupWithZero.Nat

/-!
# How many lines prints take

The lines of a text can be counted before it is laid out. Scalars take one line. A sequence takes one for
each row, and an empty line if it has no rows; a blank line follows it unless nothing is printed after it.
So each print takes a line, and only what prints nothing has no text.

* `Layout.length_lines` — **the number of lines of a text**
* `Layout.text_eq_empty_iff`, `Layout.getLast?_chars` — which texts are empty, and how the others end
-/

namespace Columnar

open Verdict (trimmedLines)

/-- What is printed, as far as its lines are counted. -/
inductive PrintShape where
  | scalars
  | sequence (rows : Nat)
  deriving DecidableEq, Repr

namespace PrintShape

/-- The number of lines that a print takes. -/
def height : PrintShape → Nat
  | scalars => 1
  | sequence rows => max rows 1

/-- Whether rows are printed. -/
def isSequence : PrintShape → Bool
  | scalars => false
  | sequence _ => true

/-- The number of lines that prints take one after the other: those of each print, and a blank line after
each sequence that is not the last print. -/
def lineCount (shapes : List PrintShape) : Nat :=
  (shapes.map height).sum + shapes.dropLast.countP isSequence

variable {p : PrintShape} {ps : List PrintShape}

theorem lineCount_cons (h : ps ≠ []) :
    lineCount (p :: ps) = p.height + (if p.isSequence then 1 else 0) + lineCount ps := by
  rw [lineCount, List.map_cons, List.sum_cons, List.dropLast_cons_of_ne_nil h, List.countP_cons, lineCount]
  omega

theorem height_pos (p : PrintShape) : 0 < p.height := by
  cases p with
  | scalars => exact Nat.one_pos
  | sequence rows => exact Nat.le_max_right rows 1

/-- Only no prints take no lines. -/
theorem lineCount_eq_zero_iff : lineCount ps = 0 ↔ ps = [] := by
  cases ps with
  | nil => exact iff_of_true rfl rfl
  | cons p ps =>
    have hheight := p.height_pos
    refine iff_of_false ?_ (List.cons_ne_nil p ps)
    rw [lineCount, List.map_cons, List.sum_cons]
    omega

end PrintShape

/-- The shape of a block. -/
def Block.shape : Block → PrintShape
  | scalars _ => .scalars
  | rows rs => .sequence rs.length

theorem Block.isSequence_shape (b : Block) : b.shape.isSequence = !b.isScalars := by
  cases b <;> rfl

theorem Block.length_body (b : Block) : b.body.length = b.shape.height := by
  cases b with
  | scalars items => rfl
  | rows rs =>
    cases rs with
    | nil => rfl
    | cons row rs => simp [body, lines, shape, PrintShape.height]

namespace Layout

variable {bs : List Block}

theorem length_trimmedLines (bs : List Block) :
    (trimmedLines (chars bs)).length = PrintShape.lineCount (bs.map Block.shape) := by
  induction bs with
  | nil => rfl
  | cons b bs ih =>
    rcases eq_or_ne bs [] with rfl | hne
    · rw [show chars [b] = b.chars ++ '\n' :: [] from rfl, Block.trimmedLines_chars_append, List.length_append,
        b.length_body]
      rfl
    · rw [chars_cons hne, Block.trimmedLines_chars_append, trimmedLines_separator_append, List.length_append,
        List.length_append, ih, b.length_body, List.map_cons,
        PrintShape.lineCount_cons (by simpa using hne), b.isSequence_shape, Nat.add_assoc]
      cases b.isScalars <;> rfl

/-- **The number of lines of a text is that of its prints.** -/
theorem length_lines (bs : List Block) :
    (Text.lines (text bs).toList).length = PrintShape.lineCount (bs.map Block.shape) := by
  rw [← length_trimmedLines, trimmedLines, List.length_map, text, String.toList_ofList]

/-- A text ends with a line feed. -/
theorem getLast?_chars (h : bs ≠ []) : (chars bs).getLast? = some '\n' := by
  induction bs with
  | nil => exact absurd rfl h
  | cons b bs ih =>
    rcases eq_or_ne bs [] with rfl | hne
    · exact List.getLast?_concat
    · rw [chars_cons hne, List.getLast?_append, List.getLast?_cons, List.getLast?_append, ih hne]
      rfl

/-- Only no prints have no text. -/
theorem text_eq_empty_iff : text bs = "" ↔ bs = [] := by
  rw [← String.toList_inj, text, String.toList_ofList]
  constructor
  · intro h
    by_contra hne
    have hlast := getLast?_chars hne
    rw [h] at hlast
    cases hlast
  · rintro rfl
    rfl

end Layout

end Columnar
