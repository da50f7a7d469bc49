import Columnar.Proofs.Output.Fields
import Columnar.Proofs.Text.Splitting
import Columnar.Suite.Condition

/-!
# Lines that all end

What a script prints is made of lines that all end, the last one too. A script that prints nothing but
single scalars, or nothing but sequences, has a text that can be told line by line, without blocks.

* `Layout.text_scalars_singleton` — prints of one scalar each are lines
* `Layout.text_ofValues` — prints of sequences are groups of lines with a blank line between
* `Text.lines_closedLines` — the lines can be read back
-/

namespace Columnar

namespace Text

/-- The text of lines of which each ends with a newline. -/
def closedLines (ls : List String) : String :=
  String.join (ls.map (· ++ "\n"))

theorem toList_closedLines (ls : List String) :
    (closedLines ls).toList = ls.flatMap fun l => l.toList ++ ['\n'] := by
  unfold closedLines
  rw [String.toList_join, List.flatMap_map]
  simp only [String.toList_append]
  rfl

/-- **Lines without blanks are read back.** -/
theorem lines_closedLines {ls : List String} (h : ∀ l ∈ ls, ∀ c ∈ l.toList, isBlank c = false) :
    lines (closedLines ls).toList = ls.map String.toList := by
  have hfeed : ∀ l ∈ ls, '\n' ∉ l.toList := fun l hl hm => absurd (h l hl '\n' hm) (by decide)
  rw [toList_closedLines, lines_flatMap String.toList ls hfeed]
  refine List.map_congr_left fun l hl => dropReturn_eq_self ?_
  exact fun c hc => h l hl c (List.mem_of_mem_getLast? hc)

/-- Ending every line is joining the lines and ending the last one. -/
theorem intercalate_append_newline {ls : List (List Char)} (h : ls ≠ []) :
    List.intercalate ['\n'] ls ++ ['\n'] = ls.flatMap (· ++ ['\n']) := by
  induction ls with
  | nil => exact absurd rfl h
  | cons l ls ih =>
    by_cases hls : ls = []
    · subst hls
      simp
    · rw [List.intercalate_cons_of_ne_nil hls, List.append_assoc, ih hls, List.flatMap_cons]

end Text

/-- The text of an aggregate holds no blank. -/
theorem Aggregate.not_isBlank_of_mem_text (a : Aggregate) {c : Char} (h : c ∈ a.text.toList) :
    Text.isBlank c = false := by
  rw [Aggregate.text, String.toList_ofList] at h
  exact (Op.isSolid_aggregate a c h).2

namespace Block

/-- The lines that a print of a sequence takes: one for each value, and an empty line if there is none. -/
def sequenceLines (values : List Int64) : List String :=
  if values = [] then [""] else values.map Predicate.valueText

theorem chars_ofValues (values : List Int64) :
    (ofValues values).chars ++ ['\n'] = (Text.closedLines (sequenceLines values)).toList := by
  rw [Text.toList_closedLines, sequenceLines]
  by_cases hvalues : values = []
  · subst hvalues
    rfl
  · rw [if_neg hvalues, chars, lines_ofValues, Text.intercalate_append_newline (by simpa using hvalues),
      List.flatMap_map, List.flatMap_map]
    simp [Predicate.valueText]

end Block

namespace Layout

/-- **Prints of one scalar each are one line each.** -/
theorem text_scalars_singleton (items : List Aggregate) :
    text (items.map fun a => .scalars [a]) = Text.closedLines (items.map Aggregate.text) := by
  rw [← String.toList_inj, Text.toList_closedLines, text, String.toList_ofList]
  induction items with
  | nil => rfl
  | cons a items ih =>
    have hline : (Block.scalars [a]).chars = a.text.toList := by
      simp [Block.chars, Block.lines, Block.commaSeparated, Aggregate.text]
    by_cases hitems : items = []
    · subst hitems
      simp [chars, hline]
    · rw [List.map_cons, chars_cons (by simpa using hitems), ih, hline]
      simp [separator, Block.isScalars]

/-- **Prints of sequences are their lines, with a blank line between two prints.** -/
theorem text_ofValues (vss : List (List Int64)) :
    text (vss.map Block.ofValues) =
      "\n".intercalate (vss.map fun values => Text.closedLines (Block.sequenceLines values)) := by
  rw [← String.toList_inj, String.toList_intercalate, text, String.toList_ofList, List.map_map]
  induction vss with
  | nil => rfl
  | cons values vss ih =>
    by_cases hvss : vss = []
    · subst hvss
      simp [chars, Block.chars_ofValues]
    · rw [List.map_cons, chars_cons (by simpa using hvss), ih, List.map_cons,
        List.intercalate_cons_of_ne_nil (by simpa using hvss), ← List.singleton_append, ← List.append_assoc,
        Block.chars_ofValues, ← List.append_assoc]
      rfl

end Layout

end Columnar
