import Columnar.Proofs.Grid
import Columnar.Proofs.Output.Fields
import Columnar.Proofs.Results
import Columnar.Proofs.Verdict

/-!
# Telling outputs apart

Blank lines have three reasons in an output: they close a block of rows that another block follows, they
stand for a block without rows, and they are a line of scalars without scalars. A comparison cuts those
at the end off. What was printed can still be told, as long as both sides print blocks of the same kinds:

* the lines of a text are, up to blank lines at the end, what its blocks show one after the other, where
  a blank line closes every block of rows, also the last one (`Layout.eqUpToBlankEnd_shown`);
* no line of a row is blank, so the first blank line of a block of rows tells where the block ends, and
  blocks that differ are told apart before anything after them is looked at
  (`Block.shown_append_iff`);
* so what the blocks hold is compared one block at a time (`Layout.judge_text_iff`).
-/

namespace Columnar

open Text (EqUpToBlankEnd)
open Verdict (trimmedLines)

variable {l m : List (List Char)} {line : List Char}

/-! ## The lines of a text -/

namespace Verdict

/-- Lines without blanks are read off the front as they are. -/
theorem trimmedLines_append_newline (h : ∀ ch ∈ line, Text.isBlank ch = false) (rest : List Char) :
    trimmedLines (line ++ '\n' :: rest) = line :: trimmedLines rest := by
  have hfeed : '\n' ∉ line := fun hm => absurd (h '\n' hm) (by decide)
  have hend : Text.NoBlankEnd line := fun ch hch => h ch (List.mem_of_mem_getLast? hch)
  rw [trimmedLines, Text.lines_append_newline hfeed, List.map_cons, Text.dropReturn_eq_self hend,
    Text.trimEnd_eq_self hend, trimmedLines]

theorem trimmedLines_newline (rest : List Char) : trimmedLines ('\n' :: rest) = [] :: trimmedLines rest :=
  trimmedLines_append_newline (List.forall_mem_nil _) rest

/-- A run of lines without blanks is read off the front. -/
theorem trimmedLines_intercalate (hl : l ≠ []) (h : ∀ line ∈ l, ∀ ch ∈ line, Text.isBlank ch = false)
    (rest : List Char) :
    trimmedLines (List.intercalate ['\n'] l ++ '\n' :: rest) = l ++ trimmedLines rest := by
  induction l with
  | nil => exact absurd rfl hl
  | cons line l ih =>
    obtain ⟨hline, h⟩ := List.forall_mem_cons.1 h
    cases l with
    | nil => rw [List.intercalate_singleton, trimmedLines_append_newline hline, List.singleton_append]
    | cons line' l =>
      rw [List.intercalate_cons_cons, List.append_assoc, List.append_assoc, List.singleton_append,
        trimmedLines_append_newline hline, ih (List.cons_ne_nil _ _) h, List.cons_append, List.cons_append,
        List.cons_append]

end Verdict

/-! ## What a block shows -/

namespace Block

variable {b c : Block} {rs rs' : List (List Int64)}

/-- No line of a block holds a blank. -/
theorem not_isBlank_of_mem_lines (hline : line ∈ b.lines) {ch : Char} (h : ch ∈ line) :
    Text.isBlank ch = false := by
  cases b with
  | scalars items =>
    obtain rfl : line = commaSeparated (items.map Aggregate.chars) := List.mem_singleton.1 hline
    refine not_isBlank_of_mem_commaSeparated (fun f hf => ?_) h
    obtain ⟨a, -, rfl⟩ := List.mem_map.1 hf
    exact Op.isSolid_aggregate a
  | rows rs =>
    obtain ⟨row, -, rfl⟩ := List.mem_map.1 hline
    refine not_isBlank_of_mem_commaSeparated (fun f hf => ?_) h
    obtain ⟨v, -, rfl⟩ := List.mem_map.1 hf
    exact Op.isSolid_int64Chars v

/-- The lines of a block as a reader sees them: a block without rows is a blank line. -/
def body (b : Block) : List (List Char) :=
  if b.lines = [] then [[]] else b.lines

/-- The lines of a block, with the blank line that closes it if it is one of rows. -/
def shown (b : Block) : List (List Char) :=
  b.body ++ if b.isScalars then [] else [[]]

theorem trimmedLines_chars_append (b : Block) (rest : List Char) :
    trimmedLines (b.chars ++ '\n' :: rest) = b.body ++ trimmedLines rest := by
  unfold body
  split
  · rename_i h
    rw [chars, h]
    exact Verdict.trimmedLines_newline rest
  · rename_i h
    exact Verdict.trimmedLines_intercalate h (fun _ hline _ => not_isBlank_of_mem_lines hline) rest

/-! ## Where a block of rows ends -/

/-- Lists of lines that are not blank are told by the blank lines that close them. -/
theorem append_blank_append_iff {xs ys : List (List Char)} (hxs : ∀ x ∈ xs, x ≠ []) (hys : ∀ y ∈ ys, y ≠ []) :
    EqUpToBlankEnd (xs ++ [] :: l) (ys ++ [] :: m) ↔ xs = ys ∧ EqUpToBlankEnd l m := by
  induction xs generalizing ys with
  | nil =>
    cases ys with
    | nil => simp [EqUpToBlankEnd.cons_iff]
    | cons y ys =>
      -- where one list has ended, the other one goes on with a line that is not blank
      have hy : [] ≠ y := (hys y (List.mem_cons_self ..)).symm
      simp [EqUpToBlankEnd.cons_iff, hy]
  | cons x xs ih =>
    obtain ⟨hx, hxs⟩ := List.forall_mem_cons.1 hxs
    cases ys with
    | nil => simp [EqUpToBlankEnd.cons_iff, hx]
    | cons y ys =>
      rw [List.cons_append, List.cons_append, EqUpToBlankEnd.cons_iff,
        ih hxs (List.forall_mem_cons.1 hys).2, List.cons.injEq, and_assoc]

/-- Whether each row of a block holds a value. -/
def NoEmptyRow : Block → Prop
  | scalars _ => True
  | rows rs => ∀ row ∈ rs, row ≠ []

theorem NoEmptyRow.ne_nil_of_mem_lines (h : (rows rs).NoEmptyRow) (hline : line ∈ (rows rs).lines) :
    line ≠ [] := by
  obtain ⟨row, hrow, rfl⟩ := List.mem_map.1 hline
  obtain ⟨v, row, rfl⟩ := List.exists_cons_of_ne_nil (h row hrow)
  exact commaSeparated_ne_nil (Text.intChars_ne_nil v.toInt)

/-- A block of rows closes with a blank line; one more stands before that where there are no rows. -/
theorem shown_rows_append (rs : List (List Int64)) (l : List (List Char)) :
    (rows rs).shown ++ l = (rows rs).lines ++ [] :: if (rows rs).lines = [] then [] :: l else l := by
  rw [shown, body, show (rows rs).isScalars = false from rfl]
  split <;> simp_all

/-- **Blocks of one kind that differ are told apart**, whatever is shown after them. -/
theorem shown_append_iff (hkind : b.isScalars = c.isScalars) (hb : b.NoEmptyRow) (hc : c.NoEmptyRow) :
    EqUpToBlankEnd (b.shown ++ l) (c.shown ++ m) ↔ b.lines = c.lines ∧ EqUpToBlankEnd l m := by
  cases b with
  | scalars items =>
    cases c with
    | rows rs => cases hkind
    | scalars items' => simp [shown, body, lines, isScalars, EqUpToBlankEnd.cons_iff]
  | rows rs =>
    cases c with
    | scalars items => cases hkind
    | rows rs' =>
      rw [shown_rows_append, shown_rows_append, append_blank_append_iff
        (fun _ => hb.ne_nil_of_mem_lines) (fun _ => hc.ne_nil_of_mem_lines)]
      refine and_congr_right fun hlines => ?_
      rw [← hlines]
      split
      · rw [EqUpToBlankEnd.cons_iff, and_iff_right rfl]
      · rfl

end Block

/-! ## Whole outputs -/

namespace Layout

variable {bs cs : List Block}

theorem trimmedLines_separator_append (b : Block) (rest : List Char) :
    trimmedLines (separator b ++ rest) = (if b.isScalars then [] else [[]]) ++ trimmedLines rest := by
  unfold separator
  split
  · rfl
  · exact Verdict.trimmedLines_newline rest

/-- **The lines of a text are what its blocks show one after the other.** -/
theorem eqUpToBlankEnd_shown (bs : List Block) :
    EqUpToBlankEnd (trimmedLines (chars bs)) (bs.flatMap Block.shown) := by
  induction bs with
  | nil => exact .refl _
  | cons b bs ih =>
    rcases eq_or_ne bs [] with rfl | hne
    · -- the blank line that closes the last block is not written
      rw [show chars [b] = b.chars ++ '\n' :: [] from rfl, Block.trimmedLines_chars_append,
        List.flatMap_singleton, Block.shown, EqUpToBlankEnd.append_left_iff]
      split
      · exact .refl _
      · exact (EqUpToBlankEnd.append_blank []).symm
    · rw [chars_cons hne, Block.trimmedLines_chars_append, trimmedLines_separator_append,
        List.flatMap_cons, Block.shown, List.append_assoc, EqUpToBlankEnd.append_left_iff,
        EqUpToBlankEnd.append_left_iff]
      exact ih

/-- What blocks of the same kinds show is told apart block by block. -/
theorem flatMap_shown_iff (hkinds : List.Forall₂ (fun b c => b.isScalars = c.isScalars) bs cs)
    (hbs : ∀ b ∈ bs, b.NoEmptyRow) (hcs : ∀ c ∈ cs, c.NoEmptyRow) :
    EqUpToBlankEnd (bs.flatMap Block.shown) (cs.flatMap Block.shown) ↔
      List.Forall₂ (fun b c => b.lines = c.lines) bs cs := by
  induction hkinds with
  | nil => exact iff_of_true (.refl _) .nil
  | cons hkind _ ih =>
    obtain ⟨hb, hbs⟩ := List.forall_mem_cons.1 hbs
    obtain ⟨hc, hcs⟩ := List.forall_mem_cons.1 hcs
    rw [List.flatMap_cons, List.flatMap_cons, Block.shown_append_iff hkind hb hc, ih hbs hcs,
      List.forall₂_cons]

/-- **A layout passes against another one of blocks of the same kinds iff all blocks have the same lines.** -/
theorem judge_text_iff (hkinds : List.Forall₂ (fun b c => b.isScalars = c.isScalars) bs cs)
    (hbs : ∀ b ∈ bs, b.NoEmptyRow) (hcs : ∀ c ∈ cs, c.NoEmptyRow) :
    Verdict.judge (text bs) (text cs) = .pass ↔ List.Forall₂ (fun b c => b.lines = c.lines) bs cs := by
  rw [Verdict.judge_eq_pass_iff, text, text, String.toList_ofList, String.toList_ofList,
    ← flatMap_shown_iff hkinds hbs hcs]
  have hb := eqUpToBlankEnd_shown bs
  have hc := eqUpToBlankEnd_shown cs
  exact ⟨fun h => hb.symm.trans (h.trans hc), fun h => hb.trans (h.trans hc.symm)⟩

end Layout

end Columnar
