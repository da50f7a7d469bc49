import Columnar.Proofs.Text.Trimming
import Columnar.Text.Lines

/-!
# What splitting leaves

`Columnar.Text.Lines` shows that joining undoes splitting. Here is the other direction, which needs that
the separator stands in no piece, and what can be said of the pieces of any text.

* `splitOn_intercalate`, `splitOn_flatMap` — splitting undoes joining, and closing each piece
* `not_mem_of_mem_splitOn`, `mem_of_mem_splitOn` — pieces hold no separator, and nothing new
* `not_mem_of_mem_lines` — lines hold no line feed
* `lines_flatMap` — closed lines are read back, up to the carriage returns at their ends
-/

namespace Columnar.Text

variable {sep : Char} {cs piece line : List Char} {c : Char}

/-! ## Pieces -/

/-- The pieces of a text that starts with a character other than the separator. -/
theorem exists_splitOn_cons (h : c ≠ sep) (cs : List Char) :
    ∃ p ps, splitOn sep cs = p :: ps ∧ splitOn sep (c :: cs) = (c :: p) :: ps := by
  obtain ⟨p, ps, hs⟩ := List.exists_cons_of_ne_nil (splitOn_ne_nil sep cs)
  exact ⟨p, ps, hs, by rw [splitOn, if_neg h, hs]⟩

theorem not_mem_of_mem_splitOn (h : piece ∈ splitOn sep cs) : sep ∉ piece := by
  induction cs generalizing piece with
  | nil =>
    rw [splitOn_nil, List.mem_singleton] at h
    simp [h]
  | cons c cs ih =>
    by_cases hc : c = sep
    · subst hc
      rw [splitOn_cons_self, List.mem_cons] at h
      rcases h with rfl | h
      · simp
      · exact ih h
    · obtain ⟨p, ps, hs, hcs⟩ := exists_splitOn_cons hc cs
      rw [hcs, List.mem_cons] at h
      rcases h with rfl | h
      · have hp : sep ∉ p := ih (by simp [hs])
        simp [hp, Ne.symm hc]
      · exact ih (by simp [hs, h])

theorem mem_of_mem_splitOn (h : piece ∈ splitOn sep cs) (hc : c ∈ piece) : c ∈ cs := by
  rw [← intercalate_splitOn sep cs]
  generalize splitOn sep cs = pieces at h
  induction pieces with
  | nil => simp at h
  | cons p ps ih =>
    have hne : ps = [] ∨ List.intercalate [sep] (p :: ps) = p ++ sep :: List.intercalate [sep] ps := by
      rcases ps with _ | ⟨q, qs⟩
      · exact Or.inl rfl
      · exact Or.inr (by rw [List.intercalate_cons_cons]; simp)
    rcases List.mem_cons.1 h with rfl | h
    · rcases hne with rfl | hne
      · rwa [List.intercalate_singleton]
      · rw [hne]
        exact List.mem_append_left _ hc
    · rcases hne with rfl | hne
      · simp at h
      · rw [hne]
        exact List.mem_append_right _ (List.mem_cons_of_mem _ (ih h))

/-- A character of a joined text is one of the text between the pieces or one of a piece. -/
theorem mem_or_mem_of_mem_intercalate {α : Type} {between : List α} {c : α} {pieces : List (List α)}
    (h : c ∈ List.intercalate between pieces) : c ∈ between ∨ ∃ p ∈ pieces, c ∈ p := by
  induction pieces with
  | nil => simp at h
  | cons p ps ih =>
    cases ps with
    | nil =>
      rw [List.intercalate_singleton] at h
      exact Or.inr ⟨p, by simp, h⟩
    | cons q qs =>
      rw [List.intercalate_cons_cons, List.mem_append, List.mem_append] at h
      rcases h with (h | h) | h
      · exact Or.inr ⟨p, by simp, h⟩
      · exact Or.inl h
      · rcases ih h with h | ⟨r, hr, hc⟩
        · exact Or.inl h
        · exact Or.inr ⟨r, List.mem_cons_of_mem _ hr, hc⟩

/-- A character of a joined text is the separator or one of a piece. -/
theorem mem_intercalate {α : Type} {sep c : α} {pieces : List (List α)}
    (h : c ∈ List.intercalate [sep] pieces) : c = sep ∨ ∃ p ∈ pieces, c ∈ p :=
  (mem_or_mem_of_mem_intercalate h).imp_left List.mem_singleton.1

/-- **Splitting undoes joining**, if there are pieces and the separator stands in none of them. -/
theorem splitOn_intercalate {pieces : List (List Char)} (hne : pieces ≠ []) (h : ∀ p ∈ pieces, sep ∉ p) :
    splitOn sep (List.intercalate [sep] pieces) = pieces := by
  induction pieces with
  | nil => exact absurd rfl hne
  | cons p ps ih =>
    have hp : sep ∉ p := h p (by simp)
    cases ps with
    | nil => rw [List.intercalate_singleton, splitOn_of_not_mem hp]
    | cons q qs =>
      rw [List.intercalate_cons_cons, List.append_assoc, List.singleton_append, splitOn_append hp,
        ih (by simp) fun r hr => h r (List.mem_cons_of_mem p hr)]

/-- Pieces of which each is closed by the separator, and the empty piece after the last one. -/
theorem splitOn_flatMap {pieces : List (List Char)} (h : ∀ p ∈ pieces, sep ∉ p) :
    splitOn sep (pieces.flatMap (· ++ [sep])) = pieces ++ [[]] := by
  induction pieces with
  | nil => rfl
  | cons p ps ih =>
    obtain ⟨hp, hps⟩ := List.forall_mem_cons.1 h
    rw [List.flatMap_cons, List.append_assoc, List.singleton_append, splitOn_append hp, ih hps,
      List.cons_append]

/-! ## Lines -/

theorem dropReturn_subset (line : List Char) : dropReturn line ⊆ line := by
  unfold dropReturn
  split
  · exact List.dropLast_subset line
  · exact List.Subset.refl line

/-- A line without a blank at its end ends with no carriage return. -/
theorem dropReturn_eq_self (h : NoBlankEnd line) : dropReturn line = line := by
  refine if_neg fun hr => ?_
  have hb : isBlank '\r' = false := h '\r' hr
  exact absurd hb (by decide)

theorem not_mem_of_mem_lines (h : line ∈ lines cs) : '\n' ∉ line := by
  have key : ∀ pieces : List (List Char), (∀ p ∈ pieces, '\n' ∉ p) →
      ∀ l ∈ linesOfPieces pieces, '\n' ∉ l := by
    intro pieces
    induction pieces with
    | nil => intro _ l hl; simp [linesOfPieces] at hl
    | cons p ps ih =>
      intro hp l hl
      cases ps with
      | nil =>
        rw [linesOfPieces] at hl
        split at hl
        · simp at hl
        · rw [List.mem_singleton.1 hl]
          exact hp p (by simp)
      | cons q qs =>
        rw [linesOfPieces.eq_3 p _ (by simp), List.mem_cons] at hl
        rcases hl with rfl | hl
        · exact fun hm => hp p (by simp) (dropReturn_subset p hm)
        · exact ih (fun r hr => hp r (List.mem_cons_of_mem p hr)) l hl
  exact key _ (fun p hp => not_mem_of_mem_splitOn hp) line h

/-- **Closed lines are read back**, each without the carriage return at its end. -/
theorem lines_flatMap {α : Type} (f : α → List Char) (l : List α) (h : ∀ a ∈ l, '\n' ∉ f a) :
    lines (l.flatMap fun a => f a ++ ['\n']) = l.map fun a => dropReturn (f a) := by
  induction l with
  | nil => rfl
  | cons a l ih =>
    rw [List.flatMap_cons, List.append_assoc, List.singleton_append,
      lines_append_newline (h a (by simp)), ih fun b hb => h b (List.mem_cons_of_mem a hb), List.map_cons]

end Columnar.Text
