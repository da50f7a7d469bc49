import Columnar.Proofs.Script.CallForm

/-!
# Lines read back

A line is *well-formed* if its parts are what a reader can return: a trimmed comment, or a well-formed
call. The text of a well-formed line is read back as that line, and every line that is read is well-formed;
so well-formedness is exactly the image of the reader.

* `Line.recognise_chars` — **a well-formed line is read back from its text**
* `Line.wellFormed_of_recognise` — **every line that is read is well-formed**
-/

namespace Columnar

open Text (trim trimStart)

namespace Line

/-! ## Well-formed lines -/

/-- A line made of parts that a reader can return. -/
def WellFormed : Line → Prop
  | blank | shutdown => True
  | comment text => trim text = text
  | call c => c.WellFormed

/-- The texts that a line carries. -/
def texts : Line → List (List Char)
  | blank | shutdown => []
  | comment text => [text]
  | call c => c.outs ++ c.args

variable {l : Line} {cs : List Char}

/-- The text of a well-formed line has no blanks around it. -/
theorem trim_chars (hl : l.WellFormed) : trim l.chars = l.chars := by
  match l, hl with
  | blank, _ | shutdown, _ => rfl
  | comment [], _ => rfl
  | comment (c :: cs), hl =>
    have hend : Text.NoBlankEnd (c :: cs) := (Text.trim_eq_self_iff.1 hl).2
    refine Text.trim_eq_self_iff.2 ⟨Text.noBlankStart_cons.2 (by decide), ?_⟩
    show Text.NoBlankEnd (['-', '-', ' '] ++ c :: cs)
    exact (Text.noBlankEnd_append (by simp)).2 hend
  | call c, hl => exact (Call.isWritten_chars hl).trim_eq

/-- A line that is written as a call is read as one or not at all. -/
theorem recognise_of_isWritten {outs : List (List Char)} {name body : List Char}
    (hw : Call.IsWritten outs name body (trim cs)) : recognise cs = (Call.recognise (trim cs)).map call := by
  obtain ⟨d, ds, hd, hh⟩ := hw.exists_cons
  have hdash : d ≠ '-' := by
    rintro rfl
    exact absurd hh (by decide)
  have hword : trim cs ≠ "shutdown".toList := by
    intro h
    obtain ⟨front, -, htext⟩ := hw.front
    have hmem : '(' ∈ trim cs := by simp [htext]
    rw [h] at hmem
    exact absurd hmem (by decide)
  rw [recognise, ofTrimmed.eq_3 _ (by simp [hd]) (by simp [hd, hdash]), if_neg hword]

/-- **A line is read as a call iff it is one once the blanks around it are cut.** -/
theorem recognise_eq_call_iff {c : Call} : recognise cs = some (call c) ↔ Call.recognise (trim cs) = some c := by
  constructor
  · intro h
    unfold recognise ofTrimmed at h
    split at h
    · simp at h
    · simp at h
    · split at h
      · simp at h
      · simpa using h
  · intro h
    obtain ⟨-, body, hw, -⟩ := Call.recognise_eq_some_iff.1 h
    rw [recognise_of_isWritten hw, h]
    rfl

/-- **A well-formed line is read back from its text.** -/
theorem recognise_chars (hl : l.WellFormed) : recognise l.chars = some l := by
  have htrim := trim_chars hl
  cases l with
  | blank | shutdown => rfl
  | comment text =>
    rw [recognise, htrim]
    cases text with
    | nil => rfl
    | cons c cs =>
      have hstart : Text.NoBlankStart (c :: cs) := (Text.trim_eq_self_iff.1 hl).1
      show some (comment (trimStart (' ' :: c :: cs))) = _
      rw [show trimStart (' ' :: c :: cs) = trimStart (c :: cs) from rfl, Text.trimStart_eq_self hstart]
  | call c =>
    rw [recognise_eq_call_iff, htrim]
    exact Call.recognise_chars hl

/-- **Every line that is read is well-formed, and made of characters of the text.** -/
theorem wellFormed_of_recognise (h : recognise cs = some l) : l.WellFormed ∧ ∀ t ∈ l.texts, t ⊆ cs := by
  have hsub : trim cs ⊆ cs := fun d hd => Text.mem_of_mem_trim hd
  have hend : Text.NoBlankEnd (trim cs) := Text.noBlankEnd_trim cs
  rw [recognise] at h
  generalize trim cs = ds at h hsub hend
  unfold ofTrimmed at h
  split at h
  · obtain rfl : blank = l := by simpa using h
    exact ⟨trivial, by simp [texts]⟩
  · rename_i text
    obtain rfl : comment (trimStart text) = l := by simpa using h
    have htext : text <:+ '-' :: '-' :: text := ⟨['-', '-'], rfl⟩
    refine ⟨Text.trim_trimStart_of_isSuffix hend htext, ?_⟩
    intro t ht
    rw [texts, List.mem_singleton] at ht
    subst ht
    exact fun d hd => hsub (((Text.trimStart_isSuffix text).trans htext).subset hd)
  · split at h
    · obtain rfl : shutdown = l := by simpa using h
      exact ⟨trivial, by simp [texts]⟩
    · rw [Option.map_eq_some_iff] at h
      obtain ⟨c, hc, rfl⟩ := h
      obtain ⟨hwell, htexts⟩ := Call.wellFormed_of_recognise hc
      exact ⟨hwell, fun t ht d hd => hsub (htexts t ht hd)⟩

end Line

end Columnar
