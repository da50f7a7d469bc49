import Columnar.Text.Blank
import Mathlib.Data.List.DropRight

/-!
# What trimming leaves

A text is *trimmed* if it equals its trim, which means that no blank stands at either end of it. The two
ends are kept apart, because a reference made of several parts is trimmed as a whole: its first part may
end with a blank, and its last one may begin with one.

* `trim_eq_self_iff` — a text is trimmed iff it neither starts nor ends with a blank
* `trim_trim` — what is cut is trimmed
* `NoBlankEnd.of_isSuffix`, `NoBlankStart.of_isPrefix` — each end looks at its own end only
-/

namespace Columnar.Text

/-- No blank stands at the start of a text. -/
def NoBlankStart (cs : List Char) : Prop :=
  ∀ c ∈ cs.head?, isBlank c = false

/-- No blank stands at the end of a text. -/
def NoBlankEnd (cs : List Char) : Prop :=
  ∀ c ∈ cs.getLast?, isBlank c = false

-- The instances are named, since a search could also find the one that runs through every character
-- there is, which no evaluation gets to the end of.
instance (cs : List Char) : Decidable (NoBlankStart cs) :=
  Option.decidableForallMem cs.head?

instance (cs : List Char) : Decidable (NoBlankEnd cs) :=
  Option.decidableForallMem cs.getLast?

variable {cs ds : List Char} {c : Char}

/-! ## The two ends -/

@[simp] theorem noBlankStart_nil : NoBlankStart [] := by
  simp [NoBlankStart]

@[simp] theorem noBlankEnd_nil : NoBlankEnd [] := by
  simp [NoBlankEnd]

@[simp] theorem noBlankStart_cons : NoBlankStart (c :: cs) ↔ isBlank c = false := by
  simp [NoBlankStart]

@[simp] theorem noBlankEnd_append_singleton : NoBlankEnd (cs ++ [c]) ↔ isBlank c = false := by
  simp [NoBlankEnd]

theorem NoBlankStart.of_isPrefix (h : NoBlankStart ds) (p : cs <+: ds) : NoBlankStart cs := by
  obtain ⟨rest, rfl⟩ := p
  cases cs with
  | nil => exact noBlankStart_nil
  | cons d cs => exact noBlankStart_cons.2 (noBlankStart_cons.1 h)

theorem NoBlankEnd.of_isSuffix (h : NoBlankEnd ds) (s : cs <:+ ds) : NoBlankEnd cs := by
  obtain ⟨front, rfl⟩ := s
  rcases List.eq_nil_or_concat' cs with rfl | ⟨cs, d, rfl⟩
  · exact noBlankEnd_nil
  · rw [← List.append_assoc] at h
    exact noBlankEnd_append_singleton.2 (noBlankEnd_append_singleton.1 h)

/-- A text that goes on ends as its continuation does. -/
theorem noBlankEnd_append (h : cs ≠ []) : NoBlankEnd (ds ++ cs) ↔ NoBlankEnd cs := by
  rw [NoBlankEnd, List.getLast?_append_of_ne_nil ds h, NoBlankEnd]

theorem noBlankStart_append (h : cs ≠ []) : NoBlankStart (cs ++ ds) ↔ NoBlankStart cs := by
  obtain ⟨d, cs, rfl⟩ := List.exists_cons_of_ne_nil h
  simp

/-! ## Cutting one end -/

theorem noBlankStart_trimStart (cs : List Char) : NoBlankStart (trimStart cs) := by
  intro c hc
  have h := List.head?_dropWhile_not isBlank cs
  rw [show cs.dropWhile isBlank = trimStart cs from rfl, Option.mem_def.1 hc] at h
  simpa using h

theorem trimStart_eq_self (h : NoBlankStart cs) : trimStart cs = cs := by
  cases cs with
  | nil => rfl
  | cons c cs => exact trimStart_cons_of_not_isBlank (noBlankStart_cons.1 h)

theorem trimStart_isSuffix (cs : List Char) : trimStart cs <:+ cs :=
  List.dropWhile_suffix isBlank

theorem noBlankEnd_trimEnd (cs : List Char) : NoBlankEnd (trimEnd cs) := by
  intro c hc
  have hne : List.rdropWhile isBlank cs ≠ [] := by
    intro h
    rw [show trimEnd cs = List.rdropWhile isBlank cs from rfl, h] at hc
    simp at hc
  have hlast := List.rdropWhile_last_not isBlank cs hne
  rw [show trimEnd cs = List.rdropWhile isBlank cs from rfl, List.getLast?_eq_some_getLast hne,
    Option.mem_some_iff] at hc
  simpa [hc] using hlast

theorem trimEnd_eq_self (h : NoBlankEnd cs) : trimEnd cs = cs := by
  rcases List.eq_nil_or_concat' cs with rfl | ⟨cs, d, rfl⟩
  · rfl
  · rw [trimEnd, dropEndWhile_append_singleton, noBlankEnd_append_singleton.1 h]
    rfl

theorem trimEnd_isPrefix (cs : List Char) : trimEnd cs <+: cs :=
  List.rdropWhile_prefix isBlank cs

/-- Blanks behind a text are cut. -/
theorem trimEnd_append_blanks {after : List Char} (h : ∀ c ∈ after, isBlank c = true) (cs : List Char) :
    trimEnd (cs ++ after) = trimEnd cs := by
  rw [trimEnd, dropEndWhile, List.reverse_append,
    List.dropWhile_append_of_pos fun c hc => h c (List.mem_reverse.1 hc), ← dropEndWhile, ← trimEnd]

/-- What is cut at the end are blanks. -/
theorem exists_trimEnd_append (cs : List Char) :
    ∃ blanks, (∀ c ∈ blanks, isBlank c = true) ∧ cs = trimEnd cs ++ blanks := by
  refine ⟨(cs.reverse.takeWhile isBlank).reverse, fun c hc => ?_, ?_⟩
  · exact List.mem_takeWhile_imp (List.mem_reverse.1 hc)
  · rw [trimEnd, dropEndWhile, ← List.reverse_append, List.takeWhile_append_dropWhile, List.reverse_reverse]

/-! ## Cutting both ends -/

theorem noBlankStart_trim (cs : List Char) : NoBlankStart (trim cs) :=
  (noBlankStart_trimStart cs).of_isPrefix (trimEnd_isPrefix _)

theorem noBlankEnd_trim (cs : List Char) : NoBlankEnd (trim cs) :=
  noBlankEnd_trimEnd _

/-- **A text is trimmed iff no blank stands at either end of it.** -/
theorem trim_eq_self_iff : trim cs = cs ↔ NoBlankStart cs ∧ NoBlankEnd cs := by
  constructor
  · intro h
    rw [← h]
    exact ⟨noBlankStart_trim cs, noBlankEnd_trim cs⟩
  · rintro ⟨hs, he⟩
    rw [trim, trimStart_eq_self hs, trimEnd_eq_self he]

/-- **What trimming leaves is trimmed.** -/
@[simp] theorem trim_trim (cs : List Char) : trim (trim cs) = trim cs :=
  trim_eq_self_iff.2 ⟨noBlankStart_trim cs, noBlankEnd_trim cs⟩

/-- A trimmed text stays trimmed when its start and the blanks after it are cut off. -/
theorem trim_trimStart_of_isSuffix (h : NoBlankEnd ds) (s : cs <:+ ds) :
    trim (trimStart cs) = trimStart cs :=
  trim_eq_self_iff.2
    ⟨noBlankStart_trimStart cs, h.of_isSuffix ((trimStart_isSuffix cs).trans s)⟩

/-- **Blanks around a text are cut.** -/
theorem trim_append_blanks {before after : List Char} (hbefore : ∀ c ∈ before, isBlank c = true)
    (hafter : ∀ c ∈ after, isBlank c = true) : trim (before ++ (cs ++ after)) = trim cs := by
  have hstart : trimStart (before ++ (cs ++ after)) = trimStart (cs ++ after) :=
    List.dropWhile_append_of_pos hbefore
  rw [trim, hstart, trim]
  unfold trimStart
  rw [List.dropWhile_append]
  split
  · -- the text between the blanks is itself blank
    rename_i hempty
    rw [List.isEmpty_iff.1 hempty, List.dropWhile_eq_nil_iff.2 hafter]
  · exact trimEnd_append_blanks hafter _

theorem mem_of_mem_trim (h : c ∈ trim cs) : c ∈ cs :=
  (trimStart_isSuffix cs).subset ((trimEnd_isPrefix _).subset h)

end Columnar.Text
