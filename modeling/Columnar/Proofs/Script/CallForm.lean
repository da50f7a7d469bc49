import Columnar.Proofs.Text.Splitting
import Columnar.Script.Line
import Mathlib.Tactic.SplitIfs

/-!
# The shape of a call

A call is written as any number of result handles, each with a comma or, the last one, an equals sign after
it, then a name in lower-case letters, then anything in parentheses. Spaces may stand around the commas
between the handles and around the equals sign. `IsFront` and `IsWritten` say this without a reader, and
for any number of handles. A reader takes at most two, so a text is read as a call iff it is written as one
with at most two handles, and then its arguments are what stands between the commas of the body
(`recognise_eq_some_iff`).

## Two halves

* **Reading what is written**: each reader takes the run that was put down, because the character after
  the run (a space, `,`, `=` or `(`) cannot belong to it — `takeHandle_append`, `skipSeparator_append`,
  `takeOuts_front`, `takeApplication_append`, put together in `recognise_of_isWritten`.
* **What is read is written**: each reader leaves the rest of its input behind what it took —
  `takeHandle_eq_some`, `skipSeparator_eq_some`, `takeOuts_eq_some`, `takeApplication_eq_some`.

A call that is *well-formed*, with arguments as a reader returns them, is read back from its text
(`recognise_chars`), and every call that is read is well-formed (`wellFormed_of_recognise`).
-/

namespace Columnar

open Text (isSpace splitOn trim)

/-! ## Runs of characters -/

namespace Text

variable {α : Type} {p : α → Bool} {run rest : List α}

/-- A run ends before a character outside of it. -/
theorem takeWhile_append_stop (hrun : ∀ a ∈ run, p a = true) (hrest : ∀ a ∈ rest.head?, p a = false) :
    (run ++ rest).takeWhile p = run := by
  rw [List.takeWhile_append_of_pos hrun]
  cases rest with
  | nil => simp
  | cons a rest => rw [List.takeWhile_cons_of_neg (by simp [hrest a rfl]), List.append_nil]

theorem dropWhile_append_stop (hrun : ∀ a ∈ run, p a = true) (hrest : ∀ a ∈ rest.head?, p a = false) :
    (run ++ rest).dropWhile p = rest := by
  rw [List.dropWhile_append_of_pos hrun]
  cases rest with
  | nil => rfl
  | cons a rest => rw [List.dropWhile_cons_of_neg (by simp [hrest a rfl])]

/-- Spaces alone. -/
def IsSpaces (cs : List Char) : Prop :=
  ∀ c ∈ cs, isSpace c = true

theorem isSpaces_nil : IsSpaces [] := by
  simp [IsSpaces]

/-- What follows spaces, if they are followed by a character that is none. -/
theorem dropWhile_spaces {spaces rest : List Char} (hspaces : IsSpaces spaces)
    (hrest : ∀ c ∈ rest.head?, isSpace c = false) : (spaces ++ rest).dropWhile isSpace = rest :=
  dropWhile_append_stop hspaces hrest

end Text

open Text (IsSpaces)

namespace Call

/-! ## Handles -/

/-- A letter or underscore, followed by letters, digits and underscores. -/
def IsHandle : List Char → Prop
  | [] => False
  | c :: cs => isHandleStart c = true ∧ ∀ d ∈ cs, isHandleChar d = true

instance : DecidablePred IsHandle
  | [] => inferInstanceAs (Decidable False)
  | c :: cs =>
    -- Named, since a search could also find the instance that runs through every character there is.
    have := List.decidableBAll (fun d => isHandleChar d = true) cs
    inferInstanceAs (Decidable (isHandleStart c = true ∧ ∀ d ∈ cs, isHandleChar d = true))

variable {h name cs ds rest before after : List Char} {d : Char}

theorem isHandleChar_of_isHandleStart (h : isHandleStart d = true) : isHandleChar d = true := by
  simp only [isHandleStart, isHandleChar, Char.isAlphanum, Bool.or_eq_true] at h ⊢
  tauto

theorem isHandleStart_of_isLower (h : d.isLower = true) : isHandleStart d = true := by
  rw [isHandleStart, Bool.or_eq_true]
  exact Or.inl (Bool.or_eq_true_iff.2 (Or.inr h))

theorem isHandleChar_of_mem (hh : IsHandle h) (hd : d ∈ h) : isHandleChar d = true := by
  cases h with
  | nil => exact absurd hh (by simp [IsHandle])
  | cons c cs =>
    rcases List.mem_cons.1 hd with rfl | hd
    · exact isHandleChar_of_isHandleStart hh.1
    · exact hh.2 d hd

/-- A name is spelled as a handle is. -/
theorem isHandle_of_isLower (hne : name ≠ []) (hname : ∀ d ∈ name, d.isLower = true) : IsHandle name := by
  obtain ⟨c, cs, rfl⟩ := List.exists_cons_of_ne_nil hne
  exact ⟨isHandleStart_of_isLower (hname c (by simp)), fun d hd =>
    isHandleChar_of_isHandleStart (isHandleStart_of_isLower (hname d (List.mem_cons_of_mem c hd)))⟩

/-- A character of a handle is an ASCII letter, digit or underscore, so it is no blank. -/
theorem not_isBlank_of_isHandleChar (h : isHandleChar d = true) : Text.isBlank d = false := by
  have hn : (48 ≤ d.toNat ∧ d.toNat ≤ 57) ∨ (65 ≤ d.toNat ∧ d.toNat ≤ 90) ∨
      (97 ≤ d.toNat ∧ d.toNat ≤ 122) ∨ d.toNat = 95 := by
    unfold isHandleChar Char.isAlphanum Char.isAlpha Char.isUpper Char.isLower Char.isDigit at h
    simp only [Bool.or_eq_true, Bool.and_eq_true, decide_eq_true_eq, ge_iff_le, UInt32.le_iff_toNat_le,
      beq_iff_eq] at h
    rcases h with ((h | h) | h) | rfl
    · exact Or.inr (Or.inl h)
    · exact Or.inr (Or.inr (Or.inl h))
    · exact Or.inl h
    · exact Or.inr (Or.inr (Or.inr rfl))
  simp only [Text.isBlank, Bool.or_eq_false_iff, Bool.and_eq_false_iff, decide_eq_false_iff_not,
    beq_eq_false_iff_ne]
  omega

theorem not_isHandleChar_of_isSpace (h : isSpace d = true) : isHandleChar d = false :=
  Bool.eq_false_iff.2 fun hd => by
    have hblank := not_isBlank_of_isHandleChar hd
    simp [Text.isBlank_of_isSpace h] at hblank

/-- What begins with a handle does not begin with a space. -/
theorem not_isSpace_head (hh : IsHandle h) (rest : List Char) : ∀ e ∈ (h ++ rest).head?, isSpace e = false := by
  cases h with
  | nil => exact absurd hh (by simp [IsHandle])
  | cons c cs =>
    intro e he
    obtain rfl : c = e := by simpa using he
    have hchar := isHandleChar_of_mem hh (List.mem_cons_self ..)
    exact Bool.eq_false_iff.2 fun hs => by simp [not_isHandleChar_of_isSpace hs] at hchar

/-- After a handle, spaces and a separator end it. -/
theorem not_isHandleChar_head (hbefore : IsSpaces before) (hd : isHandleChar d = false) (rest : List Char) :
    ∀ e ∈ (before ++ d :: rest).head?, isHandleChar e = false := by
  cases before with
  | nil => simpa using hd
  | cons c cs => simpa using not_isHandleChar_of_isSpace (hbefore c (by simp))

/-! ## Written calls -/

/-- The text in front of a name: result handles with a comma after each but the last one, and an equals sign
after that. Spaces may stand around the commas and the equals sign. -/
inductive IsFront : (outs : List (List Char)) → (front : List Char) → Prop
  | none : IsFront [] []
  | last {h before after : List Char} (hh : IsHandle h) (hbefore : IsSpaces before) (hafter : IsSpaces after) :
    IsFront [h] (h ++ (before ++ '=' :: after))
  | cons {h before after front : List Char} {outs : List (List Char)} (hh : IsHandle h)
    (hbefore : IsSpaces before) (hafter : IsSpaces after) (hne : outs ≠ []) (hfront : IsFront outs front) :
    IsFront (h :: outs) (h ++ (before ++ ',' :: (after ++ front)))

/-- A text that is written as a call: result handles, a name, and a body in parentheses. -/
structure IsWritten (outs : List (List Char)) (name body cs : List Char) : Prop where
  front : ∃ front, IsFront outs front ∧ cs = front ++ (name ++ '(' :: (body ++ [')']))
  name_ne_nil : name ≠ []
  name : ∀ d ∈ name, d.isLower = true

/-- A call made of parts that a reader can return. -/
structure WellFormed (c : Call) : Prop where
  length_outs : c.outs.length ≤ 2
  outs : ∀ h ∈ c.outs, IsHandle h
  name_ne_nil : c.name ≠ []
  name : ∀ d ∈ c.name, d.isLower = true
  args_ne_nil : c.args ≠ []
  args : ∀ a ∈ c.args, ',' ∉ a ∧ trim a = a

variable {body front : List Char} {outs args : List (List Char)} {c : Call}

/-- A front starts with its first handle. -/
theorem IsFront.exists_handle (hfront : IsFront outs front) (hne : outs ≠ []) :
    ∃ h tail, IsHandle h ∧ front = h ++ tail := by
  cases hfront with
  | none => exact absurd rfl hne
  | last hh => exact ⟨_, _, hh, rfl⟩
  | cons hh => exact ⟨_, _, hh, rfl⟩

theorem IsFront.isHandle (hfront : IsFront outs front) : ∀ o ∈ outs, IsHandle o ∧ o ⊆ front := by
  induction hfront with
  | none => simp
  | last hh => simpa using hh
  | cons hh _ _ _ _ ih =>
    intro o ho
    rcases List.mem_cons.1 ho with rfl | ho
    · exact ⟨hh, List.subset_append_left _ _⟩
    · exact ⟨(ih o ho).1, fun d hd => by simp [(ih o ho).2 hd]⟩

/-- The text of a call starts with a handle or a name, which is spelled as a handle is. -/
theorem IsWritten.exists_cons (hw : IsWritten outs name body cs) :
    ∃ d ds, cs = d :: ds ∧ isHandleChar d = true := by
  obtain ⟨⟨front, hfront, rfl⟩, hne, hname⟩ := hw
  obtain ⟨h, tail, hh, htext⟩ : ∃ h tail, IsHandle h ∧ front ++ (name ++ '(' :: (body ++ [')'])) = h ++ tail := by
    by_cases houts : outs = []
    · subst houts
      cases hfront
      exact ⟨name, _, isHandle_of_isLower hne hname, rfl⟩
    · obtain ⟨h, tail, hh, rfl⟩ := hfront.exists_handle houts
      exact ⟨h, _, hh, List.append_assoc ..⟩
  obtain ⟨d, ds, rfl⟩ : ∃ d ds, h = d :: ds := List.exists_cons_of_ne_nil (by rintro rfl; exact hh)
  exact ⟨d, ds ++ tail, htext, isHandleChar_of_mem hh (by simp)⟩

/-- It has no blanks around it. -/
theorem IsWritten.trim_eq (hw : IsWritten outs name body cs) : trim cs = cs := by
  obtain ⟨d, ds, hcs, hd⟩ := hw.exists_cons
  obtain ⟨front, -, hend⟩ := hw.front
  refine Text.trim_eq_self_iff.2 ⟨?_, ?_⟩
  · rw [hcs]
    exact Text.noBlankStart_cons.2 (not_isBlank_of_isHandleChar hd)
  · have hlast : cs = (front ++ (name ++ '(' :: body)) ++ [')'] := by simp [hend]
    rw [hlast]
    exact Text.noBlankEnd_append_singleton.2 (by decide)

/-! ## Reading what is written -/

theorem takeHandle_append (hh : IsHandle h) (hrest : ∀ d ∈ rest.head?, isHandleChar d = false) :
    takeHandle (h ++ rest) = some (h, rest) := by
  cases h with
  | nil => exact absurd hh (by simp [IsHandle])
  | cons c cs =>
    rw [List.cons_append, takeHandle, if_pos hh.1, Text.takeWhile_append_stop hh.2 hrest,
      Text.dropWhile_append_stop hh.2 hrest]

/-- A separator is skipped with the spaces around it. -/
theorem skipSeparator_append (hbefore : IsSpaces before) (hafter : IsSpaces after) (hd : isSpace d = false)
    (hrest : ∀ e ∈ rest.head?, isSpace e = false) :
    skipSeparator d (before ++ d :: (after ++ rest)) = some rest := by
  rw [skipSeparator, Text.dropWhile_spaces hbefore (by simpa using hd)]
  simp only [if_true, Text.dropWhile_spaces hafter hrest]

/-- Another character is not skipped. -/
theorem skipSeparator_of_ne {e : Char} (hbefore : IsSpaces before) (he : isSpace e = false) (hne : e ≠ d) :
    skipSeparator d (before ++ e :: rest) = none := by
  rw [skipSeparator, Text.dropWhile_spaces hbefore (by simpa using he)]
  exact if_neg hne

/-- One handle, with an equals sign after it. -/
theorem takeOuts_last (hh : IsHandle h) (hbefore : IsSpaces before) (hafter : IsSpaces after)
    (hrest : ∀ d ∈ rest.head?, isSpace d = false) :
    takeOuts (h ++ (before ++ '=' :: (after ++ rest))) = some ([h], rest) := by
  rw [takeOuts, takeHandle_append hh (not_isHandleChar_head hbefore (by decide) _)]
  simp only [Option.bind_eq_bind, Option.bind_some, skipSeparator_of_ne hbefore (e := '=') (d := ',') rfl (by decide),
    skipSeparator_append hbefore hafter (d := '=') rfl hrest]
  rfl

/-- Two handles with a comma between them, where an equals sign has to follow. -/
theorem takeOuts_pair {h' : List Char} (hh : IsHandle h) (hbefore : IsSpaces before) (hafter : IsSpaces after)
    (hh' : IsHandle h') (hrest : ∀ d ∈ rest.head?, isHandleChar d = false) :
    takeOuts (h ++ (before ++ ',' :: (after ++ (h' ++ rest)))) =
      (skipSeparator '=' rest).map fun rest => ([h, h'], rest) := by
  rw [takeOuts, takeHandle_append hh (not_isHandleChar_head hbefore (by decide) _)]
  simp only [Option.bind_eq_bind, Option.bind_some, takeHandle_append hh' hrest,
    skipSeparator_append hbefore hafter (d := ',') rfl (not_isSpace_head hh' rest)]
  cases skipSeparator '=' rest <;> rfl

/-- **Result handles are read up to the equals sign**, if there are at most two. -/
theorem takeOuts_front (hfront : IsFront outs front) (hne : outs ≠ [])
    (hrest : ∀ d ∈ rest.head?, isSpace d = false) :
    takeOuts (front ++ rest) = if outs.length ≤ 2 then some (outs, rest) else none := by
  cases hfront with
  | none => exact absurd rfl hne
  | last hh hbefore hafter =>
    simp only [List.append_assoc, List.cons_append]
    exact takeOuts_last hh hbefore hafter hrest
  | cons hh hbefore hafter hmore hfront =>
    cases hfront with
    | none => exact absurd rfl hmore
    | last hh' hbefore' hafter' =>
      simp only [List.append_assoc, List.cons_append]
      rw [takeOuts_pair hh hbefore hafter hh' (not_isHandleChar_head hbefore' (by decide) _),
        skipSeparator_append hbefore' hafter' rfl hrest]
      rfl
    | cons hh' hbefore' hafter' hne' hfront' =>
      -- after the second handle stands a comma, and no equals sign
      have hlength := List.length_pos_iff.2 hne'
      simp only [List.append_assoc, List.cons_append]
      rw [takeOuts_pair hh hbefore hafter hh' (not_isHandleChar_head hbefore' (by decide) _),
        skipSeparator_of_ne hbefore' rfl (by decide), if_neg (by simp; omega)]
      rfl

/-- A name with a parenthesis after it holds no result handles. -/
theorem takeOuts_name (hne : name ≠ []) (hname : ∀ d ∈ name, d.isLower = true) :
    takeOuts (name ++ '(' :: rest) = none := by
  rw [takeOuts, takeHandle_append (isHandle_of_isLower hne hname) (by simp [isHandleChar])]
  rfl

theorem takeApplication_append (hne : name ≠ []) (hname : ∀ d ∈ name, d.isLower = true) (body : List Char) :
    takeApplication (name ++ '(' :: (body ++ [')'])) = some (name, (splitOn ',' body).map trim) := by
  have stop : ∀ d ∈ ('(' :: (body ++ [')'])).head?, d.isLower = false := by simp
  rw [takeApplication, Text.takeWhile_append_stop hname stop, Text.dropWhile_append_stop hname stop,
    List.isEmpty_eq_false_iff.2 hne]
  simp

theorem takeApplication_eq_some (h : takeApplication cs = some (name, args)) :
    name ≠ [] ∧ (∀ d ∈ name, d.isLower = true) ∧
      ∃ body, args = (splitOn ',' body).map trim ∧ cs = name ++ '(' :: (body ++ [')']) := by
  rw [takeApplication] at h
  split at h
  · rename_i rest hempty hrest
    split at h
    · rename_i hlast
      obtain ⟨rfl, rfl⟩ : cs.takeWhile Char.isLower = name ∧ (splitOn ',' rest.dropLast).map trim = args := by
        simpa using h
      refine ⟨List.isEmpty_eq_false_iff.1 hempty, fun d hd => List.mem_takeWhile_imp hd, rest.dropLast, rfl, ?_⟩
      rw [List.dropLast_append_getLast? _ hlast, ← hrest, List.takeWhile_append_dropWhile]
    · simp at h
  · simp at h

/-- A text that starts with a handle and a comma is no application. -/
theorem takeApplication_handle (hh : IsHandle h) (hbefore : IsSpaces before) (rest : List Char) :
    takeApplication (h ++ (before ++ ',' :: rest)) = none := by
  cases happ : takeApplication (h ++ (before ++ ',' :: rest)) with
  | none => rfl
  | some application =>
    -- its name would be the handle, so a parenthesis would stand where the comma or a space stands
    obtain ⟨hne, hname, body, -, hcs⟩ := takeApplication_eq_some happ
    have htake := takeHandle_append hh (not_isHandleChar_head hbefore (d := ',') (by decide) rest)
    rw [hcs, takeHandle_append (isHandle_of_isLower hne hname) (by simp [isHandleChar])] at htake
    obtain ⟨-, htail⟩ := Prod.mk.inj (Option.some.inj htake)
    cases before with
    | nil => simp at htail
    | cons c cs =>
      obtain rfl : '(' = c := (List.cons.inj htail).1
      exact absurd (hbefore '(' (by simp)) (by decide)

/-- **A written call is read**, if it has at most two result handles. -/
theorem recognise_of_isWritten (hcs : IsWritten outs name body cs) :
    recognise cs = if outs.length ≤ 2 then some ⟨outs, name, (splitOn ',' body).map trim⟩ else none := by
  obtain ⟨⟨front, hfront, rfl⟩, hne, hname⟩ := hcs
  by_cases houts : outs = []
  · subst houts
    cases hfront with
    | none =>
      rw [recognise, List.nil_append, takeOuts_name hne hname]
      simp only [takeApplication_append hne hname, Option.map_some]
      rfl
  · -- the spaces after an equals sign are skipped, so the name must not begin with one
    have hstart := not_isSpace_head (isHandle_of_isLower hne hname) ('(' :: (body ++ [')']))
    rw [recognise, takeOuts_front hfront houts hstart]
    by_cases hlength : outs.length ≤ 2
    · simp only [if_pos hlength, takeApplication_append hne hname, Option.map_some]
    · rw [if_neg hlength, if_neg hlength]
      cases hfront with
      | none => exact absurd rfl houts
      | last => exact absurd (by simp) hlength
      | cons hh hbefore =>
        simp only [List.append_assoc, List.cons_append, takeApplication_handle hh hbefore, Option.map_none]

/-! ## What is read is written -/

theorem takeHandle_eq_some (h : takeHandle cs = some (ds, rest)) : IsHandle ds ∧ cs = ds ++ rest := by
  cases cs with
  | nil => simp [takeHandle] at h
  | cons c cs =>
    rw [takeHandle] at h
    split at h
    · rename_i hc
      obtain ⟨rfl, rfl⟩ : c :: cs.takeWhile isHandleChar = ds ∧ cs.dropWhile isHandleChar = rest := by
        simpa using h
      exact ⟨⟨hc, fun d hd => List.mem_takeWhile_imp hd⟩, by simp⟩
    · simp at h

/-- What a reader of spaces goes past. -/
theorem exists_spaces (cs : List Char) : ∃ spaces, IsSpaces spaces ∧ cs = spaces ++ cs.dropWhile isSpace :=
  ⟨cs.takeWhile isSpace, fun _ hc => List.mem_takeWhile_imp hc, List.takeWhile_append_dropWhile.symm⟩

theorem skipSeparator_eq_some (h : skipSeparator d cs = some rest) :
    ∃ before after, IsSpaces before ∧ IsSpaces after ∧ cs = before ++ d :: (after ++ rest) := by
  obtain ⟨before, hbefore, hcs⟩ := exists_spaces cs
  rw [skipSeparator] at h
  split at h
  · rename_i c tail htail
    split_ifs at h with hc
    obtain rfl : tail.dropWhile isSpace = rest := by simpa using h
    obtain ⟨after, hafter, hrest⟩ := exists_spaces tail
    exact ⟨before, after, hbefore, hafter, by rw [hcs, htail, hc, ← hrest]⟩
  · simp at h

/-- What is read in front of an application: one or two handles. -/
theorem takeOuts_eq_some (h : takeOuts cs = some (outs, rest)) :
    outs.length ≤ 2 ∧ ∃ front, IsFront outs front ∧ cs = front ++ rest := by
  rw [takeOuts, Option.bind_eq_bind, Option.bind_eq_some_iff] at h
  obtain ⟨⟨first, afterFirst⟩, hfirst, h⟩ := h
  obtain ⟨hf, rfl⟩ := takeHandle_eq_some hfirst
  simp only at h
  split at h
  · rw [Option.bind_eq_bind, Option.bind_eq_some_iff] at h
    obtain ⟨tail, htail, h⟩ := h
    obtain ⟨rfl, rfl⟩ : [first] = outs ∧ tail = rest := by simpa using h
    obtain ⟨before, after, hbefore, hafter, rfl⟩ := skipSeparator_eq_some htail
    exact ⟨by simp, _, .last hf hbefore hafter, by simp⟩
  · rename_i start hcomma
    obtain ⟨before, after, hbefore, hafter, rfl⟩ := skipSeparator_eq_some hcomma
    rw [Option.bind_eq_bind, Option.bind_eq_some_iff] at h
    obtain ⟨⟨second, afterSecond⟩, hsecond, h⟩ := h
    obtain ⟨hs, rfl⟩ := takeHandle_eq_some hsecond
    simp only at h
    rw [Option.bind_eq_some_iff] at h
    obtain ⟨tail, htail, h⟩ := h
    obtain ⟨rfl, rfl⟩ : [first, second] = outs ∧ tail = rest := by simpa using h
    obtain ⟨before', after', hbefore', hafter', rfl⟩ := skipSeparator_eq_some htail
    exact ⟨by simp, _, .cons hf hbefore hafter (by simp) (.last hs hbefore' hafter'), by simp⟩

/-- **A text is read as a call iff it is written as one** with at most two result handles. -/
theorem recognise_eq_some_iff :
    recognise cs = some c ↔ c.outs.length ≤ 2 ∧
      ∃ body, IsWritten c.outs c.name body cs ∧ c.args = (splitOn ',' body).map trim := by
  constructor
  · intro h
    rw [recognise] at h
    split at h
    · rename_i outs rest houts
      rw [Option.map_eq_some_iff] at h
      obtain ⟨⟨name, args⟩, happ, rfl⟩ := h
      obtain ⟨hlength, front, hfront, rfl⟩ := takeOuts_eq_some houts
      obtain ⟨hne, hname, body, hargs, rfl⟩ := takeApplication_eq_some happ
      exact ⟨hlength, body, ⟨⟨front, hfront, rfl⟩, hne, hname⟩, hargs⟩
    · rw [Option.map_eq_some_iff] at h
      obtain ⟨⟨name, args⟩, happ, rfl⟩ := h
      obtain ⟨hne, hname, body, hargs, rfl⟩ := takeApplication_eq_some happ
      exact ⟨by simp, body, ⟨⟨[], .none, rfl⟩, hne, hname⟩, hargs⟩
  · rintro ⟨hlength, body, hcs, hargs⟩
    rw [recognise_of_isWritten hcs, if_pos hlength, ← hargs]

/-! ## Well-formed calls -/

/-- Handles that are joined with one text around every comma. -/
theorem isFront_intercalate {before' after' : List Char} (houts : ∀ o ∈ outs, IsHandle o) (hne : outs ≠ [])
    (hbefore : IsSpaces before) (hafter : IsSpaces after) (hbefore' : IsSpaces before') (hafter' : IsSpaces after') :
    IsFront outs (List.intercalate (before ++ ',' :: after) outs ++ (before' ++ '=' :: after')) := by
  induction outs with
  | nil => exact absurd rfl hne
  | cons o os ih =>
    obtain ⟨ho, hos⟩ := List.forall_mem_cons.1 houts
    cases os with
    | nil =>
      rw [List.intercalate_singleton]
      exact .last ho hbefore' hafter'
    | cons p ps =>
      rw [List.intercalate_cons_cons]
      simpa using IsFront.cons ho hbefore hafter (List.cons_ne_nil p ps) (ih hos (by simp))

/-- A well-formed call is read from a text whose body holds its arguments, each with any blanks around it. -/
theorem recognise_of_pieces {pieces : List (List Char)} (hc : c.WellFormed)
    (hw : IsWritten c.outs c.name (List.intercalate [','] pieces) cs) (hcomma : ∀ p ∈ pieces, ',' ∉ p)
    (htrim : pieces.map trim = c.args) : recognise cs = some c := by
  have hne : pieces ≠ [] := by
    rintro rfl
    exact hc.args_ne_nil htrim.symm
  refine recognise_eq_some_iff.2 ⟨hc.length_outs, _, hw, ?_⟩
  rw [Text.splitOn_intercalate hne hcomma, htrim]

theorem isWritten_chars (hc : c.WellFormed) :
    IsWritten c.outs c.name (List.intercalate [','] c.args) c.chars := by
  refine ⟨⟨_, ?_, by rw [chars, List.append_assoc]⟩, hc.name_ne_nil, hc.name⟩
  cases houts : c.outs with
  | nil => exact .none
  | cons o os =>
    have hne : c.outs ≠ [] := by simp [houts]
    rw [← houts, List.isEmpty_eq_false_iff.2 hne]
    exact isFront_intercalate hc.outs hne Text.isSpaces_nil Text.isSpaces_nil Text.isSpaces_nil Text.isSpaces_nil

/-- **A well-formed call is read back from its text.** -/
theorem recognise_chars (hc : c.WellFormed) : recognise c.chars = some c := by
  refine recognise_of_pieces hc (isWritten_chars hc) (fun a ha => (hc.args a ha).1) ?_
  conv_rhs => rw [← List.map_id c.args]
  exact List.map_congr_left fun a ha => (hc.args a ha).2

/-- **Every call that is read is well-formed, and made of characters of the text.** -/
theorem wellFormed_of_recognise (h : recognise cs = some c) :
    c.WellFormed ∧ ∀ t ∈ c.outs ++ c.args, t ⊆ cs := by
  obtain ⟨hlength, body, ⟨⟨front, hfront, rfl⟩, hne, hname⟩, hargs⟩ := recognise_eq_some_iff.1 h
  have harg : ∀ a ∈ c.args, (',' ∉ a ∧ trim a = a) ∧ a ⊆ body := by
    intro a ha
    rw [hargs] at ha
    obtain ⟨piece, hpiece, rfl⟩ := List.mem_map.1 ha
    exact ⟨⟨fun hm => Text.not_mem_of_mem_splitOn hpiece (Text.mem_of_mem_trim hm), Text.trim_trim piece⟩,
      fun d hd => Text.mem_of_mem_splitOn hpiece (Text.mem_of_mem_trim hd)⟩
  refine ⟨⟨hlength, fun o ho => (hfront.isHandle o ho).1, hne, hname, ?_, fun a ha => (harg a ha).1⟩, ?_⟩
  · rw [hargs]
    simpa using Text.splitOn_ne_nil ',' body
  · intro t ht d hd
    rcases List.mem_append.1 ht with ht | ht
    · exact List.mem_append_left _ ((hfront.isHandle t ht).2 hd)
    · simp [(harg t ht).2 hd]

end Call

end Columnar
