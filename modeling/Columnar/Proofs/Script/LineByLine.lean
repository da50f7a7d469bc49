import Columnar.Proofs.Results
import Columnar.Proofs.Text.Splitting
import Columnar.Script.Parser

/-!
# Scripts parsed line by line

Every line of a text can be parsed as a text of its own. What the text is parsed as is put together from
that alone: no line is read differently because of the lines around it, and a line that is refused is
refused for the same reason, under its number among all lines, whether these are blank, comments or calls.

A line holds no line feed, so as a text it is one line or, if it is empty, none (`parse_ofList`). Reading
lines from any first number on is then one induction for the scripts that are accepted
(`ofLines_eq_ok_iff`) and one for the errors (`ofLines_eq_error_iff`).

* `Script.IsFirstError` — the first error among results in a row
* `Script.parse_outcomes` — **parsing is line by line**
-/

namespace Columnar.Script

open Text (lines)

variable {s : Script} {e : ParseError} {cause : LineError} {line : List Char} {ls : List (List Char)}
  {results : List (Except ParseError Script)} {k number : Nat}

/-! ## One line -/

/-- A line on its own is parsed as its operation, if it has one. -/
theorem parse_ofList (h : '\n' ∉ line) :
    parse (String.ofList line) = ((Op.parseLine line).map Option.toList).mapError (ParseError.mk 1) := by
  rw [parse, String.toList_ofList, parseChars]
  by_cases hne : line = []
  · subst hne
    rfl
  · rw [Text.lines_of_not_mem h hne, ofLines]
    cases Op.parseLine line with
    | error cause => rfl
    | ok op => exact congrArg Except.ok (List.append_nil _)

theorem length_le_one_of_parse (h : '\n' ∉ line) (hs : parse (String.ofList line) = .ok s) : s.length ≤ 1 := by
  rw [parse_ofList h, Except.mapError_eq_ok_iff] at hs
  obtain ⟨op, -, rfl⟩ := Except.map_eq_ok_iff.1 hs
  cases op <;> simp

/-! ## The first error -/

/-- Whether the result at a position is an error on the only line of its text, and all results before it are
scripts. -/
def IsFirstError (results : List (Except ParseError Script)) (k : Nat) (cause : LineError) : Prop :=
  results[k]? = some (.error ⟨1, cause⟩) ∧ ∀ j < k, ∃ s, results[j]? = some (.ok s)

theorem isFirstError_cons_error {cause' : LineError} :
    IsFirstError (.error ⟨1, cause⟩ :: results) k cause' ↔ k = 0 ∧ cause = cause' := by
  cases k with
  | zero => simp [IsFirstError]
  | succ k =>
    refine iff_of_false (fun h => ?_) (by simp)
    obtain ⟨s, hs⟩ := h.2 0 (Nat.succ_pos k)
    simp at hs

theorem isFirstError_cons_ok :
    IsFirstError (.ok s :: results) k cause ↔ ∃ k', k = k' + 1 ∧ IsFirstError results k' cause := by
  cases k with
  | zero => simp [IsFirstError]
  | succ k =>
    simp only [IsFirstError, List.getElem?_cons_succ, Nat.add_right_cancel_iff, exists_eq_left', and_congr_right_iff]
    intro _
    constructor
    · exact fun h j hj => h (j + 1) (Nat.succ_lt_succ hj)
    · intro h j hj
      cases j with
      | zero => exact ⟨s, rfl⟩
      | succ j => exact h j (Nat.lt_of_succ_lt_succ hj)

/-! ## All lines -/

/-- What the lines of a text are parsed as, each as a text of its own. -/
def parseEach (ls : List (List Char)) : List (Except ParseError Script) :=
  ls.map fun line => parse (String.ofList line)

/-- **Lines are accepted iff each of them is, and then their scripts follow one another.** -/
theorem ofLines_eq_ok_iff (h : ∀ l ∈ ls, '\n' ∉ l) :
    ofLines number ls = .ok s ↔ ∃ parts : List Script, parseEach ls = parts.map .ok ∧ s = parts.flatten := by
  induction ls generalizing number s with
  | nil => simp [ofLines, parseEach, eq_comm]
  | cons l ls ih =>
    obtain ⟨hl, hls⟩ := List.forall_mem_cons.1 h
    rw [ofLines, parseEach, List.map_cons, ← parseEach, parse_ofList hl]
    cases Op.parseLine l with
    | error cause =>
      refine iff_of_false (fun h => by cases h) ?_
      rintro ⟨_ | ⟨part, parts⟩, hparts, -⟩
      · cases hparts
      · cases (List.cons.inj hparts).1
    | ok op =>
      show (ofLines (number + 1) ls).map (op.toList ++ ·) = .ok s ↔
        ∃ parts : List Script, .ok op.toList :: parseEach ls = parts.map .ok ∧ s = parts.flatten
      rw [Except.map_eq_ok_iff]
      constructor
      · rintro ⟨rest, hrest, rfl⟩
        obtain ⟨parts, hparts, rfl⟩ := (ih hls).1 hrest
        exact ⟨op.toList :: parts, by rw [hparts, List.map_cons], rfl⟩
      · rintro ⟨_ | ⟨part, parts⟩, hparts, rfl⟩
        · cases hparts
        · obtain ⟨hpart, htail⟩ := List.cons.inj hparts
          obtain rfl : op.toList = part := Except.ok.inj hpart
          exact ⟨parts.flatten, (ih hls).2 ⟨parts, htail, rfl⟩, rfl⟩

/-- **Lines are refused for the first line that is, under its number.** -/
theorem ofLines_eq_error_iff (h : ∀ l ∈ ls, '\n' ∉ l) :
    ofLines number ls = .error e ↔ ∃ k, e.line = number + k ∧ IsFirstError (parseEach ls) k e.cause := by
  induction ls generalizing number with
  | nil => simp [ofLines, parseEach, IsFirstError]
  | cons l ls ih =>
    obtain ⟨hl, hls⟩ := List.forall_mem_cons.1 h
    rw [ofLines, parseEach, List.map_cons, ← parseEach, parse_ofList hl]
    cases Op.parseLine l with
    | error cause =>
      show Except.error (ParseError.mk number cause) = .error e ↔
        ∃ k, e.line = number + k ∧ IsFirstError (.error ⟨1, cause⟩ :: parseEach ls) k e.cause
      simp only [isFirstError_cons_error]
      constructor
      · rintro ⟨⟩
        exact ⟨0, rfl, rfl, rfl⟩
      · rintro ⟨_, hline, rfl, rfl⟩
        obtain ⟨number', cause⟩ := e
        obtain rfl : number' = number := hline
        rfl
    | ok op =>
      show (ofLines (number + 1) ls).map (op.toList ++ ·) = .error e ↔
        ∃ k, e.line = number + k ∧ IsFirstError (.ok op.toList :: parseEach ls) k e.cause
      have htail : (ofLines (number + 1) ls).map (op.toList ++ ·) = .error e ↔
          ofLines (number + 1) ls = .error e := by
        cases ofLines (number + 1) ls <;> simp [Except.map]
      simp only [htail, ih hls, isFirstError_cons_ok]
      constructor
      · rintro ⟨k, hline, hfirst⟩
        exact ⟨k + 1, by omega, k, rfl, hfirst⟩
      · rintro ⟨_, hline, k, rfl, hfirst⟩
        exact ⟨k, by omega, hfirst⟩

/-- Every line of an accepted text is accepted, and its operations are operations of the text. -/
theorem exists_part_of_parse {text : String} (h : parse text = .ok s) (hline : line ∈ lines text.toList) :
    ∃ part : Script, parse (String.ofList line) = .ok part ∧ part ⊆ s := by
  obtain ⟨parts, hparts, rfl⟩ := (ofLines_eq_ok_iff fun l hl => Text.not_mem_of_mem_lines hl).1 h
  have hmem : parse (String.ofList line) ∈ parseEach (lines text.toList) := List.mem_map_of_mem hline
  rw [hparts] at hmem
  obtain ⟨part, hpart, hparse⟩ := List.mem_map.1 hmem
  exact ⟨part, hparse.symm, fun op hop => List.mem_flatten.2 ⟨part, hpart, hop⟩⟩

/-- **Parsing is line by line.** A text is accepted iff each of its lines is accepted on its own, and then its
script is theirs in turn, of which none has more than one operation. It is refused iff a line is refused on
its own, and then for the first such line: for the reason that this line gives alone, under its number, which
counts all lines from one. -/
theorem parse_outcomes (text : String) :
    (∀ s, parse text = .ok s ↔
      ∃ parts : List Script, parseEach (lines text.toList) = parts.map .ok ∧ s = parts.flatten) ∧
    (∀ line ∈ lines text.toList, ∀ s, parse (String.ofList line) = .ok s → s.length ≤ 1) ∧
    ∀ e, parse text = .error e ↔
      ∃ k, e.line = k + 1 ∧ IsFirstError (parseEach (lines text.toList)) k e.cause := by
  have hlines : ∀ l ∈ lines text.toList, '\n' ∉ l := fun l hl => Text.not_mem_of_mem_lines hl
  refine ⟨fun s => ofLines_eq_ok_iff hlines, fun line hline s hs => length_le_one_of_parse (hlines line hline) hs,
    fun e => ?_⟩
  rw [parse, parseChars, ofLines_eq_error_iff hlines]
  exact exists_congr fun k => by rw [Nat.add_comm]

/-- A text with line ends of both kinds, a blank line and a comment before the first line that is refused, and
another one after it. -/
def refusedText : String :=
  "s1=select(db.t.c,1,2)\r\n \n-- note\nfoo(bar)\ns1=fetch()"

/-- The first refused line is the fourth one. -/
theorem parse_refusedText :
    parse refusedText = .error ⟨4, .unknownOperation "foo"⟩ ∧
      parse "foo(bar)" = .error ⟨1, .unknownOperation "foo"⟩ := by
  have hfirst : IsFirstError (parseEach (lines refusedText.toList)) 3 (.unknownOperation "foo") := by
    refine ⟨by decide +kernel, fun j hj => ?_⟩
    match j, hj with
    | 0, _ => exact ⟨[.select "s1" (.column ⟨"db", "t", "c"⟩) (.range 1 2)], by decide +kernel⟩
    | 1, _ => exact ⟨[], by decide +kernel⟩
    | 2, _ => exact ⟨[.comment "note"], by decide +kernel⟩
  exact ⟨((parse_outcomes refusedText).2.2 _).2 ⟨3, rfl, hfirst⟩, by decide +kernel⟩

end Columnar.Script
