import Columnar.Proofs.Script.LineByLine
import Columnar.Proofs.Script.RoundTrip

/-!
# Spacing

Spaces and tabs may be put at both ends of a line, and in a call around the comma between the result
handles, around the equals sign, inside the parentheses and around every comma between the arguments. The
line is then read as the same operation. A name in quotes keeps its own blanks, and so do the parts of a
reference, since nothing is put inside an argument.

A padded call is written as a call, with the same handles and name, and its body holds the arguments with
blanks around them (`Call.isWritten_spaced`), which are cut. A padded line holds no line feed if the line
held none (`Line.noFeed_spaced`), so it is still one line of a text.

* `Line.recognise_spaced` — **a padded line is recognised as the line**
* `Op.parse_spaced_iff` — **an operation that is read back is read back with any padding**
-/

namespace Columnar

open Text (IsSpaces trim)

/-! ## Padding -/

/-- A run of spaces and tabs. -/
structure Padding where
  chars : List Char
  isPadding : ∀ c ∈ chars, c = ' ' ∨ c = '\t'

namespace Padding

/-- No padding. -/
def none : Padding := ⟨[], by simp⟩

/-- What holds of spaces and of tabs holds of all padding. -/
theorem forall_mem {P : Char → Prop} (p : Padding) (hspace : P ' ') (htab : P '\t') : ∀ c ∈ p.chars, P c := by
  intro c hc
  rcases p.isPadding c hc with rfl | rfl
  · exact hspace
  · exact htab

theorem isSpaces (p : Padding) : IsSpaces p.chars :=
  p.forall_mem rfl rfl

theorem isBlank (p : Padding) : ∀ c ∈ p.chars, Text.isBlank c = true :=
  p.forall_mem rfl rfl

theorem not_mem (p : Padding) {d : Char} (hspace : ' ' ≠ d) (htab : '\t' ≠ d) : d ∉ p.chars := by
  intro hd
  rcases p.isPadding d hd with rfl | rfl
  · exact hspace rfl
  · exact htab rfl

theorem trim_pad (p q : Padding) (cs : List Char) : trim (p.chars ++ (cs ++ q.chars)) = trim cs :=
  Text.trim_append_blanks p.isBlank q.isBlank

/-- Padding brings in no other character. -/
theorem not_mem_pad (p q : Padding) {cs : List Char} {d : Char} (hspace : ' ' ≠ d) (htab : '\t' ≠ d)
    (hd : d ∉ cs) : d ∉ p.chars ++ (cs ++ q.chars) := by
  simp [p.not_mem hspace htab, q.not_mem hspace htab, hd]

end Padding

/-- What is put into a line: at its ends, around the comma between the result handles and the equals sign of
a call, and around each argument. -/
structure Spacing where
  start : Padding
  stop : Padding
  beforeComma : Padding
  afterComma : Padding
  beforeEquals : Padding
  afterEquals : Padding
  beforeArg : Nat → Padding
  afterArg : Nat → Padding

/-- Nothing is put anywhere. -/
def Spacing.none : Spacing :=
  ⟨.none, .none, .none, .none, .none, .none, fun _ => .none, fun _ => .none⟩

/-! ## Padded calls -/

namespace Call

variable {c : Call} {w : Spacing}

/-- Result handles and an equals sign, with padding around each separator. -/
def spacedFront (w : Spacing) : List (List Char) → List Char
  | [] => []
  | o :: os =>
    List.intercalate (w.beforeComma.chars ++ ',' :: w.afterComma.chars) (o :: os) ++
      (w.beforeEquals.chars ++ '=' :: w.afterEquals.chars)

/-- Arguments with padding around each of them. -/
def spacedArgs (w : Spacing) (args : List (List Char)) : List (List Char) :=
  args.mapIdx fun i a => (w.beforeArg i).chars ++ (a ++ (w.afterArg i).chars)

/-- The text of a call with padding in it. -/
def spaced (w : Spacing) (c : Call) : List Char :=
  spacedFront w c.outs ++ (c.name ++ '(' :: (List.intercalate [','] (spacedArgs w c.args) ++ [')']))

theorem exists_of_mem_spacedArgs {args : List (List Char)} {a : List Char} (h : a ∈ spacedArgs w args) :
    ∃ p q : Padding, ∃ b ∈ args, a = p.chars ++ (b ++ q.chars) := by
  obtain ⟨i, hi, rfl⟩ := List.mem_mapIdx.1 h
  exact ⟨w.beforeArg i, w.afterArg i, args[i], List.getElem_mem hi, rfl⟩

theorem map_trim_spacedArgs (w : Spacing) (args : List (List Char)) :
    (spacedArgs w args).map trim = args.map trim :=
  List.ext_getElem (by simp [spacedArgs]) fun i _ _ => by simp [spacedArgs, Padding.trim_pad]

theorem isFront_spacedFront {outs : List (List Char)} (houts : ∀ o ∈ outs, IsHandle o) :
    IsFront outs (spacedFront w outs) := by
  cases outs with
  | nil => exact .none
  | cons o os =>
    exact isFront_intercalate houts (by simp) w.beforeComma.isSpaces w.afterComma.isSpaces
      w.beforeEquals.isSpaces w.afterEquals.isSpaces

/-- **A padded call is written as a call.** -/
theorem isWritten_spaced (hc : c.WellFormed) (w : Spacing) :
    IsWritten c.outs c.name (List.intercalate [','] (spacedArgs w c.args)) (c.spaced w) :=
  ⟨⟨_, isFront_spacedFront hc.outs, rfl⟩, hc.name_ne_nil, hc.name⟩

/-- **A padded call is read as the call.** -/
theorem recognise_spaced (hc : c.WellFormed) (w : Spacing) : recognise (c.spaced w) = some c := by
  refine recognise_of_pieces hc (isWritten_spaced hc w) (fun a ha => ?_) ?_
  · obtain ⟨p, q, b, hb, rfl⟩ := exists_of_mem_spacedArgs ha
    exact p.not_mem_pad q (by decide) (by decide) (hc.args b hb).1
  · rw [map_trim_spacedArgs]
    conv_rhs => rw [← List.map_id c.args]
    exact List.map_congr_left fun a ha => (hc.args a ha).2

/-- Padding brings in no line feed. -/
theorem noFeed_spaced (hc : c.WellFormed) (h : '\n' ∉ c.chars) (w : Spacing) : '\n' ∉ c.spaced w := by
  have hpart : ∀ t ∈ c.outs ++ c.args, '\n' ∉ t := fun t ht hm =>
    h ((wellFormed_of_recognise (recognise_chars hc)).2 t ht hm)
  have hfront : '\n' ∉ spacedFront w c.outs := by
    have hpadding (p : Padding) : '\n' ∉ p.chars := p.not_mem (by decide) (by decide)
    intro hm
    unfold spacedFront at hm
    split at hm
    · simp at hm
    · rename_i o os houts
      rcases List.mem_append.1 hm with hm | hm
      · rcases Text.mem_or_mem_of_mem_intercalate hm with hm | ⟨t, ht, hm⟩
        · simp [hpadding] at hm
        · exact hpart t (List.mem_append_left _ (houts ▸ ht)) hm
      · simp [hpadding] at hm
  have hname : '\n' ∉ c.name := fun hm => absurd (hc.name _ hm) (by decide)
  have hargs : '\n' ∉ List.intercalate [','] (spacedArgs w c.args) := by
    intro hm
    rcases Text.mem_intercalate hm with hm | ⟨a, ha, hm⟩
    · exact absurd hm (by decide)
    · obtain ⟨p, q, b, hb, rfl⟩ := exists_of_mem_spacedArgs ha
      exact p.not_mem_pad q (by decide) (by decide) (hpart b (List.mem_append_right _ hb)) hm
  simp [spaced, hfront, hname, hargs]

theorem spaced_none (c : Call) : c.spaced .none = c.chars := by
  have hargs : spacedArgs .none c.args = c.args :=
    List.ext_getElem (by simp [spacedArgs]) fun i _ _ => by simp [spacedArgs, Spacing.none, Padding.none]
  have hfront : spacedFront .none c.outs =
      if c.outs.isEmpty then [] else List.intercalate [','] c.outs ++ ['='] := by
    cases c.outs <;> rfl
  rw [spaced, hargs, hfront, chars, List.append_assoc]

end Call

/-! ## Padded lines -/

namespace Line

variable {l : Line}

/-- The text of a line with padding inside of it. -/
def spacedInside (w : Spacing) : Line → List Char
  | call c => c.spaced w
  | l => l.chars

/-- The text of a line with padding in it. -/
def spaced (w : Spacing) (l : Line) : List Char :=
  w.start.chars ++ (l.spacedInside w ++ w.stop.chars)

theorem spaced_none (l : Line) : l.spaced .none = l.chars := by
  have hinside : l.spacedInside .none = l.chars := by
    cases l with
    | call c => exact Call.spaced_none c
    | blank | comment text | shutdown => rfl
  rw [spaced, hinside]
  exact List.append_nil _

/-- **A padded line is recognised as the line.** -/
theorem recognise_spaced (hl : l.WellFormed) (w : Spacing) : recognise (l.spaced w) = some l := by
  rw [spaced, recognise_of_trim_eq (w.start.trim_pad w.stop (l.spacedInside w))]
  cases l with
  | call c =>
    rw [recognise_eq_call_iff, spacedInside, (Call.isWritten_spaced hl w).trim_eq]
    exact Call.recognise_spaced hl w
  | blank | comment text | shutdown => exact recognise_chars hl

theorem noFeed_spaced (hl : l.WellFormed) (h : '\n' ∉ l.chars) (w : Spacing) : '\n' ∉ l.spaced w := by
  have hinside : '\n' ∉ l.spacedInside w := by
    cases l with
    | call c => exact Call.noFeed_spaced hl h w
    | blank | comment text | shutdown => exact h
  exact w.start.not_mem_pad w.stop (by decide) (by decide) hinside

end Line

/-! ## Padded operations -/

namespace Op

variable {op : Op}

/-- A canonical operation is read back from its line with any padding in it. -/
theorem parse_spaced (h : op.IsCanonical) (w : Spacing) :
    Script.parse (String.ofList (op.line.spaced w)) = .ok [op] := by
  have hline := wellFormed_line h.2
  have hread : parseLine (op.line.spaced w) = .ok (some op) :=
    parseLine_eq_ok_iff.2 ⟨op.line, Line.recognise_spaced hline w, ofLine_line h.2⟩
  rw [Script.parse_ofList (Line.noFeed_spaced hline (noFeed_chars h.1) w), hread]
  rfl

/-- **Spacing is irrelevant.** An operation is read back from its own text iff it is read back from every text
that this becomes when spaces and tabs are put at its ends and, in a call, around the comma between the
result handles, around the equals sign, inside the parentheses and around each comma between the arguments. -/
theorem parse_spaced_iff (op : Op) : Script.parse op.text = .ok [op] ↔
    ∀ w : Spacing, Script.parse (String.ofList (op.line.spaced w)) = .ok [op] := by
  constructor
  · exact fun h w => parse_spaced (Script.isCanonical_of_parse h op (by simp)) w
  · intro h
    have hnone := h .none
    rwa [Line.spaced_none] at hnone

end Op

/-- One space. -/
def Padding.space : Padding := ⟨[' '], by simp⟩

/-- A tab and a space. -/
def Padding.tabbed : Padding := ⟨['\t', ' '], by simp⟩

/-- Padding at every place but in front of the first argument. -/
def Spacing.wide : Spacing :=
  ⟨.space, .tabbed, .space, .tabbed, .tabbed, .space, fun i => if i = 0 then .none else .space, fun _ => .tabbed⟩

namespace Op

/-- A join with a blank inside one of its arguments, and an empty one. -/
def spaciousJoin : Op :=
  .join "t1" "t2" ⟨"f1", "s1"⟩ ⟨"f 2", ""⟩ .hash

/-- Its line, without padding and with it. -/
theorem parse_spaced_spaciousJoin :
    Script.parse "t1,t2=join(f1,s1,f 2,,hash)" = .ok [spaciousJoin] ∧
      Script.parse " t1 ,\t t2\t = join(f1\t , s1\t , f 2\t , \t , hash\t )\t " = .ok [spaciousJoin] := by
  have htext : spaciousJoin.text = "t1,t2=join(f1,s1,f 2,,hash)" := by decide +kernel
  have hspaced : String.ofList (spaciousJoin.line.spaced .wide) =
      " t1 ,\t t2\t = join(f1\t , s1\t , f 2\t , \t , hash\t )\t " := by decide +kernel
  have hparse : Script.parse spaciousJoin.text = .ok [spaciousJoin] := by decide +kernel
  rw [← hspaced, ← htext]
  exact ⟨hparse, (parse_spaced_iff spaciousJoin).1 hparse .wide⟩

end Op

end Columnar
