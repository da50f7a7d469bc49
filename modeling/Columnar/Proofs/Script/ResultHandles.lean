import Columnar.Proofs.Script.LineByLine
import Columnar.Proofs.Script.RoundTrip

/-!
# Result handles

A call is written with any number of result handles, and its name tells how many of them its operation
binds. Selects, fetches, joins, aggregates and prints are refused with any other number, so what is written
is what is bound. Declarations and loads bind nothing, but do not look at their result handles: up to two of
them are dropped, and the line is parsed as it is without them.

Each reader of a call either asks for its result handles, and then hands them on, or does not depend on them
(`Op.outs_ofCall`, `Op.ofCall_eq_of_ignoresOuts`). A line that is written as a call is read by one of these
readers, or by none if it has three handles or more (`Script.parse_of_isWritten`).

* `Script.isWritten_of_parse` — every accepted line but a comment and `shutdown` is written as a call
* `Script.outs_of_parse` — **what is bound is what is written, except by declarations and loads**
-/

namespace Columnar

open Text (lines splitOn trim)

/-! ## By name -/

namespace Call

/-- The number of results that an operation has, by its name. -/
def resultCount (name : List Char) : Option Nat :=
  match String.ofList name with
  | "create" | "load" | "print" => some 0
  | "select" | "fetch" | "sum" | "avg" => some 1
  | "join" => some 2
  | _ => none

/-- Whether the result handles in front of a name are not looked at. -/
def ignoresOuts (name : List Char) : Bool :=
  match String.ofList name with
  | "create" | "load" => true
  | _ => false

end Call

/-! ## Readers -/

namespace Op

variable {c : Call} {op : Op} {outs args : List (List Char)} {name : List Char}

/-- That an operation binds the result handles of a call, which are as many as a given number. -/
structure BindsOuts (c : Call) (count : Nat) (op : Op) : Prop where
  outs_eq : op.outs = c.outs.map String.ofList
  length : c.outs.length = count

theorem bindsOuts_of_singleOut {out : Handle} (h : singleOut c = .ok out) (hop : op.outs = [out]) :
    BindsOuts c 1 op := by
  unfold singleOut at h
  split at h
  · rename_i o houts
    obtain rfl : String.ofList o = out := by simpa using h
    exact ⟨by rw [hop, houts]; rfl, by rw [houts]; rfl⟩
  · simp at h

theorem outs_ofCreate (h : ofCreate c = .ok op) : op.outs = [] := by
  unfold ofCreate at h
  split at h
  · split at h
    · -- a table
      split at h
      · split at h
        · obtain rfl := Except.ok.inj h
          rfl
        · simp at h
      · simp [wrongArity] at h
    · split at h
      · -- a column
        split at h
        · split at h
          · obtain rfl := Except.ok.inj h
            rfl
          · simp at h
        · simp [wrongArity] at h
      · split at h
        · -- an index
          split at h
          · rw [Except.bind_eq_ok_iff] at h
            obtain ⟨column, -, h⟩ := h
            rw [Except.bind_eq_ok_iff] at h
            obtain ⟨kind, -, h⟩ := h
            rw [Except.bind_eq_ok_iff] at h
            obtain ⟨clustering, -, h⟩ := h
            obtain rfl := Except.ok.inj h
            rfl
          · simp [wrongArity] at h
        · simp at h
  · simp at h

theorem outs_ofLoad (h : ofLoad c = .ok op) : op.outs = [] := by
  unfold ofLoad at h
  split at h
  · obtain rfl := Except.ok.inj h
    rfl
  · simp [wrongArity] at h

theorem bindsOuts_ofSelect (h : ofSelect c = .ok op) : BindsOuts c 1 op := by
  rw [ofSelect, Except.bind_eq_ok_iff] at h
  obtain ⟨out, hout, h⟩ := h
  refine bindsOuts_of_singleOut hout ?_
  split at h
  · rw [Except.bind_eq_ok_iff] at h
    obtain ⟨column, -, h⟩ := h
    rw [Except.bind_eq_ok_iff] at h
    obtain ⟨predicate, -, h⟩ := h
    obtain rfl := Except.ok.inj h
    rfl
  · rw [Except.bind_eq_ok_iff] at h
    obtain ⟨predicate, -, h⟩ := h
    obtain rfl := Except.ok.inj h
    rfl
  · simp at h

theorem bindsOuts_ofFetch (h : ofFetch c = .ok op) : BindsOuts c 1 op := by
  unfold ofFetch at h
  split at h
  · rw [Except.bind_eq_ok_iff] at h
    obtain ⟨out, hout, h⟩ := h
    rw [Except.bind_eq_ok_iff] at h
    obtain ⟨column, -, h⟩ := h
    obtain rfl := Except.ok.inj h
    exact bindsOuts_of_singleOut hout rfl
  · simp [wrongArity] at h

theorem bindsOuts_ofJoin (h : ofJoin c = .ok op) : BindsOuts c 2 op := by
  unfold ofJoin at h
  split at h
  · split at h
    · rename_i leftOut rightOut houts
      rw [Except.bind_eq_ok_iff] at h
      obtain ⟨kind, -, h⟩ := h
      obtain rfl := Except.ok.inj h
      exact ⟨by rw [houts]; rfl, by rw [houts]; rfl⟩
    · simp at h
  · simp [wrongArity] at h

theorem bindsOuts_ofAggregate {f : AggregateFunction} (h : ofAggregate f c = .ok op) : BindsOuts c 1 op := by
  unfold ofAggregate at h
  split at h
  · rw [Except.bind_eq_ok_iff] at h
    obtain ⟨out, hout, h⟩ := h
    obtain rfl := Except.ok.inj h
    exact bindsOuts_of_singleOut hout rfl
  · simp [wrongArity] at h

theorem bindsOuts_ofPrint (h : ofPrint c = .ok op) : BindsOuts c 0 op := by
  unfold ofPrint at h
  split at h
  · rename_i hcond
    obtain rfl := Except.ok.inj h
    have houts : c.outs = [] := List.isEmpty_iff.1 (Bool.and_eq_true_iff.1 hcond).1
    exact ⟨by rw [houts]; rfl, by rw [houts]; rfl⟩
  · simp at h

/-- **An operation binds as many handles as its name has results**, and these are the handles of the call,
unless they are not looked at. -/
theorem outs_ofCall (h : ofCall c = .ok op) : Call.resultCount c.name = some op.outs.length ∧
    op.outs = if Call.ignoresOuts c.name then [] else c.outs.map String.ofList := by
  unfold ofCall at h
  split at h
  case h_1 hname => simp [Call.resultCount, Call.ignoresOuts, hname, outs_ofCreate h]
  case h_2 hname => simp [Call.resultCount, Call.ignoresOuts, hname, outs_ofLoad h]
  case h_3 hname =>
    have hop := bindsOuts_ofSelect h
    simp [Call.resultCount, Call.ignoresOuts, hname, hop.outs_eq, hop.length]
  case h_4 hname =>
    have hop := bindsOuts_ofFetch h
    simp [Call.resultCount, Call.ignoresOuts, hname, hop.outs_eq, hop.length]
  case h_5 hname =>
    have hop := bindsOuts_ofJoin h
    simp [Call.resultCount, Call.ignoresOuts, hname, hop.outs_eq, hop.length]
  case h_6 hname | h_7 hname =>
    have hop := bindsOuts_ofAggregate h
    simp [Call.resultCount, Call.ignoresOuts, hname, hop.outs_eq, hop.length]
  case h_8 hname =>
    have hop := bindsOuts_ofPrint h
    simp [Call.resultCount, Call.ignoresOuts, hname, hop.outs_eq, hop.length]
  case h_9 => simp at h

/-- **Where result handles are not looked at, a call is read as it is without them.** -/
theorem ofCall_eq_of_ignoresOuts (h : Call.ignoresOuts name = true) :
    ofCall ⟨outs, name, args⟩ = ofCall ⟨[], name, args⟩ := by
  unfold Call.ignoresOuts at h
  unfold ofCall
  split at h
  · rename_i hname
    simp only [hname]
    rfl
  · rename_i hname
    simp only [hname]
    rfl
  · simp at h

end Op

/-! ## Lines -/

namespace Script

variable {text : String} {s : Script} {op : Op} {line : List Char} {outs : List (List Char)} {name body : List Char}

/-- A line that is written as a call is read by the reader for its name, if it has at most two handles. -/
theorem parse_of_isWritten (hline : '\n' ∉ line) (hw : Call.IsWritten outs name body (trim line)) :
    parse (String.ofList line) =
      if outs.length ≤ 2 then
        ((Op.ofCall ⟨outs, name, (splitOn ',' body).map trim⟩).map fun op => [op]).mapError (ParseError.mk 1)
      else .error ⟨1, .unrecognised (String.ofList (trim line))⟩ := by
  rw [parse_ofList hline, Op.parseLine, Line.recognise_of_isWritten hw, Call.recognise_of_isWritten hw]
  by_cases hlength : outs.length ≤ 2
  · rw [if_pos hlength, if_pos hlength]
    show ((Except.map some (Op.ofCall _)).map Option.toList).mapError _ = _
    cases Op.ofCall ⟨outs, name, (splitOn ',' body).map trim⟩ <;> rfl
  · rw [if_neg hlength, if_neg hlength]
    rfl

/-- **Every accepted line is a comment, the word `shutdown`, or written as a call.** -/
theorem isWritten_of_parse (hline : '\n' ∉ line) (h : parse (String.ofList line) = .ok [op]) :
    (∃ text, op = .comment text) ∨ op = .shutdown ∨
      ∃ outs name body, outs.length ≤ 2 ∧ Call.IsWritten outs name body (trim line) := by
  rw [parse_ofList hline, Except.mapError_eq_ok_iff] at h
  obtain ⟨op?, hop, hlist⟩ := Except.map_eq_ok_iff.1 h
  obtain rfl : op? = some op := by simpa using hlist
  obtain ⟨l, hl, hof⟩ := Op.parseLine_eq_ok_iff.1 hop
  cases l with
  | blank => simp [Op.ofLine] at hof
  | comment text => exact .inl ⟨_, (Option.some.inj (Except.ok.inj hof)).symm⟩
  | shutdown => exact .inr (.inl (Option.some.inj (Except.ok.inj hof)).symm)
  | call c =>
    obtain ⟨hlength, body, hw, -⟩ := Call.recognise_eq_some_iff.1 (Line.recognise_eq_call_iff.1 hl)
    exact .inr (.inr ⟨_, _, _, hlength, hw⟩)

/-- What an accepted line that is written as a call is parsed as. -/
theorem exists_op_of_parse (hline : '\n' ∉ line) (hw : Call.IsWritten outs name body (trim line))
    (h : parse (String.ofList line) = .ok s) :
    ∃ op, s = [op] ∧ outs.length ≤ 2 ∧ Call.resultCount name = some op.outs.length ∧
      op.outs = if Call.ignoresOuts name then [] else outs.map String.ofList := by
  rw [parse_of_isWritten hline hw] at h
  split at h
  · rename_i hlength
    obtain ⟨op, hop, rfl⟩ := Except.map_eq_ok_iff.1 (Except.mapError_eq_ok_iff.1 h)
    exact ⟨op, rfl, hlength, Op.outs_ofCall hop⟩
  · simp at h

/-- Where the number of handles is asked for, another one is refused. -/
theorem exists_error_of_parse (hline : '\n' ∉ line) (hw : Call.IsWritten outs name body (trim line))
    (hcount : 2 < outs.length ∨ Call.ignoresOuts name = false ∧ Call.resultCount name ≠ some outs.length) :
    ∃ e, parse (String.ofList line) = .error e := by
  cases h : parse (String.ofList line) with
  | error e => exact ⟨e, rfl⟩
  | ok s =>
    obtain ⟨op, -, hlength, hresults, houts⟩ := exists_op_of_parse hline hw h
    rcases hcount with hmany | ⟨hlooks, hne⟩
    · omega
    · refine absurd ?_ hne
      rw [hresults, houts, hlooks]
      simp

/-- Where they are not looked at, a line is parsed as it is without them. -/
theorem parse_eq_of_ignoresOuts (hline : '\n' ∉ line) (hw : Call.IsWritten outs name body (trim line))
    (hignores : Call.ignoresOuts name = true) (hlength : outs.length ≤ 2) :
    parse (String.ofList line) = parse (String.ofList (name ++ '(' :: (body ++ [')']))) := by
  have hbare : Call.IsWritten [] name body (name ++ '(' :: (body ++ [')'])) :=
    ⟨⟨[], .none, rfl⟩, hw.name_ne_nil, hw.name⟩
  have hfeed : '\n' ∉ name ++ '(' :: (body ++ [')']) := by
    obtain ⟨front, -, htext⟩ := hw.front
    exact fun hm => hline (Text.mem_of_mem_trim (htext ▸ List.mem_append_right front hm))
  rw [parse_of_isWritten hline hw, parse_of_isWritten hfeed (hbare.trim_eq.symm ▸ hbare), if_pos hlength,
    Op.ofCall_eq_of_ignoresOuts hignores]
  rfl

/-- **What is bound is what is written, except by declarations and loads.** Let a line of a text be written
as a call. If the text is accepted, the line is one of its operations, and binds as many handles as its name
has results: none if the name is `create` or `load`, and otherwise the handles that are written, in order. If
these are more than two, or if they are not as many as the name has results and it is neither `create` nor
`load`, the line is refused, and the text with it. For `create` and `load` up to two handles are dropped, and
the line is parsed as it is without them. -/
theorem outs_of_parse (hline : line ∈ lines text.toList) (hw : Call.IsWritten outs name body (trim line)) :
    (∀ s, parse text = .ok s → ∃ op ∈ s, parse (String.ofList line) = .ok [op] ∧ outs.length ≤ 2 ∧
      Call.resultCount name = some op.outs.length ∧
      op.outs = if Call.ignoresOuts name then [] else outs.map String.ofList) ∧
    (2 < outs.length ∨ Call.ignoresOuts name = false ∧ Call.resultCount name ≠ some outs.length →
      (∃ e, parse (String.ofList line) = .error e) ∧ ∃ e, parse text = .error e) ∧
    (Call.ignoresOuts name = true → outs.length ≤ 2 →
      parse (String.ofList line) = parse (String.ofList (name ++ '(' :: (body ++ [')'])))) := by
  have hfeed := Text.not_mem_of_mem_lines hline
  refine ⟨fun s hs => ?_, fun hcount => ?_, fun hignores hlength => parse_eq_of_ignoresOuts hfeed hw hignores hlength⟩
  · obtain ⟨part, hpart, hsub⟩ := exists_part_of_parse hs hline
    obtain ⟨op, rfl, hlength, hop⟩ := exists_op_of_parse hfeed hw hpart
    exact ⟨op, hsub (by simp), hpart, hlength, hop⟩
  · obtain ⟨e, he⟩ := exists_error_of_parse hfeed hw hcount
    refine ⟨⟨e, he⟩, ?_⟩
    cases h : parse text with
    | error e' => exact ⟨e', rfl⟩
    | ok s =>
      obtain ⟨part, hpart, -⟩ := exists_part_of_parse h hline
      cases he.symm.trans hpart

/-- A load with a result handle in front of it. -/
def handleLoad : List Char :=
  "x=load(\"a\")".toList

theorem isWritten_handleLoad :
    Call.IsWritten [['x']] "load".toList "\"a\"".toList (trim handleLoad) :=
  ⟨⟨['x', '='], .last (by decide) Text.isSpaces_nil Text.isSpaces_nil, by decide +kernel⟩, by decide,
    List.all_eq_true.1 rfl⟩

/-- The handle of a load is dropped, and that of a sum after it is bound. -/
theorem outs_of_parse_load_sum :
    parse "x=load(\"a\")\ny = sum(f)" = .ok [.load "a", .aggregate .sum "y" "f"] ∧
      parse "x=load(\"a\")" = parse "load(\"a\")" ∧
      ∃ op, parse "y = sum(f)" = .ok [op] ∧ op.outs = ["y"] := by
  have hspace : Text.IsSpaces [' '] := by simp [Text.IsSpaces, Text.isSpace]
  have hsum : Call.IsWritten [['y']] "sum".toList ['f'] (trim "y = sum(f)".toList) :=
    ⟨⟨['y', ' ', '=', ' '], .last (by decide) hspace hspace, by decide +kernel⟩, by decide,
      List.all_eq_true.1 rfl⟩
  have hparse : parse "x=load(\"a\")\ny = sum(f)" = .ok [.load "a", .aggregate .sum "y" "f"] := by decide +kernel
  have hfirst : handleLoad ∈ lines "x=load(\"a\")\ny = sum(f)".toList := by decide +kernel
  have hsecond : "y = sum(f)".toList ∈ lines "x=load(\"a\")\ny = sum(f)".toList := by decide +kernel
  obtain ⟨-, -, hload⟩ := outs_of_parse hfirst isWritten_handleLoad
  obtain ⟨op, -, hop, -, -, houts⟩ := (outs_of_parse hsecond hsum).1 _ hparse
  exact ⟨hparse, hload rfl (by decide), op, hop, houts⟩

/-- Not every handle that is written in an accepted text is bound. -/
theorem not_forall_handles_bound : ¬ ∀ (text : String) (s : Script) (line : List Char) (outs : List (List Char))
    (name body : List Char), parse text = .ok s → line ∈ lines text.toList →
    Call.IsWritten outs name body (trim line) → ∃ op ∈ s, op.outs.length = outs.length := by
  intro h
  obtain ⟨op, hop, hlength⟩ :=
    h "x=load(\"a\")" [.load "a"] _ _ _ _ (by decide +kernel) (by decide +kernel) isWritten_handleLoad
  rw [List.mem_singleton.1 hop] at hlength
  cases hlength

end Script

end Columnar
