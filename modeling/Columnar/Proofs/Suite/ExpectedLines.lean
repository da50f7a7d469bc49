import Columnar.Proofs.Output.LineCount
import Columnar.Proofs.Run.Composition
import Columnar.Suite.Scenario

/-!
# Scenarios that expect no lines

Whether a script prints is seen in its operations, what it prints only in its run. Each print that a run
comes to lays out one block, whose shape is that of the results its handles are bound to. So the lines of
an answer are counted print by print, and an answer without lines is that of a script without prints: the
output of a scenario is passed over exactly if none is expected.

* `Run.shape_of_printed`, `Run.map_shape_of_runFrom` — the shapes of prints are those of the blocks
* `Scenario.expected_lines_agree` — **prints, lines and what is compared**
-/

namespace Columnar

/-- The shape of a print: the rows are those of the first of its results that is no scalar. -/
def Environment.printShape (env : Environment) (handles : List Handle) : PrintShape :=
  match handles.findSome? fun k => (env.lookup? k).bind Run.sequence? with
  | some values => .sequence values.length
  | none => .scalars

namespace Run

variable {catalog : Catalog} {env env₁ : Environment} {s : Script}

/-- The shapes of the prints of a script, in the order in which a run comes to them. -/
def printShapes (catalog : Catalog) : Environment → Script → List PrintShape
  | _, [] => []
  | env, op :: ops =>
    match step catalog env op with
    | .error _ => []
    | .ok (env₁, _) => (op.printed?.map env.printShape).toList ++ printShapes catalog env₁ ops

/-- A result that is no scalar is a sequence. -/
theorem exists_sequence {results : List Binding} (h : (results.all fun b => (scalar? b).isSome) = false) :
    results.filterMap sequence? ≠ [] := by
  obtain ⟨b, hb, hscalar⟩ := List.all_eq_false.1 h
  refine List.ne_nil_of_mem (List.mem_filterMap.2 ⟨b, hb, ?_⟩) (a := (sequence? b).getD [])
  cases b with
  | scalar value => exact absurd rfl hscalar
  | rows rows => rfl
  | values values => rfl

/-- Scalars are no sequences. -/
theorem filterMap_sequence_of_all {results : List Binding}
    (h : (results.all fun b => (scalar? b).isSome) = true) : results.filterMap sequence? = [] := by
  refine List.filterMap_eq_nil_iff.2 fun b hb => ?_
  have hscalar := List.all_eq_true.1 h b hb
  cases b with
  | scalar value => rfl
  | rows rows => cases hscalar
  | values values => cases hscalar

/-- **A print lays out a block of its shape.** -/
theorem shape_of_printed {handles : List Handle} {block : Block} (h : printed env handles = .ok block) :
    block.shape = env.printShape handles := by
  obtain ⟨results, hresults, h⟩ := exists_of_printed h
  have hfirst : (handles.findSome? fun k => (env.lookup? k).bind sequence?) =
      (results.filterMap sequence?).head? := by
    calc (handles.findSome? fun k => (env.lookup? k).bind sequence?)
        = (handles.map env.lookup?).findSome? (·.bind sequence?) := by rw [List.findSome?_map]; rfl
      _ = results.findSome? sequence? := by rw [hresults, List.findSome?_map]; rfl
      _ = (results.filterMap sequence?).head? := (List.head?_filterMap ..).symm
  rw [Environment.printShape, hfirst]
  rcases h with ⟨hall, rfl⟩ | ⟨hall, hcolumns⟩
  · rw [filterMap_sequence_of_all hall]
    rfl
  · obtain ⟨-, rfl⟩ := Block.ofColumns_eq_ok_iff.1 hcolumns
    obtain ⟨c, cs, hc⟩ := List.exists_cons_of_ne_nil (exists_sequence hall)
    rw [hc]
    exact congrArg PrintShape.sequence (Grid.length_rows ..)

/-- The shape of what an operation prints. -/
theorem map_shape_of_step {op : Op} {block : Option Block} (h : step catalog env op = .ok (env₁, block)) :
    block.map Block.shape = op.printed?.map env.printShape := by
  cases op with
  | print handles =>
    obtain ⟨b, hb, h⟩ := Except.bind_eq_ok_iff.1 h
    obtain ⟨-, rfl⟩ := Prod.mk.inj (Except.ok.inj h)
    exact congrArg some (shape_of_printed hb)
  | comment _ | createTable _ _ _ | createColumn _ _ _ | createIndex _ _ _ | load _ | shutdown =>
    obtain ⟨-, rfl⟩ := Prod.mk.inj (Except.ok.inj h)
    rfl
  | select _ _ _ | fetch _ _ _ | join _ _ _ _ _ | aggregate _ _ _ =>
    obtain ⟨x, -, h⟩ := Except.bind_eq_ok_iff.1 h
    obtain ⟨-, rfl⟩ := Prod.mk.inj (Except.ok.inj h)
    rfl

/-- **The blocks of a run have the shapes of its prints.** -/
theorem map_shape_of_runFrom {bs : List Block} (h : runFrom catalog env s = .ok (env₁, bs)) :
    bs.map Block.shape = printShapes catalog env s := by
  induction s generalizing env bs with
  | nil =>
    obtain ⟨rfl, rfl⟩ := Prod.mk.inj (Except.ok.inj h)
    rfl
  | cons op ops ih =>
    obtain ⟨env', block, cs, hstep, hrun, rfl⟩ := runFrom_cons_eq_ok_iff.1 h
    rw [printShapes, hstep, List.map_append, ih hrun, ← map_shape_of_step hstep]
    cases block <;> rfl

/-! ## The text of a run -/

variable {text : String}

/-- The lines of an answer are those of its prints. -/
theorem length_lines_of_run (h : run catalog s = .ok text) :
    (Text.lines text.toList).length = PrintShape.lineCount (printShapes catalog .empty s) := by
  obtain ⟨env, bs, hrun, rfl⟩ := run_eq_ok_iff.1 h
  rw [Layout.length_lines, map_shape_of_runFrom hrun]

/-- An answer is empty iff its script has no print. -/
theorem eq_empty_iff_of_run (h : run catalog s = .ok text) : text = "" ↔ s.prints = false := by
  obtain ⟨env, bs, hrun, rfl⟩ := run_eq_ok_iff.1 h
  rw [Layout.text_eq_empty_iff, ← List.isEmpty_iff, isEmpty_of_runFrom hrun, Bool.not_eq_true']

/-- An answer is empty iff it has no lines. -/
theorem eq_empty_iff_length_lines_of_run (h : run catalog s = .ok text) :
    text = "" ↔ (Text.lines text.toList).length = 0 := by
  obtain ⟨env, bs, hrun, rfl⟩ := run_eq_ok_iff.1 h
  rw [Layout.text_eq_empty_iff, Layout.length_lines, PrintShape.lineCount_eq_zero_iff, List.map_eq_nil_iff]

theorem getLast?_of_run (h : run catalog s = .ok text) (hne : text ≠ "") :
    text.toList.getLast? = some '\n' := by
  obtain ⟨env, bs, hrun, rfl⟩ := run_eq_ok_iff.1 h
  rw [Layout.text, String.toList_ofList]
  exact Layout.getLast?_chars (mt Layout.text_eq_empty_iff.2 hne)

end Run

namespace Scenario

/-- **What a script prints, the lines of its answer and what is compared agree.** An answer is empty iff
its script has no print, and ends with a line feed otherwise; its lines are those of the prints that its
run comes to. So the output of a scenario is not compared iff no text is expected, that is, iff the
manifest and the summary tell of no lines. The expected text itself is passed over then, and passes in all
other cases. -/
theorem expected_lines_agree (catalog : Catalog) :
    (∀ (s : Script) (text : String), Run.run catalog s = .ok text →
      (text = "" ↔ s.prints = false) ∧ (text ≠ "" → text.toList.getLast? = some '\n') ∧
        (Text.lines text.toList).length = PrintShape.lineCount (Run.printShapes catalog .empty s)) ∧
      ∀ (o : Outline) (s : Scenario), o.evaluate catalog = .ok s →
        (s.checksOutput = false ↔ s.expected = "") ∧ (s.expected = "" ↔ s.expectedLines = 0) ∧
          (s.expected = "" → ∃ reason, s.verify s.expected = .skip reason) ∧
          (s.expected ≠ "" → s.verify s.expected = .pass) := by
  constructor
  · intro s text h
    exact ⟨Run.eq_empty_iff_of_run h, Run.getLast?_of_run h, Run.length_lines_of_run h⟩
  · intro o s h
    obtain ⟨rfl, hrun⟩ := Outline.evaluate_eq_ok_iff.1 h
    have hprints : s.expected = "" ↔ s.script.prints = false := Run.eq_empty_iff_of_run hrun
    refine ⟨hprints.symm, Run.eq_empty_iff_length_lines_of_run hrun, fun hempty => ?_, fun hne => ?_⟩
    · exact (s.verify_skip_iff s.expected).2 (hprints.1 hempty)
    · rw [verify, checksOutput, eq_true_of_ne_false (mt hprints.2 hne), if_pos rfl, Verdict.judge_self]

/-- Prints of no rows before and after a sum of no values. -/
def emptySample : Outline where
  number := 21
  title := "No rows"
  kind := .correctness
  script := [
    .select "p" (.column ⟨"db", "fact", "amount"⟩) (.below 0),
    .print ["p"],
    .fetch "v" ⟨"db", "fact", "key"⟩ "p",
    .aggregate .sum "a" "v",
    .print ["a"],
    .print ["p", "v"]]
  tags := []

theorem expected_lines_agree_emptySample :
    Run.run .sample emptySample.script = .ok "\n\n0\n\n" ∧
      Run.printShapes .sample .empty emptySample.script = [.sequence 0, .scalars, .sequence 0] ∧
      (Text.lines "\n\n0\n\n".toList).length = 4 ∧
      ∃ s, emptySample.evaluate .sample = .ok s ∧ s.checksOutput = true ∧ s.verify s.expected = .pass := by
  have hrun : Run.run .sample emptySample.script = .ok "\n\n0\n\n" := by decide +kernel
  have hshapes : Run.printShapes .sample .empty emptySample.script = [.sequence 0, .scalars, .sequence 0] := by
    decide +kernel
  obtain ⟨hanswers, hscenarios⟩ := expected_lines_agree .sample
  refine ⟨hrun, hshapes, ?_, ?_⟩
  · rw [(hanswers _ _ hrun).2.2, hshapes]
    rfl
  · have hevaluate : emptySample.evaluate .sample = .ok ⟨emptySample, "\n\n0\n\n"⟩ :=
      Outline.evaluate_eq_ok_iff.2 ⟨rfl, hrun⟩
    obtain ⟨-, -, -, hpass⟩ := hscenarios _ _ hevaluate
    exact ⟨_, hevaluate, rfl, hpass (by decide)⟩

end Scenario

end Columnar
