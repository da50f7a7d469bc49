import Columnar.Dataset.Index
import Columnar.Run.Interpreter
import Columnar.Script.Parser
import Columnar.Verdict

/-!
# Scenarios and suites

A scenario is a numbered script with the text that it must print, which is the answer of the script on a
catalog. A suite is a list of scenarios with the tables that their scripts load. Both look their tables up
in the catalog, so making a script or a list of data files may fail.

## Main statements

* `Outline.evaluate_eq_ok_iff`: a scenario is made of an outline iff its script has an answer, and that
  answer is what it expects.
* `Scenario.verify_skip_iff`: the output of a scenario is passed over iff its script prints nothing.
-/

namespace Columnar

/-- What a scenario is for. -/
inductive ScenarioKind where
  /-- Creates and loads tables. -/
  | setup
  /-- Its output is checked. -/
  | correctness
  /-- It is only timed. -/
  | performance
  deriving DecidableEq, Repr

/-- How texts name what a scenario is for. -/
def ScenarioKind.text : ScenarioKind → String
  | setup => "setup"
  | correctness => "correctness"
  | performance => "performance"

/-- Why a suite is not made. -/
inductive SuiteError where
  | data (cause : DataError)
  | generation (cause : GenerationError)
  | script (cause : ParseError)
  | scenario (number : Nat) (cause : RunError)
  deriving Repr

/-- The sentence that tells why. -/
def SuiteError.message : SuiteError → String
  | data cause => cause.message
  | generation cause => s!"Data generation failed: {cause.message}"
  | script cause => s!"Oracle evaluation failed: {cause.message}"
  | scenario number cause => s!"Scenario {number} failed: {cause.message}"

/-- The generated table of a name. -/
def Catalog.generated (catalog : Catalog) (name : String) : Except SuiteError Table :=
  (catalog.table generatedDatabase name).mapError .data

/-- A scenario before its script is answered. -/
structure Outline where
  number : Nat
  title : String
  kind : ScenarioKind
  script : Script
  tags : List String
  deriving DecidableEq, Repr

/-- A numbered script and the text that it must print. -/
structure Scenario extends Outline where
  expected : String
  deriving DecidableEq, Repr

/-- The scenario whose expectation is the answer of its script. -/
def Outline.evaluate (catalog : Catalog) (o : Outline) : Except SuiteError Scenario :=
  match Run.run catalog o.script with
  | .ok text => .ok { o with expected := text }
  | .error cause => .error (.scenario o.number cause)

/-- **A scenario is made of an outline iff its script has an answer**, and that answer is what it
expects. -/
theorem Outline.evaluate_eq_ok_iff {catalog : Catalog} {o : Outline} {s : Scenario} :
    o.evaluate catalog = .ok s ↔ s.toOutline = o ∧ Run.run catalog o.script = .ok s.expected := by
  obtain ⟨o', text⟩ := s
  unfold Outline.evaluate
  cases Run.run catalog o.script with
  | error cause => simp
  | ok answer =>
    simp only [Except.ok.injEq, Scenario.mk.injEq]
    exact ⟨fun ⟨h, k⟩ => ⟨h.symm, k⟩, fun ⟨h, k⟩ => ⟨h.symm, k⟩⟩

/-- A scenario before its script is made. -/
structure Plan where
  number : Nat
  title : String
  kind : ScenarioKind
  /-- The script, or why it is not made. -/
  script : Except SuiteError Script
  tags : List String

/-- The outline of a plan with its script. -/
def Plan.outline (p : Plan) (script : Script) : Outline :=
  ⟨p.number, p.title, p.kind, script, p.tags⟩

/-- Makes the script of a plan and answers it. -/
def Plan.evaluate (catalog : Catalog) (p : Plan) : Except SuiteError Scenario := do
  (p.outline (← p.script)).evaluate catalog

namespace Scenario

/-- A number with at least two digits. -/
def twoDigits (n : Nat) : String :=
  if n < 10 then "0" ++ toString n else toString n

/-- The name of the script's file. -/
def scriptFile (s : Scenario) : String :=
  "test" ++ twoDigits s.number ++ "gen.dsl"

/-- The name of the file of what the script must print. -/
def expectedFile (s : Scenario) : String :=
  "test" ++ twoDigits s.number ++ "gen.exp"

/-- Whether an engine's output is compared at all. -/
def checksOutput (s : Scenario) : Bool :=
  s.script.prints

/-- The number of lines that the script must print. -/
def expectedLines (s : Scenario) : Nat :=
  (Text.lines s.expected.toList).length

/-- Judges an engine's output. -/
def verify (s : Scenario) (actual : String) : Verdict :=
  if s.checksOutput then Verdict.judge s.expected actual
  else .skip s!"Scenario {s.number} is {s.kind.text} only"

/-- The output of a scenario is passed over iff its script prints nothing. -/
theorem verify_skip_iff (s : Scenario) (actual : String) :
    (∃ reason, s.verify actual = .skip reason) ↔ s.script.prints = false := by
  unfold verify checksOutput
  cases s.script.prints with
  | false => simp
  | true =>
    simp only [if_true, Bool.true_eq_false, iff_false, not_exists]
    intro reason h
    unfold Verdict.judge Verdict.judgeLines at h
    split at h
    · simp at h
    · split at h <;> simp at h

end Scenario

/-- A table in the file that scripts load it from. -/
structure DataFile where
  file : String
  table : Table
  deriving DecidableEq, Repr

/-- The data files of generated tables, from pairs of a file and a table. -/
def Catalog.dataFiles (catalog : Catalog) (files : List (String × String)) : Except SuiteError (List DataFile) :=
  files.mapM fun (file, table) => do return ⟨file, ← catalog.generated table⟩

/-- Everything that one generation makes. -/
structure Suite where
  name : String
  seed : UInt64
  dataFiles : List DataFile
  scenarios : List Scenario
  deriving DecidableEq, Repr

namespace Suite

/-- The suite of planned scenarios and of files over a catalog. -/
def ofPlans (name : String) (seed : UInt64) (catalog : Catalog) (files : List (String × String))
    (plans : List Plan) : Except SuiteError Suite := do
  let scenarios ← plans.mapM (Plan.evaluate catalog)
  return ⟨name, seed, ← catalog.dataFiles files, scenarios⟩

/-- The scenario of a number. -/
def scenario? (s : Suite) (number : Nat) : Option Scenario :=
  s.scenarios.find? (·.number = number)

/-- The table of a data file. -/
def dataFile? (s : Suite) (file : String) : Option Table :=
  (s.dataFiles.find? (·.file = file)).map DataFile.table

/-- The numbers of the scenarios, in order. -/
def numbers (s : Suite) : List Nat :=
  s.scenarios.map (·.number)

end Suite

end Columnar
