import Columnar.Suite.Scenario

/-!
# The summary of a suite

A summary names the suite, its seed and its data files, and has one line for each scenario: its number,
what it is for, how many lines it must print, and its title, in columns.
-/

namespace Columnar

namespace Summary

/-- A text with spaces before it, at least `width` characters wide. -/
def padLeft (width : Nat) (s : String) : String :=
  "".pushn ' ' (width - s.length) ++ s

/-- A text with spaces after it, at least `width` characters wide. -/
def padRight (width : Nat) (s : String) : String :=
  s.pushn ' ' (width - s.length)

/-- The line of a data file. -/
def fileLine (f : DataFile) : String :=
  s!"  {f.file} ({f.table.rowCount} rows x {f.table.columns.length} columns)"

/-- The line of a scenario. -/
def scenarioLine (s : Scenario) : String :=
  "  " ++ padLeft 2 (toString s.number) ++ " " ++ padRight 11 s.kind.text ++ " " ++
    padLeft 4 (toString s.expectedLines) ++ " lines  " ++ s.title

end Summary

/-- The summary of a suite, without the end of its last line. -/
def Suite.summary (s : Suite) : String :=
  "\n".intercalate
    ([s!"Suite: {s.name}", s!"Seed: {s.seed.toNat}", s!"Scenarios: {s.scenarios.length}", "", "Data files:"] ++
      s.dataFiles.map Summary.fileLine ++ [""] ++ s.scenarios.map Summary.scenarioLine)

end Columnar
