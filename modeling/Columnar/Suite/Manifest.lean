import Columnar.JsonText
import Columnar.Suite.Scenario

/-!
# The manifest of a suite

A manifest describes a suite for other programs, as JSON with the fields of every object in
alphabetical order.
-/

namespace Columnar

namespace Manifest

open JsonText (array bool number object string)

/-- The entry of a data file. -/
def dataFile (f : DataFile) : JsonText :=
  object [
    ("columns", array (f.table.columnNames.map string)),
    ("file", string f.file),
    ("rows", number f.table.rowCount),
    ("table", string f.table.qualifiedName)]

/-- The entry of a scenario. -/
def scenario (s : Scenario) : JsonText :=
  object [
    ("checks_output", bool s.checksOutput),
    ("expected", string s.expectedFile),
    ("expected_lines", number s.expectedLines),
    ("kind", string s.kind.text),
    ("number", number s.number),
    ("script", string s.scriptFile),
    ("tags", array (s.tags.map string)),
    ("title", string s.title)]

/-- The manifest of a suite. -/
def suite (s : Suite) : JsonText :=
  object [
    ("data_files", array (s.dataFiles.map dataFile)),
    ("scenarios", array (s.scenarios.map scenario)),
    ("seed", number s.seed.toNat),
    ("suite", string s.name)]

end Manifest

namespace Suite

/-- The manifest of a suite. -/
def manifest (s : Suite) : String :=
  (Manifest.suite s).text

/-- The name of the manifest's file. -/
def manifestFile (s : Suite) : String :=
  s.name ++ "_manifest.json"

end Suite

end Columnar
