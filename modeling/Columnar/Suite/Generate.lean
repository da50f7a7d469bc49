import Columnar.Csv
import Columnar.Script.Printer
import Columnar.Suite.IndexQueries
import Columnar.Suite.JoinQueries
import Columnar.Suite.Manifest

/-!
# Generating a suite and its files

Each suite is generated from a stream of its own that starts at the configured seed, so neither suite
depends on whether the other one is generated. Its files are a table's rows for each data file, a script
and an expected text for each scenario, and the manifest.
-/

namespace Columnar

/-- The suites that can be generated. -/
inductive SuiteName where
  | index
  | join
  deriving DecidableEq, Repr

namespace Suite

/-- Generates a suite from a source of draws. -/
def generateFrom {σ : Type} [Random.DrawSource σ] (config : SuiteConfig) (source : σ) :
    SuiteName → Except SuiteError Suite
  | .index => ((IndexQueries.generate config).run.run source).1
  | .join => ((JoinQueries.generate config).run.run source).1

/-- Generates a suite from its seed. -/
def generate (config : SuiteConfig) (name : SuiteName) : Except SuiteError Suite :=
  generateFrom config (Random.Stream.ofSeed config.seed) name

/-- The files of a suite and their texts, in the order in which they are written. -/
def files (s : Suite) : List (String × String) :=
  s.dataFiles.map (fun f => (f.file, Csv.text f.table)) ++
  s.scenarios.flatMap (fun c => [(c.scriptFile, c.script.text), (c.expectedFile, c.expected)]) ++
  [(s.manifestFile, s.manifest)]

end Suite

end Columnar
