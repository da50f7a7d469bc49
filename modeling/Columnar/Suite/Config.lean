import Columnar.Dataset.Join
import Columnar.Text.Blank

/-!
# What a suite is generated from

A configuration fixes the seed, the sizes of the tables, the law of the join keys, and the directory
from which the engine under test loads data files.
-/

namespace Columnar

/-- The parameters of a suite. -/
structure SuiteConfig where
  seed : UInt64
  /-- The directory that load operations name. -/
  loadDirectory : String
  /-- The number of rows of the index table. -/
  indexRows : UInt64
  /-- The numbers of rows of the join tables. -/
  joinSizes : JoinSizes
  zipfSkew : Float
  /-- The number of different join keys. -/
  zipfDomain : UInt64
  deriving Repr

namespace SuiteConfig

/-- Ten thousand rows in every table, and fifty keys by Zipf's law of skew one. -/
def standard : SuiteConfig where
  seed := 47
  loadDirectory := "/cs165/staff_test"
  indexRows := 10000
  joinSizes := ⟨10000, 10000, 10000, 10000⟩
  zipfSkew := 1
  zipfDomain := 50

/-- A suite on small tables. -/
def minimal : SuiteConfig :=
  { standard with indexRows := 1000, joinSizes := ⟨500, 300, 100, 400⟩ }

/-- The path under which the engine finds a data file: slashes at the end of the directory give way to
the one that joins it to the file. -/
def loadPath (config : SuiteConfig) (file : String) : String :=
  String.ofList (Text.dropEndWhile (· == '/') config.loadDirectory.toList ++ '/' :: file.toList)

end SuiteConfig

end Columnar
