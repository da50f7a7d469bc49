import Columnar.Catalog
import Columnar.ColumnRef
import Columnar.CommandLine
import Columnar.Csv
import Columnar.DataError
import Columnar.Dataset.Draft
import Columnar.Dataset.Error
import Columnar.Dataset.Filling
import Columnar.Dataset.Index
import Columnar.Dataset.Join
import Columnar.Decimal.Binary
import Columnar.Decimal.Fixed
import Columnar.Decimal.Integer
import Columnar.Decimal.Reader
import Columnar.Decimal.Shortest
import Columnar.FileStore
import Columnar.FileTree
import Columnar.Grid
import Columnar.JsonText
import Columnar.Keyword
import Columnar.Main
import Columnar.Output
import Columnar.Predicate
import Columnar.Proofs.Catalog
import Columnar.Proofs.Catalog.LastWrite
import Columnar.Proofs.Csv
import Columnar.Proofs.Dataset.Contents
import Columnar.Proofs.Dataset.Draft
import Columnar.Proofs.Dataset.DrawOrder
import Columnar.Proofs.Dataset.Fillings
import Columnar.Proofs.Dataset.Generation
import Columnar.Proofs.Dataset.IndexContents
import Columnar.Proofs.Dataset.JoinKeys
import Columnar.Proofs.Dataset.Refusals
import Columnar.Proofs.Dataset.Runs
import Columnar.Proofs.Dataset.Tables
import Columnar.Proofs.Decimal.Arithmetic
import Columnar.Proofs.Decimal.Integers
import Columnar.Proofs.Decimal.Nearest
import Columnar.Proofs.Decimal.Order
import Columnar.Proofs.Decimal.Places
import Columnar.Proofs.Decimal.Rounding
import Columnar.Proofs.Grid
import Columnar.Proofs.Keyed
import Columnar.Proofs.Output.ClosedLines
import Columnar.Proofs.Output.Decoding
import Columnar.Proofs.Output.Fields
import Columnar.Proofs.Output.Items
import Columnar.Proofs.Output.LineCount
import Columnar.Proofs.Output.Transposition
import Columnar.Proofs.Query.Chains
import Columnar.Proofs.Query.Ids
import Columnar.Proofs.Query.Matching
import Columnar.Proofs.Query.Mean
import Columnar.Proofs.Query.Origins
import Columnar.Proofs.Query.Positions
import Columnar.Proofs.Query.Product
import Columnar.Proofs.Random.Successive
import Columnar.Proofs.Random.Zipf
import Columnar.Proofs.RangePlanner
import Columnar.Proofs.Reorder
import Columnar.Proofs.Results
import Columnar.Proofs.Run.Composition
import Columnar.Proofs.Run.Independence
import Columnar.Proofs.Run.Joins
import Columnar.Proofs.Run.Labels
import Columnar.Proofs.Run.ManyToOne
import Columnar.Proofs.Run.Progress
import Columnar.Proofs.Run.Renaming
import Columnar.Proofs.Run.RowOrder
import Columnar.Proofs.Run.Sorting
import Columnar.Proofs.Run.Steps
import Columnar.Proofs.Script.CallForm
import Columnar.Proofs.Script.Canonical
import Columnar.Proofs.Script.Fields
import Columnar.Proofs.Script.LineByLine
import Columnar.Proofs.Script.LineForm
import Columnar.Proofs.Script.ResultHandles
import Columnar.Proofs.Script.RoundTrip
import Columnar.Proofs.Script.Spacing
import Columnar.Proofs.Suite.BatchRuns
import Columnar.Proofs.Suite.Canonical
import Columnar.Proofs.Suite.ExpectedLines
import Columnar.Proofs.Suite.Generate
import Columnar.Proofs.Suite.IndexRuns
import Columnar.Proofs.Suite.IndexScripts
import Columnar.Proofs.Suite.Interference
import Columnar.Proofs.Suite.JoinAnswers
import Columnar.Proofs.Suite.JoinRuns
import Columnar.Proofs.Suite.JoinScripts
import Columnar.Proofs.Suite.Lookups
import Columnar.Proofs.Suite.Outcomes
import Columnar.Proofs.Suite.Pairs
import Columnar.Proofs.Suite.Plans
import Columnar.Proofs.Suite.Reproduction
import Columnar.Proofs.Table
import Columnar.Proofs.Table.Edits
import Columnar.Proofs.Text.BlankEnds
import Columnar.Proofs.Text.LineEnds
import Columnar.Proofs.Text.Splitting
import Columnar.Proofs.Text.Trimming
import Columnar.Proofs.Verdict
import Columnar.Proofs.Verdict.Reasons
import Columnar.Query.Aggregate
import Columnar.Query.Error
import Columnar.Query.Join
import Columnar.Query.Select
import Columnar.Random.ChaCha
import Columnar.Random.Source
import Columnar.Random.Zipf
import Columnar.RangePlanner
import Columnar.Run.Environment
import Columnar.Run.Interpreter
import Columnar.Script.Basic
import Columnar.Script.Line
import Columnar.Script.Parser
import Columnar.Script.Printer
import Columnar.Suite.Condition
import Columnar.Suite.Config
import Columnar.Suite.Generate
import Columnar.Suite.IndexQueries
import Columnar.Suite.JoinQueries
import Columnar.Suite.Manifest
import Columnar.Suite.Scenario
import Columnar.Suite.Summary
import Columnar.Table
import Columnar.Table.Editing
import Columnar.Text.Blank
import Columnar.Text.Lines
import Columnar.Text.Numeral
import Columnar.Verdict
