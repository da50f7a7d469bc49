import Columnar.Script.Basic
import Columnar.Script.Line

/-!
# Reading scripts

A script is read line by line: blank lines are passed over, every other line is one operation. The
first line that cannot be read is the error of the whole text, with its number counted from one over
all lines.

## Termination

`Script.ofLines` recurses on the list of lines; the readers of single lines do not recurse.

## Main statements

* `Script.ofLines_append`: the lines of a text are read one after the other, and the numbers go on.
-/

namespace Columnar

open Text (splitOn)

/-! ## Errors -/

/-- Why a line is no operation. -/
inductive LineError where
  | unrecognised (text : String)
  | unknownOperation (name : String)
  | arity (name : String) (expected actual : Nat)
  | selectArity
  | needsOneOut (name : String)
  | joinNeedsTwoOuts
  | printShape
  | unknownCreateTarget
  | columnCount
  | qualifiedTable
  | bound (text : String)
  | data (cause : DataError)
  deriving DecidableEq, Repr

/-- The sentence that tells why. -/
def LineError.message : LineError → String
  | unrecognised text => s!"unrecognised line '{text}'"
  | unknownOperation name => s!"unknown operation '{name}'"
  | arity name expected actual => s!"{name} expects {expected} arguments, got {actual}"
  | selectArity => "select expects 3 or 4 arguments"
  | needsOneOut name => s!"{name} needs one result handle"
  | joinNeedsTwoOuts => "join needs two result handles"
  | printShape => "print takes handles and returns nothing"
  | unknownCreateTarget => "unknown create target"
  | columnCount => "invalid column count"
  | qualifiedTable => "expected db.table"
  | bound text => s!"invalid bound '{text}'"
  | data cause => cause.message

/-- Which line of a text cannot be read, and why. -/
structure ParseError where
  line : Nat
  cause : LineError
  deriving DecidableEq, Repr

/-- The sentence that names the line and tells why it cannot be read. -/
def ParseError.message (e : ParseError) : String :=
  s!"Parse error on line {e.line}: {e.cause.message}"

/-! ## Arguments -/

namespace Op

/-- The text between two quotes; other text as it is. -/
def unquote : List Char → List Char
  | '"' :: rest => if rest.getLast? = some '"' then rest.dropLast else '"' :: rest
  | cs => cs

/-- A text before and after its first dot. -/
def splitDot (cs : List Char) : Option (List Char × List Char) :=
  match cs.dropWhile (· ≠ '.') with
  | [] => none
  | _ :: rest => some (cs.takeWhile (· ≠ '.'), rest)

/-- Reads a column reference. -/
def readRef (cs : List Char) : Except LineError ColumnRef :=
  (ColumnRef.parse cs).mapError .data

/-- Reads a bound. -/
def readBound (cs : List Char) : Except LineError Bound :=
  match Bound.parse? cs with
  | some b => .ok b
  | none => .error (.bound (String.ofList cs))

/-- Reads the two bounds of a range. -/
def readPredicate (low high : List Char) : Except LineError Predicate := do
  let low ← readBound low
  let high ← readBound high
  return ⟨low, high⟩

/-- The result handle of a call that has exactly one. -/
def singleOut (c : Call) : Except LineError Handle :=
  match c.outs with
  | [out] => .ok (String.ofList out)
  | _ => .error (.needsOneOut (String.ofList c.name))

/-- That a call has `expected` arguments. -/
def wrongArity {α : Type} (c : Call) (expected : Nat) : Except LineError α :=
  .error (.arity (String.ofList c.name) expected c.args.length)

/-! ## Operations -/

/-- Reads a declaration. -/
def ofCreate (c : Call) : Except LineError Op :=
  match c.args with
  | target :: args =>
    if target = "tbl".toList then
      match args with
      | [name, database, columns] =>
        match Text.readUInt64 columns with
        | some n => .ok (.createTable (String.ofList (unquote name)) (String.ofList database) n)
        | none => .error .columnCount
      | _ => wrongArity c 4
    else if target = "col".toList then
      match args with
      | [name, table] =>
        match splitDot table with
        | some (database, table) =>
          .ok (.createColumn (String.ofList (unquote name)) (String.ofList database) (String.ofList table))
        | none => .error .qualifiedTable
      | _ => wrongArity c 3
    else if target = "idx".toList then
      match args with
      | [column, kind, clustering] => do
        let column ← readRef column
        let kind ← (IndexKind.parse kind).mapError .data
        let clustering ← (Clustering.parse clustering).mapError .data
        return .createIndex column kind clustering
      | _ => wrongArity c 4
    else .error .unknownCreateTarget
  | [] => .error .unknownCreateTarget

/-- Reads a load. -/
def ofLoad (c : Call) : Except LineError Op :=
  match c.args with
  | [path] => .ok (.load (String.ofList (unquote path)))
  | _ => wrongArity c 1

/-- Reads a select, from a column or from an earlier select. -/
def ofSelect (c : Call) : Except LineError Op := do
  let out ← singleOut c
  match c.args with
  | [column, low, high] => do
    let column ← readRef column
    return .select out (.column column) (← readPredicate low high)
  | [rows, values, low, high] =>
    return .select out (.refine (String.ofList rows) (String.ofList values)) (← readPredicate low high)
  | _ => .error .selectArity

/-- Reads a fetch. -/
def ofFetch (c : Call) : Except LineError Op :=
  match c.args with
  | [column, rows] => do
    let out ← singleOut c
    return .fetch out (← readRef column) (String.ofList rows)
  | _ => wrongArity c 2

/-- Reads a join. -/
def ofJoin (c : Call) : Except LineError Op :=
  match c.args with
  | [leftValues, leftRows, rightValues, rightRows, kind] =>
    match c.outs with
    | [leftOut, rightOut] => do
      let kind ← (JoinKind.parse kind).mapError .data
      return .join (String.ofList leftOut) (String.ofList rightOut)
        ⟨String.ofList leftValues, String.ofList leftRows⟩
        ⟨String.ofList rightValues, String.ofList rightRows⟩ kind
    | _ => .error .joinNeedsTwoOuts
  | _ => wrongArity c 5

/-- Reads an aggregate. -/
def ofAggregate (function : AggregateFunction) (c : Call) : Except LineError Op :=
  match c.args with
  | [input] => do
    let out ← singleOut c
    return .aggregate function out (String.ofList input)
  | _ => wrongArity c 1

/-- Reads a print, which binds nothing and names every handle it prints. -/
def ofPrint (c : Call) : Except LineError Op :=
  if c.outs.isEmpty && c.args.all (fun arg => !arg.isEmpty) then
    .ok (.print (c.args.map String.ofList))
  else .error .printShape

/-- The operation that a call stands for. -/
def ofCall (c : Call) : Except LineError Op :=
  match String.ofList c.name with
  | "create" => ofCreate c
  | "load" => ofLoad c
  | "select" => ofSelect c
  | "fetch" => ofFetch c
  | "join" => ofJoin c
  | "sum" => ofAggregate .sum c
  | "avg" => ofAggregate .avg c
  | "print" => ofPrint c
  | name => .error (.unknownOperation name)

/-- The operation of a line, if it is not blank. -/
def parseLine (cs : List Char) : Except LineError (Option Op) :=
  match Line.recognise cs with
  | none => .error (.unrecognised (String.ofList (Text.trim cs)))
  | some .blank => .ok none
  | some (.comment text) => .ok (some (.comment (String.ofList text)))
  | some .shutdown => .ok (some .shutdown)
  | some (.call c) => (ofCall c).map some

end Op

/-! ## Scripts -/

namespace Script

/-- Reads lines, of which the first has a given number. -/
def ofLines : (number : Nat) → List (List Char) → Except ParseError Script
  | _, [] => .ok []
  | number, line :: rest =>
    match Op.parseLine line with
    | .error cause => .error ⟨number, cause⟩
    | .ok op => (ofLines (number + 1) rest).map (op.toList ++ ·)

/-- Reads a script. -/
def parseChars (cs : List Char) : Except ParseError Script :=
  ofLines 1 (Text.lines cs)

/-- Reads a script. -/
def parse (text : String) : Except ParseError Script :=
  parseChars text.toList

/-- **The lines of a text are read one after the other, and the numbers go on.** -/
theorem ofLines_append (number : Nat) (ls ms : List (List Char)) :
    ofLines number (ls ++ ms) =
      (ofLines number ls).bind fun s => (ofLines (number + ls.length) ms).map (s ++ ·) := by
  induction ls generalizing number with
  | nil =>
    cases h : ofLines number ms <;> simp [ofLines, Except.bind, Except.map, h]
  | cons l ls ih =>
    rw [List.cons_append, ofLines, ofLines]
    cases Op.parseLine l with
    | error e => rfl
    | ok op =>
      have hn : number + 1 + ls.length = number + (l :: ls).length := by
        simp only [List.length_cons]
        omega
      simp only [ih, hn]
      cases ofLines (number + 1) ls with
      | error e => rfl
      | ok s =>
        cases ofLines (number + (l :: ls).length) ms with
        | error e => rfl
        | ok t => simp [Except.bind, Except.map]

end Script

end Columnar
