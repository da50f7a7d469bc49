import Columnar.Dataset.Draft

/-!
# Filling a draft in place

A caller that holds a draft fills it call by call, and goes on after a call that was refused. So here a
filling works on the draft where it stands, statement by statement: what it has set or drawn before an
error stays set and drawn. The fillings of `Columnar.Dataset.Draft` make a new draft of an old one
instead, and hand out none with an error.
-/

namespace Columnar

open Columnar.Random

/-- A filling with its arguments. Drawing a mask is one that fills nothing. -/
inductive Filling where
  | uniformColumns (names : List String) (low high : Int64)
  | uniform (column : String) (low high : Int64)
  | zipf (column : String) (law : Zipf)
  | constant (column : String) (value : Int64)
  | sequence (column : String) (start : Int64)
  | drawMask (threshold : Float)
  | inject (column : String) (mask : List Bool) (value : Int64)
  | addColumn (target source : String)
  deriving Repr

/-- Work on a draft in place: a generation that holds the draft beside its source of draws. An error ends
it and takes nothing back. -/
abbrev InPlace (σ : Type) := Generation (Draft × σ)

namespace InPlace

variable {σ α : Type}

/-- The draft as it is now. -/
def draft : InPlace σ Draft := do
  return (← get).1

/-- The result of draws. -/
def draw (draws : StateM σ α) : InPlace σ α := do
  let (d, s) ← get
  let (a, s) := draws.run s
  set (d, s)
  return a

/-- Replaces the values of a column, or adds the column. -/
def fill (column : String) (values : List Int64) : InPlace σ Unit :=
  modify fun (d, s) => (d.set column values, s)

end InPlace

namespace Filling

open InPlace

/-- The columns that a filling sets where it is not refused, in the order in which it sets them. -/
def names : Filling → List String
  | uniformColumns names _ _ => names
  | uniform column _ _ => [column]
  | zipf column _ => [column]
  | constant column _ => [column]
  | sequence column _ => [column]
  | drawMask _ => []
  | inject column _ _ => [column]
  | addColumn target _ => [target]

section Draws

variable {σ : Type} [DrawSource σ]

/-- The draft that a filling makes of a draft. -/
def on : Filling → Draft → Generation σ Draft
  | uniformColumns names low high, d => d.uniformColumns names low high
  | uniform column low high, d => d.fillUniform column low high
  | zipf column law, d => Generation.ofDraws (d.fillZipf column law)
  | constant column value, d => pure (d.fillConstant column value)
  | sequence column start, d => pure (d.fillSequence column start)
  | drawMask threshold, d => do
    let _ ← Generation.ofDraws (d.mask threshold)
    return d
  | inject column mask value, d => Generation.ofExcept (d.inject column mask value)
  | addColumn target source, d => Generation.ofExcept (d.addColumn target source)

/-- Fills a draft in place. -/
def perform : Filling → InPlace σ Unit
  | uniformColumns names low high => do
    if let first :: _ := names then
      Generation.ofExcept (Draft.checkRange first low high)
    let rows := (← draft).rowCount
    let matrix ← draw (repeatDraw rows (repeatDraw names.length (Random.uniform low high)))
    (names.zip (Grid.rows names.length matrix)).forM fun (name, values) => fill name values
  | uniform column low high => do
    Generation.ofExcept (Draft.checkRange column low high)
    fill column (← draw (repeatDraw (← draft).rowCount (Random.uniform low high)))
  | zipf column law => do
    fill column ((← draw (law.drawMany (← draft).rowCount)).map Int64.ofNat)
  | constant column value => do
    fill column (List.replicate (← draft).rowCount value)
  | sequence column start => do
    let rows := Int64.ofNat (← draft).rowCount
    fill column ((List.range rows.toNatClampNeg).map fun i => start + Int64.ofNat i)
  | drawMask threshold => do
    let _ ← draw ((← draft).mask threshold)
  | inject column mask value => do
    let rows := (← draft).rowCount
    unless mask.length = rows do
      throw (.maskLength rows mask.length)
    let old ← Generation.ofExcept ((← draft).values column)
    fill column (old.zipWith (fun v selected => if selected then value else v) mask)
  | addColumn target source => do
    let addends ← Generation.ofExcept ((← draft).values source)
    let old ← Generation.ofExcept ((← draft).values target)
    fill target (old.zipWith (· + ·) addends)

/-- Performs fillings one after the other, whether or not they are refused, and tells what came of each. -/
def performAll : List Filling → StateM (Draft × σ) (List (Except GenerationError Unit))
  | [] => return []
  | filling :: fillings => do
    let outcome ← ExceptT.run filling.perform
    return outcome :: (← performAll fillings)

end Draws

/-- The names that fillings have set, in order, of those that were not refused. -/
def namesSet (fillings : List Filling) (outcomes : List (Except GenerationError Unit)) : List String :=
  (fillings.zip outcomes).flatMap fun (filling, outcome) => if outcome.isOk then filling.names else []

end Filling

end Columnar
