import Columnar.Query.Select
import Std.Data.HashMap

/-!
# Equi-joins

A join pairs the row ids of two lists of keyed rows wherever the keys are equal, ordered by the left
position and then by the right one. The right rows are grouped by key once; each left row is then
paired with the group of its key. The kind of join that a script asks for plays no part.

## Main statements

* `bucket_index`: the group of a key holds the right rows of that key, in order.
* `pairs_eq_nestedLoop`: the pairs are those of two nested loops over all positions.
-/

namespace Columnar.Query

/-- The right rows of a join, grouped by key. -/
abbrev JoinIndex := Std.HashMap Int64 RowSet

/-- The group of a key. -/
def bucket (index : JoinIndex) (key : Int64) : RowSet :=
  index.getD key []

/-- Groups keyed rows; within a group they keep their order. -/
def joinIndex (keyed : List (Int64 × Nat)) : JoinIndex :=
  keyed.foldr (fun (key, row) index => index.insert key (row :: bucket index key)) ∅

/-- The pairs of left and right rows with equal keys. -/
def pairs (left right : List (Int64 × Nat)) : List (Nat × Nat) :=
  let index := joinIndex right
  left.flatMap fun (key, l) => (bucket index key).map fun r => (l, r)

/-- Joins two lists of keyed rows. The left side's lengths are compared before the right side's. -/
def join (leftValues : List Int64) (leftRows : RowSet) (rightValues : List Int64) (rightRows : RowSet) :
    Except QueryError (List (Nat × Nat)) :=
  if leftValues.length ≠ leftRows.length then
    .error (.lengthMismatch .joinLeft leftValues.length leftRows.length)
  else if rightValues.length ≠ rightRows.length then
    .error (.lengthMismatch .joinRight rightValues.length rightRows.length)
  else
    .ok (pairs (leftValues.zip leftRows) (rightValues.zip rightRows))

/-- The group of a key holds the right rows of that key, in order. -/
theorem bucket_index (keyed : List (Int64 × Nat)) (key : Int64) :
    bucket (joinIndex keyed) key = (keyed.filter (·.1 = key)).map Prod.snd := by
  induction keyed with
  | nil => simp [joinIndex, bucket]
  | cons kr keyed ih =>
    obtain ⟨k, r⟩ := kr
    rw [joinIndex, List.foldr_cons, ← joinIndex]
    simp only [bucket, Std.HashMap.getD_insert]
    by_cases h : k = key
    · subst h
      simpa [bucket] using ih
    · simpa [bucket, h] using ih

/-- The pairs of two nested loops over all positions. -/
def nestedLoop (left right : List (Int64 × Nat)) : List (Nat × Nat) :=
  left.flatMap fun (k, l) => right.filterMap fun (k', r) => if k' = k then some (l, r) else none

/-- **The pairs are those of two nested loops**, in the same order. -/
theorem pairs_eq_nestedLoop (left right : List (Int64 × Nat)) : pairs left right = nestedLoop left right := by
  have group : ∀ (key : Int64) (l : Nat), ((bucket (joinIndex right) key).map fun r => (l, r)) =
      right.filterMap fun (k', r) => if k' = key then some (l, r) else none := by
    intro key l
    rw [bucket_index]
    induction right with
    | nil => rfl
    | cons kr right ih =>
      obtain ⟨k, r⟩ := kr
      by_cases h : k = key <;> simp [h, ih]
  simp [pairs, nestedLoop, group]

/-- Sides with a value for each row are joined. -/
theorem join_eq_ok {leftValues rightValues : List Int64} {leftRows rightRows : RowSet}
    (hleft : leftValues.length = leftRows.length) (hright : rightValues.length = rightRows.length) :
    join leftValues leftRows rightValues rightRows =
      .ok (nestedLoop (leftValues.zip leftRows) (rightValues.zip rightRows)) := by
  rw [join, if_neg (not_not_intro hleft), if_neg (not_not_intro hright), pairs_eq_nestedLoop]

end Columnar.Query
