import Columnar.Proofs.Run.Steps
import Mathlib.Algebra.Group.Nat.Defs
import Mathlib.Data.List.Nodup
import Mathlib.Data.List.Zip

/-!
# Joins of many rows with one

The keys of a table may count its rows from one. A column that refers to them then holds row numbers, and
each of its values is the key of exactly one row. So a join by that column neither drops a row nor
repeats one: it pairs the rows, in order, with the rows that they refer to.

* `Query.nestedLoop_of_refersTo`, `Run.step_join_of_refersTo` — a join by references
* `Query.refersTo_countedKeys` — row numbers refer to counted keys
* `isManyToOne_of_refersTo` — **a join by references pairs every row once**
-/

namespace Columnar

namespace Query

/-! ## References -/

/-- The row of a key that counts rows from one. -/
def rowOfKey (key : Int64) : Nat :=
  key.toNatClampNeg - 1

/-- Values that are each the key of one row alone, which is the row that they count. -/
structure RefersTo (refs keys : List Int64) : Prop where
  count_eq_one : ∀ v ∈ refs, keys.count v = 1
  getElem?_rowOfKey : ∀ v ∈ refs, keys[rowOfKey v]? = some v

/-- The rows of a key that occurs once. -/
theorem filter_zipIdx_of_count_eq_one {keys : List Int64} {v : Int64} {row : Nat} (hcount : keys.count v = 1)
    (hrow : keys[row]? = some v) : keys.zipIdx.filter (·.1 = v) = [(v, row)] := by
  -- one row is left by the filter, and the given one is among those that are
  have hlength : (keys.zipIdx.filter (·.1 = v)).length = 1 := by
    rw [← hcount, ← List.countP_eq_length_filter, List.count, ← List.zipIdx_map_fst 0 keys, List.countP_map]
    simp [Function.comp_def, beq_eq_decide]
  have hmem : (v, row) ∈ keys.zipIdx.filter (·.1 = v) :=
    List.mem_filter.2 ⟨List.mk_mem_zipIdx_iff_getElem?.2 hrow, decide_eq_true rfl⟩
  obtain ⟨p, hp⟩ := List.length_eq_one_iff.1 hlength
  rw [hp, List.mem_singleton] at hmem
  rw [hp, hmem]

/-- **A join by references pairs every row once, in order, with the row that it refers to.** -/
theorem nestedLoop_of_refersTo {refs keys : List Int64} (h : RefersTo refs keys) :
    nestedLoop (refs.zip (List.range refs.length)) (keys.zip (List.range keys.length)) =
      (List.range refs.length).zip (refs.map rowOfKey) := by
  have hpartner : ∀ p ∈ refs.zip (List.range refs.length),
      ((bucket (joinIndex (keys.zip (List.range keys.length))) p.1).map fun r => (p.2, r)) =
        [(p.2, rowOfKey p.1)] := by
    intro p hp
    have hv : p.1 ∈ refs := (List.of_mem_zip hp).1
    have hrows := filter_zipIdx_of_count_eq_one (h.count_eq_one _ hv) (h.getElem?_rowOfKey _ hv)
    rw [bucket_index, List.range_eq_range', ← List.zipIdx_eq_zip_range', hrows]
    rfl
  rw [← pairs_eq_nestedLoop]
  calc pairs (refs.zip (List.range refs.length)) (keys.zip (List.range keys.length))
      = (refs.zip (List.range refs.length)).flatMap fun p => [(p.2, rowOfKey p.1)] :=
        List.flatMap_congr hpartner
    _ = (refs.zip (List.range refs.length)).map fun p => (p.2, rowOfKey p.1) := by
        rw [List.map_eq_flatMap]
    _ = (List.range refs.length).zip (refs.map rowOfKey) := by
        rw [List.zip_map_right, ← List.zip_swap refs, List.map_map]
        rfl

theorem join_of_refersTo {refs keys : List Int64} (h : RefersTo refs keys) :
    join refs (List.range refs.length) keys (List.range keys.length) =
      .ok ((List.range refs.length).zip (refs.map rowOfKey)) := by
  rw [join_eq_ok List.length_range.symm List.length_range.symm, nestedLoop_of_refersTo h]

/-! ## Counted keys -/

/-- The keys `1, 2, …, n`. -/
def countedKeys (n : Nat) : List Int64 :=
  (List.range' 1 n).map Int64.ofNat

/-- Keys that are signed integers are counted without a repetition. -/
theorem nodup_countedKeys {n : Nat} (hn : n < 2 ^ 63) : (countedKeys n).Nodup := by
  refine List.Nodup.map_on (fun k hk k' hk' h => ?_) List.nodup_range'
  rw [List.mem_range'_1] at hk hk'
  have hint := congrArg Int64.toInt h
  rw [Int64.toInt_ofNat_of_lt (by omega), Int64.toInt_ofNat_of_lt (by omega)] at hint
  exact Int.ofNat.inj hint

/-- **Row numbers refer to counted keys.** -/
theorem refersTo_countedKeys {n : Nat} (hn : n < 2 ^ 63) {refs : List Int64}
    (hrefs : ∀ v ∈ refs, 1 ≤ v.toInt ∧ v.toInt ≤ n) : RefersTo refs (countedKeys n) := by
  have hkey : ∀ v ∈ refs, (countedKeys n)[rowOfKey v]? = some v := by
    intro v hv
    obtain ⟨hlow, hhigh⟩ := hrefs v hv
    have hrow : rowOfKey v < n ∧ 1 + rowOfKey v = v.toInt.toNat := by
      rw [rowOfKey, Int64.toNatClampNeg]
      omega
    rw [countedKeys, List.getElem?_map, List.getElem?_range' hrow.1, Nat.one_mul, hrow.2]
    have hvalue : Int64.ofNat v.toInt.toNat = v := by
      rw [← Int64.toInt_inj, Int64.toInt_ofNat_of_lt (by omega)]
      omega
    rw [Option.map_some, hvalue]
  exact ⟨fun v hv => List.count_eq_one_of_mem (nodup_countedKeys hn) (List.mem_of_getElem? (hkey v hv)), hkey⟩

end Query

namespace Run

variable {catalog : Catalog} {env : Environment}

/-- **A join operation by references binds all left rows and the rows that they refer to**, whatever kind of
join it asks for. -/
theorem step_join_of_refersTo {refs keys : List Int64} (h : Query.RefersTo refs keys) {left right : JoinInput}
    (hleftValues : env.lookup? left.values = some (.values refs))
    (hleftRows : env.lookup? left.rows = some (.rows (List.range refs.length)))
    (hrightValues : env.lookup? right.values = some (.values keys))
    (hrightRows : env.lookup? right.rows = some (.rows (List.range keys.length)))
    (leftOut rightOut : Handle) (kind : JoinKind) :
    step catalog env (.join leftOut rightOut left right kind) =
      .ok ((env.bind leftOut (.rows (List.range refs.length))).bind rightOut
        (.rows (refs.map Query.rowOfKey)), none) := by
  have hlength : (List.range refs.length).length = (refs.map Query.rowOfKey).length := by
    rw [List.length_range, List.length_map]
  rw [step_join hleftValues hleftRows hrightValues hrightRows List.length_range.symm List.length_range.symm,
    Query.nestedLoop_of_refersTo h, List.map_fst_zip (Nat.le_of_eq hlength),
    List.map_snd_zip (Nat.le_of_eq hlength.symm)]

end Run

/-! ## Many rows with one -/

/-- What a join by a column of references comes to. -/
structure IsManyToOne (refs keys : List Int64) : Prop where
  /-- Each reference is the key of one row. -/
  count_eq_one : ∀ v ∈ refs, keys.count v = 1
  /-- All rows are paired, in order, each with the row that its reference counts. -/
  join_eq : Query.join refs (List.range refs.length) keys (List.range keys.length) =
    .ok ((List.range refs.length).zip (refs.map Query.rowOfKey))
  /-- A join operation binds these rows, whatever kind of join it asks for. -/
  step_eq : ∀ (catalog : Catalog) (env : Environment) (left right : JoinInput) (leftOut rightOut : Handle)
    (kind : JoinKind), env.lookup? left.values = some (.values refs) →
    env.lookup? left.rows = some (.rows (List.range refs.length)) →
    env.lookup? right.values = some (.values keys) →
    env.lookup? right.rows = some (.rows (List.range keys.length)) →
    Run.step catalog env (.join leftOut rightOut left right kind) =
      .ok ((env.bind leftOut (.rows (List.range refs.length))).bind rightOut
        (.rows (refs.map Query.rowOfKey)), none)

theorem isManyToOne_of_refersTo {refs keys : List Int64} (h : Query.RefersTo refs keys) : IsManyToOne refs keys where
  count_eq_one := h.count_eq_one
  join_eq := Query.join_of_refersTo h
  step_eq _ _ _ _ leftOut rightOut kind hleftValues hleftRows hrightValues hrightRows :=
    Run.step_join_of_refersTo h hleftValues hleftRows hrightValues hrightRows leftOut rightOut kind

end Columnar
