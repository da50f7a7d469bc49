import Columnar.Proofs.Catalog
import Columnar.Proofs.Run.Steps
import Mathlib.Tactic.SplitIfs

/-!
# Sorts of handles

A script can be checked before it runs. Every handle is given a sort: the table whose rows it lists, or
that it lists values, or that it is a scalar. Lists that run side by side carry a common *tag*: a select
or a join starts a new tag, a fetch goes on with the tag of the rows it reads at. The rules are given
twice, as a relation (`Sorting.Step`) and as a function that decides it (`Sorting.step?`).

What a script may print is left open, because two theorems differ in it: with `Printable` it is scalars
only or sequences of one tag only, with `Scalars` it is scalars only.

* `Sorting.step?_eq_some_iff`, `Sorting.run?_eq_some_iff` — the function decides the relation
* `Sorting.Run.append` — sorting a script in two parts
-/

namespace Columnar

/-- The column of the catalog that an operation reads. -/
def Op.column? : Op → Option ColumnRef
  | select _ (.column column) _ => some column
  | fetch _ column _ => some column
  | _ => none

theorem Op.column?_of_isInert {op : Op} (h : op.isInert = true) : op.column? = none := by
  cases op with
  | select _ _ _ | fetch _ _ _ => cases h
  | _ => rfl

namespace Catalog

/-- Whether a catalog holds every column that a script reads. -/
def Holds (catalog : Catalog) (s : Script) : Prop :=
  ∀ op ∈ s, ∀ r ∈ op.column?, (catalog.resolve r).isOk = true

instance (catalog : Catalog) : DecidablePred catalog.Holds := fun s =>
  inferInstanceAs (Decidable (∀ op ∈ s, ∀ r ∈ op.column?, (catalog.resolve r).isOk = true))

variable {catalog : Catalog} {op : Op} {s : Script}

theorem Holds.tail (h : catalog.Holds (op :: s)) : catalog.Holds s :=
  fun o ho => h o (List.mem_cons_of_mem op ho)

theorem Holds.exists_values (h : catalog.Holds s) (hop : op ∈ s) (r : ColumnRef) (hr : op.column? = some r) :
    ∃ values, catalog.resolve r = .ok values :=
  Except.isOk_iff.1 (h op hop r hr)

end Catalog

/-! ## Sorts -/

/-- What is known of a handle before a script runs. -/
inductive HandleSort where
  /-- Rows of a table. -/
  | rows (table : TableName) (tag : Nat)
  /-- Values, one for each of the rows of the same tag. -/
  | values (tag : Nat)
  | scalar
  deriving DecidableEq, Repr

/-- The tag of a list. -/
def HandleSort.tag? : HandleSort → Option Nat
  | rows _ tag => some tag
  | values tag => some tag
  | scalar => none

/-- The sorts of the handles bound so far, and a tag above all tags in use. -/
structure Sorting where
  sort? : Handle → Option HandleSort
  fresh : Nat
  tag_lt : ∀ h σ tag, sort? h = some σ → σ.tag? = some tag → tag < fresh

namespace Sorting

/-- No handle has a sort. -/
def empty : Sorting where
  sort? := fun _ => none
  fresh := 0
  tag_lt := by simp

/-- Gives a handle a sort, in the place of an earlier one. -/
def bind (Γ : Sorting) (handle : Handle) (σ : HandleSort) : Sorting where
  sort? := fun h => if h = handle then some σ else Γ.sort? h
  fresh := max Γ.fresh ((σ.tag?.map (· + 1)).getD 0)
  tag_lt := by
    intro h τ tag hτ htag
    by_cases hh : h = handle
    · obtain rfl : σ = τ := by simpa [hh] using hτ
      simp only [htag, Option.map_some, Option.getD_some]
      omega
    · -- an earlier sort has its tag below the earlier bound
      have := Γ.tag_lt h τ tag (by simpa [hh] using hτ) htag
      omega

@[simp] theorem sort?_bind (Γ : Sorting) (handle h : Handle) (σ : HandleSort) :
    (Γ.bind handle σ).sort? h = if h = handle then some σ else Γ.sort? h := rfl

/-! ## What may be printed -/

/-- All handles are scalars. -/
def Scalars (Γ : Sorting) (handles : List Handle) : Prop :=
  ∀ h ∈ handles, Γ.sort? h = some .scalar

/-- All handles are lists of one tag. -/
def Aligned (Γ : Sorting) (handles : List Handle) : Prop :=
  ∃ tag, ∀ h ∈ handles, (Γ.sort? h).bind HandleSort.tag? = some tag

/-- Scalars only, or lists of one tag only. -/
def Printable (Γ : Sorting) (handles : List Handle) : Prop :=
  Γ.Scalars handles ∨ Γ.Aligned handles

instance (Γ : Sorting) : DecidablePred Γ.Scalars := fun handles =>
  inferInstanceAs (Decidable (∀ h ∈ handles, Γ.sort? h = some .scalar))

/-- The tag can only be that of the first handle. -/
theorem aligned_cons_iff (Γ : Sorting) (h : Handle) (handles : List Handle) :
    Γ.Aligned (h :: handles) ↔ ((Γ.sort? h).bind HandleSort.tag?).isSome = true ∧
      ∀ k ∈ handles, (Γ.sort? k).bind HandleSort.tag? = (Γ.sort? h).bind HandleSort.tag? := by
  constructor
  · rintro ⟨tag, hall⟩
    have hh := hall h (by simp)
    exact ⟨by simp [hh], fun k hk => by rw [hh, hall k (List.mem_cons_of_mem h hk)]⟩
  · rintro ⟨hsome, hall⟩
    obtain ⟨tag, htag⟩ := Option.isSome_iff_exists.1 hsome
    refine ⟨tag, fun k hk => ?_⟩
    rcases List.mem_cons.1 hk with rfl | hk
    · exact htag
    · rw [hall k hk, htag]

instance (Γ : Sorting) : DecidablePred Γ.Aligned
  | [] => isTrue ⟨0, by simp⟩
  | h :: handles => decidable_of_iff' _ (aligned_cons_iff Γ h handles)

instance (Γ : Sorting) : DecidablePred Γ.Printable := fun handles =>
  inferInstanceAs (Decidable (Γ.Scalars handles ∨ Γ.Aligned handles))

/-! ## The rules -/

/-- What a single operation needs of the sorts of its handles, and what it binds. -/
inductive Step (rule : Sorting → List Handle → Prop) (Γ : Sorting) : Op → Sorting → Prop where
  | inert {op : Op} (h : op.isInert = true) : Step rule Γ op Γ
  | selectColumn {out : Handle} {column : ColumnRef} {p : Predicate} :
    Step rule Γ (.select out (.column column) p) (Γ.bind out (.rows column.tableName Γ.fresh))
  | selectRefine {out rows values : Handle} {p : Predicate} {table : TableName} {tag : Nat}
    (hrows : Γ.sort? rows = some (.rows table tag)) (hvalues : Γ.sort? values = some (.values tag)) :
    Step rule Γ (.select out (.refine rows values) p) (Γ.bind out (.rows table Γ.fresh))
  | fetch {out rows : Handle} {column : ColumnRef} {tag : Nat}
    (hrows : Γ.sort? rows = some (.rows column.tableName tag)) :
    Step rule Γ (.fetch out column rows) (Γ.bind out (.values tag))
  | join {leftOut rightOut : Handle} {left right : JoinInput} {kind : JoinKind}
    {leftTable rightTable : TableName} {leftTag rightTag : Nat}
    (hleftRows : Γ.sort? left.rows = some (.rows leftTable leftTag))
    (hleftValues : Γ.sort? left.values = some (.values leftTag))
    (hrightRows : Γ.sort? right.rows = some (.rows rightTable rightTag))
    (hrightValues : Γ.sort? right.values = some (.values rightTag)) :
    Step rule Γ (.join leftOut rightOut left right kind)
      ((Γ.bind leftOut (.rows leftTable Γ.fresh)).bind rightOut (.rows rightTable Γ.fresh))
  | aggregate {f : AggregateFunction} {out input : Handle} {tag : Nat}
    (hinput : Γ.sort? input = some (.values tag)) :
    Step rule Γ (.aggregate f out input) (Γ.bind out .scalar)
  | print {handles : List Handle} (hprint : rule Γ handles) : Step rule Γ (.print handles) Γ

/-- The operations of a script, one after the other. -/
inductive Run (rule : Sorting → List Handle → Prop) : Sorting → Script → Sorting → Prop where
  | nil {Γ : Sorting} : Run rule Γ [] Γ
  | cons {Γ Γ' Γ'' : Sorting} {op : Op} {ops : Script} (first : Step rule Γ op Γ')
    (rest : Run rule Γ' ops Γ'') : Run rule Γ (op :: ops) Γ''

variable {rule : Sorting → List Handle → Prop} {Γ Γ' Γ'' : Sorting} {op : Op} {s t : Script}

theorem Run.append (hs : Run rule Γ s Γ') (ht : Run rule Γ' t Γ'') : Run rule Γ (s ++ t) Γ'' := by
  induction hs with
  | nil => exact ht
  | cons first _ ih => exact .cons first (ih ht)

theorem Run.single (h : Step rule Γ op Γ') : Run rule Γ [op] Γ' :=
  .cons h .nil

/-- Operations for the engine alone leave the sorts as they are. -/
theorem Run.inert (h : ∀ op ∈ s, op.isInert = true) : Run rule Γ s Γ := by
  induction s with
  | nil => exact .nil
  | cons op ops ih => exact .cons (.inert (h op (by simp))) (ih fun o ho => h o (List.mem_cons_of_mem op ho))

/-! ## Deciding the rules -/

/-- The table of a row set that values are listed beside. -/
def keyedTable? (Γ : Sorting) (rows values : Handle) : Option TableName :=
  match Γ.sort? rows, Γ.sort? values with
  | some (.rows table tag), some (.values tag') => if tag' = tag then some table else none
  | _, _ => none

/-- The sorts after an operation, if it fits the sorts before it. -/
def step? (rule : Sorting → List Handle → Prop) [∀ Γ, DecidablePred (rule Γ)] (Γ : Sorting) :
    Op → Option Sorting
  | .select out (.column column) _ => some (Γ.bind out (.rows column.tableName Γ.fresh))
  | .select out (.refine rows values) _ =>
    (Γ.keyedTable? rows values).map fun table => Γ.bind out (.rows table Γ.fresh)
  | .fetch out column rows =>
    match Γ.sort? rows with
    | some (.rows table tag) => if table = column.tableName then some (Γ.bind out (.values tag)) else none
    | _ => none
  | .join leftOut rightOut left right _ =>
    (Γ.keyedTable? left.rows left.values).bind fun leftTable =>
      (Γ.keyedTable? right.rows right.values).map fun rightTable =>
        (Γ.bind leftOut (.rows leftTable Γ.fresh)).bind rightOut (.rows rightTable Γ.fresh)
  | .aggregate _ out input =>
    match Γ.sort? input with
    | some (.values _) => some (Γ.bind out .scalar)
    | _ => none
  | .print handles => if rule Γ handles then some Γ else none
  | .comment _ | .createTable .. | .createColumn .. | .createIndex .. | .load _ | .shutdown => some Γ

/-- The sorts after a script, if each operation fits the sorts before it. -/
def run? (rule : Sorting → List Handle → Prop) [∀ Γ, DecidablePred (rule Γ)] (Γ : Sorting) :
    Script → Option Sorting
  | [] => some Γ
  | op :: ops => (step? rule Γ op).bind fun Γ => run? rule Γ ops

theorem keyedTable?_eq_some_iff {rows values : Handle} {table : TableName} :
    Γ.keyedTable? rows values = some table ↔
      ∃ tag, Γ.sort? rows = some (.rows table tag) ∧ Γ.sort? values = some (.values tag) := by
  unfold keyedTable?
  constructor
  · intro h
    split at h
    · rename_i table' tag tag' hrows hvalues
      split_ifs at h with htag
      obtain rfl : table' = table := by simpa using h
      exact ⟨tag, hrows, htag ▸ hvalues⟩
    · cases h
  · rintro ⟨tag, hrows, hvalues⟩
    simp [hrows, hvalues]

section

variable [∀ Γ, DecidablePred (rule Γ)]

/-- **The function decides the relation**, one operation at a time. -/
theorem step?_eq_some_iff : step? rule Γ op = some Γ' ↔ Step rule Γ op Γ' := by
  constructor
  · intro h
    cases op with
    | comment _ | createTable _ _ _ | createColumn _ _ _ | createIndex _ _ _ | load _ | shutdown =>
      obtain rfl : Γ = Γ' := by simpa [step?] using h
      exact .inert rfl
    | select out source p =>
      cases source with
      | column column =>
        obtain rfl : Γ.bind out (.rows column.tableName Γ.fresh) = Γ' := by simpa [step?] using h
        exact .selectColumn
      | refine rows values =>
        obtain ⟨table, htable, rfl⟩ := Option.map_eq_some_iff.1 h
        obtain ⟨tag, hrows, hvalues⟩ := keyedTable?_eq_some_iff.1 htable
        exact .selectRefine hrows hvalues
    | fetch out column rows =>
      simp only [step?] at h
      split at h
      · rename_i table tag hrows
        split_ifs at h with htable
        obtain rfl : Γ.bind out (.values tag) = Γ' := by simpa using h
        exact .fetch (htable ▸ hrows)
      · cases h
    | join leftOut rightOut left right kind =>
      obtain ⟨leftTable, hleft, h⟩ := Option.bind_eq_some_iff.1 h
      obtain ⟨rightTable, hright, rfl⟩ := Option.map_eq_some_iff.1 h
      obtain ⟨leftTag, hleftRows, hleftValues⟩ := keyedTable?_eq_some_iff.1 hleft
      obtain ⟨rightTag, hrightRows, hrightValues⟩ := keyedTable?_eq_some_iff.1 hright
      exact .join hleftRows hleftValues hrightRows hrightValues
    | aggregate f out input =>
      simp only [step?] at h
      split at h
      · rename_i tag hinput
        obtain rfl : Γ.bind out .scalar = Γ' := by simpa using h
        exact .aggregate hinput
      · cases h
    | print handles =>
      simp only [step?] at h
      split_ifs at h with hprint
      obtain rfl : Γ = Γ' := by simpa using h
      exact .print hprint
  · intro h
    cases h with
    | inert h => cases op <;> simp_all [Op.isInert, step?]
    | selectColumn => rfl
    | selectRefine hrows hvalues =>
      rw [step?, keyedTable?_eq_some_iff.2 ⟨_, hrows, hvalues⟩, Option.map_some]
    | fetch hrows => simp [step?, hrows]
    | join hleftRows hleftValues hrightRows hrightValues =>
      rw [step?, keyedTable?_eq_some_iff.2 ⟨_, hleftRows, hleftValues⟩,
        keyedTable?_eq_some_iff.2 ⟨_, hrightRows, hrightValues⟩, Option.bind_some, Option.map_some]
    | aggregate hinput => simp [step?, hinput]
    | print hprint => rw [step?, if_pos hprint]

/-- The function decides the relation on whole scripts. -/
theorem run?_eq_some_iff : run? rule Γ s = some Γ' ↔ Run rule Γ s Γ' := by
  induction s generalizing Γ with
  | nil =>
    constructor
    · intro h
      obtain rfl : Γ = Γ' := by simpa [run?] using h
      exact .nil
    · rintro ⟨⟩
      rfl
  | cons op ops ih =>
    rw [run?, Option.bind_eq_some_iff]
    -- both go through the same sorts after the first operation
    constructor
    · rintro ⟨Γ₁, hstep, hrun⟩
      exact .cons (step?_eq_some_iff.1 hstep) (ih.1 hrun)
    · rintro (_ | ⟨first, rest⟩)
      exact ⟨_, step?_eq_some_iff.2 first, ih.2 rest⟩

end

end Sorting

/-- A script whose handles can be given sorts from the start on. -/
def Script.WellSorted (rule : Sorting → List Handle → Prop) (s : Script) : Prop :=
  ∃ Γ, Sorting.Run rule .empty s Γ

instance (rule : Sorting → List Handle → Prop) [∀ Γ, DecidablePred (rule Γ)] :
    DecidablePred (Script.WellSorted rule) := fun s =>
  decidable_of_iff ((Sorting.run? rule .empty s).isSome = true) <| by
    simp only [Option.isSome_iff_exists, Sorting.run?_eq_some_iff, Script.WellSorted]

end Columnar
