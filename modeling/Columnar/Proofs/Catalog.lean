import Columnar.Catalog
import Columnar.Proofs.Keyed
import Columnar.Proofs.Results
import Mathlib.Data.List.Induction

/-!
# Columns of a catalog

A column that a catalog resolves belongs to a table that the catalog holds, and has a value for each
row of that table. Hence the row ids of one column are those of every other column of its table.

* `Catalog.resolve_eq_ok_iff` — what it is to resolve a reference
* `Catalog.isRow_iff_lt_length` — the rows of a table, read off any of its columns
* `Catalog.table_ofList_eq_ok_iff` — what is found in a catalog that is made of a list
-/

namespace Columnar

/-- The names that a table goes by. -/
structure TableName where
  database : String
  name : String
  deriving DecidableEq, Repr

/-- The names of the table of a column. -/
def ColumnRef.tableName (r : ColumnRef) : TableName :=
  ⟨r.database, r.table⟩

namespace Table

variable {t : Table} {name : String}

theorem column_eq_ok_iff {c : Column} :
    t.column name = .ok c ↔ t.columns.find? (·.name = name) = some c := by
  unfold column
  split
  · rename_i d hd
    simp [hd]
  · rename_i hnone
    simp [hnone]

/-- The values of a column are found under its name. -/
theorem values_of_mem {c : Column} (h : c ∈ t.columns) : t.values c.name = .ok c.values :=
  Except.map_eq_ok_iff.2
    ⟨c, column_eq_ok_iff.2 ((find?_key_eq_some_iff t.names_nodup).2 ⟨h, rfl⟩), rfl⟩

/-- Every column that a table has can be looked up. -/
theorem exists_values (h : name ∈ t.columnNames) : ∃ values, t.values name = .ok values := by
  obtain ⟨c, hc, rfl⟩ := List.mem_map.1 h
  exact ⟨c.values, values_of_mem hc⟩

/-- The names of a table. -/
def tableName (t : Table) : TableName :=
  ⟨t.database, t.name⟩

theorem isNamed_iff {database name : String} :
    t.isNamed database name = true ↔ t.tableName = ⟨database, name⟩ := by
  rw [isNamed, Bool.and_eq_true, decide_eq_true_eq, decide_eq_true_eq, tableName, TableName.mk.injEq]

theorem length_of_values_eq_ok {values : List Int64} (h : t.values name = .ok values) :
    values.length = t.rowCount := by
  obtain ⟨c, hc, rfl⟩ := Except.map_eq_ok_iff.1 h
  exact t.length_values c (List.mem_of_find?_eq_some (column_eq_ok_iff.1 hc))

/-- A table has the same columns under another name. -/
theorem values_renamed {values : List Int64} (h : t.values name = .ok values) (other : String) :
    (t.renamed other).values name = .ok values := by
  obtain ⟨c, hc, rfl⟩ := Except.map_eq_ok_iff.1 h
  have hfind := column_eq_ok_iff.1 hc
  exact Except.map_eq_ok_iff.2 ⟨c, column_eq_ok_iff.2 hfind, rfl⟩

end Table

namespace Catalog

variable {catalog : Catalog} {r : ColumnRef} {values : List Int64} {i : Nat}

/-- Whether a row id is a row of the table of the given names. -/
def IsRow (catalog : Catalog) (table : TableName) (i : Nat) : Prop :=
  ∃ t, catalog.table table.database table.name = .ok t ∧ i < t.rowCount

theorem table_eq_ok_iff {database name : String} {t : Table} :
    catalog.table database name = .ok t ↔ catalog.tables.find? (Table.isNamed database name) = some t := by
  unfold table
  split
  · rename_i u hu
    simp [hu]
  · rename_i hnone
    simp [hnone]

/-! ### Catalogs made of lists -/

/-- The last of a list of tables that goes by given names. -/
def IsLast (ts : List Table) (names : TableName) (t : Table) : Prop :=
  ∃ before after, ts = before ++ t :: after ∧ t.tableName = names ∧ ∀ u ∈ after, u.tableName ≠ names

section OfList

variable {ts : List Table} {t u : Table} {names : TableName}

theorem not_isLast_nil : ¬ IsLast [] names t := by
  rintro ⟨before, after, h, -⟩
  simp at h

/-- A table at the end is the last one of its names. -/
theorem isLast_concat_of_eq (h : u.tableName = names) : IsLast (ts ++ [u]) names t ↔ u = t := by
  constructor
  · rintro ⟨before, after, hts, -, hafter⟩
    rcases List.eq_nil_or_concat after with rfl | ⟨rest, v, rfl⟩
    · exact (List.append_singleton_inj.1 hts).2
    · -- a table after `t` would be `u`, which goes by the names
      rw [List.concat_eq_append, ← List.cons_append, ← List.append_assoc, List.append_singleton_inj] at hts
      exact absurd h (hafter u (by simp [hts.2]))
  · rintro rfl
    exact ⟨ts, [], rfl, h, List.forall_mem_nil _⟩

/-- A table of other names at the end changes nothing. -/
theorem isLast_concat_of_ne (h : u.tableName ≠ names) : IsLast (ts ++ [u]) names t ↔ IsLast ts names t := by
  constructor
  · rintro ⟨before, after, hts, ht, hafter⟩
    rcases List.eq_nil_or_concat after with rfl | ⟨rest, v, rfl⟩
    · exact absurd ht ((List.append_singleton_inj.1 hts).2 ▸ h)
    · rw [List.concat_eq_append, ← List.cons_append, ← List.append_assoc, List.append_singleton_inj] at hts
      exact ⟨before, rest, hts.1, ht, fun w hw => hafter w (by simp [hw])⟩
  · rintro ⟨before, after, rfl, ht, hafter⟩
    refine ⟨before, after ++ [u], by simp, ht, fun w hw => ?_⟩
    rcases List.mem_append.1 hw with hw | hw
    · exact hafter w hw
    · rwa [List.mem_singleton.1 hw]

theorem ofList_concat (ts : List Table) (u : Table) : ofList (ts ++ [u]) = (ofList ts).insert u := by
  rw [ofList, List.foldl_append]
  rfl

/-- **What is found under two names is the last table of these names.** -/
theorem table_ofList_eq_ok_iff {database name : String} :
    (ofList ts).table database name = .ok t ↔ IsLast ts ⟨database, name⟩ t := by
  induction ts using List.reverseRecOn with
  | nil => exact iff_of_false nofun not_isLast_nil
  | append_singleton ts u ih =>
    rw [ofList_concat, table_insert]
    by_cases h : u.tableName = ⟨database, name⟩
    · rw [if_pos (Table.isNamed_iff.2 h), Except.ok.injEq, isLast_concat_of_eq h]
    · rw [if_neg (fun hnamed => h (Table.isNamed_iff.1 hnamed)), ih, isLast_concat_of_ne h]

/-- Tables of different names are all found in the catalog that is made of them. -/
theorem table_ofList (hnodup : (ts.map Table.tableName).Nodup) (ht : t ∈ ts) :
    (ofList ts).table t.database t.name = .ok t := by
  obtain ⟨before, after, rfl⟩ := List.append_of_mem ht
  refine table_ofList_eq_ok_iff.2 ⟨before, after, rfl, rfl, fun u hu hnames => ?_⟩
  rw [List.map_append, List.map_cons, List.nodup_append] at hnodup
  refine (List.nodup_cons.1 hnodup.2.1).1 ?_
  rw [show t.tableName = u.tableName from hnames.symm]
  exact List.mem_map_of_mem hu

end OfList

/-! ### Columns -/

theorem resolve_eq_ok_iff :
    catalog.resolve r = .ok values ↔
      ∃ t, catalog.table r.database r.table = .ok t ∧ t.values r.column = .ok values :=
  Except.bind_eq_ok_iff

/-- **The rows of a table are the positions of any of its columns.** -/
theorem isRow_iff_lt_length (h : catalog.resolve r = .ok values) :
    catalog.IsRow r.tableName i ↔ i < values.length := by
  obtain ⟨t, ht, hvalues⟩ := resolve_eq_ok_iff.1 h
  rw [Table.length_of_values_eq_ok hvalues]
  constructor
  · rintro ⟨u, hu, hi⟩
    obtain rfl : u = t := Except.ok.inj (hu.symm.trans ht)
    exact hi
  · intro hi
    exact ⟨t, ht, hi⟩

/-- **Columns of one table are equally long.** -/
theorem length_eq_of_resolve {r' : ColumnRef} {values' : List Int64}
    (h : catalog.resolve r = .ok values) (h' : catalog.resolve r' = .ok values')
    (htable : r.tableName = r'.tableName) : values.length = values'.length := by
  obtain ⟨t, ht, hvalues⟩ := resolve_eq_ok_iff.1 h
  obtain ⟨t', ht', hvalues'⟩ := resolve_eq_ok_iff.1 h'
  obtain ⟨hdatabase, hname⟩ := TableName.mk.inj htable
  rw [hdatabase, hname, ht', Except.ok.injEq] at ht
  subst ht
  rw [Table.length_of_values_eq_ok hvalues, Table.length_of_values_eq_ok hvalues']

/-- Two tables that share their keys. -/
def sample : Catalog :=
  .ofList [
    ⟨"db", "fact", 3, [⟨"key", [1, 2, 1]⟩, ⟨"amount", [10, 20, 30]⟩], by decide, by decide⟩,
    ⟨"db", "dim", 2, [⟨"key", [2, 1]⟩], by decide, by decide⟩]

end Catalog

end Columnar
