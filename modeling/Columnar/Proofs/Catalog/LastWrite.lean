import Columnar.Proofs.Catalog

/-!
# Catalogs as maps in which the last write wins

A catalog finds a table by its database and its table name, each of them compared as a whole. So tables
stay apart whose names put together read the same, such as `a.b` with `c` and `a` with `b.c`. An insert
either takes the place of the one table of its names or comes last, and so no two entries share their
names, and the entries stand in the order in which their names first came.

* `Catalog.names_ofList` — the names of the entries
* `Catalog.table_insert_of_ne` — an insert is seen under its own names only
* `Catalog.resolve_of_table` — what a reference to a column of a table resolves to
* `Catalog.last_write_wins` — **a catalog of any inserts**
-/

namespace Columnar

namespace Table

variable {t : Table} {name : String}

theorem values_of_notMem (h : name ∉ t.columnNames) :
    t.values name = .error (.columnNotFound name t.qualifiedName) := by
  have hnone : t.columns.find? (·.name = name) = none := by
    rw [List.find?_eq_none]
    intro c hc hname
    exact h (of_decide_eq_true hname ▸ List.mem_map_of_mem hc)
  rw [values, column, hnone]
  rfl

end Table

namespace Catalog

variable {catalog : Catalog} {ts : List Table} {t : Table} {r : ColumnRef}

/-! ## Entries -/

/-- An insert adds the names of its table unless they are there. -/
theorem names_place (t : Table) (ts : List Table) :
    (place t ts).map Table.tableName =
      if t.tableName ∈ ts.map Table.tableName then ts.map Table.tableName
      else ts.map Table.tableName ++ [t.tableName] := by
  induction ts with
  | nil => rfl
  | cons u us ih =>
    rw [place]
    by_cases hu : u.tableName = t.tableName
    · rw [if_pos (Table.isNamed_iff.2 hu), List.map_cons, List.map_cons, hu, if_pos (List.mem_cons_self ..)]
    · rw [if_neg fun hnamed => hu (Table.isNamed_iff.1 hnamed), List.map_cons, ih]
      simp only [List.map_cons, List.mem_cons, Ne.symm hu, false_or]
      split <;> rfl

/-- **The entries go by the names of the tables, in the order in which these first came.** -/
theorem names_ofList (ts : List Table) :
    (ofList ts).tables.map Table.tableName = (ts.map Table.tableName).eraseDups := by
  induction ts using List.reverseRecOn with
  | nil => rfl
  | append_singleton ts t ih =>
    rw [ofList_concat, insert, names_place, ih, List.map_append, List.map_singleton, eraseDups_concat]
    exact if_congr List.mem_eraseDups rfl rfl

/-- Every entry is found under its names. -/
theorem table_of_mem_tables (ht : t ∈ (ofList ts).tables) : (ofList ts).table t.database t.name = .ok t := by
  have hnodup : ((ofList ts).tables.map Table.tableName).Nodup := by
    rw [names_ofList]
    exact nodup_eraseDups _
  have hnamed : Table.isNamed t.database t.name = fun u => decide (u.tableName = t.tableName) := by
    funext u
    rw [Bool.eq_iff_iff, Table.isNamed_iff, decide_eq_true_eq]
    rfl
  rw [table_eq_ok_iff, hnamed, find?_key_eq_some_iff hnodup]
  exact ⟨ht, rfl⟩

/-! ## Look-ups -/

/-- Nothing is found under names that no table had. -/
theorem table_ofList_eq_error_iff {database name : String} :
    (ofList ts).table database name = .error (.tableNotFound (database ++ "." ++ name)) ↔
      ∀ t ∈ ts, t.tableName ≠ ⟨database, name⟩ := by
  induction ts using List.reverseRecOn with
  | nil => exact iff_of_true rfl (List.forall_mem_nil _)
  | append_singleton ts u ih =>
    rw [ofList_concat, table_insert]
    simp only [List.forall_mem_append, List.forall_mem_singleton]
    by_cases hu : u.tableName = ⟨database, name⟩
    · rw [if_pos (Table.isNamed_iff.2 hu)]
      exact iff_of_false nofun fun h => h.2 hu
    · rw [if_neg fun hnamed => hu (Table.isNamed_iff.1 hnamed), ih]
      exact (and_iff_left hu).symm

/-- **An insert is seen under its own names only**, whatever these read put together. -/
theorem table_insert_of_ne (catalog : Catalog) {database name : String} (h : t.tableName ≠ ⟨database, name⟩) :
    (catalog.insert t).table database name = catalog.table database name := by
  rw [table_insert, if_neg fun hnamed => h (Table.isNamed_iff.1 hnamed)]

theorem resolve_of_table (h : catalog.table r.database r.table = .ok t) :
    catalog.resolve r = t.values r.column := by
  rw [resolve, h, Except.ok_bind]

theorem resolve_insert_of_ne (catalog : Catalog) (h : t.tableName ≠ r.tableName) :
    (catalog.insert t).resolve r = catalog.resolve r := by
  rw [resolve, resolve, table_insert_of_ne catalog h]

/-- **A catalog is a map in which the last write wins.** After any inserts, the table that is found under
two names is the last one of these names, and none is found iff there was none. The catalog has one entry
for each pair of names, in the order in which the pairs first came. A further insert changes no look-up
under other names. A reference resolves to the values of its column in the last table of its names. -/
theorem last_write_wins (ts : List Table) :
    let catalog := ofList ts
    (∀ database name t, catalog.table database name = .ok t ↔ IsLast ts ⟨database, name⟩ t) ∧
      (∀ database name, catalog.table database name = .error (.tableNotFound (database ++ "." ++ name)) ↔
        ∀ t ∈ ts, t.tableName ≠ ⟨database, name⟩) ∧
      catalog.tables.map Table.tableName = (ts.map Table.tableName).eraseDups ∧
      (∀ t ∈ catalog.tables, IsLast ts t.tableName t) ∧
      (∀ (t : Table) (r : ColumnRef), t.tableName ≠ r.tableName →
        (catalog.insert t).table r.database r.table = catalog.table r.database r.table ∧
          (catalog.insert t).resolve r = catalog.resolve r) ∧
      ∀ (r : ColumnRef) (t : Table), IsLast ts r.tableName t →
        (∀ c ∈ t.columns, c.name = r.column → catalog.resolve r = .ok c.values) ∧
          (r.column ∉ t.columnNames →
            catalog.resolve r = .error (.columnNotFound r.column t.qualifiedName)) := by
  intro catalog
  refine ⟨fun _ _ _ => table_ofList_eq_ok_iff, fun _ _ => table_ofList_eq_error_iff, names_ofList ts,
    fun t ht => table_ofList_eq_ok_iff.1 (table_of_mem_tables ht), fun t r h => ?_, fun r t h => ?_⟩
  · exact ⟨table_insert_of_ne catalog h, resolve_insert_of_ne catalog h⟩
  · have hresolve : catalog.resolve r = t.values r.column := resolve_of_table (table_ofList_eq_ok_iff.2 h)
    rw [hresolve]
    exact ⟨fun c hc hname => hname ▸ Table.values_of_mem hc, Table.values_of_notMem⟩

/-- Tables whose names put together read the same, the first of them written twice. -/
def dottedSample : List Table := [
  ⟨"a.b", "c", 1, [⟨"x", [1]⟩], by decide, by decide⟩,
  ⟨"a", "b.c", 1, [⟨"x", [2]⟩], by decide, by decide⟩,
  ⟨"a.b", "c", 2, [⟨"x", [3, 4]⟩], by decide, by decide⟩]

theorem last_write_wins_dottedSample :
    let catalog := ofList dottedSample
    dottedSample.map Table.qualifiedName = ["a.b.c", "a.b.c", "a.b.c"] ∧
      catalog.tables.map Table.tableName = [⟨"a.b", "c"⟩, ⟨"a", "b.c"⟩] ∧
      catalog.resolve ⟨"a.b", "c", "x"⟩ = .ok [3, 4] ∧ catalog.resolve ⟨"a", "b.c", "x"⟩ = .ok [2] ∧
      (catalog.insert (.empty "a" "b.c" 0)).resolve ⟨"a.b", "c", "x"⟩ = .ok [3, 4] ∧
      catalog.table "a.b.c" "" = .error (.tableNotFound "a.b.c.") := by
  obtain ⟨-, hnone, hnames, -, hinsert, hresolve⟩ := last_write_wins dottedSample
  have hfirst := (hresolve ⟨"a.b", "c", "x"⟩ _ ⟨dottedSample.take 2, [], rfl, rfl, by decide⟩).1
    ⟨"x", [3, 4]⟩ (by decide) rfl
  have hsecond := (hresolve ⟨"a", "b.c", "x"⟩ _ ⟨dottedSample.take 1, dottedSample.drop 2, rfl, rfl, by decide⟩).1
    ⟨"x", [2]⟩ (by decide) rfl
  exact ⟨by decide, hnames.trans (by decide), hfirst, hsecond,
    (hinsert (.empty "a" "b.c" 0) ⟨"a.b", "c", "x"⟩ (by decide)).2.trans hfirst,
    (hnone "a.b.c" "").2 (by decide)⟩

end Catalog

end Columnar
