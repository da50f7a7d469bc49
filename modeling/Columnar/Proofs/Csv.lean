import Columnar.Catalog
import Columnar.Csv
import Columnar.Proofs.Output.Fields
import Columnar.Proofs.Table

/-!
# Reading tables back from comma-separated text

Names are written as they are, so a text can be read back only if no name holds a character that
separates names, fields or lines. Numbers never do. Then each separator cuts a text where it was put: line
feeds give the header, the rows and the empty piece after the last line; commas give a field for each
column; points give the three names of a column. The rows are read off the columns, and so the columns are
read back off the rows.

* `Csv.splitOn_text` — the lines
* `Csv.splitOn_header`, `Csv.splitOn_row` — the fields of a line
* `Csv.read_text` — the table of a text
* `Csv.text_lossless` — **a text loses nothing**
-/

namespace Columnar

/-- Whether a name holds no comma, no point and no line feed. -/
def IsPlainName (name : String) : Prop :=
  ',' ∉ name.toList ∧ '.' ∉ name.toList ∧ '\n' ∉ name.toList

/-- The references to the columns of a table. -/
def Table.columnRefs (t : Table) : List ColumnRef :=
  t.columnNames.map t.columnRef

/-- Whether a table has a column, and all its names are plain. -/
structure Table.IsPlain (t : Table) : Prop where
  columns_ne_nil : t.columns ≠ []
  database : IsPlainName t.database
  name : IsPlainName t.name
  columns : ∀ c ∈ t.columns, IsPlainName c.name

namespace Csv

variable {t : Table}

/-! ## Lines -/

/-- The fields of a header. -/
def headerFields (t : Table) : List (List Char) :=
  t.columnRefs.map ColumnRef.chars

/-- The fields of a row. -/
def rowFields (row : List Int64) : List (List Char) :=
  row.map Text.int64Chars

/-- The lines of a text, without their ends. -/
def textLines (t : Table) : List (List Char) :=
  (headerFields t :: t.rows.map rowFields).map (List.intercalate [','])

/-- The text of a table ends each of its lines. -/
theorem toList_text (t : Table) : (text t).toList = (textLines t).flatMap (· ++ ['\n']) := by
  have hfields : (t.columnNames.map fun name => (t.qualifiedName ++ "." ++ name).toList) = headerFields t := by
    rw [headerFields, Table.columnRefs, List.map_map]
    refine List.map_congr_left fun name _ => ?_
    simp [Table.qualifiedName, Table.columnRef, ColumnRef.chars]
  rw [text, String.toList_ofList, chars, header, hfields, textLines, List.map_cons, List.map_map,
    List.flatMap_cons, List.flatMap_map]
  rfl

/-! ## Separators -/

theorem mem_columnRefs {r : ColumnRef} : r ∈ t.columnRefs ↔ ∃ c ∈ t.columns, t.columnRef c.name = r := by
  rw [Table.columnRefs, Table.columnNames, List.map_map]
  exact List.mem_map

theorem not_mem_headerFields (h : t.IsPlain) {field : List Char} (hfield : field ∈ headerFields t) :
    ',' ∉ field ∧ '\n' ∉ field := by
  obtain ⟨r, hr, rfl⟩ := List.mem_map.1 hfield
  obtain ⟨c, hc, rfl⟩ := mem_columnRefs.1 hr
  obtain ⟨hdatabase, -, hdatabase'⟩ := h.database
  obtain ⟨htable, -, htable'⟩ := h.name
  obtain ⟨hcolumn, -, hcolumn'⟩ := h.columns c hc
  simp [Table.columnRef, ColumnRef.chars, *]

theorem not_mem_rowFields {row : List Int64} {field : List Char} (hfield : field ∈ rowFields row) :
    ',' ∉ field ∧ '\n' ∉ field := by
  obtain ⟨v, -, rfl⟩ := List.mem_map.1 hfield
  have hsolid := Op.isSolid_int64Chars v
  exact ⟨fun hm => (hsolid ',' hm).1 rfl, hsolid.noFeed⟩

/-- Each line holds the fields of the header or of a row. -/
theorem not_mem_fields (h : t.IsPlain) {fields : List (List Char)}
    (hfields : fields ∈ headerFields t :: t.rows.map rowFields) : ∀ field ∈ fields, ',' ∉ field ∧ '\n' ∉ field := by
  intro field hfield
  rcases List.mem_cons.1 hfields with rfl | hfields
  · exact not_mem_headerFields h hfield
  · obtain ⟨row, -, rfl⟩ := List.mem_map.1 hfields
    exact not_mem_rowFields hfield

/-- **The lines of a text, and the empty piece after the last one.** -/
theorem splitOn_text (h : t.IsPlain) : Text.splitOn '\n' (text t).toList = textLines t ++ [[]] := by
  rw [toList_text]
  refine Text.splitOn_flatMap fun line hline hm => ?_
  obtain ⟨fields, hfields, rfl⟩ := List.mem_map.1 hline
  rcases Text.mem_intercalate hm with hcomma | ⟨field, hfield, hm⟩
  · cases hcomma
  · exact (not_mem_fields h hfields field hfield).2 hm

/-! ## Fields -/

/-- **The fields of a line are as many as there are columns, and commas cut them out.** -/
theorem splitOn_fields (h : t.IsPlain) {fields : List (List Char)}
    (hfields : fields ∈ headerFields t :: t.rows.map rowFields) :
    Text.splitOn ',' (List.intercalate [','] fields) = fields ∧ fields.length = t.columns.length := by
  have hlength : fields.length = t.columns.length := by
    rcases List.mem_cons.1 hfields with rfl | hfields
    · rw [headerFields, Table.columnRefs, Table.columnNames, List.length_map, List.length_map, List.length_map]
    · obtain ⟨row, hrow, rfl⟩ := List.mem_map.1 hfields
      rw [rowFields, List.length_map, ← List.length_map Column.values]
      exact Grid.length_of_mem_rows t.le_length_values hrow
  have hne : fields ≠ [] := by
    rw [← List.length_pos_iff, hlength, List.length_pos_iff]
    exact h.columns_ne_nil
  exact ⟨Text.splitOn_intercalate hne fun field hfield => (not_mem_fields h hfields field hfield).1, hlength⟩

theorem splitOn_header (h : t.IsPlain) :
    Text.splitOn ',' (List.intercalate [','] (headerFields t)) = headerFields t :=
  (splitOn_fields h (List.mem_cons_self ..)).1

theorem splitOn_row (h : t.IsPlain) {row : List Int64} (hrow : row ∈ t.rows) :
    Text.splitOn ',' (List.intercalate [','] (rowFields row)) = rowFields row :=
  (splitOn_fields h (List.mem_cons_of_mem _ (List.mem_map_of_mem hrow))).1

/-- Points cut a field of a header into the names of its column. -/
theorem splitOn_chars (h : t.IsPlain) {r : ColumnRef} (hr : r ∈ t.columnRefs) :
    Text.splitOn '.' r.chars = [r.database.toList, r.table.toList, r.column.toList] := by
  obtain ⟨c, hc, rfl⟩ := mem_columnRefs.1 hr
  simp only [Table.columnRef, ColumnRef.chars]
  rw [Text.splitOn_append h.database.2.1, Text.splitOn_append h.name.2.1,
    Text.splitOn_of_not_mem (h.columns c hc).2.1]

/-! ## Reading -/

/-- Reads the names of a column. -/
def readName (field : List Char) : Option ColumnRef :=
  match Text.splitOn '.' field with
  | [database, table, column] => some ⟨String.ofList database, String.ofList table, String.ofList column⟩
  | _ => none

/-- Reads the values of a row. -/
def readRow (line : List Char) : Option (List Int64) :=
  (Text.splitOn ',' line).mapM Text.readInt64

/-- Reads a table. The first of its columns tells the names of the table. -/
def read (text : String) : Option Table :=
  match Text.splitOn '\n' text.toList with
  | [] => none
  | header :: rest => do
    let names ← (Text.splitOn ',' header).mapM readName
    let first ← names.head?
    let rows ← rest.dropLast.mapM readRow
    let columns := (names.map ColumnRef.column).zipWith Column.mk (Grid.rows names.length rows)
    (Table.ofColumns first.database first.table rows.length columns).toOption

theorem mapM_map_eq_some {α β : Type} {write : α → β} {read : β → Option α} {l : List α}
    (h : ∀ a ∈ l, read (write a) = some a) : (l.map write).mapM read = some l := by
  induction l with
  | nil => rfl
  | cons a l ih =>
    obtain ⟨ha, hl⟩ := List.forall_mem_cons.1 h
    rw [List.map_cons, List.mapM_cons, ha, ih hl]
    rfl

theorem mapM_readName (h : t.IsPlain) : (headerFields t).mapM readName = some t.columnRefs := by
  refine mapM_map_eq_some fun r hr => ?_
  rw [readName, splitOn_chars h hr]
  simp

theorem readRow_of_splitOn {line : List Char} {row : List Int64} (h : Text.splitOn ',' line = rowFields row) :
    readRow line = some row := by
  rw [readRow, h]
  exact mapM_map_eq_some fun v _ => Text.readInt64_int64Chars v

theorem mapM_readRow (h : t.IsPlain) :
    (t.rows.map (List.intercalate [','] ∘ rowFields)).mapM readRow = some t.rows :=
  mapM_map_eq_some fun _ hrow => readRow_of_splitOn (splitOn_row h hrow)

/-- A table is made of its columns. -/
theorem ofColumns_columns (t : Table) : Table.ofColumns t.database t.name t.rowCount t.columns = .ok t :=
  Table.ofColumns_eq_ok_iff.2 ⟨⟨t.names_nodup, t.length_values⟩, rfl, rfl, rfl, rfl⟩

/-- Columns are made of their names and values. -/
theorem zipWith_columns (t : Table) :
    (t.columnRefs.map ColumnRef.column).zipWith Column.mk (Grid.rows t.columnRefs.length t.rows) = t.columns := by
  have hnames : t.columnRefs.map ColumnRef.column = t.columns.map Column.name := by
    rw [Table.columnRefs, List.map_map]
    exact List.map_id _
  have hcount : t.columnRefs.length = (t.columns.map Column.values).length := by
    rw [Table.columnRefs, Table.columnNames, List.length_map, List.length_map, List.length_map]
  rw [hnames, hcount, Table.rows, Grid.rows_rows (by simpa using t.length_values), List.zipWith_map,
    List.zipWith_self]
  exact List.map_id _

/-- **The table of a text is read back.** -/
theorem read_text (h : t.IsPlain) : read (text t) = some t := by
  obtain ⟨c, cs, hc⟩ := List.exists_cons_of_ne_nil h.columns_ne_nil
  have hfirst : t.columnRefs.head? = some (t.columnRef c.name) := by
    rw [Table.columnRefs, Table.columnNames, hc]
    rfl
  have hcount : t.rows.length = t.rowCount := Grid.length_rows ..
  rw [read, splitOn_text h, textLines, List.map_cons, List.cons_append, List.map_map]
  simp only [splitOn_header h, mapM_readName h, hfirst, List.dropLast_concat, mapM_readRow h, hcount, zipWith_columns,
    Option.bind_eq_bind, Option.bind_some]
  rw [Table.columnRef, ofColumns_columns]
  rfl

/-- A cell of a row holds the value of its column. -/
theorem exists_cell {i j : Nat} {c : Column} (hi : i < t.rowCount) (hc : t.columns[j]? = some c) :
    ∃ row v, t.rows[i]? = some row ∧ row[j]? = some v ∧ c.values[i]? = some v := by
  have hvalues : (t.columns.map Column.values)[j]? = some c.values := by
    rw [List.getElem?_map, hc, Option.map_some]
  exact Grid.exists_cell t.le_length_values hi hvalues

/-- **A text loses nothing** of a table with a column, if the names hold no comma, no point and no line
feed. Line feeds cut it into a header, a line for each row and an empty piece. Commas cut each line into a
field for each column; points cut the fields of the header into the names of the columns, and the fields
of a row read as the values of the columns. So the table is read back from its text, and no other table
has the same text. -/
theorem text_lossless (h : t.IsPlain) :
    (∃ header lines, Text.splitOn '\n' (text t).toList = header :: (lines ++ [[]]) ∧
      lines.length = t.rowCount ∧
      (∀ line ∈ header :: lines, (Text.splitOn ',' line).length = t.columns.length) ∧
      (∀ (j : Nat) (c : Column), t.columns[j]? = some c → (Text.splitOn ',' header)[j]?.map (Text.splitOn '.') =
        some [t.database.toList, t.name.toList, c.name.toList]) ∧
      ∀ (i j : Nat) (c : Column), i < t.rowCount → t.columns[j]? = some c → ∃ v, c.values[i]? = some v ∧
        ((lines[i]?.bind fun line => (Text.splitOn ',' line)[j]?).bind Text.readInt64) = some v) ∧
      read (text t) = some t ∧ ∀ u : Table, u.IsPlain → text u = text t → u = t := by
  refine ⟨⟨List.intercalate [','] (headerFields t), t.rows.map (List.intercalate [','] ∘ rowFields), ?_, ?_,
    fun line hline => ?_, fun j c hc => ?_, fun i j c hi hc => ?_⟩, read_text h, fun u hu htext => ?_⟩
  · rw [splitOn_text h, textLines, List.map_cons, List.cons_append, List.map_map]
  · rw [List.length_map]
    exact Grid.length_rows ..
  · rw [← List.map_map, ← List.map_cons] at hline
    obtain ⟨fields, hmem, rfl⟩ := List.mem_map.1 hline
    obtain ⟨hsplit, hlength⟩ := splitOn_fields h hmem
    rw [hsplit, hlength]
  · rw [splitOn_header h, headerFields, Table.columnRefs, Table.columnNames]
    simp only [List.getElem?_map, hc, Option.map_some]
    rw [splitOn_chars h (mem_columnRefs.2 ⟨c, List.mem_of_getElem? hc, rfl⟩)]
    rfl
  · obtain ⟨row, v, hrow, hv, hcv⟩ := exists_cell hi hc
    refine ⟨v, hcv, ?_⟩
    rw [List.getElem?_map, hrow, Option.map_some, Option.bind_some, Function.comp_apply,
      splitOn_row h (List.mem_of_getElem? hrow), rowFields, List.getElem?_map, hv, Option.map_some,
      Option.bind_some, Text.readInt64_int64Chars]
  · exact Option.some.inj ((read_text hu).symm.trans (htext ▸ read_text h))

/-- The least and the greatest value. -/
def limitsSample : Table where
  database := "db1"
  name := "t"
  rowCount := 2
  columns := [⟨"a", [Int64.minValue, 7]⟩, ⟨"b", [-1, Int64.maxValue]⟩]
  names_nodup := by decide
  length_values := by decide

theorem text_lossless_limitsSample :
    text limitsSample = "db1.t.a,db1.t.b\n-9223372036854775808,-1\n7,9223372036854775807\n" ∧
      read (text limitsSample) = some limitsSample ∧ text (limitsSample.renamed "u") ≠ text limitsSample := by
  have hname : ∀ name ∈ ["db1", "t", "u", "a", "b"], IsPlainName name := by
    unfold IsPlainName
    decide
  have hcolumns : ∀ c ∈ limitsSample.columns, IsPlainName c.name := by
    simp [limitsSample, hname]
  have hplain : limitsSample.IsPlain := ⟨by decide, hname _ (by decide), hname _ (by decide), hcolumns⟩
  have hrenamed : (limitsSample.renamed "u").IsPlain :=
    ⟨by decide, hname _ (by decide), hname _ (by decide), hcolumns⟩
  obtain ⟨-, hread, honly⟩ := text_lossless hplain
  exact ⟨by decide +kernel, hread, fun h => absurd (honly _ hrenamed h) (by decide)⟩

end Csv

end Columnar
