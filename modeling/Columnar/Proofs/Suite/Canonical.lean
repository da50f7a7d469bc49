import Columnar.Proofs.Dataset.Tables
import Columnar.Proofs.Run.Sorting
import Columnar.Proofs.Script.Canonical
import Columnar.Proofs.Text.Trimming
import Columnar.Suite.Condition
import Columnar.Suite.Config

/-!
# When the operations of a suite are canonical

The comments of a suite are put together from words, names and numbers; they begin and end with words,
so only a line feed could hurt them. All of its handles are result handles, also where they are read.
So an operation that binds or prints is canonical if the column it reads is referred to by plain names,
and a load is canonical if the directory of the configuration holds neither a comma nor a line feed.

* `Op.isCanonical_comment_append` — comments from parts
* `Op.isCanonical_of_handles` — operations on result handles
* `Op.isCanonical_load_iff` — loads from the configured directory
-/

namespace Columnar

/-! ## Texts on one line -/

namespace Text

variable {s t : String}

/-- A text without line feeds. -/
def OnLine (s : String) : Prop :=
  '\n' ∉ s.toList

/-- A text that can begin a comment. -/
def OpensLine (s : String) : Prop :=
  (s.toList ≠ [] ∧ NoBlankStart s.toList) ∧ OnLine s

/-- A text that can end a comment. -/
def ClosesLine (s : String) : Prop :=
  (s.toList ≠ [] ∧ NoBlankEnd s.toList) ∧ OnLine s

instance : DecidablePred OnLine := fun s => inferInstanceAs (Decidable ('\n' ∉ s.toList))

instance : DecidablePred OpensLine := fun s =>
  inferInstanceAs (Decidable ((s.toList ≠ [] ∧ NoBlankStart s.toList) ∧ OnLine s))

instance : DecidablePred ClosesLine := fun s =>
  inferInstanceAs (Decidable ((s.toList ≠ [] ∧ NoBlankEnd s.toList) ∧ OnLine s))

theorem OnLine.append (hs : OnLine s) (ht : OnLine t) : OnLine (s ++ t) := by
  intro h
  rw [String.toList_append] at h
  exact (List.mem_append.1 h).elim hs ht

theorem OpensLine.append (hs : OpensLine s) (ht : OnLine t) : OpensLine (s ++ t) := by
  refine ⟨⟨?_, ?_⟩, hs.2.append ht⟩
  · rw [String.toList_append]
    exact List.append_ne_nil_of_left_ne_nil hs.1.1 _
  · rw [String.toList_append]
    exact (noBlankStart_append hs.1.1).2 hs.1.2

/-- The condition of a range holds numbers beside the name of its column. -/
theorem onLine_condition {column : String} (hcolumn : OnLine column) (p : Predicate) :
    OnLine (p.condition column) := by
  have hvalue : ∀ v, OnLine (Predicate.valueText v) := by
    intro v h
    rw [Predicate.valueText, String.toList_ofList] at h
    rcases mem_intChars h with h | h <;> simp at h
  unfold Predicate.condition
  split
  · exact ((((hcolumn.append (by decide)).append (hvalue _)).append (by decide)).append hcolumn).append
      (by decide) |>.append (hvalue _)
  · exact (hcolumn.append (by decide)).append (hvalue _)
  · exact (hcolumn.append (by decide)).append (hvalue _)
  · decide

theorem mem_dropEndWhile_iff {α : Type} {p : α → Bool} {a : α} {l : List α} (ha : p a = false) :
    a ∈ dropEndWhile p l ↔ a ∈ l := by
  have hdrop : a ∈ l.reverse.dropWhile p ↔ a ∈ l.reverse := by
    constructor
    · exact fun h => (List.dropWhile_sublist p).subset h
    · intro h
      rw [← List.takeWhile_append_dropWhile (p := p) (l := l.reverse), List.mem_append] at h
      refine h.resolve_left fun htake => ?_
      rw [List.mem_takeWhile_imp htake] at ha
      cases ha
  rw [dropEndWhile, List.mem_reverse, hdrop, List.mem_reverse]

end Text

/-! ## Operations -/

open Text

namespace Op

/-- A comment of known characters. Checking the characters is much faster than decoding the text. -/
theorem isCanonical_comment_ofList {cs : List Char}
    (h : '\n' ∉ cs ∧ NoBlankStart cs ∧ NoBlankEnd cs) : (comment (String.ofList cs)).IsCanonical := by
  constructor
  · intro t ht
    obtain rfl : t = String.ofList cs := by simpa [texts] using ht
    rw [String.toList_ofList]
    exact h.1
  · rw [HasForm, String.toList_ofList]
    exact h.2

/-- A comment that begins and ends with words. -/
theorem isCanonical_comment_append {s t : String} (hs : OpensLine s) (ht : ClosesLine t) :
    (comment (s ++ t)).IsCanonical := by
  refine ⟨?_, ?_, ?_⟩
  · intro u hu
    obtain rfl : u = s ++ t := by simpa [texts] using hu
    exact hs.2.append ht.2
  · rw [String.toList_append]
    exact (noBlankStart_append hs.1.1).2 hs.1.2
  · rw [String.toList_append]
    exact (noBlankEnd_append ht.1.1).2 ht.1.2

theorem isCanonical_comments {texts : List String} (h : ∀ t ∈ texts, (comment t).IsCanonical) :
    ∀ op ∈ Script.comments texts, op.IsCanonical := by
  intro op hop
  obtain ⟨t, ht, rfl⟩ := List.mem_map.1 hop
  exact h t ht

/-- A reference that reads back, on one line. -/
def IsCleanReference (r : ColumnRef) : Prop :=
  (∀ t ∈ refTexts r, OnLine t) ∧ IsReference r

instance : DecidablePred IsCleanReference := fun r =>
  inferInstanceAs (Decidable ((∀ t ∈ refTexts r, OnLine t) ∧ IsReference r))

/-- What is a result handle can also be read as an argument. -/
theorem IsResult.isArgument {h : Handle} (hh : IsResult h) : (h ≠ "" ∧ IsArgument h) ∧ OnLine h := by
  have hchar : ∀ d ∈ h.toList, Call.isHandleChar d = true := fun d hd => Call.isHandleChar_of_mem hh hd
  refine ⟨⟨?_, ?_, ?_⟩, ?_⟩
  · rintro rfl
    exact hh
  · intro hcomma
    have := hchar ',' hcomma
    simp [Call.isHandleChar] at this
  · exact trim_of_forall_not_isBlank fun c hc => Call.not_isBlank_of_isHandleChar (hchar c hc)
  · intro hfeed
    have := hchar '\n' hfeed
    simp [Call.isHandleChar] at this

/-- **An operation on result handles is canonical** if it reads a column by a clean reference. -/
theorem isCanonical_of_handles {op : Op} (hinert : op.isInert = false) (hprint : op ≠ print [])
    (hhandles : ∀ h ∈ op.outs ++ op.reads, IsResult h) (hcolumn : ∀ r ∈ op.column?, IsCleanReference r) :
    op.IsCanonical := by
  have hresult : ∀ h, h ∈ op.outs ∨ h ∈ op.reads → (IsResult h ∧ h ≠ "" ∧ IsArgument h) ∧ OnLine h := by
    intro h hmem
    have hh := hhandles h (List.mem_append.2 hmem)
    exact ⟨⟨hh, hh.isArgument.1⟩, hh.isArgument.2⟩
  cases op with
  | comment _ | createTable _ _ _ | createColumn _ _ _ | createIndex _ _ _ | load _ | shutdown =>
    simp [isInert] at hinert
  | select out source p =>
    have hout := hresult out (.inl (by simp [outs]))
    cases source with
    | column column =>
      have hclean := hcolumn column rfl
      exact ⟨List.forall_mem_cons.2 ⟨hout.2, hclean.1⟩, hout.1.1, hclean.2⟩
    | refine rows values =>
      have hrows := hresult rows (.inr (by simp [reads]))
      have hvalues := hresult values (.inr (by simp [reads]))
      refine ⟨?_, hout.1.1, hrows.1.2.2, hvalues.1.2.2⟩
      simpa [texts] using ⟨hout.2, hrows.2, hvalues.2⟩
  | fetch out column rows =>
    have hout := hresult out (.inl (by simp [outs]))
    have hrows := hresult rows (.inr (by simp [reads]))
    have hclean := hcolumn column rfl
    exact ⟨List.forall_mem_cons.2 ⟨hout.2, List.forall_mem_cons.2 ⟨hrows.2, hclean.1⟩⟩,
      hout.1.1, hclean.2, hrows.1.2.2⟩
  | join leftOut rightOut left right kind =>
    have hleftOut := hresult leftOut (.inl (by simp [outs]))
    have hrightOut := hresult rightOut (.inl (by simp [outs]))
    have hleftValues := hresult left.values (.inr (by simp [reads]))
    have hleftRows := hresult left.rows (.inr (by simp [reads]))
    have hrightValues := hresult right.values (.inr (by simp [reads]))
    have hrightRows := hresult right.rows (.inr (by simp [reads]))
    refine ⟨?_, ⟨hleftOut.1.1, hrightOut.1.1⟩, ⟨hleftValues.1.2.2, hleftRows.1.2.2⟩,
      hrightValues.1.2.2, hrightRows.1.2.2⟩
    simpa [texts] using
      ⟨hleftOut.2, hrightOut.2, hleftValues.2, hleftRows.2, hrightValues.2, hrightRows.2⟩
  | aggregate f out input =>
    have hout := hresult out (.inl (by simp [outs]))
    have hinput := hresult input (.inr (by simp [reads]))
    refine ⟨?_, hout.1.1, hinput.1.2.2⟩
    simpa [texts] using ⟨hout.2, hinput.2⟩
  | print handles =>
    refine ⟨fun h hh => (hresult h (.inr hh)).2, fun hnil => hprint (by rw [hnil]), fun h hh => ?_⟩
    exact (hresult h (.inr hh)).1.2

theorem isCanonical_select {r : ColumnRef} {out : Handle} (hr : IsCleanReference r) (hout : IsResult out)
    (p : Predicate) : (select out (.column r) p).IsCanonical := by
  refine isCanonical_of_handles rfl (by simp) (by simpa [outs, reads] using hout) fun r' hr' => ?_
  obtain rfl := Option.some.inj hr'
  exact hr

theorem isCanonical_fetch {r : ColumnRef} {out rows : Handle} (hr : IsCleanReference r)
    (hout : IsResult out) (hrows : IsResult rows) : (fetch out r rows).IsCanonical := by
  refine isCanonical_of_handles rfl (by simp) (by simpa [outs, reads] using ⟨hout, hrows⟩) fun r' hr' => ?_
  obtain rfl := Option.some.inj hr'
  exact hr

theorem isCanonical_print {h : Handle} (hh : IsResult h) : (print [h]).IsCanonical :=
  isCanonical_of_handles rfl (by simp) (by simpa [outs, reads] using hh) fun _ hr => by cases hr

theorem isCanonical_aggregate {out input : Handle} (f : AggregateFunction) (hout : IsResult out)
    (hinput : IsResult input) : (aggregate f out input).IsCanonical :=
  isCanonical_of_handles rfl (by simp) (by simpa [outs, reads] using ⟨hout, hinput⟩) fun _ hr => by cases hr

theorem isCanonical_load_iff (config : SuiteConfig) {file : String} (hfile : (load file).IsCanonical) :
    (load (config.loadPath file)).IsCanonical ↔
      ',' ∉ config.loadDirectory.toList ∧ '\n' ∉ config.loadDirectory.toList := by
  have hload : ∀ path : String, (load path).IsCanonical ↔ '\n' ∉ path.toList ∧ ',' ∉ path.toList := by
    intro path
    simp [IsCanonical, texts, HasForm, HasNoComma]
  -- a character other than a slash is in the path iff it is in the directory or in the name of the file
  have hmem : ∀ c, (c == '/') = false → c ∉ file.toList →
      (c ∈ (config.loadPath file).toList ↔ c ∈ config.loadDirectory.toList) := by
    intro c hslash hname
    rw [SuiteConfig.loadPath, String.toList_ofList, List.mem_append, mem_dropEndWhile_iff (p := (· == '/')) hslash]
    constructor
    · rintro (h | h)
      · exact h
      · rcases List.mem_cons.1 h with rfl | h
        · cases hslash
        · exact absurd h hname
    · exact .inl
  rw [hload] at hfile ⊢
  rw [hmem '\n' rfl hfile.1, hmem ',' rfl hfile.2, and_comm]

/-- Declaring a generated table, of whatever number of columns. -/
theorem isCanonical_declare {t : Table} {name : String} {columns : List String} {n : Nat}
    (ht : t.IsGenerated name columns n) (htable : (createTable name generatedDatabase 0).IsCanonical)
    (hcolumns : ∀ column ∈ columns, (createColumn column generatedDatabase name).IsCanonical) :
    ∀ op ∈ Script.declare t, op.IsCanonical := by
  rw [Script.declare, ht.database_eq, ht.name_eq, ht.names_eq]
  intro op hop
  rcases List.mem_cons.1 hop with rfl | hop
  · exact htable
  · obtain ⟨column, hcolumn, rfl⟩ := List.mem_map.1 hop
    exact hcolumns column hcolumn

/-- Whether an operation is canonical or loads a file from the configured directory. -/
def IsCanonicalOrLoad (config : SuiteConfig) (op : Op) : Prop :=
  op.IsCanonical ∨ ∃ file, (load file).IsCanonical ∧ op = load (config.loadPath file)

end Op

namespace Script

/-- What holds of the operations of each part holds of the operations of all parts. -/
theorem forall_mem_flatMap {α : Type} {P : Op → Prop} {parts : List α} {part : α → Script}
    (h : ∀ a ∈ parts, ∀ op ∈ part a, P op) : ∀ op ∈ parts.flatMap part, P op := by
  intro op hop
  obtain ⟨a, ha, hop⟩ := List.mem_flatMap.1 hop
  exact h a ha op hop

theorem forall_mem_map {α : Type} {P : Op → Prop} {parts : List α} {part : α → Op}
    (h : ∀ a ∈ parts, P (part a)) : ∀ op ∈ parts.map part, P op := by
  intro op hop
  obtain ⟨a, ha, rfl⟩ := List.mem_map.1 hop
  exact h a ha

end Script

end Columnar
