import Columnar.Proofs.Script.Fields

/-!
# Scripts read back

A script is read back from its text exactly if all its operations are canonical.

* **Writing then reading.** An operation in form is written as a well-formed line (`wellFormed_line`),
  and its fields are read back from that line (`ofLine_line`).
* **Reading.** Every operation that is read is in form, and its texts are made of characters of the line
  (`hasForm_of_parseLine`); a line holds no line feed, so the operation is canonical.

The second half does not ask where the text comes from, so it says that whatever is read is canonical
(`isCanonical_of_parse`). Together the two say that writing what was read, and reading it again, changes
nothing (`Script.parse_text_of_parse`).
-/

namespace Columnar

namespace Op

variable {op : Op} {l : Line} {c : Call} {cs : List Char}

/-! ## From lines to operations -/

/-- The operation that a recognised line stands for, if it is not blank. -/
def ofLine : Line → Except LineError (Option Op)
  | .blank => .ok none
  | .comment text => .ok (some (.comment (String.ofList text)))
  | .shutdown => .ok (some .shutdown)
  | .call c => (ofCall c).map some

/-- A line is read by recognising its shape first. -/
theorem parseLine_eq_ok_iff {op? : Option Op} :
    parseLine cs = .ok op? ↔ ∃ l, Line.recognise cs = some l ∧ ofLine l = .ok op? := by
  unfold parseLine
  cases Line.recognise cs with
  | none => simp
  | some l => cases l <;> simp [ofLine]

/-! ## Writing -/

/-- A call whose handles have their spelling and whose arguments are plain is well-formed. -/
theorem wellFormed_call {outs args : List (List Char)} {name : List Char}
    (hlen : outs.length ≤ 2) (houts : outs.Forall Call.IsHandle) (hne : name ≠ [])
    (hname : name.all Char.isLower = true) (hargs : args ≠ []) (hplain : args.Forall IsPlain) :
    (Call.mk outs name args).WellFormed :=
  ⟨hlen, List.forall_iff_forall_mem.1 houts, hne, List.all_eq_true.1 hname, hargs, List.forall_iff_forall_mem.1 hplain⟩

/-- **An operation in form is written as a well-formed line.** -/
theorem wellFormed_line (h : op.HasForm) : op.line.WellFormed := by
  cases op with
  | comment text => exact Text.trim_eq_self_iff.2 h
  | createTable name database columns =>
    refine wellFormed_call (by simp) trivial (by decide) rfl (by simp) ?_
    exact ⟨by decide, isPlain_quoted h.1, h.2.isPlain, (isSolid_uint64Chars columns).isPlain⟩
  | createColumn name database table =>
    obtain ⟨⟨hn, hd, ht⟩, -, hstart, hend⟩ := h
    refine wellFormed_call (by simp) trivial (by decide) rfl (by simp) ?_
    exact ⟨by decide, isPlain_quoted hn, isPlain_qualified hd ht hstart hend⟩
  | createIndex column kind clustering =>
    refine wellFormed_call (by simp) trivial (by decide) rfl (by simp) ?_
    exact ⟨by decide, isPlain_ref h, (isSolid_indexKind kind).isPlain, (isSolid_clustering clustering).isPlain⟩
  | load path =>
    exact wellFormed_call (by simp) trivial (by decide) rfl (by simp) (isPlain_quoted h)
  | select out source predicate =>
    cases source with
    | column column =>
      refine wellFormed_call (by simp) h.1 (by decide) rfl (by simp) ?_
      exact ⟨isPlain_ref h.2, (isSolid_bound predicate.low).isPlain, (isSolid_bound predicate.high).isPlain⟩
    | refine rows values =>
      refine wellFormed_call (by simp) h.1 (by decide) rfl (by simp) ?_
      exact ⟨h.2.1.isPlain, h.2.2.isPlain, (isSolid_bound predicate.low).isPlain,
        (isSolid_bound predicate.high).isPlain⟩
  | fetch out column rows =>
    refine wellFormed_call (by simp) h.1 (by decide) rfl (by simp) ?_
    exact ⟨isPlain_ref h.2.1, h.2.2.isPlain⟩
  | join leftOut rightOut left right kind =>
    obtain ⟨houts, ⟨hlv, hlr⟩, hrv, hrr⟩ := h
    refine wellFormed_call (by simp) houts (by decide) rfl (by simp) ?_
    exact ⟨hlv.isPlain, hlr.isPlain, hrv.isPlain,
      hrr.isPlain, (isSolid_joinKind kind).isPlain⟩
  | aggregate function out input =>
    refine wellFormed_call (by simp) h.1 ?_ ?_ (by simp) h.2.isPlain
    · cases function <;> decide
    · cases function <;> rfl
  | print handles =>
    refine wellFormed_call (by simp) trivial (by decide) rfl (by simpa using h.1) ?_
    refine List.forall_iff_forall_mem.2 fun a ha => ?_
    obtain ⟨handle, hm, rfl⟩ := List.mem_map.1 ha
    exact (h.2 handle hm).2.isPlain
  | shutdown => trivial

/-- **The fields of an operation in form are read back from its line.** -/
theorem ofLine_line (h : op.HasForm) : ofLine op.line = .ok (some op) := by
  cases op with
  | comment text => simp [line, ofLine]
  | createTable name database columns =>
    simp [line, ofLine, ofCall, ofCreate, unquote_quoted, Text.readUInt64_uint64Chars, Except.map]
  | createColumn name database table =>
    simp [line, ofLine, ofCall, ofCreate, unquote_quoted, splitDot_append h.2.1, Except.map]
  | createIndex column kind clustering =>
    simp [line, ofLine, ofCall, ofCreate, readRef_chars h, IndexKind.parse_text, Clustering.parse_text, Except.map]
  | load path => simp [line, ofLine, ofCall, ofLoad, unquote_quoted, Except.map]
  | select out source predicate =>
    cases source with
    | column column =>
      simp [line, ofLine, ofCall, ofSelect, singleOut, sourceArgs, readRef_chars h.2, readPredicate_chars,
        Except.map]
    | refine rows values =>
      simp [line, ofLine, ofCall, ofSelect, singleOut, sourceArgs, readPredicate_chars, Except.map]
  | fetch out column rows =>
    simp [line, ofLine, ofCall, ofFetch, singleOut, readRef_chars h.2.1, Except.map]
  | join leftOut rightOut left right kind =>
    simp [line, ofLine, ofCall, ofJoin, JoinKind.parse_text, Except.map]
  | aggregate function out input =>
    cases function <;> simp [line, ofLine, ofCall, ofAggregate, singleOut, AggregateFunction.text, Except.map]
  | print handles =>
    have hnames : (handles.map String.toList).all (fun arg => !arg.isEmpty) = true := by
      simpa using fun x hx => (h.2 x hx).1
    show (ofPrint ⟨[], "print".toList, handles.map String.toList⟩).map some = _
    rw [ofPrint, List.isEmpty_nil, Bool.true_and, if_pos hnames]
    simp [Except.map]
  | shutdown => rfl

/-! ## Reading

What is read from a well-formed call is in form, and each of its texts comes from an argument or a
result handle of the call. There is one lemma for each reader.
-/

/-- Whether a text is made of characters of one of the texts of a call. -/
def ComesFrom (c : Call) (t : String) : Prop :=
  ∃ a ∈ c.outs ++ c.args, t.toList ⊆ a

/-- What holds of an operation that is read from a well-formed call. -/
structure ReadFrom (c : Call) (op : Op) : Prop where
  form : op.HasForm
  texts : op.texts.Forall (ComesFrom c)

theorem comesFrom_arg {a : List Char} {t : String} (ha : a ∈ c.args) (ht : t.toList ⊆ a) : ComesFrom c t :=
  ⟨a, List.mem_append_right _ ha, ht⟩

/-- An argument as it is. -/
theorem comesFrom_ofList {a : List Char} (ha : a ∈ c.args) : ComesFrom c (String.ofList a) :=
  comesFrom_arg ha (by rw [String.toList_ofList]; exact List.Subset.refl a)

theorem comesFrom_unquote {a : List Char} (ha : a ∈ c.args) : ComesFrom c (String.ofList (unquote a)) :=
  comesFrom_arg ha (by rw [String.toList_ofList]; exact unquote_subset a)

theorem comesFrom_ref {a : List Char} {r : ColumnRef} (ha : a ∈ c.args)
    (ht : ∀ t ∈ refTexts r, t.toList ⊆ a) : (refTexts r).Forall (ComesFrom c) :=
  List.forall_iff_forall_mem.2 fun t hm => comesFrom_arg ha (ht t hm)

theorem isPlain_of_mem (hc : c.WellFormed) {a : List Char} (ha : a ∈ c.args) : IsPlain a :=
  hc.args a ha

/-- A result handle of a well-formed call. -/
theorem isResult_of_mem (hc : c.WellFormed) {o : List Char} (ho : o ∈ c.outs) :
    IsResult (String.ofList o) ∧ ComesFrom c (String.ofList o) := by
  refine ⟨?_, o, List.mem_append_left _ ho, ?_⟩
  · rw [IsResult, String.toList_ofList]
    exact hc.outs o ho
  · rw [String.toList_ofList]
    exact List.Subset.refl o

theorem singleOut_eq_ok {out : Handle} (hc : c.WellFormed) (h : singleOut c = .ok out) :
    IsResult out ∧ ComesFrom c out := by
  unfold singleOut at h
  split at h
  · rename_i o houts
    obtain rfl : String.ofList o = out := by simpa using h
    exact isResult_of_mem hc (by simp [houts])
  · simp at h

theorem readFrom_ofCreate (hc : c.WellFormed) (h : ofCreate c = .ok op) : ReadFrom c op := by
  unfold ofCreate at h
  split at h
  · rename_i target args hargs
    have plain : ∀ a ∈ args, a ∈ c.args ∧ IsPlain a := fun a ha =>
      have hm : a ∈ c.args := by simp [hargs, ha]
      ⟨hm, isPlain_of_mem hc hm⟩
    split at h
    · -- a table
      split at h
      · rename_i name database columns
        split at h
        · rename_i n _
          obtain rfl : createTable (String.ofList (unquote name)) (String.ofList database) n = op := by
            simpa using h
          obtain ⟨hnm, hn⟩ := plain name (by simp)
          obtain ⟨hdm, hd⟩ := plain database (by simp)
          exact ⟨⟨hasNoComma_unquote hn, isArgument_ofList hd⟩, comesFrom_unquote hnm, comesFrom_ofList hdm⟩
        · simp at h
      · simp [wrongArity] at h
    · split at h
      · -- a column
        split at h
        · rename_i name qualified
          split at h
          · rename_i database table hdot
            obtain rfl : createColumn (String.ofList (unquote name)) (String.ofList database)
              (String.ofList table) = op := by simpa using h
            obtain ⟨hnm, hn⟩ := plain name (by simp)
            obtain ⟨hqm, hq⟩ := plain qualified (by simp)
            obtain ⟨rfl, hnodot⟩ := splitDot_eq_some hdot
            have hdatabase : database ⊆ database ++ '.' :: table := List.subset_append_left _ _
            have htable : table ⊆ database ++ '.' :: table := fun d hd =>
              List.mem_append_right _ (List.mem_cons_of_mem _ hd)
            obtain ⟨hstart, hend⟩ := Text.trim_eq_self_iff.1 hq.2
            refine ⟨⟨⟨hasNoComma_unquote hn, ?_, ?_⟩, ?_, ?_, ?_⟩, comesFrom_unquote hnm,
              comesFrom_arg hqm ?_, comesFrom_arg hqm ?_⟩
            · simpa [HasNoComma] using fun hm => hq.1 (hdatabase hm)
            · simpa [HasNoComma] using fun hm => hq.1 (htable hm)
            · simpa using hnodot
            · simpa using hstart.of_isPrefix (List.prefix_append _ _)
            · simpa using hend.of_isSuffix ((List.suffix_cons '.' table).trans (List.suffix_append _ _))
            · simp
            · simp
          · simp at h
        · simp [wrongArity] at h
      · split at h
        · -- an index
          split at h
          · rename_i column kind clustering
            rw [Except.bind_eq_ok_iff] at h
            obtain ⟨r, hr, h⟩ := h
            rw [Except.bind_eq_ok_iff] at h
            obtain ⟨k, -, h⟩ := h
            rw [Except.bind_eq_ok_iff] at h
            obtain ⟨l, -, h⟩ := h
            obtain rfl : createIndex r k l = op := by simpa using h
            obtain ⟨hm, hp⟩ := plain column (by simp)
            obtain ⟨hform, htexts⟩ := readRef_eq_ok hr hp
            exact ⟨hform, comesFrom_ref hm htexts⟩
          · simp [wrongArity] at h
        · simp at h
  · simp at h

theorem readFrom_ofLoad (hc : c.WellFormed) (h : ofLoad c = .ok op) : ReadFrom c op := by
  unfold ofLoad at h
  split at h
  · rename_i path hargs
    obtain rfl : load (String.ofList (unquote path)) = op := by simpa using h
    have hm : path ∈ c.args := by simp [hargs]
    exact ⟨hasNoComma_unquote (isPlain_of_mem hc hm), comesFrom_unquote hm⟩
  · simp [wrongArity] at h

theorem readFrom_ofSelect (hc : c.WellFormed) (h : ofSelect c = .ok op) : ReadFrom c op := by
  rw [ofSelect, Except.bind_eq_ok_iff] at h
  obtain ⟨out, hout, h⟩ := h
  obtain ⟨hresult, hfrom⟩ := singleOut_eq_ok hc hout
  split at h
  · rename_i column low high hargs
    rw [Except.bind_eq_ok_iff] at h
    obtain ⟨r, hr, h⟩ := h
    rw [Except.bind_eq_ok_iff] at h
    obtain ⟨p, -, h⟩ := h
    obtain rfl : select out (.column r) p = op := by simpa using h
    have hm : column ∈ c.args := by simp [hargs]
    obtain ⟨hform, htexts⟩ := readRef_eq_ok hr (isPlain_of_mem hc hm)
    exact ⟨⟨hresult, hform⟩, hfrom, comesFrom_ref hm htexts⟩
  · rename_i rows values low high hargs
    rw [Except.bind_eq_ok_iff] at h
    obtain ⟨p, -, h⟩ := h
    obtain rfl : select out (.refine (String.ofList rows) (String.ofList values)) p = op := by simpa using h
    have hrows : rows ∈ c.args := by simp [hargs]
    have hvalues : values ∈ c.args := by simp [hargs]
    exact ⟨⟨hresult, isArgument_ofList (isPlain_of_mem hc hrows), isArgument_ofList (isPlain_of_mem hc hvalues)⟩,
      hfrom, comesFrom_ofList hrows, comesFrom_ofList hvalues⟩
  · simp at h

theorem readFrom_ofFetch (hc : c.WellFormed) (h : ofFetch c = .ok op) : ReadFrom c op := by
  unfold ofFetch at h
  split at h
  · rename_i column rows hargs
    rw [Except.bind_eq_ok_iff] at h
    obtain ⟨out, hout, h⟩ := h
    rw [Except.bind_eq_ok_iff] at h
    obtain ⟨r, hr, h⟩ := h
    obtain rfl : fetch out r (String.ofList rows) = op := by simpa using h
    obtain ⟨hresult, hfrom⟩ := singleOut_eq_ok hc hout
    have hcolumn : column ∈ c.args := by simp [hargs]
    have hrows : rows ∈ c.args := by simp [hargs]
    obtain ⟨hform, htexts⟩ := readRef_eq_ok hr (isPlain_of_mem hc hcolumn)
    exact ⟨⟨hresult, hform, isArgument_ofList (isPlain_of_mem hc hrows)⟩, hfrom, comesFrom_ofList hrows,
      comesFrom_ref hcolumn htexts⟩
  · simp [wrongArity] at h

theorem readFrom_ofJoin (hc : c.WellFormed) (h : ofJoin c = .ok op) : ReadFrom c op := by
  unfold ofJoin at h
  split at h
  · rename_i leftValues leftRows rightValues rightRows kind hargs
    split at h
    · rename_i leftOut rightOut houts
      rw [Except.bind_eq_ok_iff] at h
      obtain ⟨k, -, h⟩ := h
      obtain rfl : join (String.ofList leftOut) (String.ofList rightOut)
        ⟨String.ofList leftValues, String.ofList leftRows⟩
        ⟨String.ofList rightValues, String.ofList rightRows⟩ k = op := by simpa using h
      have mem : ∀ a ∈ [leftValues, leftRows, rightValues, rightRows], a ∈ c.args := by
        intro a ha
        rw [hargs]
        exact List.mem_append_left [kind] ha
      have argument : ∀ a ∈ [leftValues, leftRows, rightValues, rightRows], IsArgument (String.ofList a) :=
        fun a ha => isArgument_ofList (isPlain_of_mem hc (mem a ha))
      obtain ⟨hl, hlfrom⟩ := isResult_of_mem hc (o := leftOut) (by simp [houts])
      obtain ⟨hr, hrfrom⟩ := isResult_of_mem hc (o := rightOut) (by simp [houts])
      refine ⟨⟨⟨hl, hr⟩, ⟨argument _ ?_, argument _ ?_⟩, argument _ ?_, argument _ ?_⟩, hlfrom, hrfrom,
        comesFrom_ofList (mem _ ?_), comesFrom_ofList (mem _ ?_), comesFrom_ofList (mem _ ?_),
        comesFrom_ofList (mem _ ?_)⟩ <;> simp
    · simp at h
  · simp [wrongArity] at h

theorem readFrom_ofAggregate {f : AggregateFunction} (hc : c.WellFormed) (h : ofAggregate f c = .ok op) :
    ReadFrom c op := by
  unfold ofAggregate at h
  split at h
  · rename_i input hargs
    rw [Except.bind_eq_ok_iff] at h
    obtain ⟨out, hout, h⟩ := h
    obtain rfl : aggregate f out (String.ofList input) = op := by simpa using h
    obtain ⟨hresult, hfrom⟩ := singleOut_eq_ok hc hout
    have hm : input ∈ c.args := by simp [hargs]
    exact ⟨⟨hresult, isArgument_ofList (isPlain_of_mem hc hm)⟩, hfrom, comesFrom_ofList hm⟩
  · simp [wrongArity] at h

theorem readFrom_ofPrint (hc : c.WellFormed) (h : ofPrint c = .ok op) : ReadFrom c op := by
  unfold ofPrint at h
  split at h
  · rename_i hcond
    obtain rfl : print (c.args.map String.ofList) = op := by simpa using h
    simp only [Bool.and_eq_true, List.all_eq_true, Bool.not_eq_true', List.isEmpty_eq_false_iff] at hcond
    refine ⟨⟨by simpa using hc.args_ne_nil, ?_⟩, List.forall_iff_forall_mem.2 ?_⟩
    · intro handle hh
      obtain ⟨a, ha, rfl⟩ := List.mem_map.1 hh
      exact ⟨by simpa using hcond.2 a ha, isArgument_ofList (isPlain_of_mem hc ha)⟩
    · intro handle hh
      obtain ⟨a, ha, rfl⟩ := List.mem_map.1 hh
      exact comesFrom_ofList ha
  · simp at h

/-- **What is read from a well-formed call is in form.** -/
theorem readFrom_ofCall (hc : c.WellFormed) (h : ofCall c = .ok op) : ReadFrom c op := by
  unfold ofCall at h
  split at h
  · exact readFrom_ofCreate hc h
  · exact readFrom_ofLoad hc h
  · exact readFrom_ofSelect hc h
  · exact readFrom_ofFetch hc h
  · exact readFrom_ofJoin hc h
  · exact readFrom_ofAggregate hc h
  · exact readFrom_ofAggregate hc h
  · exact readFrom_ofPrint hc h
  · simp at h

/-! ## Line feeds -/

/-- The text of a call holds a line feed only if one of its parts does. -/
theorem noFeed_callChars {outs args : List (List Char)} {name : List Char}
    (houts : outs.Forall ('\n' ∉ ·)) (hname : '\n' ∉ name) (hargs : args.Forall ('\n' ∉ ·)) :
    '\n' ∉ (Call.mk outs name args).chars := by
  have joined : ∀ pieces : List (List Char), pieces.Forall ('\n' ∉ ·) →
      '\n' ∉ List.intercalate [','] pieces := by
    intro pieces hp hm
    rcases Text.mem_intercalate hm with h | ⟨p, hp', h⟩
    · exact absurd h (by decide)
    · exact List.forall_iff_forall_mem.1 hp p hp' h
  have hfront : '\n' ∉ (if outs.isEmpty then [] else List.intercalate [','] outs ++ ['=']) := by
    split
    · simp
    · simpa using joined outs houts
  rw [Call.chars]
  simp only [List.mem_append, List.mem_cons, List.not_mem_nil, or_false, not_or]
  exact ⟨⟨hfront, hname⟩, by decide, joined args hargs, by decide⟩

theorem noFeed_quoted {s : String} (h : '\n' ∉ s.toList) : '\n' ∉ quoted s := by
  simpa [quoted] using h

theorem noFeed_ref {r : ColumnRef} (h : ∀ t ∈ refTexts r, '\n' ∉ t.toList) : '\n' ∉ r.chars := by
  simpa [ColumnRef.chars, refTexts] using h

theorem noFeed_commentChars {text : List Char} (h : '\n' ∉ text) : '\n' ∉ (Line.comment text).chars := by
  cases text with
  | nil => decide
  | cons c cs =>
    show '\n' ∉ '-' :: '-' :: ' ' :: c :: cs
    simpa using h

/-- **The text of an operation holds a line feed only if one of its texts does.** -/
theorem noFeed_chars (h : ∀ t ∈ op.texts, '\n' ∉ t.toList) : '\n' ∉ op.chars := by
  cases op with
  | comment text =>
    have ht : '\n' ∉ text.toList := h text (by simp [texts])
    exact noFeed_commentChars ht
  | createTable name database columns =>
    refine noFeed_callChars trivial (by decide) ⟨by decide, noFeed_quoted (h name ?_), h database ?_,
      (isSolid_uint64Chars columns).noFeed⟩ <;> simp [texts]
  | createColumn name database table =>
    have hd : '\n' ∉ database.toList := h database (by simp [texts])
    have ht : '\n' ∉ table.toList := h table (by simp [texts])
    exact noFeed_callChars trivial (by decide) ⟨by decide, noFeed_quoted (h name (by simp [texts])), by simp [hd, ht]⟩
  | createIndex column kind clustering =>
    exact noFeed_callChars trivial (by decide)
      ⟨by decide, noFeed_ref h, (isSolid_indexKind kind).noFeed, (isSolid_clustering clustering).noFeed⟩
  | load path =>
    exact noFeed_callChars trivial (by decide) (noFeed_quoted (h path (by simp [texts])))
  | select out source predicate =>
    have hlow := (isSolid_bound predicate.low).noFeed
    have hhigh := (isSolid_bound predicate.high).noFeed
    cases source with
    | column column =>
      refine noFeed_callChars (h out (by simp [texts])) (by decide) ⟨noFeed_ref fun t ht => h t ?_, hlow, hhigh⟩
      simp [texts, ht]
    | refine rows values =>
      refine noFeed_callChars (h out ?_) (by decide) ⟨h rows ?_, h values ?_, hlow, hhigh⟩ <;> simp [texts]
  | fetch out column rows =>
    refine noFeed_callChars (h out ?_) (by decide) ⟨noFeed_ref fun t ht => h t ?_, h rows ?_⟩
    · simp [texts]
    · simp [texts, ht]
    · simp [texts]
  | join leftOut rightOut left right kind =>
    refine noFeed_callChars ⟨h leftOut ?_, h rightOut ?_⟩ (by decide) ⟨h left.values ?_, h left.rows ?_,
      h right.values ?_, h right.rows ?_, (isSolid_joinKind kind).noFeed⟩ <;> simp [texts]
  | aggregate function out input =>
    refine noFeed_callChars (h out ?_) (by cases function <;> decide) (h input ?_) <;> simp [texts]
  | print handles =>
    refine noFeed_callChars trivial (by decide) (List.forall_iff_forall_mem.2 fun a ha => ?_)
    obtain ⟨handle, hm, rfl⟩ := List.mem_map.1 ha
    exact h handle hm
  | shutdown => decide

/-! ## One line -/

/-- A canonical operation is a line of its own, which is read back. -/
theorem parseLine_chars (h : op.HasForm) : parseLine (Text.dropReturn op.chars) = .ok (some op) := by
  have hline := wellFormed_line h
  have hend : Text.NoBlankEnd op.chars := (Text.trim_eq_self_iff.1 (Line.trim_chars hline)).2
  rw [Text.dropReturn_eq_self hend]
  exact parseLine_eq_ok_iff.2 ⟨op.line, Line.recognise_chars hline, ofLine_line h⟩

/-- **Every operation that is read from a line is in form, and made of characters of the line.** -/
theorem hasForm_of_parseLine (h : parseLine cs = .ok (some op)) :
    op.HasForm ∧ ∀ t ∈ op.texts, t.toList ⊆ cs := by
  obtain ⟨l, hl, h⟩ := parseLine_eq_ok_iff.1 h
  obtain ⟨hwell, hsub⟩ := Line.wellFormed_of_recognise hl
  cases l with
  | blank => simp [ofLine] at h
  | comment text =>
    obtain rfl : comment (String.ofList text) = op := by simpa [ofLine] using h
    refine ⟨by simpa [HasForm] using Text.trim_eq_self_iff.1 hwell, ?_⟩
    simpa [texts] using hsub text (by simp [Line.texts])
  | shutdown =>
    obtain rfl : shutdown = op := by simpa [ofLine] using h
    exact ⟨trivial, by simp [texts]⟩
  | call c =>
    obtain ⟨op', hop, rfl⟩ : ∃ op', ofCall c = .ok op' ∧ op' = op := by
      simpa [ofLine, Except.map_eq_ok_iff] using h
    obtain ⟨hform, htexts⟩ := readFrom_ofCall hwell hop
    refine ⟨hform, fun t ht => ?_⟩
    obtain ⟨a, ha, hta⟩ := List.forall_iff_forall_mem.1 htexts t ht
    exact fun d hd => hsub a ha (hta hd)

end Op

namespace Script

variable {s : Script} {text : String}

/-! ## Scripts -/

/-- Every operation of a script that is read comes from a line. -/
theorem exists_line_of_ofLines {number : Nat} {ls : List (List Char)} (h : ofLines number ls = .ok s) :
    ∀ op ∈ s, ∃ l ∈ ls, Op.parseLine l = .ok (some op) := by
  induction ls generalizing number s with
  | nil =>
    obtain rfl : [] = s := by simpa [ofLines] using h
    simp
  | cons l ls ih =>
    rw [ofLines] at h
    split at h
    · simp at h
    · rename_i op? hop
      obtain ⟨rest, hrest, rfl⟩ := Except.map_eq_ok_iff.1 h
      intro op hm
      rcases List.mem_append.1 hm with hm | hm
      · obtain rfl : op? = some op := by simpa using hm
        exact ⟨l, by simp, hop⟩
      · obtain ⟨m, hmem, hparse⟩ := ih hrest op hm
        exact ⟨m, List.mem_cons_of_mem l hmem, hparse⟩

/-- **Whatever is read is canonical.** -/
theorem isCanonical_of_parse (h : parse text = .ok s) : ∀ op ∈ s, op.IsCanonical := by
  intro op hop
  obtain ⟨l, hl, hparse⟩ := exists_line_of_ofLines h op hop
  obtain ⟨hform, hsub⟩ := Op.hasForm_of_parseLine hparse
  exact ⟨fun t ht hm => Text.not_mem_of_mem_lines hl (hsub t ht hm), hform⟩

/-- One line for each operation, each read as that operation, is read as the script. -/
theorem ofLines_map {f : Op → List Char} (number : Nat) (h : ∀ op ∈ s, Op.parseLine (f op) = .ok (some op)) :
    ofLines number (s.map f) = .ok s := by
  induction s generalizing number with
  | nil => rfl
  | cons op ops ih =>
    rw [List.map_cons, ofLines, h op (by simp)]
    simp only [ih (number + 1) fun o ho => h o (List.mem_cons_of_mem op ho)]
    rfl

/-- **What is canonical is read back.** -/
theorem parse_text_of_isCanonical (h : ∀ op ∈ s, op.IsCanonical) : parse s.text = .ok s := by
  rw [parse, Script.text, String.toList_ofList, parseChars, chars,
    Text.lines_flatMap Op.chars s fun op hop => Op.noFeed_chars (h op hop).1]
  exact ofLines_map 1 fun op hop => Op.parseLine_chars (h op hop).2

/-- **A script is read back from its text iff all its operations are canonical.** -/
theorem parse_text_eq_ok_iff (s : Script) : parse s.text = .ok s ↔ ∀ op ∈ s, op.IsCanonical :=
  ⟨isCanonical_of_parse, parse_text_of_isCanonical⟩

/-- **The text of a script that was read is a normal form**: it is read as the same script, whatever the
text was that the script comes from. -/
theorem parse_text_of_parse (h : parse text = .ok s) : parse s.text = .ok s :=
  parse_text_of_isCanonical (isCanonical_of_parse h)

/-- A text with loose blanks, stray quotes, signed numbers, a parenthesis in a reference and line ends of
both kinds. -/
def looseText : String :=
  "  s1 = select( db.my table.c(1) ,+7, -0)\r\n\r\n--  \"note\u3000\nx , y = load(\"half )\n" ++
    "create(col,\"a\"b\", d .t.u)\nprint(s1,\"odd\" , \rz)\u2003"

/-- What is read from it. -/
def looseScript : Script := [
  .select "s1" (.column ⟨"db", "my table", "c(1)"⟩) (.range 7 0),
  .comment "\"note",
  .load "\"half",
  .createColumn "a\"b" "d " "t.u",
  .print ["s1", "\"odd\"", "z"]]

theorem parse_text_looseScript :
    parse looseText = .ok looseScript ∧ parse looseScript.text = .ok looseScript := by
  have hparse : parse looseText = .ok looseScript := by decide +kernel
  exact ⟨hparse, parse_text_of_parse hparse⟩

end Script

end Columnar
