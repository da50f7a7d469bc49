import Columnar.Proofs.Script.Canonical

/-!
# Arguments read back

Each field of an operation is written as one argument of a call. For every kind of field it is shown

* that the argument survives the line: it holds no comma and is trimmed (`IsPlain`);
* that the field is read back from it;
* and, the other way, that a field read from a plain argument has the form that is asked of it, and is
  made of characters of the argument.
-/

namespace Columnar

open Text (trim trimStart NoBlankStart NoBlankEnd)

namespace Op

/-- An argument that a call line gives back as it was written. -/
def IsPlain (a : List Char) : Prop :=
  ',' ∉ a ∧ trim a = a

instance : DecidablePred IsPlain := fun a => inferInstanceAs (Decidable (',' ∉ a ∧ trim a = a))

variable {s database table : String} {cs : List Char}

/-! ## Arguments as they are -/

theorem IsArgument.isPlain (h : IsArgument s) : IsPlain s.toList := h

/-- A text without commas and blanks, such as a number or a keyword. -/
def IsSolid (cs : List Char) : Prop :=
  ∀ c ∈ cs, c ≠ ',' ∧ Text.isBlank c = false

-- Named, since a search could also find the instance that runs through every character there is.
instance : DecidablePred IsSolid := fun cs =>
  List.decidableBAll (fun c => c ≠ ',' ∧ Text.isBlank c = false) cs

theorem IsSolid.isPlain (h : IsSolid cs) : IsPlain cs :=
  ⟨fun hm => (h ',' hm).1 rfl, Text.trim_of_forall_not_isBlank fun c hc => (h c hc).2⟩

theorem IsSolid.noFeed (h : IsSolid cs) : '\n' ∉ cs :=
  fun hm => absurd (h '\n' hm).2 (by decide)

/-! ## Names in quotes -/

theorem isPlain_quoted (h : HasNoComma s) : IsPlain (quoted s) := by
  refine ⟨?_, Text.trim_eq_self_iff.2 ⟨Text.noBlankStart_cons.2 (by decide), ?_⟩⟩
  · simpa [quoted, HasNoComma] using h
  · show NoBlankEnd (('"' :: s.toList) ++ ['"'])
    exact Text.noBlankEnd_append_singleton.2 (by decide)

theorem unquote_quoted (s : String) : unquote (quoted s) = s.toList := by
  rw [quoted, unquote, List.getLast?_append, if_pos (by simp), List.dropLast_concat]

/-! ## Numbers -/

theorem isSolid_digit {c : Char} (h : c.isDigit = true) : c ≠ ',' ∧ Text.isBlank c = false := by
  refine ⟨?_, Text.isBlank_of_isDigit h⟩
  rintro rfl
  exact absurd h (by decide)

theorem isSolid_digits (n : Nat) : IsSolid (Text.digits n) :=
  fun _ hc => isSolid_digit (Text.isDigit_of_mem_digits hc)

theorem isSolid_intChars (z : Int) : IsSolid (Text.intChars z) := by
  intro c hc
  rcases Text.mem_intChars hc with rfl | hd
  · decide
  · exact isSolid_digit hd

theorem isSolid_uint64Chars (n : UInt64) : IsSolid (Text.uint64Chars n) :=
  isSolid_digits n.toNat

theorem isSolid_bound (b : Bound) : IsSolid b.chars := by
  cases b with
  | unbounded => decide
  | value v => exact isSolid_intChars v.toInt

theorem readPredicate_chars (p : Predicate) : readPredicate p.low.chars p.high.chars = .ok p := by
  simp only [readPredicate, readBound, Bound.parse_chars, Except.ok_bind]
  rfl

/-! ## Keywords -/

theorem isSolid_joinKind (k : JoinKind) : IsSolid k.text.toList := by
  cases k <;> decide

theorem isSolid_indexKind (k : IndexKind) : IsSolid k.text.toList := by
  cases k <;> decide

theorem isSolid_clustering (k : Clustering) : IsSolid k.text.toList := by
  cases k <;> decide

/-! ## References -/

theorem trim_refChars {r : ColumnRef} (h : IsReference r) : trim r.chars = r.chars := by
  obtain ⟨⟨⟨hd, -⟩, -, ⟨hc, -⟩⟩, hstart, hend⟩ := h
  refine Text.trim_eq_self_iff.2 ⟨?_, ?_⟩
  · exact (Text.noBlankStart_append (by simpa using hd)).2 hstart
  · have hchars : r.chars = (r.database.toList ++ '.' :: (r.table.toList ++ ['.'])) ++ r.column.toList := by
      simp [ColumnRef.chars]
    rw [hchars]
    exact (Text.noBlankEnd_append (by simpa using hc)).2 hend

theorem isPlain_ref {r : ColumnRef} (h : IsReference r) : IsPlain r.chars := by
  refine ⟨?_, trim_refChars h⟩
  obtain ⟨⟨⟨-, -, hd⟩, ⟨-, -, ht⟩, -, -, hc⟩, -⟩ := h
  simp only [HasNoComma] at hd ht hc
  simp [ColumnRef.chars, hd, ht, hc]

theorem readRef_chars {r : ColumnRef} (h : IsReference r) : readRef r.chars = .ok r := by
  have htrim := trim_refChars h
  obtain ⟨⟨⟨nd, hd, -⟩, ⟨nt, ht, -⟩, nc, hc, -⟩, -⟩ := h
  rw [readRef, ColumnRef.parse_chars hd ht hc (by simpa using nd) (by simpa using nt) (by simpa using nc) htrim]
  rfl

/-! ## A table of a database -/

theorem isPlain_qualified (hd : HasNoComma database) (ht : HasNoComma table)
    (hstart : NoBlankStart database.toList) (hend : NoBlankEnd table.toList) :
    IsPlain (database.toList ++ '.' :: table.toList) := by
  refine ⟨by simp only [HasNoComma] at hd ht; simp [hd, ht], Text.trim_eq_self_iff.2 ⟨?_, ?_⟩⟩
  · cases hcs : database.toList with
    | nil => exact Text.noBlankStart_cons.2 (by decide)
    | cons c cs =>
      rw [hcs] at hstart
      exact Text.noBlankStart_cons.2 (Text.noBlankStart_cons.1 hstart)
  · refine (Text.noBlankEnd_append (by simp)).2 ?_
    cases hcs : table.toList with
    | nil => decide
    | cons c cs =>
      rw [hcs] at hend
      show NoBlankEnd (['.'] ++ c :: cs)
      exact (Text.noBlankEnd_append (by simp)).2 hend

theorem splitDot_append {before : List Char} (h : '.' ∉ before) (after : List Char) :
    splitDot (before ++ '.' :: after) = some (before, after) := by
  have hrun : ∀ c ∈ before, decide (c ≠ '.') = true := fun c hc => by
    simp only [decide_eq_true_eq]
    rintro rfl
    exact h hc
  have hstop : ∀ c ∈ ('.' :: after).head?, decide (c ≠ '.') = false := by simp
  rw [splitDot, Text.takeWhile_append_stop hrun hstop, Text.dropWhile_append_stop hrun hstop]

/-! ## Fields that are read -/

theorem isArgument_ofList (h : IsPlain cs) : IsArgument (String.ofList cs) := by
  simpa [IsArgument, HasNoComma, IsPlain] using h

theorem unquote_subset (cs : List Char) : unquote cs ⊆ cs := by
  unfold unquote
  split
  · rename_i rest
    split
    · exact fun c hc => List.mem_cons_of_mem _ (List.dropLast_subset rest hc)
    · exact List.Subset.refl _
  · exact List.Subset.refl _

theorem hasNoComma_unquote (h : IsPlain cs) : HasNoComma (String.ofList (unquote cs)) := by
  simp only [HasNoComma, String.toList_ofList]
  exact fun hm => h.1 (unquote_subset cs hm)

theorem splitDot_eq_some {before after : List Char} (h : splitDot cs = some (before, after)) :
    cs = before ++ '.' :: after ∧ '.' ∉ before := by
  unfold splitDot at h
  split at h
  · simp at h
  · rename_i c rest hdrop
    obtain ⟨rfl, rfl⟩ : cs.takeWhile (· ≠ '.') = before ∧ rest = after := by simpa using h
    have hc : c = '.' := by
      have hhead := List.head?_dropWhile_not (fun d : Char => decide (d ≠ '.')) cs
      rw [hdrop] at hhead
      simpa using hhead
    refine ⟨?_, fun hm => by simpa using List.mem_takeWhile_imp hm⟩
    subst hc
    rw [← hdrop, List.takeWhile_append_dropWhile]

/-- **A reference that is read from a plain argument** has three proper parts, and only the two ends of
the argument are its own ends. -/
theorem readRef_eq_ok {r : ColumnRef} (h : readRef cs = .ok r) (hp : IsPlain cs) :
    IsReference r ∧ ∀ t ∈ refTexts r, t.toList ⊆ cs := by
  rw [readRef, Except.mapError_eq_ok_iff, ColumnRef.parse, hp.2] at h
  split at h
  · rename_i d t c hsplit
    split at h
    · simp at h
    · rename_i hne
      obtain rfl : ColumnRef.mk (String.ofList d) (String.ofList t) (String.ofList c) = r := by simpa using h
      simp only [Bool.or_eq_true, List.isEmpty_iff, not_or] at hne
      obtain ⟨⟨nd, nt⟩, nc⟩ := hne
      have hcs : cs = d ++ '.' :: (t ++ '.' :: c) := by
        rw [← Text.intercalate_splitOn '.' cs, hsplit]
        simp
      have part : ∀ q ∈ [d, t, c], q ≠ [] → IsPart (String.ofList q) ∧ q ⊆ cs := by
        intro q hq hqne
        have hpiece : q ∈ Text.splitOn '.' cs := hsplit ▸ hq
        have hsub : q ⊆ cs := fun e he => Text.mem_of_mem_splitOn hpiece he
        refine ⟨⟨by simpa using hqne, ?_, ?_⟩, hsub⟩
        · simpa using Text.not_mem_of_mem_splitOn hpiece
        · simpa [HasNoComma] using fun hm => hp.1 (hsub hm)
      obtain ⟨hstart, hend⟩ := Text.trim_eq_self_iff.1 hp.2
      have hlast : cs = (d ++ '.' :: (t ++ ['.'])) ++ c := by simp [hcs]
      refine ⟨⟨⟨(part d (by simp) nd).1, (part t (by simp) nt).1, (part c (by simp) nc).1⟩, ?_, ?_⟩, ?_⟩
      · rw [hcs] at hstart
        simpa using (Text.noBlankStart_append nd).1 hstart
      · rw [hlast] at hend
        simpa using (Text.noBlankEnd_append nc).1 hend
      · simp only [refTexts, List.mem_cons, List.not_mem_nil, or_false, forall_eq_or_imp, forall_eq,
          String.toList_ofList]
        exact ⟨(part d (by simp) nd).2, (part t (by simp) nt).2, (part c (by simp) nc).2⟩
  · simp at h

end Op

end Columnar
