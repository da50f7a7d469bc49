import Columnar.Proofs.Text.LineEnds
import Columnar.Proofs.Verdict
import Columnar.Text.Numeral
import Mathlib.Order.Bounds.Basic

/-!
# The reason of a failure

Two lists of lines are equal, or one of them starts the other, or there is a first position at which they
differ. A comparison ends in one way in each of these cases, and its reason tells which case it was: the
number of a line is read off a reason whatever the lines that are quoted behind it. All that is compared
are the lines without blanks at the ends, so retouching a text there changes no verdict.

* `Verdict.judgeLines_cases` — the three ways in which a comparison ends
* `Verdict.lineReason_inj`, `Verdict.lineReason_ne_countReason` — reasons tell these ways apart
* `Verdict.normalLines_eq_of_retouch` — retouched texts have the same lines
* `Verdict.judge_reasons` — **what a verdict says of the lines of two texts**
-/

namespace Columnar.Verdict

variable {es as : List (List Char)} {i k m n : Nat} {x y x' y' : List Char}

/-! ## Differences -/

/-- Both lists have a line at a position, and the two lines differ. -/
def DiffersAt (es as : List (List Char)) (i : Nat) : Prop :=
  ∃ x y, es[i]? = some x ∧ as[i]? = some y ∧ x ≠ y

theorem DiffersAt.symm (h : DiffersAt es as i) : DiffersAt as es i := by
  obtain ⟨x, y, hx, hy, hne⟩ := h
  exact ⟨y, x, hy, hx, hne.symm⟩

/-- A list differs nowhere from one that it starts. -/
theorem not_differsAt_of_starts (h : es <+: as ∨ as <+: es) : ¬ DiffersAt es as i := by
  have hstart : ∀ {es as : List (List Char)}, es <+: as → ¬ DiffersAt es as i := by
    rintro es as ⟨rest, rfl⟩ ⟨x, y, hx, hy, hne⟩
    obtain ⟨hi, -⟩ := List.getElem?_eq_some_iff.1 hx
    rw [List.getElem?_append_left hi, hx] at hy
    exact hne (Option.some.inj hy)
  rcases h with h | h
  · exact hstart h
  · exact fun hdiffers => hstart h hdiffers.symm

/-- **A difference that is found is the first one.** -/
theorem isLeast_of_firstDifference (h : firstDifference n es as = some (k, x, y)) :
    ∃ i, k = n + i ∧ es[i]? = some x ∧ as[i]? = some y ∧ IsLeast {i | DiffersAt es as i} i := by
  induction es generalizing n as with
  | nil => simp [firstDifference] at h
  | cons e es ih =>
    cases as with
    | nil => simp [firstDifference] at h
    | cons a as =>
      rw [firstDifference] at h
      split at h
      · rename_i heq
        obtain ⟨i, rfl, hx, hy, hmem, hleast⟩ := ih h
        refine ⟨i + 1, by omega, hx, hy, hmem, fun j hj => ?_⟩
        cases j with
        | zero =>
          obtain ⟨x, y, hx, hy, hne⟩ := hj
          exact absurd ((Option.some.inj hx).symm.trans (heq.trans (Option.some.inj hy))) hne
        | succ j => exact Nat.succ_le_succ (hleast hj)
      · rename_i hne
        obtain ⟨rfl, rfl, rfl⟩ : n = k ∧ e = x ∧ a = y := by simpa using h
        exact ⟨0, rfl, rfl, rfl, ⟨e, a, rfl, rfl, hne⟩, fun j _ => Nat.zero_le j⟩

/-! ## Reasons -/

/-- The reason of a failure at a line, which quotes both lines. -/
def lineReason (n : Nat) (expected actual : List Char) : String :=
  s!"Line {n} mismatch: expected '{String.ofList expected}', got '{String.ofList actual}'"

/-- The reason of a failure where no line differs. -/
def countReason (expected actual : Nat) : String :=
  s!"Line count mismatch: expected {expected}, got {actual}"

/-- **The three ways in which a comparison ends.** -/
theorem judgeLines_cases (es as : List (List Char)) :
    (es = as ∧ judgeLines es as = pass) ∨
    (es ≠ as ∧ (es <+: as ∨ as <+: es) ∧ judgeLines es as = fail (countReason es.length as.length)) ∨
    ∃ i x y, es[i]? = some x ∧ as[i]? = some y ∧ IsLeast {i | DiffersAt es as i} i ∧
      judgeLines es as = fail (lineReason (i + 1) x y) := by
  by_cases heq : es = as
  · exact .inl ⟨heq, judgeLines_eq_pass_iff.2 heq⟩
  · refine .inr ?_
    have hne : judgeLines es as ≠ pass := fun h => heq (judgeLines_eq_pass_iff.1 h)
    unfold judgeLines at hne ⊢
    cases hfound : firstDifference 1 es as with
    | none =>
      rw [hfound] at hne
      refine .inl ⟨heq, (firstDifference_eq_none_iff 1 es as).1 hfound, if_neg fun hlength => ?_⟩
      exact hne (if_pos hlength)
    | some difference =>
      obtain ⟨n, x, y⟩ := difference
      obtain ⟨i, rfl, hx, hy, hleast⟩ := isLeast_of_firstDifference hfound
      exact .inr ⟨i, x, y, hx, hy, hleast, by rw [Nat.add_comm i 1]; rfl⟩

/-! ## Telling reasons apart -/

theorem toList_lineReason (n : Nat) (expected actual : List Char) :
    ∃ quoted, (lineReason n expected actual).toList = "Line ".toList ++ (Text.digits n ++ ' ' :: quoted) := by
  have hnumber : toString n = String.ofList (Text.digits n) := rfl
  unfold lineReason
  rw [hnumber]
  simp only [String.toList_append, String.toList_ofList, List.append_assoc, toString]
  exact ⟨_, rfl⟩

theorem toList_countReason (expected actual : Nat) :
    ∃ counts, (countReason expected actual).toList = "Line ".toList ++ ("count".toList ++ ' ' :: counts) := by
  unfold countReason
  simp only [String.toList_append, List.append_assoc]
  exact ⟨_, rfl⟩

/-- The word behind a common start is read up to the next space. -/
theorem word_eq {front word word' rest rest' : List Char} (hword : ' ' ∉ word) (hword' : ' ' ∉ word')
    (h : front ++ (word ++ ' ' :: rest) = front ++ (word' ++ ' ' :: rest')) : word = word' := by
  have hpieces := congrArg (Text.splitOn ' ') (List.append_cancel_left h)
  rw [Text.splitOn_append hword, Text.splitOn_append hword'] at hpieces
  exact (List.cons.inj hpieces).1

theorem space_notMem_digits (n : Nat) : ' ' ∉ Text.digits n := fun h =>
  absurd (Text.isDigit_of_mem_digits h) (by decide)

/-- **The number of a line is read off a reason**, whatever lines are quoted. -/
theorem lineReason_inj (h : lineReason m x y = lineReason n x' y') : m = n := by
  obtain ⟨quoted, hm⟩ := toList_lineReason m x y
  obtain ⟨quoted', hn⟩ := toList_lineReason n x' y'
  rw [h, hn] at hm
  have hdigits := word_eq (space_notMem_digits n) (space_notMem_digits m) hm
  have hread := Text.readDigits_digits m
  rw [← hdigits, Text.readDigits_digits] at hread
  exact (Option.some.inj hread).symm

theorem lineReason_ne_countReason : lineReason k x y ≠ countReason m n := by
  intro h
  obtain ⟨quoted, hline⟩ := toList_lineReason k x y
  obtain ⟨counts, hcount⟩ := toList_countReason m n
  rw [h, hcount] at hline
  have hdigits := word_eq (by decide) (space_notMem_digits k) hline
  have hmem : 'c' ∈ Text.digits k := by
    rw [← hdigits]
    decide
  exact absurd (Text.isDigit_of_mem_digits hmem) (by decide)

/-! ## Verdicts -/

/-- **A reason tells a line iff that is the first one that differs.** -/
theorem judgeLines_eq_lineReason_iff :
    (∃ x y, judgeLines es as = fail (lineReason k x y)) ↔
      ∃ i, k = i + 1 ∧ IsLeast {i | DiffersAt es as i} i := by
  rcases judgeLines_cases es as with ⟨rfl, h⟩ | ⟨-, hstarts, h⟩ | ⟨i, x, y, -, -, hleast, h⟩
  · refine iff_of_false (fun ⟨x, y, hline⟩ => ?_) fun ⟨i, _, hi⟩ => ?_
    · rw [h] at hline
      cases hline
    · exact not_differsAt_of_starts (.inl (List.prefix_refl es)) hi.1
  · refine iff_of_false (fun ⟨x, y, hline⟩ => ?_) fun ⟨i, _, hi⟩ => not_differsAt_of_starts hstarts hi.1
    rw [h] at hline
    exact lineReason_ne_countReason (Verdict.fail.inj hline).symm
  · constructor
    · rintro ⟨x', y', hline⟩
      rw [h] at hline
      exact ⟨i, (lineReason_inj (Verdict.fail.inj hline)).symm, hleast⟩
    · rintro ⟨j, rfl, hj⟩
      obtain rfl : j = i := hj.unique hleast
      exact ⟨x, y, h⟩

/-- Both lines are quoted. -/
theorem judgeLines_of_isLeast (h : IsLeast {i | DiffersAt es as i} i) (hx : es[i]? = some x)
    (hy : as[i]? = some y) : judgeLines es as = fail (lineReason (i + 1) x y) := by
  rcases judgeLines_cases es as with ⟨rfl, -⟩ | ⟨-, hstarts, -⟩ | ⟨j, x', y', hx', hy', hleast, hj⟩
  · exact absurd h.1 (not_differsAt_of_starts (.inl (List.prefix_refl es)))
  · exact absurd h.1 (not_differsAt_of_starts hstarts)
  · obtain rfl : i = j := h.unique hleast
    obtain rfl : x = x' := Option.some.inj (hx.symm.trans hx')
    obtain rfl : y = y' := Option.some.inj (hy.symm.trans hy')
    exact hj

/-- **A reason tells numbers of lines iff one list starts the other**, and these are their lengths. -/
theorem judgeLines_eq_countReason_iff :
    (∃ m n, judgeLines es as = fail (countReason m n)) ↔ es ≠ as ∧ (es <+: as ∨ as <+: es) := by
  rcases judgeLines_cases es as with ⟨rfl, h⟩ | ⟨hne, hstarts, h⟩ | ⟨i, x, y, -, -, hleast, h⟩
  · refine iff_of_false (fun ⟨m, n, hcount⟩ => ?_) fun hne => hne.1 rfl
    rw [h] at hcount
    cases hcount
  · exact iff_of_true ⟨_, _, h⟩ ⟨hne, hstarts⟩
  · refine iff_of_false (fun ⟨m, n, hcount⟩ => ?_) fun ⟨_, hstarts⟩ => not_differsAt_of_starts hstarts hleast.1
    rw [h] at hcount
    exact lineReason_ne_countReason (Verdict.fail.inj hcount)

theorem judgeLines_of_starts (hne : es ≠ as) (h : es <+: as ∨ as <+: es) :
    judgeLines es as = fail (countReason es.length as.length) := by
  rcases judgeLines_cases es as with ⟨heq, -⟩ | ⟨-, -, hcount⟩ | ⟨i, x, y, -, -, hleast, -⟩
  · exact absurd heq hne
  · exact hcount
  · exact absurd hleast.1 (not_differsAt_of_starts h)

/-! ## Retouched texts -/

/-- **Retouched texts have the same lines.** -/
theorem normalLines_eq_of_retouch {cs ds : List Char} (h : Relation.ReflTransGen Text.Retouch cs ds) :
    normalLines ds = normalLines cs := by
  refine Text.dropEndWhile_isEmpty_eq_iff.2 ?_
  induction h with
  | refl => exact .refl _
  | @tail cs' ds _ hstep ih =>
    refine .trans ?_ ih
    exact (Text.map_trimEnd_lines ds).trans (hstep.eqUpToBlankEnd.symm.trans (Text.map_trimEnd_lines cs').symm)

/-- **What a verdict says of the lines of two texts**, and that it says the same of retouched ones. -/
theorem judge_reasons (expected actual : String) :
    (judge expected actual = pass ↔ normalLines expected.toList = normalLines actual.toList) ∧
    let es := normalLines expected.toList
    let as := normalLines actual.toList
    (∀ k, (∃ x y, judge expected actual = fail (lineReason k x y)) ↔
      ∃ i, k = i + 1 ∧ IsLeast {i | DiffersAt es as i} i) ∧
    (∀ i x y, IsLeast {i | DiffersAt es as i} i → es[i]? = some x → as[i]? = some y →
      judge expected actual = fail (lineReason (i + 1) x y)) ∧
    ((∃ m n, judge expected actual = fail (countReason m n)) ↔ es ≠ as ∧ (es <+: as ∨ as <+: es)) ∧
    (es ≠ as → es <+: as ∨ as <+: es →
      judge expected actual = fail (countReason es.length as.length)) ∧
    ∀ expected' actual', Relation.ReflTransGen Text.Retouch expected.toList expected'.toList →
      Relation.ReflTransGen Text.Retouch actual.toList actual'.toList →
      judge expected' actual' = judge expected actual := by
  refine ⟨judgeLines_eq_pass_iff, fun k => judgeLines_eq_lineReason_iff,
    fun i x y => judgeLines_of_isLeast, judgeLines_eq_countReason_iff, judgeLines_of_starts,
    fun expected' actual' hexpected hactual => ?_⟩
  rw [judge, normalLines_eq_of_retouch hexpected, normalLines_eq_of_retouch hactual]
  rfl

/-- Texts of which the second lines differ, and the third ones as well, with carriage returns and blank
lines in one of them. -/
theorem judge_reasons_secondLine :
    judge "1\n2\n3\n" "1\n5\n4" = fail (lineReason 2 ['2'] ['5']) ∧
      Relation.ReflTransGen Text.Retouch "1\n5\n4".toList "1\r\n5\r\n4\n \n".toList ∧
      judge "1\n2\n3\n" "1\r\n5\r\n4\n \n" = judge "1\n2\n3\n" "1\n5\n4" := by
  obtain ⟨-, -, hline, -, -, hretouch⟩ := judge_reasons "1\n2\n3\n" "1\n5\n4"
  have hes : normalLines "1\n2\n3\n".toList = [['1'], ['2'], ['3']] := by decide
  have has : normalLines "1\n5\n4".toList = [['1'], ['5'], ['4']] := by decide
  have hleast : IsLeast {i | DiffersAt [['1'], ['2'], ['3']] [['1'], ['5'], ['4']] i} 1 := by
    refine ⟨⟨['2'], ['5'], rfl, rfl, by decide⟩, fun j ⟨x, y, hx, hy, hne⟩ => Nat.pos_of_ne_zero ?_⟩
    rintro rfl
    exact hne (Option.some.inj (hx.symm.trans hy))
  have hchain : Relation.ReflTransGen Text.Retouch "1\n5\n4".toList "1\r\n5\r\n4\n \n".toList :=
    (Text.retouch_withReturns _).tail (.blankLines _ "\n \n".toList (List.all_eq_true.1 (by decide)))
  rw [hes, has] at hline
  exact ⟨hline 1 ['2'] ['5'] hleast rfl rfl, hchain, hretouch _ _ .refl hchain⟩

end Columnar.Verdict
