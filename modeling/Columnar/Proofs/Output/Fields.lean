import Columnar.Output
import Columnar.Proofs.Script.Fields

/-!
# Fields between commas

Every value and every aggregate is written without commas and blanks, so a line of them can be read
back: its fields are what stands between its commas.

* `Op.isSolid_int64Chars`, `Op.isSolid_aggregate` — a field holds no comma and no blank
* `Block.commaSeparated_injective` — **lines with equally many fields are equal only if the fields are**
* `Block.commaSeparated_int64_injective` — and then the numbers are
-/

namespace Columnar

namespace Op

/-! ## What a field is made of -/

theorem isSolid_append {cs ds : List Char} (hcs : IsSolid cs) (hds : IsSolid ds) : IsSolid (cs ++ ds) :=
  fun c hc => (List.mem_append.1 hc).elim (hcs c) (hds c)

theorem isSolid_int64Chars (v : Int64) : IsSolid (Text.int64Chars v) :=
  isSolid_intChars v.toInt

theorem isSolid_placePoint (places units : Nat) : IsSolid (Decimal.placePoint places units) := by
  have hpadded : IsSolid (List.replicate (places + 1 - (Text.digits units).length) '0' ++
      Text.digits units) := by
    refine isSolid_append (fun c hc => ?_) (isSolid_digits units)
    rw [List.eq_of_mem_replicate hc]
    decide
  refine isSolid_append (fun c hc => hpadded c (List.mem_of_mem_take hc)) fun c hc => ?_
  rcases List.mem_cons.1 hc with rfl | hc
  · decide
  · exact hpadded c (List.mem_of_mem_drop hc)

theorem isSolid_fixedChars (places : Nat) (x : Float) : IsSolid (Decimal.fixedChars places x) := by
  unfold Decimal.fixedChars
  split
  · decide
  · split <;> decide
  · rename_i negative m q _
    have hbody := isSolid_placePoint places (Decimal.unitsOf places m q)
    dsimp only
    split
    · have hsign : IsSolid ['-'] := by decide
      exact isSolid_append hsign hbody
    · exact hbody

theorem isSolid_aggregate (a : Aggregate) : IsSolid a.chars := by
  cases a with
  | sum total => exact isSolid_intChars _
  | avg mean =>
    cases mean with
    | none => decide
    | some m => exact isSolid_fixedChars 2 m.toFloat

end Op

namespace Text

theorem intChars_ne_nil (z : Int) : intChars z ≠ [] := by
  cases z with
  | ofNat n => exact digits_ne_nil n
  | negSucc n => exact List.cons_ne_nil _ _

theorem int64Chars_injective : Function.Injective int64Chars := by
  intro v w h
  have hread := readInt64_int64Chars v
  rw [h, readInt64_int64Chars w] at hread
  exact (Option.some.inj hread).symm

end Text

/-! ## A line of fields -/

namespace Block

variable {fields fields' : List (List Char)}

/-- A line of solid fields holds no blank. -/
theorem not_isBlank_of_mem_commaSeparated (h : ∀ f ∈ fields, Op.IsSolid f) {c : Char}
    (hc : c ∈ commaSeparated fields) : Text.isBlank c = false := by
  rcases Text.mem_intercalate hc with rfl | ⟨f, hf, hcf⟩
  · decide
  · exact (h f hf c hcf).2

/-- **Lines with equally many fields are equal only if the fields are.** -/
theorem commaSeparated_injective (h : ∀ f ∈ fields, Op.IsSolid f) (h' : ∀ f ∈ fields', Op.IsSolid f)
    (hlength : fields.length = fields'.length) (hline : commaSeparated fields = commaSeparated fields') :
    fields = fields' := by
  rcases eq_or_ne fields [] with rfl | hne
  · exact (List.length_eq_zero_iff.1 hlength.symm).symm
  · have hne' : fields' ≠ [] := by
      rintro rfl
      exact hne (List.length_eq_zero_iff.1 hlength)
    rw [← Text.splitOn_intercalate hne fun f hf hm => (h f hf ',' hm).1 rfl,
      ← Text.splitOn_intercalate hne' fun f hf hm => (h' f hf ',' hm).1 rfl]
    exact congrArg (Text.splitOn ',') hline

/-- A line with a field that is not empty is not empty. -/
theorem commaSeparated_ne_nil {f : List Char} (hf : f ≠ []) : commaSeparated (f :: fields) ≠ [] := by
  cases fields with
  | nil => simpa [commaSeparated] using hf
  | cons g gs => simp [commaSeparated, hf]

/-- A print of values has a line for each of them. -/
theorem lines_ofValues (values : List Int64) : (ofValues values).lines = values.map Text.int64Chars := by
  rw [ofValues, lines, List.map_map]
  refine List.map_congr_left fun v _ => ?_
  show List.intercalate [','] [Text.int64Chars v] = Text.int64Chars v
  exact List.intercalate_singleton

/-- **Lines with equally many numbers are equal only if the numbers are.** -/
theorem commaSeparated_int64_injective {row row' : List Int64} (hlength : row.length = row'.length)
    (hline : commaSeparated (row.map Text.int64Chars) = commaSeparated (row'.map Text.int64Chars)) :
    row = row' := by
  have hsolid : ∀ r : List Int64, ∀ f ∈ r.map Text.int64Chars, Op.IsSolid f := by
    intro r f hf
    obtain ⟨v, -, rfl⟩ := List.mem_map.1 hf
    exact Op.isSolid_int64Chars v
  exact Text.int64Chars_injective.list_map
    (commaSeparated_injective (hsolid row) (hsolid row') (by simpa using hlength) hline)

end Block

end Columnar
