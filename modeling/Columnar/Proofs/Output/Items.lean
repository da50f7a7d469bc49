import Columnar.Proofs.Output.Decoding

/-!
# What passes as the same output

A text is laid out from requests to print scalars, a sequence or columns. If two texts come from requests
of the same shapes, one passes against the other exactly if each request asks for the same contents as its
counterpart: the same numbers, or scalars with the same texts. Sequences without values count too, also
at the end, although all that they leave in a text is blank lines.

* `Layout.Item.exists_blocks` — what the requests lay out, and when their lines agree
* `Layout.judge_ofItems_iff` — **a text passes exactly against a text of the same contents**
-/

namespace Columnar

/-! ## Lines that tell what they were made of -/

namespace Block

variable {rs rs' : List (List Int64)} {items items' : List Aggregate} {n : Nat}

/-- Lines of rows of one width tell the rows. -/
theorem lines_rows_injective (h : ∀ row ∈ rs, row.length = n) (h' : ∀ row ∈ rs', row.length = n)
    (hlines : (rows rs).lines = (rows rs').lines) : rs = rs' := by
  induction rs generalizing rs' with
  | nil => exact (List.map_eq_nil_iff.1 hlines.symm).symm
  | cons row rs ih =>
    cases rs' with
    | nil => cases hlines
    | cons row' rs' =>
      obtain ⟨hrow, hrs⟩ := List.forall_mem_cons.1 h
      obtain ⟨hrow', hrs'⟩ := List.forall_mem_cons.1 h'
      obtain ⟨hhead, htail⟩ := List.cons.inj hlines
      rw [commaSeparated_int64_injective (hrow.trans hrow'.symm) hhead, ih hrs hrs' htail]

/-- A line of scalars tells their texts. -/
theorem lines_scalars_eq_iff (hlength : items.length = items'.length) :
    (scalars items).lines = (scalars items').lines ↔ items.map Aggregate.text = items'.map Aggregate.text := by
  have hsolid : ∀ l : List Aggregate, ∀ f ∈ l.map Aggregate.chars, Op.IsSolid f := by
    intro l f hf
    obtain ⟨a, -, rfl⟩ := List.mem_map.1 hf
    exact Op.isSolid_aggregate a
  have htexts : ∀ l : List Aggregate, l.map Aggregate.text = (l.map Aggregate.chars).map String.ofList :=
    fun l => by rw [List.map_map]; rfl
  rw [htexts, htexts, (List.map_injective_iff.2 fun _ _ => String.ofList_injective).eq_iff]
  constructor
  · intro h
    exact commaSeparated_injective (hsolid items) (hsolid items') (by simpa using hlength)
      (List.singleton_inj.1 h)
  · intro h
    rw [lines, lines, h]

/-! ## Columns side by side -/

variable {columns columns' : List (List Int64)} {n' : Nat}

/-- Aligned columns are laid out as their rows. -/
theorem ofColumns_of_aligned (hne : columns ≠ []) (h : ∀ c ∈ columns, c.length = n) :
    ofColumns columns = .ok (rows (Grid.rows n columns)) := by
  obtain ⟨c, cs, rfl⟩ := List.exists_cons_of_ne_nil hne
  have hfirst : (((c :: cs).head?).map List.length).getD 0 = n := h c (List.mem_cons_self ..)
  refine ofColumns_eq_ok_iff.2 ⟨fun d hd => (h d hd).trans hfirst.symm, ?_⟩
  rw [hfirst]

theorem noEmptyRow_columns (hne : columns ≠ []) (h : ∀ c ∈ columns, c.length = n) :
    (rows (Grid.rows n columns)).NoEmptyRow := by
  rintro row hrow rfl
  have hwidth := Grid.length_of_mem_rows (fun c hc => (h c hc).ge) hrow
  exact hne (List.length_eq_zero_iff.1 hwidth.symm)

/-- Lines of aligned columns tell the columns. -/
theorem lines_columns_injective (hcount : columns.length = columns'.length)
    (h : ∀ c ∈ columns, c.length = n) (h' : ∀ c ∈ columns', c.length = n')
    (hlines : (rows (Grid.rows n columns)).lines = (rows (Grid.rows n' columns')).lines) :
    columns = columns' := by
  have hwidth : ∀ row ∈ Grid.rows n columns, row.length = columns.length := fun row hrow =>
    Grid.length_of_mem_rows (fun c hc => (h c hc).ge) hrow
  have hwidth' : ∀ row ∈ Grid.rows n' columns', row.length = columns.length := fun row hrow =>
    (Grid.length_of_mem_rows (fun c hc => (h' c hc).ge) hrow).trans hcount.symm
  exact Grid.rows_injective h h' hcount (lines_rows_injective hwidth hwidth' hlines)

end Block

namespace Layout

/-! ## Requests -/

/-- A request to print. -/
inductive Item where
  | scalars (values : List Aggregate)
  | sequence (values : List Int64)
  | columns (columns : List (List Int64))

namespace Item

variable {p q : Item}

/-- The block that a request lays out. -/
def block : Item → Except QueryError Block
  | scalars values => .ok (.scalars values)
  | sequence values => .ok (.ofValues values)
  | columns cs => Block.ofColumns cs

/-- Whether two requests are of one kind, for equally many scalars or equally many aligned columns. -/
inductive SameShape : Item → Item → Prop where
  | scalars {values values' : List Aggregate} (count : values.length = values'.length) :
      SameShape (.scalars values) (.scalars values')
  | sequence (values values' : List Int64) : SameShape (.sequence values) (.sequence values')
  | columns {columns columns' : List (List Int64)} {rows rows' : Nat} (nonempty : columns ≠ [])
      (count : columns.length = columns'.length) (aligned : ∀ c ∈ columns, c.length = rows)
      (aligned' : ∀ c ∈ columns', c.length = rows') :
      SameShape (.columns columns) (.columns columns')

/-- Whether two requests ask for equal numbers, or for scalars of equal texts. -/
inductive SameContents : Item → Item → Prop where
  | scalars {values values' : List Aggregate} (texts : values.map Aggregate.text = values'.map Aggregate.text) :
      SameContents (.scalars values) (.scalars values')
  | sequence (values : List Int64) : SameContents (.sequence values) (.sequence values)
  | columns (columns : List (List Int64)) : SameContents (.columns columns) (.columns columns)

/-- **Requests of one shape are laid out as blocks of one kind, and the lines of these tell the contents.** -/
theorem SameShape.exists_block (h : SameShape p q) :
    ∃ b c, p.block = .ok b ∧ q.block = .ok c ∧ b.isScalars = c.isScalars ∧ b.NoEmptyRow ∧ c.NoEmptyRow ∧
      (b.lines = c.lines ↔ SameContents p q) := by
  cases h with
  | scalars count =>
    refine ⟨_, _, rfl, rfl, rfl, trivial, trivial, (Block.lines_scalars_eq_iff count).trans ?_⟩
    exact ⟨.scalars, fun | .scalars texts => texts⟩
  | sequence values values' =>
    have hwidth : ∀ vs : List Int64, ∀ row ∈ vs.map fun v => [v], row.length = 1 := by simp
    refine ⟨_, _, rfl, rfl, rfl, by simp [Block.ofValues, Block.NoEmptyRow],
      by simp [Block.ofValues, Block.NoEmptyRow], fun hlines => ?_, ?_⟩
    · have hrows := Block.lines_rows_injective (hwidth values) (hwidth values') hlines
      obtain rfl : values = values' := List.map_injective_iff.2 List.singleton_injective hrows
      exact .sequence values
    · rintro ⟨⟩
      rfl
  | columns nonempty count aligned aligned' =>
    have nonempty' := fun h => nonempty (List.length_eq_zero_iff.1 (count.trans (List.length_eq_zero_iff.2 h)))
    refine ⟨_, _, Block.ofColumns_of_aligned nonempty aligned, Block.ofColumns_of_aligned nonempty' aligned',
      rfl, Block.noEmptyRow_columns nonempty aligned, Block.noEmptyRow_columns nonempty' aligned',
      fun hlines => ?_, ?_⟩
    · obtain rfl := Block.lines_columns_injective count aligned aligned' hlines
      exact .columns _
    · rintro ⟨⟩
      obtain ⟨c, cs, rfl⟩ := List.exists_cons_of_ne_nil nonempty
      rw [← aligned c (List.mem_cons_self ..), ← aligned' c (List.mem_cons_self ..)]

/-- Lists of requests of the same shapes are laid out as blocks of the same kinds. -/
theorem exists_blocks {ps qs : List Item} (h : List.Forall₂ SameShape ps qs) :
    ∃ bs cs, ps.mapM block = .ok bs ∧ qs.mapM block = .ok cs ∧
      List.Forall₂ (fun b c => b.isScalars = c.isScalars) bs cs ∧ (∀ b ∈ bs, b.NoEmptyRow) ∧
      (∀ c ∈ cs, c.NoEmptyRow) ∧
      (List.Forall₂ (fun b c => b.lines = c.lines) bs cs ↔ List.Forall₂ SameContents ps qs) := by
  induction h with
  | nil => exact ⟨[], [], rfl, rfl, .nil, List.forall_mem_nil _, List.forall_mem_nil _, by simp⟩
  | cons hshape _ ih =>
    obtain ⟨b, c, hb, hc, hkind, hbrows, hcrows, hlines⟩ := hshape.exists_block
    obtain ⟨bs, cs, hbs, hcs, hkinds, hbsrows, hcsrows, hall⟩ := ih
    refine ⟨b :: bs, c :: cs, ?_, ?_, .cons hkind hkinds, List.forall_mem_cons.2 ⟨hbrows, hbsrows⟩,
      List.forall_mem_cons.2 ⟨hcrows, hcsrows⟩, ?_⟩
    · rw [List.mapM_cons, hb, Except.ok_bind, hbs]
      rfl
    · rw [List.mapM_cons, hc, Except.ok_bind, hcs]
      rfl
    · rw [List.forall₂_cons, List.forall₂_cons, hlines, hall]

end Item

/-- The text of a list of requests. -/
def ofItems (items : List Item) : Except QueryError String :=
  (items.mapM Item.block).map text

/-- **A text passes exactly against a text of the same contents**, if both come from requests of the same
shapes. -/
theorem judge_ofItems_iff {ps qs : List Item} (h : List.Forall₂ Item.SameShape ps qs) :
    ∃ t u, ofItems ps = .ok t ∧ ofItems qs = .ok u ∧
      (Verdict.judge t u = .pass ↔ List.Forall₂ Item.SameContents ps qs) := by
  obtain ⟨bs, cs, hbs, hcs, hkinds, hbsrows, hcsrows, hall⟩ := Item.exists_blocks h
  refine ⟨text bs, text cs, ?_, ?_, (judge_text_iff hkinds hbsrows hcsrows).trans hall⟩
  · rw [ofItems, hbs]
    rfl
  · rw [ofItems, hcs]
    rfl

/-- Scalars, columns and sequences, of which one in the middle and the last two have no values. -/
def mixedItems (mean : Option Mean) : List Item := [
  .scalars [.sum (some 3), .avg mean],
  .columns [[1, 2], [-3, 4]],
  .sequence [],
  .sequence [5],
  .sequence [],
  .sequence []]

/-- The mean of no values and a mean of zero have the same text. -/
theorem judge_mixedItems :
    ∃ t u, ofItems (mixedItems none) = .ok t ∧ ofItems (mixedItems (some ⟨0, 1⟩)) = .ok u ∧
      Verdict.judge t u = .pass := by
  have haligned : ∀ c ∈ ([[1, 2], [-3, 4]] : List (List Int64)), c.length = 2 := by decide
  have hshapes : List.Forall₂ Item.SameShape (mixedItems none) (mixedItems (some ⟨0, 1⟩)) :=
    .cons (.scalars rfl) <|
      .cons (.columns (List.cons_ne_nil _ _) rfl haligned haligned) <|
      .cons (.sequence _ _) <| .cons (.sequence _ _) <| .cons (.sequence _ _) <| .cons (.sequence _ _) .nil
  have hcontents : List.Forall₂ Item.SameContents (mixedItems none) (mixedItems (some ⟨0, 1⟩)) :=
    .cons (.scalars (by decide +kernel)) <| .cons (.columns _) <|
      .cons (.sequence _) <| .cons (.sequence _) <| .cons (.sequence _) <| .cons (.sequence _) .nil
  obtain ⟨t, u, ht, hu, hjudge⟩ := judge_ofItems_iff hshapes
  exact ⟨t, u, ht, hu, hjudge.2 hcontents⟩

end Layout

end Columnar
