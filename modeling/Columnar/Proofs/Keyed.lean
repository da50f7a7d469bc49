import Mathlib.Data.List.Basic
import Mathlib.Data.List.Induction
import Mathlib.Data.List.Nodup

/-!
# Lists of entries with keys

Tables go by their names, columns by theirs, scenarios by their numbers. Where no two entries of a list
share a key, an entry is found by its key; and the keys of a list that only grows by new ones are those of
all entries that ever came, in the order in which each came first.

* `find?_key_eq_some_iff` — what is found under a key
* `eraseDups_concat`, `nodup_eraseDups` — keys in the order of their first occurrences
-/

namespace Columnar

variable {α κ : Type}

/-- **An entry is found by its key** where no two entries share one. -/
theorem find?_key_eq_some_iff [DecidableEq κ] {key : α → κ} {l : List α} (hnodup : (l.map key).Nodup) {k : κ}
    {a : α} : l.find? (fun b => decide (key b = k)) = some a ↔ a ∈ l ∧ key a = k := by
  constructor
  · intro h
    exact ⟨List.mem_of_find?_eq_some h, by simpa using List.find?_some h⟩
  · rintro ⟨ha, rfl⟩
    cases hfound : l.find? fun b => decide (key b = key a) with
    | none => exact absurd (decide_eq_true rfl) (List.find?_eq_none.1 hfound a ha)
    | some b =>
      have hkey : key b = key a := by simpa using List.find?_some hfound
      rw [List.inj_on_of_nodup_map hnodup (List.mem_of_find?_eq_some hfound) ha hkey]

variable [BEq α] [LawfulBEq α]

/-- An element that comes last is left out if it came before. -/
theorem eraseDups_concat (l : List α) (a : α) :
    (l ++ [a]).eraseDups = if a ∈ l then l.eraseDups else l.eraseDups ++ [a] := by
  rw [List.eraseDups_append]
  by_cases h : a ∈ l <;> simp [List.removeAll, List.eraseDups_cons, h]

theorem nodup_eraseDups (l : List α) : l.eraseDups.Nodup := by
  induction l using List.reverseRecOn with
  | nil => exact List.nodup_nil
  | append_singleton l a ih =>
    rw [eraseDups_concat]
    split
    · exact ih
    · rename_i h
      refine List.nodup_append.2 ⟨ih, List.pairwise_singleton .., fun b hb c hc => ?_⟩
      rw [List.mem_singleton.1 hc]
      exact fun hba => h (hba ▸ List.mem_eraseDups.1 hb)

end Columnar
