import Columnar.Random.Source
import Mathlib.Logic.Function.Iterate

/-!
# Successive results of a draw

How much of a source one draw takes depends on what it finds there. So a draw that is repeated is told by
its results, counted from zero, and by the source that is left after so many of them. Rows of repeated
draws are nothing new: they cut the results of the draw into pieces of one length.

* `run_repeatDraw` — a draw repeated
* `run_repeatDraw_repeatDraw` — **rows of draws, one after the other**
-/

namespace Columnar.Random

variable {σ α : Type}

/-- The source after `n` results of a draw. -/
def after (draw : StateM σ α) (n : Nat) (s : σ) : σ :=
  (fun s => (draw.run s).2)^[n] s

/-- Result `k` of a draw that is repeated. -/
def result (draw : StateM σ α) (s : σ) (k : Nat) : α :=
  (draw.run (after draw k s)).1

variable (draw : StateM σ α)

theorem after_add (m n : Nat) (s : σ) : after draw (m + n) s = after draw n (after draw m s) := by
  rw [Nat.add_comm, after, Function.iterate_add_apply]
  rfl

/-- Results after other ones go on counting. -/
theorem result_after (s : σ) (m k : Nat) : result draw (after draw m s) k = result draw s (m + k) := by
  rw [result, result, after_add]

theorem run_repeatDraw (n : Nat) (s : σ) :
    (repeatDraw n draw).run s = ((List.range n).map (result draw s), after draw n s) := by
  induction n generalizing s with
  | zero => rfl
  | succ n ih =>
    rw [repeatDraw_succ, ih, List.range_succ_eq_map, List.map_cons, List.map_map]
    rfl

/-- A row of results is as many single results. -/
theorem after_repeatDraw (n r : Nat) (s : σ) : after (repeatDraw n draw) r s = after draw (r * n) s := by
  have hrow : (fun s => ((repeatDraw n draw).run s).2) = after draw n :=
    funext fun s => congrArg Prod.snd (run_repeatDraw draw n s)
  rw [after, hrow, Nat.mul_comm, after, Function.iterate_mul]
  rfl

/-- **Result `c` of row `r` is result `r * n + c`** where each row has `n` of them. -/
theorem run_repeatDraw_repeatDraw (m n : Nat) (s : σ) :
    (repeatDraw m (repeatDraw n draw)).run s =
      ((List.range m).map fun r => (List.range n).map fun c => result draw s (r * n + c),
        after draw (m * n) s) := by
  rw [run_repeatDraw, after_repeatDraw]
  refine Prod.ext (List.map_congr_left fun r _ => ?_) rfl
  rw [result, after_repeatDraw, run_repeatDraw]
  exact List.map_congr_left fun c _ => result_after draw s (r * n) c

end Columnar.Random
