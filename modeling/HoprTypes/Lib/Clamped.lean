import Mathlib.Algebra.BigOperators.Group.List.Basic
import Mathlib.Algebra.Order.Group.MinMax
import Mathlib.Data.List.Induction
import Mathlib.Order.MinMax

/-!
# Clamped arithmetic

Sums that are cut to a range after every step.  A whole run of such steps acts like one shift that
is cut to the runs from the two ends of the range.  For natural numbers below a limit, cutting
after every addition and multiplication is the same as cutting once at the end.
-/

set_option autoImplicit false

namespace Clamped

universe u v

section

variable {α : Type u} [LinearOrder α]

def clamp (lo hi value : α) : α := max lo (min hi value)

variable {lo hi : α}

theorem clamp_max (left right : α) :
    clamp lo hi (max left right) = max (clamp lo hi left) (clamp lo hi right) := by
  unfold clamp
  rw [min_max_distrib_left, sup_sup_distrib_left]

theorem clamp_min (left right : α) :
    clamp lo hi (min left right) = min (clamp lo hi left) (clamp lo hi right) := by
  unfold clamp
  rw [inf_inf_distrib_left, max_min_distrib_left]

theorem le_clamp (value : α) : lo ≤ clamp lo hi value := le_max_left _ _

theorem clamp_le (proper : lo ≤ hi) (value : α) : clamp lo hi value ≤ hi :=
  max_le proper (min_le_left _ _)

theorem clamp_of_mem {value : α} (above : lo ≤ value) (below : value ≤ hi) :
    clamp lo hi value = value := by
  rw [clamp, min_eq_right below, max_eq_right above]

theorem clamp_clamp {low high : α} (above : lo ≤ low) (below : high ≤ hi) (value : α) :
    clamp low high (clamp lo hi value) = clamp low high value := by
  unfold clamp
  have inner : min high (min hi value) = min high value := by
    rw [← min_assoc, min_eq_left below]
  have outer : max low (min high lo) = low := max_eq_left ((min_le_right _ _).trans above)
  rw [min_max_distrib_left, inner, ← max_assoc, outer]

end

section

variable {α : Type u} [AddCommGroup α] [LinearOrder α]

def shift (lo hi value delta : α) : α := clamp lo hi (value + delta)

/-- A sum that is cut to the range after every step. -/
def run (lo hi : α) (deltas : List α) (start : α) : α := deltas.foldl (shift lo hi) start

variable {lo hi : α}

theorem shift_clamp [IsOrderedAddMonoid α] (low high value delta : α) :
    shift lo hi (clamp low high value) delta =
      max (shift lo hi low delta) (min (shift lo hi high delta) (shift lo hi value delta)) := by
  unfold shift clamp
  rw [← max_add_add_right, ← min_add_add_right]
  exact (clamp_max _ _).trans (congrArg _ (clamp_min _ _))

theorem run_concat (deltas : List α) (delta start : α) :
    run lo hi (deltas ++ [delta]) start = shift lo hi (run lo hi deltas start) delta := by
  rw [run, List.foldl_append]
  rfl

theorem run_eq_clamp [IsOrderedAddMonoid α] (proper : lo ≤ hi) (deltas : List α) {start : α}
    (above : lo ≤ start) (below : start ≤ hi) :
    run lo hi deltas start =
      clamp (run lo hi deltas lo) (run lo hi deltas hi) (start + deltas.sum) := by
  induction deltas using List.reverseRecOn with
  | nil =>
      rw [List.sum_nil, add_zero]
      exact (clamp_of_mem above below).symm
  | append_singleton deltas delta ih =>
      rw [run_concat, run_concat, run_concat, ih, shift_clamp, List.sum_append, List.sum_singleton,
        ← add_assoc]
      exact clamp_clamp (le_clamp _) (clamp_le proper _) _

/-- A run that never leaves the range adds up exactly. -/
theorem run_eq_add {deltas : List α} {start : α}
    (inside : ∀ front, front <+: deltas → lo ≤ start + front.sum ∧ start + front.sum ≤ hi) :
    run lo hi deltas start = start + deltas.sum := by
  induction deltas using List.reverseRecOn with
  | nil => rw [List.sum_nil, add_zero, run, List.foldl_nil]
  | append_singleton deltas delta ih =>
      have ended := inside (deltas ++ [delta]) (List.prefix_refl _)
      have before := ih fun front isFront =>
        inside front (isFront.trans (List.prefix_append _ _))
      rw [run_concat, before, shift, add_assoc]
      rw [List.sum_append, List.sum_singleton] at ended ⊢
      exact clamp_of_mem ended.1 ended.2

end

/-! ## Natural numbers below a limit -/

theorem min_add_min (limit left right : Nat) :
    min limit (min limit left + min limit right) = min limit (left + right) := by omega

theorem min_mul_min (limit left right : Nat) :
    min limit (min limit left * min limit right) = min limit (left * right) := by
  rcases Nat.eq_zero_or_pos left with rfl | leftPositive
  · simp
  rcases Nat.eq_zero_or_pos right with rfl | rightPositive
  · simp
  rcases Nat.eq_zero_or_pos limit with rfl | limitPositive
  · simp
  -- A factor that is cut makes both products reach the limit.
  rcases le_total left limit with leftFits | leftCut
  · rcases le_total right limit with rightFits | rightCut
    · rw [min_eq_right leftFits, min_eq_right rightFits]
    · rw [min_eq_right leftFits, min_eq_left rightCut, min_eq_left, min_eq_left]
      · exact rightCut.trans (Nat.le_mul_of_pos_left right leftPositive)
      · exact Nat.le_mul_of_pos_left limit leftPositive
  · have positive : 0 < min limit right := lt_min limitPositive rightPositive
    rw [min_eq_left leftCut, min_eq_left, min_eq_left]
    · exact leftCut.trans (Nat.le_mul_of_pos_right left rightPositive)
    · exact Nat.le_mul_of_pos_right limit positive

inductive Term (ι : Type u) where
  | value (value : ι)
  | add (left right : Term ι)
  | mul (left right : Term ι)

namespace Term

variable {ι : Type u}

def eval {β : Type v} (value : ι → β) (add mul : β → β → β) : Term ι → β
  | .value given => value given
  | .add left right => add (left.eval value add mul) (right.eval value add mul)
  | .mul left right => mul (left.eval value add mul) (right.eval value add mul)

theorem eval_cut {limit : Nat} {size : ι → Nat} (fits : ∀ given, size given ≤ limit)
    {add mul : ι → ι → ι}
    (sizeAdd : ∀ left right, size (add left right) = min limit (size left + size right))
    (sizeMul : ∀ left right, size (mul left right) = min limit (size left * size right))
    (term : Term ι) :
    size (term.eval id add mul) = min limit (term.eval size (· + ·) (· * ·)) := by
  induction term with
  | value given => exact (min_eq_right (fits given)).symm
  | add left right leftIh rightIh =>
      simp only [eval]
      rw [sizeAdd, leftIh, rightIh, min_add_min]
  | mul left right leftIh rightIh =>
      simp only [eval]
      rw [sizeMul, leftIh, rightIh, min_mul_min]

end Term

end Clamped
