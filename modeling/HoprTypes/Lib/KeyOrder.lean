import Mathlib.Order.Compare

/-!
# Comparisons by a key

A comparison that only looks at three keys of its arguments, the first one first.  It is a
total preorder, in which values with the same keys are not told apart.
-/

set_option autoImplicit false

namespace KeyOrder

universe u

variable {α : Type u} {κ₁ κ₂ κ₃ : Type} [Ord κ₁] [Ord κ₂] [Ord κ₃]

def byKeys (key : α → κ₁ × κ₂ × κ₃) : α → α → Ordering :=
  compareLex (compareOn fun value => (key value).1)
    (compareLex (compareOn fun value => (key value).2.1) (compareOn fun value => (key value).2.2))

/-- Keys of which the first that differs is the smaller one. -/
def Precedes (first second : κ₁ × κ₂ × κ₃) : Prop :=
  compare first.1 second.1 = .lt ∨ first.1 = second.1 ∧
    (compare first.2.1 second.2.1 = .lt ∨ first.2.1 = second.2.1 ∧
      compare first.2.2 second.2.2 = .lt)

/-- A total preorder whose classes are the values with the same key, ordered by these keys;
`eq` is the equality that comes with the order. -/
structure OrderedByKeys (cmp : α → α → Ordering) (eq : α → α → Bool)
    (key : α → κ₁ × κ₂ × κ₃) : Prop where
  swap : ∀ first second, cmp second first = (cmp first second).swap
  trans : ∀ first second third, (cmp first second).isLE = true → (cmp second third).isLE = true →
    (cmp first third).isLE = true
  equal_iff : ∀ first second, cmp first second = .eq ↔ key first = key second
  less_iff : ∀ first second, cmp first second = .lt ↔ Precedes (key first) (key second)
  equal_of_eq : ∀ first second, eq first second = true → cmp first second = .eq

/-- A total order that agrees with the equality that comes with it. -/
structure Consistent (cmp : α → α → Ordering) (eq : α → α → Bool) : Prop where
  trans : ∀ first second third, (cmp first second).isLE = true → (cmp second third).isLE = true →
    (cmp first third).isLE = true
  antisymm : ∀ first second, (cmp first second).isLE = true → (cmp second first).isLE = true →
    eq first second = true
  equal_iff : ∀ first second, cmp first second = .eq ↔ eq first second = true

variable [Std.LawfulEqOrd κ₁] [Std.LawfulEqOrd κ₂] [Std.LawfulEqOrd κ₃]

theorem byKeys_eq_iff (key : α → κ₁ × κ₂ × κ₃) (first second : α) :
    byKeys key first second = .eq ↔ key first = key second := by
  rw [byKeys, compareLex_eq_eq, compareLex_eq_eq, compareOn, compareOn, compareOn,
    Std.LawfulEqOrd.compare_eq_iff_eq, Std.LawfulEqOrd.compare_eq_iff_eq,
    Std.LawfulEqOrd.compare_eq_iff_eq, Prod.ext_iff, Prod.ext_iff]

omit [Std.LawfulEqOrd κ₃] in
theorem byKeys_lt_iff (key : α → κ₁ × κ₂ × κ₃) (first second : α) :
    byKeys key first second = .lt ↔ Precedes (key first) (key second) := by
  simp only [byKeys, compareLex, compareOn, Ordering.then_eq_lt, Precedes,
    Std.LawfulEqOrd.compare_eq_iff_eq]

theorem orderedByKeys [Std.TransOrd κ₁] [Std.TransOrd κ₂] [Std.TransOrd κ₃]
    (key : α → κ₁ × κ₂ × κ₃) {eq : α → α → Bool}
    (same : ∀ first second, eq first second = true → key first = key second) :
    OrderedByKeys (byKeys key) eq key where
  swap first second := by
    unfold byKeys
    exact Std.OrientedCmp.eq_swap
  trans first second third := by
    unfold byKeys
    exact Std.TransCmp.isLE_trans
  equal_iff := byKeys_eq_iff key
  less_iff := byKeys_lt_iff key
  equal_of_eq first second equal := (byKeys_eq_iff key first second).mpr (same first second equal)

theorem not_consistent {cmp : α → α → Ordering} {eq : α → α → Bool} {first second : α}
    (equal : cmp first second = .eq) (different : eq first second = false) :
    ¬Consistent cmp eq := by
  intro consistent
  rw [consistent.equal_iff, different] at equal
  exact absurd equal Bool.false_ne_true

end KeyOrder
