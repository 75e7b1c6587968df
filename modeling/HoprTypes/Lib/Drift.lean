import Mathlib

/-!
# Drift

A thing that falls due is seen as the upper set of the moments at which it is due: from one
moment on, always or never.  Two such views agree up to a drift if what is due by the one is due
by the other at most the drift later.  Views that agree up to a drift step by step agree up to
the sum of the drifts, and up to no less.
-/

set_option autoImplicit false

universe u v w

/-! ## Runs of a number of steps -/

/-- Runs of a fixed number of steps of a relation. -/
inductive Steps {α : Type u} (related : α → α → Prop) : Nat → α → α → Prop where
  | refl (start : α) : Steps related 0 start start
  | head {steps : Nat} {first next last : α} :
      related first next → Steps related steps next last → Steps related (steps + 1) first last

namespace Steps

section
variable {α : Type u} {related : α → α → Prop}

theorem zero_iff {first last : α} : Steps related 0 first last ↔ first = last := by
  constructor
  · intro run
    cases run
    rfl
  · intro same
    rw [same]
    exact refl last

theorem succ_iff {steps : Nat} {first last : α} :
    Steps related (steps + 1) first last ↔
      ∃ next, related first next ∧ Steps related steps next last := by
  constructor
  · intro run
    cases run with
    | head step rest => exact ⟨_, step, rest⟩
  · intro found
    obtain ⟨next, step, rest⟩ := found
    exact head step rest

/-- Where the steps of a family of relations add up, a run is one step of the family. -/
theorem iff_of_graded {M : Type v} [AddMonoid M] {graded : M → α → α → Prop} {size : M}
    (zero : ∀ first last, graded 0 first last ↔ first = last)
    (split : ∀ (steps : Nat) (first last : α), graded (size + steps • size) first last ↔
      ∃ next, graded size first next ∧ graded (steps • size) next last)
    (steps : Nat) (first last : α) :
    Steps (graded size) steps first last ↔ graded (steps • size) first last := by
  induction steps generalizing first with
  | zero => rw [zero_iff, zero_nsmul, zero]
  | succ steps ih =>
      rw [succ_iff, succ_nsmul', split]
      exact exists_congr fun next => and_congr_right fun _ => ih next

end

/-- A relation of views, on things that keep a key: a run of it is a run of the views if every
view is one of some thing with the same key. -/
theorem view_iff {α : Type u} {β : Type v} {γ : Type w} {related : β → β → Prop} (key : α → γ)
    (view : α → β) (shown : ∀ (thing : α) (seen : β), ∃ other, key other = key thing ∧
      view other = seen) (steps : Nat) (first last : α) :
    Steps (fun left right => key left = key right ∧ related (view left) (view right)) (steps + 1)
        first last ↔
      key first = key last ∧ Steps related (steps + 1) (view first) (view last) := by
  induction steps generalizing first with
  | zero => simp only [succ_iff, zero_iff, exists_eq_right]
  | succ steps ih =>
      rw [succ_iff]
      constructor
      · intro found
        obtain ⟨next, ⟨sameKey, step⟩, rest⟩ := found
        obtain ⟨restKey, restRun⟩ := (ih next).mp rest
        exact ⟨sameKey.trans restKey, head step restRun⟩
      · intro found
        obtain ⟨sameKey, run⟩ := found
        obtain ⟨seen, step, rest⟩ := succ_iff.mp run
        obtain ⟨next, nextKey, rfl⟩ := shown last seen
        exact ⟨next, ⟨sameKey.trans nextKey.symm, step⟩, (ih next).mpr ⟨nextKey, rest⟩⟩

end Steps

/-! ## Views of what falls due -/

namespace Drift

section
variable {G : Type u} [AddCommGroup G] [PartialOrder G]

/-- What is due by one view is due by the other at most the drift later. -/
def Within (drift : G) (first last : UpperSet G) : Prop :=
  ∀ now, (now ∈ first → now + drift ∈ last) ∧ (now ∈ last → now + drift ∈ first)

theorem within_zero_iff (first last : UpperSet G) : Within 0 first last ↔ first = last := by
  constructor
  · intro within
    ext now
    obtain ⟨forth, back⟩ := within now
    rw [add_zero] at forth back
    exact ⟨forth, back⟩
  · intro same now
    rw [same, add_zero]
    exact ⟨id, id⟩

theorem within_comm {drift : G} {first last : UpperSet G} :
    Within drift first last ↔ Within drift last first :=
  forall_congr' fun _ => and_comm

theorem within_bot_iff {drift : G} {due : UpperSet G} : Within drift ⊥ due ↔ due = ⊥ := by
  constructor
  · intro within
    refine eq_bot_iff.mpr fun now _ => ?_
    have later := (within (now - drift)).1 UpperSet.mem_bot
    rw [sub_add_cancel] at later
    exact later
  · intro always now
    rw [always]
    exact ⟨fun _ => UpperSet.mem_bot, fun _ => UpperSet.mem_bot⟩

/-- What is never due does not drift. -/
theorem within_top_iff {drift : G} {due : UpperSet G} : Within drift ⊤ due ↔ due = ⊤ := by
  constructor
  · intro within
    refine eq_top_iff.mpr fun now member => ?_
    exact absurd ((within now).2 member) UpperSet.notMem_top
  · intro never now
    rw [never]
    exact ⟨fun member => absurd member UpperSet.notMem_top,
      fun member => absurd member UpperSet.notMem_top⟩

theorem Within.comp {near far : G} {first next last : UpperSet G} (one : Within near first next)
    (other : Within far next last) : Within (near + far) first last := by
  intro now
  constructor
  · intro due
    rw [← add_assoc]
    exact (other _).1 ((one now).1 due)
  · intro due
    rw [add_comm near far, ← add_assoc]
    exact (one _).2 ((other now).2 due)

variable [IsOrderedAddMonoid G]

def delay (amount : G) (due : UpperSet G) : UpperSet G where
  carrier := {now | now - amount ∈ due}
  upper' := fun _ _ later member => due.upper (sub_le_sub_right later amount) member

theorem mem_delay {amount now : G} {due : UpperSet G} :
    now ∈ delay amount due ↔ now - amount ∈ due := Iff.rfl

theorem Within.split {near far : G} (nearNonneg : 0 ≤ near) (farNonneg : 0 ≤ far)
    {first last : UpperSet G} (within : Within (near + far) first last) :
    ∃ next, Within near first next ∧ Within far next last := by
  have after {delayed : G} (nonneg : 0 ≤ delayed) (now : G) : now - delayed ≤ now + delayed :=
    (sub_le_self now nonneg).trans (le_add_of_nonneg_right nonneg)
  -- what is due once one of the two has been due for its share of the drift
  refine ⟨delay near first ⊓ delay far last, ?_, ?_⟩
  · intro now
    constructor
    · intro due
      refine UpperSet.mem_inf_iff.mpr (.inl ?_)
      rw [mem_delay, add_sub_cancel_right]
      exact due
    · intro due
      rcases UpperSet.mem_inf_iff.mp due with due | due
      · exact first.upper (after nearNonneg now) due
      · have back := (within _).2 due
        rw [show now - far + (near + far) = now + near by abel] at back
        exact back
  · intro now
    constructor
    · intro due
      rcases UpperSet.mem_inf_iff.mp due with due | due
      · have forth := (within _).1 due
        rw [show now - near + (near + far) = now + far by abel] at forth
        exact forth
      · exact last.upper (after farNonneg now) due
    · intro due
      refine UpperSet.mem_inf_iff.mpr (.inr ?_)
      rw [mem_delay, add_sub_cancel_right]
      exact due

theorem within_add_iff {near far : G} (nearNonneg : 0 ≤ near) (farNonneg : 0 ≤ far)
    (first last : UpperSet G) :
    Within (near + far) first last ↔ ∃ next, Within near first next ∧ Within far next last := by
  constructor
  · exact Within.split nearNonneg farNonneg
  · intro found
    obtain ⟨next, one, other⟩ := found
    exact one.comp other

/-- Steps within a drift lead as far as the drift times their number, and to all views there. -/
theorem steps_within_iff {drift : G} (nonneg : 0 ≤ drift) (steps : Nat)
    (first last : UpperSet G) :
    Steps (Within drift) steps first last ↔ Within (steps • drift) first last :=
  Steps.iff_of_graded within_zero_iff
    (fun steps => within_add_iff nonneg (nsmul_nonneg nonneg steps)) steps first last

end

section
variable {G : Type u} [AddCommGroup G] [LinearOrder G] [IsOrderedAddMonoid G] {drift : G}

theorem within_Ici_iff (first last : G) :
    Within drift (UpperSet.Ici first) (UpperSet.Ici last) ↔ |first - last| ≤ drift := by
  simp only [Within, UpperSet.mem_Ici_iff]
  rw [abs_le, neg_le_sub_iff_le_add, sub_le_iff_le_add']
  constructor
  · intro within
    exact ⟨(within first).1 le_rfl, (within last).2 le_rfl⟩
  · intro bounds now
    constructor
    · intro due
      exact bounds.1.trans (add_le_add_left due drift)
    · intro due
      exact bounds.2.trans (add_le_add_left due drift)

end

end Drift
