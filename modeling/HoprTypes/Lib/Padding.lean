import Mathlib.Data.List.Basic

/-!
# Padded sequences

The position of the last element with a property, and sequences that are filled up to a fixed
width behind it.
-/

set_option autoImplicit false

namespace Padding

universe u

variable {α : Type u}

/-- The position of the last element with the property. -/
def rposition (p : α → Bool) : List α → Option Nat
  | [] => none
  | first :: rest =>
      match rposition p rest with
      | some position => some (position + 1)
      | none => if p first then some 0 else none

def pad (blank : α) (width : Nat) (sequence : List α) : List α :=
  sequence ++ List.replicate (width - sequence.length) blank

theorem length_pad (blank : α) {width : Nat} {sequence : List α} (fits : sequence.length ≤ width) :
    (pad blank width sequence).length = width := by
  rw [pad, List.length_append, List.length_replicate]
  omega

theorem rposition_eq_none_iff {p : α → Bool} {sequence : List α} :
    rposition p sequence = none ↔ ∀ element ∈ sequence, p element = false := by
  induction sequence with
  | nil => simp [rposition]
  | cons first rest ih =>
      rw [List.forall_mem_cons, ← ih, rposition]
      cases rposition p rest with
      | some position => simp
      | none => simp

theorem of_rposition {p : α → Bool} {sequence : List α} {position : Nat}
    (found : rposition p sequence = some position) :
    ∃ before element after, sequence = before ++ element :: after ∧ before.length = position ∧
      p element = true ∧ ∀ later ∈ after, p later = false := by
  induction sequence generalizing position with
  | nil => cases found
  | cons first rest ih =>
      rw [rposition] at found
      cases inRest : rposition p rest with
      | some inner =>
          rw [inRest] at found
          obtain ⟨before, element, after, split, length, holds, last⟩ := ih inRest
          refine ⟨first :: before, element, after, ?_, ?_, holds, last⟩
          · rw [split, List.cons_append]
          · rw [List.length_cons, length]
            exact Option.some.inj found
      | none =>
          rw [inRest] at found
          by_cases holds : p first = true
          · simp only [holds, if_true] at found
            refine ⟨[], first, rest, rfl, ?_, holds, rposition_eq_none_iff.mp inRest⟩
            exact Option.some.inj found
          · simp [holds] at found

theorem rposition_append {p : α → Bool} {before after : List α} {element : α}
    (holds : p element = true) (last : ∀ later ∈ after, p later = false) :
    rposition p (before ++ element :: after) = some before.length := by
  induction before with
  | nil =>
      rw [List.nil_append, rposition, rposition_eq_none_iff.mpr last]
      exact if_pos holds
  | cons first before ih =>
      rw [List.cons_append, rposition, ih]
      rfl

/-- Up to the last element that is no blank, a padded sequence is the sequence itself. -/
theorem take_rposition_pad [DecidableEq α] {blank last : α} (front : List α) {width : Nat}
    (notBlank : last ≠ blank) :
    rposition (fun element => decide (element ≠ blank)) (pad blank width (front ++ [last])) =
      some front.length := by
  rw [pad, List.append_assoc, List.singleton_append]
  apply rposition_append (p := fun element => decide (element ≠ blank)) (decide_eq_true notBlank)
  intro later member
  rw [List.eq_of_mem_replicate member]
  simp

theorem eq_pad_of_rposition [DecidableEq α] {blank : α} {sequence : List α} {position : Nat}
    (found : rposition (fun element => decide (element ≠ blank)) sequence = some position) :
    ∃ front last, last ≠ blank ∧ sequence.take (position + 1) = front ++ [last] ∧
      sequence = pad blank sequence.length (front ++ [last]) := by
  obtain ⟨front, last, after, split, length, notBlank, blanks⟩ := of_rposition found
  have padding : after = List.replicate after.length blank := by
    rw [List.eq_replicate_iff]
    refine ⟨rfl, ?_⟩
    intro element member
    simpa using blanks element member
  refine ⟨front, last, of_decide_eq_true notBlank, ?_, ?_⟩
  · rw [split, ← length, ← List.singleton_append, ← List.append_assoc,
      List.take_left' (by simp)]
  · have rest : sequence.length - (front ++ [last]).length = after.length := by
      rw [split, List.length_append, List.length_append, List.length_cons, List.length_singleton]
      omega
    rw [pad, rest, ← padding, split, List.append_assoc, List.singleton_append]

end Padding
