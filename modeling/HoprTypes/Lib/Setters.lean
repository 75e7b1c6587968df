import Mathlib.Data.List.Basic

/-!
# Runs of setters

A record is filled by calls that each overwrite some of its fields.  After any calls, a field
holds what the last call that writes it wrote, or else what it held at the start.
-/

set_option autoImplicit false

namespace Setters

universe u v w

variable {ρ : Type u} {σ : Type v} {φ : Type w}

/-- A field of a record, with the value that a call writes to it. -/
structure Field (apply : ρ → σ → ρ) (φ : Type w) where
  get : ρ → φ
  written : σ → Option φ
  get_apply : ∀ record call, get (apply record call) = (written call).getD (get record)

def Field.last {apply : ρ → σ → ρ} (field : Field apply φ) (calls : List σ) : Option φ :=
  (calls.filterMap field.written).getLast?

theorem Field.get_foldl {apply : ρ → σ → ρ} (field : Field apply φ) (record : ρ)
    (calls : List σ) :
    field.get (calls.foldl apply record) = (field.last calls).getD (field.get record) := by
  induction calls generalizing record with
  | nil => rfl
  | cons call calls ih =>
      rw [List.foldl_cons, ih, field.get_apply]
      unfold Field.last
      cases written : field.written call with
      | none => simp [written]
      | some value =>
          cases later : (calls.filterMap field.written).getLast? with
          | none =>
              have none : calls.filterMap field.written = [] := List.getLast?_eq_none_iff.mp later
              simp [written, none]
          | some value' =>
              simp [written, List.getLast?_cons, later]

theorem foldl_keeps {apply : ρ → σ → ρ} {holds : ρ → Prop}
    (keeps : ∀ record call, holds record → holds (apply record call)) {record : ρ}
    (start : holds record) (calls : List σ) : holds (calls.foldl apply record) := by
  induction calls generalizing record with
  | nil => exact start
  | cons call calls ih => exact ih (keeps record call start)

end Setters
