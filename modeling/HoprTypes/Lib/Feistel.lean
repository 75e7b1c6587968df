import Mathlib.Logic.Function.Basic

/-!
# Networks of alternating masks

A round changes one half of a pair by a mask that depends on the other half.  Rounds whose
masks are involutive are undone by running them in reverse order.
-/

set_option autoImplicit false

namespace Feistel

universe u v

variable {α : Type u} {β : Type v}

/-- A round masks the left half by the right one, or the right half by the left one. -/
inductive Round (α : Type u) (β : Type v) where
  | left (mask : β → α → α)
  | right (mask : α → β → β)

namespace Round

def apply : Round α β → α × β → α × β
  | .left mask, halves => (mask halves.2 halves.1, halves.2)
  | .right mask, halves => (halves.1, mask halves.1 halves.2)

def Involutive : Round α β → Prop
  | .left mask => ∀ other, Function.Involutive (mask other)
  | .right mask => ∀ other, Function.Involutive (mask other)

theorem apply_apply {round : Round α β} (involutive : round.Involutive) (halves : α × β) :
    round.apply (round.apply halves) = halves := by
  cases round with
  | left mask =>
      have undone := involutive halves.2 halves.1
      exact Prod.ext undone rfl
  | right mask =>
      have undone := involutive halves.1 halves.2
      exact Prod.ext rfl undone

end Round

def run (rounds : List (Round α β)) (halves : α × β) : α × β :=
  rounds.foldl (fun halves round => round.apply halves) halves

theorem run_cons (round : Round α β) (rounds : List (Round α β)) (halves : α × β) :
    run (round :: rounds) halves = run rounds (round.apply halves) := rfl

theorem run_append (first second : List (Round α β)) (halves : α × β) :
    run (first ++ second) halves = run second (run first halves) :=
  List.foldl_append ..

theorem run_reverse_run {rounds : List (Round α β)}
    (involutive : ∀ round ∈ rounds, round.Involutive) (halves : α × β) :
    run rounds.reverse (run rounds halves) = halves := by
  induction rounds generalizing halves with
  | nil => rfl
  | cons round rounds ih =>
      rw [List.forall_mem_cons] at involutive
      rw [run_cons, List.reverse_cons, run_append, ih involutive.2]
      exact Round.apply_apply involutive.1 halves

theorem run_run_reverse {rounds : List (Round α β)}
    (involutive : ∀ round ∈ rounds, round.Involutive) (halves : α × β) :
    run rounds (run rounds.reverse halves) = halves := by
  have reversed : ∀ round ∈ rounds.reverse, round.Involutive := by
    intro round member
    exact involutive round (List.mem_reverse.mp member)
  have undone := run_reverse_run reversed halves
  rw [List.reverse_reverse] at undone
  exact undone

end Feistel
