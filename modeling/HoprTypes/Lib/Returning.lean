import HoprTypes.Lib.Outcome

/-!
# Calls that return

A call returns if it ends with a value or with an error.  A sequence of calls returns if every
call that is reached does.
-/

set_option autoImplicit false

namespace Outcome

variable {ε α β : Type}

/-- The call does not panic. -/
def Returns (outcome : Outcome ε α) : Prop := outcome.IsOk ∨ outcome.IsErr

theorem returns_ok (value : α) : Returns (.ok value : Outcome ε α) := Or.inl ⟨value, rfl⟩

theorem returns_fail (cause : ε) : Returns (fail cause : Outcome ε α) := Or.inr ⟨cause, rfl⟩

theorem not_returns_panicked (message : String) :
    ¬Returns (panicked message : Outcome ε α) := by
  intro returns
  rcases returns with ⟨value, same⟩ | ⟨cause, same⟩
  · cases same
  · cases same

theorem returns_lift (result : Except ε α) : Returns (lift result) := by
  cases result with
  | ok value => exact returns_ok value
  | error cause => exact returns_fail cause

theorem returns_ite {condition : Prop} [Decidable condition] {first second : Outcome ε α}
    (firstReturns : Returns first) (secondReturns : Returns second) :
    Returns (if condition then first else second) := by
  by_cases holds : condition
  · rw [if_pos holds]
    exact firstReturns
  · rw [if_neg holds]
    exact secondReturns

theorem returns_bind_iff {first : Outcome ε α} {next : α → Outcome ε β} :
    Returns (first >>= next) ↔
      Returns first ∧ ∀ value, first = .ok value → Returns (next value) := by
  cases first with
  | ok value =>
      rw [ok_bind]
      constructor
      · intro returns
        refine ⟨returns_ok value, ?_⟩
        intro found same
        rw [← Except.ok.inj same]
        exact returns
      · intro returns
        exact returns.2 value rfl
  | error failure =>
      rw [error_bind]
      cases failure with
      | error cause =>
          refine iff_of_true (returns_fail cause) ⟨returns_fail cause, ?_⟩
          intro value impossible
          cases impossible
      | panic message =>
          refine iff_of_false (not_returns_panicked message) ?_
          intro returns
          exact not_returns_panicked message returns.1

end Outcome
