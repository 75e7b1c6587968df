import HoprTypes.Lib.Outcome

/-!
# Postconditions

A call ensures a postcondition and raises only certain errors if no run of it gives another value
or another error, or panics.  The rules follow the way calls are put together.
-/

set_option autoImplicit false

namespace Outcome

variable {ε α β : Type}

def Ensures (raises : ε → Prop) (post : α → Prop) : Outcome ε α → Prop
  | .ok value => post value
  | .error (.error cause) => raises cause
  | .error (.panic _) => False

variable {raises : ε → Prop} {post : α → Prop}

@[simp] theorem ensures_ok {value : α} :
    Ensures raises post (.ok value : Outcome ε α) ↔ post value := Iff.rfl

@[simp] theorem ensures_fail {cause : ε} :
    Ensures raises post (fail cause : Outcome ε α) ↔ raises cause := Iff.rfl

theorem ensures_iff {outcome : Outcome ε α} :
    outcome.Ensures raises post ↔
      (∀ value, outcome = .ok value → post value) ∧
        (∀ cause, outcome = fail cause → raises cause) ∧
        ∀ message, outcome ≠ panicked message := by
  cases outcome with
  | ok value => simp [fail, panicked]
  | error failure =>
      cases failure with
      | error cause => simp [Ensures, fail, panicked]
      | panic message => simp [Ensures, fail, panicked]

theorem Ensures.mono {outcome : Outcome ε α} (ensures : outcome.Ensures raises post)
    {weaker : α → Prop} (implies : ∀ value, post value → weaker value) :
    outcome.Ensures raises weaker := by
  rw [ensures_iff] at ensures ⊢
  exact ⟨fun value returned => implies value (ensures.1 value returned), ensures.2⟩

theorem Ensures.bind {first : Outcome ε β} {next : β → Outcome ε α} {between : β → Prop}
    (ensures : first.Ensures raises between)
    (rest : ∀ value, between value → (next value).Ensures raises post) :
    (first >>= next).Ensures raises post := by
  cases first with
  | ok value => exact rest value ensures
  | error failure =>
      cases failure with
      | error cause => exact ensures
      | panic message => exact ensures.elim

end Outcome
