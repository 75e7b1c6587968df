import HoprTypes.Lib.BigEndian

/-!
# Results of calls that may fail or panic

A call returns a value, an error of its error type, or panics.  Panics are kept
apart from errors, so that a caller that only maps errors cannot hide one.
-/

set_option autoImplicit false

inductive Failure (ε : Type) where
  | error (cause : ε)
  | panic (message : String)
deriving DecidableEq, Repr

abbrev Outcome (ε α : Type) := Except (Failure ε) α

namespace Outcome

variable {ε ε' α β : Type}

def fail (cause : ε) : Outcome ε α := .error (.error cause)

def panicked (message : String) : Outcome ε α := .error (.panic message)

/-- An ordinary result, which cannot panic. -/
def lift : Except ε α → Outcome ε α
  | .ok value => .ok value
  | .error cause => fail cause

def mapErr (convert : ε → ε') : Outcome ε α → Outcome ε' α
  | .ok value => .ok value
  | .error (.error cause) => fail (convert cause)
  | .error (.panic message) => panicked message

def expect (message : String) : Except ε α → Outcome ε' α
  | .ok value => .ok value
  | .error _ => panicked message

def IsOk (outcome : Outcome ε α) : Prop := ∃ value, outcome = .ok value

def IsErr (outcome : Outcome ε α) : Prop := ∃ cause, outcome = fail cause

end Outcome

def okOr {ε α : Type} (cause : ε) : Option α → Except ε α
  | some value => .ok value
  | none => .error cause

def Except.mapErr {ε ε' α : Type} (convert : ε → ε') : Except ε α → Except ε' α
  | .ok value => .ok value
  | .error cause => .error (convert cause)

/-! ## Successful computations taken apart -/

theorem bind_eq_ok {ε α β : Type} {first : Except ε α} {next : α → Except ε β} {result : β} :
    first >>= next = .ok result ↔ ∃ value, first = .ok value ∧ next value = .ok result := by
  cases first with
  | error cause => simp [bind, Except.bind]
  | ok value => simp [bind, Except.bind]

@[simp] theorem ok_bind {ε α β : Type} (value : α) (next : α → Except ε β) :
    (Except.ok value : Except ε α) >>= next = next value := rfl

@[simp] theorem error_bind {ε α β : Type} (cause : ε) (next : α → Except ε β) :
    (Except.error cause : Except ε α) >>= next = .error cause := rfl

theorem okOr_eq_ok {ε α : Type} {cause : ε} {value : Option α} {result : α} :
    okOr cause value = .ok result ↔ value = some result := by
  cases value with
  | none => simp [okOr]
  | some value => simp [okOr]

theorem okIf_eq_ok {ε α : Type} {condition : Prop} [Decidable condition] {value : α} {cause : ε}
    {result : α} :
    (if condition then Except.ok value else Except.error cause) = .ok result ↔
      condition ∧ value = result := by
  by_cases holds : condition
  · simp [holds]
  · simp [holds]

theorem lift_eq_ok {ε α : Type} {result : Except ε α} {value : α} :
    Outcome.lift result = .ok value ↔ result = .ok value := by
  cases result with
  | error cause => simp [Outcome.lift, Outcome.fail]
  | ok value => simp [Outcome.lift]

theorem mapErr_eq_ok {ε ε' α : Type} {convert : ε → ε'} {outcome : Outcome ε α} {value : α} :
    outcome.mapErr convert = .ok value ↔ outcome = .ok value := by
  cases outcome with
  | ok value => simp [Outcome.mapErr]
  | error failure =>
      cases failure with
      | error cause => simp [Outcome.mapErr, Outcome.fail]
      | panic message => simp [Outcome.mapErr, Outcome.panicked]

theorem exceptMapErr_eq_ok {ε ε' α : Type} {convert : ε → ε'} {result : Except ε α} {value : α} :
    result.mapErr convert = .ok value ↔ result = .ok value := by
  cases result with
  | ok value => simp [Except.mapErr]
  | error cause => simp [Except.mapErr]

theorem forall_map_eq_ok {ε α β : Type} {result : Except ε α} {convert : α → β} {P : β → Prop} :
    (∀ converted, result.map convert = .ok converted → P converted) ↔
      ∀ value, result = .ok value → P (convert value) := by
  cases result with
  | error cause =>
      constructor
      · intro _ value impossible
        cases impossible
      · intro _ converted impossible
        cases impossible
  | ok value =>
      constructor
      · intro every other same
        rw [← Except.ok.inj same]
        exact every (convert value) rfl
      · intro every converted same
        rw [← Except.ok.inj same]
        exact every value rfl

theorem expect_eq_ok {ε ε' α : Type} {message : String} {result : Except ε α} {value : α} :
    (Outcome.expect message result : Outcome ε' α) = .ok value ↔ result = .ok value := by
  cases result with
  | error cause => simp [Outcome.expect, Outcome.panicked]
  | ok value => simp [Outcome.expect]
