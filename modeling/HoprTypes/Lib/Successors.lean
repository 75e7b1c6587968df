import HoprTypes.Lib.Outcome

/-!
# Sequences in which each item is computed from the one before

An iterator keeps the item that is taken next. Taking it computes the item after it at once, so
that an item whose successor cannot be computed cannot be taken either.
-/

set_option autoImplicit false

namespace Successors

variable {ε α : Type} (succ : α → Except ε (Option α))

/-- What is kept after an item is taken. -/
def advance : Option α → Except ε (Option α)
  | none => .ok none
  | some item => succ item

/-- What is kept after a number of items are taken. -/
def drops : Nat → Option α → Except ε (Option α)
  | 0, kept => .ok kept
  | n + 1, kept => do
      let following ← advance succ kept
      drops n following

/-- The item behind the first `n` items. -/
def nth (n : Nat) (kept : Option α) : Except ε (Option α) := do
  let item ← drops succ n kept
  let _ ← advance succ item
  .ok item

variable {succ}

theorem drops_add (m n : Nat) (kept : Option α) :
    drops succ (m + n) kept = drops succ m kept >>= drops succ n := by
  induction m generalizing kept with
  | zero => rw [Nat.zero_add, drops, ok_bind]
  | succ m ih =>
      rw [Nat.add_right_comm, drops, drops]
      cases advance succ kept with
      | error cause => rfl
      | ok following =>
          rw [ok_bind, ok_bind]
          exact ih following

theorem drops_succ (n : Nat) (kept : Option α) :
    drops succ (n + 1) kept = drops succ n kept >>= advance succ := by
  have one : drops succ 1 = advance succ := by
    funext kept
    rw [drops]
    cases advance succ kept with
    | error cause => rfl
    | ok following => rfl
  rw [drops_add, one]

theorem nth_eq_ok {n : Nat} {kept item : Option α} :
    nth succ n kept = .ok item ↔
      drops succ n kept = .ok item ∧ ∃ rest, drops succ (n + 1) kept = .ok rest := by
  rw [nth, drops_succ]
  cases drops succ n kept with
  | error cause =>
      constructor
      · intro impossible
        cases impossible
      · rintro ⟨impossible, _⟩
        cases impossible
  | ok reached =>
      rw [ok_bind, ok_bind, bind_eq_ok]
      constructor
      · rintro ⟨rest, computed, same⟩
        obtain rfl := Except.ok.inj same
        exact ⟨rfl, rest, computed⟩
      · rintro ⟨same, rest, computed⟩
        exact ⟨rest, computed, same⟩

theorem drops_eq_ok_of_le {m n : Nat} {kept item : Option α} (le : m ≤ n)
    (reached : drops succ n kept = .ok item) : ∃ before, drops succ m kept = .ok before := by
  obtain ⟨more, rfl⟩ := Nat.exists_eq_add_of_le le
  rw [drops_add] at reached
  obtain ⟨before, first, _⟩ := bind_eq_ok.mp reached
  exact ⟨before, first⟩

theorem nth_eq_of_drops_eq {m n : Nat} {left right item : Option α} (le : m ≤ n)
    (leftReached : drops succ m left = .ok item) (rightReached : drops succ m right = .ok item) :
    nth succ n left = nth succ n right := by
  obtain ⟨more, rfl⟩ := Nat.exists_eq_add_of_le le
  rw [nth, nth, drops_add, drops_add, leftReached, rightReached]

end Successors
