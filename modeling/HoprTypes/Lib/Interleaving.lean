import Mathlib.Algebra.BigOperators.Group.List.Basic
import Mathlib.Logic.Relation

/-!
# Interleaved calls on a shared state

Calls are started at any time, and in every step one of the calls in flight takes an atomic
step.  What a call has changed on one side only is its debt; where each step keeps the
balance of the shared state and the debts, a state without calls is balanced.
-/

set_option autoImplicit false

namespace Interleaving

universe u v w

/-- The calls that may be started, and the atomic steps of a call beside the other calls; a
finished call has no next state. -/
structure System (σ : Type u) (τ : Type v) where
  starts : τ → Prop
  step : σ → List τ → τ → σ → Option τ → Prop

structure State (σ : Type u) (τ : Type v) where
  shared : σ
  calls : List τ

variable {σ : Type u} {τ : Type v}

inductive Step (system : System σ τ) : State σ τ → State σ τ → Prop where
  | start {shared : σ} {calls : List τ} (call : τ) (may : system.starts call) :
      Step system ⟨shared, calls⟩ ⟨shared, call :: calls⟩
  | advance (before after : List τ) {shared shared' : σ} {call : τ} {next : Option τ}
      (taken : system.step shared (before ++ after) call shared' next) :
      Step system ⟨shared, before ++ call :: after⟩
        ⟨shared', before ++ (next.toList ++ after)⟩

/-- The states that runs from a shared state without calls can reach. -/
def Reachable (system : System σ τ) (init : σ) : State σ τ → Prop :=
  Relation.ReflTransGen (Step system) ⟨init, []⟩

/-- Each call keeps what the others rely on, and the balance together with its debt. -/
structure Conserves (system : System σ τ) {M : Type w} [AddCommMonoid M] (valid : σ → τ → Prop)
    (balance : σ → M) (debt : τ → M) : Prop where
  starts : ∀ {shared call}, system.starts call → valid shared call ∧ debt call = 0
  stable : ∀ {shared others call shared' next}, system.step shared others call shared' next →
    ∀ other, valid shared other → valid shared' other
  keeps : ∀ {shared others call shared' next}, valid shared call →
    system.step shared others call shared' next → ∀ call' ∈ next, valid shared' call'
  conserves : ∀ {shared others call shared' next}, valid shared call →
    system.step shared others call shared' next →
      balance shared' + (next.toList.map debt).sum = balance shared + debt call

variable {system : System σ τ} {M : Type w} [AddCommMonoid M] {valid : σ → τ → Prop}
  {balance : σ → M} {debt : τ → M}

/-- What holds of all reachable states: the calls are valid, and balance and debts together
are the balance of the start. -/
def Balanced (valid : σ → τ → Prop) (balance : σ → M) (debt : τ → M) (init : σ)
    (state : State σ τ) : Prop :=
  (∀ call ∈ state.calls, valid state.shared call) ∧
    balance state.shared + (state.calls.map debt).sum = balance init

theorem Conserves.balanced_step (law : Conserves system valid balance debt) {init : σ}
    {state state' : State σ τ} (balanced : Balanced valid balance debt init state)
    (step : Step system state state') : Balanced valid balance debt init state' := by
  obtain ⟨allValid, total⟩ := balanced
  cases step with
  | @start shared calls call may =>
      obtain ⟨callValid, noDebt⟩ := @law.starts shared call may
      constructor
      · intro other member
        rcases List.mem_cons.mp member with rfl | older
        · exact callValid
        · exact allValid other older
      · rw [List.map_cons, List.sum_cons, noDebt, zero_add]
        exact total
  | @advance before after shared shared' call next taken =>
      have callValid : valid shared call := allValid call (by simp)
      have stable := law.stable taken
      constructor
      · intro other member
        simp only [List.mem_append, Option.mem_toList] at member
        rcases member with earlier | own | later
        · exact stable other (allValid other (by simp [earlier]))
        · exact law.keeps callValid taken other own
        · exact stable other (allValid other (by simp [later]))
      · have kept := law.conserves callValid taken
        simp only [List.map_append, List.sum_append, List.map_cons, List.sum_cons] at total ⊢
        rw [add_left_comm (balance shared'), ← add_assoc (balance shared'), kept, ← total]
        ac_rfl

theorem Conserves.balanced (law : Conserves system valid balance debt) {init : σ}
    {state : State σ τ} (reached : Reachable system init state) :
    Balanced valid balance debt init state := by
  induction reached with
  | refl => exact ⟨by simp, by simp⟩
  | tail _ step ih => exact law.balanced_step ih step

theorem Conserves.balance_eq (law : Conserves system valid balance debt) {init : σ}
    {state : State σ τ} (reached : Reachable system init state) (quiet : state.calls = []) :
    balance state.shared = balance init := by
  obtain ⟨_, total⟩ := law.balanced reached
  rw [quiet, List.map_nil, List.sum_nil, add_zero] at total
  exact total

end Interleaving
