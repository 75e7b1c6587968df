import HoprTypes.Lib.Interleaving
import Mathlib.Algebra.BigOperators.Group.List.Lemmas
import Mathlib.Algebra.Group.Prod
import Mathlib.Tactic.Abel

/-!
# Guards over interleaved calls

A guard is made by one call on the shared state and undone by another one when it is dropped.
Where each call adds a fixed amount to a balance, in whatever order its steps and those of the
other calls are taken, the balance counts the guards that are there.
-/

set_option autoImplicit false

namespace Interleaving

universe u v w x

/-- A guard while its constructor runs, while it is held, and while its destructor runs. -/
inductive Phase (ι : Type x) (τ : Type v) where
  | creating (guard : ι) (call : τ)
  | held (guard : ι)
  | dropping (guard : ι) (call : τ)

/-- What a guard calls when it is made and when it is dropped. -/
structure Guarding (ι : Type x) (τ : Type v) where
  allowed : ι → Prop
  acquire : ι → τ
  release : ι → τ

variable {σ : Type u} {τ : Type v} {ι : Type x}

namespace Phase

/-- The call a guard is in. -/
def call? : Phase ι τ → Option τ
  | .creating _ call | .dropping _ call => some call
  | .held _ => none

def created (guard : ι) : Option τ → Phase ι τ
  | some call => .creating guard call
  | none => .held guard

end Phase

def callsOf (phases : List (Phase ι τ)) : List τ := phases.filterMap Phase.call?

inductive GuardStep (system : System σ τ) (guarding : Guarding ι τ) :
    σ → List (Phase ι τ) → Phase ι τ → σ → Option (Phase ι τ) → Prop where
  | create {shared shared' : σ} {others : List (Phase ι τ)} {guard : ι} {call : τ}
      {next : Option τ} (taken : system.step shared (callsOf others) call shared' next) :
      GuardStep system guarding shared others (.creating guard call) shared'
        (some (.created guard next))
  | drop {shared : σ} {others : List (Phase ι τ)} {guard : ι} :
      GuardStep system guarding shared others (.held guard) shared
        (some (.dropping guard (guarding.release guard)))
  | release {shared shared' : σ} {others : List (Phase ι τ)} {guard : ι} {call : τ}
      {next : Option τ} (taken : system.step shared (callsOf others) call shared' next) :
      GuardStep system guarding shared others (.dropping guard call) shared'
        (next.map (.dropping guard))

theorem GuardStep.held {system : System σ τ} {guarding : Guarding ι τ} {shared shared' : σ}
    {others : List (Phase ι τ)} (guard : ι) {call : τ}
    (taken : system.step shared (callsOf others) call shared' none) :
    GuardStep system guarding shared others (.creating guard call) shared' (some (.held guard)) :=
  @GuardStep.create _ _ _ _ _ _ _ _ guard _ none taken

/-- Guards are made at any time, and dropped at any time or never. -/
def guarded (system : System σ τ) (guarding : Guarding ι τ) : System σ (Phase ι τ) where
  starts phase := ∃ guard, guarding.allowed guard ∧
    phase = .creating guard (guarding.acquire guard)
  step := GuardStep system guarding

variable {M : Type w} [AddCommGroup M]

/-- A guard adds its amount to the balance and takes it back, whatever steps its calls need:
`effect` is what a call has still to add, and `made` and `undone` are the calls of a guard that
is made and that is dropped. -/
structure Adds (system : System σ τ) (guarding : Guarding ι τ) (valid : σ → τ → Prop)
    (made undone : ι → τ → Prop) (balance : σ → M) (effect : τ → M) (amount : ι → M) : Prop where
  acquires : ∀ (shared : σ) {guard : ι}, guarding.allowed guard →
    valid shared (guarding.acquire guard) ∧ made guard (guarding.acquire guard) ∧
      effect (guarding.acquire guard) = amount guard
  releases : ∀ (shared : σ) {guard : ι}, guarding.allowed guard →
    valid shared (guarding.release guard) ∧ undone guard (guarding.release guard) ∧
      effect (guarding.release guard) = -amount guard
  stable : ∀ {shared others call shared' next}, system.step shared others call shared' next →
    ∀ other, valid shared other → valid shared' other
  keeps : ∀ {shared others call shared' next}, valid shared call →
    system.step shared others call shared' next → ∀ call' ∈ next, valid shared' call' ∧
      ∀ guard, (made guard call → made guard call') ∧ (undone guard call → undone guard call')
  conserves : ∀ {shared others call shared' next}, valid shared call →
    system.step shared others call shared' next →
      balance shared' + (next.toList.map effect).sum = balance shared + effect call

/-- What a guard has added to the balance so far. -/
def contribution (effect : τ → M) (amount : ι → M) : Phase ι τ → M
  | .creating guard call => amount guard - effect call
  | .held guard => amount guard
  | .dropping _ call => -effect call

/-- A guard is allowed, and its call is one that its constructor or destructor makes. -/
def ValidPhase (guarding : Guarding ι τ) (valid : σ → τ → Prop) (made undone : ι → τ → Prop)
    (shared : σ) : Phase ι τ → Prop
  | .creating guard call => guarding.allowed guard ∧ valid shared call ∧ made guard call
  | .held guard => guarding.allowed guard
  | .dropping guard call => guarding.allowed guard ∧ valid shared call ∧ undone guard call

variable {system : System σ τ} {guarding : Guarding ι τ} {valid : σ → τ → Prop}
  {made undone : ι → τ → Prop} {balance : σ → M} {effect : τ → M} {amount : ι → M}

theorem contribution_created (guard : ι) (next : Option τ) :
    contribution effect amount (.created guard next) =
      amount guard - (next.toList.map effect).sum := by
  cases next with
  | none => simp [Phase.created, contribution]
  | some call => simp [Phase.created, contribution]

theorem contribution_dropping (guard : ι) (next : Option τ) :
    ((next.map (Phase.dropping guard)).toList.map (contribution effect amount)).sum =
      -(next.toList.map effect).sum := by
  cases next with
  | none => simp
  | some call => simp [contribution]

/-- The step of a guard changes the balance by what the guard's contribution changes. -/
theorem Adds.guardStep (law : Adds system guarding valid made undone balance effect amount)
    {shared shared' : σ} {others : List (Phase ι τ)} {phase : Phase ι τ}
    {next : Option (Phase ι τ)}
    (phaseValid : ValidPhase guarding valid made undone shared phase)
    (step : GuardStep system guarding shared others phase shared' next) :
    balance shared' + contribution effect amount phase =
      balance shared + (next.toList.map (contribution effect amount)).sum := by
  cases step with
  | @create _ _ guard call following taken =>
      have kept := law.conserves phaseValid.2.1 taken
      rw [Option.toList_some, List.map_singleton, List.sum_singleton, contribution_created]
      simp only [contribution]
      rw [← eq_sub_iff_add_eq] at kept
      rw [kept]
      abel
  | @drop _ guard =>
      have released := (law.releases shared phaseValid).2.2
      simp [contribution, released]
  | @release _ _ guard call following taken =>
      have kept := law.conserves phaseValid.2.1 taken
      rw [contribution_dropping]
      simp only [contribution]
      rw [← eq_sub_iff_add_eq] at kept
      rw [kept]
      abel

theorem Adds.keepsPhase (law : Adds system guarding valid made undone balance effect amount)
    {shared shared' : σ} {others : List (Phase ι τ)} {phase : Phase ι τ}
    {next : Option (Phase ι τ)}
    (phaseValid : ValidPhase guarding valid made undone shared phase)
    (step : GuardStep system guarding shared others phase shared' next) :
    ∀ phase' ∈ next, ValidPhase guarding valid made undone shared' phase' := by
  intro phase' member
  cases step with
  | @create _ _ guard call following taken =>
      obtain rfl := Option.some.inj member
      cases following with
      | none => exact phaseValid.1
      | some call' =>
          obtain ⟨callValid, same⟩ := law.keeps phaseValid.2.1 taken call' rfl
          exact ⟨phaseValid.1, callValid, (same guard).1 phaseValid.2.2⟩
  | @drop _ guard =>
      obtain rfl := Option.some.inj member
      obtain ⟨callValid, isRelease, _⟩ := law.releases shared phaseValid
      exact ⟨phaseValid, callValid, isRelease⟩
  | @release _ _ guard call following taken =>
      obtain ⟨call', found, rfl⟩ := Option.map_eq_some_iff.mp member
      obtain ⟨callValid, same⟩ := law.keeps phaseValid.2.1 taken call' found
      exact ⟨phaseValid.1, callValid, (same guard).2 phaseValid.2.2⟩

theorem Adds.stablePhase (law : Adds system guarding valid made undone balance effect amount)
    {shared shared' : σ} {others : List (Phase ι τ)} {phase : Phase ι τ}
    {next : Option (Phase ι τ)} (step : GuardStep system guarding shared others phase shared' next)
    (other : Phase ι τ) (otherValid : ValidPhase guarding valid made undone shared other) :
    ValidPhase guarding valid made undone shared' other := by
  have grows : ∀ call, valid shared call → valid shared' call := by
    cases step with
    | create taken => exact law.stable taken
    | drop => exact fun _ callValid => callValid
    | release taken => exact law.stable taken
  cases other with
  | creating guard call => exact ⟨otherValid.1, grows call otherValid.2.1, otherValid.2.2⟩
  | held guard => exact otherValid
  | dropping guard call => exact ⟨otherValid.1, grows call otherValid.2.1, otherValid.2.2⟩

theorem Adds.conserves_guarded
    (law : Adds system guarding valid made undone balance effect amount) :
    Conserves (guarded system guarding) (ValidPhase guarding valid made undone) balance
      (fun phase => -contribution effect amount phase) where
  starts := by
    intro shared phase starts
    obtain ⟨guard, allowed, rfl⟩ := starts
    obtain ⟨callValid, isAcquire, adds⟩ := law.acquires shared allowed
    exact ⟨⟨allowed, callValid, isAcquire⟩, by simp [contribution, adds]⟩
  stable step := law.stablePhase step
  keeps phaseValid step := law.keepsPhase phaseValid step
  conserves := by
    intro shared others phase shared' next phaseValid step
    have kept := law.guardStep phaseValid step
    have negated : (next.toList.map fun phase => -contribution effect amount phase).sum =
        -(next.toList.map (contribution effect amount)).sum := by
      cases next <;> simp
    rw [negated, ← sub_eq_add_neg, ← sub_eq_add_neg, sub_eq_sub_iff_add_eq_add]
    exact kept

theorem sum_map_pair {N : Type w} [AddCommMonoid N] {α : Type x} (left right : α → N)
    (values : List α) :
    (values.map fun value => (left value, right value)).sum =
      ((values.map left).sum, (values.map right).sum) := by
  induction values with
  | nil => rfl
  | cons value values ih => simp [ih]

theorem Adds.validPhases (law : Adds system guarding valid made undone balance effect amount)
    {init : σ} {state : State σ (Phase ι τ)}
    (reached : Reachable (guarded system guarding) init state) :
    ∀ phase ∈ state.calls, ValidPhase guarding valid made undone state.shared phase :=
  (law.conserves_guarded.balanced reached).1

/-- In every reachable state the balance is what the guards have added to that of the start. -/
theorem Adds.balance_eq (law : Adds system guarding valid made undone balance effect amount)
    {init : σ} {state : State σ (Phase ι τ)}
    (reached : Reachable (guarded system guarding) init state) :
    balance state.shared = balance init + (state.calls.map (contribution effect amount)).sum := by
  have total := (law.conserves_guarded.balanced reached).2
  have negated : (state.calls.map fun phase => -contribution effect amount phase).sum =
      -(state.calls.map (contribution effect amount)).sum := by
    induction state.calls with
    | nil => simp
    | cons phase phases ih =>
        rw [List.map_cons, List.sum_cons, List.map_cons, List.sum_cons, ih]
        abel
  rw [negated, ← sub_eq_add_neg, sub_eq_iff_eq_add] at total
  exact total

end Interleaving
