import Mathlib.Data.Nat.Find

/-!
# Rejection sampling

A loop over a stream of draws that ends with the first draw that is accepted.  It
need not end, so it is run for a number of turns, and returns what any number of
turns gives.
-/

set_option autoImplicit false

namespace RejectionSampling

variable {α β : Type}

/-- The loop, for so many turns at most. -/
def sample (attempt : α → Option β) : Nat → (Nat → α) → Option β
  | 0, _ => none
  | turns + 1, draws =>
      match attempt (draws 0) with
      | some result => some result
      | none => sample attempt turns fun index => draws (index + 1)

def Returns (attempt : α → Option β) (draws : Nat → α) (result : β) : Prop :=
  ∃ turns, sample attempt turns draws = some result

/-- The first draw that is accepted, and what comes of it. -/
structure FirstAccepted (attempt : α → Option β) (draws : Nat → α) (index : Nat) (result : β) :
    Prop where
  accepted : attempt (draws index) = some result
  skipped : ∀ earlier < index, attempt (draws earlier) = none

variable {attempt : α → Option β} {draws : Nat → α} {index : Nat} {result : β}

theorem FirstAccepted.zero (accepted : attempt (draws 0) = some result) :
    FirstAccepted attempt draws 0 result := by
  refine ⟨accepted, ?_⟩
  intro earlier impossible
  omega

theorem firstAccepted_succ (skipped : attempt (draws 0) = none) :
    FirstAccepted attempt draws (index + 1) result ↔
      FirstAccepted attempt (fun later => draws (later + 1)) index result := by
  constructor
  · intro first
    refine ⟨first.accepted, ?_⟩
    intro earlier before
    exact first.skipped (earlier + 1) (by omega)
  · intro first
    refine ⟨first.accepted, ?_⟩
    intro earlier before
    cases earlier with
    | zero => exact skipped
    | succ earlier => exact first.skipped earlier (by omega)

/-- So many turns give a result if the first accepted draw is one of so many. -/
theorem sample_eq_some_iff {turns : Nat} :
    sample attempt turns draws = some result ↔
      ∃ index < turns, FirstAccepted attempt draws index result := by
  induction turns generalizing draws with
  | zero => simp [sample]
  | succ turns ih =>
      rw [sample]
      cases here : attempt (draws 0) with
      | some value =>
          dsimp only
          constructor
          · intro same
            rw [same] at here
            exact ⟨0, Nat.succ_pos turns, FirstAccepted.zero here⟩
          · rintro ⟨index, _, first⟩
            cases index with
            | zero => rw [← here, first.accepted]
            | succ index =>
                have skipped := first.skipped 0 (Nat.succ_pos index)
                rw [here] at skipped
                cases skipped
      | none =>
          dsimp only
          rw [ih]
          constructor
          · rintro ⟨index, inTurns, first⟩
            exact ⟨index + 1, Nat.succ_lt_succ inTurns, (firstAccepted_succ here).mpr first⟩
          · rintro ⟨index, inTurns, first⟩
            cases index with
            | zero =>
                have accepted := first.accepted
                rw [here] at accepted
                cases accepted
            | succ index =>
                exact ⟨index, Nat.lt_of_succ_lt_succ inTurns, (firstAccepted_succ here).mp first⟩

theorem returns_iff :
    Returns attempt draws result ↔ ∃ index, FirstAccepted attempt draws index result := by
  constructor
  · rintro ⟨turns, sampled⟩
    obtain ⟨index, _, first⟩ := sample_eq_some_iff.mp sampled
    exact ⟨index, first⟩
  · rintro ⟨index, first⟩
    exact ⟨index + 1, sample_eq_some_iff.mpr ⟨index, Nat.lt_succ_self index, first⟩⟩

theorem exists_returns_iff :
    (∃ result, Returns attempt draws result) ↔ ∃ index, (attempt (draws index)).isSome := by
  constructor
  · rintro ⟨result, returned⟩
    obtain ⟨index, first⟩ := returns_iff.mp returned
    exact ⟨index, by rw [first.accepted]; rfl⟩
  · intro some
    obtain ⟨result, accepted⟩ := Option.isSome_iff_exists.mp (Nat.find_spec some)
    refine ⟨result, returns_iff.mpr ⟨Nat.find some, accepted, ?_⟩⟩
    intro earlier before
    exact Option.not_isSome_iff_eq_none.mp (Nat.find_min some before)

end RejectionSampling
