import HoprTypes.Lib.Interleaving
import Mathlib

/-!
# Counters

A counter reports each increment to the exported counter and then adds it to its shadow cell
of 64 bits, which wraps around.  The increments of any number of threads interleave.
-/

set_option autoImplicit false

namespace HoprTypes.Telemetry

open Interleaving

structure SimpleCounter where
  /-- The sum of all reported increments. -/
  exported : Nat
  shadow : BitVec 64
deriving DecidableEq

namespace SimpleCounter

def new : SimpleCounter := ⟨0, 0⟩

def get (counter : SimpleCounter) : BitVec 64 := counter.shadow

inductive Call where
  | add (by_ : BitVec 64)
  | fetchAdd (by_ : BitVec 64)
deriving DecidableEq

def incrementBy (by_ : BitVec 64) : Call := .add by_

def increment : Call := incrementBy 1

inductive Taken : SimpleCounter → List Call → Call → SimpleCounter → Option Call → Prop where
  | add (counter : SimpleCounter) (others : List Call) (by_ : BitVec 64) :
      Taken counter others (.add by_) { counter with exported := counter.exported + by_.toNat }
        (some (.fetchAdd by_))
  | fetchAdd (counter : SimpleCounter) (others : List Call) (by_ : BitVec 64) :
      Taken counter others (.fetchAdd by_) { counter with shadow := counter.shadow + by_ } none

def system : System SimpleCounter Call where
  starts call := ∃ by_, call = incrementBy by_
  step := Taken

def pending : Call → Nat
  | .add _ => 0
  | .fetchAdd by_ => by_.toNat

/-- Of everything reported, `added` has reached the shadow. -/
def Tracks (added : Nat) (state : State SimpleCounter Call) : Prop :=
  state.shared.exported = added + (state.calls.map pending).sum ∧
    state.shared.shadow.toNat = added % 2 ^ 64

/-- A step adds to the shadow what it takes from the pending increments. -/
theorem Tracks.step {added : Nat} {state state' : State SimpleCounter Call}
    (tracks : Tracks added state) (step : Step system state state') :
    ∃ more, Tracks (added + more) state' := by
  obtain ⟨total, cell⟩ := tracks
  cases step with
  | @start shared calls call may =>
      obtain ⟨by_, rfl⟩ := may
      exact ⟨0, by simpa [incrementBy, pending] using total, cell⟩
  | @advance before after shared shared' call next taken =>
      simp only [List.map_append, List.map_cons, List.sum_append, List.sum_cons] at total
      cases taken with
      | add by_ =>
          refine ⟨0, ?_, cell⟩
          simp only [List.map_append, List.sum_append, Option.toList_some, List.map_cons,
            List.sum_cons, List.map_nil, List.sum_nil, pending] at total ⊢
          omega
      | fetchAdd by_ =>
          refine ⟨by_.toNat, ?_, ?_⟩
          · simp only [List.map_append, List.sum_append, Option.toList_none, List.map_nil,
              List.sum_nil, pending] at total ⊢
            omega
          · rw [BitVec.toNat_add, cell, Nat.mod_add_mod]

theorem Tracks.run {added : Nat} {state state' : State SimpleCounter Call}
    (tracks : Tracks added state) (run : Relation.ReflTransGen (Step system) state state') :
    ∃ more, Tracks (added + more) state' := by
  induction run with
  | refl => exact ⟨0, tracks⟩
  | tail _ step ih =>
      obtain ⟨earlier, ended⟩ := ih
      obtain ⟨more, next⟩ := ended.step step
      exact ⟨earlier + more, by rw [← Nat.add_assoc]; exact next⟩

theorem Tracks.new : Tracks 0 ⟨SimpleCounter.new, []⟩ := ⟨rfl, rfl⟩

end SimpleCounter

/-- At every moment of every run, a counter returns what was reported without the increments
still on their way, modulo 2^64.  While less than 2^64 was reported, it never returns more
than that, and what it returns never decreases. -/
theorem counter_follows_exported {state state' : State SimpleCounter SimpleCounter.Call}
    (reached : Reachable SimpleCounter.system SimpleCounter.new state)
    (run : Relation.ReflTransGen (Step SimpleCounter.system) state state') :
    (state.calls.map SimpleCounter.pending).sum ≤ state.shared.exported ∧
      state.shared.get.toNat =
        (state.shared.exported - (state.calls.map SimpleCounter.pending).sum) % 2 ^ 64 ∧
      (state'.shared.exported < 2 ^ 64 → state.shared.get.toNat ≤ state'.shared.get.toNat ∧
        state'.shared.get.toNat ≤ state'.shared.exported) := by
  obtain ⟨added, before⟩ := SimpleCounter.Tracks.new.run reached
  rw [Nat.zero_add] at before
  obtain ⟨more, total', cell'⟩ := before.run run
  obtain ⟨total, cell⟩ := before
  unfold SimpleCounter.get
  refine ⟨by omega, ?_, fun small => ?_⟩
  · rw [cell, total, Nat.add_sub_cancel]
  · rw [cell, cell', Nat.mod_eq_of_lt (by omega), Nat.mod_eq_of_lt (by omega)]
    omega

/-- An increment by 5 reports and one by 2 ends before it is added. -/
theorem counter_follows_exported_overtaken :
    (5 : BitVec 64).toNat ≤ 7 ∧ (0 + 2 : BitVec 64).toNat ≤ (0 + 2 + 5 : BitVec 64).toNat := by
  have started : Reachable SimpleCounter.system SimpleCounter.new
      ⟨⟨0 + 5 + 2, 0 + 2⟩, [.fetchAdd 5]⟩ := by
    refine .head (.start (SimpleCounter.incrementBy 2) ⟨2, rfl⟩) ?_
    refine .head (.start (SimpleCounter.incrementBy 5) ⟨5, rfl⟩) ?_
    refine .head (.advance [] _ (.add _ _ 5)) ?_
    refine .head (.advance [_] [] (.add _ _ 2)) ?_
    refine .head (.advance [_] [] (.fetchAdd _ _ 2)) ?_
    exact .refl
  have ended : Relation.ReflTransGen (Step SimpleCounter.system)
      ⟨⟨0 + 5 + 2, 0 + 2⟩, [.fetchAdd 5]⟩ ⟨⟨0 + 5 + 2, 0 + 2 + 5⟩, []⟩ := by
    refine .head (.advance [] [] (.fetchAdd _ _ 5)) ?_
    exact .refl
  have follows := counter_follows_exported started ended
  exact ⟨follows.1, (follows.2.2 (by decide)).1⟩

end HoprTypes.Telemetry
