import HoprTypes.Lib.Clamped
import HoprTypes.Primitive.Primitives

/-!
# Arithmetic of balances

Balances of one currency are added, subtracted and multiplied with saturating operations, which
stop at zero and at the largest 256-bit number.
-/

set_option autoImplicit false

namespace HoprTypes.Primitive

open BigEndian Clamped

namespace U256

def maxAmount : Nat := 2 ^ 256 - 1

def saturatingAdd (left right : U256) : U256 :=
  if left.toNat + right.toNat ≤ maxAmount then left + right else BitVec.ofNat 256 maxAmount

def saturatingSub (left right : U256) : U256 := if right ≤ left then left - right else 0

def saturatingMul (left right : U256) : U256 :=
  if left.toNat * right.toNat ≤ maxAmount then left * right else BitVec.ofNat 256 maxAmount

theorem toNat_le (value : U256) : value.toNat ≤ maxAmount := Nat.le_pred_of_lt value.isLt

theorem toNat_maxAmount : (BitVec.ofNat 256 maxAmount : U256).toNat = maxAmount := by
  decide +kernel

theorem toNat_saturatingAdd (left right : U256) :
    (saturatingAdd left right).toNat = min maxAmount (left.toNat + right.toNat) := by
  unfold saturatingAdd
  by_cases fits : left.toNat + right.toNat ≤ maxAmount
  · have below : left.toNat + right.toNat < 2 ^ 256 := Nat.lt_of_le_pred (by norm_num) fits
    rw [if_pos fits, min_eq_right fits, BitVec.toNat_add, Nat.mod_eq_of_lt below]
  · rw [if_neg fits, toNat_maxAmount, min_eq_left (le_of_not_ge fits)]

theorem toNat_saturatingSub (left right : U256) :
    (saturatingSub left right).toNat = left.toNat - right.toNat := by
  unfold saturatingSub
  by_cases below : right ≤ left
  · rw [if_pos below, BitVec.toNat_sub_of_le below]
  · rw [if_neg below]
    have above : left.toNat < right.toNat := Nat.lt_of_not_le below
    exact (Nat.sub_eq_zero_of_le above.le).symm

theorem toNat_saturatingMul (left right : U256) :
    (saturatingMul left right).toNat = min maxAmount (left.toNat * right.toNat) := by
  unfold saturatingMul
  by_cases fits : left.toNat * right.toNat ≤ maxAmount
  · have below : left.toNat * right.toNat < 2 ^ 256 := Nat.lt_of_le_pred (by norm_num) fits
    rw [if_pos fits, min_eq_right fits, BitVec.toNat_mul, Nat.mod_eq_of_lt below]
  · rw [if_neg fits, toNat_maxAmount, min_eq_left (le_of_not_ge fits)]

end U256

namespace Balance

variable {currency : Currency}

def zero : Balance currency := ⟨0⟩

def add (balance rhs : Balance currency) : Balance currency :=
  ⟨balance.amount.saturatingAdd rhs.amount⟩

def addAmount (balance : Balance currency) (rhs : U256) : Balance currency :=
  ⟨balance.amount.saturatingAdd rhs⟩

def addAssign (balance rhs : Balance currency) : Balance currency :=
  { balance with amount := balance.amount.saturatingAdd rhs.amount }

def addAssignAmount (balance : Balance currency) (rhs : U256) : Balance currency :=
  { balance with amount := balance.amount.saturatingAdd rhs }

def sub (balance rhs : Balance currency) : Balance currency :=
  ⟨balance.amount.saturatingSub rhs.amount⟩

def subAmount (balance : Balance currency) (rhs : U256) : Balance currency :=
  ⟨balance.amount.saturatingSub rhs⟩

def subAssign (balance rhs : Balance currency) : Balance currency :=
  { balance with amount := balance.amount.saturatingSub rhs.amount }

def subAssignAmount (balance : Balance currency) (rhs : U256) : Balance currency :=
  { balance with amount := balance.amount.saturatingSub rhs }

def mul (balance rhs : Balance currency) : Balance currency :=
  ⟨balance.amount.saturatingMul rhs.amount⟩

def mulAmount (balance : Balance currency) (rhs : U256) : Balance currency :=
  ⟨balance.amount.saturatingMul rhs⟩

def mulAssign (balance rhs : Balance currency) : Balance currency :=
  { balance with amount := balance.amount.saturatingMul rhs.amount }

def mulAssignAmount (balance : Balance currency) (rhs : U256) : Balance currency :=
  { balance with amount := balance.amount.saturatingMul rhs }

def sum (balances : List (Balance currency)) : Balance currency := balances.foldl add zero

/-! ## Terms -/

theorem toNat_amount_le (balance : Balance currency) : balance.amount.toNat ≤ U256.maxAmount :=
  U256.toNat_le balance.amount

def compute (term : Term (Balance currency)) : Balance currency := term.eval id add mul

def exact (term : Term (Balance currency)) : Nat :=
  term.eval (fun balance => balance.amount.toNat) (· + ·) (· * ·)

theorem toNat_compute (term : Term (Balance currency)) :
    (compute term).amount.toNat = min U256.maxAmount (exact term) :=
  term.eval_cut toNat_amount_le
    (fun left right => U256.toNat_saturatingAdd left.amount right.amount)
    fun left right => U256.toNat_saturatingMul left.amount right.amount

theorem toNat_foldl_add (balances : List (Balance currency)) (start : Balance currency) :
    (balances.foldl add start).amount.toNat =
      min U256.maxAmount
        (start.amount.toNat + (balances.map fun balance => balance.amount.toNat).sum) := by
  induction balances generalizing start with
  | nil =>
      rw [List.foldl_nil, List.map_nil, List.sum_nil, Nat.add_zero]
      exact (min_eq_right start.toNat_amount_le).symm
  | cons balance balances ih =>
      rw [List.foldl_cons, ih, List.map_cons, List.sum_cons, add, U256.toNat_saturatingAdd]
      omega

theorem toNat_sum (balances : List (Balance currency)) :
    (sum balances).amount.toNat =
      min U256.maxAmount (balances.map fun balance => balance.amount.toNat).sum := by
  rw [sum, toNat_foldl_add]
  show min _ (0 + _) = _
  rw [Nat.zero_add]

/-! ## Runs of credits and debits -/

inductive Change (currency : Currency) where
  | add (rhs : Balance currency)
  | addAmount (rhs : U256)
  | addAssign (rhs : Balance currency)
  | addAssignAmount (rhs : U256)
  | sub (rhs : Balance currency)
  | subAmount (rhs : U256)
  | subAssign (rhs : Balance currency)
  | subAssignAmount (rhs : U256)

def change (balance : Balance currency) : Change currency → Balance currency
  | .add rhs => balance.add rhs
  | .addAmount rhs => balance.addAmount rhs
  | .addAssign rhs => balance.addAssign rhs
  | .addAssignAmount rhs => balance.addAssignAmount rhs
  | .sub rhs => balance.sub rhs
  | .subAmount rhs => balance.subAmount rhs
  | .subAssign rhs => balance.subAssign rhs
  | .subAssignAmount rhs => balance.subAssignAmount rhs

def Change.delta : Change currency → Int
  | .add rhs | .addAssign rhs => rhs.amount.toNat
  | .addAmount rhs | .addAssignAmount rhs => rhs.toNat
  | .sub rhs | .subAssign rhs => -rhs.amount.toNat
  | .subAmount rhs | .subAssignAmount rhs => -rhs.toNat

def run (changes : List (Change currency)) (start : Balance currency) : Balance currency :=
  changes.foldl change start

theorem credit_eq (amount rhs : U256) :
    ((amount.saturatingAdd rhs).toNat : Int) =
      shift (0 : Int) U256.maxAmount amount.toNat rhs.toNat := by
  rw [U256.toNat_saturatingAdd, shift, clamp]
  omega

theorem debit_eq (amount rhs : U256) :
    ((amount.saturatingSub rhs).toNat : Int) =
      shift (0 : Int) U256.maxAmount amount.toNat (-rhs.toNat) := by
  have fits := U256.toNat_le amount
  rw [U256.toNat_saturatingSub, shift, clamp]
  omega

theorem toNat_change (balance : Balance currency) (given : Change currency) :
    ((balance.change given).amount.toNat : Int) =
      shift (0 : Int) U256.maxAmount balance.amount.toNat given.delta := by
  cases given with
  | add rhs | addAssign rhs => exact credit_eq balance.amount rhs.amount
  | addAmount rhs | addAssignAmount rhs => exact credit_eq balance.amount rhs
  | sub rhs | subAssign rhs => exact debit_eq balance.amount rhs.amount
  | subAmount rhs | subAssignAmount rhs => exact debit_eq balance.amount rhs

theorem toNat_run (changes : List (Change currency)) (start : Balance currency) :
    ((run changes start).amount.toNat : Int) =
      Clamped.run (0 : Int) U256.maxAmount (changes.map Change.delta) start.amount.toNat := by
  induction changes generalizing start with
  | nil => rfl
  | cons given changes ih =>
      have rest := ih (start.change given)
      rw [toNat_change] at rest
      exact rest

def largest : Balance currency := ⟨BitVec.ofNat 256 U256.maxAmount⟩

/-- Saturating balances lose nothing but what is beyond their range: a term of additions and
multiplications gives the exact number, or the largest balance if that is too large, and so does a
sum in any order; a run of credits and debits gives the exact total, cut to what the run gives
from an empty balance and from the largest one, and just the total if no total on the way leaves
the range. -/
theorem balances_saturate :
    (∀ term : Term (Balance currency),
      (compute term).amount.toNat = min U256.maxAmount (exact term)) ∧
    (∀ balances : List (Balance currency), (sum balances).amount.toNat =
      min U256.maxAmount (balances.map fun balance => balance.amount.toNat).sum) ∧
    ∀ (changes : List (Change currency)) (start : Balance currency),
      ((run changes start).amount.toNat : Int) =
        max ((run changes zero).amount.toNat : Int)
          (min (run changes largest).amount.toNat
            (start.amount.toNat + (changes.map Change.delta).sum)) ∧
      ((∀ front, front <+: changes →
          0 ≤ start.amount.toNat + (front.map Change.delta).sum ∧
            start.amount.toNat + (front.map Change.delta).sum ≤ U256.maxAmount) →
        ((run changes start).amount.toNat : Int) =
          start.amount.toNat + (changes.map Change.delta).sum) := by
  refine ⟨toNat_compute, toNat_sum, ?_⟩
  intro changes start
  have above : (0 : Int) ≤ start.amount.toNat := Int.natCast_nonneg _
  have below : (start.amount.toNat : Int) ≤ U256.maxAmount :=
    Int.ofNat_le.mpr start.toNat_amount_le
  have atEnd : ((largest : Balance currency).amount.toNat : Int) = U256.maxAmount :=
    congrArg Int.ofNat U256.toNat_maxAmount
  constructor
  · rw [toNat_run, toNat_run, toNat_run, atEnd]
    exact run_eq_clamp (above.trans below) _ above below
  · intro inside
    rw [toNat_run]
    apply run_eq_add
    intro front isFront
    obtain ⟨part, isPart, rfl⟩ := List.prefix_map_iff.mp isFront
    exact inside part isPart

end Balance

end HoprTypes.Primitive
