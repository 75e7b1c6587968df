import Mathlib

/-!
# Double-precision floats

The IEEE 754 double-precision numbers, given by their words.  A finite number is a
multiple of `2^-1074`, so comparing, adding and subtracting is done on integers and
the result is rounded to the nearest number, ties to even.
-/

set_option autoImplicit false

/-! ## Rounding -/

/-- A rational rounded to the nearest integer, ties to even. -/
def roundHalfEven (q : ℚ) : ℤ :=
  if 2 * Int.fract q < 1 ∨ 2 * Int.fract q = 1 ∧ ⌊q⌋ % 2 = 0 then ⌊q⌋ else ⌊q⌋ + 1

/-- `n / 2^shift` rounded to the nearest integer, ties to even. -/
def roundShift (n shift : Nat) : Nat :=
  let quotient := n / 2 ^ shift
  let rest := n % 2 ^ shift
  if 2 * rest < 2 ^ shift ∨ 2 * rest = 2 ^ shift ∧ quotient % 2 = 0 then quotient
  else quotient + 1

theorem roundShift_mul (quotient shift : Nat) :
    roundShift (quotient * 2 ^ shift) shift = quotient := by
  have positive : 0 < 2 ^ shift := Nat.two_pow_pos shift
  rw [roundShift, Nat.mul_mod_left, Nat.mul_div_cancel _ positive]
  exact if_pos (Or.inl (by omega))

theorem roundShift_add {quotient : Nat} (even : quotient % 2 = 0) (n shift : Nat) :
    roundShift (quotient * 2 ^ shift + n) shift = quotient + roundShift n shift := by
  have positive : 0 < 2 ^ shift := Nat.two_pow_pos shift
  have divided : (quotient * 2 ^ shift + n) / 2 ^ shift = quotient + n / 2 ^ shift := by
    rw [Nat.add_comm, Nat.add_mul_div_right _ _ positive, Nat.add_comm]
  have parity : (quotient + n / 2 ^ shift) % 2 = n / 2 ^ shift % 2 := by omega
  simp only [roundShift, Nat.mul_add_mod_self_right, divided, parity]
  split <;> omega

theorem roundShift_le {bound n shift : Nat} (le : n ≤ bound * 2 ^ shift) :
    roundShift n shift ≤ bound := by
  have whole : n / 2 ^ shift ≤ bound := by
    rw [Nat.div_le_iff_le_mul_add_pred (Nat.two_pow_pos shift), Nat.mul_comm]
    omega
  rcases Nat.lt_or_eq_of_le whole with below | same
  · simp only [roundShift]
    split <;> omega
  · have exact : n = bound * 2 ^ shift := by
      apply Nat.le_antisymm le
      rw [← same]
      exact Nat.div_mul_le_self n (2 ^ shift)
    rw [exact, roundShift_mul]

/-- What rounds to at most a number lies below its upper midpoint, which goes to the even side. -/
theorem roundShift_le_iff (bound n shift : Nat) :
    roundShift n (shift + 1) ≤ bound ↔
      n < bound * 2 ^ (shift + 1) + 2 ^ shift ∨
        n = bound * 2 ^ (shift + 1) + 2 ^ shift ∧ bound % 2 = 0 := by
  have positive : 0 < 2 ^ shift := Nat.two_pow_pos shift
  have parts := Nat.div_add_mod n (2 ^ (shift + 1))
  have small := Nat.mod_lt n (Nat.two_pow_pos (shift + 1))
  have monotone := fun {a b : Nat} (le : a ≤ b) => Nat.mul_le_mul_right (2 ^ (shift + 1)) le
  simp only [roundShift]
  rw [Nat.mul_comm] at parts
  generalize n / 2 ^ (shift + 1) = whole at parts ⊢
  generalize n % 2 ^ (shift + 1) = rest at parts small ⊢
  rw [Nat.pow_succ] at parts small monotone ⊢
  rcases lt_trichotomy whole bound with below | rfl | above
  · have room := monotone (Nat.succ_le_of_lt below)
    rw [Nat.succ_mul] at room
    split <;> omega
  · split <;> omega
  · have room := monotone (Nat.succ_le_of_lt above)
    rw [Nat.succ_mul] at room
    split <;> omega

theorem roundShift_between_iff {bound : Nat} (even : bound % 2 = 0) (positive : 0 < bound)
    (n shift : Nat) :
    (0 < roundShift n (shift + 1) ∧ roundShift n (shift + 1) < bound) ↔
      2 ^ shift < n ∧ n < (2 * bound - 1) * 2 ^ shift := by
  have lowest := roundShift_le_iff 0 n shift
  have highest := roundShift_le_iff (bound - 1) n shift
  have top : (2 * bound - 1) * 2 ^ shift = (bound - 1) * 2 ^ (shift + 1) + 2 ^ shift := by
    rw [pow_succ, Nat.mul_comm (2 ^ shift), ← Nat.mul_assoc, ← Nat.succ_mul]
    congr 1
    omega
  rw [top]
  omega

theorem roundShift_eq_roundHalfEven (n shift : Nat) :
    (roundShift n shift : ℤ) = roundHalfEven (n / 2 ^ shift) := by
  have positive : (0 : ℚ) < 2 ^ shift := by positivity
  have parts : (n : ℚ) = 2 ^ shift * (n / 2 ^ shift : ℕ) + (n % 2 ^ shift : ℕ) := by
    exact_mod_cast (Nat.div_add_mod n (2 ^ shift)).symm
  have floor : ⌊(n : ℚ) / 2 ^ shift⌋ = ((n / 2 ^ shift : ℕ) : ℤ) := by
    simpa using Rat.floor_natCast_div_natCast n (2 ^ shift)
  have rest : 2 * Int.fract ((n : ℚ) / 2 ^ shift) = (2 * (n % 2 ^ shift) : ℕ) / 2 ^ shift := by
    rw [Int.fract, floor, Int.cast_natCast, eq_div_iff positive.ne', mul_assoc, sub_mul,
      div_mul_cancel₀ _ positive.ne']
    rw [Nat.cast_mul, Nat.cast_ofNat]
    linarith
  have below : 2 * Int.fract ((n : ℚ) / 2 ^ shift) < 1 ↔ 2 * (n % 2 ^ shift) < 2 ^ shift := by
    rw [rest, div_lt_one positive]
    exact_mod_cast Iff.rfl
  have tie : 2 * Int.fract ((n : ℚ) / 2 ^ shift) = 1 ↔ 2 * (n % 2 ^ shift) = 2 ^ shift := by
    rw [rest, div_eq_one_iff_eq positive.ne']
    exact_mod_cast Iff.rfl
  have parity : ((n / 2 ^ shift : ℕ) : ℤ) % 2 = 0 ↔ n / 2 ^ shift % 2 = 0 := by omega
  simp only [roundHalfEven, below, tie, floor, parity, roundShift]
  split
  · rfl
  · exact Nat.cast_succ _

theorem roundHalfEven_natCast (n : ℕ) : roundHalfEven n = n := by
  have rounded := roundShift_eq_roundHalfEven (n * 2 ^ 0) 0
  rw [roundShift_mul, pow_zero, pow_zero, mul_one, div_one] at rounded
  exact rounded.symm

/-! ## Numbers -/

/-- A float, given by its word: a sign bit, 11 bits of exponent and 52 bits of fraction. -/
structure Binary64 where
  fromBits ::
  toBits : BitVec 64
deriving DecidableEq

namespace Binary64

def negative (x : Binary64) : Bool := x.toBits.msb

def exponent (x : Binary64) : Nat := x.toBits.toNat / 2 ^ 52 % 2 ^ 11

def fraction (x : Binary64) : Nat := x.toBits.toNat % 2 ^ 52

/-- The absolute value in multiples of `2^-1074`. -/
def magnitude (x : Binary64) : Nat :=
  if x.exponent = 0 then x.fraction else (2 ^ 52 + x.fraction) * 2 ^ (x.exponent - 1)

/-- The number in multiples of `2^-1074`.  An infinity is beyond all finite numbers. -/
def units (x : Binary64) : ℤ := if x.negative then -x.magnitude else x.magnitude

def value (x : Binary64) : ℚ := x.units / 2 ^ 1074

def IsNaN (x : Binary64) : Prop := x.exponent = 2047 ∧ x.fraction ≠ 0

def IsFinite (x : Binary64) : Prop := x.exponent ≠ 2047

instance (x : Binary64) : Decidable x.IsNaN := inferInstanceAs (Decidable (_ ∧ _))

instance (x : Binary64) : Decidable x.IsFinite := inferInstanceAs (Decidable (_ ≠ _))

def zero : Binary64 := fromBits 0

def one : Binary64 := fromBits 0x3ff0000000000000

/-- The distance `2^-52` of the number one to the next one. -/
def machineEpsilon : Binary64 := fromBits 0x3cb0000000000000

def nan : Binary64 := fromBits 0x7ff8000000000000

/-! ## Comparison -/

/-- The comparisons hold for no NaN. -/
instance : LE Binary64 := ⟨fun x y => ¬ x.IsNaN ∧ ¬ y.IsNaN ∧ x.units ≤ y.units⟩

instance : LT Binary64 := ⟨fun x y => ¬ x.IsNaN ∧ ¬ y.IsNaN ∧ x.units < y.units⟩

/-- Equality of numbers, which identifies the two zeros. -/
def Equals (x y : Binary64) : Prop := ¬ x.IsNaN ∧ ¬ y.IsNaN ∧ x.units = y.units

instance (x y : Binary64) : Decidable (x ≤ y) := inferInstanceAs (Decidable (_ ∧ _ ∧ _))

instance (x y : Binary64) : Decidable (x < y) := inferInstanceAs (Decidable (_ ∧ _ ∧ _))

instance (x y : Binary64) : Decidable (x.Equals y) := inferInstanceAs (Decidable (_ ∧ _ ∧ _))

def partialCmp (x y : Binary64) : Option Ordering :=
  if x.IsNaN ∨ y.IsNaN then none else some (compare x.units y.units)

/-! ## Arithmetic -/

def wordOf (n : Nat) : Nat :=
  let shift := n.log2 - 52
  min (shift * 2 ^ 52 + roundShift n shift) (2047 * 2 ^ 52)

def ofMagnitude (negative : Bool) (n : Nat) : Binary64 :=
  fromBits (BitVec.ofNat 64 ((if negative then 2 ^ 63 else 0) + wordOf n))

def abs (x : Binary64) : Binary64 := fromBits (x.toBits &&& BitVec.ofNat 64 (2 ^ 63 - 1))

instance : Neg Binary64 := ⟨fun x => fromBits (x.toBits ^^^ BitVec.ofNat 64 (2 ^ 63))⟩

/-- The exact sum, rounded.  Opposite infinities have no sum, opposite zeros the positive one. -/
def add (x y : Binary64) : Binary64 :=
  if x.IsNaN ∨ y.IsNaN then nan
  else if ¬ x.IsFinite then
    if ¬ y.IsFinite ∧ x.negative ≠ y.negative then nan else x
  else if ¬ y.IsFinite then y
  else if x.units + y.units = 0 then ofMagnitude (x.negative && y.negative) 0
  else ofMagnitude (decide (x.units + y.units < 0)) (x.units + y.units).natAbs

instance : Add Binary64 := ⟨add⟩

instance : Sub Binary64 := ⟨fun x y => x + -y⟩

/-! ## Words and their fields -/

theorem toNat_and_mask (x : Binary64) :
    (x.toBits &&& 0x000fffffffffffff#64).toNat = x.fraction := by
  rw [BitVec.toNat_and, fraction]
  exact Nat.and_two_pow_sub_one_eq_mod x.toBits.toNat 52

theorem wordOf_le (n : Nat) : wordOf n ≤ 2047 * 2 ^ 52 := Nat.min_le_right _ _

theorem toNat_ofMagnitude (negative : Bool) (n : Nat) :
    (ofMagnitude negative n).toBits.toNat = (if negative then 2 ^ 63 else 0) + wordOf n := by
  have fits := wordOf_le n
  rw [ofMagnitude, BitVec.toNat_ofNat, Nat.mod_eq_of_lt]
  split <;> omega

/-- The magnitude behind a word, whose quotient may carry into the next exponent. -/
theorem magnitude_of_word {x : Binary64} {shift quotient : Nat}
    (word : x.toBits.toNat % 2 ^ 63 = shift * 2 ^ 52 + quotient) (most : quotient ≤ 2 ^ 53)
    (normal : shift = 0 ∨ 2 ^ 52 ≤ quotient) : x.magnitude = quotient * 2 ^ shift := by
  have exponent : x.exponent = (shift * 2 ^ 52 + quotient) / 2 ^ 52 := by
    rw [← word, Binary64.exponent]
    omega
  have fraction : x.fraction = quotient % 2 ^ 52 := by
    rw [Binary64.fraction]
    omega
  rw [magnitude, exponent, fraction]
  rcases Nat.lt_or_ge quotient (2 ^ 52) with subnormal | normal
  · obtain rfl : shift = 0 := by omega
    rw [if_pos (by omega), Nat.mod_eq_of_lt subnormal, pow_zero, mul_one]
  rcases Nat.lt_or_ge quotient (2 ^ 53) with below | carry
  · have exponent : (shift * 2 ^ 52 + quotient) / 2 ^ 52 = shift + 1 := by omega
    have fraction : 2 ^ 52 + quotient % 2 ^ 52 = quotient := by omega
    rw [exponent, if_neg (by omega), fraction, Nat.add_sub_cancel]
  · obtain rfl : quotient = 2 ^ 53 := by omega
    have exponent : (shift * 2 ^ 52 + 2 ^ 53) / 2 ^ 52 = shift + 2 := by omega
    rw [exponent, if_neg (by omega), Nat.mod_eq_zero_of_dvd (by decide),
      Nat.add_sub_assoc (by decide), pow_add]
    ring

theorem negative_ofMagnitude (negative : Bool) (n : Nat) :
    (ofMagnitude negative n).negative = negative := by
  have fits := wordOf_le n
  rw [Binary64.negative, BitVec.msb_eq_decide, toNat_ofMagnitude]
  cases negative with
  | false => exact decide_eq_false (by simp only [Bool.false_eq_true, if_false]; omega)
  | true => exact decide_eq_true (by simp only [if_true]; omega)

theorem exponent_ofMagnitude (negative : Bool) (n : Nat) :
    (ofMagnitude negative n).exponent = wordOf n / 2 ^ 52 := by
  have fits := wordOf_le n
  rw [exponent, toNat_ofMagnitude]
  split <;> omega

/-! ## Rounding to a word -/

theorem wordOf_of_normal {n shift : Nat} (lower : 2 ^ 52 * 2 ^ shift ≤ n)
    (upper : n ≤ 2 ^ 53 * 2 ^ shift) (small : shift ≤ 2044) :
    wordOf n = shift * 2 ^ 52 + roundShift n shift := by
  have nonzero : n ≠ 0 := by
    have := Nat.two_pow_pos shift
    omega
  rcases Nat.lt_or_eq_of_le upper with below | rfl
  · have log : n.log2 - 52 = shift := by
      rw [← pow_add] at lower below
      have log := (Nat.log2_eq_iff nonzero (k := 52 + shift)).2 ⟨lower, by
        rwa [Nat.add_right_comm]⟩
      omega
    have most := roundShift_le upper
    simp only [wordOf, log]
    omega
  · have log : (2 ^ 53 * 2 ^ shift).log2 = 53 + shift := by
      rw [← pow_add, Nat.log2_two_pow]
    have more : 2 ^ 53 * 2 ^ shift = 2 ^ 52 * 2 ^ (shift + 1) := by
      rw [pow_succ]
      ring
    have next : 53 + shift - 52 = shift + 1 := by omega
    simp only [wordOf, log, next]
    rw [roundShift_mul, more, roundShift_mul]
    omega

theorem isFinite_ofMagnitude {negative : Bool} {n : Nat} (below : wordOf n < 2047 * 2 ^ 52) :
    (ofMagnitude negative n).IsFinite := by
  rw [IsFinite, exponent_ofMagnitude]
  omega

/-- Every number of at most 53 significant bits has a form that is normal or not shifted. -/
theorem exists_normal_form {significand shift : Nat} (short : significand < 2 ^ 53) :
    ∃ quotient normalShift, significand * 2 ^ shift = quotient * 2 ^ normalShift ∧
      normalShift ≤ shift ∧ quotient < 2 ^ 53 ∧ (normalShift = 0 ∨ 2 ^ 52 ≤ quotient) := by
  induction shift generalizing significand with
  | zero => exact ⟨significand, 0, rfl, Nat.le_refl 0, short, Or.inl rfl⟩
  | succ shift ih =>
      rcases Nat.lt_or_ge significand (2 ^ 52) with subnormal | normal
      · obtain ⟨quotient, normalShift, same, le, most, form⟩ :=
          @ih (2 * significand) (by omega)
        refine ⟨quotient, normalShift, ?_, Nat.le_succ_of_le le, most, form⟩
        rw [← same, pow_succ]
        ring
      · exact ⟨significand, shift + 1, rfl, Nat.le_refl _, short, Or.inr normal⟩

theorem wordOf_mul {quotient shift : Nat} (most : quotient < 2 ^ 53) (small : shift ≤ 2044)
    (form : shift = 0 ∨ 2 ^ 52 ≤ quotient) :
    wordOf (quotient * 2 ^ shift) = shift * 2 ^ 52 + quotient := by
  rcases Nat.lt_or_ge quotient (2 ^ 52) with subnormal | normal
  · obtain rfl : shift = 0 := by omega
    have log : quotient.log2 - 52 = 0 := by
      rcases Nat.eq_zero_or_pos quotient with rfl | positive
      · rfl
      · have := (Nat.log2_lt positive.ne').2 subnormal
        omega
    have rounded := roundShift_mul quotient 0
    rw [pow_zero, mul_one] at rounded ⊢
    simp only [wordOf, log, rounded]
    omega
  · have lower := Nat.mul_le_mul_right (2 ^ shift) normal
    have upper := Nat.mul_le_mul_right (2 ^ shift) most.le
    rw [wordOf_of_normal lower upper small, roundShift_mul]

theorem ofMagnitude_exact (negative : Bool) {significand shift : Nat}
    (short : significand < 2 ^ 53) (small : shift ≤ 2044) :
    (ofMagnitude negative (significand * 2 ^ shift)).IsFinite ∧
      (ofMagnitude negative (significand * 2 ^ shift)).magnitude = significand * 2 ^ shift := by
  obtain ⟨quotient, normalShift, same, le, most, form⟩ :=
    @exists_normal_form significand shift short
  have word := wordOf_mul most (le.trans small) form
  rw [same]
  constructor
  · apply isFinite_ofMagnitude
    omega
  · apply magnitude_of_word _ most.le form
    rw [toNat_ofMagnitude, word]
    split <;> omega

/-! ## Sums -/

theorem not_isNaN {x : Binary64} (finite : x.IsFinite) : ¬ x.IsNaN := fun nan => finite nan.1

theorem add_of_isFinite {x y : Binary64} (left : x.IsFinite) (right : y.IsFinite) :
    x + y = if x.units + y.units = 0 then ofMagnitude (x.negative && y.negative) 0
      else ofMagnitude (decide (x.units + y.units < 0)) (x.units + y.units).natAbs := by
  change add x y = _
  rw [add, if_neg (by simp [not_isNaN left, not_isNaN right]), if_neg (not_not.2 left),
    if_neg (not_not.2 right)]

theorem units_ofMagnitude {n : ℤ}
    (kept : (ofMagnitude (decide (n < 0)) n.natAbs).magnitude = n.natAbs) :
    (ofMagnitude (decide (n < 0)) n.natAbs).units = n := by
  rw [units, negative_ofMagnitude, kept]
  by_cases below : n < 0
  · rw [if_pos (decide_eq_true below)]
    omega
  · rw [if_neg (by simp [below])]
    omega

theorem add_exact {x y : Binary64} (left : x.IsFinite) (right : y.IsFinite)
    {significand shift : Nat} (sum : (x.units + y.units).natAbs = significand * 2 ^ shift)
    (short : significand < 2 ^ 53) (small : shift ≤ 2044) :
    (x + y).IsFinite ∧ (x + y).units = x.units + y.units := by
  rw [add_of_isFinite left right]
  by_cases cancel : x.units + y.units = 0
  · rw [if_pos cancel, cancel]
    obtain ⟨finite, kept⟩ := ofMagnitude_exact (x.negative && y.negative) (Nat.two_pow_pos 53)
      (Nat.zero_le 2044)
    rw [zero_mul] at finite kept
    refine ⟨finite, ?_⟩
    rw [units, kept]
    split <;> rfl
  · rw [if_neg cancel]
    obtain ⟨finite, kept⟩ := ofMagnitude_exact (decide (x.units + y.units < 0)) short small
    rw [← sum] at finite kept
    exact ⟨finite, units_ofMagnitude kept⟩

theorem exponent_eq (x : Binary64) : x.exponent = x.toBits.toNat % 2 ^ 63 / 2 ^ 52 := by
  rw [exponent]
  omega

theorem fraction_eq (x : Binary64) : x.fraction = x.toBits.toNat % 2 ^ 63 % 2 ^ 52 := by
  rw [fraction]
  omega

theorem magnitude_congr {x y : Binary64}
    (same : x.toBits.toNat % 2 ^ 63 = y.toBits.toNat % 2 ^ 63) :
    x.exponent = y.exponent ∧ x.magnitude = y.magnitude := by
  have exponent : x.exponent = y.exponent := by rw [exponent_eq, exponent_eq, same]
  have fraction : x.fraction = y.fraction := by rw [fraction_eq, fraction_eq, same]
  exact ⟨exponent, by rw [magnitude, magnitude, exponent, fraction]⟩

theorem neg_fields (x : Binary64) :
    (-x).exponent = x.exponent ∧ (-x).magnitude = x.magnitude ∧ (-x).negative = !x.negative := by
  have word : (-x).toBits = x.toBits ^^^ BitVec.ofNat 64 (2 ^ 63) := rfl
  have low : (-x).toBits.toNat % 2 ^ 63 = x.toBits.toNat % 2 ^ 63 := by
    rw [word, BitVec.toNat_xor, Nat.xor_mod_two_pow]
    simp
  obtain ⟨exponent, magnitude⟩ := magnitude_congr low
  refine ⟨exponent, magnitude, ?_⟩
  have top : (BitVec.ofNat 64 (2 ^ 63)).msb = true := by decide
  rw [negative, word, BitVec.msb_xor, top, Bool.xor_true, negative]

theorem units_neg (x : Binary64) : (-x).units = -x.units := by
  obtain ⟨_, magnitude, negative⟩ := neg_fields x
  rw [units, units, magnitude, negative]
  cases x.negative with
  | false => rfl
  | true => exact (neg_neg _).symm

theorem isFinite_neg {x : Binary64} (finite : x.IsFinite) : (-x).IsFinite := by
  rw [IsFinite, (neg_fields x).1]
  exact finite

theorem sub_exact {x y : Binary64} (left : x.IsFinite) (right : y.IsFinite)
    {significand shift : Nat} (difference : (x.units - y.units).natAbs = significand * 2 ^ shift)
    (short : significand < 2 ^ 53) (small : shift ≤ 2044) :
    (x - y).IsFinite ∧ (x - y).units = x.units - y.units := by
  rw [sub_eq_add_neg, ← units_neg] at difference ⊢
  exact add_exact left (isFinite_neg right) difference short small

theorem abs_fields (x : Binary64) :
    x.abs.exponent = x.exponent ∧ x.abs.magnitude = x.magnitude ∧ x.abs.negative = false := by
  have word : x.abs.toBits.toNat = x.toBits.toNat % 2 ^ 63 := by
    rw [abs, BitVec.toNat_and, BitVec.toNat_ofNat, Nat.mod_eq_of_lt (by decide),
      Nat.and_two_pow_sub_one_eq_mod]
  have low : x.abs.toBits.toNat % 2 ^ 63 = x.toBits.toNat % 2 ^ 63 := by
    rw [word, Nat.mod_mod]
  obtain ⟨exponent, magnitude⟩ := magnitude_congr low
  refine ⟨exponent, magnitude, ?_⟩
  rw [negative, BitVec.msb_eq_decide, word]
  have := Nat.mod_lt x.toBits.toNat (Nat.two_pow_pos 63)
  exact decide_eq_false (by omega)

theorem units_abs (x : Binary64) : x.abs.units = |x.units| := by
  obtain ⟨_, magnitude, negative⟩ := abs_fields x
  rw [units, units, magnitude, negative]
  cases x.negative with
  | false => exact (Nat.abs_cast x.magnitude).symm
  | true =>
      rw [if_pos rfl, abs_neg]
      exact (Nat.abs_cast x.magnitude).symm

theorem isFinite_abs {x : Binary64} (finite : x.IsFinite) : x.abs.IsFinite := by
  rw [IsFinite, (abs_fields x).1]
  exact finite

/-! ## Sums with one -/

theorem units_one : one.units = (2 ^ 52 * 2 ^ 1022 : ℕ) := by decide +kernel

theorem isFinite_one : one.IsFinite := by decide

theorem wordOf_add {n shift : Nat} (le : n ≤ 2 ^ 52 * 2 ^ shift) (small : shift ≤ 2044) :
    wordOf (2 ^ 52 * 2 ^ shift + n) = (shift + 1) * 2 ^ 52 + roundShift n shift := by
  have upper : 2 ^ 52 * 2 ^ shift + n ≤ 2 ^ 53 * 2 ^ shift := by
    rw [pow_succ 2 52, mul_right_comm, mul_two]
    exact Nat.add_le_add_left le _
  rw [wordOf_of_normal (Nat.le_add_right _ n) upper small, roundShift_add (by decide)]
  omega

theorem toBits_add {x y : Binary64} (left : x.IsFinite) (right : y.IsFinite) {n : Nat}
    (sum : x.units + y.units = (2 ^ 52 * 2 ^ 1022 + n : ℕ)) (le : n ≤ 2 ^ 52 * 2 ^ 1022) :
    (x + y).toBits.toNat = 1023 * 2 ^ 52 + roundShift n 1022 := by
  have positive : 0 < 2 ^ 52 * 2 ^ 1022 := by positivity
  have word := @wordOf_add n 1022 le (by decide)
  generalize 2 ^ 52 * 2 ^ 1022 = whole at sum positive word
  have nonzero : x.units + y.units ≠ 0 := by omega
  have nonnegative : ¬ x.units + y.units < 0 := by omega
  rw [add_of_isFinite left right, if_neg nonzero, toNat_ofMagnitude, if_neg (by simp [nonnegative]),
    sum, Int.natAbs_natCast, word, Nat.zero_add]

/-! ## Values -/

theorem value_eq {x : Binary64} {high low : Nat} (parts : high + low = 1074) :
    x.value = x.units / 2 ^ low / 2 ^ high := by
  rw [value, ← parts, pow_add, mul_comm, div_mul_eq_div_div]

theorem value_le_div_iff {x : Binary64} {k : ℤ} {high low : Nat} (parts : high + low = 1074) :
    x.value ≤ k / 2 ^ high ↔ x.units ≤ k * 2 ^ low := by
  rw [value_eq parts, div_le_div_iff_of_pos_right (by positivity), div_le_iff₀ (by positivity)]
  exact_mod_cast Iff.rfl

theorem div_le_value_iff {x : Binary64} {k : ℤ} {high low : Nat} (parts : high + low = 1074) :
    k / 2 ^ high ≤ x.value ↔ k * 2 ^ low ≤ x.units := by
  rw [value_eq parts, div_le_div_iff_of_pos_right (by positivity), le_div_iff₀ (by positivity)]
  exact_mod_cast Iff.rfl

theorem value_eq_div_iff {x : Binary64} {k : ℤ} {high low : Nat} (parts : high + low = 1074) :
    x.value = k / 2 ^ high ↔ x.units = k * 2 ^ low := by
  rw [le_antisymm_iff, le_antisymm_iff, value_le_div_iff parts, div_le_value_iff parts]

theorem value_sub_le_iff {x y : Binary64} {k : ℤ} {high low : Nat} (parts : high + low = 1074) :
    x.value - y.value ≤ k / 2 ^ high ↔ x.units ≤ y.units + k * 2 ^ low := by
  rw [value_eq parts, value_eq parts, ← sub_div, div_le_div_iff_of_pos_right (by positivity),
    ← sub_div, div_le_iff₀ (by positivity), sub_le_iff_le_add']
  exact_mod_cast Iff.rfl

theorem value_le_value_iff {x y : Binary64} : x.value ≤ y.value ↔ x.units ≤ y.units := by
  rw [value, value, div_le_div_iff_of_pos_right (by positivity), Int.cast_le]

theorem value_lt_value_iff {x y : Binary64} : x.value < y.value ↔ x.units < y.units := by
  rw [← not_le, ← not_le, value_le_value_iff]

theorem value_abs (x : Binary64) : x.abs.value = |x.value| := by
  rw [value, units_abs, Int.cast_abs, value, abs_div,
    abs_of_pos (show (0 : ℚ) < 2 ^ 1074 by positivity)]

theorem le_iff {x y : Binary64} (left : ¬ x.IsNaN) (right : ¬ y.IsNaN) :
    x ≤ y ↔ x.value ≤ y.value := by
  rw [value_le_value_iff]
  exact ⟨fun le => le.2.2, fun le => ⟨left, right, le⟩⟩

theorem lt_iff {x y : Binary64} (left : ¬ x.IsNaN) (right : ¬ y.IsNaN) :
    x < y ↔ x.value < y.value := by
  rw [← not_le, value_le_value_iff, not_le]
  exact ⟨fun lt => lt.2.2, fun lt => ⟨left, right, lt⟩⟩

theorem equals_iff {x y : Binary64} (left : ¬ x.IsNaN) (right : ¬ y.IsNaN) :
    x.Equals y ↔ x.value = y.value := by
  rw [le_antisymm_iff, value_le_value_iff, value_le_value_iff, ← le_antisymm_iff]
  exact ⟨fun same => same.2.2, fun same => ⟨left, right, same⟩⟩

theorem isFinite_zero : zero.IsFinite := by decide

@[simp] theorem value_zero : zero.value = 0 := by
  have units : zero.units = 0 := by decide
  rw [value, units, Int.cast_zero, zero_div]

@[simp] theorem value_one : one.value = 1 := by
  have parts := @value_eq_div_iff one (2 ^ 52) 52 1022 (by decide)
  have units : one.units = 2 ^ 52 * 2 ^ 1022 := by decide +kernel
  rw [parts.2 units]
  norm_num

theorem isFinite_of_value {x : Binary64} (number : ¬ x.IsNaN) (lower : 0 < x.value)
    (upper : x.value ≤ 1) : x.IsFinite := by
  intro top
  have fraction : x.fraction = 0 := by
    by_contra nonzero
    exact number ⟨top, nonzero⟩
  have magnitude : x.magnitude = 2 ^ 52 * 2 ^ 2046 := by
    rw [Binary64.magnitude, top, fraction, if_neg (by decide), Nat.add_zero]
  have further : 2 ^ 52 * 2 ^ 1022 < x.magnitude := by
    have powers : 2 ^ 1022 < 2 ^ 2046 := by gcongr <;> decide
    rw [magnitude]
    exact Nat.mul_lt_mul_of_pos_left powers (by decide)
  have none : zero.units = 0 := by decide
  rw [← value_zero, ← not_le, value_le_value_iff, none] at lower
  rw [← value_one, value_le_value_iff, units_one] at upper
  clear magnitude
  generalize 2 ^ 52 * 2 ^ 1022 = unit at upper further
  rw [units] at lower upper
  cases sign : x.negative with
  | false =>
      rw [sign, if_neg Bool.false_ne_true] at upper
      omega
  | true =>
      rw [sign, if_pos rfl] at lower
      omega

/-! ## Neighbouring words -/

/-- The magnitude behind a word without its sign. -/
def magnitudeOf (word : Nat) : Nat :=
  if word / 2 ^ 52 = 0 then word % 2 ^ 52
  else (2 ^ 52 + word % 2 ^ 52) * 2 ^ (word / 2 ^ 52 - 1)

theorem magnitude_eq (x : Binary64) : x.magnitude = magnitudeOf (x.toBits.toNat % 2 ^ 63) := by
  rw [magnitude, magnitudeOf, exponent_eq, fraction_eq]

theorem magnitudeOf_succ (word : Nat) :
    magnitudeOf (word + 1) = magnitudeOf word + 2 ^ (word / 2 ^ 52 - 1) := by
  rcases Nat.lt_or_ge (word % 2 ^ 52 + 1) (2 ^ 52) with within | carry
  · have exponent : (word + 1) / 2 ^ 52 = word / 2 ^ 52 := by omega
    have fraction : (word + 1) % 2 ^ 52 = word % 2 ^ 52 + 1 := by omega
    rw [magnitudeOf, magnitudeOf, exponent, fraction]
    by_cases subnormal : word / 2 ^ 52 = 0
    · rw [if_pos subnormal, if_pos subnormal, subnormal, Nat.zero_sub, pow_zero]
    · rw [if_neg subnormal, if_neg subnormal, ← Nat.add_assoc, Nat.succ_mul]
  · have exponent : (word + 1) / 2 ^ 52 = word / 2 ^ 52 + 1 := by omega
    have fraction : (word + 1) % 2 ^ 52 = 0 := by omega
    have last : word % 2 ^ 52 = 2 ^ 52 - 1 := by omega
    rw [magnitudeOf, magnitudeOf, exponent, fraction, last, if_neg (Nat.succ_ne_zero _),
      Nat.add_sub_cancel, Nat.add_zero]
    by_cases subnormal : word / 2 ^ 52 = 0
    · rw [if_pos subnormal, subnormal]
      rfl
    · obtain ⟨lower, same⟩ := Nat.exists_eq_succ_of_ne_zero subnormal
      rw [if_neg subnormal, same, Nat.succ_eq_add_one, Nat.add_sub_cancel, ← Nat.succ_mul, pow_succ]
      ring

theorem magnitudeOf_strictMono : StrictMono magnitudeOf := by
  apply strictMono_nat_of_lt_succ
  intro word
  rw [magnitudeOf_succ]
  exact Nat.lt_add_of_pos_right (Nat.two_pow_pos _)

theorem magnitudeOf_add_le {word count top : Nat} (small : word + count ≤ (top + 2) * 2 ^ 52) :
    magnitudeOf (word + count) ≤ magnitudeOf word + count * 2 ^ top := by
  induction count with
  | zero => exact Nat.le_add_right _ _
  | succ count ih =>
      have exponent : (word + count) / 2 ^ 52 - 1 ≤ top := by omega
      have step := Nat.pow_le_pow_right Nat.two_pos exponent
      rw [← Nat.add_assoc, magnitudeOf_succ, Nat.succ_mul, ← Nat.add_assoc]
      exact Nat.add_le_add (ih (by omega)) step

theorem magnitudeOf_le_of_near {left right count top : Nat} (near : right ≤ left + count)
    (small : right ≤ (top + 2) * 2 ^ 52) :
    magnitudeOf right ≤ magnitudeOf left + count * 2 ^ top := by
  rcases Nat.le_total right left with le | ge
  · exact (magnitudeOf_strictMono.monotone le).trans (Nat.le_add_right _ _)
  · obtain ⟨distance, rfl⟩ := Nat.exists_eq_add_of_le ge
    have more : distance ≤ count := by omega
    exact (magnitudeOf_add_le small).trans
      (Nat.add_le_add_left (Nat.mul_le_mul_right _ more) _)

def ulpsApart (x y : Binary64) : Nat := ((x.toBits.toNat : ℤ) - y.toBits.toNat).natAbs

theorem units_of_nonneg {x : Binary64} (nonneg : 0 ≤ x.units) : x.units = x.magnitude := by
  rw [units] at nonneg ⊢
  cases sign : x.negative with
  | false => rfl
  | true =>
      rw [sign, if_pos rfl] at nonneg
      rw [if_pos rfl]
      omega

theorem unit_interval {x : Binary64} (lower : 0 ≤ x.value) (upper : x.value ≤ 1) :
    x.units = magnitudeOf (x.toBits.toNat % 2 ^ 63) ∧ x.toBits.toNat % 2 ^ 63 ≤ 1023 * 2 ^ 52 := by
  have none : zero.units = 0 := by decide
  have top : magnitudeOf (1023 * 2 ^ 52) = 2 ^ 52 * 2 ^ 1022 := by decide +kernel
  rw [← value_zero, value_le_value_iff, none] at lower
  rw [← value_one, value_le_value_iff, units_one, ← top] at upper
  have units : x.units = magnitudeOf (x.toBits.toNat % 2 ^ 63) := by
    rw [← magnitude_eq, units_of_nonneg lower]
  refine ⟨units, ?_⟩
  rw [units, Nat.cast_le, magnitudeOf_strictMono.le_iff_le] at upper
  exact upper

/-- Within the unit interval, numbers some words apart are as many times `2^-53` apart. -/
theorem abs_sub_le_of_ulpsApart {x y : Binary64} (left : 0 ≤ x.value ∧ x.value ≤ 1)
    (right : 0 ≤ y.value ∧ y.value ≤ 1) {count : Nat} (near : ulpsApart x y ≤ count)
    (few : count < 2 ^ 62) : |x.value - y.value| ≤ count / 2 ^ 53 := by
  obtain ⟨leftUnits, leftWord⟩ := unit_interval left.1 left.2
  obtain ⟨rightUnits, rightWord⟩ := unit_interval right.1 right.2
  rw [ulpsApart] at near
  have up := @magnitudeOf_le_of_near (x.toBits.toNat % 2 ^ 63) (y.toBits.toNat % 2 ^ 63) count
    1021 (by omega) rightWord
  have down := @magnitudeOf_le_of_near (y.toBits.toNat % 2 ^ 63) (x.toBits.toNat % 2 ^ 63) count
    1021 (by omega) leftWord
  have above := @value_sub_le_iff x y count 53 1021 (by decide)
  have below := @value_sub_le_iff y x count 53 1021 (by decide)
  have unit : ((2 ^ 1021 : ℕ) : ℤ) = 2 ^ 1021 := Nat.cast_pow 2 1021
  rw [leftUnits, rightUnits, ← unit, Int.cast_natCast] at above below
  rw [abs_sub_le_iff, above, below]
  exact ⟨by exact_mod_cast down, by exact_mod_cast up⟩

/-! ## The grid of one's neighbours -/

/-- A finite float whose value is `k / 2^52`. -/
structure OnGrid (x : Binary64) (k : ℕ) : Prop where
  finite : x.IsFinite
  value : x.value = k / 2 ^ 52

theorem onGrid_iff {x : Binary64} {k : ℕ} :
    x.OnGrid k ↔ x.IsFinite ∧ x.units = (k * 2 ^ 1022 : ℕ) := by
  have parts := @value_eq_div_iff x k 52 1022 (by decide)
  rw [Nat.cast_mul, Nat.cast_pow, Nat.cast_ofNat, ← parts]
  exact ⟨fun grid => ⟨grid.finite, grid.value⟩, fun both => ⟨both.1, both.2⟩⟩

theorem onGrid_zero : zero.OnGrid 0 := onGrid_iff.2 ⟨isFinite_zero, by decide +kernel⟩

theorem onGrid_one : one.OnGrid (2 ^ 52) := onGrid_iff.2 ⟨isFinite_one, units_one⟩

theorem onGrid_machineEpsilon : machineEpsilon.OnGrid 1 :=
  onGrid_iff.2 ⟨by decide, by decide +kernel⟩

namespace OnGrid

variable {x y : Binary64} {j k : ℕ}

theorem value_mem (grid : x.OnGrid k) (most : k ≤ 2 ^ 52) : 0 ≤ x.value ∧ x.value ≤ 1 := by
  rw [grid.value]
  refine ⟨by positivity, ?_⟩
  rw [div_le_one (by positivity)]
  exact_mod_cast most

theorem units (grid : x.OnGrid k) : x.units = (k * 2 ^ 1022 : ℕ) := (onGrid_iff.1 grid).2

theorem value_le_iff (left : x.OnGrid j) (right : y.OnGrid k) : x.value ≤ y.value ↔ j ≤ k := by
  rw [left.value, right.value, div_le_div_iff_of_pos_right (by positivity), Nat.cast_le]

theorem le_iff (left : x.OnGrid j) (right : y.OnGrid k) : x ≤ y ↔ j ≤ k := by
  rw [Binary64.le_iff (not_isNaN left.finite) (not_isNaN right.finite), left.value_le_iff right]

theorem equals_iff (left : x.OnGrid j) (right : y.OnGrid k) : x.Equals y ↔ j = k := by
  rw [Binary64.equals_iff (not_isNaN left.finite) (not_isNaN right.finite), le_antisymm_iff,
    left.value_le_iff right, right.value_le_iff left, ← le_antisymm_iff]

theorem mem_unit (grid : x.OnGrid k) (most : k ≤ 2 ^ 52) : zero ≤ x ∧ x ≤ one :=
  ⟨(onGrid_zero.le_iff grid).2 (Nat.zero_le k), (grid.le_iff onGrid_one).2 most⟩

theorem add (left : x.OnGrid j) (right : y.OnGrid k) (short : j + k < 2 ^ 53) :
    (x + y).OnGrid (j + k) := by
  have sum : x.units + y.units = ((j + k) * 2 ^ 1022 : ℕ) := by
    rw [left.units, right.units, ← Nat.cast_add, Nat.add_mul]
  obtain ⟨finite, exact⟩ := add_exact left.finite right.finite (by rw [sum, Int.natAbs_natCast])
    short (by decide)
  exact onGrid_iff.2 ⟨finite, exact.trans sum⟩

theorem toBits_add (left : x.OnGrid j) (right : y.OnGrid k) {fraction : ℕ}
    (sum : j + k = 2 ^ 52 + fraction) (le : fraction ≤ 2 ^ 52) :
    (x + y).toBits.toNat = 1023 * 2 ^ 52 + fraction := by
  have units : x.units + y.units = (2 ^ 52 * 2 ^ 1022 + fraction * 2 ^ 1022 : ℕ) := by
    rw [left.units, right.units, ← Nat.cast_add, ← Nat.add_mul, sum, Nat.add_mul]
  rw [Binary64.toBits_add left.finite right.finite units (Nat.mul_le_mul_right _ le),
    roundShift_mul]

theorem sub (left : x.OnGrid j) (right : y.OnGrid k) (leftShort : j < 2 ^ 53)
    (rightShort : k < 2 ^ 53) : (x - y).IsFinite ∧ (x - y).value = x.value - y.value := by
  have difference : (x.units - y.units).natAbs = ((j : ℤ) - k).natAbs * 2 ^ 1022 := by
    rw [left.units, right.units, Nat.cast_mul, Nat.cast_mul, ← sub_mul, Int.natAbs_mul,
      Int.natAbs_natCast]
  obtain ⟨finite, exact⟩ := sub_exact left.finite right.finite difference (by omega) (by decide)
  refine ⟨finite, ?_⟩
  rw [Binary64.value, exact, Int.cast_sub, sub_div, Binary64.value, Binary64.value]

theorem sub_onGrid (left : x.OnGrid j) (right : y.OnGrid k) (short : j < 2 ^ 53) (le : k ≤ j) :
    (x - y).OnGrid (j - k) := by
  obtain ⟨finite, exact⟩ := left.sub right short (by omega)
  refine ⟨finite, ?_⟩
  rw [exact, left.value, right.value, Nat.cast_sub le, sub_div]

theorem of_word {fraction : ℕ} (word : x.toBits.toNat = 1023 * 2 ^ 52 + fraction)
    (fits : fraction < 2 ^ 52) : x.OnGrid (2 ^ 52 + fraction) := by
  have low : x.toBits.toNat % 2 ^ 63 = 1022 * 2 ^ 52 + (2 ^ 52 + fraction) := by omega
  have magnitude := magnitude_of_word low (by omega) (Or.inr (Nat.le_add_right _ _))
  have positive : x.negative = false := by
    rw [negative, BitVec.msb_eq_decide]
    exact decide_eq_false (by omega)
  refine onGrid_iff.2 ⟨?_, ?_⟩
  · rw [IsFinite, exponent_eq, low]
    omega
  · rw [Binary64.units, positive, magnitude]
    rfl

end OnGrid

end Binary64
