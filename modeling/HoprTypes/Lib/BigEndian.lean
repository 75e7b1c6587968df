import Mathlib

/-!
# Big-endian byte strings

Numbers as big-endian byte strings of a fixed width, the reading back of such
strings, and the canonical (shortest) form without leading zero bytes.
-/

set_option autoImplicit false

namespace BigEndian

abbrev Bytes := List UInt8

@[ext]
structure FixedBytes (size : Nat) where
  toList : Bytes
  length_toList : toList.length = size
deriving DecidableEq

attribute [simp] FixedBytes.length_toList

def ofBE (bytes : Bytes) : Nat :=
  bytes.foldl (fun value byte => value * 256 + byte.toNat) 0

/-- The low `width` bytes of a number, most significant byte first. -/
def toBE : Nat → Nat → Bytes
  | 0, _ => []
  | width + 1, value => toBE width (value / 256) ++ [UInt8.ofNat value]

/-- A number below `256 ^ width` as a byte array. -/
def beBytes (width value : Nat) : FixedBytes width :=
  ⟨toBE width value, by
    induction width generalizing value with
    | zero => rfl
    | succ width ih => simp [toBE, ih]⟩

def trimBE (bytes : Bytes) : Bytes := bytes.dropWhile (· == 0)

/-- The shortest big-endian form of a number: no leading zero byte, empty for zero. -/
def minimalBE (value : Nat) : Bytes := trimBE (toBE (value.log2 / 8 + 1) value)

/-! ## Reading and writing -/

@[simp] theorem length_toBE (width value : Nat) : (toBE width value).length = width :=
  (beBytes width value).2

@[simp] theorem toList_beBytes (width value : Nat) :
    (beBytes width value).toList = toBE width value := rfl

@[simp] theorem ofBE_nil : ofBE [] = 0 := rfl

theorem ofBE_concat (bytes : Bytes) (byte : UInt8) :
    ofBE (bytes ++ [byte]) = ofBE bytes * 256 + byte.toNat := by
  simp [ofBE, List.foldl_append]

theorem ofBE_append (front back : Bytes) :
    ofBE (front ++ back) = ofBE front * 256 ^ back.length + ofBE back := by
  induction back using List.reverseRecOn with
  | nil => simp
  | append_singleton back byte ih =>
      rw [← List.append_assoc, ofBE_concat, ofBE_concat, ih, List.length_append,
        List.length_singleton, pow_succ]
      ring

@[simp] theorem ofBE_cons (byte : UInt8) (bytes : Bytes) :
    ofBE (byte :: bytes) = byte.toNat * 256 ^ bytes.length + ofBE bytes := by
  simpa [ofBE] using ofBE_append [byte] bytes

theorem ofBE_lt (bytes : Bytes) : ofBE bytes < 256 ^ bytes.length := by
  induction bytes using List.reverseRecOn with
  | nil => simp
  | append_singleton bytes byte ih =>
      have byteBound : byte.toNat < 256 := byte.toNat_lt
      rw [ofBE_concat, List.length_append, List.length_singleton, pow_succ]
      omega

theorem ofBE_toBE (width value : Nat) : ofBE (toBE width value) = value % 256 ^ width := by
  induction width generalizing value with
  | zero => simp [toBE, Nat.mod_one]
  | succ width ih =>
      have lowByte : (UInt8.ofNat value).toNat = value % 256 := by simp
      rw [toBE, ofBE_concat, ih, lowByte, pow_succ, Nat.mul_comm (256 ^ width) 256,
        Nat.mod_mul, Nat.mul_comm (value / 256 % 256 ^ width)]
      omega

theorem ofBE_toBE_of_lt {width value : Nat} (fits : value < 256 ^ width) :
    ofBE (toBE width value) = value := by
  rw [ofBE_toBE, Nat.mod_eq_of_lt fits]

theorem toBE_ofBE (bytes : Bytes) : toBE bytes.length (ofBE bytes) = bytes := by
  induction bytes using List.reverseRecOn with
  | nil => rfl
  | append_singleton bytes byte ih =>
      have byteBound : byte.toNat < 256 := byte.toNat_lt
      have high : (ofBE bytes * 256 + byte.toNat) / 256 = ofBE bytes := by omega
      have low : UInt8.ofNat (ofBE bytes * 256 + byte.toNat) = byte := by
        apply UInt8.toNat_inj.mp
        rw [UInt8.toNat_ofNat']
        omega
      rw [List.length_append, List.length_singleton, toBE, ofBE_concat, high, low, ih]

theorem toBE_ofBE_of_length {width : Nat} {bytes : Bytes} (lengthExact : bytes.length = width) :
    toBE width (ofBE bytes) = bytes := by
  rw [← lengthExact, toBE_ofBE]

theorem ofBE_injective {left right : Bytes} (sameLength : left.length = right.length)
    (sameValue : ofBE left = ofBE right) : left = right := by
  rw [← toBE_ofBE left, ← toBE_ofBE right, sameLength, sameValue]

theorem toBE_injective {width left right : Nat} (leftFits : left < 256 ^ width)
    (rightFits : right < 256 ^ width) (same : toBE width left = toBE width right) :
    left = right := by
  rw [← ofBE_toBE_of_lt leftFits, ← ofBE_toBE_of_lt rightFits, same]

/-! ## Windows of a wider encoding -/

theorem toBE_add (high low value : Nat) :
    toBE (high + low) value = toBE high (value / 256 ^ low) ++ toBE low value := by
  induction low generalizing value with
  | zero => simp [toBE]
  | succ low ih =>
      have quotient : value / 256 / 256 ^ low = value / 256 ^ (low + 1) := by
        rw [Nat.div_div_eq_div_mul, pow_succ, Nat.mul_comm 256 (256 ^ low)]
      rw [← Nat.add_assoc, toBE, ih, quotient, toBE, List.append_assoc]

theorem drop_toBE (high low value : Nat) :
    (toBE (high + low) value).drop high = toBE low value := by
  rw [toBE_add, List.drop_left' (length_toBE high _)]

theorem toBE_zero (width : Nat) : toBE width 0 = List.replicate width 0 := by
  induction width with
  | zero => rfl
  | succ width ih =>
      rw [toBE, Nat.zero_div, ih, List.replicate_succ', show UInt8.ofNat 0 = 0 from rfl]

theorem toBE_of_lt {low value : Nat} (high : Nat) (fits : value < 256 ^ low) :
    toBE (high + low) value = List.replicate high 0 ++ toBE low value := by
  rw [toBE_add, Nat.div_eq_of_lt fits, toBE_zero]

@[simp] theorem ofBE_replicate_zero (width : Nat) : ofBE (List.replicate width 0) = 0 := by
  rw [← toBE_zero, ofBE_toBE, Nat.zero_mod]

theorem ofBE_replicate_zero_append (width : Nat) (bytes : Bytes) :
    ofBE (List.replicate width 0 ++ bytes) = ofBE bytes := by
  rw [ofBE_append, ofBE_replicate_zero, Nat.zero_mul, Nat.zero_add]

/-! ## The shortest form -/

theorem ofBE_trimBE (bytes : Bytes) : ofBE (trimBE bytes) = ofBE bytes := by
  induction bytes with
  | nil => rfl
  | cons byte rest ih =>
      by_cases zero : byte = 0
      · subst zero
        simpa [trimBE] using ih
      · simp [trimBE, zero]

theorem trimBE_head_ne_zero (bytes : Bytes) : (trimBE bytes).head? ≠ some 0 := by
  intro leading
  have := List.head?_dropWhile_not (· == 0) bytes
  simp only [trimBE] at leading
  simp [leading] at this

theorem ofBE_minimalBE (value : Nat) : ofBE (minimalBE value) = value := by
  have fits : value < 256 ^ (value.log2 / 8 + 1) := by
    calc value < 2 ^ (value.log2 + 1) := Nat.lt_log2_self
      _ ≤ 2 ^ (8 * (value.log2 / 8 + 1)) := Nat.pow_le_pow_right (by decide) (by omega)
      _ = 256 ^ (value.log2 / 8 + 1) := by rw [pow_mul]; norm_num
  rw [minimalBE, ofBE_trimBE, ofBE_toBE_of_lt fits]

/-- The shortest form never starts with a zero byte. -/
theorem minimalBE_head_ne_zero (value : Nat) : (minimalBE value).head? ≠ some 0 :=
  trimBE_head_ne_zero _

theorem pow_le_ofBE {bytes : Bytes} (nonempty : bytes ≠ []) (head : bytes.head? ≠ some 0) :
    256 ^ (bytes.length - 1) ≤ ofBE bytes := by
  cases bytes with
  | nil => exact absurd rfl nonempty
  | cons byte rest =>
      have bytePositive : 1 ≤ byte.toNat := by
        have byteNe : byte ≠ 0 := by simpa using head
        have : byte.toNat ≠ (0 : UInt8).toNat := fun e => byteNe (UInt8.toNat_inj.mp e)
        simp at this
        omega
      rw [ofBE_cons, List.length_cons, Nat.add_sub_cancel]
      calc 256 ^ rest.length = 1 * 256 ^ rest.length := (Nat.one_mul _).symm
        _ ≤ byte.toNat * 256 ^ rest.length := Nat.mul_le_mul_right _ bytePositive
        _ ≤ byte.toNat * 256 ^ rest.length + ofBE rest := Nat.le_add_right _ _

theorem length_le_of_lt {bytes : Bytes} {width : Nat} (head : bytes.head? ≠ some 0)
    (fits : ofBE bytes < 256 ^ width) : bytes.length ≤ width := by
  by_cases empty : bytes = []
  · simp [empty]
  · by_contra longer
    have lower := pow_le_ofBE empty head
    have powers : 256 ^ width ≤ 256 ^ (bytes.length - 1) :=
      Nat.pow_le_pow_right (by decide) (by omega)
    omega

theorem length_minimalBE_le {value width : Nat} (fits : value < 256 ^ width) :
    (minimalBE value).length ≤ width := by
  apply length_le_of_lt (minimalBE_head_ne_zero value)
  rw [ofBE_minimalBE]
  exact fits

theorem length_minimalBE_mono {small large : Nat} (le : small ≤ large) :
    (minimalBE small).length ≤ (minimalBE large).length := by
  apply length_minimalBE_le
  have bound := ofBE_lt (minimalBE large)
  rw [ofBE_minimalBE] at bound
  exact lt_of_le_of_lt le bound

theorem minimalBE_injective {left right : Nat} (same : minimalBE left = minimalBE right) :
    left = right := by
  rw [← ofBE_minimalBE left, same, ofBE_minimalBE]

theorem eq_of_head_ne_zero {left right : Bytes} (leftHead : left.head? ≠ some 0)
    (rightHead : right.head? ≠ some 0) (sameValue : ofBE left = ofBE right) : left = right := by
  have rightLe := length_le_of_lt rightHead (sameValue ▸ ofBE_lt left)
  have leftLe := length_le_of_lt leftHead (sameValue ▸ ofBE_lt right)
  exact ofBE_injective (by omega) sameValue

theorem trimBE_eq_minimalBE (bytes : Bytes) : trimBE bytes = minimalBE (ofBE bytes) := by
  apply eq_of_head_ne_zero (trimBE_head_ne_zero bytes) (minimalBE_head_ne_zero _)
  rw [ofBE_trimBE, ofBE_minimalBE]

/-- A byte string is the shortest form of its value exactly when it does not start with zero. -/
theorem eq_minimalBE_iff (bytes : Bytes) :
    bytes = minimalBE (ofBE bytes) ↔ bytes.head? ≠ some 0 := by
  constructor
  · intro same
    rw [same]
    exact minimalBE_head_ne_zero _
  · intro head
    apply eq_of_head_ne_zero head (minimalBE_head_ne_zero _)
    rw [ofBE_minimalBE]

end BigEndian
