import HoprTypes.Lib.BigEndian

/-!
# The order of byte strings

Byte strings are compared lexicographically.  Strings made of parts of fixed lengths compare
part by part, and big-endian numbers of one width compare as numbers.
-/

set_option autoImplicit false

namespace ByteOrder

open BigEndian

universe u

theorem compare_append {α : Type u} [Ord α] {front otherFront : List α}
    (sameLength : front.length = otherFront.length) (back otherBack : List α) :
    compare (front ++ back) (otherFront ++ otherBack) =
      (compare front otherFront).then (compare back otherBack) := by
  induction front generalizing otherFront with
  | nil =>
      obtain rfl := List.length_eq_zero_iff.mp sameLength.symm
      simp [List.compare_nil_nil]
  | cons first rest ih =>
      cases otherFront with
      | nil => simp at sameLength
      | cons otherFirst otherRest =>
          have sameRest : rest.length = otherRest.length := by simpa using sameLength
          rw [List.cons_append, List.cons_append, List.compare_cons_cons, List.compare_cons_cons,
            ih sameRest, Ordering.then_assoc]

theorem compare_mul_add {base low otherLow : Nat} (high otherHigh : Nat) (small : low < base)
    (otherSmall : otherLow < base) :
    compare (high * base + low) (otherHigh * base + otherLow) =
      (compare high otherHigh).then (compare low otherLow) := by
  rcases Nat.lt_trichotomy high otherHigh with less | rfl | greater
  · have carried : (high + 1) * base ≤ otherHigh * base := Nat.mul_le_mul_right base less
    rw [Nat.compare_eq_lt.mpr less, Nat.compare_eq_lt.mpr (by rw [Nat.succ_mul] at carried; omega)]
    rfl
  · rw [Nat.compare_eq_eq.mpr rfl, Ordering.then]
    rcases Nat.lt_trichotomy low otherLow with less | rfl | greater
    · rw [Nat.compare_eq_lt.mpr less, Nat.compare_eq_lt.mpr (by omega)]
    · rw [Nat.compare_eq_eq.mpr rfl, Nat.compare_eq_eq.mpr rfl]
    · rw [Nat.compare_eq_gt.mpr greater, Nat.compare_eq_gt.mpr (by omega)]
  · have carried : (otherHigh + 1) * base ≤ high * base := Nat.mul_le_mul_right base greater
    rw [Nat.compare_eq_gt.mpr greater,
      Nat.compare_eq_gt.mpr (by rw [Nat.succ_mul] at carried; omega)]
    rfl

/-- Numbers given by their digits, the lowest first, are compared from the highest digit down. -/
theorem compare_reverse_eq_compare_ofDigits {base : Nat} {left right : List Nat}
    (sameLength : left.length = right.length) (leftDigits : ∀ digit ∈ left, digit < base)
    (rightDigits : ∀ digit ∈ right, digit < base) :
    compare left.reverse right.reverse =
      compare (Nat.ofDigits base left) (Nat.ofDigits base right) := by
  induction left generalizing right with
  | nil =>
      obtain rfl := List.length_eq_zero_iff.mp sameLength.symm
      simp
  | cons low high ih =>
      cases right with
      | nil => simp at sameLength
      | cons otherLow otherHigh =>
          have sameRest : high.length = otherHigh.length := by simpa using sameLength
          have small := leftDigits low List.mem_cons_self
          have otherSmall := rightDigits otherLow List.mem_cons_self
          have rest := ih sameRest (fun digit member => leftDigits digit (.tail low member))
            (fun digit member => rightDigits digit (.tail otherLow member))
          rw [List.reverse_cons, List.reverse_cons, compare_append (by simpa using sameRest), rest,
            Nat.ofDigits_cons, Nat.ofDigits_cons, Nat.add_comm low, Nat.add_comm otherLow,
            Nat.mul_comm base, Nat.mul_comm base, compare_mul_add _ _ small otherSmall]
          simp [List.compare_cons_cons]

theorem compare_eq_compare_ofBE {left right : Bytes} (sameLength : left.length = right.length) :
    compare left right = compare (ofBE left) (ofBE right) := by
  induction left generalizing right with
  | nil =>
      obtain rfl := List.length_eq_zero_iff.mp sameLength.symm
      simp
  | cons byte bytes ih =>
      cases right with
      | nil => simp at sameLength
      | cons otherByte otherBytes =>
          have sameRest : bytes.length = otherBytes.length := by simpa using sameLength
          have small := ofBE_lt bytes
          have otherSmall := ofBE_lt otherBytes
          rw [sameRest] at small
          rw [List.compare_cons_cons, ih sameRest, UInt8.compare_eq_toNat_compare_toNat, ofBE_cons,
            ofBE_cons, sameRest, compare_mul_add _ _ small otherSmall]

theorem compare_toBE {width left right : Nat} (leftFits : left < 256 ^ width)
    (rightFits : right < 256 ^ width) :
    compare (toBE width left) (toBE width right) = compare left right := by
  rw [compare_eq_compare_ofBE (by simp), ofBE_toBE_of_lt leftFits, ofBE_toBE_of_lt rightFits]

end ByteOrder
