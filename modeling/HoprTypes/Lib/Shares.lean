import HoprTypes.Lib.BigEndian
import Mathlib.Data.Set.Card

/-!
# Shares of all byte strings

How many byte strings of one length are below a number, read as big-endian numbers, and how
many start with bytes below a number.
-/

set_option autoImplicit false

namespace BigEndian

theorem beBytes_injOn (size : Nat) :
    Set.InjOn (beBytes size) {value | value < 256 ^ size} := by
  intro left leftFits right rightFits same
  exact toBE_injective leftFits rightFits (congrArg FixedBytes.toList same)

theorem below_eq_image {size bound : Nat} (fits : bound ≤ 256 ^ size) :
    {bytes : FixedBytes size | ofBE bytes.toList < bound} =
      beBytes size '' (Finset.range bound : Set Nat) := by
  ext bytes
  simp only [Set.mem_ofPred_eq, Set.mem_image, Finset.coe_range, Set.mem_Iio]
  constructor
  · intro below
    refine ⟨ofBE bytes.toList, below, ?_⟩
    ext1
    rw [toList_beBytes]
    exact toBE_ofBE_of_length bytes.length_toList
  · intro image
    obtain ⟨value, below, rfl⟩ := image
    rw [toList_beBytes, ofBE_toBE_of_lt (by omega)]
    exact below

theorem ncard_below {size bound : Nat} (fits : bound ≤ 256 ^ size) :
    {bytes : FixedBytes size | ofBE bytes.toList < bound}.ncard = bound := by
  rw [below_eq_image fits, Set.InjOn.ncard_image, Set.ncard_coe_finset, Finset.card_range]
  intro left leftBelow right rightBelow
  rw [Finset.coe_range, Set.mem_Iio] at leftBelow rightBelow
  exact beBytes_injOn size (show left < _ by omega) (show right < _ by omega)

theorem ofBE_take {front back : Nat} (bytes : FixedBytes (front + back)) :
    ofBE (bytes.toList.take front) = ofBE bytes.toList / 256 ^ back := by
  have whole := ofBE_append (bytes.toList.take front) (bytes.toList.drop front)
  have restLength : (bytes.toList.drop front).length = back := by
    rw [List.length_drop, bytes.length_toList]
    omega
  have rest := ofBE_lt (bytes.toList.drop front)
  rw [List.take_append_drop, restLength] at whole
  rw [restLength] at rest
  rw [whole, Nat.mul_comm, Nat.mul_add_div (by positivity), Nat.div_eq_of_lt rest, Nat.add_zero]

theorem ncard_take_le {front back limit : Nat} (fits : limit < 256 ^ front) :
    {bytes : FixedBytes (front + back) | ofBE (bytes.toList.take front) ≤ limit}.ncard =
      (limit + 1) * 256 ^ back := by
  have same : {bytes : FixedBytes (front + back) | ofBE (bytes.toList.take front) ≤ limit} =
      {bytes | ofBE bytes.toList < (limit + 1) * 256 ^ back} := by
    ext bytes
    rw [Set.mem_ofPred_eq, Set.mem_ofPred_eq, ofBE_take, ← Nat.lt_succ_iff,
      Nat.div_lt_iff_lt_mul (by positivity)]
  rw [same, ncard_below]
  rw [Nat.pow_add]
  exact Nat.mul_le_mul_right _ fits

end BigEndian
