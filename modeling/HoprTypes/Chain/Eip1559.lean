import HoprTypes.Chain.Payload
import HoprTypes.Lib.Rlp

/-!
# EIP-1559 transactions

The fields of a transaction with a dynamic fee, the hash that its sender signs and
its canonical signed form in the typed envelope of EIP-2718.
-/

set_option autoImplicit false

namespace HoprTypes.Chain

open BigEndian Keccak HoprTypes.Primitive HoprTypes.Crypto Rlp

/-- The fields of a transaction, but for the access list, which is empty. -/
structure TxEip1559 where
  chainId : U64
  nonce : U64
  maxPriorityFeePerGas : BitVec 128
  maxFeePerGas : BitVec 128
  gasLimit : U64
  toAddress : Option Address
  value : U256
  input : Bytes
deriving DecidableEq

def typedEnvelope (fields : List Item) : Bytes := 0x02 :: encode (.list fields)

/-- A recipient is a string of 20 bytes, and the lack of one an empty string. -/
def recipientField (toAddress : Option Address) : Item :=
  .string (match toAddress with
    | some address => address.toList
    | none => [])

namespace TxEip1559

def fields (tx : TxEip1559) : List Item :=
  [.uint tx.chainId.toNat, .uint tx.nonce.toNat, .uint tx.maxPriorityFeePerGas.toNat,
    .uint tx.maxFeePerGas.toNat, .uint tx.gasLimit.toNat, recipientField tx.toAddress,
    .uint tx.value.toNat, .string tx.input, .list []]

def signingHash (tx : TxEip1559) : Hash := keccak256 (typedEnvelope tx.fields)

/-- The signed transaction: all integers, those of the signature included, are minimal. -/
def encoded2718 (tx : TxEip1559) (y r s : Nat) : Bytes :=
  typedEnvelope (tx.fields ++ [.uint y, .uint r, .uint s])

end TxEip1559

theorem typedEnvelope_inj {left right : List Item} :
    typedEnvelope left = typedEnvelope right ↔ encodeAll left = encodeAll right := by
  constructor
  · intro same
    exact encodeList_injective (List.cons.inj same).2
  · intro same
    rw [typedEnvelope, typedEnvelope, encode, encode, same]

theorem typedEnvelope_signature_inj (fields : List Item) {y r s y' r' s' : Bytes}
    (short : ∀ data ∈ [y, r, s, y', r', s'], data.length < 2 ^ 64) :
    typedEnvelope (fields ++ [.string y, .string r, .string s]) =
        typedEnvelope (fields ++ [.string y', .string r', .string s']) ↔
      y = y' ∧ r = r' ∧ s = s' := by
  constructor
  · intro same
    rw [typedEnvelope_inj, encodeAll_append, encodeAll_append] at same
    have tails := List.append_cancel_left same
    simp only [encodeAll, encode] at tails
    obtain ⟨first, tails⟩ := encodeString_append_inj (short y (by simp)) (short y' (by simp)) tails
    obtain ⟨second, tails⟩ := encodeString_append_inj (short r (by simp)) (short r' (by simp))
      tails
    obtain ⟨third, _⟩ := encodeString_append_inj (short s (by simp)) (short s' (by simp)) tails
    exact ⟨first, second, third⟩
  · rintro ⟨rfl, rfl, rfl⟩
    rfl

/-! ## Length -/

theorem length_minimalBE_toNat {bits : Nat} (narrow : bits ≤ 256) (value : BitVec bits) :
    (minimalBE value.toNat).length ≤ 32 := by
  apply length_minimalBE_le
  calc value.toNat < 2 ^ bits := value.isLt
    _ ≤ 2 ^ 256 := Nat.pow_le_pow_right (by norm_num) narrow
    _ = 256 ^ 32 := by norm_num

def TxEip1559.signedFields (tx : TxEip1559) (isYOdd : Bool) (r s : U256) : List Item :=
  tx.fields ++ [.uint isYOdd.toNat, .uint r.toNat, .uint s.toNat]

theorem TxEip1559.sum_content_le (tx : TxEip1559) (isYOdd : Bool) (r s : U256) :
    ((tx.signedFields isYOdd r s).map fun item => item.front.2.length + 9).sum ≤
      tx.input.length + 512 := by
  have chainId := length_minimalBE_toNat (show 64 ≤ 256 by norm_num) tx.chainId
  have nonce := length_minimalBE_toNat (show 64 ≤ 256 by norm_num) tx.nonce
  have priorityFee := length_minimalBE_toNat (show 128 ≤ 256 by norm_num) tx.maxPriorityFeePerGas
  have fee := length_minimalBE_toNat (show 128 ≤ 256 by norm_num) tx.maxFeePerGas
  have gas := length_minimalBE_toNat (show 64 ≤ 256 by norm_num) tx.gasLimit
  have value := length_minimalBE_toNat (le_refl 256) tx.value
  have rSize := length_minimalBE_toNat (le_refl 256) r
  have sSize := length_minimalBE_toNat (le_refl 256) s
  have parity : (minimalBE isYOdd.toNat).length ≤ 32 :=
    length_minimalBE_le (lt_of_le_of_lt (Bool.toNat_le _) (by norm_num))
  have recipient : (recipientField tx.toAddress).front.2.length ≤ 20 := by
    cases sent : tx.toAddress with
    | none => exact Nat.zero_le _
    | some address =>
        show address.toList.length ≤ 20
        rw [address.length_toList]
  have integer : ∀ number, (Item.uint number).front.2 = minimalBE number := fun _ => rfl
  have input : (Item.string tx.input).front.2.length = tx.input.length := rfl
  have accessList : (Item.list []).front.2.length = 0 := rfl
  simp only [signedFields, fields, List.cons_append, List.nil_append, List.map_cons, List.map_nil,
    List.sum_cons, List.sum_nil, integer, input, accessList]
  clear integer input accessList
  linarith

theorem TxEip1559.content_lt {tx : TxEip1559} (short : tx.input.length < 2 ^ 63 + 2048)
    (isYOdd : Bool) (r s : U256) :
    ∀ item ∈ tx.signedFields isYOdd r s, item.front.2.length < 2 ^ 64 := by
  intro item member
  have total := tx.sum_content_le isYOdd r s
  have part := List.single_le_sum (fun _ _ => Nat.zero_le _) _
    (List.mem_map_of_mem (f := fun item : Item => item.front.2.length + 9) member)
  omega

theorem TxEip1559.length_encoded2718_lt {tx : TxEip1559}
    (short : tx.input.length < 2 ^ 63 + 2048) (isYOdd : Bool) (r s : U256) :
    (tx.encoded2718 isYOdd.toNat r.toNat s.toNat).length < 2 ^ 64 := by
  have total := tx.sum_content_le isYOdd r s
  have payload := length_encodeAll_le (TxEip1559.content_lt short isYOdd r s)
  have list := @length_encodeList_le (encodeAll (tx.signedFields isYOdd r s)) (by omega)
  have envelope : tx.encoded2718 isYOdd.toNat r.toNat s.toNat =
      0x02 :: encodeList (encodeAll (tx.signedFields isYOdd r s)) := by
    rw [encoded2718, typedEnvelope, encode]
    rfl
  rw [envelope, List.length_cons]
  omega

end HoprTypes.Chain
