import HoprTypes.Internal.Path
import HoprTypes.Primitive.HexText

/-!
# The text of a node id

A node id is shown as its address or its off-chain key, and read as the one or the other by the
length of the text alone.
-/

set_option autoImplicit false

namespace HoprTypes.Internal

open BigEndian HoprTypes.Primitive HoprTypes.Crypto

namespace NodeId

variable (crate : ConstHex)

abbrev addressType : BytesRepresentable Address := FixedBytes.representable 20 "Address"

abbrev keyType : BytesRepresentable OffchainPublicKey :=
  FixedBytes.representable 32 "OffchainPublicKey"

def display : NodeId → String
  | .chain address => addressType.toHex address
  | .offchain key => keyType.toHex key

def fromStr (s : String) : Except GeneralError NodeId :=
  if utf8Len s.toList < keyType.size * 2 then do
    let address ← addressType.fromHex crate s
    .ok (.chain address)
  else do
    let key ← keyType.fromHex crate s
    .ok (.offchain key)

variable {crate}

/-- What a type of fewer than 128 bytes reads has two digits for each byte, and at most one
prefix. -/
theorem length_of_fromHex (lawful : crate.Lawful) {size : Nat} {what : String}
    (short : size < BytesRepresentable.hexDecodeStackBufSize) {s : String} {value : FixedBytes size}
    (read : (FixedBytes.representable size what).fromHex crate s = .ok value) :
    2 * size ≤ utf8Len s.toList ∧ utf8Len s.toList ≤ 2 * size + 2 := by
  have typeLawful := FixedBytes.representable_lawful size what
  rcases BytesRepresentable.shape_of_fromHex lawful typeLawful read with shape | doubled
  · obtain ⟨mark, isMark, digits, split, digitsOf⟩ := shape
    have digitsLength : utf8Len digits = 2 * size := utf8Len_hexDigits digitsOf
    have markLength : utf8Len mark ≤ 2 := by
      have all : ∀ mark ∈ [[], lowerMark, upperMark], utf8Len mark ≤ 2 := by decide
      exact all mark isMark
    rw [split, utf8Len_append]
    omega
  · exact absurd doubled.1 (Nat.not_le.mpr short)

/-- Every node id is read back from its text.  The test of the length loses and misroutes no
text: a text is read as an address exactly if it is the text of one, and as an off-chain key
exactly if it is the text of one. -/
theorem fromStr_spec (lawful : crate.Lawful) :
    (∀ id : NodeId, fromStr crate id.display = .ok id) ∧
      ∀ s : String,
        (∀ address, fromStr crate s = .ok (.chain address) ↔
          addressType.fromHex crate s = .ok address) ∧
        ∀ key, fromStr crate s = .ok (.offchain key) ↔ keyType.fromHex crate s = .ok key := by
  have reads : ∀ s : String,
      (∀ address, fromStr crate s = .ok (.chain address) ↔
        addressType.fromHex crate s = .ok address) ∧
      ∀ key, fromStr crate s = .ok (.offchain key) ↔ keyType.fromHex crate s = .ok key := by
    intro s
    have keySize : keyType.size * 2 = 64 := rfl
    unfold fromStr
    by_cases short : utf8Len s.toList < keyType.size * 2
    · rw [if_pos short]
      simp only [bind_eq_ok, Except.ok.injEq, NodeId.chain.injEq, exists_eq_right, reduceCtorEq,
        and_false, exists_false, false_iff, implies_true, true_and]
      intro key read
      have bounds := length_of_fromHex lawful (by decide) read
      omega
    · rw [if_neg short]
      simp only [bind_eq_ok, Except.ok.injEq, NodeId.offchain.injEq, exists_eq_right, reduceCtorEq,
        and_false, exists_false, false_iff, implies_true, and_true]
      intro address read
      have bounds := length_of_fromHex lawful (by decide) read
      omega
  refine ⟨fun id => ?_, reads⟩
  cases id with
  | chain address =>
      refine ((reads _).1 address).mpr ?_
      exact BytesRepresentable.fromHex_toHex lawful
        (FixedBytes.representable_lawful 20 "Address") (by decide) address
  | offchain key =>
      refine ((reads _).2 key).mpr ?_
      exact BytesRepresentable.fromHex_toHex lawful
        (FixedBytes.representable_lawful 32 "OffchainPublicKey") (by decide) key

theorem fromStr_spec_constHex :
    fromStr constHex (display (.chain Address.zero)) = .ok (.chain Address.zero) :=
  (fromStr_spec constHex_lawful).1 (.chain Address.zero)

end NodeId

end HoprTypes.Internal
