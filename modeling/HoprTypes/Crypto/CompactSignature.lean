import HoprTypes.Crypto.Instance

/-!
# The compact signature keeps what it needs

The recovery parity takes the place of the top bit of `S`.  A signature whose `S` leaves that
bit clear is read back with the parity of its recovery id, and every 64 bytes are the compact
form of what they are read as.
-/

set_option autoImplicit false

namespace HoprTypes.Crypto

open BigEndian HoprTypes.Primitive

/-! ## The top bit of a byte -/

theorem forall_uint8 {p : UInt8 → Prop} (every : ∀ value : Fin 256, p (UInt8.ofFin value))
    (byte : UInt8) : p byte :=
  every byte.toFin

def topBit (byte : UInt8) : UInt8 := if byte &&& (0x80 : UInt8) ≠ 0 then 1 else 0

def withTopBit (byte flag : UInt8) : UInt8 := (byte &&& (0x7f : UInt8)) ||| (flag <<< (7 : UInt8))

theorem withTopBit_topBit (byte : UInt8) :
    withTopBit (byte &&& (0x7f : UInt8)) (topBit byte &&& (0x01 : UInt8)) = byte := by
  revert byte
  apply forall_uint8
  decide +kernel

theorem top_clear_iff (byte : UInt8) : byte &&& (0x80 : UInt8) = 0 ↔ byte.toNat < 128 := by
  revert byte
  apply forall_uint8
  decide +kernel

theorem mask_of_top_clear {byte : UInt8} (clear : byte &&& (0x80 : UInt8) = 0) :
    byte &&& (0x7f : UInt8) = byte := by
  revert clear
  revert byte
  apply forall_uint8
  decide +kernel

theorem withTopBit_parts (byte flag : UInt8) (bit : flag = 0 ∨ flag = 1) :
    withTopBit byte flag &&& (0x7f : UInt8) = byte &&& (0x7f : UInt8) ∧
      topBit (withTopBit byte flag) = flag := by
  rcases bit with rfl | rfl
  · revert byte
    apply forall_uint8
    decide +kernel
  · revert byte
    apply forall_uint8
    decide +kernel

theorem parity_eq (recoveryId : UInt8) :
    recoveryId &&& (0x01 : UInt8) = recoveryId % 2 ∧
      (recoveryId &&& (0x01 : UInt8) = 0 ∨ recoveryId &&& (0x01 : UInt8) = 1) := by
  revert recoveryId
  apply forall_uint8
  decide +kernel

/-! ## The byte that carries the parity -/

namespace ChainSignature

def carrier (bytes : FixedBytes 64) : UInt8 := bytes.toList.getD 32 0

theorem carrier_modifyS (bytes : FixedBytes 64) (change : UInt8 → UInt8) :
    carrier (modifyS bytes change) = change (carrier bytes) := by
  simp [carrier, modifyS]

theorem modifyS_modifyS (bytes : FixedBytes 64) (first second : UInt8 → UInt8) :
    modifyS (modifyS bytes first) second = modifyS bytes (second ∘ first) := by
  ext1
  exact List.modify_modify_eq first second 32 bytes.toList

theorem modifyS_of_carrier {bytes : FixedBytes 64} {change : UInt8 → UInt8}
    (kept : change (carrier bytes) = carrier bytes) : modifyS bytes change = bytes := by
  ext1
  apply List.ext_getElem?
  intro index
  have inside : 32 < bytes.toList.length := by simp
  simp only [modifyS, List.getElem?_modify]
  by_cases here : 32 = index
  · subst here
    have kept : change bytes.toList[32] = bytes.toList[32] := by
      simpa [carrier, inside] using kept
    simp [kept]
  · simp [here]

theorem rawSignature_eq (bytes : FixedBytes 64) :
    rawSignature ⟨bytes⟩ =
      ⟨modifyS bytes fun byte => byte &&& (0x7f : UInt8), topBit (carrier bytes)⟩ := rfl

theorem new_eq (raw : RawSignature) :
    new raw = ⟨modifyS raw.bytes fun byte => withTopBit byte (raw.recoveryId &&& (0x01 : UInt8))⟩ :=
  rfl

theorem new_rawSignature (bytes : FixedBytes 64) : new (rawSignature ⟨bytes⟩) = ⟨bytes⟩ := by
  rw [rawSignature_eq, new_eq, modifyS_modifyS]
  congr 1
  apply modifyS_of_carrier
  exact withTopBit_topBit (carrier bytes)

end ChainSignature

def RawSignature.TopBitClear (raw : RawSignature) : Prop := ofBE raw.s.toList < 2 ^ 255

/-- A number of 32 bytes is below `2 ^ 255` when the top bit of its first byte is clear. -/
theorem RawSignature.topBitClear_iff (raw : RawSignature) :
    raw.TopBitClear ↔ ChainSignature.carrier raw.bytes &&& (0x80 : UInt8) = 0 := by
  have inside : 32 < raw.bytes.toList.length := by simp
  have split : raw.s.toList = ChainSignature.carrier raw.bytes :: slice raw.bytes.toList 33 31 := by
    simp only [RawSignature.s, slice, ChainSignature.carrier]
    rw [List.drop_eq_getElem_cons inside, List.take_succ_cons, List.getD_eq_getElem _ _ inside]
  have rest : (slice raw.bytes.toList 33 31).length = 31 := length_slice (by simp)
  have low := ofBE_lt (slice raw.bytes.toList 33 31)
  rw [rest] at low
  rw [TopBitClear, split, ofBE_cons, rest, top_clear_iff]
  constructor
  · intro below
    omega
  · intro below
    omega

namespace ChainSignature

theorem rawSignature_new {raw : RawSignature} (clear : raw.TopBitClear) :
    rawSignature (new raw) = ⟨raw.bytes, raw.recoveryId % 2⟩ := by
  have parity := parity_eq raw.recoveryId
  have parts := fun byte => withTopBit_parts byte _ parity.2
  rw [new_eq, rawSignature_eq, modifyS_modifyS, carrier_modifyS, (parts _).2, parity.1]
  congr 1
  apply modifyS_of_carrier
  rw [Function.comp_apply, ← parity.1, (parts _).1]
  exact mask_of_top_clear ((RawSignature.topBitClear_iff raw).mp clear)

end ChainSignature

/-! ## Recovering the signer -/

/-- Signing succeeds with `S` in the lower half of the group order and a recovery id 0 or 1,
and the engine recovers the signer from what it signed. -/
structure EcdsaEngine.LowS {curve : Secp256k1} (engine : EcdsaEngine curve) : Prop where
  signs : ∀ hash keypair, ∃ raw, engine.signHash hash keypair = .ok raw
  low : ∀ hash keypair raw, engine.signHash hash keypair = .ok raw →
    ofBE raw.s.toList ≤ order / 2
  recoveryId : ∀ hash keypair raw, engine.signHash hash keypair = .ok raw →
    raw.recoveryId = 0 ∨ raw.recoveryId = 1
  inverts : ∀ hash keypair raw, engine.signHash hash keypair = .ok raw →
    engine.recoverFromHash raw hash = .ok keypair.publicKey

theorem half_order_lt : order / 2 < 2 ^ 255 := by norm_num [order]

theorem EcdsaEngine.LowS.recovers {curve : Secp256k1} {engine : EcdsaEngine curve}
    (lowS : engine.LowS) : engine.Recovers where
  signs := lowS.signs
  recovers := by
    intro hash keypair raw signed
    have clear : raw.TopBitClear := Nat.lt_of_le_of_lt (lowS.low hash keypair raw signed)
      half_order_lt
    have same : raw.recoveryId % 2 ||| 0 = raw.recoveryId := by
      rcases lowS.recoveryId hash keypair raw signed with zero | one
      · rw [zero]
        rfl
      · rw [one]
        rfl
    unfold ChainSignature.recoverFromHash
    rw [ChainSignature.rawSignature_new clear]
    simp only [same]
    rw [lowS.inverts hash keypair raw signed]

/-- The compact form loses nothing it needs: every 64 bytes are rebuilt from what they are read
as, a signature with a clear top bit of `S` keeps its bytes and the parity of its recovery id,
and so a low-`S` engine recovers the signer of every hash. -/
theorem compact_signature_lossless :
    (∀ bytes : FixedBytes 64, ChainSignature.new (ChainSignature.rawSignature ⟨bytes⟩) = ⟨bytes⟩) ∧
      (∀ raw : RawSignature, raw.TopBitClear →
        ChainSignature.rawSignature (ChainSignature.new raw) =
          ⟨raw.bytes, raw.recoveryId % 2⟩) ∧
      ∀ {curve : Secp256k1} (engine : EcdsaEngine curve), engine.LowS →
        ∀ {ε : Type} (hash : Hash) (keypair : ChainKeypair curve),
          ∃ signature, (ChainSignature.signHash engine hash keypair :
              Outcome ε ChainSignature) = .ok signature ∧
            signature.recoverFromHash engine hash = .ok keypair.publicKey := by
  refine ⟨ChainSignature.new_rawSignature, ?_, ?_⟩
  · intro raw clear
    exact ChainSignature.rawSignature_new clear
  · intro curve engine lowS ε hash keypair
    exact ChainSignature.recoverFromHash_signHash lowS.recovers hash keypair

def zeroHashSignature : RawSignature where
  bytes := ⟨toBE 32 0xa0b37f8fba683cc68f6574cd43b39f0343a50008bf6ccea9d13231d9e7e2e1e4 ++
    toBE 32 0x11edc8d307254296264aebfc3dc76cd8b668373a072fd64665b50000e9fcce52, by simp⟩
  recoveryId := 1

theorem zeroHashSignature_lowS : (fixedEngine zeroHashSignature oneKey).LowS where
  signs _ _ := ⟨zeroHashSignature, rfl⟩
  low := by
    intro hash keypair raw signed
    cases signed
    decide +kernel
  recoveryId := by
    intro hash keypair raw signed
    cases signed
    exact Or.inr rfl
  inverts := by
    intro hash keypair raw _
    rw [fromPrivkey_oneKeyCurve keypair.derived]
    rfl

theorem compact_signature_lossless_zero_hash :
    ChainSignature.rawSignature (ChainSignature.new zeroHashSignature) = zeroHashSignature ∧
      ∃ signature, (ChainSignature.signHash (fixedEngine zeroHashSignature oneKey) Hash.default
          oneKeyPair : Outcome CryptoError ChainSignature) = .ok signature ∧
        signature.recoverFromHash (fixedEngine zeroHashSignature oneKey) Hash.default =
          .ok oneKey :=
  ⟨compact_signature_lossless.2.1 zeroHashSignature (by
      rw [RawSignature.TopBitClear]
      decide +kernel),
    compact_signature_lossless.2.2 (fixedEngine zeroHashSignature oneKey) zeroHashSignature_lowS
      Hash.default oneKeyPair⟩

end HoprTypes.Crypto
