import HoprTypes.Chain.ParserInverse
import HoprTypes.Crypto.OffchainSigning

/-!
# Announced key bindings

A node signs the binding of its two keys with its packet key and announces it in a transaction.
The signed message names both keys and is no other message that a packet key signs, and what
was announced is enough to check the signature.
-/

set_option autoImplicit false

namespace HoprTypes.Internal

open BigEndian HoprTypes.Primitive HoprTypes.Crypto

namespace KeyBinding

def prepareForSigning (chainKey : Address) (packetKey : OffchainPublicKey) : FixedBytes 68 :=
  ⟨utf8 "HOPR_KEY_BINDING" ++ (chainKey.toList ++ packetKey.toList), by simp; decide⟩

variable {VerifyingKey : Type} {ed25519 : Ed25519 VerifyingKey} {signer : Ed25519Signer ed25519}

def new (chainKey : Address) (packetKey : OffchainKeypair signer) : KeyBinding where
  chainKey := chainKey
  packetKey := packetKey.public
  signature :=
    OffchainSignature.signMessage (prepareForSigning chainKey packetKey.public).toList packetKey

def fromParts (ed25519 : Ed25519 VerifyingKey) (chainKey : Address)
    (packetKey : OffchainPublicKey) (signature : OffchainSignature) :
    Except CoreTypesError KeyBinding :=
  if signature.verifyMessage ed25519 (prepareForSigning chainKey packetKey).toList packetKey then
    .ok ⟨chainKey, packetKey, signature⟩
  else .error (.cryptoError .signatureVerification)

theorem prepareForSigning_injective {leftChain rightChain : Address}
    {leftPacket rightPacket : OffchainPublicKey}
    (same : prepareForSigning leftChain leftPacket = prepareForSigning rightChain rightPacket) :
    leftChain = rightChain ∧ leftPacket = rightPacket := by
  have bytes := congrArg FixedBytes.toList same
  obtain ⟨_, keys⟩ := List.append_inj bytes rfl
  obtain ⟨chain, packet⟩ := List.append_inj keys (by simp)
  exact ⟨FixedBytes.ext chain, FixedBytes.ext packet⟩

theorem prepareForSigning_ne_halfKey (chainKey : Address) (packetKey : OffchainPublicKey)
    (ackKeyShare : HalfKey) :
    (prepareForSigning chainKey packetKey).toList ≠ ackKeyShare.toList := by
  intro same
  have lengths := congrArg List.length same
  rw [FixedBytes.length_toList, FixedBytes.length_toList] at lengths
  omega

theorem fromParts_eq_ok {chainKey : Address} {packetKey : OffchainPublicKey}
    {signature : OffchainSignature} {binding : KeyBinding} :
    fromParts ed25519 chainKey packetKey signature = .ok binding ↔
      signature.verifyMessage ed25519 (prepareForSigning chainKey packetKey).toList packetKey ∧
        ⟨chainKey, packetKey, signature⟩ = binding := okIf_eq_ok

theorem fromParts_new (lawful : signer.Lawful) (chainKey : Address)
    (packetKey : OffchainKeypair signer) :
    fromParts ed25519 chainKey packetKey.public (new chainKey packetKey).signature =
      .ok (new chainKey packetKey) :=
  fromParts_eq_ok.mpr ⟨OffchainSignature.verifyMessage_signMessage lawful _ packetKey, rfl⟩

end KeyBinding

end HoprTypes.Internal

namespace HoprTypes.Chain

open BigEndian Abi HoprTypes.Primitive HoprTypes.Crypto HoprTypes.Internal

def Contracts.KeyBindAndAnnouncePayload.signature
    (payload : Contracts.KeyBindAndAnnouncePayload) : OffchainSignature :=
  ⟨payload.ed25519Sig0.toList ++ payload.ed25519Sig1.toList, by simp⟩

theorem signature_keyBindAndAnnounce {Multiaddr : Type} (crate : MultiaddrCrate Multiaddr)
    (me : Address) (announcement : AnnouncementData Multiaddr) :
    (keyBindAndAnnounce crate me announcement).signature = announcement.keyBinding.signature := by
  have front := slice_append_drop announcement.keyBinding.signature.toList 0 32
  have back := slice_append_drop announcement.keyBinding.signature.toList 32 32
  rw [List.drop_of_length_le (by simp), List.append_nil] at back
  ext1
  show slice _ 0 32 ++ slice _ 32 32 = _
  rw [back, front, List.drop_zero]

theorem keyBinding_of_new {Multiaddr : Type} {crate : MultiaddrCrate Multiaddr}
    {keyBinding : KeyBinding} {multiaddress : Option Multiaddr}
    {announcement : AnnouncementData Multiaddr}
    (built : AnnouncementData.new crate keyBinding multiaddress = .ok announcement) :
    announcement.keyBinding = keyBinding := by
  unfold AnnouncementData.new at built
  cases multiaddress with
  | none =>
      rw [← Except.ok.inj built]
  | some address =>
      dsimp only at built
      split_ifs at built
      split at built
      · rw [← Except.ok.inj built]
      · cases built

/-- The signed message determines the two keys and is never the half-key of an acknowledgement,
the other message that packet keys sign; and whatever a node announces, the transaction that both
generators make for it holds a payload from whose parts the binding is verified again. -/
theorem announced_binding_verifies {VerifyingKey : Type} {ed25519 : Ed25519 VerifyingKey}
    {signer : Ed25519Signer ed25519} (signs : signer.Lawful) {Multiaddr : Type}
    (crate : MultiaddrCrate Multiaddr) {decoding : AlloyDecoding}
    {alloy : BindingsBased.AlloyTransactions} (lawful : decoding.Lawful alloy)
    (addresses : ContractAddresses) (me : Address) (packetKey : OffchainKeypair signer) :
    (∀ chainKey otherKey, KeyBinding.prepareForSigning chainKey otherKey =
      KeyBinding.prepareForSigning me packetKey.public → chainKey = me ∧
        otherKey = packetKey.public) ∧
    (∀ ackKeyShare : HalfKey, (KeyBinding.prepareForSigning me packetKey.public).toList ≠
      ackKeyShare.toList) ∧
    ∀ (multiaddress : Option Multiaddr) (announcement : AnnouncementData Multiaddr)
      (fee : HoprBalance),
      AnnouncementData.new crate (KeyBinding.new me packetKey) multiaddress = .ok announcement →
        ∃ call data values,
          sharedMessage crate me addresses (.announce announcement fee) =
            some (.ofCall addresses.token call) ∧
          CallReader.send.abiDecode decoding call.encode =
            .ok (addresses.announcements, fee.amount, data) ∧
          decoding.abiDecode Contracts.keyBindAndAnnouncePayloadTy
            (List.replicate 31 0 ++ 32 :: data) = .ok values ∧
          let payload := Contracts.KeyBindAndAnnouncePayload.ofValues values
          KeyBinding.fromParts ed25519 payload.callerNode payload.ed25519PubKey
            payload.signature = .ok (KeyBinding.new me packetKey) := by
  refine ⟨fun _ _ same => KeyBinding.prepareForSigning_injective same,
    KeyBinding.prepareForSigning_ne_halfKey me packetKey.public, ?_⟩
  intro multiaddress announcement fee built
  have bound := keyBinding_of_new built
  have readable := readable_sendCall addresses.announcements fee.amount
    (@length_announcementData_le _ crate me announcement)
  refine ⟨_, announcementData crate me announcement, _, rfl,
    CallReader.send.abiDecode_encode lawful readable,
    abiDecode_announcementData lawful me announcement, ?_⟩
  show KeyBinding.fromParts ed25519 me announcement.keyBinding.packetKey
    (keyBindAndAnnounce crate me announcement).signature = _
  rw [signature_keyBindAndAnnounce, bound]
  exact KeyBinding.fromParts_new signs me packetKey

def bindingSignature : OffchainSignature :=
  ⟨toBE 32 0xaa0f8bf7417b6ff370ecfe9dd97682cf1f31b31137b3fcbf44c66dfc7b6baab4 ++
    toBE 32 0x400617621b4cef0e5c119725f8bb6cd3be1fd36f01e87051aada316752991504, by simp⟩

theorem announced_binding_verifies_loopback :
    let binding : KeyBinding := ⟨oneKey.address, onePacketKey, bindingSignature⟩
    ∃ call data values,
      sharedMessage loopback oneKey.address sampleAddresses (.announce ⟨some (), binding⟩ ⟨0⟩) =
        some (.ofCall sampleAddresses.token call) ∧
      CallReader.send.abiDecode (knownDecoding fullSignature oneKey.address) call.encode =
        .ok (sampleAddresses.announcements, 0, data) ∧
      (knownDecoding fullSignature oneKey.address).abiDecode
        Contracts.keyBindAndAnnouncePayloadTy (List.replicate 31 0 ++ 32 :: data) = .ok values ∧
      let payload := Contracts.KeyBindAndAnnouncePayload.ofValues values
      KeyBinding.fromParts (oneSignature onePacketKey bindingSignature) payload.callerNode
        payload.ed25519PubKey payload.signature = .ok binding :=
  (announced_binding_verifies (oneSigner_lawful onePacketKey bindingSignature) loopback
    (knownDecoding_lawful fullSignature oneKey.address) sampleAddresses oneKey.address
    (oneOffchainKeypair bindingSignature)).2.2 (some ()) _ ⟨0⟩ rfl

end HoprTypes.Chain
