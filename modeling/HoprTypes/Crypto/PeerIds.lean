import HoprTypes.Crypto.Types
import HoprTypes.Lib.Protobuf
import HoprTypes.Lib.Windows

/-!
# Peer ids of offchain keys

An offchain key is turned into a peer id by prefixing its bytes, and read back by comparing the
parts of the peer id with parts of that prefix.  The prefix is the one of the identity multihash
of a protobuf-encoded Ed25519 key, so keys and such peer ids correspond one to one.
-/

set_option autoImplicit false

namespace HoprTypes.Crypto

open BigEndian HoprTypes.Primitive Protobuf Windows

/-- What the code uses of the `libp2p-identity` crate. -/
structure PeerIdCrate (PeerId : Type) where
  fromBytes : Bytes → Except String PeerId
  code : PeerId → UInt64
  digest : PeerId → Bytes

/-- Identity multihashes up to the limit for inlined keys are parsed, and peer ids are their code
and digest. -/
structure PeerIdCrate.Lawful {PeerId : Type} (crate : PeerIdCrate PeerId) : Prop where
  parses : ∀ digest : Bytes, digest.length ≤ 42 →
    ∃ peerId, crate.fromBytes (multihash 0 digest) = .ok peerId ∧
      crate.code peerId = 0 ∧ crate.digest peerId = digest
  eq_of_parts : ∀ first second, crate.code first = crate.code second →
    crate.digest first = crate.digest second → first = second

def peerIdMultihashPrefix : Bytes := [0x00, 0x24, 0x08, 0x01, 0x12, 0x20]

namespace OffchainPublicKey

variable {PeerId ε : Type} (crate : PeerIdCrate PeerId)

/-- The prefix and the bytes of the key, parsed as a peer id. -/
def toPeerId (key : OffchainPublicKey) : Outcome ε PeerId := do
  let buf : FixedBytes 38 := ⟨List.replicate 38 0, by rfl⟩
  let buf ← copyFromSlice buf 0 peerIdMultihashPrefix.length peerIdMultihashPrefix
  let buf ← copyFromSlice buf peerIdMultihashPrefix.length (38 - peerIdMultihashPrefix.length)
    key.toList
  Outcome.expect "fixed-shape identity multihash is always a valid peer id"
    (crate.fromBytes buf.toList)

def tryFrom (value : Bytes) : Except GeneralError OffchainPublicKey :=
  tryFromSlice 32 "OffchainPublicKey" value

/-- The digest is compared with the prefix behind its two bytes of multihash header. -/
def fromPeerid (peerId : PeerId) : Except GeneralError OffchainPublicKey :=
  let digest := crate.digest peerId
  if crate.code peerId ≠ (peerIdMultihashPrefix.getD 0 0).toUInt64 ∨
      digest.length ≠ peerIdMultihashPrefix.length - 2 + 32 ∨
      digest.take (peerIdMultihashPrefix.length - 2) ≠ peerIdMultihashPrefix.drop 2 then
    .error (.parseError "invalid ed25519 peer id")
  else tryFrom (digest.drop (peerIdMultihashPrefix.length - 2))

/-! ## The wire format -/

/-- The protobuf message of an Ed25519 public key: its type, which is 1, and its data. -/
def ed25519Message (data : Bytes) : Bytes := varintField 1 1 ++ bytesField 2 data

/-- The identity multihash of a protobuf-encoded Ed25519 key of 32 bytes. -/
def IsEd25519PeerId (peerId : PeerId) : Prop :=
  crate.code peerId = 0 ∧ ∃ data : Bytes, data.length = 32 ∧
    crate.digest peerId = ed25519Message data

theorem ed25519Message_eq {data : Bytes} (length : data.length = 32) :
    ed25519Message data = peerIdMultihashPrefix.drop 2 ++ data := by
  rw [ed25519Message, varintField_of_lt (by decide) (by decide),
    bytesField_of_lt (by decide) (by omega), length]
  rfl

theorem length_ed25519Message {data : Bytes} (length : data.length = 32) :
    (ed25519Message data).length = 36 := by
  rw [ed25519Message_eq length, List.length_append, length]
  rfl

theorem multihash_ed25519Message {data : Bytes} (length : data.length = 32) :
    multihash 0 (ed25519Message data) = peerIdMultihashPrefix ++ data := by
  rw [multihash_of_lt (by decide) (by rw [length_ed25519Message length]; decide),
    length_ed25519Message length, ed25519Message_eq length]
  rfl

/-! ## Both directions -/

/-- Filling the buffer cannot panic, and it holds the multihash of the key. -/
theorem toPeerId_eq (key : OffchainPublicKey) :
    (toPeerId crate key : Outcome ε PeerId) =
      Outcome.expect "fixed-shape identity multihash is always a valid peer id"
        (crate.fromBytes (multihash 0 (ed25519Message key.toList))) := by
  have empty : FilledTo (⟨List.replicate 38 0, by rfl⟩ : FixedBytes 38) [] := FilledTo.nil _
  have start : ([] : Bytes).length = 0 := rfl
  have header : ([] ++ peerIdMultihashPrefix).length = peerIdMultihashPrefix.length := rfl
  obtain ⟨withPrefix, prefixCopied, prefixFilled⟩ :=
    empty.copy (ε := ε) start (by decide : 0 + peerIdMultihashPrefix.length ≤ 38) rfl
  obtain ⟨whole, keyCopied, keyFilled⟩ :=
    prefixFilled.copy (ε := ε) header
      (by decide : _ + (38 - peerIdMultihashPrefix.length) ≤ 38) key.length_toList
  have bytes : whole.toList = peerIdMultihashPrefix ++ key.toList := by
    apply keyFilled.eq
    rw [List.length_append, List.nil_append, key.length_toList]
    rfl
  unfold toPeerId
  dsimp only
  rw [prefixCopied, ok_bind, keyCopied, ok_bind, bytes,
    multihash_ed25519Message key.length_toList]

theorem fromPeerid_eq_ok {peerId : PeerId} {key : OffchainPublicKey} :
    fromPeerid crate peerId = .ok key ↔
      crate.code peerId = 0 ∧ crate.digest peerId = ed25519Message key.toList := by
  have message := ed25519Message_eq key.length_toList
  unfold fromPeerid
  dsimp only
  constructor
  · intro read
    split at read
    · cases read
    · rename_i checked
      rw [not_or, not_or, not_not, not_not, not_not] at checked
      obtain ⟨code, _, front⟩ := checked
      refine ⟨code, ?_⟩
      have back := tryFromSlice_eq_ok.mp read
      rw [message, back, ← front, List.take_append_drop]
  · rintro ⟨code, digest⟩
    have front : (crate.digest peerId).take 4 = peerIdMultihashPrefix.drop 2 := by
      rw [digest, message]
      exact List.take_left' rfl
    have back : (crate.digest peerId).drop 4 = key.toList := by
      rw [digest, message]
      exact List.drop_left' rfl
    have length : (crate.digest peerId).length = 36 := by
      rw [digest, length_ed25519Message key.length_toList]
    rw [if_neg]
    · exact tryFromSlice_eq_ok.mpr back.symm
    · rw [not_or, not_or, not_not, not_not, not_not]
      exact ⟨code, length, front⟩

/-- Offchain keys and Ed25519 peer ids correspond one to one. -/
theorem peer_id_bijection {crate : PeerIdCrate PeerId} (lawful : crate.Lawful) :
    (∀ key, ∃ peerId, (toPeerId crate key : Outcome ε PeerId) = .ok peerId ∧
        fromPeerid crate peerId = .ok key) ∧
      (∀ peerId key, fromPeerid crate peerId = .ok key →
        (toPeerId crate key : Outcome ε PeerId) = .ok peerId) ∧
      ∀ peerId, (∃ key, fromPeerid crate peerId = .ok key) ↔ IsEd25519PeerId crate peerId := by
  have built : ∀ key : OffchainPublicKey, ∃ peerId,
      (toPeerId crate key : Outcome ε PeerId) = .ok peerId ∧ crate.code peerId = 0 ∧
        crate.digest peerId = ed25519Message key.toList := by
    intro key
    obtain ⟨peerId, parsed, code, digest⟩ := lawful.parses (ed25519Message key.toList)
      (by rw [length_ed25519Message key.length_toList]; decide)
    refine ⟨peerId, ?_, code, digest⟩
    rw [toPeerId_eq, parsed]
    rfl
  refine ⟨?_, ?_, ?_⟩
  · intro key
    obtain ⟨peerId, made, parts⟩ := built key
    exact ⟨peerId, made, (fromPeerid_eq_ok crate).mpr parts⟩
  · intro peerId key read
    obtain ⟨code, digest⟩ := (fromPeerid_eq_ok crate).mp read
    obtain ⟨again, made, againCode, againDigest⟩ := built key
    rw [made, lawful.eq_of_parts again peerId (againCode.trans code.symm)
      (againDigest.trans digest.symm)]
  · intro peerId
    constructor
    · rintro ⟨key, read⟩
      obtain ⟨code, digest⟩ := (fromPeerid_eq_ok crate).mp read
      exact ⟨code, key.toList, key.length_toList, digest⟩
    · rintro ⟨code, data, length, digest⟩
      exact ⟨⟨data, length⟩, (fromPeerid_eq_ok crate).mpr ⟨code, digest⟩⟩

/-! ## An executable crate -/

structure Multihash where
  code : UInt64
  digest : Bytes
deriving DecidableEq

/-- Inlined keys and SHA2-256 hashes, each with the right size. -/
def parseMultihash : Bytes → Except String Multihash
  | code :: size :: digest =>
      if size.toNat = digest.length ∧
          (code = 0 ∧ digest.length ≤ 42 ∨ code = 0x12 ∧ digest.length = 32) then
        .ok ⟨code.toUInt64, digest⟩
      else .error "unsupported multihash"
  | _ => .error "invalid multihash"

def multihashCrate : PeerIdCrate Multihash where
  fromBytes := parseMultihash
  code := Multihash.code
  digest := Multihash.digest

theorem multihashCrate_lawful : multihashCrate.Lawful where
  parses := by
    intro digest short
    have size : (UInt8.ofNat digest.length).toNat = digest.length := by
      rw [UInt8.toNat_ofNat']
      exact Nat.mod_eq_of_lt (by omega)
    refine ⟨⟨0, digest⟩, ?_, rfl, rfl⟩
    rw [multihash_of_lt (by decide) (by omega)]
    exact if_pos ⟨size, Or.inl ⟨rfl, short⟩⟩
  eq_of_parts := by
    intro first second sameCode sameDigest
    cases first with
    | mk code digest =>
        obtain rfl : code = second.code := sameCode
        obtain rfl : digest = second.digest := sameDigest
        rfl

theorem peer_id_bijection_multihash :
    (∀ key, ∃ peerId, (toPeerId multihashCrate key : Outcome GeneralError Multihash) =
          .ok peerId ∧ fromPeerid multihashCrate peerId = .ok key) ∧
      (∀ peerId key, fromPeerid multihashCrate peerId = .ok key →
        (toPeerId multihashCrate key : Outcome GeneralError Multihash) = .ok peerId) ∧
      ∀ peerId, (∃ key, fromPeerid multihashCrate peerId = .ok key) ↔
        IsEd25519PeerId multihashCrate peerId :=
  peer_id_bijection multihashCrate_lawful

end OffchainPublicKey

end HoprTypes.Crypto
