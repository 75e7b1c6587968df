import HoprTypes.Crypto.Types
import HoprTypes.Lib.Memo

/-!
# Signatures

Recoverable ECDSA signatures with the recovery parity embedded in `S`, over any
signing engine, and Ed25519 signatures with single and batched verification.
-/

set_option autoImplicit false

namespace HoprTypes.Crypto

open BigEndian HoprTypes.Primitive

/-! ## ECDSA -/

/-- The values `R` and `S`, and the recovery id. -/
structure RawSignature where
  bytes : FixedBytes 64
  recoveryId : UInt8
deriving DecidableEq

namespace RawSignature

def r (raw : RawSignature) : FixedBytes 32 := ⟨slice raw.bytes.toList 0 32, length_slice (by simp)⟩

def s (raw : RawSignature) : FixedBytes 32 := ⟨slice raw.bytes.toList 32 32, length_slice (by simp)⟩

def isYOdd (raw : RawSignature) : Bool := raw.recoveryId.toNat % 2 = 1

end RawSignature

structure EcdsaEngine (curve : Secp256k1) where
  signHash : Hash → ChainKeypair curve → Except CryptoError RawSignature
  verifyHash : RawSignature → Hash → PublicKey → Except CryptoError Bool
  recoverFromHash : RawSignature → Hash → Except CryptoError PublicKey

/-- `R` and `S` with the recovery parity in the top bit of `S`. -/
structure ChainSignature where
  bytes : FixedBytes 64
deriving DecidableEq

namespace ChainSignature

def size : Nat := 64

def tryFrom (value : Bytes) : Except GeneralError ChainSignature :=
  (tryFromSlice 64 "Signature" value).map ChainSignature.mk

def modifyS (bytes : FixedBytes 64) (change : UInt8 → UInt8) : FixedBytes 64 :=
  ⟨bytes.toList.modify 32 change, by rw [List.length_modify, bytes.length_toList]⟩

def new (raw : RawSignature) : ChainSignature :=
  let parity := raw.recoveryId &&& (0x01 : UInt8)
  ⟨modifyS raw.bytes fun byte => (byte &&& (0x7f : UInt8)) ||| (parity <<< (7 : UInt8))⟩

def rawSignature (signature : ChainSignature) : RawSignature :=
  let topBit : UInt8 := signature.bytes.toList.getD 32 0 &&& (0x80 : UInt8)
  let parity : UInt8 := if topBit ≠ 0 then 1 else 0
  ⟨modifyS signature.bytes fun byte => byte &&& (0x7f : UInt8), parity⟩

variable {curve : Secp256k1} (engine : EcdsaEngine curve)

def signHash {ε : Type} (hash : Hash) (keypair : ChainKeypair curve) : Outcome ε ChainSignature :=
  (Outcome.expect "signing cannot fail: keypair always contains a valid secret key"
    (engine.signHash hash keypair)).map new

def verifyHash (signature : ChainSignature) (hash : Hash) (publicKey : PublicKey) :
    Except CryptoError Bool :=
  engine.verifyHash signature.rawSignature hash publicKey

/-- Recovers the signer.  Only the parity was kept, so both x-coordinate signs are tried. -/
def recoverFromHash (signature : ChainSignature) (hash : Hash) : Except CryptoError PublicKey :=
  let raw := signature.rawSignature
  match engine.recoverFromHash ⟨raw.bytes, raw.recoveryId ||| 0⟩ hash with
  | .ok publicKey => .ok publicKey
  | .error _ =>
      match engine.recoverFromHash ⟨raw.bytes, raw.recoveryId ||| 2⟩ hash with
      | .ok publicKey => .ok publicKey
      | .error _ => .error .calculationError

end ChainSignature

/-- Signing succeeds, and recovering the signature gives the key that made it. -/
structure EcdsaEngine.Recovers {curve : Secp256k1} (engine : EcdsaEngine curve) : Prop where
  signs : ∀ hash keypair, ∃ raw, engine.signHash hash keypair = .ok raw
  recovers : ∀ hash keypair raw, engine.signHash hash keypair = .ok raw →
    (ChainSignature.new raw).recoverFromHash engine hash = .ok keypair.publicKey

theorem ChainSignature.recoverFromHash_signHash {curve : Secp256k1} {engine : EcdsaEngine curve}
    (lawful : engine.Recovers) {ε : Type} (hash : Hash) (keypair : ChainKeypair curve) :
    ∃ signature, (signHash engine hash keypair : Outcome ε ChainSignature) = .ok signature ∧
      signature.recoverFromHash engine hash = .ok keypair.publicKey := by
  obtain ⟨raw, signed⟩ := lawful.signs hash keypair
  refine ⟨ChainSignature.new raw, ?_, lawful.recovers hash keypair raw signed⟩
  rw [signHash, signed]
  rfl

/-! ## Ed25519 -/

abbrev OffchainSignature := FixedBytes 64

def OffchainSignature.tryFrom (value : Bytes) : Except GeneralError OffchainSignature :=
  tryFromSlice 64 "OffchainSignature" value

/-- What the code uses of the Ed25519 crate. -/
structure Ed25519 (VerifyingKey : Type) where
  tryFrom : OffchainPublicKey → Option VerifyingKey
  verifyStrict : VerifyingKey → Bytes → OffchainSignature → Bool
  verifyBatch : List Bytes → List OffchainSignature → List VerifyingKey → Bool

namespace OffchainSignature

variable {VerifyingKey : Type} (ed25519 : Ed25519 VerifyingKey)

def verifyMessage (signature : OffchainSignature) (message : Bytes)
    (publicKey : OffchainPublicKey) : Bool :=
  match ed25519.tryFrom publicKey with
  | some verifying => ed25519.verifyStrict verifying message signature
  | none => false

def memoCapacity : Nat := 8

/-- The inputs collected so far for the batch verifier, and the memo of converted keys. -/
structure BatchInputs (VerifyingKey : Type) where
  seen : List (OffchainPublicKey × VerifyingKey)
  messages : List Bytes
  signatures : List OffchainSignature
  publicKeys : List VerifyingKey

structure BatchEntry where
  message : Bytes
  signature : OffchainSignature
  publicKey : OffchainPublicKey

def BatchInputs.push (inputs : BatchInputs VerifyingKey) (entry : BatchEntry)
    (verifying : VerifyingKey) : BatchInputs VerifyingKey :=
  { inputs with
    messages := inputs.messages ++ [entry.message]
    signatures := inputs.signatures ++ [entry.signature]
    publicKeys := inputs.publicKeys ++ [verifying] }

def BatchInputs.remember (inputs : BatchInputs VerifyingKey) (publicKey : OffchainPublicKey)
    (verifying : VerifyingKey) : BatchInputs VerifyingKey :=
  if inputs.seen.length < memoCapacity then
    { inputs with seen := inputs.seen ++ [(publicKey, verifying)] }
  else inputs

/-- One iteration of the collecting loop; `none` is its early `return false`. -/
def BatchInputs.add (inputs : BatchInputs VerifyingKey) (entry : BatchEntry) :
    Option (BatchInputs VerifyingKey) :=
  match inputs.seen.find? fun known => known.1 == entry.publicKey with
  | some known => some (inputs.push entry known.2)
  | none =>
      match ed25519.tryFrom entry.publicKey with
      | some verifying => some ((inputs.remember entry.publicKey verifying).push entry verifying)
      | none => none

def collectBatch (inputs : BatchInputs VerifyingKey) :
    List BatchEntry → Option (BatchInputs VerifyingKey)
  | [] => some inputs
  | entry :: rest =>
      match inputs.add ed25519 entry with
      | some inputs => collectBatch inputs rest
      | none => none

def verifyBatch (entries : List BatchEntry) : Bool :=
  match collectBatch ed25519 ⟨[], [], [], []⟩ entries with
  | some inputs => ed25519.verifyBatch inputs.messages inputs.signatures inputs.publicKeys
  | none => false

/-! ## The collected inputs are the entries, converted one by one -/

/-- Every remembered key is the conversion of its own bytes. -/
def BatchInputs.Remembers (inputs : BatchInputs VerifyingKey) : Prop :=
  ∀ known ∈ inputs.seen, ed25519.tryFrom known.1 = some known.2

theorem add_eq_fetch (inputs : BatchInputs VerifyingKey) (entry : BatchEntry) :
    inputs.add ed25519 entry =
      (Memo.fetch memoCapacity ed25519.tryFrom inputs.seen entry.publicKey).map
        fun (verifying, seen) => BatchInputs.push { inputs with seen := seen } entry verifying := by
  unfold BatchInputs.add Memo.fetch
  cases inputs.seen.find? fun known => known.1 == entry.publicKey with
  | some known => rfl
  | none =>
      cases ed25519.tryFrom entry.publicKey with
      | none => rfl
      | some verifying =>
          simp only [Option.map_some, BatchInputs.remember, Memo.remember]
          split
          · rfl
          · rfl

theorem collectBatch_eq_fetchAll (inputs : BatchInputs VerifyingKey) (entries : List BatchEntry) :
    collectBatch ed25519 inputs entries =
      (Memo.fetchAll memoCapacity ed25519.tryFrom inputs.seen
        (entries.map BatchEntry.publicKey)).map fun (keys, seen) =>
          ⟨seen, inputs.messages ++ entries.map BatchEntry.message,
            inputs.signatures ++ entries.map BatchEntry.signature, inputs.publicKeys ++ keys⟩ := by
  induction entries generalizing inputs with
  | nil => simp [collectBatch, Memo.fetchAll]
  | cons entry rest ih =>
      simp only [collectBatch, add_eq_fetch, List.map_cons, Memo.fetchAll]
      cases Memo.fetch memoCapacity ed25519.tryFrom inputs.seen entry.publicKey with
      | none => rfl
      | some fetched =>
          simp only [Option.map_some, Option.bind_some, ih, Option.map_map]
          congr 1
          funext result
          simp [BatchInputs.push]

theorem collectBatch_spec (entries : List BatchEntry) {inputs : BatchInputs VerifyingKey}
    (remembers : inputs.Remembers ed25519) {keys : List VerifyingKey}
    (converted : entries.mapM (fun entry => ed25519.tryFrom entry.publicKey) = some keys) :
    ∃ final, collectBatch ed25519 inputs entries = some final ∧
      final.messages = inputs.messages ++ entries.map BatchEntry.message ∧
      final.signatures = inputs.signatures ++ entries.map BatchEntry.signature ∧
      final.publicKeys = inputs.publicKeys ++ keys := by
  have fetched := Memo.fetchAll_eq_mapM remembers memoCapacity (entries.map BatchEntry.publicKey)
  rw [List.mapM_map] at fetched
  obtain ⟨⟨others, seen⟩, found, rfl⟩ :=
    Option.map_eq_some_iff.mp (fetched.trans converted)
  rw [collectBatch_eq_fetchAll, found]
  exact ⟨_, rfl, rfl, rfl, rfl⟩

/-- With convertible keys, the batch verifier is called with every entry's message, signature
and converted key, in order. -/
theorem verifyBatch_eq {entries : List BatchEntry} {keys : List VerifyingKey}
    (converted : entries.mapM (fun entry => ed25519.tryFrom entry.publicKey) = some keys) :
    verifyBatch ed25519 entries =
      ed25519.verifyBatch (entries.map BatchEntry.message) (entries.map BatchEntry.signature)
        keys := by
  have remembers : (⟨[], [], [], []⟩ : BatchInputs VerifyingKey).Remembers ed25519 :=
    Memo.computed_nil
  obtain ⟨final, collected, messages, signatures, publicKeys⟩ :=
    collectBatch_spec ed25519 entries remembers converted
  rw [verifyBatch, collected]
  simp [messages, signatures, publicKeys]

end OffchainSignature

end HoprTypes.Crypto
