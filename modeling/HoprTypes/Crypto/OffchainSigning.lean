import HoprTypes.Crypto.Signing

/-!
# Signing with the off-chain key

An off-chain key pair keeps its public key in both forms, so that a message is always signed
with the verifying key of the same secret.
-/

set_option autoImplicit false

namespace HoprTypes.Crypto

open BigEndian HoprTypes.Primitive

variable {VerifyingKey : Type}

/-- What the code uses of the Ed25519 crate to sign: the public key of a secret, and the raw
signature with a given verifying key. -/
structure Ed25519Signer (ed25519 : Ed25519 VerifyingKey) where
  fromPrivkey : FixedBytes 32 → Except CryptoError OffchainPublicKey
  rawSign : FixedBytes 32 → Bytes → VerifyingKey → OffchainSignature

variable {ed25519 : Ed25519 VerifyingKey}

/-- A secret with its public key, compact and expanded. -/
structure OffchainKeypair (signer : Ed25519Signer ed25519) where
  secret : FixedBytes 32
  compact : OffchainPublicKey
  edwards : VerifyingKey
  derived : signer.fromPrivkey secret = .ok compact
  expanded : ed25519.tryFrom compact = some edwards

namespace OffchainKeypair

variable {signer : Ed25519Signer ed25519}

def «public» (keypair : OffchainKeypair signer) : OffchainPublicKey := keypair.compact

end OffchainKeypair

variable {signer : Ed25519Signer ed25519}

def OffchainSignature.signMessage (message : Bytes) (signingKeypair : OffchainKeypair signer) :
    OffchainSignature :=
  signer.rawSign signingKeypair.secret message signingKeypair.edwards

/-- What a key pair signs is verified with its own verifying key. -/
structure Ed25519Signer.Lawful (signer : Ed25519Signer ed25519) : Prop where
  verifies : ∀ (keypair : OffchainKeypair signer) (message : Bytes),
    ed25519.verifyStrict keypair.edwards message
      (OffchainSignature.signMessage message keypair) = true

theorem OffchainSignature.verifyMessage_signMessage (lawful : signer.Lawful) (message : Bytes)
    (keypair : OffchainKeypair signer) :
    (signMessage message keypair).verifyMessage ed25519 message keypair.public = true := by
  unfold verifyMessage OffchainKeypair.public
  rw [keypair.expanded]
  exact lawful.verifies keypair message

/-! ## A key pair that signs everything alike -/

/-- An Ed25519 crate that knows one key and one signature. -/
def oneSignature (key : OffchainPublicKey) (signature : OffchainSignature) : Ed25519 Unit where
  tryFrom given := if given = key then some () else none
  verifyStrict _ _ given := decide (given = signature)
  verifyBatch _ signatures _ := signatures.all fun given => decide (given = signature)

theorem tryFrom_oneSignature (key : OffchainPublicKey) (signature : OffchainSignature) :
    (oneSignature key signature).tryFrom key = some () := if_pos rfl

def oneSigner (key : OffchainPublicKey) (signature : OffchainSignature) :
    Ed25519Signer (oneSignature key signature) where
  fromPrivkey _ := .ok key
  rawSign _ _ _ := signature

theorem oneSigner_lawful (key : OffchainPublicKey) (signature : OffchainSignature) :
    (oneSigner key signature).Lawful where
  verifies _ _ := decide_eq_true rfl

def onePacketKey : OffchainPublicKey :=
  beBytes 32 0x4cb5abf6ad79fbf5abbccafcc269d85cd2651ed4b885b5869f241aedf0a5ba29

/-- The key pair of the secret 1, where it makes the given signature. -/
def oneOffchainKeypair (signature : OffchainSignature) :
    OffchainKeypair (oneSigner onePacketKey signature) where
  secret := beBytes 32 1
  compact := onePacketKey
  edwards := ()
  derived := rfl
  expanded := tryFrom_oneSignature onePacketKey signature

end HoprTypes.Crypto
