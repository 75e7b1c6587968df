import HoprTypes.Crypto.Curve
import HoprTypes.Lib.Keccak

/-!
# Hashes, keys and the Proof-of-Relay values

The chain public key carries its point, its compressed encoding and its address;
responses and half-keys are 32-byte strings that need not be valid scalars.
-/

set_option autoImplicit false

namespace HoprTypes.Crypto

open BigEndian Keccak HoprTypes.Primitive

inductive CryptoError where
  | invalidParameterSize (name : String) (expected : Nat)
  | invalidInputValue (what : String)
  | invalidSecretScalar
  | invalidPublicKey
  | calculationError
  | signatureVerification
  | invalidChallenge
  | other (cause : GeneralError)
deriving DecidableEq, Repr

def CryptoError.display : CryptoError → String
  | .invalidParameterSize name expected =>
      "cryptographic parameter '" ++ name ++ "' must be " ++ expected.repr ++ " bytes long"
  | .invalidInputValue what => "input to the function '" ++ what ++ "' has invalid value or size"
  | .invalidSecretScalar => "secret scalar results in an invalid EC point"
  | .invalidPublicKey => "ec point represents an invalid public key"
  | .calculationError => "failed to perform cryptographic calculation"
  | .signatureVerification => "signature verification failed"
  | .invalidChallenge => "ethereum challenge on the ticket is invalid"
  | .other cause => "lower-level error: " ++ cause.display

/-! ## Hashes -/

abbrev Hash := FixedBytes 32

namespace Hash

def size : Nat := 32

def create (inputs : List Bytes) : Hash := keccak256 inputs.flatten

def default : Hash := ⟨List.replicate 32 0, by decide⟩

end Hash

/-- The Ethereum address of a curve point: the hash of its coordinates, without the first
12 bytes. -/
def affinePointToAddress (point : NonIdentity) : Address :=
  ⟨(Hash.create [(point.val.toSec1Point false).drop 1]).toList.drop 12, by simp⟩

def affinePointFromBytes (curve : Secp256k1) (bytes : Bytes) : Except CryptoError AffinePoint :=
  okOr (.invalidInputValue "affine_point_from_bytes") (curve.fromSec1Bytes bytes)

/-! ## Public keys and key pairs -/

structure PublicKey where
  point : NonIdentity
  compressed : FixedBytes 33
  address : Address
deriving DecidableEq

namespace PublicKey

def sizeCompressed : Nat := 33

def ofPoint (point : NonIdentity) : PublicKey where
  point := point
  compressed := ⟨point.val.toSec1Point true, (AffinePoint.toSec1Point_of_ne point.property).1⟩
  address := affinePointToAddress point

/-- Computes the public key of a private key, given as the encoding of a non-zero scalar. -/
def fromPrivkey (curve : Secp256k1) (privateKey : Bytes) : Except CryptoError PublicKey :=
  if curve.rustEcdsa then do
    let secretScalar ← okOr (.other (.parseError "PublicKey")) (NonZeroScalar.tryFrom privateKey)
    .ok (ofPoint (curve.fromSecretScalar secretScalar))
  else do
    let privateKey ← (tryFromSlice 32 "private_key.len" privateKey).mapErr CryptoError.other
    let secret ← okOr (.other (.parseError "private_key")) (NonZeroScalar.tryFrom privateKey.toList)
    let point ← affinePointFromBytes curve ((curve.fromSecretScalar secret).val.toSec1Point false)
    let finite ← okOr .invalidPublicKey (NonIdentity.new point)
    .ok (ofPoint finite)

def toAddress (key : PublicKey) : Address := key.address

end PublicKey

/-- A secp256k1 key pair.  Every constructor derives the public key from the secret. -/
structure ChainKeypair (curve : Secp256k1) where
  secret : FixedBytes 32
  publicKey : PublicKey
  derived : PublicKey.fromPrivkey curve secret.toList = .ok publicKey

namespace ChainKeypair

variable {curve : Secp256k1}

def fromSecret (curve : Secp256k1) (bytes : FixedBytes 32) :
    Except CryptoError (ChainKeypair curve) :=
  match derived : PublicKey.fromPrivkey curve bytes.toList with
  | .ok publicKey => .ok ⟨bytes, publicKey, derived⟩
  | .error cause => .error cause

theorem fromSecret_secret (keypair : ChainKeypair curve) :
    fromSecret curve keypair.secret = .ok keypair := by
  obtain ⟨secret, publicKey, derived⟩ := keypair
  unfold fromSecret
  split
  · rename_i found foundDerived
    obtain rfl := Except.ok.inj (derived.symm.trans foundDerived)
    rfl
  · rename_i cause failed
    rw [derived] at failed
    cases failed

theorem secret_of_fromSecret {bytes : FixedBytes 32} {keypair : ChainKeypair curve}
    (built : fromSecret curve bytes = .ok keypair) : keypair.secret = bytes := by
  unfold fromSecret at built
  split at built
  · obtain rfl := Except.ok.inj built
    rfl
  · cases built

def address (keypair : ChainKeypair curve) : Address := keypair.publicKey.toAddress

/-- The secret as a scalar.  The conversion panics on an invalid scalar. -/
def scalar {ε : Type} (keypair : ChainKeypair curve) : Outcome ε Scalar :=
  Outcome.expect "chain keypair must always have valid scalar"
    (okOr (CryptoError.invalidInputValue "bytes") (Scalar.fromRepr keypair.secret.toList))

end ChainKeypair

/-- An Ed25519 public key in its compact form; the bytes need not be a curve point. -/
abbrev OffchainPublicKey := FixedBytes 32

/-! ## Proof of Relay -/

/-- A half-key: 32 bytes that need not be a valid scalar. -/
abbrev HalfKey := FixedBytes 32

namespace HalfKey

def size : Nat := 32

def tryFrom (value : Bytes) : Except GeneralError HalfKey := tryFromSlice 32 "HalfKey" value

end HalfKey

structure Challenge where
  point : NonIdentity
deriving DecidableEq

def Challenge.toEthereumChallenge (challenge : Challenge) : EthereumChallenge :=
  ⟨affinePointToAddress challenge.point⟩

structure Response where
  bytes : FixedBytes 32
deriving DecidableEq

namespace Response

variable (curve : Secp256k1)

def toChallenge (response : Response) : Except CryptoError Challenge :=
  (PublicKey.fromPrivkey curve response.bytes.toList).map fun key => ⟨key.point⟩

/-- Adds the scalars of two half-keys, which both must be non-zero. -/
def fromHalfKeys (first second : HalfKey) : Except CryptoError Response := do
  let first ← okOr (.invalidInputValue "first") (NonZeroScalar.tryFrom first.toList)
  let second ← okOr (.invalidInputValue "second") (NonZeroScalar.tryFrom second.toList)
  let sum := first.val + second.val
  if sum = 0 then .error (.invalidInputValue "invalid half-key")
  else .ok ⟨Scalar.toBytes sum⟩

end Response

/-! ## Key pairs hold valid scalars -/

theorem PublicKey.address_of_fromPrivkey {curve : Secp256k1} {privateKey : Bytes}
    {key : PublicKey} (derived : PublicKey.fromPrivkey curve privateKey = .ok key) :
    ∃ point, key = PublicKey.ofPoint point := by
  unfold PublicKey.fromPrivkey at derived
  by_cases rust : curve.rustEcdsa = true
  · rw [if_pos rust] at derived
    obtain ⟨secretScalar, _, built⟩ := bind_eq_ok.mp derived
    exact ⟨curve.fromSecretScalar secretScalar, (Except.ok.inj built).symm⟩
  · rw [if_neg rust] at derived
    obtain ⟨_, _, derived⟩ := bind_eq_ok.mp derived
    obtain ⟨_, _, derived⟩ := bind_eq_ok.mp derived
    obtain ⟨_, _, derived⟩ := bind_eq_ok.mp derived
    obtain ⟨finite, _, built⟩ := bind_eq_ok.mp derived
    exact ⟨finite, (Except.ok.inj built).symm⟩

theorem PublicKey.scalar_of_fromPrivkey {curve : Secp256k1} {privateKey : Bytes}
    {key : PublicKey} (derived : PublicKey.fromPrivkey curve privateKey = .ok key) :
    ∃ secret, NonZeroScalar.tryFrom privateKey = some secret := by
  unfold PublicKey.fromPrivkey at derived
  by_cases rust : curve.rustEcdsa = true
  · rw [if_pos rust] at derived
    obtain ⟨secret, valid, _⟩ := bind_eq_ok.mp derived
    exact ⟨secret, okOr_eq_ok.mp valid⟩
  · rw [if_neg rust] at derived
    obtain ⟨array, converted, derived⟩ := bind_eq_ok.mp derived
    obtain ⟨secret, valid, _⟩ := bind_eq_ok.mp derived
    have same : array.toList = privateKey :=
      tryFromSlice_eq_ok.mp (exceptMapErr_eq_ok.mp converted)
    exact ⟨secret, same ▸ okOr_eq_ok.mp valid⟩

/-- The conversion of a key pair's secret to a scalar never panics. -/
theorem ChainKeypair.scalar_ok {curve : Secp256k1} {ε : Type} (keypair : ChainKeypair curve) :
    ∃ scalar, (keypair.scalar : Outcome ε Scalar) = .ok scalar := by
  obtain ⟨secret, valid⟩ := PublicKey.scalar_of_fromPrivkey keypair.derived
  unfold NonZeroScalar.tryFrom at valid
  cases parsed : Scalar.fromRepr keypair.secret.toList with
  | none =>
      rw [parsed] at valid
      cases valid
  | some scalar => exact ⟨scalar, by rw [ChainKeypair.scalar, parsed]; rfl⟩

end HoprTypes.Crypto
