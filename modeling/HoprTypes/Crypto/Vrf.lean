import HoprTypes.Crypto.ProofOfRelay

/-!
# VRF parameters

The values that prove to the contract that a ticket is a win: the pseudo-random
point `V = a·B`, the challenge `h`, the response `s` and the key `A = a·G`.
-/

set_option autoImplicit false

namespace HoprTypes.Crypto

open BigEndian HoprTypes.Primitive

structure VrfParameters where
  V : AffinePoint
  h : Scalar
  s : Scalar
  A : AffinePoint
deriving DecidableEq

/-- The affine coordinates of a point: its uncompressed encoding without the prefix. -/
def plainCoordinates (point : AffinePoint) : Bytes := (point.toSec1Point false).drop 1

section

variable (curve : Secp256k1)

/-- The point `B` that the creator's address and the message hash to. -/
def getEncodedPayload (creator : Address) (message dst : Bytes) : Except CryptoError AffinePoint :=
  okOr .calculationError (curve.hashFromBytes [creator.toList, message] [dst])

/-- The challenge, which binds both bases: signer, `A`, `V`, `R_G`, `R_V` and the message. -/
def vrfChallenge (creator : Address) (A V Rg Rv : AffinePoint) (message dst : Bytes) :
    Except CryptoError Scalar :=
  okOr .calculationError
    (curve.hashToScalar
      [creator.toList, plainCoordinates A, plainCoordinates V, plainCoordinates Rg,
        plainCoordinates Rv, message]
      [dst])

namespace VrfParameters

def verify (parameters : VrfParameters) (creator : Address) {size : Nat}
    (message : FixedBytes size) (dst : Bytes) : Except CryptoError Unit := do
  let capB ← getEncodedPayload curve creator message.toList dst
  let Rv := curve.sub (curve.mul capB parameters.s) (curve.mul parameters.V parameters.h)
  let Rg := curve.sub (curve.mul curve.generator.val parameters.s)
    (curve.mul parameters.A parameters.h)
  let hCheck ← vrfChallenge curve creator parameters.A parameters.V Rg Rv message.toList dst
  if hCheck ≠ parameters.h then .error .calculationError else .ok ()

def getVEncodedPoint (parameters : VrfParameters) : Bytes := parameters.V.toSec1Point false

def getAEncodedPoint (parameters : VrfParameters) : Bytes := parameters.A.toSec1Point false

def getHVWitness (parameters : VrfParameters) : Bytes :=
  (curve.mul parameters.V parameters.h).toSec1Point false

def getHAWitness (parameters : VrfParameters) : Bytes :=
  (curve.mul parameters.A parameters.h).toSec1Point false

def getSGWitness (parameters : VrfParameters) : Bytes :=
  (curve.mul curve.generator.val parameters.s).toSec1Point false

def getSBWitness (parameters : VrfParameters) (creator : Address) {size : Nat}
    (message : FixedBytes size) (dst : Bytes) : Except CryptoError Bytes := do
  let payload ← getEncodedPayload curve creator message.toList dst
  .ok ((curve.mul payload parameters.s).toSec1Point false)

end VrfParameters

/-! ## Derivation -/

/-- Multiplication in the `secp256k1` crate, which refuses a zero scalar. -/
def mulTweak (point : NonIdentity) (scalar : Scalar) : Option NonIdentity :=
  if scalar = 0 then none else NonIdentity.new (curve.mul point.val scalar)

def nativePublicKey (scalar : Scalar) : Option NonIdentity :=
  if nonZero : scalar = 0 then none else some (curve.fromSecretScalar ⟨scalar, nonZero⟩)

variable {curve}

def deriveVrfParametersRust {size : Nat} (message : FixedBytes size)
    (keypair : ChainKeypair curve) (dst : Bytes) (randomBytes : FixedBytes 64) :
    Outcome CryptoError VrfParameters := do
  let a ← keypair.scalar
  let A := curve.mul curve.generator.val a
  let B ← .lift (getEncodedPayload curve keypair.address message.toList dst)
  let V := curve.mul B a
  let r ← .lift (okOr .calculationError (curve.hashToScalar
    [(Scalar.toBytes a).toList, plainCoordinates V, randomBytes.toList] [dst]))
  let Rv := curve.mul B r
  let Rg := curve.mul curve.generator.val r
  let h ← .lift (vrfChallenge curve keypair.address A V Rg Rv message.toList dst)
  .ok ⟨V, h, r + h * a, A⟩

def deriveVrfParametersNative {size : Nat} (message : FixedBytes size)
    (keypair : ChainKeypair curve) (dst : Bytes) (randomBytes : FixedBytes 64) :
    Outcome CryptoError VrfParameters := do
  let B ← .lift (getEncodedPayload curve keypair.address message.toList dst)
  let a ← .lift (okOr .invalidSecretScalar (Scalar.fromRepr keypair.secret.toList))
  let bPk ← .lift (okOr .invalidPublicKey (nativeKey curve (B.toSec1Point false)))
  let A ← .lift (okOr .calculationError (nativePublicKey curve a))
  let V ← .lift (okOr .calculationError (mulTweak curve bPk a))
  let r ← .lift (okOr .calculationError (curve.hashToScalar
    [(Scalar.toBytes a).toList, plainCoordinates V.val, randomBytes.toList] [dst]))
  let Rv ← .lift (okOr .calculationError (mulTweak curve bPk r))
  let Rg ← .lift (okOr .calculationError (nativePublicKey curve r))
  let h ← .lift (vrfChallenge curve keypair.address A.val V.val Rg.val Rv.val message.toList dst)
  let scalar ← keypair.scalar
  let pointV ← .lift (okOr .calculationError (curve.fromSec1Bytes (V.val.toSec1Point false)))
  let pointA ← .lift (okOr .calculationError (curve.fromSec1Bytes (A.val.toSec1Point false)))
  .ok ⟨pointV, h, r + h * scalar, pointA⟩

/-- Derives the parameters for a message; `randomBytes` is the randomness drawn for the nonce. -/
def deriveVrfParameters {size : Nat} (message : FixedBytes size) (keypair : ChainKeypair curve)
    (dst : Bytes) (randomBytes : FixedBytes 64) : Outcome CryptoError VrfParameters :=
  if curve.rustEcdsa then deriveVrfParametersRust message keypair dst randomBytes
  else deriveVrfParametersNative message keypair dst randomBytes

/-! ## The point `V` does not depend on the randomness -/

theorem deriveVrfParametersRust_V {size : Nat} {message : FixedBytes size}
    {keypair : ChainKeypair curve} {dst : Bytes} {randomBytes : FixedBytes 64}
    {parameters : VrfParameters}
    (derived : deriveVrfParametersRust message keypair dst randomBytes = .ok parameters) :
    ∃ a B, (keypair.scalar : Outcome CryptoError Scalar) = .ok a ∧
      getEncodedPayload curve keypair.address message.toList dst = .ok B ∧
      parameters.V = curve.mul B a := by
  unfold deriveVrfParametersRust at derived
  obtain ⟨a, scalar, derived⟩ := bind_eq_ok.mp derived
  obtain ⟨B, payload, derived⟩ := bind_eq_ok.mp derived
  obtain ⟨r, _, derived⟩ := bind_eq_ok.mp derived
  obtain ⟨h, _, derived⟩ := bind_eq_ok.mp derived
  refine ⟨a, B, scalar, lift_eq_ok.mp payload, ?_⟩
  rw [← Except.ok.inj derived]

theorem deriveVrfParametersNative_V {size : Nat} {message : FixedBytes size}
    {keypair : ChainKeypair curve} {dst : Bytes} {randomBytes : FixedBytes 64}
    {parameters : VrfParameters}
    (derived : deriveVrfParametersNative message keypair dst randomBytes = .ok parameters) :
    ∃ a B bPk V, getEncodedPayload curve keypair.address message.toList dst = .ok B ∧
      Scalar.fromRepr keypair.secret.toList = some a ∧
      nativeKey curve (B.toSec1Point false) = some bPk ∧ mulTweak curve bPk a = some V ∧
      curve.fromSec1Bytes (V.val.toSec1Point false) = some parameters.V := by
  unfold deriveVrfParametersNative at derived
  obtain ⟨B, payload, derived⟩ := bind_eq_ok.mp derived
  obtain ⟨a, scalar, derived⟩ := bind_eq_ok.mp derived
  obtain ⟨bPk, native, derived⟩ := bind_eq_ok.mp derived
  obtain ⟨A, _, derived⟩ := bind_eq_ok.mp derived
  obtain ⟨V, tweaked, derived⟩ := bind_eq_ok.mp derived
  obtain ⟨r, _, derived⟩ := bind_eq_ok.mp derived
  obtain ⟨Rv, _, derived⟩ := bind_eq_ok.mp derived
  obtain ⟨Rg, _, derived⟩ := bind_eq_ok.mp derived
  obtain ⟨h, _, derived⟩ := bind_eq_ok.mp derived
  obtain ⟨_, _, derived⟩ := bind_eq_ok.mp derived
  obtain ⟨pointV, encodedV, derived⟩ := bind_eq_ok.mp derived
  obtain ⟨pointA, _, derived⟩ := bind_eq_ok.mp derived
  refine ⟨a, B, bPk, V, lift_eq_ok.mp payload, okOr_eq_ok.mp (lift_eq_ok.mp scalar),
    okOr_eq_ok.mp (lift_eq_ok.mp native), okOr_eq_ok.mp (lift_eq_ok.mp tweaked), ?_⟩
  rw [okOr_eq_ok.mp (lift_eq_ok.mp encodedV), ← Except.ok.inj derived]

/-- Two derivations for one key, message and domain separator give the same point `V`, whatever
randomness each of them drew. -/
theorem deriveVrfParameters_V_unique {size : Nat} {message : FixedBytes size}
    {keypair : ChainKeypair curve} {dst : Bytes} {firstRandom secondRandom : FixedBytes 64}
    {first second : VrfParameters}
    (firstDerived : deriveVrfParameters message keypair dst firstRandom = .ok first)
    (secondDerived : deriveVrfParameters message keypair dst secondRandom = .ok second) :
    first.V = second.V := by
  unfold deriveVrfParameters at firstDerived secondDerived
  by_cases rust : curve.rustEcdsa = true
  · rw [if_pos rust] at firstDerived secondDerived
    obtain ⟨a, B, scalar, payload, firstV⟩ := deriveVrfParametersRust_V firstDerived
    obtain ⟨a', B', scalar', payload', secondV⟩ := deriveVrfParametersRust_V secondDerived
    have sameA : a = a' := Except.ok.inj (scalar.symm.trans scalar')
    have sameB : B = B' := Except.ok.inj (payload.symm.trans payload')
    rw [firstV, secondV, sameA, sameB]
  · rw [if_neg rust] at firstDerived secondDerived
    obtain ⟨a, B, bPk, V, payload, scalar, native, tweaked, firstV⟩ :=
      deriveVrfParametersNative_V firstDerived
    obtain ⟨a', B', bPk', V', payload', scalar', native', tweaked', secondV⟩ :=
      deriveVrfParametersNative_V secondDerived
    have sameB : B = B' := Except.ok.inj (payload.symm.trans payload')
    have sameA : a = a' := Option.some.inj (scalar.symm.trans scalar')
    subst sameB sameA
    have sameKey : bPk = bPk' := Option.some.inj (native.symm.trans native')
    subst sameKey
    have sameV : V = V' := Option.some.inj (tweaked.symm.trans tweaked')
    subst sameV
    exact Option.some.inj (firstV.symm.trans secondV)

end

end HoprTypes.Crypto
