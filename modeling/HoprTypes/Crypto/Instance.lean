import HoprTypes.Crypto.Signing
import HoprTypes.Crypto.Vrf

/-!
# The crypto crates on one key pair

Executable stand-ins for the curve crates and the signing engine.  They hold the
values that secp256k1 gives for the secret key 1, and for a single message hashed
to the curve; every other secret is treated as if it were that one.
-/

set_option autoImplicit false

namespace HoprTypes.Crypto

open BigEndian HoprTypes.Primitive

def finitePoint (x y : Nat) (xFits : x < fieldModulus) (yFits : y < fieldModulus)
    (onCurve : y * y % fieldModulus = (x * x * x + 7) % fieldModulus) : NonIdentity :=
  ⟨.affine ⟨x, xFits⟩ ⟨y, yFits⟩ onCurve, by simp⟩

/-- The generator `G` of secp256k1. -/
def basePoint : NonIdentity :=
  finitePoint 0x79be667ef9dcbbac55a06295ce870b07029bfcdb2dce28d959f2815b16f81798
    0x483ada7726a3c4655da4fbfc0e1108a8fd17b448a68554199c47d08ffb10d4b8
    (by decide +kernel) (by decide +kernel) (by decide +kernel)

def doubledBasePoint : NonIdentity :=
  finitePoint 0xc6047f9441ed7d6d3045406e95c07cd85c778e4b8cef3ca7abac09b95c709ee5
    0x1ae168fea63dc339a3c58419466ceaeef7f632653266d0e1236431a950cfe52a
    (by decide +kernel) (by decide +kernel) (by decide +kernel)

/-- The point that the address of `G` and the hashed message map to. -/
def payloadPoint : NonIdentity :=
  finitePoint 0x907f514a4462ebfb271f8906828b75829d52670f4f9b2d862d5152e0b50d9566
    0xdcf097648e86c0af542a7e8f6a650666645a90bc419c60c3aadbc035da1a8ef2
    (by decide +kernel) (by decide +kernel) (by decide +kernel)

def payloadNonce : NonIdentity :=
  finitePoint 0xadbdf0ba32337073a4890cf731861b659fd03481912c6717d508f54c84a0d9ec
    0x1e6a6448579fc78fb21405151256f2977a8f37f3c95e61f134a9f59af0db09d4
    (by decide +kernel) (by decide +kernel) (by decide +kernel)

def baseNonce : NonIdentity :=
  finitePoint 0x94d9f112c46ed5e7d9c7d531768666fd5d05cc93811f039c3dbede9658286a2e
    0xe1818301253cb4299159c7fdc0c564acb7677898261a5cf6aca2d1c3e821a91f
    (by decide +kernel) (by decide +kernel) (by decide +kernel)

def nonceScalar : Scalar :=
  ⟨0xb93c7f37d65a8a77204b0ead3a95622a5e053edc35afe9ad152b47172012fb2d, by decide +kernel⟩

def challengeScalar : Scalar :=
  ⟨0x3b5c134404d7f85ed4a8fd61febc4d1a855cc4eec24633c332f19b5c3cd37d97, by decide +kernel⟩

/-- The curve crates, right at the secret 1 and at the one message hashed to the curve. -/
def oneKeyCurve : Secp256k1 where
  rustEcdsa := true
  generator := basePoint
  add left _ := left
  sub left _ := left
  mul point scalar :=
    if scalar = 1 then point
    else if point = basePoint.val then baseNonce.val
    else payloadNonce.val
  fromSecretScalar _ := basePoint
  fromSec1Bytes _ := some basePoint.val
  hashFromBytes _ _ := some payloadPoint.val
  -- The nonce is hashed from three inputs, the challenge from six.
  hashToScalar inputs _ := some (if inputs.length = 3 then nonceScalar else challengeScalar)

def oneKey : PublicKey := PublicKey.ofPoint basePoint

theorem fromPrivkey_oneKeyCurve {privateKey : Bytes} {key : PublicKey}
    (derived : PublicKey.fromPrivkey oneKeyCurve privateKey = .ok key) : key = oneKey := by
  have rust : oneKeyCurve.rustEcdsa = true := rfl
  unfold PublicKey.fromPrivkey at derived
  rw [if_pos rust] at derived
  obtain ⟨_, _, built⟩ := bind_eq_ok.mp derived
  exact (Except.ok.inj built).symm

def oneKeyPair : ChainKeypair oneKeyCurve where
  secret := Scalar.toBytes 1
  publicKey := oneKey
  derived := by
    have nonZero : ¬ (1 : Scalar) = 0 := by decide +kernel
    have secret : NonZeroScalar.tryFrom (Scalar.toBytes 1).toList = some ⟨1, nonZero⟩ := by
      rw [NonZeroScalar.tryFrom, Scalar.fromRepr_toBytes]
      exact dif_neg nonZero
    have rust : oneKeyCurve.rustEcdsa = true := rfl
    unfold PublicKey.fromPrivkey
    rw [if_pos rust, secret]
    rfl

def fixedEngine (raw : RawSignature) (signer : PublicKey) : EcdsaEngine oneKeyCurve where
  signHash _ _ := .ok raw
  verifyHash given _ key := .ok (given == raw && key == signer)
  recoverFromHash _ _ := .ok signer

theorem fixedEngine_recovers (raw : RawSignature) : (fixedEngine raw oneKey).Recovers where
  signs _ _ := ⟨raw, rfl⟩
  recovers := by
    intro hash keypair given _
    have signer : keypair.publicKey = oneKey := fromPrivkey_oneKeyCurve keypair.derived
    rw [signer]
    rfl

/-- The derivation of VRF parameters succeeds for every message and randomness. -/
theorem deriveVrfParameters_oneKey (message : FixedBytes 32) (dst : Bytes)
    (randomBytes : FixedBytes 64) :
    ∃ parameters, deriveVrfParameters message oneKeyPair dst randomBytes = .ok parameters := by
  obtain ⟨scalar, converted⟩ := @ChainKeypair.scalar_ok _ CryptoError oneKeyPair
  have rust : oneKeyCurve.rustEcdsa = true := rfl
  unfold deriveVrfParameters
  rw [if_pos rust, deriveVrfParametersRust, converted]
  exact ⟨_, rfl⟩

end HoprTypes.Crypto
