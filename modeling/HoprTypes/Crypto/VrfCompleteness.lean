import HoprTypes.Crypto.Instance

/-!
# Completeness of the VRF

Both variants of the derivation follow one transcript: a payload point `B`, the secret
`a`, a nonce `r` and a challenge `h`.  The verifier and the exported witnesses rebuild
the nonce points of that transcript from the response `s = r + h·a`.
-/

set_option autoImplicit false

namespace HoprTypes.Crypto

open BigEndian HoprTypes.Primitive

/-! ## What is asked of the curve crates -/

namespace Secp256k1

variable (curve : Secp256k1)

/-- The multiples of a point by the values of a proof are those of a group whose order the
scalars are taken modulo. -/
structure ComputesAt (point : AffinePoint) (a r h : Scalar) : Prop where
  mul_add : curve.mul point (r + h * a) = curve.add (curve.mul point r) (curve.mul point (h * a))
  mul_mul : curve.mul point (h * a) = curve.mul (curve.mul point a) h
  sub_add : curve.sub (curve.add (curve.mul point r) (curve.mul point (h * a)))
    (curve.mul point (h * a)) = curve.mul point r

/-- The `secp256k1` crate computes public keys as `k256` does, and their uncompressed encodings
are understood by both. -/
structure NativeAgrees : Prop where
  publicKey : ∀ scalar : NonZeroScalar,
    (curve.fromSecretScalar scalar).val = curve.mul curve.generator.val scalar.val
  decodes : ∀ point : AffinePoint, curve.fromSec1Bytes (point.toSec1Point false) = some point

variable {curve}

theorem ComputesAt.sub_response {point : AffinePoint} {a r h : Scalar}
    (group : curve.ComputesAt point a r h) :
    curve.sub (curve.mul point (r + h * a)) (curve.mul (curve.mul point a) h) =
      curve.mul point r := by
  rw [group.mul_add, ← group.mul_mul, group.sub_add]

end Secp256k1

variable {curve : Secp256k1}

/-- The values of a proof, each derived from the ones before it. -/
structure VrfTranscript (keypair : ChainKeypair curve) (message dst : Bytes)
    (randomBytes : FixedBytes 64) (B : AffinePoint) (a r h : Scalar) : Prop where
  payload : getEncodedPayload curve keypair.address message dst = .ok B
  secret : Scalar.fromRepr keypair.secret.toList = some a
  nonce : curve.hashToScalar
    [(Scalar.toBytes a).toList, plainCoordinates (curve.mul B a), randomBytes.toList] [dst] = some r
  challenge : vrfChallenge curve keypair.address (curve.mul curve.generator.val a)
    (curve.mul B a) (curve.mul curve.generator.val r) (curve.mul B r) message dst = .ok h

def transcriptParameters (curve : Secp256k1) (B : AffinePoint) (a r h : Scalar) : VrfParameters :=
  ⟨curve.mul B a, h, r + h * a, curve.mul curve.generator.val a⟩

/-! ## Both variants follow the transcript -/

theorem scalar_eq_ok {ε : Type} {keypair : ChainKeypair curve} {a : Scalar}
    (converted : (keypair.scalar : Outcome ε Scalar) = .ok a) :
    Scalar.fromRepr keypair.secret.toList = some a := by
  unfold ChainKeypair.scalar at converted
  cases parsed : Scalar.fromRepr keypair.secret.toList with
  | none =>
      rw [parsed] at converted
      cases converted
  | some scalar =>
      rw [parsed] at converted
      exact congrArg some (Except.ok.inj converted)

theorem deriveVrfParametersRust_transcript {size : Nat} {message : FixedBytes size}
    {keypair : ChainKeypair curve} {dst : Bytes} {randomBytes : FixedBytes 64}
    {parameters : VrfParameters}
    (derived : deriveVrfParametersRust message keypair dst randomBytes = .ok parameters) :
    ∃ B a r h, VrfTranscript keypair message.toList dst randomBytes B a r h ∧
      parameters = transcriptParameters curve B a r h := by
  unfold deriveVrfParametersRust at derived
  obtain ⟨a, scalar, derived⟩ := bind_eq_ok.mp derived
  obtain ⟨B, payload, derived⟩ := bind_eq_ok.mp derived
  obtain ⟨r, nonce, derived⟩ := bind_eq_ok.mp derived
  obtain ⟨h, challenge, derived⟩ := bind_eq_ok.mp derived
  refine ⟨B, a, r, h, ⟨lift_eq_ok.mp payload, scalar_eq_ok scalar,
    okOr_eq_ok.mp (lift_eq_ok.mp nonce), lift_eq_ok.mp challenge⟩, ?_⟩
  exact (Except.ok.inj derived).symm

theorem mulTweak_eq {point tweaked : NonIdentity} {scalar : Scalar}
    (computed : mulTweak curve point scalar = some tweaked) :
    tweaked.val = curve.mul point.val scalar := by
  unfold mulTweak at computed
  by_cases zero : scalar = 0
  · rw [if_pos zero] at computed
    cases computed
  · rw [if_neg zero] at computed
    exact newNonIdentity_val computed

theorem nativePublicKey_eq (native : curve.NativeAgrees) {scalar : Scalar} {key : NonIdentity}
    (computed : nativePublicKey curve scalar = some key) :
    key.val = curve.mul curve.generator.val scalar := by
  unfold nativePublicKey at computed
  by_cases zero : scalar = 0
  · rw [dif_pos zero] at computed
    cases computed
  · rw [dif_neg zero] at computed
    rw [← Option.some.inj computed]
    exact native.publicKey ⟨scalar, zero⟩

theorem nativeKey_val (native : curve.NativeAgrees) {point : AffinePoint} {key : NonIdentity}
    (parsed : nativeKey curve (point.toSec1Point false) = some key) : key.val = point := by
  unfold nativeKey at parsed
  rw [native.decodes] at parsed
  exact newNonIdentity_val parsed

theorem deriveVrfParametersNative_transcript (native : curve.NativeAgrees) {size : Nat}
    {message : FixedBytes size} {keypair : ChainKeypair curve} {dst : Bytes}
    {randomBytes : FixedBytes 64} {parameters : VrfParameters}
    (derived : deriveVrfParametersNative message keypair dst randomBytes = .ok parameters) :
    ∃ B a r h, VrfTranscript keypair message.toList dst randomBytes B a r h ∧
      parameters = transcriptParameters curve B a r h := by
  unfold deriveVrfParametersNative at derived
  obtain ⟨B, payload, derived⟩ := bind_eq_ok.mp derived
  obtain ⟨a, secret, derived⟩ := bind_eq_ok.mp derived
  obtain ⟨bPk, parsed, derived⟩ := bind_eq_ok.mp derived
  obtain ⟨A, keyA, derived⟩ := bind_eq_ok.mp derived
  obtain ⟨V, tweakedV, derived⟩ := bind_eq_ok.mp derived
  obtain ⟨r, nonce, derived⟩ := bind_eq_ok.mp derived
  obtain ⟨Rv, tweakedR, derived⟩ := bind_eq_ok.mp derived
  obtain ⟨Rg, keyR, derived⟩ := bind_eq_ok.mp derived
  obtain ⟨h, challenge, derived⟩ := bind_eq_ok.mp derived
  obtain ⟨scalar, converted, derived⟩ := bind_eq_ok.mp derived
  obtain ⟨pointV, encodedV, derived⟩ := bind_eq_ok.mp derived
  obtain ⟨pointA, encodedA, derived⟩ := bind_eq_ok.mp derived
  have sameSecret := okOr_eq_ok.mp (lift_eq_ok.mp secret)
  have sameScalar : a = scalar :=
    Option.some.inj (sameSecret.symm.trans (scalar_eq_ok converted))
  have base := nativeKey_val native (okOr_eq_ok.mp (lift_eq_ok.mp parsed))
  have valueA := nativePublicKey_eq native (okOr_eq_ok.mp (lift_eq_ok.mp keyA))
  have valueV := mulTweak_eq (okOr_eq_ok.mp (lift_eq_ok.mp tweakedV))
  have valueRv := mulTweak_eq (okOr_eq_ok.mp (lift_eq_ok.mp tweakedR))
  have valueRg := nativePublicKey_eq native (okOr_eq_ok.mp (lift_eq_ok.mp keyR))
  have pointVal := okOr_eq_ok.mp (lift_eq_ok.mp encodedV)
  have pointValA := okOr_eq_ok.mp (lift_eq_ok.mp encodedA)
  rw [native.decodes, valueV, base, Option.some.injEq] at pointVal
  rw [native.decodes, valueA, Option.some.injEq] at pointValA
  rw [base] at valueV valueRv
  refine ⟨B, a, r, h, ⟨lift_eq_ok.mp payload, sameSecret, ?_, ?_⟩, ?_⟩
  · rw [← valueV]
    exact okOr_eq_ok.mp (lift_eq_ok.mp nonce)
  · rw [← valueA, ← valueV, ← valueRv, ← valueRg]
    exact lift_eq_ok.mp challenge
  · rw [← Except.ok.inj derived, transcriptParameters, pointVal, pointValA, sameScalar]

theorem deriveVrfParameters_transcript (native : curve.rustEcdsa = false → curve.NativeAgrees)
    {size : Nat} {message : FixedBytes size} {keypair : ChainKeypair curve} {dst : Bytes}
    {randomBytes : FixedBytes 64} {parameters : VrfParameters}
    (derived : deriveVrfParameters message keypair dst randomBytes = .ok parameters) :
    ∃ B a r h, VrfTranscript keypair message.toList dst randomBytes B a r h ∧
      parameters = transcriptParameters curve B a r h := by
  unfold deriveVrfParameters at derived
  by_cases rust : curve.rustEcdsa = true
  · rw [if_pos rust] at derived
    exact deriveVrfParametersRust_transcript derived
  · rw [if_neg rust] at derived
    exact deriveVrfParametersNative_transcript (native (by simpa using rust)) derived

/-! ## The verifier and the witnesses -/

/-- A response to the challenge verifies for the creator that was hashed, whoever knows `a`. -/
theorem verify_response {creator : Address} {size : Nat} {message : FixedBytes size} {dst : Bytes}
    {B : AffinePoint} {a r h : Scalar}
    (payload : getEncodedPayload curve creator message.toList dst = .ok B)
    (challenge : vrfChallenge curve creator (curve.mul curve.generator.val a) (curve.mul B a)
      (curve.mul curve.generator.val r) (curve.mul B r) message.toList dst = .ok h)
    (atB : curve.ComputesAt B a r h) (atG : curve.ComputesAt curve.generator.val a r h) :
    (transcriptParameters curve B a r h).verify curve creator message dst = .ok () := by
  unfold VrfParameters.verify
  rw [payload, ok_bind]
  dsimp only [transcriptParameters]
  rw [atB.sub_response, atG.sub_response, challenge, ok_bind]
  exact if_neg (not_not.mpr rfl)

theorem verify_transcript {size : Nat} {message : FixedBytes size}
    {keypair : ChainKeypair curve} {dst : Bytes} {randomBytes : FixedBytes 64}
    {B : AffinePoint} {a r h : Scalar}
    (transcript : VrfTranscript keypair message.toList dst randomBytes B a r h)
    (atB : curve.ComputesAt B a r h) (atG : curve.ComputesAt curve.generator.val a r h) :
    (transcriptParameters curve B a r h).verify curve keypair.address message dst = .ok () :=
  verify_response transcript.payload transcript.challenge atB atG

/-- The witnesses as the contract checks them: they differ by the nonce points that the challenge
binds. -/
def WitnessesNonces (curve : Secp256k1) {size : Nat} (parameters : VrfParameters)
    (creator : Address) (message : FixedBytes size) (dst : Bytes) : Prop :=
  ∃ sB hV sG hA Rv Rg : AffinePoint,
    parameters.getSBWitness curve creator message dst = .ok (sB.toSec1Point false) ∧
    parameters.getHVWitness curve = hV.toSec1Point false ∧
    parameters.getSGWitness curve = sG.toSec1Point false ∧
    parameters.getHAWitness curve = hA.toSec1Point false ∧
    curve.sub sB hV = Rv ∧ curve.sub sG hA = Rg ∧
    vrfChallenge curve creator parameters.A parameters.V Rg Rv message.toList dst =
      .ok parameters.h

theorem witnesses_transcript {size : Nat} {message : FixedBytes size}
    {keypair : ChainKeypair curve} {dst : Bytes} {randomBytes : FixedBytes 64}
    {B : AffinePoint} {a r h : Scalar}
    (transcript : VrfTranscript keypair message.toList dst randomBytes B a r h)
    (atB : curve.ComputesAt B a r h) (atG : curve.ComputesAt curve.generator.val a r h) :
    WitnessesNonces curve (transcriptParameters curve B a r h) keypair.address message dst := by
  refine ⟨curve.mul B (r + h * a), curve.mul (curve.mul B a) h,
    curve.mul curve.generator.val (r + h * a), curve.mul (curve.mul curve.generator.val a) h,
    curve.mul B r, curve.mul curve.generator.val r, ?_, rfl, rfl, rfl, atB.sub_response,
    atG.sub_response, transcript.challenge⟩
  rw [VrfParameters.getSBWitness, transcript.payload]
  rfl

/-- Derived parameters verify, and their witnesses rebuild the points that the challenge binds,
in both variants of the curve arithmetic. -/
theorem vrf_complete (native : curve.rustEcdsa = false → curve.NativeAgrees) {size : Nat}
    (message : FixedBytes size) (keypair : ChainKeypair curve) (dst : Bytes)
    (randomBytes : FixedBytes 64)
    (group : ∀ B a r h, VrfTranscript keypair message.toList dst randomBytes B a r h →
      curve.ComputesAt B a r h ∧ curve.ComputesAt curve.generator.val a r h)
    {parameters : VrfParameters}
    (derived : deriveVrfParameters message keypair dst randomBytes = .ok parameters) :
    parameters.verify curve keypair.address message dst = .ok () ∧
      WitnessesNonces curve parameters keypair.address message dst := by
  obtain ⟨B, a, r, h, transcript, rfl⟩ := deriveVrfParameters_transcript native derived
  obtain ⟨atB, atG⟩ := group B a r h transcript
  exact ⟨verify_transcript transcript atB atG, witnesses_transcript transcript atB atG⟩

/-! ## One proof by the secret 1 -/

def readUncompressed : Bytes → Option AffinePoint
  | [0] => some .identity
  | 4 :: coordinates =>
      let x := ofBE (coordinates.take 32)
      let y := ofBE (coordinates.drop 32)
      if fits : x < fieldModulus ∧ y < fieldModulus ∧
          y * y % fieldModulus = (x * x * x + 7) % fieldModulus then
        some (.affine ⟨x, fits.1⟩ ⟨y, fits.2.1⟩ fits.2.2)
      else none
  | _ => none

theorem readUncompressed_toSec1Point (point : AffinePoint) :
    readUncompressed (point.toSec1Point false) = some point := by
  cases point with
  | identity => rfl
  | affine x y onCurve =>
      have small := fieldModulus_lt
      have encoded : (AffinePoint.affine x y onCurve).toSec1Point false =
          4 :: (toBE 32 x.val ++ toBE 32 y.val) := rfl
      have first : ofBE ((toBE 32 x.val ++ toBE 32 y.val).take 32) = x.val := by
        rw [List.take_left' (length_toBE 32 x.val)]
        exact ofBE_toBE_of_lt (lt_trans x.isLt small)
      have second : ofBE ((toBE 32 x.val ++ toBE 32 y.val).drop 32) = y.val := by
        rw [List.drop_left' (length_toBE 32 x.val)]
        exact ofBE_toBE_of_lt (lt_trans y.isLt small)
      rw [encoded]
      simp only [readUncompressed, first, second, x.isLt, y.isLt, onCurve, true_and, dite_true]

def baseChallenge : NonIdentity :=
  finitePoint 0xa9ffb4d3993f86e2406a5e9cea915ea11d0dc9ada95defb12464e034b7761a89
    0x6703ba5809ba25355e7de61890014b01de9ef6426b2bc11b20cc0e3e03ed79c6
    (by decide +kernel) (by decide +kernel) (by decide +kernel)

def payloadChallenge : NonIdentity :=
  finitePoint 0xc8a88ef2010ec3e6323ac4cdca9609dec773d8800781ec0a42128ed74852eb80
    0x5900204b401dc5f6694435cc11ec321abdc5db550b7480a926665b0f99bae01c
    (by decide +kernel) (by decide +kernel) (by decide +kernel)

def baseResponse : NonIdentity :=
  finitePoint 0xd6ee2780e2d62fffb695981d222bb6c6cfc68fdf4a54081e10900df21fd9caf8
    0x61e15a2df3bb3b5ba0280a088326d5fb320bea147d5445de75e985175dfcd3a
    (by decide +kernel) (by decide +kernel) (by decide +kernel)

def payloadResponse : NonIdentity :=
  finitePoint 0x732050641c621919415c7c58cb1a47bd63c55c9624672240f362c7099ac076e3
    0x51f64e95620c6f7ccd284134b2e1bdd33048e42237fef372063da42b2e2846a2
    (by decide +kernel) (by decide +kernel) (by decide +kernel)

/-- The multiples of a point by 1, the nonce, the challenge and the response. -/
def multipleOf (one nonce challenge response : NonIdentity) (scalar : Scalar) : NonIdentity :=
  if scalar = 1 then one
  else if scalar = nonceScalar then nonce
  else if scalar = challengeScalar then challenge
  else response

def baseMultiple : Scalar → NonIdentity :=
  multipleOf basePoint baseNonce baseChallenge baseResponse

def payloadMultiple : Scalar → NonIdentity :=
  multipleOf payloadPoint payloadNonce payloadChallenge payloadResponse

/-- The `secp256k1` variant of the crates, right for the points of one proof. -/
def oneProofCurve : Secp256k1 where
  rustEcdsa := false
  generator := basePoint
  add left _ := if left = baseNonce.val then baseResponse.val else payloadResponse.val
  sub left _ := if left = baseResponse.val then baseNonce.val else payloadNonce.val
  mul point scalar :=
    if point = basePoint.val then (baseMultiple scalar).val else (payloadMultiple scalar).val
  fromSecretScalar scalar := baseMultiple scalar.val
  fromSec1Bytes := readUncompressed
  hashFromBytes _ _ := some payloadPoint.val
  hashToScalar inputs _ := some (if inputs.length = 3 then nonceScalar else challengeScalar)

theorem oneProofCurve_mul_base (scalar : Scalar) :
    oneProofCurve.mul basePoint.val scalar = (baseMultiple scalar).val := by
  show (if basePoint.val = basePoint.val then (baseMultiple scalar).val
    else (payloadMultiple scalar).val) = _
  rw [if_pos rfl]

theorem oneProofCurve_mul_payload (scalar : Scalar) :
    oneProofCurve.mul payloadPoint.val scalar = (payloadMultiple scalar).val := by
  have distinct : ¬ payloadPoint.val = basePoint.val := by decide +kernel
  show (if payloadPoint.val = basePoint.val then (baseMultiple scalar).val
    else (payloadMultiple scalar).val) = _
  rw [if_neg distinct]

theorem oneProofCurve_native : oneProofCurve.NativeAgrees where
  publicKey scalar := (oneProofCurve_mul_base scalar.val).symm
  decodes := readUncompressed_toSec1Point

theorem oneProofCurve_payload :
    oneProofCurve.ComputesAt payloadPoint.val 1 nonceScalar challengeScalar where
  mul_add := by decide +kernel
  mul_mul := by decide +kernel
  sub_add := by decide +kernel

theorem oneProofCurve_base :
    oneProofCurve.ComputesAt oneProofCurve.generator.val 1 nonceScalar challengeScalar where
  mul_add := by decide +kernel
  mul_mul := by decide +kernel
  sub_add := by decide +kernel

def oneProofKeyPair : ChainKeypair oneProofCurve where
  secret := Scalar.toBytes 1
  publicKey := oneKey
  derived := by
    have nonZero : (1 : Scalar) ≠ 0 := by decide +kernel
    have secret : NonZeroScalar.tryFrom (Scalar.toBytes 1).toList = some ⟨1, nonZero⟩ :=
      tryFrom_toBytes nonZero
    have variant : ¬ oneProofCurve.rustEcdsa = true := by decide
    unfold PublicKey.fromPrivkey
    rw [if_neg variant, tryFromSlice_toList]
    simp only [Except.mapErr, ok_bind, secret, okOr, affinePointFromBytes,
      oneProofCurve_native.decodes, NonIdentity.new_val]
    have one : oneProofCurve.fromSecretScalar ⟨1, nonZero⟩ = basePoint := if_pos rfl
    rw [one]
    rfl

/-- The hash of the ticket that the payload point was computed for. -/
def provenMessage : FixedBytes 32 :=
  beBytes 32 0xba45730809951c1992d31b25559955d52dcfe88a2a3285c92da664374b263400

theorem oneProofCurve_mulTweak {scalar : Scalar} (nonZero : scalar ≠ 0) :
    mulTweak oneProofCurve payloadPoint scalar = some (payloadMultiple scalar) := by
  rw [mulTweak, if_neg nonZero, oneProofCurve_mul_payload, NonIdentity.new_val]

theorem oneProofCurve_publicKey {scalar : Scalar} (nonZero : scalar ≠ 0) :
    nativePublicKey oneProofCurve scalar = some (baseMultiple scalar) := dif_neg nonZero

theorem oneProofCurve_derived :
    deriveVrfParameters provenMessage oneProofKeyPair Hash.default.toList (beBytes 64 0) =
      .ok (transcriptParameters oneProofCurve payloadPoint.val 1 nonceScalar challengeScalar) := by
  have oneNonZero : (1 : Scalar) ≠ 0 := by decide +kernel
  have nonceNonZero : nonceScalar ≠ 0 := by decide +kernel
  have secret : Scalar.fromRepr oneProofKeyPair.secret.toList = some 1 :=
    Scalar.fromRepr_toBytes 1
  have scalar : (oneProofKeyPair.scalar : Outcome CryptoError Scalar) = .ok 1 := by
    rw [ChainKeypair.scalar, secret]
    rfl
  have base : nativeKey oneProofCurve (payloadPoint.val.toSec1Point false) =
      some payloadPoint := by
    rw [nativeKey, oneProofCurve_native.decodes]
    exact NonIdentity.new_val payloadPoint
  have variant : ¬ oneProofCurve.rustEcdsa = true := by decide
  have found : ∀ {α : Type} {cause : CryptoError} {value : Option α} {result : α},
      value = some result → Outcome.lift (okOr cause value) = .ok result := by
    intro α cause value result known
    exact lift_eq_ok.mpr (okOr_eq_ok.mpr known)
  unfold deriveVrfParameters
  rw [if_neg variant]
  unfold deriveVrfParametersNative
  refine bind_eq_ok.mpr ⟨payloadPoint.val, rfl, ?_⟩
  refine bind_eq_ok.mpr ⟨1, found secret, ?_⟩
  refine bind_eq_ok.mpr ⟨payloadPoint, found base, ?_⟩
  refine bind_eq_ok.mpr ⟨baseMultiple 1, found (oneProofCurve_publicKey oneNonZero), ?_⟩
  refine bind_eq_ok.mpr ⟨payloadMultiple 1, found (oneProofCurve_mulTweak oneNonZero), ?_⟩
  refine bind_eq_ok.mpr ⟨nonceScalar, found rfl, ?_⟩
  refine bind_eq_ok.mpr ⟨payloadMultiple nonceScalar,
    found (oneProofCurve_mulTweak nonceNonZero), ?_⟩
  refine bind_eq_ok.mpr ⟨baseMultiple nonceScalar,
    found (oneProofCurve_publicKey nonceNonZero), ?_⟩
  refine bind_eq_ok.mpr ⟨challengeScalar, rfl, ?_⟩
  refine bind_eq_ok.mpr ⟨1, scalar, ?_⟩
  refine bind_eq_ok.mpr ⟨_, found (oneProofCurve_native.decodes _), ?_⟩
  refine bind_eq_ok.mpr ⟨_, found (oneProofCurve_native.decodes _), ?_⟩
  rw [transcriptParameters, oneProofCurve_mul_payload,
    show oneProofCurve.generator.val = basePoint.val from rfl, oneProofCurve_mul_base]

theorem vrf_complete_sample :
    let parameters := transcriptParameters oneProofCurve payloadPoint.val 1 nonceScalar
      challengeScalar
    parameters.verify oneProofCurve oneProofKeyPair.address provenMessage
        Hash.default.toList = .ok () ∧
      WitnessesNonces oneProofCurve parameters oneProofKeyPair.address provenMessage
        Hash.default.toList := by
  intro parameters
  refine vrf_complete (fun _ => oneProofCurve_native) provenMessage oneProofKeyPair
    Hash.default.toList (beBytes 64 0) ?_ oneProofCurve_derived
  intro B a r h transcript
  obtain rfl : B = payloadPoint.val := (Except.ok.inj transcript.payload).symm
  have secret := transcript.secret
  rw [show oneProofKeyPair.secret = Scalar.toBytes 1 from rfl, Scalar.fromRepr_toBytes] at secret
  obtain rfl : a = 1 := (Option.some.inj secret).symm
  obtain rfl : r = nonceScalar := (Option.some.inj transcript.nonce).symm
  obtain rfl : h = challengeScalar := (Except.ok.inj transcript.challenge).symm
  exact ⟨oneProofCurve_payload, oneProofCurve_base⟩

end HoprTypes.Crypto
