import HoprTypes.Crypto.VrfCompleteness

/-!
# The key of a VRF proof and its creator

The verifier hashes the creator's address and checks the proof against the key `A` that comes
with it; it does not compare the two.  Whoever knows the secret of some key can therefore answer
the challenge in the name of every creator.
-/

set_option autoImplicit false

namespace HoprTypes.Crypto

open BigEndian HoprTypes.Primitive

/-- The point is a public key with the given Ethereum address. -/
def AffinePoint.HasAddress (point : AffinePoint) (address : Address) : Prop :=
  ∃ key : NonIdentity, key.val = point ∧ affinePointToAddress key = address

/-- Parameters that verify for the creator hold the creator's key. -/
def BindsCreator (curve : Secp256k1) (creator : Address) {size : Nat} (message : FixedBytes size)
    (dst : Bytes) : Prop :=
  ∀ parameters : VrfParameters, parameters.verify curve creator message dst = .ok () →
    parameters.A.HasAddress creator

/-! ## A key of someone else -/

def foreignSecret (creator : Address) : Scalar :=
  if affinePointToAddress basePoint = creator then 2 else 1

def foreignKey (creator : Address) : NonIdentity :=
  if affinePointToAddress basePoint = creator then doubledBasePoint else basePoint

theorem doubledBasePoint_address :
    affinePointToAddress doubledBasePoint ≠ affinePointToAddress basePoint := by decide +kernel

theorem foreignKey_address (creator : Address) :
    affinePointToAddress (foreignKey creator) ≠ creator := by
  unfold foreignKey
  by_cases same : affinePointToAddress basePoint = creator
  · rw [if_pos same, ← same]
    exact doubledBasePoint_address
  · rw [if_neg same]
    exact same

theorem not_hasAddress_foreignKey (creator : Address) :
    ¬(foreignKey creator).val.HasAddress creator := by
  intro hasAddress
  obtain ⟨key, same, address⟩ := hasAddress
  rw [Subtype.ext same] at address
  exact foreignKey_address creator address

/-! ## What is asked of the curve crates -/

namespace Secp256k1

variable (curve : Secp256k1)

/-- Hashing to the curve and to scalars fails on the empty domain separation tag only. -/
structure HashesWithTag : Prop where
  hashFromBytes : ∀ inputs tag, curve.hashFromBytes inputs [tag] = none ↔ tag = []
  hashToScalar : ∀ inputs tag, curve.hashToScalar inputs [tag] = none ↔ tag = []

/-- The multiples by the values of a proof that the foreign key's owner makes with the nonce 1
are those of the group. -/
structure ComputesForeign (creator : Address) (message dst : Bytes) : Prop where
  key : curve.mul curve.generator.val (foreignSecret creator) = (foreignKey creator).val
  group : ∀ B h, getEncodedPayload curve creator message dst = .ok B →
    vrfChallenge curve creator (curve.mul curve.generator.val (foreignSecret creator))
      (curve.mul B (foreignSecret creator)) (curve.mul curve.generator.val 1) (curve.mul B 1)
      message dst = .ok h →
    curve.ComputesAt B (foreignSecret creator) 1 h ∧
      curve.ComputesAt curve.generator.val (foreignSecret creator) 1 h

end Secp256k1

variable {curve : Secp256k1}

theorem foreign_verifies (hashing : curve.HashesWithTag) {creator : Address} {size : Nat}
    {message : FixedBytes size} {dst : Bytes} (tagged : dst ≠ [])
    (computes : curve.ComputesForeign creator message.toList dst) :
    ∃ parameters : VrfParameters, parameters.A = (foreignKey creator).val ∧
      parameters.verify curve creator message dst = .ok () := by
  have hashedPoint : curve.hashFromBytes [creator.toList, message.toList] [dst] ≠ none :=
    fun failed => tagged ((hashing.hashFromBytes _ _).mp failed)
  obtain ⟨B, point⟩ := Option.ne_none_iff_exists'.mp hashedPoint
  have payload : getEncodedPayload curve creator message.toList dst = .ok B := by
    rw [getEncodedPayload, point]
    rfl
  have hashedScalar : ∀ inputs, ∃ h, curve.hashToScalar inputs [dst] = some h := by
    intro inputs
    apply Option.ne_none_iff_exists'.mp
    exact fun failed => tagged ((hashing.hashToScalar _ _).mp failed)
  obtain ⟨h, scalar⟩ := hashedScalar
    [creator.toList, plainCoordinates (curve.mul curve.generator.val (foreignSecret creator)),
      plainCoordinates (curve.mul B (foreignSecret creator)),
      plainCoordinates (curve.mul curve.generator.val 1), plainCoordinates (curve.mul B 1),
      message.toList]
  have challenge : vrfChallenge curve creator
      (curve.mul curve.generator.val (foreignSecret creator))
      (curve.mul B (foreignSecret creator)) (curve.mul curve.generator.val 1) (curve.mul B 1)
      message.toList dst = .ok h := by
    rw [vrfChallenge, scalar]
    rfl
  obtain ⟨atB, atG⟩ := computes.group B h payload challenge
  refine ⟨transcriptParameters curve B (foreignSecret creator) 1 h, computes.key, ?_⟩
  exact verify_response payload challenge atB atG

theorem verify_untagged (hashing : curve.HashesWithTag) (parameters : VrfParameters)
    (creator : Address) {size : Nat} (message : FixedBytes size) :
    parameters.verify curve creator message [] = .error .calculationError := by
  have failed : curve.hashFromBytes [creator.toList, message.toList] [[]] = none :=
    (hashing.hashFromBytes _ _).mpr rfl
  unfold VrfParameters.verify
  rw [getEncodedPayload, failed]
  rfl

/-- A proof is bound to its creator only where nothing verifies: without a domain separation
tag. -/
theorem bindsCreator_iff (hashing : curve.HashesWithTag) (creator : Address) {size : Nat}
    (message : FixedBytes size) (dst : Bytes)
    (computes : curve.ComputesForeign creator message.toList dst) :
    BindsCreator curve creator message dst ↔ dst = [] := by
  constructor
  · intro binds
    by_contra tagged
    obtain ⟨parameters, key, verified⟩ := foreign_verifies hashing tagged computes
    have bound := binds parameters verified
    rw [key] at bound
    exact not_hasAddress_foreignKey creator bound
  · intro untagged parameters verified
    rw [untagged, verify_untagged hashing] at verified
    cases verified

/-! ## A proof by the secret 2 for the address of the secret 1 -/

def foreignChallenge : Scalar :=
  ⟨0xb69044d806907119b90bde3716224b7208c24e59aa9b21d3434086eda4148e04, by decide +kernel⟩

def doubledChallenge : Scalar :=
  ⟨0x6d2089b00d20e2337217bc6e2c4496e556d5bfcca5eda36ac6aeaf4e77f2dac7, by decide +kernel⟩

def doubledPayload : NonIdentity :=
  finitePoint 0x62d660de28c98325559f4ac3e60a1c3884f659350813f9e4eeefb8ced6a7694c
    0x497f5d479e20f0dcf96f2beeb10542b661db56cbbac07c916985ec963a7f27a4
    (by decide +kernel) (by decide +kernel) (by decide +kernel)

def foreignBaseChallenge : NonIdentity :=
  finitePoint 0x3a1a1233176055aadb3389f6ba6065e0231d843b6f48bafd1672222554a19831
    0x93ebebe0baf4cbbbb539175f6dd7a34669cd78c3f0733ce904d94290e5fc54a9
    (by decide +kernel) (by decide +kernel) (by decide +kernel)

def foreignPayloadChallenge : NonIdentity :=
  finitePoint 0xc6bf0a1829c78020b6d7cf88710adf422cfd8ce63e303393880cae37887166d7
    0x56a28754fa6ea04c58517677b67ae4625b06d6b7108a0dbd28b8355923536355
    (by decide +kernel) (by decide +kernel) (by decide +kernel)

def foreignBaseResponse : NonIdentity :=
  finitePoint 0x64a5c629144f5082b0cb0eb8c779a3530d8428aedd00a409b1fd0fbb6bb0af65
    0xa7753866846ec70b2c193b8809e632ef94b286ef5a94793c24d60728509d16dd
    (by decide +kernel) (by decide +kernel) (by decide +kernel)

def foreignPayloadResponse : NonIdentity :=
  finitePoint 0xf96bf077a00725bad131a7d6c4fcb85eec016de360990553b06257c403539cf7
    0x508a32510673cd596bc710a15902fbdc5096abc488c7bf9a3ce40398f8a9450f
    (by decide +kernel) (by decide +kernel) (by decide +kernel)

/-- The multiples of a point by 1, 2, twice the challenge and the response. -/
def foreignMultiple (one two challenge response : NonIdentity) (scalar : Scalar) : NonIdentity :=
  if scalar = 1 then one
  else if scalar = 2 then two
  else if scalar = doubledChallenge then challenge
  else response

/-- The crates, right for the points of the one proof by a foreign key. -/
def foreignProofCurve : Secp256k1 where
  rustEcdsa := true
  generator := basePoint
  add left _ := if left = basePoint.val then foreignBaseResponse.val else foreignPayloadResponse.val
  sub left _ := if left = foreignBaseResponse.val then basePoint.val else payloadPoint.val
  mul point scalar :=
    if point = basePoint.val then
      (foreignMultiple basePoint doubledBasePoint foreignBaseChallenge foreignBaseResponse
        scalar).val
    else if point = doubledBasePoint.val then foreignBaseChallenge.val
    else if point = doubledPayload.val then foreignPayloadChallenge.val
    else
      (foreignMultiple payloadPoint doubledPayload foreignPayloadChallenge foreignPayloadResponse
        scalar).val
  fromSecretScalar _ := basePoint
  fromSec1Bytes := readUncompressed
  hashFromBytes _ tags := if tags = [[]] then none else some payloadPoint.val
  hashToScalar _ tags := if tags = [[]] then none else some foreignChallenge

theorem foreignProofCurve_hashes : foreignProofCurve.HashesWithTag where
  hashFromBytes := by
    intro inputs tag
    by_cases untagged : tag = []
    · rw [untagged]
      exact ⟨fun _ => rfl, fun _ => rfl⟩
    · simp [foreignProofCurve, untagged]
  hashToScalar := by
    intro inputs tag
    by_cases untagged : tag = []
    · rw [untagged]
      exact ⟨fun _ => rfl, fun _ => rfl⟩
    · simp [foreignProofCurve, untagged]

theorem foreignProofCurve_payload :
    foreignProofCurve.ComputesAt payloadPoint.val 2 1 foreignChallenge where
  mul_add := by decide +kernel
  mul_mul := by decide +kernel
  sub_add := by decide +kernel

theorem foreignProofCurve_base :
    foreignProofCurve.ComputesAt foreignProofCurve.generator.val 2 1 foreignChallenge where
  mul_add := by decide +kernel
  mul_mul := by decide +kernel
  sub_add := by decide +kernel

theorem foreignProofCurve_computes :
    foreignProofCurve.ComputesForeign oneKey.address provenMessage.toList Hash.default.toList := by
  have secret : foreignSecret oneKey.address = 2 := if_pos rfl
  have key : foreignKey oneKey.address = doubledBasePoint := if_pos rfl
  constructor
  · rw [secret, key]
    decide +kernel
  · intro B h payload challenge
    rw [← Except.ok.inj payload, ← Except.ok.inj challenge, secret]
    exact ⟨foreignProofCurve_payload, foreignProofCurve_base⟩

theorem bindsCreator_iff_oneKey :
    BindsCreator foreignProofCurve oneKey.address provenMessage Hash.default.toList ↔
      Hash.default.toList = [] :=
  bindsCreator_iff foreignProofCurve_hashes oneKey.address provenMessage Hash.default.toList
    foreignProofCurve_computes

/-- The owner of the key `2·G` proves a message in the name of the address of `G`. -/
theorem not_bindsCreator_oneKey :
    let parameters := transcriptParameters foreignProofCurve payloadPoint.val 2 1 foreignChallenge
    parameters.verify foreignProofCurve oneKey.address provenMessage Hash.default.toList = .ok () ∧
      parameters.A = doubledBasePoint.val ∧
      affinePointToAddress doubledBasePoint ≠ oneKey.address ∧
      ¬BindsCreator foreignProofCurve oneKey.address provenMessage Hash.default.toList := by
  intro parameters
  have verified : parameters.verify foreignProofCurve oneKey.address provenMessage
      Hash.default.toList = .ok () :=
    verify_response rfl rfl foreignProofCurve_payload foreignProofCurve_base
  have key : parameters.A = doubledBasePoint.val := by decide +kernel
  refine ⟨verified, key, doubledBasePoint_address, ?_⟩
  intro binds
  obtain ⟨owner, same, address⟩ := binds parameters verified
  rw [Subtype.ext (same.trans key)] at address
  exact doubledBasePoint_address address

end HoprTypes.Crypto
