import HoprTypes.Crypto.Types

/-!
# Proof of Relay

The sender of a packet adds the challenges of two half-keys, which are curve points;
its relayer adds the half-keys, which are scalars.  Both arrive at one challenge.
-/

set_option autoImplicit false

namespace HoprTypes.Crypto

open BigEndian HoprTypes.Primitive

/-- The challenge of a half-key: a point in its compressed form, which is not checked. -/
abbrev HalfKeyChallenge := FixedBytes 33

def HalfKeyChallenge.tryFrom (value : Bytes) : Except GeneralError HalfKeyChallenge :=
  tryFromSlice 33 "HalfKeyChallenge" value

section

variable (curve : Secp256k1)

/-- The challenge of a half-key, which must be a non-zero scalar. -/
def HalfKey.toChallenge (halfKey : HalfKey) : Except CryptoError HalfKeyChallenge := do
  let publicKey ← PublicKey.fromPrivkey curve halfKey.toList
  (HalfKeyChallenge.tryFrom publicKey.compressed.toList).mapErr CryptoError.other

/-- A key of the `secp256k1` crate from its encoding. -/
def nativeKey (bytes : Bytes) : Option NonIdentity := curve.fromSec1Bytes bytes >>= NonIdentity.new

/-- The sum of two keys of the `secp256k1` crate, which must not be the identity. -/
def combine (first second : NonIdentity) : Option NonIdentity :=
  NonIdentity.new (curve.add first.val second.val)

def Challenge.fromHintAndShare (ownShare hint : HalfKeyChallenge) :
    Except CryptoError Challenge :=
  if curve.rustEcdsa then do
    let ownShare ← affinePointFromBytes curve ownShare.toList
    let hint ← affinePointFromBytes curve hint.toList
    let sum ← okOr .calculationError (NonIdentity.new (curve.add ownShare hint))
    .ok ⟨sum⟩
  else do
    let ownShare ← okOr (.other (.parseError "invalid half-key challenge for own share"))
      (nativeKey curve ownShare.toList)
    let hint ← okOr (.other (.parseError "invalid half-key challenge for hint"))
      (nativeKey curve hint.toList)
    let res ← okOr .calculationError (combine curve ownShare hint)
    let point ← affinePointFromBytes curve (res.val.toSec1Point false)
    let finite ← okOr .invalidPublicKey (NonIdentity.new point)
    .ok ⟨finite⟩

/-! ## What is asked of the curve crates -/

/-- A point is read back from both of its encodings. -/
def Secp256k1.Decodes (point : NonIdentity) : Prop :=
  ∀ compress, curve.fromSec1Bytes (point.val.toSec1Point compress) = some point.val

/-- The multiple of the generator by any scalar. -/
def Secp256k1.multiple (scalar : Scalar) : AffinePoint :=
  if nonZero : scalar = 0 then .identity else (curve.fromSecretScalar ⟨scalar, nonZero⟩).val

/-- The multiples of the generator by two scalars add up as the scalars do, in a group of the
order that the scalars are taken modulo. -/
structure Secp256k1.AddsMultiples (first second : NonZeroScalar) : Prop where
  decodes : ∀ scalar : NonZeroScalar,
    scalar.val ∈ [first.val, second.val, first.val + second.val] →
      curve.Decodes (curve.fromSecretScalar scalar)
  add : curve.add (curve.fromSecretScalar first).val (curve.fromSecretScalar second).val =
    curve.multiple (first.val + second.val)
  comm : curve.add (curve.fromSecretScalar second).val (curve.fromSecretScalar first).val =
    curve.multiple (first.val + second.val)

end

variable {curve : Secp256k1}

theorem Secp256k1.AddsMultiples.symm {first second : NonZeroScalar}
    (group : curve.AddsMultiples first second) : curve.AddsMultiples second first where
  decodes := by
    intro scalar member
    apply group.decodes scalar
    simp only [List.mem_cons, List.not_mem_nil, or_false] at member ⊢
    rw [add_comm first.val]
    tauto
  add := by
    rw [add_comm second.val]
    exact group.comm
  comm := by
    rw [add_comm second.val]
    exact group.add

/-! ## Keys -/

theorem NonIdentity.new_val (point : NonIdentity) : NonIdentity.new point.val = some point :=
  dif_neg point.property

theorem newNonIdentity_val {point : AffinePoint} {finite : NonIdentity}
    (made : NonIdentity.new point = some finite) : finite.val = point := by
  unfold NonIdentity.new at made
  by_cases identity : point = .identity
  · rw [dif_pos identity] at made
    cases made
  · rw [dif_neg identity] at made
    rw [← Option.some.inj made]

theorem nativeKey_eq {point : NonIdentity} (decodes : curve.Decodes point) (compress : Bool) :
    nativeKey curve (point.val.toSec1Point compress) = some point := by
  rw [nativeKey, decodes compress]
  exact NonIdentity.new_val point

theorem affinePointFromBytes_eq {point : NonIdentity} (decodes : curve.Decodes point)
    (compress : Bool) :
    affinePointFromBytes curve (point.val.toSec1Point compress) = .ok point.val := by
  rw [affinePointFromBytes, decodes compress]
  rfl

theorem tryFrom_toBytes {scalar : Scalar} (nonZero : scalar ≠ 0) :
    NonZeroScalar.tryFrom (Scalar.toBytes scalar).toList = some ⟨scalar, nonZero⟩ := by
  rw [NonZeroScalar.tryFrom, Scalar.fromRepr_toBytes]
  exact dif_neg nonZero

/-- Both variants derive the public key of a scalar; only the uncompressed encoding is read
back. -/
theorem fromPrivkey_eq_of_uncompressed {privateKey : FixedBytes 32} {scalar : NonZeroScalar}
    (valid : NonZeroScalar.tryFrom privateKey.toList = some scalar)
    (decodes : affinePointFromBytes curve ((curve.fromSecretScalar scalar).val.toSec1Point false) =
      .ok (curve.fromSecretScalar scalar).val) :
    PublicKey.fromPrivkey curve privateKey.toList =
      .ok (PublicKey.ofPoint (curve.fromSecretScalar scalar)) := by
  unfold PublicKey.fromPrivkey
  by_cases rust : curve.rustEcdsa = true
  · rw [if_pos rust, valid]
    rfl
  · rw [if_neg rust, tryFromSlice_toList]
    simp only [Except.mapErr, ok_bind, valid, okOr, decodes, NonIdentity.new_val]

theorem fromPrivkey_eq {privateKey : FixedBytes 32} {scalar : NonZeroScalar}
    (valid : NonZeroScalar.tryFrom privateKey.toList = some scalar)
    (decodes : curve.Decodes (curve.fromSecretScalar scalar)) :
    PublicKey.fromPrivkey curve privateKey.toList =
      .ok (PublicKey.ofPoint (curve.fromSecretScalar scalar)) :=
  fromPrivkey_eq_of_uncompressed valid (affinePointFromBytes_eq decodes false)

theorem toChallenge_eq {halfKey : HalfKey} {scalar : NonZeroScalar}
    (valid : NonZeroScalar.tryFrom halfKey.toList = some scalar)
    (decodes : curve.Decodes (curve.fromSecretScalar scalar)) :
    halfKey.toChallenge curve = .ok (PublicKey.ofPoint (curve.fromSecretScalar scalar)).compressed
    := by
  rw [HalfKey.toChallenge, fromPrivkey_eq valid decodes, ok_bind, HalfKeyChallenge.tryFrom,
    tryFromSlice_toList]
  rfl

theorem scalar_of_toChallenge {halfKey : HalfKey} {challenge : HalfKeyChallenge}
    (derived : halfKey.toChallenge curve = .ok challenge) :
    ∃ scalar, NonZeroScalar.tryFrom halfKey.toList = some scalar := by
  obtain ⟨publicKey, fromKey, _⟩ := bind_eq_ok.mp derived
  exact PublicKey.scalar_of_fromPrivkey fromKey

/-! ## The two sides -/

/-- The sender's side: the sum of the two points, unless it is the identity. -/
theorem fromHintAndShare_eq {first second : NonZeroScalar}
    (group : curve.AddsMultiples first second) {challenge : Challenge} :
    Challenge.fromHintAndShare curve
        (PublicKey.ofPoint (curve.fromSecretScalar first)).compressed
        (PublicKey.ofPoint (curve.fromSecretScalar second)).compressed = .ok challenge ↔
      ∃ nonZero : first.val + second.val ≠ 0,
        challenge = ⟨curve.fromSecretScalar ⟨first.val + second.val, nonZero⟩⟩ := by
  have decodesFirst := group.decodes first (by simp)
  have decodesSecond := group.decodes second (by simp)
  have firstBytes : (PublicKey.ofPoint (curve.fromSecretScalar first)).compressed.toList =
      (curve.fromSecretScalar first).val.toSec1Point true := rfl
  have secondBytes : (PublicKey.ofPoint (curve.fromSecretScalar second)).compressed.toList =
      (curve.fromSecretScalar second).val.toSec1Point true := rfl
  have sum := group.add
  unfold Secp256k1.multiple at sum
  unfold Challenge.fromHintAndShare
  rw [firstBytes, secondBytes]
  by_cases cancels : first.val + second.val = 0
  · rw [dif_pos cancels] at sum
    have identity : NonIdentity.new .identity = none := dif_pos rfl
    constructor
    · intro built
      by_cases rust : curve.rustEcdsa = true
      · rw [if_pos rust, affinePointFromBytes_eq decodesFirst, ok_bind,
          affinePointFromBytes_eq decodesSecond, ok_bind, sum, identity] at built
        cases built
      · rw [if_neg rust, nativeKey_eq decodesFirst, nativeKey_eq decodesSecond] at built
        simp only [okOr, ok_bind, combine, sum, identity] at built
        cases built
    · rintro ⟨nonZero, _⟩
      exact absurd cancels nonZero
  · rw [dif_neg cancels] at sum
    have decodesSum := group.decodes ⟨first.val + second.val, cancels⟩ (by simp)
    have value : ∀ other : Challenge,
        (Except.ok ⟨curve.fromSecretScalar ⟨first.val + second.val, cancels⟩⟩ :
          Except CryptoError Challenge) = .ok other ↔
        ∃ nonZero : first.val + second.val ≠ 0,
          other = ⟨curve.fromSecretScalar ⟨first.val + second.val, nonZero⟩⟩ := by
      intro other
      rw [Except.ok.injEq]
      constructor
      · intro same
        exact ⟨cancels, same.symm⟩
      · rintro ⟨_, same⟩
        exact same.symm
    by_cases rust : curve.rustEcdsa = true
    · rw [if_pos rust, affinePointFromBytes_eq decodesFirst, ok_bind,
        affinePointFromBytes_eq decodesSecond, ok_bind, sum, NonIdentity.new_val]
      exact value challenge
    · rw [if_neg rust, nativeKey_eq decodesFirst, nativeKey_eq decodesSecond]
      simp only [okOr, ok_bind, combine, sum, NonIdentity.new_val,
        affinePointFromBytes_eq decodesSum]
      exact value challenge

/-- The relayer's side: the challenge of the summed scalars, unless they cancel. -/
theorem response_eq {first second : HalfKey} {x y : NonZeroScalar}
    (firstValid : NonZeroScalar.tryFrom first.toList = some x)
    (secondValid : NonZeroScalar.tryFrom second.toList = some y)
    {response : Response} :
    Response.fromHalfKeys first second = .ok response ↔
      x.val + y.val ≠ 0 ∧ response.bytes = Scalar.toBytes (x.val + y.val) := by
  unfold Response.fromHalfKeys
  rw [firstValid, secondValid]
  simp only [okOr, ok_bind]
  by_cases cancels : x.val + y.val = 0
  · rw [if_pos cancels]
    constructor
    · intro built
      cases built
    · rintro ⟨nonZero, _⟩
      exact absurd cancels nonZero
  · rw [if_neg cancels, Except.ok.injEq]
    constructor
    · intro built
      rw [← built]
      exact ⟨cancels, rfl⟩
    · rintro ⟨_, bytes⟩
      cases response
      rw [Response.mk.injEq]
      exact bytes.symm

theorem scalars_of_fromHalfKeys {first second : HalfKey} {response : Response}
    (built : Response.fromHalfKeys first second = .ok response) :
    ∃ x y, NonZeroScalar.tryFrom first.toList = some x ∧
      NonZeroScalar.tryFrom second.toList = some y := by
  obtain ⟨x, valid, built⟩ := bind_eq_ok.mp built
  obtain ⟨y, secondValid, _⟩ := bind_eq_ok.mp built
  exact ⟨x, y, okOr_eq_ok.mp valid, okOr_eq_ok.mp secondValid⟩

theorem toChallenge_response {sum : Scalar} (nonZero : sum ≠ 0)
    (decodes : curve.Decodes (curve.fromSecretScalar ⟨sum, nonZero⟩)) {response : Response}
    (bytes : response.bytes = Scalar.toBytes sum) :
    response.toChallenge curve = .ok ⟨curve.fromSecretScalar ⟨sum, nonZero⟩⟩ := by
  rw [Response.toChallenge, bytes, fromPrivkey_eq (tryFrom_toBytes nonZero) decodes]
  rfl

/-- The half-keys that both sides accept, and the challenge that both arrive at. -/
theorem response_challenge_iff {first second : HalfKey}
    (group : ∀ x y, NonZeroScalar.tryFrom first.toList = some x →
      NonZeroScalar.tryFrom second.toList = some y → curve.AddsMultiples x y)
    (challenge : Challenge) :
    (∃ response, Response.fromHalfKeys first second = .ok response ∧
        response.toChallenge curve = .ok challenge) ↔
      ∃ own hint, first.toChallenge curve = .ok own ∧ second.toChallenge curve = .ok hint ∧
        Challenge.fromHintAndShare curve own hint = .ok challenge := by
  constructor
  · rintro ⟨response, built, solved⟩
    obtain ⟨x, y, firstValid, secondValid⟩ := scalars_of_fromHalfKeys built
    have law := group x y firstValid secondValid
    obtain ⟨nonZero, bytes⟩ := (response_eq firstValid secondValid).mp built
    have decodes := law.decodes ⟨x.val + y.val, nonZero⟩ (by simp)
    rw [toChallenge_response nonZero decodes bytes] at solved
    exact ⟨_, _, toChallenge_eq firstValid (law.decodes x (by simp)),
      toChallenge_eq secondValid (law.decodes y (by simp)),
      (fromHintAndShare_eq law).mpr ⟨nonZero, (Except.ok.inj solved).symm⟩⟩
  · rintro ⟨own, hint, ownDerived, hintDerived, combined⟩
    obtain ⟨x, firstValid⟩ := scalar_of_toChallenge ownDerived
    obtain ⟨y, secondValid⟩ := scalar_of_toChallenge hintDerived
    have law := group x y firstValid secondValid
    rw [toChallenge_eq firstValid (law.decodes x (by simp))] at ownDerived
    rw [toChallenge_eq secondValid (law.decodes y (by simp))] at hintDerived
    rw [← Except.ok.inj ownDerived, ← Except.ok.inj hintDerived] at combined
    obtain ⟨nonZero, rfl⟩ := (fromHintAndShare_eq law).mp combined
    have decodes := law.decodes ⟨x.val + y.val, nonZero⟩ (by simp)
    exact ⟨⟨Scalar.toBytes (x.val + y.val)⟩,
      (response_eq firstValid secondValid).mpr ⟨nonZero, rfl⟩,
      toChallenge_response nonZero decodes rfl⟩

end HoprTypes.Crypto
