import HoprTypes.Crypto.Types
import HoprTypes.Primitive.HexText

/-!
# Public keys on Baby Jubjub

A key holds the bytes of its point, and the conversion to the point relies on them.  The
constructors check that the point is a generator of the prime-order subgroup; the derived
deserializer takes the bytes as they come.
-/

set_option autoImplicit false

namespace HoprTypes.Crypto

open BigEndian HoprTypes.Primitive

/-- The curve crate: points, their byte form and the scalars of the prime-order subgroup. -/
structure BabyJubjub where
  ProjectivePoint : Type
  AffinePoint : Type
  Scalar : Type
  generator : ProjectivePoint
  mul : ProjectivePoint → Scalar → ProjectivePoint
  ofAffine : AffinePoint → ProjectivePoint
  isIdentity : ProjectivePoint → Bool
  isInPrimeOrderSubgroup : ProjectivePoint → Bool
  fromBytes : FixedBytes 32 → Option ProjectivePoint
  toBytes : ProjectivePoint → FixedBytes 32
  scalarFromBytes : FixedBytes 32 → Option Scalar

/-- The byte strings that are read are the encodings of points, and each gives its point. -/
structure BabyJubjub.Lawful (curve : BabyJubjub) : Prop where
  reads : ∀ bytes point, curve.fromBytes bytes = some point ↔ curve.toBytes point = bytes

variable (curve : BabyJubjub)

structure BjjPublicKey where
  bytes : FixedBytes 32
deriving DecidableEq

namespace BjjPublicKey

/-- The check that the constructors make on a point. -/
def isUnusable (point : curve.ProjectivePoint) : Bool :=
  curve.isIdentity point || !curve.isInPrimeOrderSubgroup point

def tryFromProjective (value : curve.ProjectivePoint) : Except CryptoError BjjPublicKey :=
  if isUnusable curve value then .error .invalidPublicKey else .ok ⟨curve.toBytes value⟩

def tryFromAffine (value : curve.AffinePoint) : Except CryptoError BjjPublicKey :=
  tryFromProjective curve (curve.ofAffine value)

def fromPrivkey (secret : Bytes) : Except CryptoError BjjPublicKey := do
  let bytes ← (tryFromSlice 32 "secret" secret).mapErr fun _ => .invalidSecretScalar
  let scalar ← okOr .invalidSecretScalar (curve.scalarFromBytes bytes)
  let point := curve.mul curve.generator scalar
  tryFromProjective curve point

def tryFromBytes (value : Bytes) : Except GeneralError BjjPublicKey := do
  let reprBytes ← tryFromSlice 32 "BjjPublicKey" value
  if (curve.fromBytes reprBytes).all (isUnusable curve) then .error (.parseError "BjjPublicKey")
  else .ok ⟨reprBytes⟩

def bytesRepresentable : BytesRepresentable BjjPublicKey where
  size := 32
  asRef key := key.bytes.toList
  tryFrom := tryFromBytes curve

def fromStr (hex : ConstHex) (s : String) : Except GeneralError BjjPublicKey :=
  (bytesRepresentable curve).fromHex hex s

/-- The derived deserializer, given the bytes that the data format delivers. -/
def deserialize (bytes : Bytes) : Except String BjjPublicKey := do
  let bytes ← (tryFromSlice 32 "BjjPublicKey" bytes).mapErr fun _ => "invalid length"
  .ok ⟨bytes⟩

def toProjective {ε : Type} (key : BjjPublicKey) : Outcome ε curve.ProjectivePoint :=
  Outcome.expect "BjjPublicKey is always valid" (okOr () (curve.fromBytes key.bytes))

end BjjPublicKey

structure BjjKeypair where
  secret : FixedBytes 32
  publicKey : BjjPublicKey
deriving DecidableEq

namespace BjjKeypair

def fromSecret (bytes : Bytes) : Except CryptoError BjjKeypair := do
  let publicKey ← BjjPublicKey.fromPrivkey curve bytes
  let secret ← (tryFromSlice 32 "value" bytes).mapErr fun _ => .invalidInputValue "value"
  .ok ⟨secret, publicKey⟩

def random : List (FixedBytes 32) → Option BjjKeypair
  | [] => none
  | draw :: draws =>
      match fromSecret curve draw.toList with
      | .ok keypair => some keypair
      | .error _ => random draws

end BjjKeypair

/-! ## Deposit addresses -/

inductive PixDepositAddress where
  | eth (address : Address)
  | bjj (key : BjjPublicKey)
deriving DecidableEq

/-- The variant of an address with its bytes, as a data format delivers them. -/
inductive SerializedDeposit where
  | eth (bytes : Bytes)
  | bjj (bytes : Bytes)
deriving DecidableEq

namespace PixDepositAddress

def toBjjPublicKey : PixDepositAddress → Except GeneralError BjjPublicKey
  | .bjj key => .ok key
  | .eth _ => .error .invalidInput

/-- The derived deserializer, which uses those of the variants' contents. -/
def deserialize : SerializedDeposit → Except String PixDepositAddress
  | .eth bytes => do
      let address ← (tryFromSlice 20 "Address" bytes).mapErr fun _ => "invalid length"
      .ok (.eth address)
  | .bjj bytes => do
      let key ← BjjPublicKey.deserialize bytes
      .ok (.bjj key)

end PixDepositAddress

/-! ## The ways to obtain a key -/

inductive BjjKeySource where
  | fromPrivkey (secret : Bytes)
  | tryFromBytes (value : Bytes)
  | fromStr (hex : ConstHex) (s : String)
  | tryFromProjective (value : curve.ProjectivePoint)
  | tryFromAffine (value : curve.AffinePoint)
  | keypairFromSecret (bytes : Bytes)
  | keypairRandom (draws : List (FixedBytes 32))
  | deserialize (bytes : Bytes)
  | deserializeDeposit (content : SerializedDeposit)
  /-- A key from another source, made into a deposit address and back. -/
  | throughDeposit (source : BjjKeySource)

variable {curve}

namespace BjjKeySource

def Yields : BjjKeySource curve → BjjPublicKey → Prop
  | .fromPrivkey secret, key => BjjPublicKey.fromPrivkey curve secret = .ok key
  | .tryFromBytes value, key => BjjPublicKey.tryFromBytes curve value = .ok key
  | .fromStr hex s, key => BjjPublicKey.fromStr curve hex s = .ok key
  | .tryFromProjective value, key => BjjPublicKey.tryFromProjective curve value = .ok key
  | .tryFromAffine value, key => BjjPublicKey.tryFromAffine curve value = .ok key
  | .keypairFromSecret bytes, key =>
      ∃ keypair, BjjKeypair.fromSecret curve bytes = .ok keypair ∧ keypair.publicKey = key
  | .keypairRandom draws, key =>
      ∃ keypair, BjjKeypair.random curve draws = some keypair ∧ keypair.publicKey = key
  | .deserialize bytes, key => BjjPublicKey.deserialize bytes = .ok key
  | .deserializeDeposit content, key =>
      ∃ address, PixDepositAddress.deserialize content = .ok address ∧
        address.toBjjPublicKey = .ok key
  | .throughDeposit source, key =>
      ∃ first, source.Yields first ∧ (PixDepositAddress.bjj first).toBjjPublicKey = .ok key

/-- The bytes of a point that is not the identity and lies in the prime-order subgroup. -/
def EncodesKey (curve : BabyJubjub) (bytes : Bytes) : Prop :=
  ∃ point, curve.isIdentity point = false ∧ curve.isInPrimeOrderSubgroup point = true ∧
    (curve.toBytes point).toList = bytes

/-- A source whose bytes, where it does not check them, are those of a key. -/
def Checked : BjjKeySource curve → Prop
  | .deserialize bytes => EncodesKey curve bytes
  | .deserializeDeposit (.bjj bytes) => EncodesKey curve bytes
  | .throughDeposit source => source.Checked
  | _ => True

end BjjKeySource

/-- The key is converted to a point without a panic.  The point is not the identity, lies in the
prime-order subgroup and has the key's bytes. -/
def BjjPublicKey.Sound (curve : BabyJubjub) (key : BjjPublicKey) : Prop :=
  ∃ point, (key.toProjective curve : Outcome Empty curve.ProjectivePoint) = .ok point ∧
    curve.isIdentity point = false ∧ curve.isInPrimeOrderSubgroup point = true ∧
    curve.toBytes point = key.bytes

/-! ## Which sources check the point -/

namespace BjjPublicKey

theorem isUnusable_eq_false {point : curve.ProjectivePoint} :
    isUnusable curve point = false ↔
      curve.isIdentity point = false ∧ curve.isInPrimeOrderSubgroup point = true := by
  simp [isUnusable]

theorem sound_iff (lawful : curve.Lawful) {key : BjjPublicKey} :
    key.Sound curve ↔ BjjKeySource.EncodesKey curve key.bytes.toList := by
  constructor
  · intro sound
    obtain ⟨point, _, finite, subgroup, encoded⟩ := sound
    exact ⟨point, finite, subgroup, congrArg FixedBytes.toList encoded⟩
  · intro encodes
    obtain ⟨point, finite, subgroup, encoded⟩ := encodes
    have same : curve.toBytes point = key.bytes := FixedBytes.ext encoded
    have read : curve.fromBytes key.bytes = some point := (lawful.reads _ _).mpr same
    refine ⟨point, ?_, finite, subgroup, same⟩
    rw [toProjective, read]
    rfl

theorem sound_of_usable (lawful : curve.Lawful) {ε : Type} {cause : ε}
    {point : curve.ProjectivePoint} {checked key : BjjPublicKey}
    (encoded : curve.toBytes point = checked.bytes)
    (made : (if isUnusable curve point then Except.error cause else .ok checked) = .ok key) :
    key.Sound curve := by
  cases unusable : isUnusable curve point with
  | true =>
      rw [unusable, if_pos rfl] at made
      cases made
  | false =>
      rw [unusable, if_neg Bool.false_ne_true] at made
      obtain ⟨finite, subgroup⟩ := isUnusable_eq_false.mp unusable
      rw [← Except.ok.inj made]
      exact (sound_iff lawful).mpr ⟨point, finite, subgroup, congrArg FixedBytes.toList encoded⟩

theorem tryFromProjective_sound (lawful : curve.Lawful) {value : curve.ProjectivePoint}
    {key : BjjPublicKey} (made : tryFromProjective curve value = .ok key) : key.Sound curve :=
  sound_of_usable lawful rfl made

theorem fromPrivkey_sound (lawful : curve.Lawful) {secret : Bytes} {key : BjjPublicKey}
    (made : fromPrivkey curve secret = .ok key) : key.Sound curve := by
  obtain ⟨_, _, made⟩ := bind_eq_ok.mp made
  obtain ⟨_, _, made⟩ := bind_eq_ok.mp made
  exact tryFromProjective_sound lawful made

theorem tryFromBytes_sound (lawful : curve.Lawful) {value : Bytes} {key : BjjPublicKey}
    (made : tryFromBytes curve value = .ok key) : key.Sound curve := by
  obtain ⟨bytes, _, made⟩ := bind_eq_ok.mp made
  cases read : curve.fromBytes bytes with
  | none =>
      rw [read] at made
      cases made
  | some point =>
      rw [read, Option.all_some] at made
      exact sound_of_usable lawful ((lawful.reads bytes point).mp read) made

theorem fromStr_sound (lawful : curve.Lawful) {hex : ConstHex} {s : String} {key : BjjPublicKey}
    (made : fromStr curve hex s = .ok key) : key.Sound curve := by
  obtain ⟨_, checked⟩ := BytesRepresentable.tryFrom_of_fromHex made
  exact tryFromBytes_sound lawful checked

theorem deserialize_eq_ok {bytes : Bytes} {key : BjjPublicKey} :
    deserialize bytes = .ok key ↔ key.bytes.toList = bytes := by
  unfold deserialize
  simp only [bind_eq_ok, exceptMapErr_eq_ok, tryFromSlice_eq_ok]
  constructor
  · intro read
    obtain ⟨content, same, built⟩ := read
    rw [← Except.ok.inj built]
    exact same
  · intro same
    exact ⟨key.bytes, same, rfl⟩

end BjjPublicKey

namespace BjjKeypair

theorem fromSecret_sound (lawful : curve.Lawful) {bytes : Bytes} {keypair : BjjKeypair}
    (made : fromSecret curve bytes = .ok keypair) : keypair.publicKey.Sound curve := by
  obtain ⟨publicKey, derived, made⟩ := bind_eq_ok.mp made
  obtain ⟨_, _, made⟩ := bind_eq_ok.mp made
  rw [← Except.ok.inj made]
  exact BjjPublicKey.fromPrivkey_sound lawful derived

theorem random_sound (lawful : curve.Lawful) {draws : List (FixedBytes 32)} {keypair : BjjKeypair}
    (drawn : random curve draws = some keypair) : keypair.publicKey.Sound curve := by
  induction draws with
  | nil => cases drawn
  | cons draw draws ih =>
      unfold random at drawn
      cases made : fromSecret curve draw.toList with
      | error cause =>
          rw [made] at drawn
          exact ih drawn
      | ok found =>
          rw [made] at drawn
          rw [← Option.some.inj drawn]
          exact fromSecret_sound lawful made

end BjjKeypair

theorem PixDepositAddress.deserialize_bjj_eq_ok {bytes : Bytes} {address : PixDepositAddress} :
    deserialize (.bjj bytes) = .ok address ↔
      ∃ key, BjjPublicKey.deserialize bytes = .ok key ∧ address = .bjj key := by
  unfold deserialize
  rw [bind_eq_ok]
  constructor
  · intro read
    obtain ⟨key, content, built⟩ := read
    exact ⟨key, content, (Except.ok.inj built).symm⟩
  · intro read
    obtain ⟨key, content, built⟩ := read
    exact ⟨key, content, congrArg Except.ok built.symm⟩

theorem deserialize_sound_iff (lawful : curve.Lawful) {bytes : Bytes} {key : BjjPublicKey}
    (read : BjjPublicKey.deserialize bytes = .ok key) :
    key.Sound curve ↔ BjjKeySource.EncodesKey curve bytes := by
  rw [BjjPublicKey.sound_iff lawful, BjjPublicKey.deserialize_eq_ok.mp read]

/-- A source yields a sound key exactly if it is not a deserializer, or the deserialized bytes
are those of a point that the other constructors accept. -/
theorem sound_iff_checked (lawful : curve.Lawful) {source : BjjKeySource curve}
    {key : BjjPublicKey} (made : source.Yields key) : key.Sound curve ↔ source.Checked := by
  induction source generalizing key with
  | fromPrivkey secret =>
      exact iff_of_true (BjjPublicKey.fromPrivkey_sound lawful made) trivial
  | tryFromBytes value =>
      exact iff_of_true (BjjPublicKey.tryFromBytes_sound lawful made) trivial
  | fromStr hex s => exact iff_of_true (BjjPublicKey.fromStr_sound lawful made) trivial
  | tryFromProjective value =>
      exact iff_of_true (BjjPublicKey.tryFromProjective_sound lawful made) trivial
  | tryFromAffine value =>
      exact iff_of_true (BjjPublicKey.tryFromProjective_sound lawful made) trivial
  | keypairFromSecret bytes =>
      obtain ⟨keypair, derived, same⟩ := made
      rw [← same]
      exact iff_of_true (BjjKeypair.fromSecret_sound lawful derived) trivial
  | keypairRandom draws =>
      obtain ⟨keypair, drawn, same⟩ := made
      rw [← same]
      exact iff_of_true (BjjKeypair.random_sound lawful drawn) trivial
  | deserialize bytes => exact deserialize_sound_iff lawful made
  | deserializeDeposit content =>
      obtain ⟨address, read, converted⟩ := made
      cases content with
      | eth bytes =>
          obtain ⟨_, _, built⟩ := bind_eq_ok.mp read
          rw [← Except.ok.inj built] at converted
          cases converted
      | bjj bytes =>
          obtain ⟨found, content, built⟩ := PixDepositAddress.deserialize_bjj_eq_ok.mp read
          rw [built] at converted
          rw [← Except.ok.inj converted]
          exact deserialize_sound_iff lawful content
  | throughDeposit source ih =>
      obtain ⟨first, yields, converted⟩ := made
      rw [← Except.ok.inj converted]
      exact ih yields

/-! ## Bytes that are no point -/

inductive NamedPoint where
  | identity
  | base
deriving DecidableEq

/-- The `y` coordinate in little-endian bytes; the sign bit of both points is clear. -/
def NamedPoint.encoding : NamedPoint → FixedBytes 32
  | .identity => ⟨(toBE 32 1).reverse, by decide⟩
  | .base =>
      ⟨(toBE 32 0x25797203f7a0b24925572e1cd16bf9edfce0051fb9e133774b3c257a872d7d8b).reverse,
        by decide⟩

def NamedPoint.ofEncoding (bytes : FixedBytes 32) : Option NamedPoint :=
  if encoding identity = bytes then some identity
  else if encoding base = bytes then some base
  else none

theorem NamedPoint.ofEncoding_eq_some {bytes : FixedBytes 32} {point : NamedPoint} :
    ofEncoding bytes = some point ↔ point.encoding = bytes := by
  have distinct : encoding base ≠ encoding identity := by decide
  unfold ofEncoding
  constructor
  · intro read
    split_ifs at read with isIdentity isBase
    · rw [← Option.some.inj read]
      exact isIdentity
    · rw [← Option.some.inj read]
      exact isBase
  · intro written
    rw [← written]
    cases point with
    | identity => exact if_pos rfl
    | base => rw [if_neg distinct.symm, if_pos rfl]

def subgroupOrder : Nat :=
  2736030358979909402780800718157159386076813972158567259200215660948447373041

/-- The curve crate, right at the identity and the base point. -/
def namedCurve : BabyJubjub where
  ProjectivePoint := NamedPoint
  AffinePoint := NamedPoint
  Scalar := Fin subgroupOrder
  generator := .base
  mul point scalar := if scalar.val = 0 then .identity else point
  ofAffine point := point
  isIdentity point := point == .identity
  isInPrimeOrderSubgroup _ := true
  fromBytes := NamedPoint.ofEncoding
  toBytes := NamedPoint.encoding
  scalarFromBytes bytes :=
    let value := ofBE bytes.toList.reverse
    if small : value < subgroupOrder then some ⟨value, small⟩ else none

theorem namedCurve_lawful : namedCurve.Lawful where
  reads _ _ := NamedPoint.ofEncoding_eq_some

def fullBytes : FixedBytes 32 := ⟨List.replicate 32 0xff, by rfl⟩

theorem toProjective_fullBytes :
    ((⟨fullBytes⟩ : BjjPublicKey).toProjective namedCurve : Outcome Empty NamedPoint) =
      .panicked "BjjPublicKey is always valid" := rfl

theorem sound_iff_checked_fullBytes :
    BjjPublicKey.Sound namedCurve ⟨fullBytes⟩ ↔
      (BjjKeySource.deserialize fullBytes.toList : BjjKeySource namedCurve).Checked :=
  sound_iff_checked namedCurve_lawful (BjjPublicKey.deserialize_eq_ok.mpr rfl)

/-- The deserializers accept bytes that are no point, and the conversion of the key panics. -/
theorem deserialized_not_sound :
    (BjjKeySource.deserialize fullBytes.toList : BjjKeySource namedCurve).Yields ⟨fullBytes⟩ ∧
      (BjjKeySource.deserializeDeposit (.bjj fullBytes.toList) :
        BjjKeySource namedCurve).Yields ⟨fullBytes⟩ ∧
      ((⟨fullBytes⟩ : BjjPublicKey).toProjective namedCurve : Outcome Empty NamedPoint) =
        .panicked "BjjPublicKey is always valid" ∧
      ¬∀ (source : BjjKeySource namedCurve) (key : BjjPublicKey), source.Yields key →
        key.Sound namedCurve := by
  have read : BjjPublicKey.deserialize fullBytes.toList = .ok ⟨fullBytes⟩ :=
    BjjPublicKey.deserialize_eq_ok.mpr rfl
  refine ⟨read, ⟨.bjj ⟨fullBytes⟩, ?_, rfl⟩, toProjective_fullBytes, ?_⟩
  · exact PixDepositAddress.deserialize_bjj_eq_ok.mpr ⟨⟨fullBytes⟩, read, rfl⟩
  · intro always
    obtain ⟨point, converted, _⟩ := always (.deserialize fullBytes.toList) ⟨fullBytes⟩ read
    rw [toProjective_fullBytes] at converted
    cases converted

end HoprTypes.Crypto
