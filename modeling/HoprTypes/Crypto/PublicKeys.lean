import HoprTypes.Crypto.Instance
import HoprTypes.Lib.Primality

/-!
# Ways to obtain a public key

A public key caches its compressed encoding and its address beside its point.  All
constructors but the derived deserializer compute the cached values from the point;
equality of keys looks at the compressed encoding only.
-/

set_option autoImplicit false

namespace HoprTypes.Crypto

open BigEndian Primality HoprTypes.Primitive

/-! ## The field of the curve is prime -/

def fieldModulusSteps : List Step :=
  [⟨13441, 11, [2, 2, 2, 2, 2, 2, 2, 3, 5, 7]⟩,
    ⟨7723, 3, [2, 3, 3, 3, 11, 13]⟩,
    ⟨5323, 5, [2, 3, 887]⟩,
    ⟨2621, 2, [2, 2, 5, 131]⟩,
    ⟨24809, 6, [2, 2, 2, 7, 443]⟩,
    ⟨1373, 2, [2, 2, 7, 7, 7]⟩,
    ⟨13331831, 13, [2, 5, 971, 1373]⟩,
    ⟨173378833005251801, 6, [2, 2, 2, 5, 5, 2621, 24809, 13331831]⟩,
    ⟨22149492674086928081353, 5, [2, 2, 2, 3, 5323, 173378833005251801]⟩,
    ⟨132896956044521568488119, 6, [2, 3, 22149492674086928081353]⟩,
    ⟨1627, 3, [2, 3, 271]⟩,
    ⟨2657, 3, [2, 2, 2, 2, 2, 83]⟩,
    ⟨4423, 3, [2, 3, 11, 67]⟩,
    ⟨41201, 3, [2, 2, 2, 2, 5, 5, 103]⟩,
    ⟨96557, 2, [2, 2, 101, 239]⟩,
    ⟨20113, 10, [2, 2, 2, 2, 3, 419]⟩,
    ⟨1206781, 10, [2, 2, 3, 5, 20113]⟩,
    ⟨7240687, 3, [2, 3, 1206781]⟩,
    ⟨107590001, 3, [2, 2, 2, 2, 5, 5, 5, 5, 7, 29, 53]⟩,
    ⟨255515944373312847190720520512484175977, 3,
      [2, 2, 2, 7, 7, 11, 1627, 2657, 4423, 41201, 96557, 7240687, 107590001]⟩,
    ⟨205115282021455665897114700593932402728804164701536103180137503955397371, 10,
      [2, 3, 5, 29, 29, 31, 7723, 132896956044521568488119,
        255515944373312847190720520512484175977]⟩,
    ⟨fieldModulus, 3,
      [2, 3, 7, 13441, 205115282021455665897114700593932402728804164701536103180137503955397371]⟩]

theorem fieldModulus_prime : fieldModulus.Prime := by
  have checked : certifies 256 [] fieldModulusSteps = true := by decide +kernel
  have none : ∀ q ∈ ([] : List Nat), q.Prime := by simp
  have primes := prime_of_certifies none checked
  exact primes (fieldModulusSteps.getLast (by decide)) (List.getLast_mem _)

/-! ## Compressed encodings -/

theorem toSec1Point_injective {left right : AffinePoint}
    (same : left.toSec1Point true = right.toSec1Point true) : left = right := by
  have lengths := congrArg List.length same
  cases left with
  | identity =>
      cases right with
      | identity => rfl
      | affine x y onCurve => simp [AffinePoint.toSec1Point] at lengths
  | affine x y onCurve =>
      cases right with
      | identity => simp [AffinePoint.toSec1Point] at lengths
      | affine x' y' onCurve' =>
          have small := fieldModulus_lt
          have odd := fieldModulus_odd
          simp only [AffinePoint.toSec1Point, if_true, List.cons.injEq] at same
          obtain ⟨prefixes, coordinates⟩ := same
          have sameX : x = x' := Fin.ext (toBE_injective (lt_trans x.isLt small)
            (lt_trans x'.isLt small) coordinates)
          subst sameX
          have parity : y.val % 2 = y'.val % 2 := by
            rcases Nat.mod_two_eq_zero_or_one y.val with even | odd <;>
              rcases Nat.mod_two_eq_zero_or_one y'.val with even' | odd' <;> simp_all
          have sameY : y = y' := Fin.ext (root_eq_of_parity fieldModulus_prime odd y.isLt y'.isLt
            (onCurve.trans onCurve'.symm) parity)
          subst sameY
          rfl

/-! ## The constructors -/

namespace PublicKey

/-- Equality of keys, which looks at the compressed encoding only. -/
def eq (left right : PublicKey) : Bool := left.compressed == right.compressed

def tryFromAffine (point : AffinePoint) : Except CryptoError PublicKey := do
  let finite ← okOr .invalidPublicKey (NonIdentity.new point)
  .ok (ofPoint finite)

variable (curve : Secp256k1)

/-- A key of the `k256` crate from its SEC1 encoding. -/
def fromSec1Bytes (value : Bytes) : Except GeneralError PublicKey := do
  let key ← okOr (.parseError "invalid secp256k1 point") (nativeKey curve value)
  .ok (ofPoint key)

/-- Accepts all encodings of a key; the prefix of the plain coordinates is added first. -/
def tryFromBytes (value : Bytes) : Except GeneralError PublicKey :=
  if value.length = 65 then fromSec1Bytes curve value
  else if value.length = 64 then fromSec1Bytes curve (4 :: value)
  else if value.length = 33 then fromSec1Bytes curve value
  else .error (.parseError "invalid secp256k1 point")

/-- Recovery by the `k256` crate, which yields a point. -/
def recoverK256 (recovered : Except CryptoError AffinePoint) : Except CryptoError PublicKey := do
  tryFromAffine (← recovered)

/-- Recovery by the `secp256k1` crate, whose key is serialized and parsed. -/
def recoverNative (recovered : Except CryptoError NonIdentity) : Except CryptoError PublicKey := do
  let key ← recovered
  (tryFromBytes curve (key.val.toSec1Point false)).mapErr fun _ => .calculationError

end PublicKey

structure SerializedPublicKey where
  point : Bytes
  compressed : Bytes
  address : Bytes
deriving DecidableEq

/-- The derived deserializer: every field is read on its own. -/
def PublicKey.deserialize (curve : Secp256k1) (fields : SerializedPublicKey) :
    Except String PublicKey := do
  let point ← okOr "invalid point" (nativeKey curve fields.point)
  let compressed ← (tryFromSlice 33 "compressed" fields.compressed).mapErr fun _ =>
    "invalid length"
  let address ← (tryFromSlice 20 "address" fields.address).mapErr fun _ => "invalid length"
  .ok ⟨point, compressed, address⟩

inductive PublicKeySource where
  | fromPrivkey (privateKey : Bytes)
  | tryFromBytes (value : Bytes)
  | tryFromAffine (point : AffinePoint)
  | fromPoint (point : NonIdentity)
  | recoverK256 (recovered : Except CryptoError AffinePoint)
  | recoverNative (recovered : Except CryptoError NonIdentity)
  | deserialize (fields : SerializedPublicKey)

namespace PublicKeySource

variable (curve : Secp256k1)

def Yields (source : PublicKeySource) (key : PublicKey) : Prop :=
  match source with
  | .fromPrivkey privateKey => PublicKey.fromPrivkey curve privateKey = .ok key
  | .tryFromBytes value => PublicKey.tryFromBytes curve value = .ok key
  | .tryFromAffine point => PublicKey.tryFromAffine point = .ok key
  | .fromPoint point => PublicKey.ofPoint point = key
  | .recoverK256 recovered => PublicKey.recoverK256 recovered = .ok key
  | .recoverNative recovered => PublicKey.recoverNative curve recovered = .ok key
  | .deserialize fields => PublicKey.deserialize curve fields = .ok key

/-- Serialized fields of which the cached ones belong to the point. -/
def Coherent : PublicKeySource → Prop
  | .deserialize fields => ∀ point, nativeKey curve fields.point = some point →
      fields.compressed = point.val.toSec1Point true ∧
        fields.address = (affinePointToAddress point).toList
  | _ => True

end PublicKeySource

/-- The cached values belong to the point. -/
def PublicKey.Consistent (key : PublicKey) : Prop := key = PublicKey.ofPoint key.point

/-! ## Which sources keep the link -/

variable {curve : Secp256k1}

theorem ofPoint_consistent (point : NonIdentity) : (PublicKey.ofPoint point).Consistent := rfl

theorem consistent_of_ofPoint {key : PublicKey}
    (made : ∃ point, key = PublicKey.ofPoint point) : key.Consistent := by
  obtain ⟨point, rfl⟩ := made
  rfl

theorem fromSec1Bytes_ofPoint {value : Bytes} {key : PublicKey}
    (made : PublicKey.fromSec1Bytes curve value = .ok key) :
    ∃ point, key = PublicKey.ofPoint point := by
  obtain ⟨point, _, built⟩ := bind_eq_ok.mp made
  exact ⟨point, (Except.ok.inj built).symm⟩

theorem tryFromBytes_ofPoint {value : Bytes} {key : PublicKey}
    (made : PublicKey.tryFromBytes curve value = .ok key) :
    ∃ point, key = PublicKey.ofPoint point := by
  unfold PublicKey.tryFromBytes at made
  split_ifs at made
  · exact fromSec1Bytes_ofPoint made
  · exact fromSec1Bytes_ofPoint made
  · exact fromSec1Bytes_ofPoint made

theorem tryFromAffine_ofPoint {point : AffinePoint} {key : PublicKey}
    (made : PublicKey.tryFromAffine point = .ok key) :
    ∃ finite, key = PublicKey.ofPoint finite := by
  obtain ⟨finite, _, built⟩ := bind_eq_ok.mp made
  exact ⟨finite, (Except.ok.inj built).symm⟩

theorem deserialize_eq_ok {fields : SerializedPublicKey} {key : PublicKey} :
    PublicKey.deserialize curve fields = .ok key ↔
      nativeKey curve fields.point = some key.point ∧
        fields.compressed = key.compressed.toList ∧ fields.address = key.address.toList := by
  unfold PublicKey.deserialize
  simp only [bind_eq_ok, okOr_eq_ok, exceptMapErr_eq_ok, tryFromSlice_eq_ok]
  constructor
  · rintro ⟨point, parsed, compressed, sameCompressed, address, sameAddress, built⟩
    rw [← Except.ok.inj built]
    exact ⟨parsed, sameCompressed.symm, sameAddress.symm⟩
  · rintro ⟨parsed, sameCompressed, sameAddress⟩
    exact ⟨key.point, parsed, key.compressed, sameCompressed.symm, key.address,
      sameAddress.symm, rfl⟩

theorem deserialize_consistent_iff {fields : SerializedPublicKey} {key : PublicKey}
    (made : PublicKey.deserialize curve fields = .ok key) :
    key.Consistent ↔ (PublicKeySource.deserialize fields).Coherent curve := by
  obtain ⟨parsed, compressed, address⟩ := deserialize_eq_ok.mp made
  constructor
  · intro consistent point found
    rw [parsed] at found
    obtain rfl := Option.some.inj found
    rw [compressed, address, consistent]
    exact ⟨rfl, rfl⟩
  · intro coherent
    obtain ⟨sameCompressed, sameAddress⟩ := coherent key.point parsed
    cases key with
    | mk point cached derived =>
        have encoding : cached = (PublicKey.ofPoint point).compressed :=
          FixedBytes.ext (compressed.symm.trans sameCompressed)
        have derivedAddress : derived = affinePointToAddress point :=
          FixedBytes.ext (address.symm.trans sameAddress)
        rw [encoding, derivedAddress]
        exact ofPoint_consistent point

/-- A source yields a consistent key exactly if it is not the deserializer, or the deserialized
fields belong together. -/
theorem consistent_iff_coherent {source : PublicKeySource} {key : PublicKey}
    (made : source.Yields curve key) : key.Consistent ↔ source.Coherent curve := by
  cases source with
  | fromPrivkey privateKey =>
      exact iff_of_true (consistent_of_ofPoint (PublicKey.address_of_fromPrivkey made)) trivial
  | tryFromBytes value =>
      exact iff_of_true (consistent_of_ofPoint (tryFromBytes_ofPoint made)) trivial
  | tryFromAffine point =>
      exact iff_of_true (consistent_of_ofPoint (tryFromAffine_ofPoint made)) trivial
  | fromPoint point => exact iff_of_true (consistent_of_ofPoint ⟨point, made.symm⟩) trivial
  | recoverK256 recovered =>
      obtain ⟨point, _, built⟩ := bind_eq_ok.mp made
      exact iff_of_true (consistent_of_ofPoint (tryFromAffine_ofPoint built)) trivial
  | recoverNative recovered =>
      obtain ⟨point, _, built⟩ := bind_eq_ok.mp made
      exact iff_of_true
        (consistent_of_ofPoint (tryFromBytes_ofPoint (exceptMapErr_eq_ok.mp built))) trivial
  | deserialize fields => exact deserialize_consistent_iff made

theorem eq_of_consistent {left right : PublicKey} (leftConsistent : left.Consistent)
    (rightConsistent : right.Consistent) (same : left.eq right = true) :
    left.point = right.point ∧ left.address = right.address := by
  have encodings : left.compressed = right.compressed := eq_of_beq same
  rw [leftConsistent, rightConsistent] at encodings
  have points : left.point = right.point :=
    Subtype.ext (toSec1Point_injective (congrArg FixedBytes.toList encodings))
  refine ⟨points, ?_⟩
  rw [leftConsistent, rightConsistent, points]

/-- A key of any source is consistent exactly if the source is coherent, and keys of coherent
sources that compare equal stand for one point and one address. -/
theorem publicKey_consistent_iff (curve : Secp256k1) :
    (∀ (source : PublicKeySource) (key : PublicKey), source.Yields curve key →
      (key.Consistent ↔ source.Coherent curve)) ∧
      ∀ (first second : PublicKeySource) (left right : PublicKey),
        first.Yields curve left → second.Yields curve right →
          first.Coherent curve → second.Coherent curve → left.eq right = true →
            left.point = right.point ∧ left.address = right.address := by
  constructor
  · intro source key made
    exact consistent_iff_coherent made
  · intro first second left right madeLeft madeRight coherentLeft coherentRight same
    have leftConsistent := (consistent_iff_coherent madeLeft).mpr coherentLeft
    have rightConsistent := (consistent_iff_coherent madeRight).mpr coherentRight
    exact eq_of_consistent leftConsistent rightConsistent same

/-- The three fields of the key of the secret 1, as a serializer writes them. -/
def oneKeyFields : SerializedPublicKey where
  point := basePoint.val.toSec1Point true
  compressed := oneKey.compressed.toList
  address := oneKey.address.toList

theorem nativeKey_oneKeyCurve (bytes : Bytes) : nativeKey oneKeyCurve bytes = some basePoint :=
  NonIdentity.new_val basePoint

theorem oneKeyFields_coherent :
    (PublicKeySource.deserialize oneKeyFields).Coherent oneKeyCurve := by
  intro point parsed
  rw [nativeKey_oneKeyCurve] at parsed
  obtain rfl := Option.some.inj parsed
  exact ⟨rfl, rfl⟩

theorem oneKeyFields_yields :
    (PublicKeySource.deserialize oneKeyFields).Yields oneKeyCurve oneKey :=
  deserialize_eq_ok.mpr ⟨nativeKey_oneKeyCurve _, rfl, rfl⟩

theorem publicKey_consistent_iff_oneKey :
    (oneKey.Consistent ↔ (PublicKeySource.deserialize oneKeyFields).Coherent oneKeyCurve) ∧
      oneKey.point = (PublicKey.ofPoint basePoint).point ∧
      oneKey.address = (PublicKey.ofPoint basePoint).address := by
  have both := publicKey_consistent_iff oneKeyCurve
  refine ⟨both.1 _ oneKey oneKeyFields_yields, ?_⟩
  exact both.2 (.deserialize oneKeyFields) (.fromPoint basePoint) oneKey
    (PublicKey.ofPoint basePoint) oneKeyFields_yields rfl oneKeyFields_coherent trivial
    (beq_self_eq_true _)

/-- The deserializer pairs the point and the encoding of one key with the zero address. -/
theorem deserialize_foreign_address :
    ∃ key, PublicKey.deserialize oneKeyCurve
        { oneKeyFields with address := Address.zero.toList } = .ok key ∧
      key.eq oneKey = true ∧ key.address ≠ oneKey.address ∧ ¬ key.Consistent := by
  have foreign : Address.zero ≠ oneKey.address := by decide +kernel
  refine ⟨{ oneKey with address := Address.zero }, ?_, beq_self_eq_true _, foreign, ?_⟩
  · exact deserialize_eq_ok.mpr ⟨nativeKey_oneKeyCurve _, rfl, rfl⟩
  · intro consistent
    exact foreign (congrArg PublicKey.address consistent)

end HoprTypes.Crypto
