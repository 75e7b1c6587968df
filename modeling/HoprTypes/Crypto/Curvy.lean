import HoprTypes.Crypto.Bn254Keypair
import HoprTypes.Crypto.Sec1

/-!
# Curvy scan identities

A scan identity is a spend key on secp256k1 with a view key on BN254; the scan secret has the
secret of the view key instead. Both are stored as the parts one behind the other.
-/

set_option autoImplicit false

namespace HoprTypes.Crypto

open BigEndian Bn254 HoprTypes.Primitive

/-! ## The codecs -/

structure CurvyScanPublicKey where
  spendMetaKey : PublicKey
  viewKey : Bn254PublicKey
deriving DecidableEq

variable (curve : Secp256k1) (field : FieldSqrt) (library : G1Library)

namespace CurvyScanPublicKey

def size : Nat := PublicKey.sizeCompressed + 32

def toEncoded (value : CurvyScanPublicKey) : FixedBytes 65 :=
  ⟨value.spendMetaKey.compressed.toList ++ value.viewKey.bytes.toList, by simp⟩

theorem toList_toEncoded (value : CurvyScanPublicKey) :
    value.toEncoded.toList =
      value.spendMetaKey.compressed.toList ++ value.viewKey.bytes.toList := rfl

def tryFrom (value : Bytes) : Except GeneralError CurvyScanPublicKey :=
  if value.length ≠ size then .error (.parseError "CurvyScanPublicKey")
  else do
    let spendMetaKey ← PublicKey.tryFromBytes curve (value.take PublicKey.sizeCompressed)
    let viewKey ← Bn254PublicKey.tryFrom field (value.drop PublicKey.sizeCompressed)
    .ok ⟨spendMetaKey, viewKey⟩

end CurvyScanPublicKey

structure CurvyScanSecret where
  view : Bn254Keypair library
  spendMetaKey : PublicKey

namespace CurvyScanSecret

def size : Nat := 32 + PublicKey.sizeCompressed

def publicKey {library : G1Library} (secret : CurvyScanSecret library) : CurvyScanPublicKey :=
  ⟨secret.spendMetaKey, secret.view.publicKey⟩

/-- The view scalar, big-endian, and the spend key. -/
def toBytes {library : G1Library} {ε : Type} (secret : CurvyScanSecret library) :
    Outcome ε (FixedBytes 65) := do
  let view ← secret.view.secretBe
  .ok ⟨view.toList ++ secret.spendMetaKey.compressed.toList, by simp⟩

def tryFrom (value : Bytes) : Except GeneralError (CurvyScanSecret library) :=
  if value.length ≠ size then .error (.parseError "CurvyScanSecret")
  else do
    let view ← (Bn254Keypair.fromSecretBe library (value.take 32)).mapErr fun _ =>
      .parseError "Curvy view scalar v"
    let spendMetaKey ← PublicKey.tryFromBytes curve (value.drop 32)
    .ok ⟨view, spendMetaKey⟩

end CurvyScanSecret

/-! ## What is decoded -/

variable {curve : Secp256k1} {field : FieldSqrt} {library : G1Library}

theorem NonIdentity.new_eq_some {point : AffinePoint} {finite : NonIdentity} :
    NonIdentity.new point = some finite ↔ finite.val = point := by
  constructor
  · exact newNonIdentity_val
  · intro same
    rw [← same]
    exact NonIdentity.new_val finite

/-- A spend key is read from the compressed encoding of its point, or from the compact form of
it where the crate reads this one. -/
theorem tryFromBytes_compressed {compact : Bool} (reading : curve.ReadsCompressed compact)
    {bytes : Bytes} (length : bytes.length = 33) {key : PublicKey} :
    PublicKey.tryFromBytes curve bytes = .ok key ↔
      key.Consistent ∧ (bytes = key.compressed.toList ∨
        compact = true ∧ key.point.val.IsCompact bytes) := by
  have reads (finite : NonIdentity) : nativeKey curve bytes = some finite ↔
      bytes = finite.val.toSec1Point true ∨ compact = true ∧ finite.val.IsCompact bytes := by
    simp only [nativeKey, Option.bind_eq_bind, Option.bind_eq_some_iff, reading.reads length,
      NonIdentity.new_eq_some]
    constructor
    · rintro ⟨point, encoded, same⟩
      rw [same]
      exact encoded
    · intro encoded
      exact ⟨finite.val, encoded, rfl⟩
  rw [PublicKey.tryFromBytes, if_neg (by omega), if_neg (by omega), if_pos length,
    PublicKey.fromSec1Bytes]
  simp only [bind_eq_ok, okOr_eq_ok, reads]
  constructor
  · rintro ⟨finite, encoded, built⟩
    rw [← Except.ok.inj built]
    exact ⟨ofPoint_consistent finite, encoded⟩
  · rintro ⟨consistent, encoded⟩
    have ownEncoding : key.compressed.toList = key.point.val.toSec1Point true :=
      congrArg (fun key => key.compressed.toList) consistent
    rw [ownEncoding] at encoded
    exact ⟨key.point, encoded, congrArg Except.ok consistent.symm⟩

theorem length_of_isCompact {point : AffinePoint} {bytes : Bytes} (form : point.IsCompact bytes) :
    bytes.length = 33 := by
  cases point with
  | identity => cases form
  | affine x y onCurve => rw [form.2, List.length_cons, length_toBE]

theorem exists_key_of_isCompact {point : AffinePoint} {bytes : Bytes}
    (form : point.IsCompact bytes) :
    ∃ key : PublicKey, key.Consistent ∧ key.point.val.IsCompact bytes ∧
      key.compressed.toList ≠ bytes := by
  have finite : point ≠ .identity := by
    intro identity
    rw [identity] at form
    cases form
  refine ⟨PublicKey.ofPoint ⟨point, finite⟩, ofPoint_consistent _, form, ?_⟩
  intro same
  have compressed : point.toSec1Point true = bytes := same
  rw [← compressed] at form
  exact not_isCompact_toSec1Point point point form

namespace CurvyScanPublicKey

/-- What a byte string is decoded to, if it is, is encoded as this byte string. -/
def EncodesBack (curve : Secp256k1) (field : FieldSqrt) (value : Bytes) : Prop :=
  ∀ key, tryFrom curve field value = .ok key → key.toEncoded.toList = value

/-- An identity whose spend key is in the compact form. -/
def HasCompactSpendKey (value : Bytes) : Prop :=
  ∃ (point : AffinePoint) (view : Bn254PublicKey), point.IsCompact (value.take 33) ∧
    value.drop 33 = view.bytes.toList ∧ view.IsPoint

variable {compact : Bool} (reading : curve.ReadsCompressed compact)
include reading

/-- The identities that are decoded, each from its encoding or one with a compact spend key. -/
theorem tryFrom_eq_ok {value : Bytes} {key : CurvyScanPublicKey} :
    tryFrom curve field value = .ok key ↔
      value.length = size ∧ key.spendMetaKey.Consistent ∧
        (value.take 33 = key.spendMetaKey.compressed.toList ∨
          compact = true ∧ key.spendMetaKey.point.val.IsCompact (value.take 33)) ∧
        value.drop 33 = key.viewKey.bytes.toList ∧ key.viewKey.IsPoint := by
  unfold tryFrom
  by_cases length : value.length = size
  · have exactLength : value.length = 65 := length
    have front : (value.take 33).length = 33 := by simp [exactLength]
    have back : (value.drop 33).length = 32 := by simp [exactLength]
    rw [if_neg (not_not.mpr length)]
    simp only [bind_eq_ok, PublicKey.sizeCompressed, tryFromBytes_compressed reading front,
      Bn254PublicKey.tryFrom_eq_ok_of_length back]
    constructor
    · rintro ⟨spend, ⟨consistent, spendBytes⟩, view, ⟨viewBytes, isPoint⟩, built⟩
      rw [← Except.ok.inj built]
      exact ⟨length, consistent, spendBytes, viewBytes, isPoint⟩
    · rintro ⟨_, consistent, spendBytes, viewBytes, isPoint⟩
      exact ⟨key.spendMetaKey, ⟨consistent, spendBytes⟩, key.viewKey, ⟨viewBytes, isPoint⟩, rfl⟩
  · rw [if_pos length]
    constructor
    · intro impossible
      cases impossible
    · rintro ⟨exact, _⟩
      exact absurd exact length

/-- An identity comes back from its encoding if the encodings of both keys belong to points. -/
theorem tryFrom_toEncoded_iff (key : CurvyScanPublicKey) :
    tryFrom curve field key.toEncoded.toList = .ok key ↔
      key.spendMetaKey.Consistent ∧ key.viewKey.IsPoint := by
  have front : key.toEncoded.toList.take 33 = key.spendMetaKey.compressed.toList :=
    List.take_left' (by simp)
  have back : key.toEncoded.toList.drop 33 = key.viewKey.bytes.toList :=
    List.drop_left' (by simp)
  have length : key.toEncoded.toList.length = size := FixedBytes.length_toList _
  rw [tryFrom_eq_ok reading]
  constructor
  · rintro ⟨_, consistent, _, _, isPoint⟩
    exact ⟨consistent, isPoint⟩
  · rintro ⟨consistent, isPoint⟩
    exact ⟨length, consistent, .inl front, back, isPoint⟩

theorem encodesBack_iff (value : Bytes) :
    EncodesBack curve field value ↔ ¬ (compact = true ∧ HasCompactSpendKey value) := by
  constructor
  · rintro encodesBack ⟨supported, point, view, form, viewBytes, isPoint⟩
    obtain ⟨spend, consistent, ownForm, other⟩ := exists_key_of_isCompact form
    have length : value.length = size := by
      have parts := congrArg List.length (List.take_append_drop 33 value)
      rw [List.length_append, length_of_isCompact form, viewBytes, FixedBytes.length_toList]
        at parts
      exact parts.symm
    have encoded := encodesBack ⟨spend, view⟩ ((tryFrom_eq_ok reading).mpr
      ⟨length, consistent, .inr ⟨supported, ownForm⟩, viewBytes, isPoint⟩)
    apply other
    rw [← encoded]
    exact (List.take_left' (by simp)).symm
  · intro noCompact key decoded
    obtain ⟨_, consistent, spendBytes, viewBytes, isPoint⟩ := (tryFrom_eq_ok reading).mp decoded
    rcases spendBytes with compressed | ⟨supported, form⟩
    · rw [toList_toEncoded, ← compressed, ← viewBytes, List.take_append_drop]
    · exact absurd ⟨supported, _, _, form, viewBytes, isPoint⟩ noCompact

end CurvyScanPublicKey

namespace CurvyScanSecret

theorem toBytes_eq {ε : Type} (secret : CurvyScanSecret library) :
    (secret.toBytes : Outcome ε _) =
      .ok ⟨(reversed secret.view.secret).toList ++ secret.spendMetaKey.compressed.toList,
        by simp⟩ := by
  rw [toBytes, Bn254Keypair.secretBe_eq]
  rfl

/-- What a byte string is decoded to, if it is, is stored as this byte string. -/
def EncodesBack (curve : Secp256k1) (library : G1Library) (value : Bytes) : Prop :=
  ∀ secret : CurvyScanSecret library, tryFrom curve library value = .ok secret →
    ∃ encoded, (secret.toBytes : Outcome GeneralError _) = .ok encoded ∧ encoded.toList = value

/-- A scalar in range and a spend key in the compact form. -/
def HasCompactSpendKey (value : Bytes) : Prop :=
  ∃ (scalar : FixedBytes 32) (point : AffinePoint), value.take 32 = scalar.toList ∧
    (1 ≤ ofBE scalar.toList ∧ ofBE scalar.toList ≤ scalarModulus - 1) ∧
    point.IsCompact (value.drop 32)

def RoundTrips (curve : Secp256k1) (secret : CurvyScanSecret library) : Prop :=
  ∃ encoded, (secret.toBytes : Outcome GeneralError _) = .ok encoded ∧
    tryFrom curve library encoded.toList = .ok secret

variable {compact : Bool} (reading : curve.ReadsCompressed compact)
include reading

/-- The secrets that are decoded, each from its stored form or one with a compact spend key. -/
theorem tryFrom_eq_ok {value : Bytes} {secret : CurvyScanSecret library} :
    tryFrom curve library value = .ok secret ↔
      value.length = size ∧ value.take 32 = (reversed secret.view.secret).toList ∧
        secret.spendMetaKey.Consistent ∧
        (value.drop 32 = secret.spendMetaKey.compressed.toList ∨
          compact = true ∧ secret.spendMetaKey.point.val.IsCompact (value.drop 32)) := by
  unfold tryFrom
  by_cases length : value.length = size
  · have exactLength : value.length = 65 := length
    have front : (value.take 32).length = 32 := by simp [exactLength]
    have back : (value.drop 32).length = 33 := by simp [exactLength]
    have scalar (view : Bn254Keypair library) :
        Bn254Keypair.fromSecretBe library (value.take 32) = .ok view ↔
          reversed view.secret = ⟨value.take 32, front⟩ :=
      @Bn254Keypair.fromSecretBe_eq_ok library ⟨value.take 32, front⟩ view
    rw [if_neg (not_not.mpr length)]
    simp only [bind_eq_ok, exceptMapErr_eq_ok, tryFromBytes_compressed reading back, scalar]
    constructor
    · rintro ⟨view, viewBytes, spend, ⟨consistent, spendBytes⟩, built⟩
      rw [← Except.ok.inj built]
      exact ⟨length, congrArg FixedBytes.toList viewBytes.symm, consistent, spendBytes⟩
    · rintro ⟨_, viewBytes, consistent, spendBytes⟩
      exact ⟨secret.view, FixedBytes.ext viewBytes.symm, secret.spendMetaKey,
        ⟨consistent, spendBytes⟩, rfl⟩
  · rw [if_pos length]
    constructor
    · intro impossible
      cases impossible
    · rintro ⟨exact, _⟩
      exact absurd exact length

theorem roundTrips_iff (secret : CurvyScanSecret library) :
    secret.RoundTrips curve ↔ secret.spendMetaKey.Consistent := by
  unfold RoundTrips
  simp only [tryFrom_eq_ok reading, toBytes_eq]
  constructor
  · rintro ⟨_, _, _, _, consistent, _⟩
    exact consistent
  · intro consistent
    refine ⟨_, rfl, ?_, ?_, consistent, .inl ?_⟩
    · exact FixedBytes.length_toList _
    · exact List.take_left' (by simp)
    · exact List.drop_left' (by simp)

theorem encodesBack_iff (value : Bytes) :
    EncodesBack curve library value ↔ ¬ (compact = true ∧ HasCompactSpendKey value) := by
  constructor
  · rintro encodesBack ⟨supported, scalar, point, scalarBytes, inRange, form⟩
    obtain ⟨spend, consistent, ownForm, other⟩ := exists_key_of_isCompact form
    have value_be : ofLE (reversed scalar).toList = ofBE scalar.toList :=
      congrArg ofBE (List.reverse_reverse scalar.toList)
    obtain ⟨view, built⟩ := (@Bn254Keypair.fromSecret_isOk_iff library (reversed scalar)).mpr
      (value_be ▸ inRange)
    rw [← Bn254Keypair.fromSecretBe_eq, Bn254Keypair.fromSecretBe_eq_ok] at built
    have length : value.length = size := by
      have parts := congrArg List.length (List.take_append_drop 32 value)
      rw [List.length_append, length_of_isCompact form, scalarBytes, FixedBytes.length_toList]
        at parts
      exact parts.symm
    obtain ⟨encoded, stored, same⟩ := encodesBack ⟨view, spend⟩ ((tryFrom_eq_ok reading).mpr
      ⟨length, by rw [scalarBytes, built], consistent, .inr ⟨supported, ownForm⟩⟩)
    rw [toBytes_eq] at stored
    apply other
    rw [← same, ← Except.ok.inj stored]
    exact (List.drop_left' (by simp)).symm
  · intro noCompact secret decoded
    obtain ⟨_, viewBytes, consistent, spendBytes⟩ := (tryFrom_eq_ok reading).mp decoded
    refine ⟨_, secret.toBytes_eq, ?_⟩
    rcases spendBytes with compressed | ⟨supported, form⟩
    · show (reversed secret.view.secret).toList ++ secret.spendMetaKey.compressed.toList = value
      rw [← viewBytes, ← compressed, List.take_append_drop]
    · refine absurd ⟨supported, reversed secret.view.secret, _, viewBytes, ?_, form⟩ noCompact
      have inRange := (@Bn254Keypair.fromSecret_isOk_iff library secret.view.secret).mp
        ⟨secret.view, Bn254Keypair.fromSecret_eq_ok.mpr rfl⟩
      exact inRange

/-- The view key of a secret is always a point, so that only the spend key decides whether its
identity is read again. -/
theorem tryFrom_publicKey_iff (secret : CurvyScanSecret library) :
    CurvyScanPublicKey.tryFrom curve field secret.publicKey.toEncoded.toList =
        .ok secret.publicKey ↔ secret.spendMetaKey.Consistent := by
  rw [CurvyScanPublicKey.tryFrom_toEncoded_iff reading]
  exact and_iff_left (Bn254PublicKey.isPoint_of_fromPrivkey secret.view.derived)

end CurvyScanSecret

/-! ## Secrets and identities across their forms -/

/-- The forms of a BN254 secret stand for one scalar, which is in range and has its own key. -/
structure SecretsKept (library : G1Library) : Prop where
  accepted : ∀ bytes : FixedBytes 32,
    (∃ keypair, Bn254Keypair.fromSecret library bytes.toList = .ok keypair) ↔
      1 ≤ ofLE bytes.toList ∧ ofLE bytes.toList ≤ scalarModulus - 1
  fromPrivkeyBe : ∀ bytes : FixedBytes 32,
    Bn254PublicKey.fromPrivkeyBe library bytes.toList =
      Bn254PublicKey.fromPrivkey library bytes.toList.reverse
  acceptedBe : ∀ bytes : FixedBytes 32,
    (∃ keypair, Bn254Keypair.fromSecretBe library bytes.toList = .ok keypair) ↔
      ∃ keypair, Bn254Keypair.fromSecret library bytes.toList.reverse = .ok keypair
  publicKeyBe : ∀ (bytes : FixedBytes 32) (bigEndian littleEndian : Bn254Keypair library),
    Bn254Keypair.fromSecretBe library bytes.toList = .ok bigEndian →
      Bn254Keypair.fromSecret library bytes.toList.reverse = .ok littleEndian →
        bigEndian.publicKey = littleEndian.publicKey
  secretBe : ∀ (bytes : FixedBytes 32) (keypair : Bn254Keypair library),
    Bn254Keypair.fromSecretBe library bytes.toList = .ok keypair →
      (keypair.secretBe : Outcome CryptoError _) = .ok bytes
  distinct : ∀ (left right : FixedBytes 32) (leftPair rightPair : Bn254Keypair library),
    Bn254Keypair.fromSecret library left.toList = .ok leftPair →
      Bn254Keypair.fromSecret library right.toList = .ok rightPair →
        left ≠ right → leftPair.publicKey ≠ rightPair.publicKey

theorem secrets_kept (library : G1Library) : SecretsKept library where
  accepted bytes := Bn254Keypair.fromSecret_isOk_iff
  fromPrivkeyBe bytes := Bn254PublicKey.fromPrivkeyBe_eq bytes
  acceptedBe bytes := by
    rw [Bn254Keypair.fromSecretBe_eq]
    rfl
  publicKeyBe bytes bigEndian littleEndian fromBe fromLe := by
    have same := (Bn254Keypair.fromSecretBe_eq bytes).symm.trans fromBe
    rw [Except.ok.inj (same.symm.trans fromLe)]
  secretBe bytes keypair built := by
    rw [Bn254Keypair.secretBe_eq, Bn254Keypair.fromSecretBe_eq_ok.mp built]
  distinct left right leftPair rightPair leftBuilt rightBuilt different same := by
    obtain rfl := Bn254Keypair.fromSecret_eq_ok.mp leftBuilt
    obtain rfl := Bn254Keypair.fromSecret_eq_ok.mp rightBuilt
    apply different
    exact Bn254PublicKey.fromPrivkey_injective leftPair.derived (same ▸ rightPair.derived)

/-- Secrets keep their value; decoded strings are encoded to themselves, but for those with a
compact spend key where the crate reads these; and what is encoded is decoded to itself, in all
fields of its keys, exactly if these carry the encodings of points. -/
theorem scanIdentities_kept_iff (library : G1Library) (field : FieldSqrt) {compact : Bool}
    (reading : curve.ReadsCompressed compact) :
    SecretsKept library ∧
    (∀ value : Bytes, CurvyScanSecret.EncodesBack curve library value ↔
      ¬ (compact = true ∧ CurvyScanSecret.HasCompactSpendKey value)) ∧
    (∀ value : Bytes, CurvyScanPublicKey.EncodesBack curve field value ↔
      ¬ (compact = true ∧ CurvyScanPublicKey.HasCompactSpendKey value)) ∧
    (∀ secret : CurvyScanSecret library,
      secret.RoundTrips curve ↔ secret.spendMetaKey.Consistent) ∧
    ∀ key : CurvyScanPublicKey,
      CurvyScanPublicKey.tryFrom curve field key.toEncoded.toList = .ok key ↔
        key.spendMetaKey.Consistent ∧ key.viewKey.IsPoint :=
  ⟨secrets_kept library, CurvyScanSecret.encodesBack_iff reading,
    CurvyScanPublicKey.encodesBack_iff reading, CurvyScanSecret.roundTrips_iff reading,
    CurvyScanPublicKey.tryFrom_toEncoded_iff reading⟩

/-- The library that computes in the group itself. -/
def groupLibrary : G1Library where
  mulGenerator scalar := toG1Affine (scalar.val • generator)
  multiples _ := rfl

/-- The identity of the generators of both curves comes back from its encoding. -/
theorem scanIdentities_kept_generators :
    let key : CurvyScanPublicKey := ⟨oneKey, ⟨beBytes 32 1⟩⟩
    CurvyScanPublicKey.tryFrom (compressedCurve true) powerSqrt key.toEncoded.toList =
      .ok key := by
  intro key
  have kept := scanIdentities_kept_iff groupLibrary powerSqrt (compressedCurve_reads true)
  apply (kept.2.2.2.2 key).mpr
  refine ⟨ofPoint_consistent basePoint, 1, 2, ?_, ?_⟩
  · decide +kernel
  · decide +kernel

/-- The deserializer pairs the generator with bytes that encode no point; neither an identity
nor a scan secret with such a spend key can be read again. -/
theorem foreign_encoding_not_decoded :
    ∃ (spend : PublicKey) (view : Bn254Keypair groupLibrary),
      PublicKey.deserialize (compressedCurve true)
        { oneKeyFields with compressed := List.replicate 33 0 } = .ok spend ∧
      ¬ CurvyScanSecret.RoundTrips (compressedCurve true) ⟨view, spend⟩ ∧
      CurvyScanPublicKey.tryFrom (compressedCurve true) powerSqrt
        (CurvyScanPublicKey.mk spend view.publicKey).toEncoded.toList ≠
          .ok ⟨spend, view.publicKey⟩ := by
  have reading := compressedCurve_reads true
  let spend : PublicKey := { oneKey with compressed := ⟨List.replicate 33 0, by simp⟩ }
  have inconsistent : ¬ spend.Consistent := by
    intro consistent
    have foreign : spend.compressed ≠ oneKey.compressed := by decide +kernel
    exact foreign (congrArg PublicKey.compressed consistent)
  have positive : ofLE (reversed (beBytes 32 1)).toList = 1 := by decide +kernel
  have inRange : 1 ≤ scalarModulus - 1 := by decide +kernel
  obtain ⟨view, _⟩ := (@Bn254Keypair.fromSecret_isOk_iff groupLibrary
    (reversed (beBytes 32 1))).mpr (by rw [positive]; exact ⟨le_refl 1, inRange⟩)
  refine ⟨spend, view, ?_, ?_, ?_⟩
  · apply deserialize_eq_ok.mpr
    refine ⟨?_, rfl, rfl⟩
    have length : (basePoint.val.toSec1Point true).length = 33 := by decide +kernel
    have read := (reading.reads length).mpr (Or.inl rfl)
    rw [nativeKey, oneKeyFields, read]
    exact NonIdentity.new_val basePoint
  · intro kept
    exact inconsistent ((CurvyScanSecret.roundTrips_iff reading _).mp kept)
  · intro kept
    exact inconsistent ((CurvyScanPublicKey.tryFrom_toEncoded_iff reading _).mp kept).1

end HoprTypes.Crypto
