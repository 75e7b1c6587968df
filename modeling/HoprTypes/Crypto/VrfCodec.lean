import HoprTypes.Crypto.Sec1
import HoprTypes.Lib.Windows

/-!
# The byte form of VRF parameters

Two compressed points around two scalars.  The encoder copies each part into a window of its
own and panics on the identity, whose encoding is a single byte.
-/

set_option autoImplicit false

namespace HoprTypes.Crypto

open BigEndian Windows HoprTypes.Primitive

def vrfParametersSize : Nat := 130

def k256ScalarFromBytes (bytes : Bytes) : Except CryptoError Scalar :=
  if bytes.length = 32 then okOr (.invalidInputValue "bytes") (Scalar.fromRepr bytes)
  else .error (.invalidInputValue "bytes")

namespace VrfParameters

/-- The value of the type's default: both points are the identity. -/
def default : VrfParameters := ⟨.identity, 0, 0, .identity⟩

def toBytes {ε : Type} (parameters : VrfParameters) : Outcome ε (FixedBytes 130) := do
  let ret : FixedBytes 130 := ⟨List.replicate 130 0, by rfl⟩
  let vBytes := parameters.V.toSec1Point true
  let hBytes := (Scalar.toBytes parameters.h).toList
  let sBytes := (Scalar.toBytes parameters.s).toList
  let aBytes := parameters.A.toSec1Point true
  let off := 0
  let ret ← copyFromSlice ret off PublicKey.sizeCompressed vBytes
  let off := off + PublicKey.sizeCompressed
  let ret ← copyFromSlice ret off 32 hBytes
  let off := off + 32
  let ret ← copyFromSlice ret off 32 sBytes
  let off := off + 32
  copyFromSlice ret off PublicKey.sizeCompressed aBytes

def tryFrom (curve : Secp256k1) (value : Bytes) : Except GeneralError VrfParameters :=
  if value.length = vrfParametersSize then do
    let off := 0
    let V ← (affinePointFromBytes curve (slice value off PublicKey.sizeCompressed)).mapErr
      fun _ => .parseError "VrfParameters.V"
    let off := off + PublicKey.sizeCompressed
    let h ← (k256ScalarFromBytes (slice value off 32)).mapErr
      fun _ => .parseError "VrfParameters.h"
    let off := off + 32
    let s ← (k256ScalarFromBytes (slice value off 32)).mapErr
      fun _ => .parseError "VrfParameters.s"
    let off := off + 32
    let A ← (affinePointFromBytes curve (slice value off PublicKey.sizeCompressed)).mapErr
      fun _ => .parseError "VrfParameters.A"
    .ok ⟨V, h, s, A⟩
  else .error (.parseError "VrfParameters.size")

/-- The parts of the byte form, in their order. -/
def joined (vBytes : Bytes) (h s : Scalar) (aBytes : Bytes) : Bytes :=
  vBytes ++ (Scalar.toBytes h).toList ++ (Scalar.toBytes s).toList ++ aBytes

/-! ## Encoding -/

theorem length_compressed {point : AffinePoint} :
    (point.toSec1Point true).length = 33 ↔ point ≠ .identity := by
  constructor
  · intro length identity
    rw [identity] at length
    cases length
  · intro finite
    exact (AffinePoint.toSec1Point_of_ne finite).1

/-- Up to the last window, the encoder only needs `V` to be a finite point. -/
theorem toBytes_of_V {ε : Type} {parameters : VrfParameters} (finite : parameters.V ≠ .identity) :
    ∃ ret : FixedBytes 130,
      FilledTo ret (parameters.V.toSec1Point true ++ (Scalar.toBytes parameters.h).toList ++
        (Scalar.toBytes parameters.s).toList) ∧
      (parameters.toBytes : Outcome ε (FixedBytes 130)) =
        copyFromSlice ret 97 33 (parameters.A.toSec1Point true) := by
  have vLength := length_compressed.mpr finite
  have hLength := (Scalar.toBytes parameters.h).length_toList
  have sLength := (Scalar.toBytes parameters.s).length_toList
  have empty : FilledTo (⟨List.replicate 130 0, by rfl⟩ : FixedBytes 130) [] := FilledTo.nil _
  have start : ([] : Bytes).length = 0 := rfl
  obtain ⟨withV, vCopied, vFilled⟩ :=
    empty.copy (ε := ε) start (by decide : 0 + 33 ≤ 130) vLength
  obtain ⟨withH, hCopied, hFilled⟩ :=
    vFilled.copy (ε := ε) vLength (by decide : 33 + 32 ≤ 130) hLength
  have hEnd : (([] ++ parameters.V.toSec1Point true) ++
      (Scalar.toBytes parameters.h).toList).length = 65 := by
    rw [List.length_append, List.nil_append, vLength, hLength]
  obtain ⟨withS, sCopied, sFilled⟩ :=
    hFilled.copy (ε := ε) hEnd (by decide : 65 + 32 ≤ 130) sLength
  refine ⟨withS, sFilled, ?_⟩
  simp only [toBytes, PublicKey.sizeCompressed, Nat.reduceAdd, vCopied, hCopied, sCopied, ok_bind]

theorem copyFromSlice_identity {ε : Type} (ret : FixedBytes 130) {offset : Nat}
    (fits : offset + 33 ≤ 130) :
    (copyFromSlice ret offset 33 (AffinePoint.identity.toSec1Point true) :
      Outcome ε (FixedBytes 130)) = .panicked lengthMismatch :=
  copyFromSlice_of_ne fits fun length => length_compressed.mp length rfl

theorem toBytes_of_finite {ε : Type} {parameters : VrfParameters}
    (finiteV : parameters.V ≠ .identity) (finiteA : parameters.A ≠ .identity) :
    ∃ bytes : FixedBytes 130, (parameters.toBytes : Outcome ε (FixedBytes 130)) = .ok bytes ∧
      bytes.toList = joined (parameters.V.toSec1Point true) parameters.h parameters.s
        (parameters.A.toSec1Point true) := by
  obtain ⟨ret, filled, last⟩ := toBytes_of_V (ε := ε) finiteV
  have vLength := length_compressed.mpr finiteV
  have aLength := length_compressed.mpr finiteA
  have front : (parameters.V.toSec1Point true ++ (Scalar.toBytes parameters.h).toList ++
      (Scalar.toBytes parameters.s).toList).length = 97 := by
    rw [List.length_append, List.length_append, vLength, FixedBytes.length_toList,
      FixedBytes.length_toList]
  obtain ⟨bytes, copied, complete⟩ :=
    filled.copy (ε := ε) front (by decide : 97 + 33 ≤ 130) aLength
  refine ⟨bytes, last.trans copied, complete.eq ?_⟩
  rw [List.length_append, front, aLength]

theorem toBytes_of_identity {ε : Type} {parameters : VrfParameters}
    (identity : parameters.V = .identity ∨ parameters.A = .identity) :
    (parameters.toBytes : Outcome ε (FixedBytes 130)) = .panicked lengthMismatch := by
  by_cases identityV : parameters.V = .identity
  · simp only [toBytes, PublicKey.sizeCompressed, identityV]
    rw [copyFromSlice_identity _ (by decide)]
    rfl
  · obtain ⟨ret, _, last⟩ := toBytes_of_V (ε := ε) identityV
    rw [last, identity.resolve_left identityV]
    exact copyFromSlice_identity ret (by decide)

theorem toBytes_eq_ok_iff {ε : Type} {parameters : VrfParameters} {bytes : FixedBytes 130} :
    (parameters.toBytes : Outcome ε (FixedBytes 130)) = .ok bytes ↔
      parameters.V ≠ .identity ∧ parameters.A ≠ .identity ∧
        bytes.toList = joined (parameters.V.toSec1Point true) parameters.h parameters.s
          (parameters.A.toSec1Point true) := by
  by_cases identity : parameters.V = .identity ∨ parameters.A = .identity
  · rw [toBytes_of_identity identity]
    constructor
    · intro impossible
      cases impossible
    · intro encoded
      exact absurd identity (not_or.mpr ⟨encoded.1, encoded.2.1⟩)
  · obtain ⟨finiteV, finiteA⟩ := not_or.mp identity
    obtain ⟨written, done, whole⟩ := toBytes_of_finite (ε := ε) finiteV finiteA
    rw [done]
    constructor
    · intro encoded
      rw [← Except.ok.inj encoded]
      exact ⟨finiteV, finiteA, whole⟩
    · intro encoded
      congr 1
      ext1
      rw [whole, encoded.2.2]

/-! ## Decoding -/

theorem k256ScalarFromBytes_eq_ok {bytes : Bytes} {scalar : Scalar} :
    k256ScalarFromBytes bytes = .ok scalar ↔ bytes = (Scalar.toBytes scalar).toList := by
  unfold k256ScalarFromBytes
  constructor
  · intro read
    split at read
    · rename_i length
      have parsed := okOr_eq_ok.mp read
      unfold Scalar.fromRepr at parsed
      split at parsed
      · rw [← Option.some.inj parsed]
        exact (toBE_ofBE_of_length length).symm
      · cases parsed
    · cases read
  · intro written
    rw [written, if_pos (Scalar.toBytes scalar).length_toList, Scalar.fromRepr_toBytes]
    rfl

section

variable {vBytes aBytes : Bytes} {h s : Scalar} (vLength : vBytes.length = 33)
  (aLength : aBytes.length = 33)

include vLength

theorem slice_joined_V : slice (joined vBytes h s aBytes) 0 33 = vBytes := by
  rw [joined, List.append_assoc, List.append_assoc]
  exact @slice_append [] vBytes _ 0 33 rfl vLength

theorem slice_joined_h : slice (joined vBytes h s aBytes) 33 32 = (Scalar.toBytes h).toList := by
  rw [joined, List.append_assoc, List.append_assoc]
  exact slice_append vLength (Scalar.toBytes h).length_toList

theorem slice_joined_s : slice (joined vBytes h s aBytes) 65 32 = (Scalar.toBytes s).toList := by
  have front : (vBytes ++ (Scalar.toBytes h).toList).length = 65 := by
    rw [List.length_append, vLength, FixedBytes.length_toList]
  rw [joined, List.append_assoc]
  exact slice_append front (Scalar.toBytes s).length_toList

include aLength

theorem slice_joined_A : slice (joined vBytes h s aBytes) 97 33 = aBytes := by
  have front : (vBytes ++ (Scalar.toBytes h).toList ++ (Scalar.toBytes s).toList).length = 97 := by
    rw [List.length_append, List.length_append, vLength, FixedBytes.length_toList,
      FixedBytes.length_toList]
  have window := @slice_append _ aBytes [] 97 33 front aLength
  rw [List.append_nil] at window
  exact window

theorem length_joined : (joined vBytes h s aBytes).length = vrfParametersSize := by
  rw [joined, List.length_append, List.length_append, List.length_append, vLength, aLength,
    FixedBytes.length_toList, FixedBytes.length_toList]
  rfl

end

theorem eq_windows {value : Bytes} (length : value.length = vrfParametersSize) :
    value = slice value 0 33 ++ slice value 33 32 ++ slice value 65 32 ++ slice value 97 33 := by
  have last : slice value 97 33 = value.drop 97 := by
    rw [slice]
    apply List.take_of_length_le
    rw [List.length_drop, length]
    decide
  have whole : slice value 0 33 ++ (slice value 33 32 ++ (slice value 65 32 ++ value.drop 97)) =
      value := by
    rw [slice_append_drop value 65 32, slice_append_drop value 33 32, slice_append_drop value 0 33]
    rfl
  rw [last, List.append_assoc, List.append_assoc, whole]

theorem tryFrom_eq_ok_iff {curve : Secp256k1} {value : Bytes} {parameters : VrfParameters} :
    tryFrom curve value = .ok parameters ↔
      ∃ vBytes aBytes, vBytes.length = 33 ∧ aBytes.length = 33 ∧
        value = joined vBytes parameters.h parameters.s aBytes ∧
        curve.fromSec1Bytes vBytes = some parameters.V ∧
        curve.fromSec1Bytes aBytes = some parameters.A := by
  unfold tryFrom
  constructor
  · intro decoded
    split at decoded
    · rename_i length
      have size : value.length = 130 := length
      obtain ⟨V, readV, decoded⟩ := bind_eq_ok.mp decoded
      obtain ⟨h, readH, decoded⟩ := bind_eq_ok.mp decoded
      obtain ⟨s, readS, decoded⟩ := bind_eq_ok.mp decoded
      obtain ⟨A, readA, decoded⟩ := bind_eq_ok.mp decoded
      have windowH := k256ScalarFromBytes_eq_ok.mp (exceptMapErr_eq_ok.mp readH)
      have windowS := k256ScalarFromBytes_eq_ok.mp (exceptMapErr_eq_ok.mp readS)
      rw [← Except.ok.inj decoded]
      refine ⟨slice value 0 33, slice value 97 33, length_slice (by omega), length_slice (by omega),
        ?_, okOr_eq_ok.mp (exceptMapErr_eq_ok.mp readV),
        okOr_eq_ok.mp (exceptMapErr_eq_ok.mp readA)⟩
      rw [joined, ← windowH, ← windowS]
      exact eq_windows length
    · cases decoded
  · intro parts
    obtain ⟨vBytes, aBytes, vLength, aLength, whole, readV, readA⟩ := parts
    have readH : k256ScalarFromBytes (Scalar.toBytes parameters.h).toList = .ok parameters.h :=
      k256ScalarFromBytes_eq_ok.mpr rfl
    have readS : k256ScalarFromBytes (Scalar.toBytes parameters.s).toList = .ok parameters.s :=
      k256ScalarFromBytes_eq_ok.mpr rfl
    rw [whole, if_pos (length_joined vLength aLength)]
    simp only [PublicKey.sizeCompressed, Nat.reduceAdd, slice_joined_V vLength,
      slice_joined_h vLength, slice_joined_s vLength, slice_joined_A vLength aLength,
      affinePointFromBytes, readV, readA, readH, readS, okOr, Except.mapErr, ok_bind]

/-! ## Encoding and decoding -/

/-- The parameters are encoded, and their byte form is decoded to them. -/
def RoundTrips (curve : Secp256k1) (parameters : VrfParameters) : Prop :=
  ∃ bytes : FixedBytes 130, (parameters.toBytes : Outcome Empty (FixedBytes 130)) = .ok bytes ∧
    tryFrom curve bytes.toList = .ok parameters

/-- What the byte string is decoded to, if it is, is encoded as this byte string. -/
def EncodesBack (curve : Secp256k1) (value : Bytes) : Prop :=
  ∀ parameters, tryFrom curve value = .ok parameters →
    ∃ bytes : FixedBytes 130, (parameters.toBytes : Outcome Empty (FixedBytes 130)) = .ok bytes ∧
      bytes.toList = value

/-- A byte form of parameters in which a point is in its compact form. -/
def HasCompactPoint (value : Bytes) : Prop :=
  ∃ (V A : AffinePoint) (h s : Scalar) (vBytes aBytes : Bytes),
    vBytes.length = 33 ∧ aBytes.length = 33 ∧ value = joined vBytes h s aBytes ∧
      (vBytes = V.toSec1Point true ∨ V.IsCompact vBytes) ∧
      (aBytes = A.toSec1Point true ∨ A.IsCompact aBytes) ∧
      (V.IsCompact vBytes ∨ A.IsCompact aBytes)

theorem finite_of_length {point : AffinePoint} {bytes : Bytes} (length : bytes.length = 33)
    (encoded : bytes = point.toSec1Point true ∨ point.IsCompact bytes) : point ≠ .identity := by
  intro identity
  rw [identity] at encoded
  rcases encoded with compressed | compact
  · rw [compressed] at length
    cases length
  · cases compact

theorem joined_injective {vBytes aBytes vBytes' aBytes' : Bytes} {h s h' s' : Scalar}
    (vLength : vBytes.length = 33) (aLength : aBytes.length = 33) (vLength' : vBytes'.length = 33)
    (aLength' : aBytes'.length = 33)
    (same : joined vBytes h s aBytes = joined vBytes' h' s' aBytes') :
    vBytes = vBytes' ∧ aBytes = aBytes' := by
  constructor
  · rw [← @slice_joined_V vBytes aBytes h s vLength, same, slice_joined_V vLength']
  · rw [← @slice_joined_A vBytes aBytes h s vLength aLength, same, slice_joined_A vLength' aLength']

theorem roundTrips_iff {curve : Secp256k1} {compact : Bool}
    (reading : curve.ReadsCompressed compact) (parameters : VrfParameters) :
    parameters.RoundTrips curve ↔ parameters.V ≠ .identity ∧ parameters.A ≠ .identity := by
  constructor
  · intro roundTrips
    obtain ⟨bytes, encoded, _⟩ := roundTrips
    obtain ⟨finiteV, finiteA, _⟩ := toBytes_eq_ok_iff.mp encoded
    exact ⟨finiteV, finiteA⟩
  · intro finite
    obtain ⟨bytes, encoded, whole⟩ := toBytes_of_finite (ε := Empty) finite.1 finite.2
    have vLength := length_compressed.mpr finite.1
    have aLength := length_compressed.mpr finite.2
    refine ⟨bytes, encoded, ?_⟩
    rw [tryFrom_eq_ok_iff]
    exact ⟨_, _, vLength, aLength, whole, (reading.reads vLength).mpr (Or.inl rfl),
      (reading.reads aLength).mpr (Or.inl rfl)⟩

theorem encodesBack_iff {curve : Secp256k1} {compact : Bool}
    (reading : curve.ReadsCompressed compact) (value : Bytes) :
    EncodesBack curve value ↔ ¬(compact = true ∧ HasCompactPoint value) := by
  constructor
  · intro encodesBack compactForm
    obtain ⟨supported, V, A, h, s, vBytes, aBytes, vLength, aLength, whole, isV, isA, form⟩ :=
      compactForm
    have decoded : tryFrom curve value = .ok ⟨V, h, s, A⟩ := by
      rw [tryFrom_eq_ok_iff]
      refine ⟨vBytes, aBytes, vLength, aLength, whole, ?_, ?_⟩
      · exact (reading.reads vLength).mpr (isV.imp_right fun form => ⟨supported, form⟩)
      · exact (reading.reads aLength).mpr (isA.imp_right fun form => ⟨supported, form⟩)
    obtain ⟨bytes, encoded, same⟩ := encodesBack _ decoded
    obtain ⟨finiteV, finiteA, parts⟩ := toBytes_eq_ok_iff.mp encoded
    have windows := joined_injective vLength aLength (length_compressed.mpr finiteV)
      (length_compressed.mpr finiteA) (whole.symm.trans (same.symm.trans parts))
    rcases form with formV | formA
    · rw [windows.1] at formV
      exact not_isCompact_toSec1Point _ _ formV
    · rw [windows.2] at formA
      exact not_isCompact_toSec1Point _ _ formA
  · intro noCompact parameters decoded
    obtain ⟨vBytes, aBytes, vLength, aLength, whole, readV, readA⟩ := tryFrom_eq_ok_iff.mp decoded
    have isV := (reading.reads vLength).mp readV
    have isA := (reading.reads aLength).mp readA
    have formV := isV.imp_right And.right
    have formA := isA.imp_right And.right
    have compressedV : vBytes = parameters.V.toSec1Point true := by
      rcases isV with compressed | ⟨supported, form⟩
      · exact compressed
      · exact absurd ⟨supported, _, _, _, _, vBytes, aBytes, vLength, aLength, whole, formV, formA,
          Or.inl form⟩ noCompact
    have compressedA : aBytes = parameters.A.toSec1Point true := by
      rcases isA with compressed | ⟨supported, form⟩
      · exact compressed
      · exact absurd ⟨supported, _, _, _, _, vBytes, aBytes, vLength, aLength, whole, formV, formA,
          Or.inr form⟩ noCompact
    let bytes : FixedBytes 130 := ⟨value, by rw [whole, length_joined vLength aLength]; rfl⟩
    refine ⟨bytes, toBytes_eq_ok_iff.mpr ⟨?_, ?_, ?_⟩, rfl⟩
    · exact finite_of_length vLength formV
    · exact finite_of_length aLength formA
    · rw [← compressedV, ← compressedA]
      exact whole

/-- The codec is exact on parameters without the identity, and on byte strings without a
compact point where the crate reads these. -/
theorem codec_exact_iff {curve : Secp256k1} {compact : Bool}
    (reading : curve.ReadsCompressed compact) :
    (∀ parameters : VrfParameters, parameters.RoundTrips curve ↔
      parameters.V ≠ .identity ∧ parameters.A ≠ .identity) ∧
    ∀ value : Bytes, EncodesBack curve value ↔ ¬(compact = true ∧ HasCompactPoint value) :=
  ⟨roundTrips_iff reading, encodesBack_iff reading⟩

def generatorParameters : VrfParameters :=
  ⟨basePoint.val, challengeScalar, nonceScalar, basePoint.val⟩

def generatorBytes : Bytes :=
  joined (basePoint.val.toSec1Point true) challengeScalar nonceScalar
    (basePoint.val.toSec1Point true)

theorem codec_exact_iff_generator :
    (generatorParameters.RoundTrips (compressedCurve true) ↔
      generatorParameters.V ≠ .identity ∧ generatorParameters.A ≠ .identity) ∧
    (EncodesBack (compressedCurve true) generatorBytes ↔
      ¬(true = true ∧ HasCompactPoint generatorBytes)) :=
  have exact := codec_exact_iff (compressedCurve_reads true)
  ⟨exact.1 generatorParameters, exact.2 generatorBytes⟩

/-- The default value is not encoded: the encoder panics. -/
theorem not_roundTrips_default :
    (default.toBytes : Outcome Empty (FixedBytes 130)) = .panicked lengthMismatch ∧
      ¬∀ parameters : VrfParameters, parameters.RoundTrips (compressedCurve true) := by
  have panics : (default.toBytes : Outcome Empty (FixedBytes 130)) = .panicked lengthMismatch := rfl
  refine ⟨panics, ?_⟩
  intro roundTrips
  obtain ⟨bytes, encoded, _⟩ := roundTrips default
  rw [panics] at encoded
  cases encoded

end VrfParameters

end HoprTypes.Crypto
