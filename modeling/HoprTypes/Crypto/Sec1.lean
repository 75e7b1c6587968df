import HoprTypes.Crypto.PublicKeys

/-!
# Reading compressed points

What the curve crates accept as 33-byte encodings of a point: its compressed encoding and, if
the crate supports it, the compact form, which leaves out the parity of an even point.
-/

set_option autoImplicit false

namespace HoprTypes.Crypto

open BigEndian Primality HoprTypes.Primitive

/-- The compact form of a point: a tag of its own in front of the first coordinate. -/
def AffinePoint.IsCompact (bytes : Bytes) : AffinePoint → Prop
  | .identity => False
  | .affine x y _ => y.val % 2 = 0 ∧ bytes = 5 :: toBE 32 x.val

theorem not_isCompact_toSec1Point (point other : AffinePoint) :
    ¬other.IsCompact (point.toSec1Point true) := by
  intro compact
  cases other with
  | identity => cases compact
  | affine x y onCurve =>
      obtain ⟨_, same⟩ := compact
      cases point with
      | identity => cases same
      | affine x' y' onCurve' =>
          have tags := (List.cons.inj same).1
          split at tags
          · exact absurd tags (by decide)
          · exact absurd tags (by decide)

/-- The 33-byte encodings that are read, and the points they are read as. -/
structure Secp256k1.ReadsCompressed (curve : Secp256k1) (compact : Bool) : Prop where
  reads : ∀ {bytes : Bytes} {point : AffinePoint}, bytes.length = 33 →
    (curve.fromSec1Bytes bytes = some point ↔
      bytes = point.toSec1Point true ∨ compact = true ∧ point.IsCompact bytes)

/-! ## Reading by a square root -/

/-- The root of a square modulo the field modulus, which is 3 modulo 4. -/
def fieldRoot (value : Nat) : Nat := powMod fieldModulus 256 value ((fieldModulus + 1) / 4)

def curveSide (x : FieldElement) : Nat := (x.val * x.val * x.val + 7) % fieldModulus

/-- The point with the given coordinates, if it is on the curve. -/
def pointAt (x : FieldElement) (y : Nat) : Option AffinePoint :=
  if fits : y < fieldModulus ∧
      y * y % fieldModulus = (x.val * x.val * x.val + 7) % fieldModulus then
    some (.affine x ⟨y, fits.1⟩ fits.2)
  else none

/-- The second coordinate of a given parity, if the first one belongs to a point. -/
def rootOfParity (x : FieldElement) (parity : Nat) : Nat :=
  if fieldRoot (curveSide x) % 2 = parity then fieldRoot (curveSide x)
  else fieldModulus - fieldRoot (curveSide x)

/-- The point with a given first coordinate and parity of the second one. -/
def decompress (x : FieldElement) (parity : Nat) : Option AffinePoint :=
  if rootOfParity x parity % 2 = parity then pointAt x (rootOfParity x parity) else none

theorem fieldModulus_shape : fieldModulus % 4 = 3 := by norm_num [fieldModulus]

theorem rootExponent_lt : (fieldModulus + 1) / 4 < 2 ^ 256 := by norm_num [fieldModulus]

theorem fieldRoot_square {root value : Nat} (small : value < fieldModulus)
    (square : root * root % fieldModulus = value) :
    fieldRoot value * fieldRoot value % fieldModulus = value := by
  have power := sqrt_of_square fieldModulus_prime fieldModulus_shape
    (square.trans (Nat.mod_eq_of_lt small).symm)
  rw [fieldRoot, powMod_eq _ _ _ _ rootExponent_lt, ← Nat.mul_mod, power, Nat.mod_eq_of_lt small]

theorem fieldRoot_lt (value : Nat) : fieldRoot value < fieldModulus := by
  rw [fieldRoot, powMod_eq _ _ _ _ rootExponent_lt]
  exact Nat.mod_lt _ fieldModulus_prime.pos

theorem decompress_eq_some {x : FieldElement} {parity : Nat} {point : AffinePoint}
    (read : decompress x parity = some point) :
    ∃ y onCurve, point = .affine x y onCurve ∧ y.val % 2 = parity := by
  unfold decompress at read
  by_cases same : rootOfParity x parity % 2 = parity
  · rw [if_pos same] at read
    unfold pointAt at read
    split at read
    · rename_i fits
      exact ⟨⟨rootOfParity x parity, fits.1⟩, fits.2, (Option.some.inj read).symm, same⟩
    · cases read
  · rw [if_neg same] at read
    cases read

theorem decompress_affine {x y : FieldElement}
    (onCurve : y.val * y.val % fieldModulus = (x.val * x.val * x.val + 7) % fieldModulus) :
    decompress x (y.val % 2) = some (.affine x y onCurve) := by
  have odd := fieldModulus_odd
  have small : curveSide x < fieldModulus := Nat.mod_lt _ fieldModulus_prime.pos
  have square : fieldRoot (curveSide x) * fieldRoot (curveSide x) % fieldModulus =
      y.val * y.val % fieldModulus := (fieldRoot_square small onCurve).trans onCurve.symm
  have bound := fieldRoot_lt (curveSide x)
  have found : rootOfParity x (y.val % 2) = y.val := by
    unfold rootOfParity
    rcases roots_of_square fieldModulus_prime bound y.isLt square with same | whole | zero
    · rw [if_pos (by rw [same]), same]
    · have other : ¬fieldRoot (curveSide x) % 2 = y.val % 2 := by omega
      rw [if_neg other]
      omega
    · rw [if_pos (by omega)]
      omega
  unfold decompress
  rw [found, if_pos rfl]
  unfold pointAt
  exact dif_pos ⟨y.isLt, onCurve⟩

def readCoordinate (coordinate : Bytes) : Option FieldElement :=
  if fits : coordinate.length = 32 ∧ ofBE coordinate < fieldModulus then
    some ⟨ofBE coordinate, fits.2⟩
  else none

def readTagged (compact : Bool) (tag : UInt8) (x : FieldElement) : Option AffinePoint :=
  if tag = 2 then decompress x 0
  else if tag = 3 then decompress x 1
  else if tag = 5 ∧ compact = true then decompress x 0
  else none

def readCompressed (compact : Bool) : Bytes → Option AffinePoint
  | [] => none
  | tag :: coordinate => readCoordinate coordinate >>= readTagged compact tag

theorem readCoordinate_eq_some {coordinate : Bytes} {x : FieldElement} :
    readCoordinate coordinate = some x ↔ coordinate = toBE 32 x.val := by
  unfold readCoordinate
  constructor
  · intro read
    split at read
    · rename_i fits
      rw [← Option.some.inj read]
      exact (toBE_ofBE_of_length fits.1).symm
    · cases read
  · intro written
    have small := fieldModulus_lt
    have value : ofBE coordinate = x.val := by
      rw [written]
      exact ofBE_toBE_of_lt (lt_trans x.isLt small)
    have fits : coordinate.length = 32 ∧ ofBE coordinate < fieldModulus :=
      ⟨by rw [written, length_toBE], value ▸ x.isLt⟩
    rw [dif_pos fits]
    exact congrArg some (Fin.ext value)

theorem toSec1Point_affine {x y : FieldElement}
    (onCurve : y.val * y.val % fieldModulus = (x.val * x.val * x.val + 7) % fieldModulus) :
    (AffinePoint.affine x y onCurve).toSec1Point true =
      (if y.val % 2 = 1 then 3 else 2) :: toBE 32 x.val := rfl

theorem of_readCompressed {compact : Bool} {bytes : Bytes} {point : AffinePoint}
    (read : readCompressed compact bytes = some point) :
    bytes = point.toSec1Point true ∨ compact = true ∧ point.IsCompact bytes := by
  cases bytes with
  | nil => cases read
  | cons tag coordinate =>
      obtain ⟨x, isX, read⟩ := Option.bind_eq_some_iff.mp read
      have written := readCoordinate_eq_some.mp isX
      unfold readTagged at read
      split_ifs at read with even odd form
      · obtain ⟨y, onCurve, same, parity⟩ := decompress_eq_some read
        left
        rw [same, toSec1Point_affine, if_neg (by omega), written, even]
      · obtain ⟨y, onCurve, same, parity⟩ := decompress_eq_some read
        left
        rw [same, toSec1Point_affine, if_pos parity, written, odd]
      · obtain ⟨y, onCurve, same, parity⟩ := decompress_eq_some read
        right
        rw [same]
        exact ⟨form.2, parity, by rw [written, form.1]⟩

theorem readCompressed_cons {compact : Bool} {tag : UInt8} (x : FieldElement) :
    readCompressed compact (tag :: toBE 32 x.val) = readTagged compact tag x := by
  have read : readCoordinate (toBE 32 x.val) = some x := readCoordinate_eq_some.mpr rfl
  rw [readCompressed, read]
  rfl

theorem readCompressed_toSec1Point {compact : Bool} {point : AffinePoint}
    (finite : point ≠ .identity) :
    readCompressed compact (point.toSec1Point true) = some point := by
  cases point with
  | identity => exact absurd rfl finite
  | affine x y onCurve =>
      have read := decompress_affine onCurve
      rw [toSec1Point_affine, readCompressed_cons, readTagged]
      rcases Nat.mod_two_eq_zero_or_one y.val with even | odd
      · have notOdd : ¬y.val % 2 = 1 := by omega
        rw [even] at read
        rw [if_neg notOdd, if_pos rfl, read]
      · rw [odd] at read
        rw [if_pos odd, if_neg (by decide), if_pos rfl, read]

theorem readCompressed_compact {bytes : Bytes} {point : AffinePoint}
    (form : point.IsCompact bytes) : readCompressed true bytes = some point := by
  cases point with
  | identity => cases form
  | affine x y onCurve =>
      obtain ⟨even, written⟩ := form
      have read := decompress_affine onCurve
      rw [even] at read
      rw [written, readCompressed_cons, readTagged, if_neg (by decide), if_neg (by decide),
        if_pos (by decide), read]

/-- The crates on the key of the secret 1, with all compressed points. -/
def compressedCurve (compact : Bool) : Secp256k1 :=
  { oneKeyCurve with fromSec1Bytes := readCompressed compact }

theorem compressedCurve_reads (compact : Bool) :
    (compressedCurve compact).ReadsCompressed compact where
  reads {bytes point} length := by
    constructor
    · exact of_readCompressed
    · intro encoded
      rcases encoded with compressed | ⟨rfl, form⟩
      · rw [compressed]
        apply readCompressed_toSec1Point
        intro identity
        rw [compressed, identity] at length
        cases length
      · exact readCompressed_compact form

end HoprTypes.Crypto
