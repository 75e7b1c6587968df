import HoprTypes.Primitive.Primitives

/-!
# The secp256k1 curve as the code uses it

Points in affine coordinates, scalars modulo the group order and their byte
encodings.  The group operations and the hashes to the curve belong to the curve
crates; they are the fields of `Secp256k1`.
-/

set_option autoImplicit false

namespace HoprTypes.Crypto

open BigEndian

@[irreducible] def fieldModulus : Nat :=
  0xfffffffffffffffffffffffffffffffffffffffffffffffffffffffefffffc2f

@[irreducible] def order : Nat := 0xfffffffffffffffffffffffffffffffebaaedce6af48a03bbfd25e8cd0364141

instance : NeZero fieldModulus := ⟨by norm_num [fieldModulus]⟩
instance : NeZero order := ⟨by norm_num [order]⟩

theorem fieldModulus_odd : fieldModulus % 2 = 1 := by norm_num [fieldModulus]

theorem fieldModulus_lt : fieldModulus < 256 ^ 32 := by norm_num [fieldModulus]

theorem order_lt : order < 256 ^ 32 := by norm_num [order]

abbrev FieldElement := Fin fieldModulus
abbrev Scalar := Fin order

inductive AffinePoint where
  | identity
  | affine (x y : FieldElement)
      (onCurve : y.val * y.val % fieldModulus = (x.val * x.val * x.val + 7) % fieldModulus)
deriving DecidableEq

def NonIdentity := { point : AffinePoint // point ≠ .identity }
deriving DecidableEq

abbrev NonZeroScalar := { scalar : Scalar // scalar ≠ 0 }

/-! ## Byte encodings -/

namespace AffinePoint

/-- The SEC1 encoding: the identity is a single zero byte. -/
def toSec1Point (compress : Bool) : AffinePoint → Bytes
  | identity => [0]
  | affine x y _ =>
      if compress then (if y.val % 2 = 1 then 3 else 2) :: toBE 32 x.val
      else 4 :: (toBE 32 x.val ++ toBE 32 y.val)

theorem toSec1Point_of_ne {point : AffinePoint} (finite : point ≠ identity) :
    (toSec1Point true point).length = 33 ∧ (toSec1Point false point).length = 65 := by
  cases point with
  | identity => exact absurd rfl finite
  | affine x y onCurve => simp [toSec1Point]

end AffinePoint

def NonIdentity.new (point : AffinePoint) : Option NonIdentity :=
  if finite : point = .identity then none else some ⟨point, finite⟩

namespace Scalar

/-- The scalar a 32-byte string encodes, which must be below the group order. -/
def fromRepr (bytes : Bytes) : Option Scalar :=
  if canonical : bytes.length = 32 ∧ ofBE bytes < order then some ⟨ofBE bytes, canonical.2⟩
  else none

def toBytes (scalar : Scalar) : FixedBytes 32 := beBytes 32 scalar.val

theorem val_lt (scalar : Scalar) : scalar.val < 256 ^ 32 :=
  lt_trans scalar.isLt order_lt

@[simp] theorem fromRepr_toBytes (scalar : Scalar) :
    fromRepr scalar.toBytes.toList = some scalar := by
  have value : ofBE scalar.toBytes.toList = scalar.val := ofBE_toBE_of_lt scalar.val_lt
  have canonical : scalar.toBytes.toList.length = 32 ∧ ofBE scalar.toBytes.toList < order :=
    ⟨scalar.toBytes.length_toList, value.symm ▸ scalar.isLt⟩
  unfold fromRepr
  rw [dif_pos canonical, Option.some.injEq, Fin.ext_iff]
  dsimp only
  exact value

end Scalar

def NonZeroScalar.tryFrom (bytes : Bytes) : Option NonZeroScalar :=
  match Scalar.fromRepr bytes with
  | some scalar => if nonZero : scalar = 0 then none else some ⟨scalar, nonZero⟩
  | none => none

/-! ## The curve crates -/

/-- What the code uses of the crates `k256`, `secp256k1` and `hash2curve`. -/
structure Secp256k1 where
  /-- Whether the code is built with its feature `rust-ecdsa`. -/
  rustEcdsa : Bool
  generator : NonIdentity
  add : AffinePoint → AffinePoint → AffinePoint
  sub : AffinePoint → AffinePoint → AffinePoint
  mul : AffinePoint → Scalar → AffinePoint
  /-- The public point of a secret scalar. -/
  fromSecretScalar : NonZeroScalar → NonIdentity
  /-- The point of a SEC1 encoding. -/
  fromSec1Bytes : Bytes → Option AffinePoint
  hashFromBytes : List Bytes → List Bytes → Option AffinePoint
  hashToScalar : List Bytes → List Bytes → Option Scalar

end HoprTypes.Crypto
