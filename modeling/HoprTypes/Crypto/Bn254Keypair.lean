import HoprTypes.Crypto.Bn254Group
import HoprTypes.Lib.ByteOrder

/-!
# BN254 secret scalars

A secret is held little-endian and exported big-endian. It is compared with the modulus of the
scalar field by limbs, so that each key has one secret only.
-/

set_option autoImplicit false

namespace HoprTypes.Crypto

open BigEndian HoprTypes.Primitive

namespace Bn254

/-! ## Limbs -/

/-- The number that bytes spell with the least significant one first. -/
def ofLE (bytes : Bytes) : Nat := ofBE bytes.reverse

/-- A 256-bit number of the field library: four limbs, the least significant one first. -/
structure BigInt where
  limbs : List U64
  length_limbs : limbs.length = 4

namespace BigInt

def ofLeBytes (bytes : FixedBytes 32) : BigInt where
  limbs := (List.range 4).map fun i => BitVec.ofNat 64 (ofLE (slice bytes.toList (8 * i) 8))
  length_limbs := by simp

def ofNat (value : Nat) : BigInt where
  limbs := (List.range 4).map fun i => BitVec.ofNat 64 (value / 2 ^ (64 * i))
  length_limbs := by simp

/-- Compares from the most significant limb down. -/
def cmp (left right : BigInt) : Ordering :=
  compare (left.limbs.map BitVec.toNat).reverse (right.limbs.map BitVec.toNat).reverse

def value (number : BigInt) : Nat := Nat.ofDigits (2 ^ 64) (number.limbs.map BitVec.toNat)

theorem cmp_eq (left right : BigInt) : left.cmp right = compare left.value right.value := by
  have digits (number : BigInt) : ∀ digit ∈ number.limbs.map BitVec.toNat, digit < 2 ^ 64 := by
    intro digit member
    obtain ⟨limb, _, rfl⟩ := List.mem_map.mp member
    exact limb.isLt
  apply ByteOrder.compare_reverse_eq_compare_ofDigits _ (digits left) (digits right)
  rw [List.length_map, List.length_map, left.length_limbs, right.length_limbs]

theorem value_scalarModulus : (ofNat scalarModulus).value = scalarModulus := by decide +kernel

end BigInt

theorem ofLE_append (front back : Bytes) :
    ofLE (front ++ back) = ofLE front + 256 ^ front.length * ofLE back := by
  rw [ofLE, List.reverse_append, ofBE_append, List.length_reverse, ofLE, ofLE]
  ring

theorem ofLE_lt (bytes : Bytes) : ofLE bytes < 256 ^ bytes.length := by
  have bound := ofBE_lt bytes.reverse
  rw [List.length_reverse] at bound
  exact bound

theorem ofLE_injective {left right : Bytes} (sameLength : left.length = right.length)
    (same : ofLE left = ofLE right) : left = right :=
  List.reverse_injective (ofBE_injective (by simpa using sameLength) same)

theorem BigInt.value_ofLeBytes (bytes : FixedBytes 32) :
    (BigInt.ofLeBytes bytes).value = ofLE bytes.toList := by
  have length {i : Nat} (inside : i < 4) : (slice bytes.toList (8 * i) 8).length = 8 :=
    length_slice (by rw [bytes.length_toList]; omega)
  have limbs : (BigInt.ofLeBytes bytes).limbs.map BitVec.toNat =
      (List.range 4).map fun i => ofLE (slice bytes.toList (8 * i) 8) := by
    rw [BigInt.ofLeBytes, List.map_map]
    apply List.map_congr_left
    intro i member
    have small := ofLE_lt (slice bytes.toList (8 * i) 8)
    rw [length (List.mem_range.mp member), show 256 ^ 8 = 2 ^ 64 by norm_num] at small
    exact Nat.mod_eq_of_lt small
  have peel {i : Nat} (inside : i < 4) : ofLE (bytes.toList.drop (8 * i)) =
      ofLE (slice bytes.toList (8 * i) 8) + 2 ^ 64 * ofLE (bytes.toList.drop (8 * (i + 1))) := by
    have split := slice_append_drop bytes.toList (8 * i) 8
    rw [← split, ofLE_append, length inside]
    rfl
  have rest : bytes.toList.drop (8 * 4) = [] := List.drop_eq_nil_of_le (by simp)
  have whole := @peel 0 (by norm_num)
  rw [@peel 1 (by norm_num), @peel 2 (by norm_num), @peel 3 (by norm_num), rest] at whole
  rw [BigInt.value, limbs]
  exact whole.symm

def Fr.fromLeBytesModOrder (bytes : FixedBytes 32) : Fr :=
  Fin.ofNat scalarModulus (ofLE bytes.toList)

theorem val_fromLeBytesModOrder {bytes : FixedBytes 32}
    (reduced : ofLE bytes.toList < scalarModulus) :
    (Fr.fromLeBytesModOrder bytes).val = ofLE bytes.toList := by
  rw [Fr.fromLeBytesModOrder, Fin.val_ofNat, Nat.mod_eq_of_lt reduced]

end Bn254

open Bn254

/-! ## Keys of secrets -/

def reverseSecretScalar (bytes : Bytes) : Except CryptoError (FixedBytes 32) := do
  let ret ← (tryFromSlice 32 "value" bytes).mapErr fun _ => .invalidInputValue "value"
  .ok ⟨ret.toList.reverse, by simp⟩

variable (library : G1Library)

namespace Bn254PublicKey

/-- The key of a little-endian secret. Two secrets that agree modulo the group order would have
one key, so that only the reduced one is accepted. -/
def fromPrivkey (secret : Bytes) : Except CryptoError Bn254PublicKey := do
  let bytes ← (tryFromSlice 32 "secret" secret).mapErr fun _ => .invalidSecretScalar
  if (BigInt.ofLeBytes bytes).cmp (BigInt.ofNat scalarModulus) ≠ .lt then
    .error .invalidSecretScalar
  else
    let scalar := Fr.fromLeBytesModOrder bytes
    let point := library.mulGenerator scalar
    -- Only the zero scalar leads to a point without coordinates.
    (tryFromAffine point).mapErr fun _ => .invalidSecretScalar

def fromPrivkeyBe (secret : Bytes) : Except CryptoError Bn254PublicKey := do
  let littleEndian ← (reverseSecretScalar secret).mapErr fun _ => .invalidSecretScalar
  fromPrivkey library littleEndian.toList

end Bn254PublicKey

/-- A secret in little-endian form with its key. -/
structure Bn254Keypair where
  secret : FixedBytes 32
  publicKey : Bn254PublicKey
  derived : Bn254PublicKey.fromPrivkey library secret.toList = .ok publicKey

namespace Bn254Keypair

def fromSecret (bytes : Bytes) : Except CryptoError (Bn254Keypair library) :=
  match derived : Bn254PublicKey.fromPrivkey library bytes with
  | .error cause => .error cause
  | .ok publicKey =>
      if exact : bytes.length = 32 then .ok ⟨⟨bytes, exact⟩, publicKey, derived⟩
      else .error (.invalidInputValue "value")

/-- Takes a big-endian secret; it is held in little-endian form. -/
def fromSecretBe (bytes : Bytes) : Except CryptoError (Bn254Keypair library) := do
  let reversed ← reverseSecretScalar bytes
  fromSecret library reversed.toList

def secretBe {library : G1Library} {ε : Type} (keypair : Bn254Keypair library) :
    Outcome ε (FixedBytes 32) :=
  Outcome.expect "the secret always has the correct length"
    (reverseSecretScalar keypair.secret.toList)

end Bn254Keypair

/-! ## Which secrets are accepted -/

def reversed (bytes : FixedBytes 32) : FixedBytes 32 := ⟨bytes.toList.reverse, by simp⟩

theorem reverseSecretScalar_toList (bytes : FixedBytes 32) :
    reverseSecretScalar bytes.toList = .ok (reversed bytes) := by
  rw [reverseSecretScalar, tryFromSlice_toList]
  rfl

theorem reversed_reversed (bytes : FixedBytes 32) : reversed (reversed bytes) = bytes :=
  FixedBytes.ext (List.reverse_reverse bytes.toList)

variable {library : G1Library}

theorem toG1Affine_generator_ne_infinity {n : Nat} (reduced : n < scalarModulus) :
    toG1Affine (n • generator) ≠ .infinity ↔ 0 < n := by
  have zero : n • generator = 0 ↔ (⟨n, reduced⟩ : Fr) = 0 :=
    @nsmul_generator_eq_zero ⟨n, reduced⟩
  have infinity : toG1Affine (n • generator) = .infinity ↔ n • generator = 0 := by
    constructor
    · intro same
      exact toG1Affine_injective same
    · intro same
      rw [same]
      rfl
  rw [ne_eq, infinity, zero, Nat.pos_iff_ne_zero, Fin.ext_iff]
  rfl

namespace Bn254PublicKey

variable {bytes : FixedBytes 32} {key : Bn254PublicKey}

theorem fromPrivkey_eq_ok :
    fromPrivkey library bytes.toList = .ok key ↔
      ofLE bytes.toList < scalarModulus ∧
        ∃ x y, toG1Affine (ofLE bytes.toList • generator) = .affine x y ∧
          key = ⟨compress x y⟩ := by
  have order : (BigInt.ofLeBytes bytes).cmp (BigInt.ofNat scalarModulus) = .lt ↔
      ofLE bytes.toList < scalarModulus := by
    rw [BigInt.cmp_eq, BigInt.value_ofLeBytes, BigInt.value_scalarModulus, Nat.compare_eq_lt]
  unfold fromPrivkey
  simp only [bind_eq_ok, exceptMapErr_eq_ok, tryFromSlice_toList, Except.ok.injEq,
    exists_eq_left']
  by_cases reduced : ofLE bytes.toList < scalarModulus
  · rw [if_neg (not_not.mpr (order.mpr reduced)), exceptMapErr_eq_ok, library.multiples,
      val_fromLeBytesModOrder reduced]
    cases point : toG1Affine (ofLE bytes.toList • generator) with
    | infinity =>
        constructor
        · intro built
          cases built
        · rintro ⟨_, x, y, impossible, _⟩
          cases impossible
    | affine x y =>
        rw [tryFromAffine_affine, Except.ok.injEq]
        constructor
        · intro built
          exact ⟨reduced, x, y, rfl, built.symm⟩
        · rintro ⟨_, x', y', same, built⟩
          obtain ⟨rfl, rfl⟩ := G1Affine.affine.inj same
          exact built.symm
  · rw [if_pos (mt order.mp reduced)]
    constructor
    · intro built
      cases built
    · rintro ⟨inRange, _⟩
      exact absurd inRange reduced

theorem fromPrivkey_isOk_iff :
    (∃ key, fromPrivkey library bytes.toList = .ok key) ↔
      1 ≤ ofLE bytes.toList ∧ ofLE bytes.toList ≤ scalarModulus - 1 := by
  have positive : 0 < scalarModulus := by decide +kernel
  constructor
  · rintro ⟨key, built⟩
    obtain ⟨reduced, x, y, point, _⟩ := fromPrivkey_eq_ok.mp built
    have nonZero : 0 < ofLE bytes.toList := by
      apply (toG1Affine_generator_ne_infinity reduced).mp
      rw [point]
      intro impossible
      cases impossible
    omega
  · rintro ⟨nonZero, bound⟩
    have reduced : ofLE bytes.toList < scalarModulus := by omega
    have finite := (toG1Affine_generator_ne_infinity reduced).mpr nonZero
    cases point : toG1Affine (ofLE bytes.toList • generator) with
    | infinity => exact absurd point finite
    | affine x y =>
        exact ⟨⟨compress x y⟩, fromPrivkey_eq_ok.mpr ⟨reduced, x, y, point, rfl⟩⟩

theorem fromPrivkeyBe_eq (bytes : FixedBytes 32) :
    fromPrivkeyBe library bytes.toList = fromPrivkey library (reversed bytes).toList := by
  rw [fromPrivkeyBe, reverseSecretScalar_toList]
  rfl

/-- A key is the compressed form of a point of the curve. -/
def IsPoint (key : Bn254PublicKey) : Prop :=
  ∃ x y : Fq, y * y = x.curve ∧ compress x y = key.bytes

theorem tryFrom_eq_ok_of_length {field : FieldSqrt} {value : Bytes} (length : value.length = 32) :
    tryFrom field value = .ok key ↔ value = key.bytes.toList ∧ key.IsPoint := by
  have decoded : tryFrom field value = .ok key ↔
      key.bytes = ⟨value, length⟩ ∧ ∃ point, decompress field ⟨value, length⟩ = some point :=
    @tryFrom_eq_ok field ⟨value, length⟩ key
  rw [decoded]
  constructor
  · rintro ⟨same, point, found⟩
    obtain ⟨x, y, rfl⟩ := affine_of_decompress found
    rw [← same] at found
    exact ⟨congrArg FixedBytes.toList same.symm, x, y, decompress_eq_some.mp found⟩
  · rintro ⟨same, x, y, onCurve, compressed⟩
    have bytesSame : key.bytes = ⟨value, length⟩ := FixedBytes.ext same.symm
    rw [bytesSame] at compressed
    exact ⟨bytesSame, .affine x y, decompress_eq_some.mpr ⟨onCurve, compressed⟩⟩

theorem isPoint_of_fromPrivkey (derived : fromPrivkey library bytes.toList = .ok key) :
    key.IsPoint := by
  obtain ⟨_, x, y, point, rfl⟩ := fromPrivkey_eq_ok.mp derived
  exact ⟨x, y, toG1Affine_onCurve point, rfl⟩

theorem compress_injective {x y x' y' : Fq} (onCurve : y * y = x.curve)
    (onCurve' : y' * y' = x'.curve) (same : compress x y = compress x' y') :
    G1Affine.affine x y = .affine x' y' := by
  have found := (@decompress_eq_some _ _ _ powerSqrt).mpr ⟨onCurve, same⟩
  have found' := (@decompress_eq_some _ _ _ powerSqrt).mpr ⟨onCurve', rfl⟩
  exact Option.some.inj (found.symm.trans found')

theorem fromPrivkey_injective {other : FixedBytes 32}
    (derived : fromPrivkey library bytes.toList = .ok key)
    (otherDerived : fromPrivkey library other.toList = .ok key) : bytes = other := by
  obtain ⟨reduced, x, y, point, rfl⟩ := fromPrivkey_eq_ok.mp derived
  obtain ⟨otherReduced, x', y', otherPoint, same⟩ := fromPrivkey_eq_ok.mp otherDerived
  have samePoint := compress_injective (toG1Affine_onCurve point) (toG1Affine_onCurve otherPoint)
    (Bn254PublicKey.mk.inj same)
  rw [← point, ← otherPoint] at samePoint
  have sameScalar := @nsmul_generator_injective ⟨_, reduced⟩ ⟨_, otherReduced⟩
    (toG1Affine_injective samePoint)
  apply FixedBytes.ext
  exact ofLE_injective (by simp) (congrArg Fin.val sameScalar)

end Bn254PublicKey

namespace Bn254Keypair

variable {bytes : FixedBytes 32} {keypair : Bn254Keypair library}

theorem ext_of_secret {left right : Bn254Keypair library} (same : left.secret = right.secret) :
    left = right := by
  obtain ⟨secret, key, derived⟩ := left
  obtain ⟨secret', key', derived'⟩ := right
  obtain rfl : secret = secret' := same
  obtain rfl := Except.ok.inj (derived.symm.trans derived')
  rfl

theorem fromSecret_eq_ok :
    fromSecret library bytes.toList = .ok keypair ↔ keypair.secret = bytes := by
  unfold fromSecret
  split
  · rename_i cause failed
    constructor
    · intro impossible
      cases impossible
    · intro same
      have derived := keypair.derived
      rw [same, failed] at derived
      cases derived
  · rename_i key derived
    rw [dif_pos bytes.length_toList, Except.ok.injEq]
    constructor
    · intro same
      rw [← same]
    · intro same
      exact ext_of_secret same.symm

theorem fromSecret_isOk_iff :
    (∃ keypair, fromSecret library bytes.toList = .ok keypair) ↔
      1 ≤ ofLE bytes.toList ∧ ofLE bytes.toList ≤ scalarModulus - 1 := by
  rw [← @Bn254PublicKey.fromPrivkey_isOk_iff library bytes]
  constructor
  · rintro ⟨keypair, built⟩
    have derived := keypair.derived
    rw [fromSecret_eq_ok.mp built] at derived
    exact ⟨keypair.publicKey, derived⟩
  · rintro ⟨key, derived⟩
    exact ⟨⟨bytes, key, derived⟩, fromSecret_eq_ok.mpr rfl⟩

theorem fromSecretBe_eq (bytes : FixedBytes 32) :
    fromSecretBe library bytes.toList = fromSecret library (reversed bytes).toList := by
  rw [fromSecretBe, reverseSecretScalar_toList]
  rfl

theorem secretBe_eq {ε : Type} :
    (keypair.secretBe : Outcome ε _) = .ok (reversed keypair.secret) := by
  rw [secretBe, reverseSecretScalar_toList]
  rfl

theorem fromSecretBe_eq_ok :
    fromSecretBe library bytes.toList = .ok keypair ↔ reversed keypair.secret = bytes := by
  rw [fromSecretBe_eq, fromSecret_eq_ok]
  constructor
  · intro same
    rw [same, reversed_reversed]
  · intro same
    rw [← same, reversed_reversed]

end Bn254Keypair

end HoprTypes.Crypto
