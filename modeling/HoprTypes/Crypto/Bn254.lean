import HoprTypes.Crypto.Types
import HoprTypes.Lib.Buffers
import HoprTypes.Lib.Primality

/-!
# Public keys on BN254

A key is the big-endian `x` coordinate of its point, with the parity of `y` in the most
significant bit, which no coordinate uses.
-/

set_option autoImplicit false

namespace HoprTypes.Crypto

open BigEndian Primality HoprTypes.Primitive

namespace Bn254

/-! ## The base field -/

@[irreducible] def modulus : Nat :=
  21888242871839275222246405745257275088696311157297823662689037894645226208583

instance : NeZero modulus := ⟨by norm_num [modulus]⟩

abbrev Fq := Fin modulus

def modulusSteps : List Step :=
  [⟨5501, 2, [2, 2, 5, 5, 5, 11]⟩,
    ⟨11003, 2, [2, 5501]⟩,
    ⟨3691, 2, [2, 3, 3, 5, 41]⟩,
    ⟨4999, 3, [2, 3, 7, 7, 17]⟩,
    ⟨405928799, 22, [2, 11, 3691, 4999]⟩,
    ⟨327599, 19, [2, 19, 37, 233]⟩,
    ⟨11465965001, 3, [2, 2, 2, 5, 5, 5, 5, 7, 327599]⟩,
    ⟨1853641, 17, [2, 2, 2, 3, 3, 5, 19, 271]⟩,
    ⟨1231, 3, [2, 3, 5, 41]⟩,
    ⟨4562087, 5, [2, 17, 109, 1231]⟩,
    ⟨2221, 2, [2, 2, 3, 5, 37]⟩,
    ⟨13327, 3, [2, 3, 2221]⟩,
    ⟨173171039, 13, [2, 73, 89, 13327]⟩,
    ⟨3557, 2, [2, 2, 7, 127]⟩,
    ⟨1263766531, 10, [2, 3, 5, 13, 911, 3557]⟩,
    ⟨35385462869, 2, [2, 2, 7, 1263766531]⟩,
    ⟨2480874801745591, 6, [2, 3, 3, 5, 19, 41, 35385462869]⟩,
    ⟨13427688667394608761327070753331941386769, 17,
      [2, 2, 2, 2, 3, 7, 11, 1853641, 4562087, 173171039, 2480874801745591]⟩,
    ⟨modulus, 3,
      [2, 3, 3, 13, 29, 67, 229, 311, 983, 11003, 405928799, 11465965001,
        13427688667394608761327070753331941386769]⟩]

theorem modulus_prime : modulus.Prime := by
  have checked : certifies 256 [] modulusSteps = true := by decide +kernel
  have none : ∀ q ∈ ([] : List Nat), q.Prime := by simp
  have primes := prime_of_certifies none checked
  exact primes (modulusSteps.getLast (by decide)) (List.getLast_mem _)

theorem modulus_odd : modulus % 2 = 1 := by norm_num [modulus]

theorem modulus_lt : modulus < 2 ^ 254 := by norm_num [modulus]

namespace Fq

/-- The right side of the curve equation `y² = x³ + 3`. -/
def curve (x : Fq) : Fq := x * x * x + Fin.ofNat modulus 3

def fromBeBytesModOrder (bytes : FixedBytes 32) : Fq := Fin.ofNat modulus (ofBE bytes.toList)

def toBytesBe (x : Fq) : FixedBytes 32 := beBytes 32 x.val

def isOdd (x : Fq) : Bool := x.val % 2 == 1

end Fq

/-- The square roots of the field library: some root of every square, and of nothing else. -/
structure FieldSqrt where
  sqrt : Fq → Option Fq
  sound : ∀ {value root : Fq}, sqrt value = some root → root * root = value
  complete : ∀ root : Fq, ∃ found, sqrt (root * root) = some found

/-! ## Points and keys -/

/-- A point of the curve library, which does not check the curve equation. -/
inductive G1Affine where
  | infinity
  | affine (x y : Fq)
deriving DecidableEq

namespace G1Affine

def xy : G1Affine → Option (Fq × Fq)
  | infinity => none
  | affine x y => some (x, y)

def isOnCurve : G1Affine → Bool
  | infinity => true
  | affine x y => y * y == x.curve

end G1Affine

def ySignBit : UInt8 := 0x80

/-- Accepts exactly the encodings that are fully reduced. -/
def canonicalFq (bytes : FixedBytes 32) : Option Fq :=
  let element := Fq.fromBeBytesModOrder bytes
  if element.toBytesBe = bytes then some element else none

def hasSign (bytes : FixedBytes 32) : Bool := bytes.get 0 &&& ySignBit != 0

def clearSign (bytes : FixedBytes 32) : FixedBytes 32 := bytes.set 0 (bytes.get 0 &&& ~~~ySignBit)

def setSign (bytes : FixedBytes 32) : FixedBytes 32 := bytes.set 0 (bytes.get 0 ||| ySignBit)

def decompress (field : FieldSqrt) (bytes : FixedBytes 32) : Option G1Affine := do
  let yIsOdd := hasSign bytes
  let x ← canonicalFq (clearSign bytes)
  let root ← field.sqrt x.curve
  let y := if root.isOdd == yIsOdd then root else -root
  some (.affine x y)

end Bn254

open Bn254

structure Bn254PublicKey where
  bytes : FixedBytes 32
deriving DecidableEq

namespace Bn254PublicKey

def tryFrom (field : FieldSqrt) (value : Bytes) : Except GeneralError Bn254PublicKey := do
  let reprBytes ← tryFromSlice 32 "Bn254PublicKey" value
  -- Decompression validates that the representation is canonical and denotes a curve point.
  if (decompress field reprBytes).isNone then .error (.parseError "Bn254PublicKey")
  else .ok ⟨reprBytes⟩

def tryFromAffine (value : G1Affine) : Except CryptoError Bn254PublicKey := do
  let (x, y) ← okOr .invalidPublicKey value.xy
  let ret := x.toBytesBe
  .ok ⟨if y.isOdd then setSign ret else ret⟩

def fromAffineCoordinates (x y : FixedBytes 32) : Except CryptoError Bn254PublicKey := do
  let x ← okOr .invalidPublicKey (canonicalFq x)
  let y ← okOr .invalidPublicKey (canonicalFq y)
  let point := G1Affine.affine x y
  if !point.isOnCurve then .error .invalidPublicKey else tryFromAffine point

/-- The coordinates of a key; without a result the code panics. -/
def toAffineCoordinates (field : FieldSqrt) (key : Bn254PublicKey) :
    Option (FixedBytes 32 × FixedBytes 32) := do
  let point ← decompress field key.bytes
  let (x, y) ← point.xy
  some (x.toBytesBe, y.toBytesBe)

end Bn254PublicKey

namespace Bn254

/-! ## The sign bit -/

theorem byte_sign (byte : UInt8) :
    (byte ||| ySignBit) &&& ySignBit ≠ 0 ∧ (byte &&& ~~~ySignBit) &&& ySignBit = 0 ∧
      (byte &&& ySignBit = 0 →
        (byte ||| ySignBit) &&& ~~~ySignBit = byte ∧ byte &&& ~~~ySignBit = byte) ∧
      (byte &&& ySignBit ≠ 0 → (byte &&& ~~~ySignBit) ||| ySignBit = byte) ∧
      (byte.toNat < 128 → byte &&& ySignBit = 0) := by
  have all : ∀ value : Fin 256, let byte := UInt8.ofNat value.val
      (byte ||| ySignBit) &&& ySignBit ≠ 0 ∧ (byte &&& ~~~ySignBit) &&& ySignBit = 0 ∧
      (byte &&& ySignBit = 0 →
        (byte ||| ySignBit) &&& ~~~ySignBit = byte ∧ byte &&& ~~~ySignBit = byte) ∧
      (byte &&& ySignBit ≠ 0 → (byte &&& ~~~ySignBit) ||| ySignBit = byte) ∧
      (byte.toNat < 128 → byte &&& ySignBit = 0) := by decide +kernel
  have here := all ⟨byte.toNat, byte.toNat_lt⟩
  dsimp only at here
  rw [UInt8.ofNat_toNat] at here
  exact here

theorem set_set_zero {bytes : FixedBytes 32} {first second : UInt8}
    (restored : second = bytes.get 0) : (bytes.set 0 first).set 0 second = bytes := by
  apply FixedBytes.ext_get
  intro i _
  rw [FixedBytes.get_set _ (by decide), FixedBytes.get_set _ (by decide)]
  split_ifs with same
  · rw [restored, same]
  · rfl

theorem get_set_zero (bytes : FixedBytes 32) (byte : UInt8) : (bytes.set 0 byte).get 0 = byte := by
  rw [FixedBytes.get_set _ (by decide), if_pos rfl]

variable {bytes : FixedBytes 32}

theorem hasSign_setSign : hasSign (setSign bytes) = true := by
  rw [hasSign, setSign, get_set_zero, bne_iff_ne]
  exact (byte_sign _).1

theorem clearSign_setSign (unsigned : hasSign bytes = false) :
    clearSign (setSign bytes) = bytes := by
  rw [hasSign, bne_eq_false_iff_eq] at unsigned
  apply set_set_zero
  rw [setSign, get_set_zero]
  exact ((byte_sign _).2.2.1 unsigned).1

theorem setSign_clearSign (signed : hasSign bytes = true) :
    setSign (clearSign bytes) = bytes := by
  rw [hasSign, bne_iff_ne] at signed
  apply set_set_zero
  rw [clearSign, get_set_zero]
  exact (byte_sign _).2.2.2.1 signed

theorem clearSign_of_unsigned (unsigned : hasSign bytes = false) : clearSign bytes = bytes := by
  rw [hasSign, bne_eq_false_iff_eq] at unsigned
  apply FixedBytes.ext_get
  intro i _
  rw [clearSign, FixedBytes.get_set _ (by decide), ((byte_sign _).2.2.1 unsigned).2]
  split_ifs with same
  · rw [same]
  · rfl

theorem hasSign_of_lt (small : ofBE bytes.toList < 2 ^ 255) : hasSign bytes = false := by
  rw [hasSign, bne_eq_false_iff_eq]
  apply (byte_sign _).2.2.2.2
  have length := bytes.length_toList
  cases shape : bytes.toList with
  | nil =>
      rw [shape] at length
      cases length
  | cons byte rest =>
      have first : bytes.get 0 = byte := by rw [FixedBytes.get, shape, List.getD_cons_zero]
      rw [shape, ofBE_cons] at small
      rw [shape, List.length_cons] at length
      have tail : rest.length = 31 := by omega
      have power : 256 ^ rest.length = 2 ^ 248 := by
        rw [tail]
        decide
      rw [power] at small
      rw [first]
      omega

/-! ## Field elements -/

variable {x y : Fq}

theorem val_lt (x : Fq) : x.val < 256 ^ 32 :=
  lt_trans (lt_trans x.isLt modulus_lt) (by decide)

theorem ofBE_toBytesBe (x : Fq) : ofBE x.toBytesBe.toList = x.val := ofBE_toBE_of_lt (val_lt x)

theorem canonicalFq_eq_some :
    canonicalFq bytes = some x ↔ ofBE bytes.toList = x.val := by
  unfold canonicalFq
  dsimp only
  have canonical : (Fq.fromBeBytesModOrder bytes).toBytesBe = bytes ↔
      ofBE bytes.toList < modulus := by
    constructor
    · intro same
      rw [← same, ofBE_toBytesBe]
      exact (Fq.fromBeBytesModOrder bytes).isLt
    · intro small
      apply FixedBytes.ext
      rw [Fq.toBytesBe, toList_beBytes, Fq.fromBeBytesModOrder, Fin.val_ofNat,
        Nat.mod_eq_of_lt small]
      exact toBE_ofBE_of_length bytes.length_toList
  by_cases small : ofBE bytes.toList < modulus
  · rw [if_pos (canonical.mpr small), Option.some.injEq, Fin.ext_iff, Fq.fromBeBytesModOrder,
      Fin.val_ofNat, Nat.mod_eq_of_lt small]
  · rw [if_neg (mt canonical.mp small)]
    constructor
    · intro impossible
      cases impossible
    · intro value
      exact absurd (value ▸ x.isLt) small

theorem canonicalFq_toBytesBe (x : Fq) : canonicalFq x.toBytesBe = some x :=
  canonicalFq_eq_some.mpr (ofBE_toBytesBe x)

theorem toBytesBe_of_canonical (canonical : canonicalFq bytes = some x) : x.toBytesBe = bytes := by
  have value := canonicalFq_eq_some.mp canonical
  apply FixedBytes.ext
  rw [Fq.toBytesBe, toList_beBytes, ← value]
  exact toBE_ofBE_of_length bytes.length_toList

theorem hasSign_toBytesBe (x : Fq) : hasSign x.toBytesBe = false := by
  apply hasSign_of_lt
  rw [ofBE_toBytesBe]
  exact lt_trans (lt_trans x.isLt modulus_lt) (by decide)

theorem root_unique {left right : Fq} (squares : left * left = right * right)
    (parity : left.isOdd = right.isOdd) : left = right := by
  apply Fin.ext
  apply root_eq_of_parity modulus_prime modulus_odd left.isLt right.isLt
  · have values := congrArg Fin.val squares
    rw [Fin.val_mul, Fin.val_mul] at values
    exact values
  · unfold Fq.isOdd at parity
    rcases Nat.mod_two_eq_zero_or_one left.val with even | odd <;>
      rcases Nat.mod_two_eq_zero_or_one right.val with even' | odd' <;> simp_all

theorem neg_mul_neg_self (x : Fq) : -x * -x = x * x := by
  apply Fin.ext
  rw [Fin.val_mul, Fin.val_mul, Fin.val_neg]
  split_ifs with zero
  · rw [zero]
    rfl
  · have squares : ∀ value total : Nat, value < total →
        (total - value) * (total - value) + 2 * value * total = value * value + total * total := by
      intro value total small
      obtain ⟨rest, rfl⟩ := Nat.exists_eq_add_of_lt small
      have difference : value + rest + 1 - value = rest + 1 := by omega
      rw [difference]
      ring
    have reduced := congrArg (· % modulus) (squares x.val modulus x.isLt)
    simp only [Nat.add_mul_mod_self_right] at reduced
    exact reduced

theorem isOdd_neg (nonZero : x ≠ 0) : (-x).isOdd = !x.isOdd := by
  have odd := modulus_odd
  have small := x.isLt
  unfold Fq.isOdd
  rw [Fin.val_neg, if_neg nonZero]
  rcases Nat.mod_two_eq_zero_or_one x.val with even | odd'
  · have flipped : (modulus - x.val) % 2 = 1 := by omega
    rw [even, flipped]
    rfl
  · have flipped : (modulus - x.val) % 2 = 0 := by omega
    rw [odd', flipped]
    rfl

theorem curve_ne_zero (x : Fq) : x.curve ≠ 0 := by
  intro zero
  have value := congrArg Fin.val zero
  rw [Fq.curve, Fin.val_add, Fin.val_mul, Fin.val_mul, Fin.val_ofNat] at value
  have cube : (x.val ^ 3 + 3) % modulus = 0 := by
    rw [Nat.mod_mul_mod, Nat.add_mod, Nat.mod_mod, Nat.mod_mod, ← Nat.add_mod] at value
    rw [pow_succ, pow_two]
    exact value
  have split : 3 * ((modulus - 1) / 3) = modulus - 1 := by norm_num [modulus]
  have nonresidue : powMod modulus 256 (modulus - 3) ((modulus - 1) / 3) ≠ 1 := by decide +kernel
  have small : (modulus - 1) / 3 < 2 ^ 256 := by norm_num [modulus]
  have unit : (modulus - 3) % modulus ≠ 0 := by norm_num [modulus]
  apply ne_power modulus_prime split small unit nonresidue x.val
  have large : 3 < modulus := by norm_num [modulus]
  have sum : (x.val ^ 3 + 3) % modulus = (modulus - 3 + 3) % modulus := by
    rw [cube, Nat.sub_add_cancel large.le, Nat.mod_self]
  exact Nat.ModEq.add_right_cancel' 3 sum

theorem root_ne_zero (root : y * y = x.curve) : y ≠ 0 := by
  rintro rfl
  apply curve_ne_zero x
  rw [← root, Fin.zero_mul]

/-! ## Compression and decompression -/

def compress (x y : Fq) : FixedBytes 32 :=
  if y.isOdd then setSign x.toBytesBe else x.toBytesBe

theorem compress_eq_iff :
    compress x y = bytes ↔ clearSign bytes = x.toBytesBe ∧ hasSign bytes = y.isOdd := by
  have unsigned := hasSign_toBytesBe x
  unfold compress
  cases odd : y.isOdd with
  | true =>
      rw [if_pos rfl]
      constructor
      · rintro rfl
        exact ⟨clearSign_setSign unsigned, hasSign_setSign⟩
      · rintro ⟨cleared, signed⟩
        rw [← cleared, setSign_clearSign signed]
  | false =>
      rw [if_neg (by decide)]
      constructor
      · rintro rfl
        exact ⟨clearSign_of_unsigned unsigned, unsigned⟩
      · rintro ⟨cleared, unsigned'⟩
        rw [← cleared, clearSign_of_unsigned unsigned']

variable {field : FieldSqrt}

theorem decompress_eq_some :
    decompress field bytes = some (.affine x y) ↔ y * y = x.curve ∧ compress x y = bytes := by
  rw [compress_eq_iff]
  unfold decompress
  simp only [Option.bind_eq_bind, Option.bind_eq_some_iff, Option.some.injEq,
    G1Affine.affine.injEq]
  constructor
  · rintro ⟨found, canonical, root, square, rfl, chosen⟩
    have rooted : root * root = found.curve := field.sound square
    refine ⟨?_, (toBytesBe_of_canonical canonical).symm, ?_⟩
    · rw [← chosen]
      split_ifs
      · exact rooted
      · rw [neg_mul_neg_self, rooted]
    · rw [← chosen]
      split_ifs with agrees
      · exact (eq_of_beq agrees).symm
      · rw [isOdd_neg (root_ne_zero rooted)]
        cases signed : hasSign bytes <;> cases odd : root.isOdd <;> simp_all
  · rintro ⟨onCurve, cleared, signed⟩
    obtain ⟨root, square⟩ := field.complete y
    have rooted : root * root = y * y := field.sound square
    refine ⟨x, ?_, root, onCurve ▸ square, rfl, ?_⟩
    · rw [cleared]
      exact canonicalFq_toBytesBe x
    · rw [signed]
      split_ifs with agrees
      · exact root_unique rooted (eq_of_beq agrees)
      · apply root_unique
        · rw [neg_mul_neg_self, rooted]
        · have nonZero : root ≠ 0 := root_ne_zero (rooted.trans onCurve)
          rw [isOdd_neg nonZero]
          cases odd : root.isOdd <;> cases odd' : y.isOdd <;> simp_all

theorem affine_of_decompress {point : G1Affine} (found : decompress field bytes = some point) :
    ∃ x y, point = .affine x y := by
  unfold decompress at found
  simp only [Option.bind_eq_bind, Option.bind_eq_some_iff, Option.some.injEq] at found
  obtain ⟨x, _, root, _, rfl⟩ := found
  exact ⟨x, _, rfl⟩

theorem decompress_isSome_iff :
    (∃ point, decompress field bytes = some point) ↔
      ∃ x : Fq, ofBE (clearSign bytes).toList = x.val ∧ ∃ y : Fq, y * y = x.curve := by
  constructor
  · rintro ⟨point, found⟩
    obtain ⟨x, y, rfl⟩ := affine_of_decompress found
    obtain ⟨onCurve, compressed⟩ := decompress_eq_some.mp found
    refine ⟨x, ?_, y, onCurve⟩
    rw [(compress_eq_iff.mp compressed).1, ofBE_toBytesBe]
  · rintro ⟨x, value, y, onCurve⟩
    have cleared : clearSign bytes = x.toBytesBe :=
      (toBytesBe_of_canonical (canonicalFq_eq_some.mpr value)).symm
    by_cases signed : hasSign bytes = y.isOdd
    · exact ⟨.affine x y, decompress_eq_some.mpr ⟨onCurve, compress_eq_iff.mpr ⟨cleared, signed⟩⟩⟩
    · have flipped : hasSign bytes = (-y).isOdd := by
        rw [isOdd_neg (root_ne_zero onCurve)]
        exact Bool.eq_not_of_ne signed
      have opposite : -y * -y = x.curve := (neg_mul_neg_self y).trans onCurve
      exact ⟨.affine x (-y),
        decompress_eq_some.mpr ⟨opposite, compress_eq_iff.mpr ⟨cleared, flipped⟩⟩⟩

end Bn254

namespace Bn254PublicKey

variable {field : FieldSqrt} {bytes : FixedBytes 32} {key : Bn254PublicKey}

theorem tryFromAffine_affine (x y : Fq) : tryFromAffine (.affine x y) = .ok ⟨compress x y⟩ := rfl

theorem tryFrom_eq_ok :
    tryFrom field bytes.toList = .ok key ↔
      key.bytes = bytes ∧ ∃ point, decompress field bytes = some point := by
  unfold tryFrom
  simp only [tryFromSlice_toList, ok_bind]
  cases found : decompress field bytes with
  | none => simp
  | some point =>
      rw [if_neg (by simp)]
      constructor
      · intro built
        rw [← Except.ok.inj built]
        exact ⟨rfl, point, rfl⟩
      · rintro ⟨rfl, _⟩
        rfl

theorem exists_point (accepted : tryFrom field bytes.toList = .ok key) :
    ∃ x y : Fq, y * y = x.curve ∧ compress x y = bytes := by
  obtain ⟨_, point, found⟩ := tryFrom_eq_ok.mp accepted
  obtain ⟨x, y, rfl⟩ := affine_of_decompress found
  exact ⟨x, y, decompress_eq_some.mp found⟩

theorem fromAffineCoordinates_eq_ok {xBytes yBytes : FixedBytes 32} :
    fromAffineCoordinates xBytes yBytes = .ok key ↔
      ∃ x y : Fq, ofBE xBytes.toList = x.val ∧ ofBE yBytes.toList = y.val ∧
        y * y = x.curve ∧ key = ⟨compress x y⟩ := by
  unfold fromAffineCoordinates
  simp only [bind_eq_ok, okOr_eq_ok, canonicalFq_eq_some]
  constructor
  · rintro ⟨x, xValue, y, yValue, built⟩
    split_ifs at built with offCurve
    have onCurve : y * y = x.curve := by simpa [G1Affine.isOnCurve] using offCurve
    exact ⟨x, y, xValue, yValue, onCurve, (Except.ok.inj built).symm⟩
  · rintro ⟨x, y, xValue, yValue, onCurve, rfl⟩
    refine ⟨x, xValue, y, yValue, ?_⟩
    rw [if_neg (by simp [G1Affine.isOnCurve, onCurve])]
    exact tryFromAffine_affine x y

theorem toAffineCoordinates_eq {x y : Fq} (onCurve : y * y = x.curve)
    (compressed : compress x y = key.bytes) :
    toAffineCoordinates field key = some (x.toBytesBe, y.toBytesBe) := by
  unfold toAffineCoordinates
  rw [decompress_eq_some.mpr ⟨onCurve, compressed⟩]
  rfl

/-- Compression and decompression are inverse to each other between the finite curve points and
the accepted byte strings. -/
theorem compression_bijective (field : FieldSqrt) :
    (∀ x y : Fq, y * y = x.curve → ∃ key, tryFromAffine (.affine x y) = .ok key ∧
      decompress field key.bytes = some (.affine x y)) ∧
    (∀ bytes : FixedBytes 32, (∃ key, tryFrom field bytes.toList = .ok key) ↔
      ∃ x : Fq, ofBE (clearSign bytes).toList = x.val ∧ ∃ y : Fq, y * y = x.curve) ∧
    (∀ (bytes : FixedBytes 32) (key : Bn254PublicKey), tryFrom field bytes.toList = .ok key →
      key.bytes = bytes ∧ ∃ x y : Fq, decompress field bytes = some (.affine x y) ∧
        y * y = x.curve ∧ tryFromAffine (.affine x y) = .ok ⟨bytes⟩) ∧
    (∀ (bytes : FixedBytes 32) (key : Bn254PublicKey), tryFrom field bytes.toList = .ok key →
      ∃ x y, toAffineCoordinates field key = some (x, y) ∧
        fromAffineCoordinates x y = .ok key) ∧
    ∀ xBytes yBytes : FixedBytes 32, (∃ key, fromAffineCoordinates xBytes yBytes = .ok key) ↔
      ∃ x y : Fq, ofBE xBytes.toList = x.val ∧ ofBE yBytes.toList = y.val ∧ y * y = x.curve := by
  refine ⟨?_, ?_, ?_, ?_, ?_⟩
  · intro x y onCurve
    exact ⟨⟨compress x y⟩, tryFromAffine_affine x y, decompress_eq_some.mpr ⟨onCurve, rfl⟩⟩
  · intro bytes
    rw [← @decompress_isSome_iff bytes field]
    constructor
    · rintro ⟨key, accepted⟩
      exact (tryFrom_eq_ok.mp accepted).2
    · intro found
      exact ⟨⟨bytes⟩, tryFrom_eq_ok.mpr ⟨rfl, found⟩⟩
  · intro bytes key accepted
    obtain ⟨x, y, onCurve, rfl⟩ := exists_point accepted
    refine ⟨(tryFrom_eq_ok.mp accepted).1, x, y, ?_, onCurve, tryFromAffine_affine x y⟩
    exact decompress_eq_some.mpr ⟨onCurve, rfl⟩
  · intro bytes key accepted
    obtain ⟨x, y, onCurve, compressed⟩ := exists_point accepted
    have same : compress x y = key.bytes := compressed.trans (tryFrom_eq_ok.mp accepted).1.symm
    refine ⟨_, _, toAffineCoordinates_eq onCurve same, fromAffineCoordinates_eq_ok.mpr ?_⟩
    exact ⟨x, y, ofBE_toBytesBe x, ofBE_toBytesBe y, onCurve, by rw [same]⟩
  · intro xBytes yBytes
    constructor
    · rintro ⟨key, built⟩
      obtain ⟨x, y, xValue, yValue, onCurve, _⟩ := fromAffineCoordinates_eq_ok.mp built
      exact ⟨x, y, xValue, yValue, onCurve⟩
    · rintro ⟨x, y, xValue, yValue, onCurve⟩
      exact ⟨_, fromAffineCoordinates_eq_ok.mpr ⟨x, y, xValue, yValue, onCurve, rfl⟩⟩

end Bn254PublicKey

/-! ## Square roots by a power -/

namespace Bn254

/-- The modulus is 3 modulo 4, so that a power yields the root of a square. -/
def powerRoot (value : Fq) : Fq :=
  Fin.ofNat modulus (powMod modulus 256 value.val ((modulus + 1) / 4))

theorem powerRoot_square (root : Fq) :
    powerRoot (root * root) * powerRoot (root * root) = root * root := by
  have shape : modulus % 4 = 3 := by norm_num [modulus]
  have small : (modulus + 1) / 4 < 2 ^ 256 := by norm_num [modulus]
  have square : root.val * root.val % modulus = (root * root).val % modulus := by
    rw [Fin.val_mul, Nat.mod_mod]
  have power := sqrt_of_square modulus_prime shape square
  apply Fin.ext
  rw [Fin.val_mul, powerRoot, Fin.val_ofNat, powMod_eq _ _ _ _ small, ← Nat.mul_mod, Nat.mul_mod,
    Nat.mod_mod, ← Nat.mul_mod, power, Nat.mod_eq_of_lt (root * root).isLt]

def powerSqrt : FieldSqrt where
  sqrt value := if powerRoot value * powerRoot value = value then some (powerRoot value) else none
  sound := by
    intro value root found
    split_ifs at found with square
    rw [← Option.some.inj found]
    exact square
  complete root := ⟨_, if_pos (powerRoot_square root)⟩

/-- The bytes of the generator `(1, 2)`. -/
example : decompress powerSqrt (beBytes 32 1) = some (.affine 1 2) := by decide +kernel

end Bn254

end HoprTypes.Crypto
