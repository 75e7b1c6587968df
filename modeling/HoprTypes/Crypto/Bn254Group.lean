import HoprTypes.Crypto.Bn254
import HoprTypes.Lib.ShortCurve

/-!
# The group of BN254

The points of `y² = x³ + 3` as a group, whose generator `(1, 2)` has the modulus of the scalar
field as its order.
-/

set_option autoImplicit false

namespace HoprTypes.Crypto.Bn254

open Primality

/-! ## The scalar field -/

@[irreducible] def scalarModulus : Nat :=
  21888242871839275222246405745257275088548364400416034343698204186575808495617

instance : NeZero scalarModulus := ⟨by norm_num [scalarModulus]⟩

abbrev Fr := Fin scalarModulus

def scalarModulusSteps : List Step :=
  [⟨20963, 2, [2, 47, 223]⟩,
    ⟨41927, 5, [2, 20963]⟩,
    ⟨1593227, 2, [2, 19, 41927]⟩,
    ⟨1637, 2, [2, 2, 409]⟩,
    ⟨639533339, 2, [2, 229, 853, 1637]⟩,
    ⟨65865678001877903, 5, [2, 83, 379, 1637, 639533339]⟩,
    ⟨13818364434197438864469338081, 3,
      [2, 2, 2, 2, 2, 5, 823, 1593227, 65865678001877903]⟩,
    ⟨237073, 15, [2, 2, 2, 2, 3, 11, 449]⟩,
    ⟨93001, 14, [2, 2, 2, 3, 5, 5, 5, 31]⟩,
    ⟨12048837557, 2, [2, 2, 7, 7, 661, 93001]⟩,
    ⟨5156902474397, 2, [2, 2, 107, 12048837557]⟩,
    ⟨1670836401704629, 2, [2, 2, 3, 3, 3, 3, 5156902474397]⟩,
    ⟨5501, 2, [2, 2, 5, 5, 5, 11]⟩,
    ⟨11003, 2, [2, 5501]⟩,
    ⟨3691, 2, [2, 3, 3, 5, 41]⟩,
    ⟨4999, 3, [2, 3, 7, 7, 17]⟩,
    ⟨405928799, 22, [2, 11, 3691, 4999]⟩,
    ⟨scalarModulus, 5,
      [2, 2, 2, 2, 2, 2, 2, 2, 2, 2, 2, 2, 2, 2, 2, 2, 2, 2, 2, 2, 2, 2, 2, 2, 2, 2, 2, 2,
        3, 3, 13, 29, 983, 11003, 237073, 405928799, 1670836401704629,
        13818364434197438864469338081]⟩]

theorem scalarModulus_prime : scalarModulus.Prime := by
  have checked : certifies 256 [] scalarModulusSteps = true := by decide +kernel
  have none : ∀ q ∈ ([] : List Nat), q.Prime := by simp
  have primes := prime_of_certifies none checked
  exact primes (scalarModulusSteps.getLast (by decide)) (List.getLast_mem _)

/-! ## The group -/

instance : Fact modulus.Prime := ⟨modulus_prime⟩

abbrev curve : WeierstrassCurve.Affine (ZMod modulus) := ShortCurve.curve 3

theorem modulus_vanishes : (((modulus : ℕ) : ℤ) : ZMod modulus) = 0 := by simp

theorem cast_ne_zero {value : ℤ} (residue : value % (modulus : ℤ) ≠ 0) :
    (value : ZMod modulus) ≠ 0 := by
  intro zero
  apply residue
  exact Int.emod_eq_zero_of_dvd ((ZMod.intCast_zmod_eq_zero_iff_dvd value modulus).mp zero)

theorem cast_eq_zero {value : ℤ} (residue : value % (modulus : ℤ) = 0) :
    (value : ZMod modulus) = 0 :=
  (ZMod.intCast_zmod_eq_zero_iff_dvd value modulus).mpr (Int.dvd_of_emod_eq_zero residue)

theorem generator_onCurve :
    curve.Nonsingular ((1 : ℤ) : ZMod modulus) ((2 : ℤ) : ZMod modulus) := by
  have slanted : ((2 : ℤ) : ZMod modulus) ≠ -((2 : ℤ) : ZMod modulus) := by
    intro same
    have four : ((4 : ℤ) : ZMod modulus) ≠ 0 := cast_ne_zero (by norm_num [modulus])
    apply four
    push_cast at same ⊢
    linear_combination same
  apply ShortCurve.nonsingular_curve _ slanted
  push_cast
  ring

def generator : curve.Point := .some _ _ generator_onCurve

/-- The predecessor of the order leads to the opposite of the generator. -/
theorem scalarModulus_nsmul_generator : scalarModulus • generator = 0 := by
  let last := ShortCurve.multiple modulus 1 2 253 (scalarModulus - 1)
  have computed : last.z % (modulus : ℤ) ≠ 0 ∧
      (last.x - last.z * last.z) % (modulus : ℤ) = 0 ∧
      (last.y + 2 * last.z * last.z * last.z) % (modulus : ℤ) = 0 := by decide +kernel
  obtain ⟨z, x, y⟩ := computed
  have finite : (last.z : ZMod modulus) ≠ 0 := cast_ne_zero z
  obtain ⟨_, onCurve, reached⟩ := ShortCurve.multiple_represents modulus_vanishes
    generator_onCurve (by norm_num [scalarModulus]) (by norm_num [scalarModulus]) finite
  have opposite : (scalarModulus - 1) • generator = -generator := by
    rw [generator, reached, WeierstrassCurve.Affine.Point.neg_some]
    obtain ⟨_, same⟩ := @ShortCurve.some_congr _ _ _ _ _ _ _ onCurve
      (show (last.x : ZMod modulus) / last.z ^ 2 = (1 : ℤ) by
        have zero := cast_eq_zero x
        push_cast at zero ⊢
        rw [div_eq_iff (pow_ne_zero 2 finite)]
        linear_combination zero)
      (show (last.y : ZMod modulus) / last.z ^ 3 = curve.negY (1 : ℤ) (2 : ℤ) by
        have zero := cast_eq_zero y
        rw [ShortCurve.negY_curve, div_eq_iff (pow_ne_zero 3 finite)]
        push_cast at zero ⊢
        linear_combination zero)
    exact same
  have positive : scalarModulus = (scalarModulus - 1) + 1 := by norm_num [scalarModulus]
  rw [positive, succ_nsmul, opposite, neg_add_cancel]

theorem addOrderOf_generator : addOrderOf generator = scalarModulus := by
  have : Fact scalarModulus.Prime := ⟨scalarModulus_prime⟩
  apply addOrderOf_eq_prime scalarModulus_nsmul_generator
  exact WeierstrassCurve.Affine.Point.some_ne_zero generator_onCurve

theorem nsmul_generator_injective {left right : Fr}
    (same : left.val • generator = right.val • generator) : left = right := by
  rw [nsmul_inj_mod, addOrderOf_generator, Nat.mod_eq_of_lt left.isLt,
    Nat.mod_eq_of_lt right.isLt] at same
  exact Fin.ext same

theorem nsmul_generator_eq_zero {scalar : Fr} :
    scalar.val • generator = 0 ↔ scalar = 0 := by
  constructor
  · intro zero
    apply nsmul_generator_injective
    rw [zero, Fin.val_zero, zero_nsmul]
  · intro zero
    rw [zero, Fin.val_zero, zero_nsmul]

/-! ## Points of the curve library -/

def toFq (element : ZMod modulus) : Fq := ⟨element.val, element.val_lt⟩

/-- A point of the group as the curve library represents it. -/
def toG1Affine : curve.Point → G1Affine
  | .zero => .infinity
  | .some x y _ => .affine (toFq x) (toFq y)

theorem toFq_injective {left right : ZMod modulus} (same : toFq left = toFq right) :
    left = right :=
  ZMod.val_injective modulus (congrArg Fin.val same)

theorem toFq_mul (left right : ZMod modulus) : toFq left * toFq right = toFq (left * right) := by
  apply Fin.ext
  rw [Fin.val_mul]
  exact (ZMod.val_mul left right).symm

theorem toFq_curve (x : ZMod modulus) : (toFq x).curve = toFq (x ^ 3 + 3) := by
  have three : ((3 : ZMod modulus)).val = 3 % modulus := ZMod.val_natCast modulus 3
  rw [Fq.curve, toFq_mul, toFq_mul]
  apply Fin.ext
  rw [Fin.val_add, Fin.val_ofNat]
  show ((x * x * x).val + 3 % modulus) % modulus = (x ^ 3 + 3).val
  rw [ZMod.val_add, three, pow_three, mul_assoc]

theorem toG1Affine_injective {left right : curve.Point}
    (same : toG1Affine left = toG1Affine right) : left = right := by
  cases left with
  | zero =>
      cases right with
      | zero => rfl
      | some x y onCurve => cases same
  | some x y onCurve =>
      cases right with
      | zero => cases same
      | some x' y' onCurve' =>
          obtain ⟨sameX, sameY⟩ := G1Affine.affine.inj same
          obtain rfl := toFq_injective sameX
          obtain rfl := toFq_injective sameY
          rfl

theorem toG1Affine_onCurve {point : curve.Point} {x y : Fq}
    (coordinates : toG1Affine point = .affine x y) : y * y = x.curve := by
  cases point with
  | zero => cases coordinates
  | some u v onCurve =>
      obtain ⟨rfl, rfl⟩ := G1Affine.affine.inj coordinates
      have equation := ShortCurve.equation_curve.mp onCurve.1
      rw [toFq_mul, toFq_curve, ← pow_two, equation]

/-- The scalar multiplication of the library, applied to the generator. -/
structure G1Library where
  mulGenerator : Fr → G1Affine
  multiples : ∀ scalar, mulGenerator scalar = toG1Affine (scalar.val • generator)

end HoprTypes.Crypto.Bn254
