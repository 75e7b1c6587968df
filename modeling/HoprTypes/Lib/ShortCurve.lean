import Mathlib.AlgebraicGeometry.EllipticCurve.Affine.Point
import Mathlib.Tactic.FieldSimp
import Mathlib.Tactic.LinearCombination

/-!
# Multiples of a point of a short curve

The curve `y² = x³ + b` over a field, and double-and-add in Jacobian coordinates. The coordinates
are integers, reduced by a modulus that vanishes in the field, so that a multiple of a point can
be evaluated; a step that the formulas do not cover makes the last coordinate vanish.
-/

set_option autoImplicit false

namespace ShortCurve

universe u

variable {F : Type u} [Field F]

def curve (b : F) : WeierstrassCurve.Affine F := ⟨0, 0, 0, 0, b⟩

@[simp] theorem curve_a₁ (b : F) : (curve b).a₁ = 0 := rfl
@[simp] theorem curve_a₂ (b : F) : (curve b).a₂ = 0 := rfl
@[simp] theorem curve_a₃ (b : F) : (curve b).a₃ = 0 := rfl
@[simp] theorem curve_a₄ (b : F) : (curve b).a₄ = 0 := rfl
@[simp] theorem curve_a₆ (b : F) : (curve b).a₆ = b := rfl

theorem negY_curve (b x y : F) : (curve b).negY x y = -y := by
  simp

theorem equation_curve {b x y : F} : (curve b).Equation x y ↔ y ^ 2 = x ^ 3 + b := by
  simp [WeierstrassCurve.Affine.equation_iff]

theorem nonsingular_curve {b x y : F} (equation : y ^ 2 = x ^ 3 + b) (slanted : y ≠ -y) :
    (curve b).Nonsingular x y := by
  rw [WeierstrassCurve.Affine.nonsingular_iff, equation_curve]
  refine ⟨equation, Or.inr ?_⟩
  simpa using slanted

/-- The triple of the point `(x / z², y / z³)`. -/
structure Jacobian where
  x : ℤ
  y : ℤ
  z : ℤ
deriving DecidableEq

/-! ## Double-and-add -/

section

variable (modulus : ℤ)

def Jacobian.double (point : Jacobian) : Jacobian :=
  let square := point.y * point.y % modulus
  let s := 4 * point.x * square % modulus
  let m := 3 * point.x * point.x % modulus
  let x := (m * m - 2 * s) % modulus
  ⟨x, (m * (s - x) - 8 * square * square) % modulus, 2 * point.y * point.z % modulus⟩

def Jacobian.addAffine (x y : ℤ) (point : Jacobian) : Jacobian :=
  let zz := point.z * point.z % modulus
  let h := (x * zz - point.x) % modulus
  let r := (y * point.z * zz - point.y) % modulus
  let hh := h * h % modulus
  let v := point.x * hh % modulus
  let sumX := (r * r - h * hh - 2 * v) % modulus
  ⟨sumX, (r * (v - sumX) - point.y * h * hh) % modulus, h * point.z % modulus⟩

/-- A positive multiple of the point `(x, y)`, from the top bit of the factor down. -/
def multiple (x y : ℤ) : Nat → Nat → Jacobian
  | 0, _ => ⟨x, y, 1⟩
  | fuel + 1, n =>
      if n ≤ 1 then ⟨x, y, 1⟩
      else
        let doubled := (multiple x y fuel (n / 2)).double modulus
        if n % 2 = 1 then doubled.addAffine modulus x y else doubled

end

/-! ## The points behind the triples -/

variable {b : F} {modulus : ℤ}

/-- A triple that stands for a finite point. -/
structure Represents (point : Jacobian) (target : (curve b).Point) : Prop where
  finite : (point.z : F) ≠ 0
  coordinates : ∃ onCurve, target =
    .some (point.x / point.z ^ 2 : F) (point.y / point.z ^ 3 : F) onCurve

theorem cast_emod (vanishes : (modulus : F) = 0) (value : ℤ) :
    ((value % modulus : ℤ) : F) = value := by
  rw [Int.emod_def]
  push_cast
  rw [vanishes, zero_mul, sub_zero]

theorem some_congr {x y x' y' : F} {onCurve : (curve b).Nonsingular x y} (sameX : x = x')
    (sameY : y = y') : ∃ onCurve', WeierstrassCurve.Affine.Point.some x y onCurve =
      (.some x' y' onCurve' : (curve b).Point) := by
  subst sameX sameY
  exact ⟨onCurve, rfl⟩

theorem represents_affine {x y : ℤ} (onCurve : (curve b).Nonsingular (x : F) (y : F)) :
    Represents ⟨x, y, 1⟩ (.some (x : F) (y : F) onCurve) where
  finite := by simp
  coordinates := some_congr (by simp) (by simp)

theorem double_z (vanishes : (modulus : F) = 0) (point : Jacobian) :
    ((point.double modulus).z : F) = 2 * point.y * point.z := by
  simp only [Jacobian.double, cast_emod vanishes]
  push_cast
  rfl

theorem double_x (vanishes : (modulus : F) = 0) (point : Jacobian) :
    ((point.double modulus).x : F) = 9 * point.x ^ 4 - 8 * point.x * point.y ^ 2 := by
  simp only [Jacobian.double, cast_emod vanishes]
  push_cast [cast_emod vanishes]
  ring

theorem double_y (vanishes : (modulus : F) = 0) (point : Jacobian) :
    ((point.double modulus).y : F) =
      3 * point.x ^ 2 * (4 * point.x * point.y ^ 2 - (point.double modulus).x) -
        8 * point.y ^ 4 := by
  simp only [Jacobian.double, cast_emod vanishes]
  push_cast [cast_emod vanishes]
  ring

theorem addAffine_z (vanishes : (modulus : F) = 0) (x y : ℤ) (point : Jacobian) :
    ((point.addAffine modulus x y).z : F) = (x * point.z ^ 2 - point.x) * point.z := by
  simp only [Jacobian.addAffine, cast_emod vanishes]
  push_cast [cast_emod vanishes]
  ring

theorem addAffine_x (vanishes : (modulus : F) = 0) (x y : ℤ) (point : Jacobian) :
    ((point.addAffine modulus x y).x : F) =
      (y * point.z ^ 3 - point.y) ^ 2 - (x * point.z ^ 2 - point.x) ^ 3 -
        2 * point.x * (x * point.z ^ 2 - point.x) ^ 2 := by
  simp only [Jacobian.addAffine, cast_emod vanishes]
  push_cast [cast_emod vanishes]
  ring

theorem addAffine_y (vanishes : (modulus : F) = 0) (x y : ℤ) (point : Jacobian) :
    ((point.addAffine modulus x y).y : F) =
      (y * point.z ^ 3 - point.y) * (point.x * (x * point.z ^ 2 - point.x) ^ 2 -
        (point.addAffine modulus x y).x) - point.y * (x * point.z ^ 2 - point.x) ^ 3 := by
  simp only [Jacobian.addAffine, cast_emod vanishes]
  push_cast [cast_emod vanishes]
  ring

variable [DecidableEq F]

theorem some_add_some {x₁ y₁ x₂ y₂ line x y : F} {first : (curve b).Nonsingular x₁ y₁}
    {second : (curve b).Nonsingular x₂ y₂} (finite : ¬(x₁ = x₂ ∧ y₁ = -y₂))
    (slope : (curve b).slope x₁ x₂ y₁ y₂ = line) (sumX : line ^ 2 - x₁ - x₂ = x)
    (sumY : line * (x₁ - x) - y₁ = y) :
    ∃ onCurve, WeierstrassCurve.Affine.Point.some x₁ y₁ first + .some x₂ y₂ second =
      (.some x y onCurve : (curve b).Point) := by
  rw [← negY_curve b x₂ y₂] at finite
  rw [WeierstrassCurve.Affine.Point.add_some finite]
  have addX : (curve b).addX x₁ x₂ line = x := by
    rw [WeierstrassCurve.Affine.addX, curve_a₁, curve_a₂, ← sumX]
    ring
  apply some_congr
  · rw [slope, addX]
  · rw [slope, WeierstrassCurve.Affine.addY, negY_curve, WeierstrassCurve.Affine.negAddY, addX,
      ← sumY]
    ring

theorem double_represents (vanishes : (modulus : F) = 0) {point : Jacobian}
    {target : (curve b).Point} (known : Represents point target)
    (finite : ((point.double modulus).z : F) ≠ 0) :
    Represents (point.double modulus) (target + target) := by
  obtain ⟨zFinite, onCurve, rfl⟩ := known
  have z := double_z vanishes point
  refine ⟨finite, ?_⟩
  rw [z] at finite
  have yFinite : (point.y : F) ≠ 0 := right_ne_zero_of_mul (left_ne_zero_of_mul finite)
  have two : (2 : F) ≠ 0 := left_ne_zero_of_mul (left_ne_zero_of_mul finite)
  have notOpposite : (point.y / point.z ^ 3 : F) ≠ -(point.y / point.z ^ 3) := by
    intro same
    apply mul_ne_zero two (div_ne_zero yFinite (pow_ne_zero 3 zFinite))
    rw [two_mul, ← eq_neg_iff_add_eq_zero]
    exact same
  have slope : (curve b).slope (point.x / point.z ^ 2 : F) (point.x / point.z ^ 2)
      (point.y / point.z ^ 3) (point.y / point.z ^ 3) =
        3 * point.x ^ 2 / (2 * point.y * point.z) := by
    rw [WeierstrassCurve.Affine.slope_of_Y_ne rfl (by rw [negY_curve]; exact notOpposite),
      negY_curve, curve_a₁, curve_a₂, curve_a₄, sub_neg_eq_add, ← two_mul]
    field_simp
    ring
  apply some_add_some (fun both => notOpposite both.2) slope
  · rw [double_x vanishes, z]
    field_simp
    ring
  · rw [double_y vanishes, double_x vanishes, z]
    field_simp
    ring

theorem addAffine_represents (vanishes : (modulus : F) = 0) {gx gy : ℤ}
    {onCurve : (curve b).Nonsingular (gx : F) (gy : F)} {point : Jacobian}
    {target : (curve b).Point} (known : Represents point target)
    (finite : ((point.addAffine modulus gx gy).z : F) ≠ 0) :
    Represents (point.addAffine modulus gx gy) (target + .some (gx : F) (gy : F) onCurve) := by
  obtain ⟨zFinite, _, rfl⟩ := known
  have x := addAffine_x vanishes gx gy point
  have y := addAffine_y vanishes gx gy point
  have z := addAffine_z vanishes gx gy point
  refine ⟨finite, ?_⟩
  rw [z] at finite
  generalize height : (gx * point.z ^ 2 - point.x : F) = h at x y z finite
  have apart : h ≠ 0 := left_ne_zero_of_mul finite
  have addend : (gx : F) = (h + point.x) / point.z ^ 2 := by
    rw [eq_div_iff (pow_ne_zero 2 zFinite), ← height]
    ring
  have difference : (point.x / point.z ^ 2 - gx : F) = -h / point.z ^ 2 := by
    rw [addend]
    ring
  have distinct : (point.x / point.z ^ 2 : F) ≠ gx := by
    rw [← sub_ne_zero, difference]
    exact div_ne_zero (neg_ne_zero.mpr apart) (pow_ne_zero 2 zFinite)
  have slope : (curve b).slope (point.x / point.z ^ 2 : F) gx (point.y / point.z ^ 3) gy =
      (gy * point.z ^ 3 - point.y) / (h * point.z) := by
    rw [WeierstrassCurve.Affine.slope_of_X_ne distinct, difference]
    field_simp
    ring
  apply some_add_some (fun both => distinct both.1) slope
  · rw [x, z, addend]
    field_simp
    ring
  · rw [y, x, z]
    field_simp

/-! ## Multiples -/

theorem multiple_represents (vanishes : (modulus : F) = 0) {x y : ℤ}
    (onCurve : (curve b).Nonsingular (x : F) (y : F)) {fuel n : Nat} (positive : 0 < n)
    (enough : n < 2 ^ (fuel + 1)) (finite : ((multiple modulus x y fuel n).z : F) ≠ 0) :
    Represents (multiple modulus x y fuel n) (n • .some (x : F) (y : F) onCurve) := by
  induction fuel generalizing n with
  | zero =>
      obtain rfl : n = 1 := by omega
      rw [one_nsmul]
      exact represents_affine onCurve
  | succ fuel ih =>
      unfold multiple at finite ⊢
      by_cases one : n ≤ 1
      · obtain rfl : n = 1 := by omega
        rw [if_pos one, one_nsmul]
        exact represents_affine onCurve
      · rw [if_neg one] at finite ⊢
        dsimp only at finite ⊢
        have half (doubledFinite :
            (((multiple modulus x y fuel (n / 2)).double modulus).z : F) ≠ 0) :
            Represents ((multiple modulus x y fuel (n / 2)).double modulus)
              ((n / 2 + n / 2) • .some (x : F) (y : F) onCurve) := by
          have halfFinite : ((multiple modulus x y fuel (n / 2)).z : F) ≠ 0 := by
            rw [double_z vanishes] at doubledFinite
            exact right_ne_zero_of_mul doubledFinite
          have known := ih (by omega) (by omega) halfFinite
          rw [add_nsmul]
          exact double_represents vanishes known doubledFinite
        by_cases odd : n % 2 = 1
        · rw [if_pos odd] at finite ⊢
          have doubledFinite := right_ne_zero_of_mul (addAffine_z vanishes x y _ ▸ finite)
          have sum : n / 2 + n / 2 + 1 = n := by omega
          have added := @addAffine_represents _ _ _ _ _ vanishes _ _ onCurve _ _
            (half doubledFinite) finite
          rw [← succ_nsmul, sum] at added
          exact added
        · rw [if_neg odd] at finite ⊢
          have sum : n / 2 + n / 2 = n := by omega
          have doubled := half finite
          rw [sum] at doubled
          exact doubled

end ShortCurve
