import HoprTypes.Lib.Binary64
import HoprTypes.Primitive.Primitives

/-!
# Floats

The approximate equality of floats, and the multiplication and division of amounts
by floats of the unit interval, which take their factor from the word of the float
plus one.
-/

set_option autoImplicit false

namespace HoprTypes.Primitive

/-! ## Approximate equality -/

/-- The comparison of the float crate, with an absolute margin and one in representable numbers. -/
structure FloatCmpCrate where
  approxEq : Binary64 → Binary64 → Binary64 × Nat → Bool

/-- Numbers that are not negative are approximately equal if they are equal or within one of the
two margins. -/
structure FloatCmpCrate.Lawful (crate : FloatCmpCrate) : Prop where
  approxEq_iff : ∀ {a b : Binary64} (epsilon : Binary64) (ulps : Nat), a.IsFinite → b.IsFinite →
    0 ≤ a.value → 0 ≤ b.value →
      (crate.approxEq a b (epsilon, ulps) = true ↔
        a.Equals b ∨ (a - b).abs ≤ epsilon ∨ Binary64.ulpsApart a b ≤ ulps)

def f64ApproxEq (crate : FloatCmpCrate) (a b epsilon : Binary64) : Bool :=
  crate.approxEq a b (epsilon, 2)

/-- The float crate's comparison, written out. -/
def floatCmp : FloatCmpCrate where
  approxEq a b margin :=
    decide (a.Equals b ∨ (a - b).abs ≤ margin.1 ∨ Binary64.ulpsApart a b ≤ margin.2)

theorem floatCmp_lawful : floatCmp.Lawful where
  approxEq_iff _ _ _ _ _ _ := decide_eq_true_iff

/-- Between numbers of the grid, two representable numbers are less than any margin that the
grid resolves, so that only the absolute margin counts. -/
theorem f64ApproxEq_iff {crate : FloatCmpCrate} (lawful : crate.Lawful) {a b epsilon : Binary64}
    {j k : ℕ} (left : a.OnGrid j) (right : b.OnGrid k) (leftMost : j ≤ 2 ^ 52)
    (rightMost : k ≤ 2 ^ 52) (finite : epsilon.IsFinite) (resolved : 1 / 2 ^ 52 ≤ epsilon.value) :
    f64ApproxEq crate a b epsilon = true ↔ |a.value - b.value| ≤ epsilon.value := by
  have leftMem := left.value_mem leftMost
  have rightMem := right.value_mem rightMost
  obtain ⟨exactFinite, exact⟩ := left.sub right (by omega) (by omega)
  have margin : (a - b).abs ≤ epsilon ↔ |a.value - b.value| ≤ epsilon.value := by
    rw [Binary64.le_iff (Binary64.not_isNaN (Binary64.isFinite_abs exactFinite))
      (Binary64.not_isNaN finite), Binary64.value_abs, exact]
  rw [f64ApproxEq, lawful.approxEq_iff epsilon 2 left.finite right.finite leftMem.1 rightMem.1,
    margin]
  constructor
  · intro equal
    rcases equal with same | close | near
    · rw [Binary64.equals_iff (Binary64.not_isNaN left.finite)
        (Binary64.not_isNaN right.finite)] at same
      rw [same, sub_self, abs_zero]
      exact le_trans (by positivity) resolved
    · exact close
    · apply (Binary64.abs_sub_le_of_ulpsApart leftMem rightMem near (by decide)).trans
      apply le_trans _ resolved
      norm_num
  · intro close
    exact Or.inr (Or.inl close)

/-! ## Scaled amounts -/

/-- The quotient of two amounts, which panics on a zero divisor. -/
def divOrPanic (x y : U256) : Outcome GeneralError U256 :=
  if y = 0 then Outcome.panicked "division by zero" else .ok (x / y)

namespace U256

/-- The masked word of a float as an amount. -/
def mantissa (x : Binary64) : U256 := (x.toBits &&& 0x000fffffffffffff#64).setWidth 256

def mulF64 (amount : U256) (rhs : Binary64) : Outcome GeneralError U256 :=
  if ¬ (Binary64.zero ≤ rhs ∧ rhs ≤ Binary64.one) then Outcome.fail .invalidInput
  -- the mantissa extraction does not work at one
  else if rhs.Equals Binary64.one then .ok amount
  else if rhs.Equals Binary64.zero then .ok 0
  else do
    let product ← mul amount (mantissa (rhs + Binary64.one + Binary64.machineEpsilon))
    .ok (product >>> 52)

def divF64 (amount : U256) (rhs : Binary64) : Outcome GeneralError U256 :=
  if rhs ≤ Binary64.zero ∨ rhs > Binary64.one then Outcome.fail .invalidInput
  else if rhs.Equals Binary64.one then .ok amount
  else
    let nom := amount <<< 52
    let denom := mantissa (rhs + Binary64.one)
    divOrPanic nom denom

end U256

namespace Balance

variable {currency : Currency}

def mulF64 (balance : Balance currency) (rhs : Binary64) :
    Outcome GeneralError (Balance currency) :=
  (U256.mulF64 balance.amount rhs).map Balance.mk

def divF64 (balance : Balance currency) (rhs : Binary64) :
    Outcome GeneralError (Balance currency) :=
  (U256.divF64 balance.amount rhs).map Balance.mk

theorem map_mk_eq_ok {computed : Outcome GeneralError U256} {result : Balance currency} :
    computed.map Balance.mk = .ok result ↔ computed = .ok result.amount := by
  cases computed with
  | error failure => simp [Except.map]
  | ok amount =>
      cases result
      simp [Except.map]

end Balance

namespace U256

/-! ## The extracted factors -/

theorem toNat_mantissa (x : Binary64) : (mantissa x).toNat = x.fraction := by
  have fits : x.fraction < 2 ^ 52 := Nat.mod_lt _ (Nat.two_pow_pos 52)
  rw [mantissa, BitVec.toNat_setWidth, Binary64.toNat_and_mask]
  exact Nat.mod_eq_of_lt (by omega)

theorem fraction_of_toBits {x : Binary64} {quotient : Nat}
    (word : x.toBits.toNat = 1023 * 2 ^ 52 + quotient) : x.fraction = quotient % 2 ^ 52 := by
  rw [Binary64.fraction, word]
  omega

theorem mantissa_mul {p : Binary64} {k : Nat} (grid : p.OnGrid k) (below : k < 2 ^ 52) :
    (mantissa (p + Binary64.one + Binary64.machineEpsilon)).toNat = (k + 1) % 2 ^ 52 := by
  have plusOne := grid.add Binary64.onGrid_one (by omega)
  have carried : k + 2 ^ 52 + 1 = 2 ^ 52 + (k + 1) := by omega
  have word := plusOne.toBits_add Binary64.onGrid_machineEpsilon carried below
  rw [toNat_mantissa, fraction_of_toBits word]

theorem mulF64_zero {amount : U256} {p : Binary64} (grid : p.OnGrid 0) :
    mulF64 amount p = .ok 0 := by
  have inside := grid.mem_unit (Nat.zero_le _)
  have notOne : ¬ p.Equals Binary64.one := by
    rw [grid.equals_iff Binary64.onGrid_one]
    decide
  rw [mulF64, if_neg (not_not.2 inside), if_neg notOne,
    if_pos ((grid.equals_iff Binary64.onGrid_zero).2 rfl)]

theorem mulF64_one {amount : U256} {p : Binary64} (grid : p.OnGrid (2 ^ 52)) :
    mulF64 amount p = .ok amount := by
  have inside := grid.mem_unit (Nat.le_refl _)
  rw [mulF64, if_neg (not_not.2 inside), if_pos ((grid.equals_iff Binary64.onGrid_one).2 rfl)]

theorem mulF64_eq {amount : U256} {p : Binary64} {k : Nat} (grid : p.OnGrid k) (positive : 0 < k)
    (below : k < 2 ^ 52) :
    mulF64 amount p =
      if amount.toNat * ((k + 1) % 2 ^ 52) < 2 ^ 256 then
        .ok (BitVec.ofNat 256 (amount.toNat * ((k + 1) % 2 ^ 52) / 2 ^ 52))
      else Outcome.panicked "arithmetic operation overflow" := by
  have inside := grid.mem_unit below.le
  have notOne : ¬ p.Equals Binary64.one := by
    rw [grid.equals_iff Binary64.onGrid_one]
    exact below.ne
  have notZero : ¬ p.Equals Binary64.zero := by
    rw [grid.equals_iff Binary64.onGrid_zero]
    exact positive.ne'
  rw [mulF64, if_neg (not_not.2 inside), if_neg notOne, if_neg notZero, U256.mul,
    mantissa_mul grid below]
  by_cases fits : amount.toNat * ((k + 1) % 2 ^ 52) < 2 ^ 256
  · rw [if_pos fits, if_pos fits, ok_bind]
    have small := Nat.lt_of_le_of_lt (Nat.div_le_self _ (2 ^ 52)) fits
    congr 1
    apply BitVec.eq_of_toNat_eq
    rw [BitVec.toNat_ushiftRight, BitVec.toNat_mul, mantissa_mul grid below, Nat.mod_eq_of_lt fits,
      Nat.shiftRight_eq_div_pow, BitVec.toNat_ofNat, Nat.mod_eq_of_lt small]
  · rw [if_neg fits, if_neg fits]
    rfl

/-! ## Quotients -/

theorem abs_sub_div_le_iff {result n error d : ℕ} (positive : 0 < d) :
    |(result : ℚ) - n / d| ≤ error / d ↔ result * d ≤ n + error ∧ n ≤ result * d + error := by
  have positive : (0 : ℚ) < d := Nat.cast_pos.2 positive
  have scaled : (result : ℚ) - n / d = (result * d - n) / d := by
    rw [sub_div, mul_div_cancel_right₀ _ positive.ne']
  rw [scaled, abs_div, abs_of_pos positive, div_le_div_iff_of_pos_right positive, abs_le,
    neg_le_sub_iff_le_add, sub_le_iff_le_add']
  exact_mod_cast And.comm

/-! ## Multiplication -/

/-- A faithful multiplication with a probability of the grid: the product does not exceed the
amount, is exact up to rounding, and is at least the product with any smaller probability. -/
def Scales (amount : U256) (p : Binary64) : Prop :=
  ∃ result, mulF64 amount p = .ok result ∧ result ≤ amount ∧
    |(result.toNat : ℚ) - amount.toNat * p.value| ≤ (amount.toNat : ℚ) / 2 ^ 51 + 1 ∧
    ∀ smaller k, smaller.OnGrid k → k ≤ 2 ^ 52 → smaller ≤ p →
      ∀ lesser, mulF64 amount smaller = .ok lesser → lesser ≤ result

theorem product_close_iff {amount k result : ℕ} :
    |(result : ℚ) - amount * (k / 2 ^ 52)| ≤ (amount : ℚ) / 2 ^ 51 + 1 ↔
      result * 2 ^ 52 ≤ amount * k + (2 * amount + 2 ^ 52) ∧
        amount * k ≤ result * 2 ^ 52 + (2 * amount + 2 ^ 52) := by
  have product : (amount : ℚ) * (k / 2 ^ 52) = (amount * k : ℕ) / (2 ^ 52 : ℕ) := by
    push_cast
    ring
  have error : (amount : ℚ) / 2 ^ 51 + 1 = (2 * amount + 2 ^ 52 : ℕ) / (2 ^ 52 : ℕ) := by
    push_cast
    ring
  rw [product, error, abs_sub_div_le_iff (Nat.two_pow_pos 52)]

theorem le_of_mulF64_eq_ok {amount lesser : U256} {p : Binary64} {k : ℕ} (grid : p.OnGrid k)
    (below : k < 2 ^ 52) (scaled : mulF64 amount p = .ok lesser) :
    lesser.toNat ≤ amount.toNat * ((k + 1) % 2 ^ 52) / 2 ^ 52 := by
  rcases Nat.eq_zero_or_pos k with rfl | positive
  · rw [mulF64_zero grid, Except.ok.injEq] at scaled
    rw [← scaled]
    exact Nat.zero_le _
  · rw [mulF64_eq grid positive below] at scaled
    by_cases fits : amount.toNat * ((k + 1) % 2 ^ 52) < 2 ^ 256
    · rw [if_pos fits, Except.ok.injEq] at scaled
      rw [← scaled]
      exact Nat.mod_le _ _
    · rw [if_neg fits] at scaled
      cases scaled

theorem scales_zero {amount : U256} {p : Binary64} (grid : p.OnGrid 0) : Scales amount p := by
  refine ⟨0, mulF64_zero grid, Nat.zero_le _, ?_, ?_⟩
  · rw [grid.value]
    apply product_close_iff.2
    simp
  · intro smaller k smallerGrid _ le lesser scaled
    obtain rfl : k = 0 := Nat.le_zero.1 ((smallerGrid.le_iff grid).1 le)
    rw [mulF64_zero smallerGrid, Except.ok.injEq] at scaled
    rw [scaled]
    exact BitVec.le_refl _

theorem scales_one {amount : U256} {p : Binary64} (grid : p.OnGrid (2 ^ 52)) :
    Scales amount p := by
  refine ⟨amount, mulF64_one grid, BitVec.le_refl _, ?_, ?_⟩
  · rw [grid.value, product_close_iff]
    omega
  · intro smaller k smallerGrid most _ lesser scaled
    rcases Nat.lt_or_eq_of_le most with below | rfl
    · have factor := Nat.mod_lt (k + 1) (Nat.two_pow_pos 52)
      apply (le_of_mulF64_eq_ok smallerGrid below scaled).trans
      apply Nat.div_le_of_le_mul
      rw [Nat.mul_comm]
      exact Nat.mul_le_mul_right _ factor.le
    · rw [mulF64_one smallerGrid, Except.ok.injEq] at scaled
      rw [scaled]
      exact BitVec.le_refl _

theorem scales_of_lt {amount : U256} {p : Binary64} {k : ℕ} (grid : p.OnGrid k)
    (positive : 0 < k) (below : k < 2 ^ 52 - 1) (fits : amount.toNat * (k + 1) < 2 ^ 256) :
    Scales amount p := by
  have factor : (k + 1) % 2 ^ 52 = k + 1 := Nat.mod_eq_of_lt (by omega)
  have small := Nat.lt_of_le_of_lt (Nat.div_le_self _ (2 ^ 52)) fits
  refine ⟨BitVec.ofNat 256 (amount.toNat * (k + 1) / 2 ^ 52), ?_, ?_, ?_, ?_⟩
  · rw [mulF64_eq grid positive (by omega), factor, if_pos fits]
  · rw [BitVec.le_def, BitVec.toNat_ofNat, Nat.mod_eq_of_lt small]
    apply Nat.div_le_of_le_mul
    rw [Nat.mul_comm]
    exact Nat.mul_le_mul_right _ (by omega)
  · rw [BitVec.toNat_ofNat, Nat.mod_eq_of_lt small, grid.value, product_close_iff]
    have parts := Nat.div_add_mod (amount.toNat * (k + 1)) (2 ^ 52)
    have rest := Nat.mod_lt (amount.toNat * (k + 1)) (Nat.two_pow_pos 52)
    rw [Nat.mul_succ] at parts rest ⊢
    omega
  · intro smaller j smallerGrid _ le lesser scaled
    rw [smallerGrid.le_iff grid] at le
    have bound := le_of_mulF64_eq_ok smallerGrid (by omega) scaled
    rw [Nat.mod_eq_of_lt (show j + 1 < 2 ^ 52 by omega)] at bound
    rw [BitVec.le_def, BitVec.toNat_ofNat, Nat.mod_eq_of_lt small]
    exact bound.trans (Nat.div_le_div_right (Nat.mul_le_mul_left _ (by omega)))

theorem scales_last_iff {amount : U256} {p : Binary64} (grid : p.OnGrid (2 ^ 52 - 1)) :
    Scales amount p ↔ amount.toNat ≤ 1 := by
  have lost : mulF64 amount p = .ok 0 := by
    have carry : (2 ^ 52 - 1 + 1) % 2 ^ 52 = 0 := by decide
    rw [mulF64_eq grid (by decide) (by decide), carry, Nat.mul_zero, Nat.zero_div,
      if_pos (Nat.two_pow_pos 256)]
    rfl
  have nothing : (0 : U256).toNat = 0 := rfl
  constructor
  · intro scales
    obtain ⟨result, scaled, _, close, _⟩ := scales
    rw [lost, Except.ok.injEq] at scaled
    rw [← scaled, grid.value, product_close_iff, nothing] at close
    omega
  · intro few
    refine ⟨0, lost, Nat.zero_le _, ?_, ?_⟩
    · rw [grid.value]
      apply product_close_iff.2
      rw [nothing]
      omega
    · intro smaller k smallerGrid _ le lesser scaled
      have below := (smallerGrid.le_iff grid).1 le
      have factor := Nat.mod_lt (k + 1) (Nat.two_pow_pos 52)
      have bound := le_of_mulF64_eq_ok smallerGrid (by omega) scaled
      have less : amount.toNat * ((k + 1) % 2 ^ 52) / 2 ^ 52 = 0 := by
        apply Nat.div_eq_of_lt
        nlinarith
      rw [BitVec.le_def]
      omega

/-- The multiplication is faithful at zero and at one.  In between it needs a product with the
next higher factor that fits 256 bits, and for the last probability below one, whose factor is
lost in the carry, an amount of at most one. -/
theorem mulF64_scales_iff {amount : U256} {p : Binary64} {k : ℕ} (grid : p.OnGrid k)
    (le : k ≤ 2 ^ 52) :
    Scales amount p ↔
      k = 0 ∨ k = 2 ^ 52 ∨ (k = 2 ^ 52 - 1 ∧ amount.toNat ≤ 1) ∨
        (k < 2 ^ 52 - 1 ∧ amount.toNat * (k + 1) < 2 ^ 256) := by
  constructor
  · intro scales
    by_cases last : k = 2 ^ 52 - 1
    · subst last
      exact Or.inr (Or.inr (Or.inl ⟨rfl, (scales_last_iff grid).1 scales⟩))
    · obtain ⟨result, scaled, _⟩ := scales
      rcases Nat.eq_zero_or_pos k with zero | positive
      · exact Or.inl zero
      rcases Nat.lt_or_eq_of_le le with below | one
      · rw [mulF64_eq grid positive below, Nat.mod_eq_of_lt (by omega)] at scaled
        by_cases fits : amount.toNat * (k + 1) < 2 ^ 256
        · exact Or.inr (Or.inr (Or.inr ⟨by omega, fits⟩))
        · rw [if_neg fits] at scaled
          cases scaled
      · exact Or.inr (Or.inl one)
  · intro condition
    rcases condition with rfl | rfl | last | inner
    · exact scales_zero grid
    · exact scales_one grid
    · obtain ⟨rfl, few⟩ := last
      exact (scales_last_iff grid).2 few
    · rcases Nat.eq_zero_or_pos k with rfl | positive
      · exact scales_zero grid
      · exact scales_of_lt grid positive inner.1 inner.2

def half : Binary64 := Binary64.fromBits 0x3fe0000000000000

/-- The number `1 - 2^-52`. -/
def belowOne : Binary64 := Binary64.fromBits 0x3feffffffffffffe

theorem onGrid_half : half.OnGrid (2 ^ 51) := Binary64.onGrid_iff.2 ⟨by decide, by decide +kernel⟩

theorem onGrid_belowOne : belowOne.OnGrid (2 ^ 52 - 1) :=
  Binary64.onGrid_iff.2 ⟨by decide, by decide +kernel⟩

theorem half_of_ten_scales : Scales 10 half :=
  (mulF64_scales_iff onGrid_half (by decide)).2
    (Or.inr (Or.inr (Or.inr ⟨by decide, by decide⟩)))

/-- Half of `2^255` panics, and almost all of 1000 is nothing. -/
theorem mulF64_overflows_and_vanishes :
    ¬ Scales (BitVec.ofNat 256 (2 ^ 255)) half ∧ ¬ Scales 1000 belowOne := by
  constructor
  · intro scales
    obtain ⟨result, scaled, _⟩ := scales
    rw [mulF64_eq onGrid_half (by decide) (by decide), if_neg (by decide)] at scaled
    cases scaled
  · intro scales
    have few := (scales_last_iff onGrid_belowOne).1 scales
    revert few
    decide

/-! ## Division -/

/-- The exact quotient of an amount by a divisor, at most the greatest amount. -/
def Saturates (exact : ℚ) (result : U256) : Prop :=
  if exact ≤ 2 ^ 256 - 1 then |(result.toNat : ℚ) - exact| ≤ 1 else result.toNat = 2 ^ 256 - 1

/-- A faithful division: it refuses a divisor outside `(0, 1]`, and what it returns for one
inside is at least the amount and, up to one, the quotient by the divisor rounded to 52
fraction bits. -/
def Divides (amount : U256) (p : Binary64) : Prop :=
  if p.IsFinite ∧ 0 < p.value ∧ p.value ≤ 1 then
    (divF64 amount p).IsErr ∨ ∃ result, divF64 amount p = .ok result ∧ amount ≤ result ∧
      Saturates (amount.toNat / (roundHalfEven (p.value * 2 ^ 52) / 2 ^ 52)) result
  else (divF64 amount p).IsErr

theorem divOrPanic_not_isErr (x y : U256) : ¬ (divOrPanic x y).IsErr := by
  intro failed
  obtain ⟨cause, failed⟩ := failed
  rw [divOrPanic] at failed
  split at failed
  · cases failed
  · cases failed

theorem divF64_nan {amount : U256} {p : Binary64} (nan : p.IsNaN) : ¬ (divF64 amount p).IsErr := by
  have unordered : ¬ (p ≤ Binary64.zero ∨ p > Binary64.one) := by
    intro ordered
    rcases ordered with le | gt
    · exact le.1 nan
    · exact gt.2.1 nan
  have notOne : ¬ p.Equals Binary64.one := fun same => same.1 nan
  rw [divF64, if_neg unordered, if_neg notOne]
  exact divOrPanic_not_isErr _ _

theorem refused_iff {p : Binary64} (number : ¬ p.IsNaN) :
    (p ≤ Binary64.zero ∨ p > Binary64.one) ↔ ¬ (0 < p.value ∧ p.value ≤ 1) := by
  rw [gt_iff_lt, Binary64.le_iff number (by decide), Binary64.lt_iff (by decide) number,
    Binary64.value_zero, Binary64.value_one, not_and_or, not_lt, not_le]

theorem divF64_outside {amount : U256} {p : Binary64} (number : ¬ p.IsNaN)
    (outside : ¬ (0 < p.value ∧ p.value ≤ 1)) : (divF64 amount p).IsErr := by
  rw [divF64, if_pos ((refused_iff number).2 outside)]
  exact ⟨.invalidInput, rfl⟩

theorem divF64_one {amount : U256} {p : Binary64} (finite : p.IsFinite) (one : p.value = 1) :
    Divides amount p := by
  have number := Binary64.not_isNaN finite
  have inside : ¬ (p ≤ Binary64.zero ∨ p > Binary64.one) := by
    rw [refused_iff number, one]
    norm_num
  have same : p.Equals Binary64.one := by
    rw [Binary64.equals_iff number (by decide), one, Binary64.value_one]
  have divisor : (roundHalfEven (p.value * 2 ^ 52) : ℚ) = 2 ^ 52 := by
    have rounded := roundHalfEven_natCast (2 ^ 52)
    rw [Nat.cast_pow, Nat.cast_ofNat] at rounded
    rw [one, one_mul, rounded]
    norm_num
  have most : (amount.toNat : ℚ) ≤ 2 ^ 256 - 1 := by
    have bound : (amount.toNat + 1 : ℚ) ≤ 2 ^ 256 := by exact_mod_cast amount.isLt
    linarith
  rw [Divides, if_pos ⟨finite, by rw [one]; norm_num⟩]
  refine Or.inr ⟨amount, ?_, BitVec.le_refl _, ?_⟩
  · rw [divF64, if_neg inside, if_pos same]
  · rw [divisor, div_self (by positivity), div_one, Saturates, if_pos most, sub_self, abs_zero]
    exact zero_le_one

/-- The divisor of a division in between is the rounded fraction, or zero where it rounds to
one. -/
theorem divF64_inner {amount : U256} {p : Binary64} (finite : p.IsFinite) {n : ℕ}
    (units : p.units = n) (positive : 0 < p.value) (below : p.value < 1) :
    n ≤ 2 ^ 52 * 2 ^ 1022 ∧
      divF64 amount p =
        divOrPanic (amount <<< 52) (BitVec.ofNat 256 (roundShift n 1022 % 2 ^ 52)) := by
  have number := Binary64.not_isNaN finite
  have inside : ¬ (p ≤ Binary64.zero ∨ p > Binary64.one) := by
    rw [refused_iff number, not_not]
    exact ⟨positive, below.le⟩
  have notOne : ¬ p.Equals Binary64.one := by
    rw [Binary64.equals_iff number (by decide), Binary64.value_one]
    exact below.ne
  have le : n ≤ 2 ^ 52 * 2 ^ 1022 := by
    have small := below.le
    rw [← Binary64.value_one, Binary64.value_le_value_iff, units, Binary64.units_one] at small
    exact Int.ofNat_le.1 small
  have sum : p.units + Binary64.one.units = (2 ^ 52 * 2 ^ 1022 + n : ℕ) := by
    rw [units, Binary64.units_one, ← Nat.cast_add, Nat.add_comm]
  have word := Binary64.toBits_add finite (by decide) sum le
  have small := Nat.mod_lt (roundShift n 1022) (Nat.two_pow_pos 52)
  have divisor : mantissa (p + Binary64.one) = BitVec.ofNat 256 (roundShift n 1022 % 2 ^ 52) := by
    apply BitVec.eq_of_toNat_eq
    rw [toNat_mantissa, fraction_of_toBits word, BitVec.toNat_ofNat]
    exact (Nat.mod_eq_of_lt (by omega)).symm
  refine ⟨le, ?_⟩
  rw [divF64, if_neg inside, if_neg notOne, divisor]

/-- A float in between has a divisor unless it is within half a unit of an end. -/
theorem divisor_iff {p : Binary64} {n : ℕ} (units : p.units = n) :
    (0 < roundShift n 1022 ∧ roundShift n 1022 < 2 ^ 52) ↔
      1 / 2 ^ 53 < p.value ∧ p.value < 1 - 1 / 2 ^ 53 := by
  have between : (0 < roundShift n 1022 ∧ roundShift n 1022 < 2 ^ 52) ↔ _ :=
    roundShift_between_iff (by decide) (Nat.two_pow_pos 52) n 1021
  have lower := @Binary64.value_le_div_iff p 1 53 1021 (by decide)
  have upper := @Binary64.div_le_value_iff p (2 ^ 53 - 1) 53 1021 (by decide)
  have top : ((2 ^ 53 - 1 : ℤ) : ℚ) / 2 ^ 53 = 1 - 1 / 2 ^ 53 := by norm_num
  have unit : ((2 ^ 1021 : ℕ) : ℤ) = 2 ^ 1021 := Nat.cast_pow 2 1021
  rw [Int.cast_one, units, one_mul, ← unit, ← not_iff_not, not_le, not_le] at lower
  rw [top, units, ← unit, ← not_iff_not, not_le, not_le] at upper
  rw [between, lower, upper]
  generalize 2 ^ 1021 = half
  omega

theorem saturates_iff {amount d : ℕ} {result : U256} (positive : 0 < d) :
    Saturates (amount / (d / 2 ^ 52)) result ↔
      if amount * 2 ^ 52 + d ≤ 2 ^ 256 * d then
        result.toNat * d ≤ amount * 2 ^ 52 + d ∧ amount * 2 ^ 52 ≤ result.toNat * d + d
      else result.toNat = 2 ^ 256 - 1 := by
  have divisor : (0 : ℚ) < d := Nat.cast_pos.2 positive
  have exact : (amount : ℚ) / (d / 2 ^ 52) = (amount * 2 ^ 52 : ℕ) / d := by
    rw [div_div_eq_mul_div]
    push_cast
    rfl
  have bounded : ((amount * 2 ^ 52 : ℕ) : ℚ) / d ≤ 2 ^ 256 - 1 ↔
      amount * 2 ^ 52 + d ≤ 2 ^ 256 * d := by
    rw [div_le_iff₀ divisor, sub_mul, one_mul, le_sub_iff_add_le]
    exact_mod_cast Iff.rfl
  have close := @abs_sub_div_le_iff result.toNat (amount * 2 ^ 52) d d positive
  rw [div_self divisor.ne'] at close
  simp only [Saturates, exact, bounded, close]

theorem saturates_of_lt {amount d : ℕ} (small : amount < 2 ^ 204) (positive : 0 < d)
    (below : d < 2 ^ 52) :
    amount ≤ amount * 2 ^ 52 / d ∧ amount * 2 ^ 52 / d < 2 ^ 256 ∧
      Saturates (amount / (d / 2 ^ 52)) (BitVec.ofNat 256 (amount * 2 ^ 52 / d)) := by
  have least : amount ≤ amount * 2 ^ 52 / d := by
    rw [Nat.le_div_iff_mul_le positive]
    exact Nat.mul_le_mul_left amount below.le
  have most : amount * 2 ^ 52 / d < 2 ^ 256 := by
    apply Nat.lt_of_le_of_lt (Nat.div_le_self _ d)
    omega
  refine ⟨least, most, ?_⟩
  have parts := Nat.div_add_mod (amount * 2 ^ 52) d
  have rest := Nat.mod_lt (amount * 2 ^ 52) positive
  rw [Nat.mul_comm d] at parts
  rw [saturates_iff positive, if_pos (by omega), BitVec.toNat_ofNat, Nat.mod_eq_of_lt most]
  omega

/-- The quotient of an amount from `2^204` on misses the high bits of the shifted amount. -/
theorem not_saturates_of_le {amount d : ℕ} (large : 2 ^ 204 ≤ amount) (positive : 0 < d)
    (below : d < 2 ^ 52) :
    ¬ Saturates (amount / (d / 2 ^ 52)) (BitVec.ofNat 256 (amount * 2 ^ 52 % 2 ^ 256 / d)) := by
  have kept : amount * 2 ^ 52 % 2 ^ 256 = amount % 2 ^ 204 * 2 ^ 52 := by omega
  have parts := Nat.div_mul_le_self (amount % 2 ^ 204 * 2 ^ 52) d
  have whole := Nat.div_le_self (amount % 2 ^ 204 * 2 ^ 52) d
  have result : (BitVec.ofNat 256 (amount * 2 ^ 52 % 2 ^ 256 / d)).toNat =
      amount % 2 ^ 204 * 2 ^ 52 / d := by
    rw [kept, BitVec.toNat_ofNat]
    exact Nat.mod_eq_of_lt (by omega)
  rw [saturates_iff positive, result]
  split <;> omega

theorem shifted_quotient (amount : U256) {d : ℕ} (positive : 0 < d) (below : d < 2 ^ 52) :
    BitVec.ofNat 256 (d % 2 ^ 52) ≠ 0 ∧
      amount <<< 52 / BitVec.ofNat 256 (d % 2 ^ 52) =
        BitVec.ofNat 256 (amount.toNat * 2 ^ 52 % 2 ^ 256 / d) := by
  have word : (BitVec.ofNat 256 (d % 2 ^ 52)).toNat = d := by
    rw [Nat.mod_eq_of_lt below, BitVec.toNat_ofNat]
    exact Nat.mod_eq_of_lt (by omega)
  constructor
  · intro zero
    rw [zero] at word
    exact positive.ne word
  · apply BitVec.eq_of_toNat_eq
    have whole := Nat.div_le_self (amount.toNat * 2 ^ 52 % 2 ^ 256) d
    have small := Nat.mod_lt (amount.toNat * 2 ^ 52) (Nat.two_pow_pos 256)
    rw [BitVec.toNat_udiv, word, BitVec.toNat_shiftLeft, Nat.shiftLeft_eq, BitVec.toNat_ofNat]
    exact (Nat.mod_eq_of_lt (by omega)).symm

/-- In between, the division is faithful exactly if the rounded fraction has a divisor and no
bit of the shifted amount is lost. -/
theorem divides_inner_iff {amount : U256} {p : Binary64} (finite : p.IsFinite)
    (positive : 0 < p.value) (below : p.value < 1) :
    Divides amount p ↔
      (1 / 2 ^ 53 < p.value ∧ p.value < 1 - 1 / 2 ^ 53) ∧ amount.toNat < 2 ^ 204 := by
  obtain ⟨n, units⟩ : ∃ n : ℕ, p.units = n := by
    apply Int.eq_ofNat_of_zero_le
    have nonnegative := positive.le
    have none : Binary64.zero.units = 0 := by decide
    rwa [← Binary64.value_zero, Binary64.value_le_value_iff, none] at nonnegative
  obtain ⟨le, divided⟩ := @divF64_inner amount p finite n units positive below
  have rounded : roundHalfEven (p.value * 2 ^ 52) = roundShift n 1022 := by
    rw [roundShift_eq_roundHalfEven, @Binary64.value_eq p 52 1022 (by decide), units,
      div_mul_cancel₀ _ (by positivity), Int.cast_natCast]
  have most := roundShift_le le
  rw [← divisor_iff units, Divides, if_pos ⟨finite, positive, below.le⟩, divided, rounded,
    Int.cast_natCast]
  generalize roundShift n 1022 = d at *
  by_cases divisor : 0 < d ∧ d < 2 ^ 52
  · obtain ⟨nonzero, quotient⟩ := shifted_quotient amount divisor.1 divisor.2
    rw [divOrPanic, if_neg nonzero, quotient]
    constructor
    · intro divides
      refine ⟨divisor, ?_⟩
      by_contra large
      rcases divides with failed | returned
      · obtain ⟨_, failed⟩ := failed
        cases failed
      · obtain ⟨result, same, _, saturates⟩ := returned
        rw [← Except.ok.inj same] at saturates
        exact not_saturates_of_le (Nat.not_lt.1 large) divisor.1 divisor.2 saturates
    · intro condition
      obtain ⟨least, most, saturates⟩ := saturates_of_lt condition.2 divisor.1 divisor.2
      rw [Nat.mod_eq_of_lt (show amount.toNat * 2 ^ 52 < 2 ^ 256 by omega)]
      refine Or.inr ⟨_, rfl, ?_, saturates⟩
      rw [BitVec.le_def, BitVec.toNat_ofNat, Nat.mod_eq_of_lt most]
      exact least
  · have wrapped : BitVec.ofNat 256 (d % 2 ^ 52) = 0 := by
      have zero : d % 2 ^ 52 = 0 := by omega
      rw [zero]
      rfl
    rw [divOrPanic, if_pos wrapped]
    refine iff_of_false ?_ fun condition => divisor condition.1
    intro divides
    rcases divides with failed | returned
    · obtain ⟨_, failed⟩ := failed
      cases failed
    · obtain ⟨_, returned, _⟩ := returned
      cases returned

/-- The division is faithful exactly if the divisor is a number and, in between zero and one, more
than half a unit away from both ends with an amount below `2^204`. -/
theorem divF64_divides_iff (amount : U256) (p : Binary64) :
    Divides amount p ↔
      ¬ p.IsNaN ∧ (0 < p.value → p.value < 1 →
        1 / 2 ^ 53 < p.value ∧ p.value < 1 - 1 / 2 ^ 53 ∧ amount.toNat < 2 ^ 204) := by
  by_cases nan : p.IsNaN
  · have infinite : ¬ p.IsFinite := fun finite => finite nan.1
    rw [Divides, if_neg (fun inside => infinite inside.1)]
    exact iff_of_false (divF64_nan nan) fun condition => condition.1 nan
  by_cases inside : 0 < p.value ∧ p.value ≤ 1
  · have finite := Binary64.isFinite_of_value nan inside.1 inside.2
    rcases inside.2.lt_or_eq with below | one
    · rw [divides_inner_iff finite inside.1 below, and_assoc]
      exact ⟨fun condition => ⟨nan, fun _ _ => condition⟩,
        fun condition => condition.2 inside.1 below⟩
    · refine iff_of_true (divF64_one finite one) ⟨nan, fun _ below => ?_⟩
      exact absurd one below.ne
  · rw [Divides, if_neg (fun within => inside within.2)]
    refine iff_of_true (divF64_outside nan inside) ⟨nan, fun positive below => ?_⟩
    exact absurd ⟨positive, below.le⟩ inside

/-- The number `2^-53`. -/
def tiny : Binary64 := Binary64.fromBits 0x3ca0000000000000

theorem value_tiny : tiny.value = 1 / 2 ^ 53 := by
  have parts := @Binary64.value_eq_div_iff tiny 1 53 1021 (by decide)
  rw [Int.cast_one] at parts
  exact parts.2 (by decide +kernel)

/-- The division by `2^-53` panics, a divisor that is not a number is accepted, and twice
`2^204` is nothing. -/
theorem divF64_panics_and_accepts_nan :
    ¬ Divides 1 tiny ∧ ¬ Divides 1 Binary64.nan ∧ ¬ Divides (BitVec.ofNat 256 (2 ^ 204)) half := by
  refine ⟨?_, ?_, ?_⟩
  · intro divides
    rw [divides_inner_iff (by decide) (by rw [value_tiny]; norm_num)
      (by rw [value_tiny]; norm_num), value_tiny] at divides
    exact lt_irrefl _ divides.1.1
  · intro divides
    have infinite : ¬ Binary64.nan.IsFinite := by decide
    rw [Divides, if_neg (fun inside => infinite inside.1)] at divides
    exact divF64_nan (by decide) divides
  · intro divides
    rw [divides_inner_iff onGrid_half.finite (by rw [onGrid_half.value]; norm_num)
      (by rw [onGrid_half.value]; norm_num)] at divides
    have small := divides.2
    revert small
    decide

end U256

end HoprTypes.Primitive
