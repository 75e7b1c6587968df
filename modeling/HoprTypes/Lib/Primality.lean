import Mathlib

/-!
# Large primes and their residues

Lucas's criterion for a number whose predecessor is given as a product of primes, with
powers that the kernel can compute; and the square roots modulo an odd prime, which
differ in parity.
-/

set_option autoImplicit false

namespace Primality

/-- The power by repeated squaring, for exponents of at most `bits` bits. -/
def powMod (modulus : Nat) : Nat → Nat → Nat → Nat
  | 0, _, _ => 1 % modulus
  | bits + 1, base, exponent =>
      let squares := powMod modulus bits (base * base % modulus) (exponent / 2)
      if exponent % 2 = 0 then squares else base * squares % modulus

theorem powMod_eq (modulus bits base exponent : Nat) (small : exponent < 2 ^ bits) :
    powMod modulus bits base exponent = base ^ exponent % modulus := by
  induction bits generalizing base exponent with
  | zero =>
      have zero : exponent = 0 := by omega
      rw [zero, powMod, pow_zero]
  | succ bits ih =>
      have half : exponent / 2 < 2 ^ bits := by
        rw [pow_succ] at small
        omega
      have squares : (base * base % modulus) ^ (exponent / 2) % modulus =
          base ^ (2 * (exponent / 2)) % modulus := by
        rw [← Nat.pow_mod, pow_mul, pow_two]
      rw [powMod, ih _ _ half, squares]
      by_cases even : exponent % 2 = 0
      · have whole : 2 * (exponent / 2) = exponent := by omega
        rw [if_pos even, whole]
      · have whole : 2 * (exponent / 2) + 1 = exponent := by omega
        rw [if_neg even, Nat.mul_mod_mod, mul_comm, ← pow_succ, whole]

theorem zmod_pow_eq_one {p bits base exponent : Nat} (large : 1 < p) (small : exponent < 2 ^ bits) :
    (base : ZMod p) ^ exponent = 1 ↔ powMod p bits base exponent = 1 := by
  rw [powMod_eq p bits base exponent small, ← Nat.cast_pow, ← Nat.cast_one,
    ZMod.natCast_eq_natCast_iff', Nat.mod_eq_of_lt large]

/-- Lucas's criterion: `base` has the order `p - 1` in the residues modulo `p`. -/
theorem prime_of_order {p : Nat} (bits base : Nat) (factors : List Nat)
    (primes : ∀ q ∈ factors, q.Prime) (product : factors.prod = p - 1)
    (range : 1 < p ∧ p < 2 ^ bits) (full : powMod p bits base (p - 1) = 1)
    (proper : ∀ q ∈ factors, powMod p bits base ((p - 1) / q) ≠ 1) : p.Prime := by
  apply lucas_primality p (base : ZMod p)
  · exact (zmod_pow_eq_one range.1 (by omega)).mpr full
  · intro q prime divides
    have member : q ∈ factors := by
      rw [← product] at divides
      obtain ⟨factor, listed, divides⟩ := (Nat.Prime.prime prime).dvd_prod_iff.mp divides
      have same : q = factor := (Nat.prime_dvd_prime_iff_eq prime (primes factor listed)).mp divides
      rw [same]
      exact listed
    have bound : (p - 1) / q < 2 ^ bits := by
      have le := Nat.div_le_self (p - 1) q
      omega
    intro one
    exact proper q member ((zmod_pow_eq_one range.1 bound).mp one)

/-! ## Certificates -/

/-- Trial division, for numbers below `32 * 32`. -/
def isSmallPrime (q : Nat) : Bool :=
  decide (2 ≤ q ∧ q < 1024) && (List.range 30).all fun i => q % (i + 2) != 0 || q == i + 2

theorem prime_of_isSmallPrime {q : Nat} (checked : isSmallPrime q = true) : q.Prime := by
  unfold isSmallPrime at checked
  rw [Bool.and_eq_true, decide_eq_true_eq, List.all_eq_true] at checked
  obtain ⟨⟨large, small⟩, trials⟩ := checked
  apply Nat.prime_def_le_sqrt.mpr
  refine ⟨large, ?_⟩
  intro m atLeast atMost divides
  have root : Nat.sqrt q < 32 := Nat.sqrt_lt'.mpr (by omega)
  have trial := trials (m - 2) (List.mem_range.mpr (by omega))
  have back : m - 2 + 2 = m := by omega
  rw [back, Nat.mod_eq_zero_of_dvd divides] at trial
  have same : q = m := by simpa using trial
  have square : m * m ≤ q := by
    calc m * m ≤ Nat.sqrt q * Nat.sqrt q := Nat.mul_le_mul atMost atMost
      _ ≤ q := Nat.sqrt_le q
  rw [← same] at square
  have strict : q * 1 < q * q := Nat.mul_lt_mul_of_pos_left (by omega) (by omega)
  omega

/-- A prime with a residue of full order and the prime factors of its predecessor. -/
structure Step where
  prime : Nat
  base : Nat
  factors : List Nat

/-- The factors are small or certified before, and the residue has full order. -/
def Step.valid (bits : Nat) (known : List Nat) (step : Step) : Bool :=
  (step.factors.all fun q => isSmallPrime q || known.contains q) &&
    (step.factors.prod == step.prime - 1 && decide (1 < step.prime ∧ step.prime < 2 ^ bits)) &&
    (powMod step.prime bits step.base (step.prime - 1) == 1 &&
      step.factors.all fun q => powMod step.prime bits step.base ((step.prime - 1) / q) != 1)

theorem Step.prime_of_valid {bits : Nat} {known : List Nat} {step : Step}
    (primes : ∀ q ∈ known, q.Prime) (checked : step.valid bits known = true) :
    step.prime.Prime := by
  unfold Step.valid at checked
  simp only [Bool.and_eq_true, List.all_eq_true, Bool.or_eq_true, List.contains_iff_mem,
    beq_iff_eq, decide_eq_true_eq, bne_iff_ne] at checked
  obtain ⟨⟨factors, product, range⟩, full, proper⟩ := checked
  apply prime_of_order bits step.base step.factors _ product range full proper
  intro q listed
  rcases factors q listed with small | certified
  · exact prime_of_isSmallPrime small
  · exact primes q certified

def certifies (bits : Nat) : List Nat → List Step → Bool
  | _, [] => true
  | known, step :: steps => step.valid bits known && certifies bits (step.prime :: known) steps

theorem prime_of_certifies {bits : Nat} {known : List Nat} {steps : List Step}
    (primes : ∀ q ∈ known, q.Prime) (checked : certifies bits known steps = true) :
    ∀ step ∈ steps, step.prime.Prime := by
  induction steps generalizing known with
  | nil => simp
  | cons step steps ih =>
      rw [certifies, Bool.and_eq_true] at checked
      have prime := step.prime_of_valid primes checked.1
      have extended : ∀ q ∈ step.prime :: known, q.Prime := by
        intro q member
        rcases List.mem_cons.mp member with same | listed
        · rw [same]
          exact prime
        · exact primes q listed
      intro other member
      rcases List.mem_cons.mp member with same | later
      · rw [same]
        exact prime
      · exact ih extended checked.2 other later

/-! ## Square roots modulo an odd prime -/

theorem roots_of_square {p left right : Nat} (prime : p.Prime) (leftSmall : left < p)
    (rightSmall : right < p) (squares : left * left % p = right * right % p) :
    left = right ∨ left + right = p ∨ left + right = 0 := by
  have : Fact p.Prime := ⟨prime⟩
  have product : (left : ZMod p) * left = right * right := by
    have cast := (ZMod.natCast_eq_natCast_iff' (left * left) (right * right) p).mpr squares
    rw [Nat.cast_mul, Nat.cast_mul] at cast
    exact cast
  rcases mul_self_eq_mul_self_iff.mp product with same | opposite
  · left
    have congruent := (ZMod.natCast_eq_natCast_iff' left right p).mp same
    rw [Nat.mod_eq_of_lt leftSmall, Nat.mod_eq_of_lt rightSmall] at congruent
    exact congruent
  · right
    have zero : ((left + right : Nat) : ZMod p) = 0 := by
      rw [Nat.cast_add, opposite, neg_add_cancel]
    obtain ⟨times, sum⟩ := (ZMod.natCast_eq_zero_iff (left + right) p).mp zero
    rcases times with _ | _ | times
    · right
      rw [sum, Nat.mul_zero]
    · left
      rw [sum, Nat.zero_add, Nat.mul_one]
    · have twice : p * 2 ≤ p * (times + 1 + 1) := Nat.mul_le_mul_left p (by omega)
      omega

theorem root_eq_of_parity {p left right : Nat} (prime : p.Prime) (odd : p % 2 = 1)
    (leftSmall : left < p) (rightSmall : right < p)
    (squares : left * left % p = right * right % p) (parity : left % 2 = right % 2) :
    left = right := by
  rcases roots_of_square prime leftSmall rightSmall squares with same | whole | zero
  · exact same
  · omega
  · omega

theorem ne_power {p bits base exponent cofactor : Nat} (prime : p.Prime)
    (split : exponent * cofactor = p - 1) (small : cofactor < 2 ^ bits) (unit : base % p ≠ 0)
    (nonresidue : powMod p bits base cofactor ≠ 1) (x : Nat) : x ^ exponent % p ≠ base % p := by
  have : Fact p.Prime := ⟨prime⟩
  intro same
  have power : (x : ZMod p) ^ exponent = base := by
    have cast := (ZMod.natCast_eq_natCast_iff' (x ^ exponent) base p).mpr same
    rw [Nat.cast_pow] at cast
    exact cast
  have nonZero : (x : ZMod p) ≠ 0 := by
    intro zero
    have exponentPos : exponent ≠ 0 := by
      rintro rfl
      have large := prime.two_le
      omega
    rw [zero, zero_pow exponentPos] at power
    apply unit
    have divides := (ZMod.natCast_eq_zero_iff base p).mp power.symm
    exact Nat.mod_eq_zero_of_dvd divides
  apply nonresidue
  rw [← zmod_pow_eq_one prime.one_lt small, ← power, ← pow_mul, split]
  exact ZMod.pow_card_sub_one_eq_one nonZero

/-- Modulo a prime that is 3 modulo 4, a square has its power by `(p + 1) / 4` as a root. -/
theorem sqrt_of_square {p root value : Nat} (prime : p.Prime) (shape : p % 4 = 3)
    (square : root * root % p = value % p) :
    value ^ ((p + 1) / 4) * value ^ ((p + 1) / 4) % p = value % p := by
  have : Fact p.Prime := ⟨prime⟩
  have cast : (root : ZMod p) * root = value := by
    have cast := (ZMod.natCast_eq_natCast_iff' (root * root) value p).mpr square
    rw [Nat.cast_mul] at cast
    exact cast
  have exponents : 2 * ((p + 1) / 4 + (p + 1) / 4) = (p - 1) + 2 := by omega
  have goal : (value : ZMod p) ^ ((p + 1) / 4) * (value : ZMod p) ^ ((p + 1) / 4) = value := by
    rw [← pow_add, ← cast, ← pow_two, ← pow_mul, exponents, pow_add]
    by_cases zero : (root : ZMod p) = 0
    · rw [zero, zero_pow (by decide : 2 ≠ 0), mul_zero]
    · rw [ZMod.pow_card_sub_one_eq_one zero, one_mul]
  apply (ZMod.natCast_eq_natCast_iff' _ _ p).mp
  rw [Nat.cast_mul, Nat.cast_pow]
  exact goal

end Primality
