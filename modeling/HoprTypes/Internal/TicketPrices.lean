import HoprTypes.Internal.Lottery

/-!
# Ticket prices

A price that is divided by a winning probability is the amount of a ticket.  What such a ticket
pays on average is compared with the price, and with the estimate that multiplies the amount by
the probability again.
-/

set_option autoImplicit false

namespace HoprTypes.Primitive.U256

variable {amount : U256} {p : Binary64} {k : ℕ}

/-! ## Division by a number of the grid -/

theorem divF64_zero (grid : p.OnGrid 0) : divF64 amount p = Outcome.fail .invalidInput := by
  rw [divF64, if_pos (.inl ((grid.le_iff Binary64.onGrid_zero).2 le_rfl))]

theorem value_pos (grid : p.OnGrid k) (positive : 0 < k) : 0 < p.value := by
  rw [grid.value]
  exact div_pos (Nat.cast_pos.2 positive) (by positivity)

theorem divF64_eq (grid : p.OnGrid k) (positive : 0 < k) (most : k ≤ 2 ^ 52)
    (small : amount.toNat < 2 ^ 204) :
    divF64 amount p = .ok (BitVec.ofNat 256 (amount.toNat * 2 ^ 52 / k)) := by
  have inside : ¬(p ≤ Binary64.zero ∨ p > Binary64.one) := by
    rw [refused_iff (Binary64.not_isNaN grid.finite), not_not]
    exact ⟨value_pos grid positive, (grid.value_mem most).2⟩
  rw [divF64, if_neg inside]
  rcases most.lt_or_eq with below | whole
  · have notOne : ¬p.Equals Binary64.one := by
      rw [grid.equals_iff Binary64.onGrid_one]
      exact below.ne
    have word := grid.toBits_add Binary64.onGrid_one (Nat.add_comm k _) below.le
    have divisor : mantissa (p + Binary64.one) = BitVec.ofNat 256 (k % 2 ^ 52) := by
      apply BitVec.eq_of_toNat_eq
      rw [toNat_mantissa, fraction_of_toBits word, BitVec.toNat_ofNat]
      omega
    obtain ⟨nonzero, quotient⟩ := shifted_quotient amount positive below
    rw [if_neg notOne, divisor, divOrPanic, if_neg nonzero, quotient,
      Nat.mod_eq_of_lt (show amount.toNat * 2 ^ 52 < 2 ^ 256 by omega)]
  · have one : p.Equals Binary64.one := (grid.equals_iff Binary64.onGrid_one).2 whole
    rw [if_pos one, whole, Nat.mul_div_cancel _ (Nat.two_pow_pos 52), BitVec.ofNat_toNat,
      BitVec.setWidth_eq]

theorem divF64_bounds (grid : p.OnGrid k) (positive : 0 < k) (most : k ≤ 2 ^ 52)
    (small : amount.toNat < 2 ^ 204) :
    ∃ quotient, divF64 amount p = .ok quotient ∧
      quotient.toNat * k ≤ amount.toNat * 2 ^ 52 ∧
      (quotient.toNat : ℚ) * p.value ≤ amount.toNat ∧
      (amount.toNat : ℚ) < quotient.toNat * p.value + p.value := by
  have fits : amount.toNat * 2 ^ 52 / k < 2 ^ 256 :=
    (Nat.div_le_self _ k).trans_lt (by omega)
  have value :
      (BitVec.ofNat 256 (amount.toNat * 2 ^ 52 / k)).toNat = amount.toNat * 2 ^ 52 / k := by
    rw [BitVec.toNat_ofNat, Nat.mod_eq_of_lt fits]
  have below : amount.toNat * 2 ^ 52 / k * k ≤ amount.toNat * 2 ^ 52 := Nat.div_mul_le_self _ _
  have above : amount.toNat * 2 ^ 52 < (amount.toNat * 2 ^ 52 / k + 1) * k := by
    rw [Nat.mul_comm _ k]
    exact Nat.lt_mul_div_succ _ positive
  refine ⟨_, divF64_eq grid positive most small, ?_, ?_, ?_⟩
  · rw [value]
    exact below
  · rw [value, grid.value, ← mul_div_assoc, div_le_iff₀ (by positivity)]
    exact_mod_cast below
  · rw [value, grid.value, ← add_one_mul, ← mul_div_assoc, lt_div_iff₀ (by positivity)]
    exact_mod_cast above

/-- A product with a probability is the exact one with any chance that is read as this
probability, up to the rounding of the product and of the chance. -/
theorem mulF64_bounds (grid : p.OnGrid k) (positive : 0 < k) (most : k ≤ 2 ^ 52)
    (notLast : k ≠ 2 ^ 52 - 1) (fits : amount.toNat * (k + 1) < 2 ^ 256) {chance : ℚ}
    (least : p.value ≤ chance) (resolved : chance ≤ p.value + 1 / 2 ^ 52) (proper : chance ≤ 1) :
    ∃ product, mulF64 amount p = .ok product ∧
      (amount.toNat : ℚ) * chance - 1 < product.toNat ∧
      (product.toNat : ℚ) ≤ amount.toNat * chance + amount.toNat / 2 ^ 52 := by
  have nonneg : (0 : ℚ) ≤ amount.toNat := Nat.cast_nonneg _
  rcases most.lt_or_eq with below | whole
  · have factor : (k + 1) % 2 ^ 52 = k + 1 := Nat.mod_eq_of_lt (by omega)
    have product : mulF64 amount p =
        .ok (BitVec.ofNat 256 (amount.toNat * (k + 1) / 2 ^ 52)) := by
      rw [mulF64_eq grid positive below, factor, if_pos fits]
    have value : (BitVec.ofNat 256 (amount.toNat * (k + 1) / 2 ^ 52)).toNat =
        amount.toNat * (k + 1) / 2 ^ 52 := by
      rw [BitVec.toNat_ofNat, Nat.mod_eq_of_lt ((Nat.div_le_self _ _).trans_lt fits)]
    have scaled : (amount.toNat : ℚ) * (p.value + 1 / 2 ^ 52) =
        ((amount.toNat * (k + 1) : ℕ) : ℚ) / (2 ^ 52 : ℕ) := by
      rw [grid.value]
      push_cast
      ring
    refine ⟨_, product, ?_, ?_⟩
    · have rounded := Nat.lt_floor_add_one (((amount.toNat * (k + 1) : ℕ) : ℚ) / (2 ^ 52 : ℕ))
      rw [Nat.floor_div_eq_div, ← scaled] at rounded
      rw [value]
      linarith [mul_le_mul_of_nonneg_left resolved nonneg]
    · have rounded : ((amount.toNat * (k + 1) / 2 ^ 52 : ℕ) : ℚ) ≤ _ := Nat.cast_div_le
      rw [← scaled] at rounded
      rw [value]
      linarith [mul_le_mul_of_nonneg_left least nonneg]
  · subst whole
    have one : p.value = 1 := by
      rw [grid.value]
      norm_num
    obtain rfl : chance = 1 := le_antisymm proper (one ▸ least)
    refine ⟨amount, mulF64_one grid, by linarith, ?_⟩
    rw [mul_one]
    exact le_add_of_nonneg_right (by positivity)

end HoprTypes.Primitive.U256

namespace HoprTypes.Internal.WinningProbability

open HoprTypes.Primitive

/-! ## What a ticket pays -/

theorem chance_le_one (probability : WinningProbability) : probability.chance ≤ 1 := by
  have bound := asLuck_lt probability
  rw [chance_eq, div_le_one (by positivity)]
  exact_mod_cast (show probability.asLuck.toNat + 1 ≤ 2 ^ 56 by omega)

noncomputable def averagePayout (probability : WinningProbability) (amount : HoprBalance) : ℚ :=
  amount.amount.toNat * probability.chance

/-- A ticket that is priced by its winning probability pays the price on average: less than the
probability below it, and above it by no more than the resolution of the probability allows.  The
estimate of what it pays is as close. -/
theorem priced_ticket_pays {price : HoprBalance} (small : price.amount.toNat < 2 ^ 203)
    (probability : WinningProbability) :
    (probability.asLuck.toNat < 15 →
      price.divF64 probability.asF64 = Outcome.fail .invalidInput) ∧
    (15 ≤ probability.asLuck.toNat → ∃ amount : HoprBalance,
      price.divF64 probability.asF64 = .ok amount ∧
      (price.amount.toNat : ℚ) - probability.asF64.value < probability.averagePayout amount ∧
      probability.averagePayout amount ≤ price.amount.toNat + amount.amount.toNat / 2 ^ 52 ∧
      (probability = always ∨ probability.asLuck.toNat < 2 ^ 56 - 17 →
        ∃ estimate : HoprBalance, amount.mulF64 probability.asF64 = .ok estimate ∧
          probability.averagePayout amount - 1 < estimate.amount.toNat ∧
          (estimate.amount.toNat : ℚ) ≤
            probability.averagePayout amount + amount.amount.toNat / 2 ^ 52)) := by
  have grid := asF64_onGrid probability
  have bound := asLuck_lt probability
  obtain ⟨least, resolved⟩ := asF64_le_chance probability
  constructor
  · intro few
    rw [Nat.div_eq_of_lt (show probability.asLuck.toNat + 1 < 16 by omega)] at grid
    rw [Balance.divF64, U256.divF64_zero grid]
    rfl
  · intro enough
    have positive : 0 < (probability.asLuck.toNat + 1) / 16 := by omega
    have most : (probability.asLuck.toNat + 1) / 16 ≤ 2 ^ 52 := by omega
    obtain ⟨quotient, divided, product, below, above⟩ :=
      U256.divF64_bounds grid positive most (show price.amount.toNat < 2 ^ 204 by omega)
    have nonneg : (0 : ℚ) ≤ quotient.toNat := Nat.cast_nonneg _
    have low := mul_le_mul_of_nonneg_left least nonneg
    have high := mul_le_mul_of_nonneg_left resolved.le nonneg
    refine ⟨⟨quotient⟩, Balance.map_mk_eq_ok.2 divided, ?_, ?_, ?_⟩
    · rw [averagePayout]
      linarith
    · rw [averagePayout]
      linarith
    · intro usual
      have notLast : (probability.asLuck.toNat + 1) / 16 ≠ 2 ^ 52 - 1 := by
        rcases usual with whole | less
        · rw [whole, asLuck_always]
          decide
        · omega
      have fits : quotient.toNat * ((probability.asLuck.toNat + 1) / 16 + 1) < 2 ^ 256 := by
        have once := Nat.le_mul_of_pos_right quotient.toNat positive
        rw [Nat.mul_add, Nat.mul_one]
        omega
      obtain ⟨estimate, multiplied, lower, upper⟩ := U256.mulF64_bounds grid positive most notLast
        fits least resolved.le (chance_le_one probability)
      exact ⟨⟨estimate⟩, Balance.map_mk_eq_ok.2 multiplied, lower, upper⟩

/-- Half of all digests win. -/
def evenOdds : WinningProbability := ⟨[0x7f, 0xff, 0xff, 0xff, 0xff, 0xff, 0xff], by simp⟩

def packetPrice : HoprBalance := ⟨1000⟩

theorem priced_ticket_pays_even : ∃ amount estimate : HoprBalance,
    packetPrice.divF64 evenOdds.asF64 = .ok amount ∧
      amount.mulF64 evenOdds.asF64 = .ok estimate ∧
      (packetPrice.amount.toNat : ℚ) - evenOdds.asF64.value < evenOdds.averagePayout amount ∧
      evenOdds.averagePayout amount - 1 < estimate.amount.toNat := by
  have lucky : evenOdds.asLuck.toNat = 2 ^ 55 - 1 := by decide
  obtain ⟨amount, divided, lower, _, estimated⟩ :=
    (priced_ticket_pays (show packetPrice.amount.toNat < 2 ^ 203 by decide) evenOdds).2
      (by rw [lucky]; decide)
  obtain ⟨estimate, multiplied, close, _⟩ := estimated (.inr (by rw [lucky]; decide))
  exact ⟨amount, estimate, divided, multiplied, lower, close⟩

end HoprTypes.Internal.WinningProbability
