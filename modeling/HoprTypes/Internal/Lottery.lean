import HoprTypes.Internal.WinningProbability
import HoprTypes.Lib.Shares

/-!
# The ticket lottery

A ticket wins if the first seven bytes of a digest are not above the luck of its winning
probability.  How many of all digests win is compared with the probability as a float.
-/

set_option autoImplicit false

namespace HoprTypes.Internal

open BigEndian HoprTypes.Primitive HoprTypes.Crypto

def ticketLuckDigest (ticketHash : Hash) (ticketSignature : ChainSignature) (response : Response)
    (vrfParams : VrfParameters) : Hash :=
  Hash.create
    [ticketHash.toList, vrfParams.getVEncodedPoint.drop 1, response.bytes.toList,
      ticketSignature.bytes.toList]

namespace WinningProbability

def winningDigests (probability : WinningProbability) : Set Hash :=
  {digest | ofBE (digest.toList.take 7) ≤ probability.asLuck.toNat}

/-- The share of all digests that win. -/
noncomputable def chance (probability : WinningProbability) : ℚ :=
  (probability.winningDigests.ncard : ℚ) / 256 ^ 32

theorem checkTicketWin_iff (ticketHash : Hash) (ticketSignature : ChainSignature)
    (probability : WinningProbability) (response : Response) (vrfParams : VrfParameters) :
    checkTicketWin ticketHash ticketSignature probability response vrfParams = true ↔
      ticketLuckDigest ticketHash ticketSignature response vrfParams ∈
        probability.winningDigests := by
  have length : ∀ digest : Hash, (digest.toList.take 7).length = 7 := by
    intro digest
    rw [List.length_take, digest.length_toList]
    rfl
  have luck : ∀ digest : Hash,
      (fromBeBytes 64 (0 :: digest.toList.take 7) : U64).toNat = ofBE (digest.toList.take 7) :=
    fun digest => toNat_asLuck ⟨digest.toList.take 7, length digest⟩
  unfold checkTicketWin winningDigests
  rw [decide_eq_true_iff, BitVec.le_def, luck]
  rfl

theorem ncard_winningDigests (probability : WinningProbability) :
    probability.winningDigests.ncard = (probability.asLuck.toNat + 1) * 256 ^ 25 :=
  @ncard_take_le 7 25 _ (by
    have bound := asLuck_lt probability
    omega)

theorem chance_eq (probability : WinningProbability) :
    probability.chance = (probability.asLuck.toNat + 1 : ℕ) / 2 ^ 56 := by
  rw [chance, ncard_winningDigests, Nat.cast_mul, Nat.cast_pow, Nat.cast_ofNat]
  rw [show (256 : ℚ) ^ 32 = 2 ^ 56 * 256 ^ 25 by norm_num, mul_div_mul_right _ _ (by positivity)]

/-- The chance is the float, or above it by less than the float resolves. -/
theorem asF64_le_chance (probability : WinningProbability) :
    probability.asF64.value ≤ probability.chance ∧
      probability.chance < probability.asF64.value + 1 / 2 ^ 52 := by
  rw [chance_eq, (asF64_onGrid probability).value]
  have below : (probability.asLuck.toNat + 1) / 16 * 16 ≤ probability.asLuck.toNat + 1 :=
    Nat.div_mul_le_self _ _
  have above : probability.asLuck.toNat + 1 < ((probability.asLuck.toNat + 1) / 16 + 1) * 16 := by
    omega
  have belowRat : ((((probability.asLuck.toNat + 1) / 16 : ℕ) : ℚ)) * 16 ≤
      (probability.asLuck.toNat + 1 : ℕ) := by exact_mod_cast below
  have aboveRat : ((probability.asLuck.toNat + 1 : ℕ) : ℚ) <
      ((((probability.asLuck.toNat + 1) / 16 : ℕ) : ℚ) + 1) * 16 := by exact_mod_cast above
  constructor
  · rw [div_le_div_iff₀ (by positivity) (by positivity)]
    linarith
  · rw [← add_div, div_lt_div_iff₀ (by positivity) (by positivity)]
    linarith

/-- The lottery pays what it says: a ticket wins exactly for the digests up to the luck of its
probability; one more than the luck of every 2^56 digests win, which is the float of the
probability up to its resolution, and exactly the float it was encoded from; what wins with
less luck wins with more, and the ticket that never wins still has the chance of one digest
in 2^56. -/
theorem lottery_exact {crate : FloatCmpCrate} (lawful : crate.Lawful) :
    (∀ ticketHash ticketSignature probability response vrfParams,
      checkTicketWin ticketHash ticketSignature probability response vrfParams = true ↔
        ticketLuckDigest ticketHash ticketSignature response vrfParams ∈
          winningDigests probability) ∧
    (∀ probability : WinningProbability,
      probability.winningDigests.ncard = (probability.asLuck.toNat + 1) * 256 ^ 25 ∧
        probability.asF64.value ≤ probability.chance ∧
        probability.chance < probability.asF64.value + 1 / 2 ^ 52) ∧
    (∀ left right : WinningProbability,
      left.winningDigests ⊆ right.winningDigests ↔ left.asLuck ≤ right.asLuck) ∧
    (∀ (p : Binary64) (k : ℕ), p.OnGrid k → k ≤ 2 ^ 52 → ¬ Snapped p.value →
      ∃ probability, tryFromF64 crate p = .ok probability ∧ probability.chance = p.value) ∧
    always.winningDigests = Set.univ ∧ never.chance = 1 / 2 ^ 56 := by
  refine ⟨fun _ _ probability _ _ => checkTicketWin_iff _ _ probability _ _,
    fun probability => ⟨ncard_winningDigests probability, asF64_le_chance probability⟩,
    ?_, ?_, ?_, ?_⟩
  · intro left right
    constructor
    · intro within
      -- The digest that starts with the luck itself.
      have bound := asLuck_lt left
      have starts : ofBE ((beBytes 32 (left.asLuck.toNat * 256 ^ 25)).toList.take 7) =
          left.asLuck.toNat := by
        rw [@ofBE_take 7 25, toList_beBytes, ofBE_toBE_of_lt (by omega)]
        exact Nat.mul_div_cancel _ (by positivity)
      have wins := within (show beBytes 32 (left.asLuck.toNat * 256 ^ 25) ∈ left.winningDigests
        from starts.le)
      rw [BitVec.le_def, ← starts]
      exact wins
    · intro le digest wins
      exact (show ofBE (digest.toList.take 7) ≤ left.asLuck.toNat from wins).trans
        (BitVec.le_def.mp le)
  · intro p k grid most free
    obtain ⟨probability, encoded, encodes⟩ := tryFromF64_encodes lawful grid most
    refine ⟨probability, encoded, ?_⟩
    rw [chance_eq, encodes.inner free, grid.value]
    push_cast
    rw [show (2 : ℚ) ^ 56 = 16 * 2 ^ 52 by norm_num, mul_div_mul_left _ _ (by norm_num)]
  · ext digest
    have value := ofBE_lt (digest.toList.take 7)
    rw [List.length_take, digest.length_toList, Nat.min_eq_left (by decide)] at value
    refine iff_of_true (show ofBE (digest.toList.take 7) ≤ always.asLuck.toNat from ?_)
      (Set.mem_univ digest)
    rw [asLuck_always]
    omega
  · rw [chance_eq, asLuck_never]
    norm_num

/-- A ticket with probability one half. -/
theorem lottery_exact_half : ∃ probability, tryFromF64 floatCmp U256.half = .ok probability ∧
    probability.chance = U256.half.value := by
  have free : ¬ Snapped U256.half.value := by
    have small := epsilon_small
    norm_num at small
    rw [Snapped, U256.onGrid_half.value]
    intro snapped
    rcases snapped with near | near
    · norm_num at near
      linarith
    · norm_num at near
      linarith
  exact (lottery_exact floatCmp_lawful).2.2.2.1 _ _ U256.onGrid_half (by decide) free

end WinningProbability

end HoprTypes.Internal
