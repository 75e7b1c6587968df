import HoprTypes.Internal.Tickets
import HoprTypes.Primitive.Floats

/-!
# Winning probabilities

The conversion of an encoded winning probability from and to a float, and the
approximate comparison with the minimum and the maximum it gives.
-/

set_option autoImplicit false

namespace HoprTypes.Internal

open BigEndian HoprTypes.Primitive

namespace WinningProbability

/-- The tolerance `0.00000001` of approximate comparisons. -/
def epsilon : Binary64 := Binary64.fromBits 0x3e45798ee2308c3a

/-- The probability as a float.  The sum cannot overflow, its first term has 56 bits. -/
def asF64 (probability : WinningProbability) : Binary64 :=
  if probability = never then Binary64.zero
  else if probability = always then Binary64.one
  else
    let tmp : U64 := fromBeBytes 64 (0 :: probability.toList)
    let significand := tmp + 1
    Binary64.fromBits ((1023#64 <<< 52) ||| (significand >>> 4)) - Binary64.one

/-- The difference of two integers, which panics on an underflow. -/
def subOrPanic (x y : U64) : Outcome CoreTypesError U64 :=
  if y ≤ x then .ok (x - y) else Outcome.panicked "attempt to subtract with overflow"

def tryFromF64 (crate : FloatCmpCrate) (winProb : Binary64) :
    Outcome CoreTypesError WinningProbability :=
  if ¬ (Binary64.zero ≤ winProb ∧ winProb ≤ Binary64.one) then
    Outcome.fail (.invalidInputData "winning probability must be in [0.0, 1.0]")
  else if f64ApproxEq crate Binary64.zero winProb epsilon then .ok never
  else if f64ApproxEq crate Binary64.one winProb epsilon then .ok always
  else do
    let tmp := (winProb + Binary64.one).toBits
    -- clear sign and exponent
    let significand := tmp &&& 0x000fffffffffffff#64
    let previous ← subOrPanic significand 1
    let encoded := (previous <<< 4) ||| 0x000000000000000f#64
    .ok ⟨(toBeBytes 8 encoded).drop 1, by simp [toBeBytes]⟩

def approxCmp (crate : FloatCmpCrate) (probability other : WinningProbability) :
    Outcome CoreTypesError Ordering :=
  let a := probability.asF64
  let b := other.asF64
  if ¬ f64ApproxEq crate a b epsilon then
    match a.partialCmp b with
    | some order => .ok order
    | none => Outcome.panicked "finite non-NaN f64 comparison cannot fail"
  else .ok .eq

/-- The smaller of two probabilities, the second of two approximately equal ones. -/
def min (crate : FloatCmpCrate) (probability other : WinningProbability) :
    Outcome CoreTypesError WinningProbability := do
  let order ← approxCmp crate probability other
  .ok (if order = .lt then probability else other)

/-- The larger of two probabilities, the second of two approximately equal ones. -/
def max (crate : FloatCmpCrate) (probability other : WinningProbability) :
    Outcome CoreTypesError WinningProbability := do
  let order ← approxCmp crate probability other
  .ok (if order = .gt then probability else other)

/-! ## Luck -/

theorem toNat_asLuck (probability : WinningProbability) :
    probability.asLuck.toNat = ofBE probability.toList := by
  have fits := ofBE_lt probability.toList
  rw [probability.length_toList] at fits
  rw [asLuck, fromBeBytes, BitVec.toNat_ofNat, ofBE_cons, UInt8.toNat_zero, Nat.zero_mul,
    Nat.zero_add]
  exact Nat.mod_eq_of_lt (by omega)

theorem asLuck_lt (probability : WinningProbability) : probability.asLuck.toNat < 2 ^ 56 := by
  have fits := ofBE_lt probability.toList
  rw [probability.length_toList] at fits
  rw [toNat_asLuck]
  omega

theorem eq_of_asLuck {left right : WinningProbability}
    (same : left.asLuck.toNat = right.asLuck.toNat) : left = right := by
  rw [toNat_asLuck, toNat_asLuck] at same
  apply FixedBytes.ext
  exact ofBE_injective (by rw [left.length_toList, right.length_toList]) same

theorem asLuck_never : never.asLuck.toNat = 0 := by decide

theorem asLuck_always : always.asLuck.toNat = 2 ^ 56 - 1 := by decide

/-! ## Decoding -/

theorem asF64_onGrid (probability : WinningProbability) :
    probability.asF64.OnGrid ((probability.asLuck.toNat + 1) / 16) := by
  have bound := asLuck_lt probability
  rw [asF64]
  by_cases isNever : probability = never
  · rw [if_pos isNever, isNever, asLuck_never]
    exact Binary64.onGrid_zero
  by_cases isAlways : probability = always
  · rw [if_neg isNever, if_pos isAlways, isAlways, asLuck_always]
    exact Binary64.onGrid_one
  have notLast : probability.asLuck.toNat ≠ 2 ^ 56 - 1 := by
    intro last
    exact isAlways (eq_of_asLuck (last.trans asLuck_always.symm))
  have word : ((1023#64 <<< 52) ||| ((probability.asLuck + 1) >>> 4)).toNat =
      1023 * 2 ^ 52 + (probability.asLuck.toNat + 1) / 16 := by
    have next : (probability.asLuck + 1).toNat = probability.asLuck.toNat + 1 := by
      rw [BitVec.toNat_add]
      exact Nat.mod_eq_of_lt (by simp; omega)
    have exponent : (1023#64 <<< 52).toNat = 2 ^ 52 * 1023 := by decide
    have fits : (probability.asLuck.toNat + 1) / 2 ^ 4 < 2 ^ 52 := by omega
    rw [BitVec.toNat_or, BitVec.toNat_ushiftRight, next, Nat.shiftRight_eq_div_pow, exponent,
      ← Nat.two_pow_add_eq_or_of_lt fits]
    omega
  rw [if_neg isNever, if_neg isAlways]
  have grid := Binary64.OnGrid.of_word
    (x := Binary64.fromBits ((1023#64 <<< 52) ||| ((probability.asLuck + 1) >>> 4))) word (by omega)
  have difference := grid.sub_onGrid Binary64.onGrid_one (by omega) (Nat.le_add_right _ _)
  rw [Nat.add_sub_cancel_left] at difference
  exact difference

/-- The value of a probability: nothing for no luck, one for all luck, and in between the luck
of the sixteen that share a float. -/
theorem value_asF64 (probability : WinningProbability) :
    probability.asF64.value =
      if probability.asLuck.toNat = 0 then 0
      else if probability.asLuck.toNat = 2 ^ 56 - 1 then 1
      else (((probability.asLuck.toNat + 1) / 16 : ℕ) : ℚ) / 2 ^ 52 := by
  rw [(asF64_onGrid probability).value]
  by_cases none : probability.asLuck.toNat = 0
  · rw [if_pos none, none]
    norm_num
  by_cases all : probability.asLuck.toNat = 2 ^ 56 - 1
  · rw [if_neg none, if_pos all, all]
    norm_num
  · rw [if_neg none, if_neg all]

theorem value_asF64_mono {left right : WinningProbability}
    (le : left.asLuck.toNat ≤ right.asLuck.toNat) : left.asF64.value ≤ right.asF64.value := by
  rw [(asF64_onGrid left).value_le_iff (asF64_onGrid right)]
  omega

/-! ## Encoding -/

theorem isFinite_epsilon : epsilon.IsFinite := by decide

theorem epsilon_resolved : 1 / 2 ^ 52 ≤ epsilon.value := by
  have parts := @Binary64.div_le_value_iff epsilon 1 52 1022 (by decide)
  rw [Int.cast_one] at parts
  exact parts.2 (by decide +kernel)

theorem epsilon_small : epsilon.value ≤ 1 / 2 ^ 26 := by
  have parts := @Binary64.value_le_div_iff epsilon 1 26 1048 (by decide)
  rw [Int.cast_one] at parts
  exact parts.2 (by decide +kernel)

theorem epsilon_pos : 0 < epsilon.value := lt_of_lt_of_le (by positivity) epsilon_resolved

theorem toNat_encoded {previous : U64} (fits : previous.toNat < 2 ^ 52) :
    ((previous <<< 4) ||| 0x000000000000000f#64).toNat = 16 * previous.toNat + 15 := by
  have shifted : (previous <<< 4).toNat = 2 ^ 4 * previous.toNat := by
    rw [BitVec.toNat_shiftLeft, Nat.shiftLeft_eq, Nat.mul_comm]
    exact Nat.mod_eq_of_lt (by omega)
  have low : (0x000000000000000f#64).toNat = 15 := by decide
  rw [BitVec.toNat_or, shifted, low, ← Nat.two_pow_add_eq_or_of_lt (by decide)]

theorem asLuck_drop {encoded : U64} (fits : encoded.toNat < 2 ^ 56)
    (size : ((toBeBytes 8 encoded).drop 1).length = 7) :
    asLuck ⟨(toBeBytes 8 encoded).drop 1, size⟩ = encoded := by
  apply BitVec.eq_of_toNat_eq
  rw [toNat_asLuck]
  change ofBE ((toBE (1 + 7) encoded.toNat).drop 1) = _
  rw [drop_toBE, ofBE_toBE_of_lt (by omega)]

variable {crate : FloatCmpCrate}

/-- A number of the grid away from both ends is encoded as the last luck of its sixteen. -/
theorem tryFromF64_inner {p : Binary64} {k : ℕ} (grid : p.OnGrid k) (positive : 0 < k)
    (below : k < 2 ^ 52) (notNever : f64ApproxEq crate Binary64.zero p epsilon = false)
    (notAlways : f64ApproxEq crate Binary64.one p epsilon = false) :
    ∃ probability, tryFromF64 crate p = .ok probability ∧
      probability.asLuck.toNat + 1 = 16 * k := by
  have inside := grid.mem_unit below.le
  have word := grid.toBits_add Binary64.onGrid_one (Nat.add_comm k _) below.le
  have significand : ((p + Binary64.one).toBits &&& 0x000fffffffffffff#64).toNat = k := by
    rw [Binary64.toNat_and_mask, Binary64.fraction, word]
    omega
  rw [tryFromF64, if_neg (not_not.2 inside), notNever, notAlways]
  simp only [Bool.false_eq_true, if_false]
  generalize (p + Binary64.one).toBits &&& 0x000fffffffffffff#64 = bits at significand ⊢
  have enough : (1 : U64) ≤ bits := by
    rw [BitVec.le_def, significand]
    exact positive
  have previous : (bits - 1).toNat = k - 1 := by
    rw [BitVec.toNat_sub_of_le enough, significand]
    rfl
  have encoded := @toNat_encoded (bits - 1) (by omega)
  have luck := @asLuck_drop (((bits - 1) <<< 4) ||| 0x000000000000000f#64) (by omega)
    (by simp [toBeBytes])
  rw [subOrPanic, if_pos enough, ok_bind]
  refine ⟨_, rfl, ?_⟩
  rw [luck, encoded, previous]
  omega

/-- Whether a value is within the tolerance of zero or one. -/
def Snapped (value : ℚ) : Prop := value ≤ epsilon.value ∨ 1 - value ≤ epsilon.value

/-- What a number of the grid is encoded as: nothing or all within the tolerance of the ends,
and the last luck of its sixteen elsewhere. -/
structure Encodes (p : Binary64) (k : ℕ) (probability : WinningProbability) : Prop where
  never : p.value ≤ epsilon.value → probability = never
  always : 1 - p.value ≤ epsilon.value → probability = always
  inner : ¬ Snapped p.value → probability.asLuck.toNat + 1 = 16 * k

theorem tryFromF64_encodes (lawful : crate.Lawful) {p : Binary64} {k : ℕ} (grid : p.OnGrid k)
    (most : k ≤ 2 ^ 52) :
    ∃ probability, tryFromF64 crate p = .ok probability ∧ Encodes p k probability := by
  have mem := grid.value_mem most
  have inside := grid.mem_unit most
  have low := f64ApproxEq_iff lawful Binary64.onGrid_zero grid (Nat.zero_le _) most
    isFinite_epsilon epsilon_resolved
  have high := f64ApproxEq_iff lawful Binary64.onGrid_one grid (Nat.le_refl _) most
    isFinite_epsilon epsilon_resolved
  rw [Binary64.value_zero, zero_sub, abs_neg, abs_of_nonneg mem.1] at low
  rw [Binary64.value_one, abs_of_nonneg (sub_nonneg.2 mem.2)] at high
  by_cases nearZero : p.value ≤ epsilon.value
  · refine ⟨never, ?_, fun _ => rfl, fun nearOne => ?_, fun free => absurd (Or.inl nearZero) free⟩
    · rw [tryFromF64, if_neg (not_not.2 inside), if_pos (low.2 nearZero)]
    · have small := epsilon_small
      norm_num at small
      linarith
  by_cases nearOne : 1 - p.value ≤ epsilon.value
  · refine ⟨always, ?_, fun near => absurd near nearZero, fun _ => rfl,
      fun free => absurd (Or.inr nearOne) free⟩
    rw [tryFromF64, if_neg (not_not.2 inside), if_neg (fun near => nearZero (low.1 near)),
      if_pos (high.2 nearOne)]
  have positive : 0 < k := by
    apply Nat.pos_of_ne_zero
    intro zero
    apply nearZero
    rw [grid.value, zero, Nat.cast_zero, zero_div]
    exact epsilon_pos.le
  have below : k < 2 ^ 52 := by
    apply lt_of_le_of_ne most
    intro one
    apply nearOne
    rw [grid.value, one, Nat.cast_pow, Nat.cast_ofNat, div_self (by positivity), sub_self]
    exact epsilon_pos.le
  obtain ⟨probability, encoded, luck⟩ := tryFromF64_inner grid positive below
    (Bool.eq_false_iff.2 fun near => nearZero (low.1 near))
    (Bool.eq_false_iff.2 fun near => nearOne (high.1 near))
  exact ⟨probability, encoded, fun near => absurd near nearZero, fun near => absurd near nearOne,
    fun _ => luck⟩

theorem Encodes.value_asF64 {p : Binary64} {k : ℕ} {probability : WinningProbability}
    (grid : p.OnGrid k) (encodes : Encodes p k probability) (free : ¬ Snapped p.value) :
    probability.asF64.value = p.value := by
  have luck := encodes.inner free
  rw [(asF64_onGrid probability).value, luck, Nat.mul_div_cancel_left k (by decide), grid.value]

theorem Encodes.mono {p q : Binary64} {j k : ℕ} {left right : WinningProbability}
    (leftGrid : p.OnGrid j) (rightGrid : q.OnGrid k) (leftEncodes : Encodes p j left)
    (rightEncodes : Encodes q k right) (le : p.value ≤ q.value) :
    left.asLuck.toNat ≤ right.asLuck.toNat := by
  by_cases leftZero : p.value ≤ epsilon.value
  · rw [leftEncodes.never leftZero, asLuck_never]
    exact Nat.zero_le _
  by_cases rightOne : 1 - q.value ≤ epsilon.value
  · rw [rightEncodes.always rightOne, asLuck_always]
    have bound := asLuck_lt left
    omega
  have leftFree : ¬ Snapped p.value := by
    intro snapped
    rcases snapped with near | near
    · exact leftZero near
    · exact rightOne (by linarith)
  have rightFree : ¬ Snapped q.value := by
    intro snapped
    rcases snapped with near | near
    · exact leftZero (le.trans near)
    · exact rightOne near
  have leftLuck := leftEncodes.inner leftFree
  have rightLuck := rightEncodes.inner rightFree
  have index := (leftGrid.value_le_iff rightGrid).1 le
  omega

/-- The codec of winning probabilities: decoding keeps the 52 high bits of the luck and the order
of the luck, encoding succeeds on the multiples of `2^-52`, keeps their order and is exact
away from both ends, and encoding a decoded probability loses less than sixteen of its luck. -/
theorem codec_exact (lawful : crate.Lawful) :
    (∀ probability : WinningProbability, probability.asF64.IsFinite ∧
      probability.asF64.value =
        if probability.asLuck.toNat = 0 then 0
        else if probability.asLuck.toNat = 2 ^ 56 - 1 then 1
        else (((probability.asLuck.toNat + 1) / 16 : ℕ) : ℚ) / 2 ^ 52) ∧
    (∀ left right : WinningProbability, left.asLuck ≤ right.asLuck →
      left.asF64.value ≤ right.asF64.value) ∧
    (∀ (p : Binary64) (k : ℕ), p.OnGrid k → k ≤ 2 ^ 52 →
      ∃ probability, tryFromF64 crate p = .ok probability ∧
        (p.value ≤ epsilon.value → probability = never) ∧
        (1 - p.value ≤ epsilon.value → probability = always) ∧
        (¬ Snapped p.value → probability.asF64.value = p.value)) ∧
    (∀ (p q : Binary64) (j k : ℕ), p.OnGrid j → q.OnGrid k → j ≤ 2 ^ 52 → k ≤ 2 ^ 52 →
      p.value ≤ q.value → ∀ left right, tryFromF64 crate p = .ok left →
        tryFromF64 crate q = .ok right → left.asLuck ≤ right.asLuck) ∧
    (∀ probability : WinningProbability, ¬ Snapped probability.asF64.value →
      ∃ again, tryFromF64 crate probability.asF64 = .ok again ∧
        again.asLuck.toNat ≤ probability.asLuck.toNat ∧
        probability.asLuck.toNat < again.asLuck.toNat + 16) := by
  refine ⟨?_, ?_, ?_, ?_, ?_⟩
  · intro probability
    exact ⟨(asF64_onGrid probability).finite, value_asF64 probability⟩
  · intro left right le
    exact value_asF64_mono le
  · intro p k grid most
    obtain ⟨probability, encoded, encodes⟩ := tryFromF64_encodes lawful grid most
    exact ⟨probability, encoded, encodes.never, encodes.always, encodes.value_asF64 grid⟩
  · intro p q j k leftGrid rightGrid leftMost rightMost le left right leftEncoded rightEncoded
    obtain ⟨encodedLeft, sameLeft, leftEncodes⟩ := tryFromF64_encodes lawful leftGrid leftMost
    obtain ⟨encodedRight, sameRight, rightEncodes⟩ := tryFromF64_encodes lawful rightGrid rightMost
    rw [leftEncoded, Except.ok.injEq] at sameLeft
    rw [rightEncoded, Except.ok.injEq] at sameRight
    subst sameLeft
    subst sameRight
    exact leftEncodes.mono leftGrid rightGrid rightEncodes le
  · intro probability free
    have bound := asLuck_lt probability
    obtain ⟨again, encoded, encodes⟩ :=
      tryFromF64_encodes lawful (asF64_onGrid probability) (by omega)
    have luck := encodes.inner free
    exact ⟨again, encoded, by omega, by omega⟩

theorem codec_of_half : ∃ probability, tryFromF64 floatCmp U256.half = .ok probability ∧
    probability.asF64.value = 1 / 2 := by
  have value : U256.half.value = 1 / 2 := by
    rw [U256.onGrid_half.value]
    norm_num
  have free : ¬ Snapped U256.half.value := by
    have small := epsilon_small
    norm_num at small
    rw [Snapped, value]
    intro snapped
    rcases snapped with near | near
    · linarith
    · linarith
  obtain ⟨_, _, encoding, _⟩ := codec_exact floatCmp_lawful
  obtain ⟨probability, encoded, _, _, same⟩ := encoding _ _ U256.onGrid_half (by decide)
  exact ⟨probability, encoded, (same free).trans value⟩

/-! ## Minimum and maximum -/

/-- Of two values further apart than a tolerance, the smaller one is smaller by the tolerance. -/
theorem lt_iff_add_lt {a b tolerance : ℚ} (positive : 0 < tolerance)
    (far : tolerance < |a - b|) : a < b ↔ a + tolerance < b := by
  constructor
  · intro less
    rw [abs_of_neg (sub_neg.2 less)] at far
    linarith
  · intro less
    linarith

/-- Probabilities compare as different only if they are apart by more than the tolerance. -/
theorem approxCmp_spec (lawful : crate.Lawful) (probability other : WinningProbability) :
    ∃ order, approxCmp crate probability other = .ok order ∧
      (order = .lt ↔ probability.asF64.value + epsilon.value < other.asF64.value) ∧
      (order = .gt ↔ other.asF64.value + epsilon.value < probability.asF64.value) := by
  have left := asF64_onGrid probability
  have right := asF64_onGrid other
  have leftBound := asLuck_lt probability
  have rightBound := asLuck_lt other
  have close := f64ApproxEq_iff lawful left right (by omega) (by omega) isFinite_epsilon
    epsilon_resolved
  have tolerance := epsilon_pos
  rw [approxCmp]
  by_cases near : |probability.asF64.value - other.asF64.value| ≤ epsilon.value
  · obtain ⟨above, below⟩ := abs_sub_le_iff.1 near
    refine ⟨.eq, if_neg (not_not.2 (close.2 near)), ?_, ?_⟩
    · exact iff_of_false (fun same => by cases same) (by linarith)
    · exact iff_of_false (fun same => by cases same) (by linarith)
  · have numbers : ¬ (probability.asF64.IsNaN ∨ other.asF64.IsNaN) :=
      not_or.2 ⟨Binary64.not_isNaN left.finite, Binary64.not_isNaN right.finite⟩
    refine ⟨compare probability.asF64.units other.asF64.units, ?_, ?_, ?_⟩
    · rw [if_pos (fun equal => near (close.1 equal)), Binary64.partialCmp, if_neg numbers]
    · rw [compare_lt_iff_lt, ← Binary64.value_lt_value_iff]
      exact lt_iff_add_lt tolerance (not_le.1 near)
    · rw [compare_gt_iff_gt, ← Binary64.value_lt_value_iff]
      rw [abs_sub_comm, not_le] at near
      exact lt_iff_add_lt tolerance near

/-- The probability a minimum picks: the first only if it is smaller by more than the tolerance. -/
def smaller (probability other : WinningProbability) : WinningProbability :=
  if probability.asF64.value + epsilon.value < other.asF64.value then probability else other

def larger (probability other : WinningProbability) : WinningProbability :=
  if other.asF64.value + epsilon.value < probability.asF64.value then probability else other

theorem min_eq (lawful : crate.Lawful) (probability other : WinningProbability) :
    min crate probability other = .ok (smaller probability other) := by
  obtain ⟨order, compared, less, _⟩ := approxCmp_spec lawful probability other
  rw [min, compared, ok_bind, smaller]
  simp only [less]

theorem max_eq (lawful : crate.Lawful) (probability other : WinningProbability) :
    max crate probability other = .ok (larger probability other) := by
  obtain ⟨order, compared, _, more⟩ := approxCmp_spec lawful probability other
  rw [max, compared, ok_bind, larger]
  simp only [more]

/-! ## Folds -/

section Folds

variable {α : Type} {cost : α → ℚ} {tolerance : ℚ} {pick : α → α → α}

/-- A choice between two items that costs no more than the second, and no more than the first up
to a tolerance. -/
structure ApproximateChoice (cost : α → ℚ) (tolerance : ℚ) (pick : α → α → α) : Prop where
  picked : ∀ a b, pick a b = a ∨ pick a b = b
  first : ∀ a b, cost (pick a b) ≤ cost a + tolerance
  second : ∀ a b, cost (pick a b) ≤ cost b

namespace ApproximateChoice

theorem foldl_mem (choice : ApproximateChoice cost tolerance pick) (start : α) (rest : List α) :
    rest.foldl pick start ∈ start :: rest := by
  induction rest generalizing start with
  | nil => exact List.mem_singleton_self start
  | cons next rest ih =>
      rw [List.foldl_cons]
      rcases choice.picked start next with same | same
      · rw [same]
        rcases List.mem_cons.1 (ih start) with head | tail
        · rw [head]
          exact List.mem_cons_self
        · exact List.mem_cons_of_mem _ (List.mem_cons_of_mem _ tail)
      · rw [same]
        exact List.mem_cons_of_mem _ (ih next)

/-- Every step of a fold can add the tolerance to the cost above that of an earlier item. -/
theorem foldl_cost_le (choice : ApproximateChoice cost tolerance pick) (nonneg : 0 ≤ tolerance)
    (start : α) (rest : List α) :
    ∀ item ∈ start :: rest, cost (rest.foldl pick start) ≤ cost item + rest.length * tolerance := by
  induction rest generalizing start with
  | nil =>
      intro item member
      rw [List.mem_singleton.1 member, List.length_nil, Nat.cast_zero, zero_mul, add_zero]
      exact le_refl _
  | cons next rest ih =>
      intro item member
      have picked := ih (pick start next) (pick start next) List.mem_cons_self
      have first := choice.first start next
      have second := choice.second start next
      rw [List.foldl_cons, List.length_cons, Nat.cast_succ, add_mul, one_mul]
      rcases List.mem_cons.1 member with rfl | member
      · linarith
      rcases List.mem_cons.1 member with rfl | member
      · linarith
      · have later := ih (pick start next) item (List.mem_cons_of_mem _ member)
        linarith

/-- With the next item as the first operand, a fold never costs more than what it kept so far, so
that the tolerance is only added once. -/
theorem foldl_swap_cost_le (choice : ApproximateChoice cost tolerance pick) (start : α)
    (rest : List α) :
    cost (rest.foldl (fun kept next => pick next kept) start) ≤ cost start ∧
      ∀ item ∈ rest,
        cost (rest.foldl (fun kept next => pick next kept) start) ≤ cost item + tolerance := by
  induction rest generalizing start with
  | nil =>
      refine ⟨le_refl _, ?_⟩
      intro item member
      cases member
  | cons next rest ih =>
      obtain ⟨kept, later⟩ := ih (pick next start)
      rw [List.foldl_cons]
      refine ⟨kept.trans (choice.second next start), ?_⟩
      intro item member
      rcases List.mem_cons.1 member with rfl | member
      · exact kept.trans (choice.first item start)
      · exact later item member

end ApproximateChoice

end Folds

theorem smaller_choice :
    ApproximateChoice (fun item : WinningProbability => item.asF64.value) epsilon.value
      smaller where
  picked a b := by
    rw [smaller]
    exact ite_eq_or_eq _ _ _
  first a b := by
    have tolerance := epsilon_pos
    rw [smaller]
    split <;> linarith
  second a b := by
    have tolerance := epsilon_pos
    rw [smaller]
    split <;> linarith

theorem larger_choice :
    ApproximateChoice (fun item : WinningProbability => -item.asF64.value) epsilon.value
      larger where
  picked a b := by
    rw [larger]
    exact ite_eq_or_eq _ _ _
  first a b := by
    have tolerance := epsilon_pos
    rw [larger]
    split <;> linarith
  second a b := by
    have tolerance := epsilon_pos
    rw [larger]
    split <;> linarith

def MinFoldsWithin (crate : FloatCmpCrate) (bound : ℚ) (first : WinningProbability)
    (rest : List WinningProbability) : Prop :=
  ∃ least, rest.foldlM (min crate) first = .ok least ∧ least ∈ first :: rest ∧
    ∀ smallest ∈ first :: rest,
      (∀ member ∈ first :: rest, smallest.asF64.value ≤ member.asF64.value) →
        |least.asF64.value - smallest.asF64.value| ≤ bound

def MaxFoldsWithin (crate : FloatCmpCrate) (bound : ℚ) (first : WinningProbability)
    (rest : List WinningProbability) : Prop :=
  ∃ greatest, rest.foldlM (max crate) first = .ok greatest ∧ greatest ∈ first :: rest ∧
    ∀ largest ∈ first :: rest,
      (∀ member ∈ first :: rest, member.asF64.value ≤ largest.asF64.value) →
        |greatest.asF64.value - largest.asF64.value| ≤ bound

/-- A fold over a list is within one tolerance for each of its steps. -/
theorem folds_within (lawful : crate.Lawful) (first : WinningProbability)
    (rest : List WinningProbability) :
    MinFoldsWithin crate (rest.length * epsilon.value) first rest ∧
      MaxFoldsWithin crate (rest.length * epsilon.value) first rest := by
  have minFold : rest.foldlM (min crate) first = .ok (rest.foldl smaller first) := by
    rw [funext fun probability => funext (min_eq lawful probability)]
    exact List.foldlM_pure
  have maxFold : rest.foldlM (max crate) first = .ok (rest.foldl larger first) := by
    rw [funext fun probability => funext (max_eq lawful probability)]
    exact List.foldlM_pure
  constructor
  · have member := smaller_choice.foldl_mem first rest
    refine ⟨_, minFold, member, fun smallest inside least => ?_⟩
    have above := least _ member
    have close := smaller_choice.foldl_cost_le epsilon_pos.le first rest smallest inside
    rw [abs_of_nonneg (sub_nonneg.2 above)]
    linarith
  · have member := larger_choice.foldl_mem first rest
    refine ⟨_, maxFold, member, fun largest inside most => ?_⟩
    have below := most _ member
    have close := larger_choice.foldl_cost_le epsilon_pos.le first rest largest inside
    rw [abs_of_nonpos (sub_nonpos.2 below)]
    linarith

/-- A fold that takes the minimum of every probability with what it kept so far, in this order,
is within one tolerance of every member, however long the list is. -/
theorem swapped_fold_within (lawful : crate.Lawful) (first : WinningProbability)
    (rest : List WinningProbability) :
    ∃ least, rest.foldlM (fun kept next => min crate next kept) first = .ok least ∧
      ∀ member ∈ first :: rest, least.asF64.value ≤ member.asF64.value + epsilon.value := by
  have fold : rest.foldlM (fun kept next => min crate next kept) first =
      .ok (rest.foldl (fun kept next => smaller next kept) first) := by
    rw [funext fun kept => funext fun next => min_eq lawful next kept]
    exact List.foldlM_pure
  obtain ⟨kept, later⟩ := smaller_choice.foldl_swap_cost_le first rest
  have tolerance := epsilon_pos
  refine ⟨_, fold, fun member inside => ?_⟩
  rcases List.mem_cons.1 inside with rfl | inside
  · linarith
  · exact later member inside

/-- The encoding of `40000000 / 2^52`, which is less than the tolerance. -/
def slight : WinningProbability := ⟨[0, 0, 0, 0x26, 0x25, 0x9f, 0xff], rfl⟩

/-- The encoding of `80000000 / 2^52`, which is more than the tolerance. -/
def slightTwice : WinningProbability := ⟨[0, 0, 0, 0x4c, 0x4b, 0x3f, 0xff], rfl⟩

theorem fold_of_three_within :
    MinFoldsWithin floatCmp ((2 : ℕ) * epsilon.value) never [slight, slightTwice] ∧
      MaxFoldsWithin floatCmp ((2 : ℕ) * epsilon.value) slightTwice [slight, never] :=
  ⟨(folds_within floatCmp_lawful never [slight, slightTwice]).1,
    (folds_within floatCmp_lawful slightTwice [slight, never]).2⟩

/-- Each of three probabilities is approximately equal to the next, so that the folds end at the
last one, which is further than the tolerance from the first. -/
theorem folds_drift : ¬ MinFoldsWithin floatCmp epsilon.value never [slight, slightTwice] ∧
    ¬ MaxFoldsWithin floatCmp epsilon.value slightTwice [slight, never] := by
  constructor
  · intro within
    obtain ⟨least, folded, _, close⟩ := within
    have last : [slight, slightTwice].foldlM (min floatCmp) never = .ok slightTwice := by
      decide +kernel
    rw [last, Except.ok.injEq] at folded
    subst folded
    have drifted := close never List.mem_cons_self (by decide +kernel)
    revert drifted
    decide +kernel
  · intro within
    obtain ⟨greatest, folded, _, close⟩ := within
    have last : [slight, never].foldlM (max floatCmp) slightTwice = .ok never := by
      decide +kernel
    rw [last, Except.ok.injEq] at folded
    subst folded
    have drifted := close slightTwice List.mem_cons_self (by decide +kernel)
    revert drifted
    decide +kernel

end WinningProbability

end HoprTypes.Internal
