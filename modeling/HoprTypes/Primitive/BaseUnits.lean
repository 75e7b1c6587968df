import HoprTypes.Primitive.BalanceParsing

/-!
# Balances from base units

A balance made of a number of base units is the balance that the parser reads from the number
and the name of the currency.  The multiplication by the scale panics where the parser refuses
the number.
-/

set_option autoImplicit false

namespace HoprTypes.Primitive

open BigEndian Decimal

variable {ε : Type}

namespace U256

/-- A power of ten, built by multiplications. -/
def exp10 : Nat → Outcome ε U256
  | 0 => .ok 1
  | n + 1 => do
      let power ← exp10 n
      mul power 10

theorem mul_of_fits {left right : U256} {product : Nat}
    (exactly : left.toNat * right.toNat = product) (fits : product < 2 ^ 256) :
    (mul left right : Outcome ε U256) = .ok (BitVec.ofNat 256 product) := by
  subst exactly
  unfold mul
  rw [if_pos fits, Except.ok.injEq, BitVec.ofNat_mul]
  simp

theorem exp10_of_fits {n : Nat} (fits : 10 ^ n < 2 ^ 256) :
    (exp10 n : Outcome ε U256) = .ok (BitVec.ofNat 256 (10 ^ n)) := by
  induction n with
  | zero => rfl
  | succ n ih =>
      have smaller : 10 ^ n < 2 ^ 256 :=
        Nat.lt_of_le_of_lt (Nat.pow_le_pow_right (by decide) (Nat.le_succ n)) fits
      rw [exp10, ih smaller, ok_bind]
      apply mul_of_fits _ fits
      rw [BitVec.toNat_ofNat, Nat.mod_eq_of_lt smaller, Nat.pow_succ]
      rfl

end U256

namespace Balance

variable {currency : Currency}

def newBase (value : U256) : Outcome ε (Balance currency) := do
  let scale ← U256.exp10 currency.scale
  let amount ← U256.mul value scale
  .ok ⟨amount⟩

/-- The largest balance, at which the arithmetic saturates. -/
def max : Balance currency := ⟨BitVec.allOnes 256⟩

def baseText (currency : Currency) (value : U256) : String :=
  String.ofList (Nat.toDigits 10 value.toNat ++ ' ' :: currency.name.toList)

theorem newBase_of_fits (scale : currency.scale = 18) {value : U256}
    (fits : value.toNat * 10 ^ 18 < 2 ^ 256) :
    (newBase value : Outcome ε (Balance currency)) =
      .ok ⟨BitVec.ofNat 256 (value.toNat * 10 ^ 18)⟩ := by
  have power : (BitVec.ofNat 256 (10 ^ 18)).toNat = 10 ^ 18 := by decide +kernel
  unfold newBase
  rw [scale, U256.exp10_of_fits (by decide), ok_bind,
    U256.mul_of_fits (by rw [power]) fits]
  rfl

theorem newBase_of_overflow (scale : currency.scale = 18) {value : U256}
    (beyond : ¬ value.toNat * 10 ^ 18 < 2 ^ 256) :
    (newBase value : Outcome ε (Balance currency)) = .panicked "arithmetic operation overflow" := by
  have power : (BitVec.ofNat 256 (10 ^ 18)).toNat = 10 ^ 18 := by decide +kernel
  unfold newBase
  rw [scale, U256.exp10_of_fits (by decide), ok_bind, U256.mul, power, if_neg beyond]
  rfl

theorem baseText_written {classes : CharClasses} (lawful : classes.Lawful) (value : U256) :
    Written classes currency (Nat.toDigits 10 value.toNat) [] none
      (baseText currency value).toList where
  wholeDigits := isDigits_toDigits value.toNat
  fractionDigits := by simp [IsDigits]
  nonEmpty := Or.inl Nat.toDigits_ne_nil
  isUnit := by
    intro spelling impossible
    cases impossible
  divided := by
    have plain : decimalText (Nat.toDigits 10 value.toNat) [] = Nat.toDigits 10 value.toNat :=
      if_pos rfl
    refine ⟨Nat.toDigits 10 value.toNat, [' '], currency.name.toList, ?_, ?_, rfl, ?_⟩
    · rw [plain]
      have isNumber := numberText_decimalText (isDigits_toDigits value.toNat)
        Nat.toDigits_ne_nil (by simp [IsDigits] : IsDigits [])
      rw [plain] at isNumber
      exact isNumber.filter_blank
    · exact ⟨List.cons_ne_nil _ _, by simpa using space_blank lawful⟩
    · exact String.toList_ofList

theorem floor_baseText (value : U256) :
    ⌊writtenAmount (Nat.toDigits 10 value.toNat) [] none⌋₊ = value.toNat * 10 ^ 18 := by
  have exactly : writtenAmount (Nat.toDigits 10 value.toNat) [] none =
      (value.toNat * 10 ^ 18 : Nat) := by
    rw [writtenAmount, if_pos Option.isNone_none, valueOf, Nat.ofDigitChars_ten_toDigits,
      Nat.ofDigitChars_nil]
    push_cast
    norm_num
  rw [exactly, Nat.floor_natCast]

variable {D : Type} {crate : BigDecimalCrate D} {value : D → Rat} {classes : CharClasses}

theorem fromStr_baseText (exact : crate.Exact value) (unicode : classes.Unicode)
    (known : currency ∈ currencies) (number : U256) :
    (fromStr crate classes (baseText currency number) :
        Outcome GeneralError (Balance currency)) =
      if number.toNat * 10 ^ 18 > 2 ^ 256 - 1 then
        Outcome.fail (.parseError "balance value out of bounds")
      else .ok ⟨BitVec.ofNat 256 (number.toNat * 10 ^ 18)⟩ := by
  rw [fromStr_of_written exact unicode known (baseText_written unicode.toLawful number),
    floor_baseText]

/-- Building a balance returns what the parser reads from the number, or the largest balance
where the parser refuses the number. -/
def AgreesWithParser (crate : BigDecimalCrate D) (classes : CharClasses) (currency : Currency)
    (number : U256) : Prop :=
  ∃ balance : Balance currency, (newBase number : Outcome GeneralError _) = .ok balance ∧
    (∀ read : Balance currency,
      fromStr crate classes (baseText currency number) = .ok read → balance = read) ∧
    (¬ (fromStr crate classes (baseText currency number) :
        Outcome GeneralError (Balance currency)).IsOk → balance = max)

theorem agreesWithParser_of_fits (exact : crate.Exact value) (unicode : classes.Unicode)
    (known : currency ∈ currencies) {number : U256}
    (fits : number.toNat * 10 ^ 18 ≤ 2 ^ 256 - 1) :
    AgreesWithParser crate classes currency number := by
  refine ⟨_, newBase_of_fits (plainName_lower_of_mem known).2 (by omega), ?_⟩
  rw [fromStr_baseText exact unicode known, if_neg (by omega)]
  constructor
  · intro read same
    exact Except.ok.inj same
  · intro refused
    exact absurd ⟨_, rfl⟩ refused

theorem not_agreesWithParser_of_overflow (known : currency ∈ currencies) {number : U256}
    (beyond : ¬ number.toNat * 10 ^ 18 ≤ 2 ^ 256 - 1) :
    ¬ AgreesWithParser crate classes currency number := by
  rintro ⟨balance, built, _⟩
  rw [newBase_of_overflow (plainName_lower_of_mem known).2 (by omega)] at built
  cases built

/-- The constructor agrees with the parser and returns exactly where the product with the scale
fits into 256 bits. -/
theorem newBase_agrees_iff (crate : BigDecimalCrate D) (value : D → Rat)
    (exact : crate.Exact value) (classes : CharClasses) (unicode : classes.Unicode)
    (currency : Currency) (known : currency ∈ currencies) (number : U256) :
    AgreesWithParser crate classes currency number ↔
      number.toNat * 10 ^ 18 ≤ 2 ^ 256 - 1 := by
  constructor
  · intro agrees
    by_contra beyond
    exact not_agreesWithParser_of_overflow known beyond agrees
  · exact agreesWithParser_of_fits exact unicode known

theorem newBase_agrees_iff_five :
    AgreesWithParser exactIntegers asciiClasses WxHOPR 5 ↔
      (5 : U256).toNat * 10 ^ 18 ≤ 2 ^ 256 - 1 :=
  newBase_agrees_iff exactIntegers scaledValue exactIntegers_exact asciiClasses
    asciiClasses_unicode WxHOPR (by simp [currencies]) 5

/-- The largest number of base units makes the constructor panic, although its text is refused
with an error. -/
theorem newBase_panics_max :
    (newBase (BitVec.allOnes 256) : Outcome GeneralError HoprBalance) =
        .panicked "arithmetic operation overflow" ∧
      ¬ AgreesWithParser exactIntegers asciiClasses WxHOPR (BitVec.allOnes 256) := by
  have beyond : ¬ (BitVec.allOnes 256 : U256).toNat * 10 ^ 18 ≤ 2 ^ 256 - 1 := by decide +kernel
  exact ⟨newBase_of_overflow rfl (by omega),
    not_agreesWithParser_of_overflow (by simp [currencies]) beyond⟩

end Balance

end HoprTypes.Primitive
