import HoprTypes.Lib.Decimal
import HoprTypes.Lib.Regex
import HoprTypes.Primitive.Primitives

/-!
# Balances as text

A balance is printed in base units without trailing zeros, or in wei.  Parsing divides the
text by a regular expression, and scales the number unless the unit is wei.
-/

set_option autoImplicit false

namespace HoprTypes.Primitive

open BigEndian Decimal

/-! ## The regex and decimal crates -/

/-- The Unicode classes `\d` and `\s` of the `regex` crate. -/
structure CharClasses where
  digit : Char → Bool
  space : Char → Bool

/-- The ASCII characters of the classes. -/
structure CharClasses.Lawful (classes : CharClasses) : Prop where
  digit_ascii : ∀ c : Char, c.toNat < 128 → classes.digit c = c.isDigit
  space_ascii : ∀ c : Char, c.toNat < 128 →
    classes.space c = decide (9 ≤ c.toNat ∧ c.toNat ≤ 13 ∨ c.toNat = 32)

/-- The `bigdecimal` crate over its numbers. -/
structure BigDecimalCrate (D : Type) where
  fromBiguint : Nat → Nat → D
  toPlainString : D → List Char
  fractionalDigitCount : D → Int
  fromStr : List Char → Option D
  mulBigInt : D → Int → D
  toBigint : D → Option Int

/-- Exact values: of a scaled integer and its plain text, of a parsed text, of a product and
of the conversion of a whole number. -/
structure BigDecimalCrate.Lawful {D : Type} (crate : BigDecimalCrate D) (value : D → Rat) :
    Prop where
  plain : ∀ digits scale, 0 < scale →
    crate.toPlainString (crate.fromBiguint digits scale) = plainText digits scale
  count : ∀ digits scale, crate.fractionalDigitCount (crate.fromBiguint digits scale) = scale
  parses : ∀ whole fraction, IsDigits whole → whole ≠ [] → IsDigits fraction →
    ∃ parsed, crate.fromStr (decimalText whole fraction) = some parsed ∧
      value parsed = valueOf whole fraction
  mul : ∀ number factor, value (crate.mulBigInt number factor) = value number * factor
  whole : ∀ number (integer : Int), value number = integer → crate.toBigint number = some integer

/-! ## Printing and parsing -/

def currencies : List Currency := [WxHOPR, XHOPR, XDai]

/-- The comparison of a currency name, which ignores the case of ASCII letters. -/
def Currency.nameMatches (currency : Currency) (s : List Char) : Except GeneralError Unit :=
  if s.map Char.toLower = currency.name.toList.map Char.toLower then .ok ()
  else .error (.parseError "invalid currency name")

def weiPrefix : List Char := ['w', 'e', 'i']

/-- `^([\d\s.]*\d)\s+(wei[_\s]?)?([A-Za-z]+)$` -/
def balanceRegex (classes : CharClasses) : Regex :=
  .seq (.group 1 (.seq (.many fun c => classes.digit c || classes.space c || c == '.')
    (.one classes.digit)))
  (.seq (Regex.atLeastOne classes.space)
  (.seq (.optional (.group 2 (.seq (.literal weiPrefix)
    (.optional (.one fun c => c == '_' || classes.space c)))))
  (.group 3 (Regex.atLeastOne Char.isAlpha))))

def toBiguint (value : Int) : Option Nat := if 0 ≤ value then some value.toNat else none

namespace Balance

variable {currency : Currency} {D : Type} (crate : BigDecimalCrate D)

def amountInBaseUnits (balance : Balance currency) : List Char :=
  let dec := crate.fromBiguint balance.amount.toNat currency.scale
  let str := crate.toPlainString dec
  -- Trim excess zeroes if any
  if 0 < crate.fractionalDigitCount dec then trimEnd '.' (trimEnd '0' str) else str

def display (balance : Balance currency) : String :=
  String.ofList (amountInBaseUnits crate balance ++ ' ' :: currency.name.toList)

def formatInWei (balance : Balance currency) : String :=
  String.ofList (Nat.toDigits 10 balance.amount.toNat ++
    ' ' :: (weiPrefix ++ ' ' :: currency.name.toList))

def fromStr (classes : CharClasses) (s : String) : Outcome GeneralError (Balance currency) := do
  let captures ← Outcome.lift (okOr (.parseError "cannot parse balance")
    ((balanceRegex classes).captures s.toList))
  -- Groups 1 and 3 take part in every match.
  Outcome.lift (currency.nameMatches ((captures.get 3).getD []))
  let value ← Outcome.lift (okOr (.parseError "invalid balance value")
    (crate.fromStr (((captures.get 1).getD []).filter (· != ' '))))
  -- If the value is not given in wei, it must be multiplied by the scale
  let value := if (captures.get 2).isNone then crate.mulBigInt value (10 ^ currency.scale)
    else value
  let biguintVal ← Outcome.expect "conversion to big unsigned integer never fails"
    (okOr () (crate.toBigint value >>= toBiguint))
  if biguintVal > 2 ^ 256 - 1 then
    Outcome.fail (.parseError "balance value out of bounds")
  else .ok ⟨BitVec.ofNat 256 biguintVal⟩

end Balance

/-! ## Characters -/

theorem isDigit_bounds {c : Char} (digit : c.isDigit = true) : 48 ≤ c.toNat ∧ c.toNat ≤ 57 := by
  simp only [Char.isDigit, Bool.and_eq_true, decide_eq_true_eq, ge_iff_le,
    UInt32.le_iff_toNat_le] at digit
  exact digit

theorem isAlpha_bounds {c : Char} (alpha : c.isAlpha = true) :
    (65 ≤ c.toNat ∧ c.toNat ≤ 90) ∨ (97 ≤ c.toNat ∧ c.toNat ≤ 122) := by
  simp only [Char.isAlpha, Char.isUpper, Char.isLower, Bool.or_eq_true, Bool.and_eq_true,
    decide_eq_true_eq, ge_iff_le, UInt32.le_iff_toNat_le] at alpha
  exact alpha

section Classes

variable {classes : CharClasses} (lawful : classes.Lawful)

include lawful

theorem digit_of_isDigit {c : Char} (digit : c.isDigit = true) :
    classes.digit c = true ∧ classes.space c = false := by
  have bounds := isDigit_bounds digit
  rw [lawful.digit_ascii c (by omega), lawful.space_ascii c (by omega)]
  exact ⟨digit, decide_eq_false (by omega)⟩

theorem alpha_of_isAlpha {c : Char} (alpha : c.isAlpha = true) :
    classes.digit c = false ∧ classes.space c = false ∧ c ≠ '.' := by
  have bounds := isAlpha_bounds alpha
  rw [lawful.digit_ascii c (by omega), lawful.space_ascii c (by omega)]
  refine ⟨?_, decide_eq_false (by omega), ?_⟩
  · rw [Bool.eq_false_iff]
    intro digit
    have digitBounds := isDigit_bounds digit
    omega
  · rintro rfl
    exact absurd bounds (by decide)

end Classes

/-! ## The only division of a printed balance -/

variable {classes : CharClasses}

def AmountPart (classes : CharClasses) (text : List Char) : Prop :=
  ∃ front last, text = front ++ [last] ∧ classes.digit last = true ∧
    ∀ c ∈ front, (classes.digit c || classes.space c || c == '.') = true

theorem AmountPart.accepts {text : List Char} (isAmount : AmountPart classes text) :
    ∀ c ∈ text, (classes.digit c || classes.space c || c == '.') = true := by
  obtain ⟨front, last, rfl, digit, inFront⟩ := isAmount
  intro c member
  rcases List.mem_append.mp member with earlier | final
  · exact inFront c earlier
  · rw [List.mem_singleton.mp final, digit]
    rfl

def UnitPart (classes : CharClasses) (text : List Char) : Prop :=
  text = weiPrefix ∨ ∃ c, (c == '_' || classes.space c) = true ∧ text = weiPrefix ++ [c]

def LettersPart (text : List Char) : Prop := text ≠ [] ∧ ∀ c ∈ text, c.isAlpha = true

def amountGroup (classes : CharClasses) : Regex :=
  .group 1 (.seq (.many fun c => classes.digit c || classes.space c || c == '.')
    (.one classes.digit))

def unitGroup (classes : CharClasses) : Regex :=
  .group 2 (.seq (.literal weiPrefix) (.optional (.one fun c => c == '_' || classes.space c)))

def lettersGroup : Regex := .group 3 (Regex.atLeastOne Char.isAlpha)

theorem balanceRegex_eq (classes : CharClasses) :
    balanceRegex classes = .seq (amountGroup classes) (.seq (Regex.atLeastOne classes.space)
      (.seq (.optional (unitGroup classes)) lettersGroup)) := rfl

theorem denotes_amountGroup {text : List Char} {groups : List (Nat × List Char)} :
    Regex.Denotes (amountGroup classes) text groups ↔
      AmountPart classes text ∧ groups = [(1, text)] := by
  simp only [amountGroup, Regex.denotes_group, Regex.denotes_seq, Regex.denotes_many,
    Regex.denotes_one]
  constructor
  · rintro ⟨_, ⟨front, _, _, _, ⟨inFront, rfl⟩, ⟨last, rfl, digit, rfl⟩, rfl, rfl⟩, rfl⟩
    exact ⟨⟨front, last, rfl, digit, inFront⟩, rfl⟩
  · rintro ⟨⟨front, last, rfl, digit, inFront⟩, rfl⟩
    exact ⟨[], ⟨front, [last], [], [], ⟨inFront, rfl⟩, ⟨last, rfl, digit, rfl⟩, rfl, rfl⟩, rfl⟩

theorem denotes_unitGroup {text : List Char} {groups : List (Nat × List Char)} :
    Regex.Denotes (unitGroup classes) text groups ↔
      UnitPart classes text ∧ groups = [(2, text)] := by
  simp only [unitGroup, Regex.denotes_group, Regex.denotes_seq, Regex.denotes_literal,
    Regex.denotes_optional, Regex.denotes_one]
  constructor
  · rintro ⟨_, ⟨_, separator, _, _, ⟨rfl, rfl⟩, isSeparator, rfl, rfl⟩, rfl⟩
    rcases isSeparator with ⟨c, rfl, accepted, rfl⟩ | ⟨rfl, rfl⟩
    · exact ⟨Or.inr ⟨c, accepted, rfl⟩, rfl⟩
    · exact ⟨Or.inl (List.append_nil _), rfl⟩
  · rintro ⟨rfl | ⟨c, accepted, rfl⟩, rfl⟩
    · exact ⟨[], ⟨weiPrefix, [], [], [], ⟨rfl, rfl⟩, Or.inr ⟨rfl, rfl⟩,
        (List.append_nil _).symm, rfl⟩, rfl⟩
    · exact ⟨[], ⟨weiPrefix, [c], [], [], ⟨rfl, rfl⟩, Or.inl ⟨c, rfl, accepted, rfl⟩, rfl, rfl⟩,
        rfl⟩

theorem denotes_lettersGroup {text : List Char} {groups : List (Nat × List Char)} :
    Regex.Denotes lettersGroup text groups ↔ LettersPart text ∧ groups = [(3, text)] := by
  simp only [lettersGroup, Regex.denotes_group, Regex.denotes_atLeastOne]
  constructor
  · rintro ⟨_, ⟨isLetters, rfl⟩, rfl⟩
    exact ⟨isLetters, rfl⟩
  · rintro ⟨isLetters, rfl⟩
    exact ⟨[], ⟨isLetters, rfl⟩, rfl⟩

theorem denotes_unitLetters {text : List Char} {groups : List (Nat × List Char)} :
    Regex.Denotes (.seq (unitGroup classes) lettersGroup) text groups ↔
      ∃ unit letters, UnitPart classes unit ∧ LettersPart letters ∧ text = unit ++ letters ∧
        groups = [(2, unit), (3, letters)] := by
  simp only [Regex.denotes_seq, denotes_unitGroup, denotes_lettersGroup]
  constructor
  · rintro ⟨unit, letters, _, _, ⟨isUnit, rfl⟩, ⟨isLetters, rfl⟩, rfl, rfl⟩
    exact ⟨unit, letters, isUnit, isLetters, rfl, rfl⟩
  · rintro ⟨unit, letters, isUnit, isLetters, rfl, rfl⟩
    exact ⟨unit, letters, _, _, ⟨isUnit, rfl⟩, ⟨isLetters, rfl⟩, rfl, rfl⟩

theorem denotes_balanceRegex {text : List Char} {groups : List (Nat × List Char)} :
    Regex.Denotes (balanceRegex classes) text groups ↔
      ∃ amount spaces letters, AmountPart classes amount ∧
        (spaces ≠ [] ∧ ∀ c ∈ spaces, classes.space c = true) ∧
        (letters ≠ [] ∧ ∀ c ∈ letters, c.isAlpha = true) ∧
        ((text = amount ++ (spaces ++ letters) ∧ groups = [(1, amount), (3, letters)]) ∨
          ∃ unit, UnitPart classes unit ∧ text = amount ++ (spaces ++ (unit ++ letters)) ∧
            groups = [(1, amount), (2, unit), (3, letters)]) := by
  rw [balanceRegex_eq]
  simp only [Regex.denotes_seq, Regex.denotes_optional, denotes_amountGroup, denotes_unitGroup,
    denotes_lettersGroup, Regex.denotes_atLeastOne]
  constructor
  · rintro ⟨amount, _, _, _, ⟨isAmount, rfl⟩, ⟨spaces, _, _, _, ⟨isSpaces, rfl⟩, ⟨unit, letters,
      _, _, isUnit, ⟨isLetters, rfl⟩, rfl, rfl⟩, rfl, rfl⟩, rfl, rfl⟩
    refine ⟨amount, spaces, letters, isAmount, isSpaces, isLetters, ?_⟩
    rcases isUnit with ⟨isUnit, rfl⟩ | ⟨rfl, rfl⟩
    · exact Or.inr ⟨unit, isUnit, rfl, rfl⟩
    · exact Or.inl ⟨rfl, rfl⟩
  · rintro ⟨amount, spaces, letters, isAmount, isSpaces, isLetters,
      ⟨rfl, rfl⟩ | ⟨unit, isUnit, rfl, rfl⟩⟩
    · exact ⟨amount, _, _, _, ⟨isAmount, rfl⟩, ⟨spaces, _, _, _, ⟨isSpaces, rfl⟩,
        ⟨[], letters, [], _, Or.inr ⟨rfl, rfl⟩, ⟨isLetters, rfl⟩, rfl, rfl⟩, rfl, rfl⟩, rfl, rfl⟩
    · exact ⟨amount, _, _, _, ⟨isAmount, rfl⟩, ⟨spaces, _, _, _, ⟨isSpaces, rfl⟩,
        ⟨unit, letters, _, _, Or.inl ⟨isUnit, rfl⟩, ⟨isLetters, rfl⟩, rfl, rfl⟩, rfl, rfl⟩,
        rfl, rfl⟩

section Division

variable (lawful : classes.Lawful)

include lawful

theorem division_unique {number amount spaces rest tail : List Char} {first : Char}
    (noSpace : ∀ c ∈ number, classes.space c = false) (isAmount : AmountPart classes amount)
    (isSpaces : spaces ≠ [] ∧ ∀ c ∈ spaces, classes.space c = true) (letter : first.isAlpha = true)
    (same : amount ++ (spaces ++ rest) = number ++ ' ' :: first :: tail) :
    amount = number ∧ rest = first :: tail := by
  obtain ⟨noDigit, noSpaceFirst, noPoint⟩ := alpha_of_isAlpha lawful letter
  obtain ⟨nonEmpty, allSpaces⟩ := isSpaces
  have amounts : amount = number := by
    rcases List.append_eq_append_iff.mp same with ⟨missing, rfl, behind⟩ | ⟨extra, rfl, behind⟩
    · cases missing with
      | nil => exact (List.append_nil _).symm
      | cons c missing =>
          cases spaces with
          | nil => exact absurd rfl nonEmpty
          | cons space spaces =>
              obtain ⟨rfl, _⟩ := List.cons.inj behind
              have isSpace := allSpaces space (by simp)
              rw [noSpace space (by simp)] at isSpace
              cases isSpace
    · cases extra with
      | nil => exact List.append_nil _
      | cons c extra =>
          obtain ⟨rfl, beyond⟩ := List.cons.inj behind
          cases extra with
          | nil =>
              obtain ⟨front, last, split, digit, _⟩ := isAmount
              obtain ⟨_, rfl⟩ := List.append_singleton_inj.mp split
              rw [lawful.digit_ascii ' ' (by decide)] at digit
              cases digit
          | cons c extra =>
              obtain ⟨rfl, _⟩ := List.cons.inj beyond
              have accepted := isAmount.accepts first (by simp)
              rw [noDigit, noSpaceFirst] at accepted
              exact absurd (eq_of_beq accepted) noPoint
  subst amounts
  have behind := List.append_cancel_left same
  cases spaces with
  | nil => exact absurd rfl nonEmpty
  | cons space spaces =>
      obtain ⟨_, behind⟩ := List.cons.inj behind
      cases spaces with
      | nil => exact ⟨rfl, behind⟩
      | cons second spaces =>
          obtain ⟨rfl, _⟩ := List.cons.inj behind
          have isSpace := allSpaces second (by simp)
          rw [noSpaceFirst] at isSpace
          cases isSpace

/-- The characters of a unit-less currency name: letters that do not start with `wei`. -/
def PlainName (name : List Char) : Prop :=
  name ≠ [] ∧ (∀ c ∈ name, c.isAlpha = true) ∧ ¬ weiPrefix <+: name

def NumberText (text : List Char) : Prop :=
  (∃ front last, text = front ++ [last] ∧ last.isDigit = true) ∧
    ∀ c ∈ text, c.isDigit = true ∨ c = '.'

theorem NumberText.amountPart {number : List Char} (isNumber : NumberText number) :
    AmountPart classes number := by
  obtain ⟨⟨front, last, rfl, digit⟩, all⟩ := isNumber
  refine ⟨front, last, rfl, (digit_of_isDigit lawful digit).1, ?_⟩
  intro c member
  rcases all c (List.mem_append_left _ member) with digit | rfl
  · rw [(digit_of_isDigit lawful digit).1]
    rfl
  · simp

theorem NumberText.noSpace {number : List Char} (isNumber : NumberText number) :
    ∀ c ∈ number, classes.space c = false := by
  intro c member
  rcases isNumber.2 c member with digit | rfl
  · exact (digit_of_isDigit lawful digit).2
  · rw [lawful.space_ascii '.' (by decide)]
    decide

theorem space_blank : classes.space ' ' = true := by
  rw [lawful.space_ascii ' ' (by decide)]
  decide

theorem captures_display {number name : List Char} (isNumber : NumberText number)
    (isName : PlainName name) :
    (balanceRegex classes).captures (number ++ ' ' :: name) =
      some ⟨number ++ ' ' :: name, [], [(1, number), (3, name)]⟩ := by
  obtain ⟨nonEmpty, letters, noPrefix⟩ := isName
  have blank := space_blank lawful
  apply Regex.captures_eq
  · apply denotes_balanceRegex.mpr
    refine ⟨number, [' '], name, isNumber.amountPart lawful, ?_, ⟨nonEmpty, letters⟩,
      Or.inl ⟨rfl, rfl⟩⟩
    exact ⟨by simp, by simpa using blank⟩
  · intro others denoted
    obtain ⟨amount, spaces, word, isAmount, isSpaces, isWord, divided⟩ :=
      denotes_balanceRegex.mp denoted
    cases name with
    | nil => exact absurd rfl nonEmpty
    | cons first tail =>
        have letter := letters first (by simp)
        have noSpace := isNumber.noSpace lawful
        rcases divided with ⟨split, rfl⟩ | ⟨unit, isUnit, split, rfl⟩
        · obtain ⟨rfl, rfl⟩ :=
            division_unique lawful noSpace isAmount isSpaces letter split.symm
          rfl
        · obtain ⟨_, rest⟩ := division_unique lawful noSpace isAmount isSpaces letter split.symm
          exfalso
          apply noPrefix
          rw [← rest]
          rcases isUnit with rfl | ⟨c, _, rfl⟩
          · exact List.prefix_append _ _
          · rw [List.append_assoc]
            exact List.prefix_append _ _

theorem captures_formatInWei {number name : List Char} (isNumber : NumberText number)
    (isName : PlainName name) :
    (balanceRegex classes).captures (number ++ ' ' :: (weiPrefix ++ ' ' :: name)) =
      some ⟨number ++ ' ' :: (weiPrefix ++ ' ' :: name), [],
        [(1, number), (2, weiPrefix ++ [' ']), (3, name)]⟩ := by
  obtain ⟨nonEmpty, letters, _⟩ := isName
  have blank := space_blank lawful
  have unitLetters : weiPrefix = 'w' :: ['e', 'i'] := by decide
  apply Regex.captures_eq
  · apply denotes_balanceRegex.mpr
    refine ⟨number, [' '], name, isNumber.amountPart lawful, ?_, ⟨nonEmpty, letters⟩,
      Or.inr ⟨weiPrefix ++ [' '], Or.inr ⟨' ', by simp [blank], rfl⟩, ?_, rfl⟩⟩
    · exact ⟨by simp, by simpa using blank⟩
    · simp
  · intro others denoted
    obtain ⟨amount, spaces, word, isAmount, isSpaces, ⟨_, isWord⟩, divided⟩ :=
      denotes_balanceRegex.mp denoted
    have noSpace := isNumber.noSpace lawful
    have noLetter : ¬ ' '.isAlpha = true := by decide
    rw [unitLetters] at divided
    rcases divided with ⟨split, rfl⟩ | ⟨unit, isUnit, split, rfl⟩
    · obtain ⟨_, rest⟩ :=
        division_unique lawful noSpace isAmount isSpaces (by decide) split.symm
      exact absurd (isWord ' ' (by simp [rest])) noLetter
    · obtain ⟨rfl, rest⟩ :=
        division_unique lawful noSpace isAmount isSpaces (by decide) split.symm
      have unitSplit : unit ++ word = weiPrefix ++ ' ' :: name := by
        rw [rest, unitLetters]
        rfl
      rcases isUnit with rfl | ⟨c, _, rfl⟩
      · have afterUnit := List.append_cancel_left unitSplit
        exact absurd (isWord ' ' (by simp [afterUnit])) noLetter
      · rw [List.append_assoc] at unitSplit
        obtain ⟨rfl, rfl⟩ := List.cons.inj (List.append_cancel_left unitSplit)
        rfl

end Division

/-! ## Values -/

theorem numberText_decimalText {whole fraction : List Char} (wholeDigits : IsDigits whole)
    (nonEmpty : whole ≠ []) (fractionDigits : IsDigits fraction) :
    NumberText (decimalText whole fraction) := by
  have endsInDigit : ∀ text : List Char, text ≠ [] → IsDigits text →
      ∃ front last, text = front ++ [last] ∧ last.isDigit = true := by
    intro text filled digits
    refine ⟨text.dropLast, text.getLast filled, (List.dropLast_concat_getLast filled).symm, ?_⟩
    exact digits _ (List.getLast_mem filled)
  unfold decimalText
  split_ifs with empty
  · exact ⟨endsInDigit whole nonEmpty wholeDigits, fun c member => Or.inl (wholeDigits c member)⟩
  · obtain ⟨front, last, split, digit⟩ := endsInDigit fraction empty fractionDigits
    refine ⟨⟨whole ++ '.' :: front, last, by simp [split], digit⟩, ?_⟩
    intro c member
    rcases List.mem_append.mp member with inWhole | behind
    · exact Or.inl (wholeDigits c inWhole)
    · rcases List.mem_cons.mp behind with point | inFraction
      · exact Or.inr point
      · exact Or.inl (fractionDigits c inFraction)

theorem NumberText.filter_blank {number : List Char} (isNumber : NumberText number) :
    number.filter (· != ' ') = number := by
  rw [List.filter_eq_self]
  intro c member
  rw [bne_iff_ne]
  rintro rfl
  rcases isNumber.2 ' ' member with digit | point
  · exact absurd digit (by decide)
  · exact absurd point (by decide)

theorem plainName_of_spelled {name letters : List Char} (spelled : name = letters)
    (checked : (!letters.isEmpty && letters.all Char.isAlpha && !weiPrefix.isPrefixOf letters) =
      true) : PlainName name := by
  subst spelled
  simp only [Bool.and_eq_true, Bool.not_eq_true', List.isEmpty_eq_false_iff, List.all_eq_true]
    at checked
  obtain ⟨⟨nonEmpty, letters⟩, noPrefix⟩ := checked
  refine ⟨nonEmpty, letters, ?_⟩
  rw [← List.isPrefixOf_iff_prefix, noPrefix]
  decide

theorem plainName_of_mem {currency : Currency} (known : currency ∈ currencies) :
    PlainName currency.name.toList ∧ 0 < currency.scale := by
  simp only [currencies, List.mem_cons, List.not_mem_nil, or_false] at known
  have spelledWx : WxHOPR.name.toList = ['w', 'x', 'H', 'O', 'P', 'R'] := rfl
  have spelledX : XHOPR.name.toList = ['x', 'H', 'O', 'P', 'R'] := rfl
  have spelledDai : XDai.name.toList = ['x', 'D', 'a', 'i'] := rfl
  rcases known with rfl | rfl | rfl
  · exact ⟨plainName_of_spelled spelledWx (by decide), by decide⟩
  · exact ⟨plainName_of_spelled spelledX (by decide), by decide⟩
  · exact ⟨plainName_of_spelled spelledDai (by decide), by decide⟩

namespace Balance

variable {currency : Currency} {D : Type} {crate : BigDecimalCrate D} {value : D → Rat}

theorem fromStr_of_captures (lawful : crate.Lawful value) {s : String} {found : Regex.Match}
    {number : List Char} {unit : Option (List Char)} {parsed : D} {balance : Balance currency}
    (captured : (balanceRegex classes).captures s.toList = some found)
    (isNumber : NumberText number) (first : found.get 1 = some number) (second : found.get 2 = unit)
    (third : found.get 3 = some currency.name.toList)
    (read : crate.fromStr number = some parsed)
    (exactly : value (if unit.isNone then crate.mulBigInt parsed (10 ^ currency.scale)
      else parsed) = balance.amount.toNat) :
    fromStr crate classes s = .ok balance := by
  have integer : ((balance.amount.toNat : Int) : Rat) = balance.amount.toNat := Int.cast_natCast _
  have whole := lawful.whole _ _ (exactly.trans integer.symm)
  have natural : toBiguint (balance.amount.toNat : Int) = some balance.amount.toNat := by
    rw [toBiguint, if_pos (Int.natCast_nonneg _), Int.toNat_natCast]
  have inBounds : ¬ balance.amount.toNat > 2 ^ 256 - 1 := by
    have bound := balance.amount.isLt
    omega
  have named : currency.nameMatches currency.name.toList = .ok () := if_pos rfl
  unfold fromStr
  simp only [captured, okOr, Outcome.lift, ok_bind, third, Option.getD_some, named, first, second,
    isNumber.filter_blank, read, whole, Option.bind_eq_bind, Option.bind_some, natural,
    Outcome.expect]
  rw [if_neg inBounds, BitVec.ofNat_toNat, BitVec.setWidth_eq]

/-- Both printed forms of every balance are parsed to the balance. -/
theorem fromStr_display (crate : BigDecimalCrate D) (value : D → Rat)
    (crateLawful : crate.Lawful value) (classes : CharClasses) (classesLawful : classes.Lawful)
    (currency : Currency) (known : currency ∈ currencies) (balance : Balance currency) :
    fromStr crate classes (balance.display crate) = .ok balance ∧
      fromStr crate classes balance.formatInWei = .ok balance := by
  obtain ⟨isName, positive⟩ := plainName_of_mem known
  constructor
  · obtain ⟨whole, fraction, wholeDigits, nonEmpty, fractionDigits, text, amount⟩ :=
      trim_plainText balance.amount.toNat positive
    have printed : balance.amountInBaseUnits crate = decimalText whole fraction := by
      unfold amountInBaseUnits
      dsimp only
      rw [crateLawful.count, if_pos (by exact_mod_cast positive), crateLawful.plain _ _ positive,
        text]
    obtain ⟨parsed, read, exactly⟩ :=
      crateLawful.parses whole fraction wholeDigits nonEmpty fractionDigits
    have isNumber := numberText_decimalText wholeDigits nonEmpty fractionDigits
    have captured := captures_display classesLawful isNumber isName
    have chars : (balance.display crate).toList =
        decimalText whole fraction ++ ' ' :: currency.name.toList := by
      rw [display, String.toList_ofList, printed]
    rw [← chars] at captured
    refine fromStr_of_captures crateLawful captured isNumber rfl (rfl : _ = none) rfl read ?_
    rw [if_pos Option.isNone_none, crateLawful.mul, exactly, amount]
    push_cast
    exact div_mul_cancel₀ _ (pow_ne_zero _ (by norm_num))
  · have digits := isDigits_toDigits balance.amount.toNat
    have nonEmpty : Nat.toDigits 10 balance.amount.toNat ≠ [] := Nat.toDigits_ne_nil
    have plain : decimalText (Nat.toDigits 10 balance.amount.toNat) [] =
        Nat.toDigits 10 balance.amount.toNat := if_pos rfl
    have none : IsDigits [] := by
      intro c member
      cases member
    obtain ⟨parsed, read, exactly⟩ := crateLawful.parses _ [] digits nonEmpty none
    have isNumber := numberText_decimalText digits nonEmpty none
    rw [plain] at read isNumber
    have captured := captures_formatInWei classesLawful isNumber isName
    have chars : balance.formatInWei.toList = Nat.toDigits 10 balance.amount.toNat ++
        ' ' :: (weiPrefix ++ ' ' :: currency.name.toList) := String.toList_ofList
    rw [← chars] at captured
    refine fromStr_of_captures crateLawful captured isNumber rfl
      (rfl : _ = some (weiPrefix ++ [' '])) rfl read ?_
    have inWei : ¬ (some (weiPrefix ++ [' '])).isNone = true := by decide
    rw [if_neg inWei, exactly, valueOf, Nat.ofDigitChars_ten_toDigits, Nat.ofDigitChars_nil]
    norm_num

end Balance

/-! ## Executable crates -/

def asciiClasses : CharClasses where
  digit := Char.isDigit
  space c := decide (9 ≤ c.toNat ∧ c.toNat ≤ 13 ∨ c.toNat = 32)

theorem asciiClasses_lawful : asciiClasses.Lawful := ⟨fun _ _ => rfl, fun _ _ => rfl⟩

/-- Integers with a decimal scale, and the texts of the non-negative ones. -/
def scaledIntegers : BigDecimalCrate (Int × Nat) where
  fromBiguint digits scale := (digits, scale)
  toPlainString number :=
    if number.2 = 0 then Nat.toDigits 10 number.1.toNat else plainText number.1.toNat number.2
  fractionalDigitCount number := number.2
  fromStr text :=
    let whole := text.takeWhile (· != '.')
    let fraction := (text.dropWhile (· != '.')).drop 1
    if !whole.isEmpty && (whole ++ fraction).all Char.isDigit then
      some (Nat.ofDigitChars 10 (whole ++ fraction) 0, fraction.length)
    else none
  mulBigInt number factor := (number.1 * factor, number.2)
  toBigint number := some (number.1.tdiv (10 ^ number.2))

def scaledValue (number : Int × Nat) : Rat := number.1 / 10 ^ number.2

theorem split_decimalText {whole : List Char} (wholeDigits : IsDigits whole)
    (fraction : List Char) :
    (decimalText whole fraction).takeWhile (· != '.') = whole ∧
      ((decimalText whole fraction).dropWhile (· != '.')).drop 1 = fraction := by
  have noPoint : ∀ c ∈ whole, (c != '.') = true := by
    intro c member
    rw [bne_iff_ne]
    rintro rfl
    exact notMem_of_isDigits wholeDigits (by decide) member
  unfold decimalText
  split_ifs with empty
  · rw [List.takeWhile_eq_self_iff.mpr noPoint, List.dropWhile_eq_nil_iff.mpr noPoint, empty]
    exact ⟨rfl, rfl⟩
  · rw [List.takeWhile_append_of_pos noPoint, List.dropWhile_append_of_pos noPoint]
    simp

theorem scaledValue_digits (whole fraction : List Char) :
    scaledValue (Nat.ofDigitChars 10 (whole ++ fraction) 0, fraction.length) =
      valueOf whole fraction := by
  rw [scaledValue, valueOf, Nat.ofDigitChars_append, Nat.ofDigitChars_eq_ofDigitChars_zero]
  push_cast
  field_simp

theorem scaledIntegers_lawful : scaledIntegers.Lawful scaledValue where
  plain digits scale positive := by
    have scaled : ¬ scale = 0 := by omega
    unfold scaledIntegers
    dsimp only
    rw [if_neg scaled, Int.toNat_natCast]
  count _ _ := rfl
  parses whole fraction wholeDigits nonEmpty fractionDigits := by
    have split := split_decimalText wholeDigits fraction
    have allDigits : (whole ++ fraction).all Char.isDigit = true :=
      List.all_eq_true.mpr (isDigits_append.mpr ⟨wholeDigits, fractionDigits⟩)
    have filled : whole.isEmpty = false := List.isEmpty_eq_false_iff.mpr nonEmpty
    refine ⟨_, ?_, scaledValue_digits whole fraction⟩
    unfold scaledIntegers
    dsimp only
    rw [split.1, split.2, filled, allDigits]
    rfl
  mul number factor := by
    unfold scaledIntegers scaledValue
    push_cast
    ring
  whole number integer exactly := by
    unfold scaledValue at exactly
    rw [div_eq_iff (pow_ne_zero _ (by norm_num))] at exactly
    have product : number.1 = integer * 10 ^ number.2 := by exact_mod_cast exactly
    unfold scaledIntegers
    dsimp only
    rw [product, Int.mul_tdiv_cancel _ (pow_ne_zero _ (by norm_num))]

namespace Balance

theorem fromStr_display_max :
    fromStr scaledIntegers asciiClasses
        ((⟨BitVec.allOnes 256⟩ : HoprBalance).display scaledIntegers) =
          .ok (⟨BitVec.allOnes 256⟩ : HoprBalance) ∧
      fromStr scaledIntegers asciiClasses (⟨BitVec.allOnes 256⟩ : HoprBalance).formatInWei =
        .ok (⟨BitVec.allOnes 256⟩ : HoprBalance) :=
  fromStr_display scaledIntegers scaledValue scaledIntegers_lawful asciiClasses asciiClasses_lawful
    WxHOPR (by simp [currencies]) ⟨BitVec.allOnes 256⟩

end Balance

end HoprTypes.Primitive
