import HoprTypes.Lib.Returning
import HoprTypes.Primitive.BalanceText

/-!
# Parsing computes the written number

Every string is parsed without a panic.  A numeral with spaces inserted, white space, a unit in
any of its spellings and the name of the currency are divided as they were put together, and
the result is the number in wei, rounded down.
-/

set_option autoImplicit false

namespace HoprTypes.Primitive

open BigEndian Decimal

/-! ## The crates -/

/-- No digit is white space. -/
structure CharClasses.Unicode (classes : CharClasses) : Prop extends classes.Lawful where
  disjoint : ∀ c, classes.digit c = true → classes.space c = false

/-- Signs, digit separators and marks of an exponent. -/
def numberMarks : List Char := ['+', '-', '_', 'e', 'E']

/-- Further properties of the crate: a number may start with its point, nothing but digits and
one point is accepted beside the marks, and the conversion to an integer truncates. -/
structure BigDecimalCrate.Exact {D : Type} (crate : BigDecimalCrate D) (value : D → Rat) :
    Prop extends crate.Lawful value where
  parsesFraction : ∀ fraction, IsDigits fraction → fraction ≠ [] →
    ∃ parsed, crate.fromStr (decimalText [] fraction) = some parsed ∧
      value parsed = valueOf [] fraction
  refuses : ∀ text parsed, crate.fromStr text = some parsed → (∀ c ∈ text, c ∉ numberMarks) →
    ∃ whole fraction, IsDigits whole ∧ IsDigits fraction ∧
      (text = whole ∨ text = whole ++ '.' :: fraction)
  truncates : ∀ number, 0 ≤ value number → crate.toBigint number = some ⌊value number⌋

theorem BigDecimalCrate.Exact.parsesNumeral {D : Type} {crate : BigDecimalCrate D}
    {value : D → Rat} (exact : crate.Exact value) {whole fraction : List Char}
    (wholeDigits : IsDigits whole) (fractionDigits : IsDigits fraction)
    (nonEmpty : whole ≠ [] ∨ fraction ≠ []) :
    ∃ parsed, crate.fromStr (decimalText whole fraction) = some parsed ∧
      value parsed = valueOf whole fraction := by
  by_cases startsWithPoint : whole = []
  · rw [startsWithPoint]
    apply exact.parsesFraction fraction fractionDigits
    rcases nonEmpty with filled | filled
    · exact absurd startsWithPoint filled
    · exact filled
  · exact exact.parses whole fraction wholeDigits startsWithPoint fractionDigits

theorem valueOf_nonneg (whole fraction : List Char) : 0 ≤ valueOf whole fraction := by
  unfold valueOf
  positivity

/-! ## How a text is divided -/

variable {classes : CharClasses}

def SpacesPart (classes : CharClasses) (text : List Char) : Prop :=
  text ≠ [] ∧ ∀ c ∈ text, classes.space c = true

def StartsWithLetter (text : List Char) : Prop :=
  ∃ first tail, text = first :: tail ∧ first.isAlpha = true

theorem LettersPart.starts {letters : List Char} (isLetters : LettersPart letters) :
    StartsWithLetter letters := by
  cases letters with
  | nil => exact absurd rfl isLetters.1
  | cons first tail => exact ⟨first, tail, rfl, isLetters.2 first (by simp)⟩

theorem UnitPart.starts {unit : List Char} (isUnit : UnitPart classes unit) (back : List Char) :
    StartsWithLetter (unit ++ back) := by
  rcases isUnit with rfl | ⟨c, _, rfl⟩
  · exact ⟨'w', 'e' :: 'i' :: back, rfl, by decide⟩
  · exact ⟨'w', 'e' :: 'i' :: c :: back, rfl, by decide⟩

/-- The preferred division: the unit is only left out where the rest cannot be divided with
one. -/
theorem captures_balanceRegex {text : List Char} {found : Regex.Match}
    (captured : (balanceRegex classes).captures text = some found) :
    ∃ amount spaces rest, text = amount ++ (spaces ++ rest) ∧ AmountPart classes amount ∧
      SpacesPart classes spaces ∧
      ((∃ unit letters, UnitPart classes unit ∧ LettersPart letters ∧ rest = unit ++ letters ∧
          found.groups = [(1, amount), (2, unit), (3, letters)]) ∨
        (LettersPart rest ∧
          (∀ unit letters, UnitPart classes unit → LettersPart letters → rest ≠ unit ++ letters) ∧
          found.groups = [(1, amount), (3, rest)])) := by
  rw [balanceRegex_eq] at captured
  obtain ⟨first, inFirst, behind, capturedBehind, rfl⟩ := Regex.captures_seq captured
  obtain ⟨second, inSecond, last, capturedLast, rfl⟩ := Regex.captures_seq capturedBehind
  obtain ⟨amount, afterAmount, amountGroups⟩ := first
  obtain ⟨spaces, rest, spacesGroups⟩ := second
  obtain ⟨amountDenoted, rfl⟩ := Regex.mem_ways.mp inFirst
  obtain ⟨spacesDenoted, split⟩ := Regex.mem_ways.mp inSecond
  dsimp only at split capturedLast
  subst split
  obtain ⟨isAmount, rfl⟩ := denotes_amountGroup.mp amountDenoted
  obtain ⟨isSpaces, rfl⟩ := Regex.denotes_atLeastOne.mp spacesDenoted
  refine ⟨amount, spaces, rest, rfl, isAmount, isSpaces, ?_⟩
  rcases Regex.captures_seq_optional capturedLast with withUnit | ⟨withoutUnit, onlyLetters⟩
  · obtain ⟨unit, letters, isUnit, isLetters, split, groups⟩ :=
      denotes_unitLetters.mp (Regex.denotes_of_captures withUnit)
    exact Or.inl ⟨unit, letters, isUnit, isLetters, split, by simp [Regex.Match.followedBy, groups]⟩
  · obtain ⟨isLetters, groups⟩ :=
      denotes_lettersGroup.mp (Regex.denotes_of_captures onlyLetters)
    refine Or.inr ⟨isLetters, ?_, by simp [Regex.Match.followedBy, groups]⟩
    intro unit letters isUnit isLetters split
    obtain ⟨found, withUnit⟩ := Regex.captures_isSome
      (denotes_unitLetters.mpr ⟨unit, letters, isUnit, isLetters, split, rfl⟩)
    rw [withoutUnit] at withUnit
    cases withUnit

section Division

variable (unicode : classes.Unicode)

include unicode

/-- What would prolong an amount ends in a digit, and behind the amount is none before the first
letter. -/
theorem AmountPart.extra_nil {amount extra spaces rest behind : List Char}
    (longer : AmountPart classes (amount ++ extra))
    (isSpaces : ∀ c ∈ spaces, classes.space c = true) (starts : StartsWithLetter rest)
    (same : spaces ++ rest = extra ++ behind) : extra = [] := by
  rcases List.eq_nil_or_concat extra with empty | ⟨front, last, rfl⟩
  · exact empty
  exfalso
  rw [List.concat_eq_append] at longer same
  have accepts := longer.accepts
  obtain ⟨before, final, split, digit, _⟩ := longer
  rw [← List.append_assoc] at split
  obtain ⟨_, rfl⟩ := List.append_singleton_inj.mp split
  have notSpace := unicode.disjoint last digit
  have inSpaces : last ∈ spaces → False := by
    intro member
    rw [isSpaces last member] at notSpace
    cases notSpace
  rcases List.append_eq_append_iff.mp same with ⟨more, split, behindSpaces⟩ | ⟨more, split, _⟩
  · cases more with
    | nil =>
        apply inSpaces
        rw [List.append_nil] at split
        rw [← split]
        simp
    | cons c more =>
        obtain ⟨first, tail, rfl, letter⟩ := starts
        obtain ⟨rfl, _⟩ := List.cons.inj behindSpaces
        obtain ⟨noDigit, noSpace, noPoint⟩ := alpha_of_isAlpha unicode.toLawful letter
        have accepted := accepts first (by simp [split])
        rw [noDigit, noSpace] at accepted
        exact noPoint (eq_of_beq accepted)
  · apply inSpaces
    rw [split]
    simp

theorem spaces_unique {spaces others rest tail : List Char}
    (isSpaces : ∀ c ∈ spaces, classes.space c = true)
    (isOthers : ∀ c ∈ others, classes.space c = true) (starts : StartsWithLetter rest)
    (tailStarts : StartsWithLetter tail) (same : spaces ++ rest = others ++ tail) :
    spaces = others ∧ rest = tail := by
  have noSpace : ∀ {c : Char} {more text : List Char}, StartsWithLetter text →
      text = c :: more → classes.space c = true → False := by
    rintro c more _ ⟨first, back, rfl, letter⟩ split space
    obtain ⟨rfl, _⟩ := List.cons.inj split
    rw [(alpha_of_isAlpha unicode.toLawful letter).2.1] at space
    cases space
  rcases List.append_eq_append_iff.mp same with ⟨more, split, behind⟩ | ⟨more, split, behind⟩
  · cases more with
    | nil =>
        rw [List.append_nil] at split
        exact ⟨split.symm, behind⟩
    | cons c more => exact (noSpace starts behind (isOthers c (by simp [split]))).elim
  · cases more with
    | nil =>
        rw [List.append_nil] at split
        exact ⟨split, behind.symm⟩
    | cons c more => exact (noSpace tailStarts behind (isSpaces c (by simp [split]))).elim

theorem parts_unique {amount number spaces others rest tail : List Char}
    (isAmount : AmountPart classes amount) (isNumber : AmountPart classes number)
    (isSpaces : SpacesPart classes spaces) (isOthers : SpacesPart classes others)
    (starts : StartsWithLetter rest) (tailStarts : StartsWithLetter tail)
    (same : amount ++ (spaces ++ rest) = number ++ (others ++ tail)) :
    amount = number ∧ rest = tail := by
  have amounts : amount = number := by
    rcases List.append_eq_append_iff.mp same with ⟨extra, rfl, behind⟩ | ⟨extra, rfl, behind⟩
    · have empty := AmountPart.extra_nil unicode isNumber isSpaces.2 starts behind
      rw [empty, List.append_nil]
    · have empty := AmountPart.extra_nil unicode isAmount isOthers.2 tailStarts behind
      rw [empty, List.append_nil]
  subst amounts
  exact ⟨rfl, (spaces_unique unicode isSpaces.2 isOthers.2 starts tailStarts
    (List.append_cancel_left same)).2⟩

theorem unit_unique {unit other letters name : List Char} (isUnit : UnitPart classes unit)
    (isOther : UnitPart classes other) (isLetters : LettersPart letters)
    (isName : LettersPart name) (same : unit ++ letters = other ++ name) :
    unit = other ∧ letters = name := by
  have noSeparator : ∀ {c : Char} {text back : List Char}, LettersPart text →
      text = c :: back → (c == '_' || classes.space c) = true → False := by
    rintro c _ back isText rfl separator
    have letter := isText.2 c (by simp)
    obtain ⟨_, noSpace, _⟩ := alpha_of_isAlpha unicode.toLawful letter
    rw [noSpace, Bool.or_false, beq_iff_eq] at separator
    rw [separator] at letter
    exact absurd letter (by decide)
  rcases isUnit with rfl | ⟨c, separator, rfl⟩
  · rcases isOther with rfl | ⟨d, otherSeparator, rfl⟩
    · exact ⟨rfl, List.append_cancel_left same⟩
    · rw [List.append_assoc] at same
      exact (noSeparator isLetters (List.append_cancel_left same) otherSeparator).elim
  · rw [List.append_assoc] at same
    rcases isOther with rfl | ⟨d, otherSeparator, rfl⟩
    · exact (noSeparator isName (List.append_cancel_left same).symm separator).elim
    · rw [List.append_assoc] at same
      obtain ⟨rfl, rfl⟩ := List.cons.inj (List.append_cancel_left same)
      exact ⟨rfl, rfl⟩

end Division

/-! ## Names in any case -/

theorem isAlpha_of_toLower {c : Char} (lower : c.toLower.isAlpha = true) : c.isAlpha = true := by
  unfold Char.toLower at lower
  split at lower
  · rename_i upper
    have bounds : 65 ≤ c.toNat ∧ c.toNat ≤ 90 := upper
    simp only [Char.isAlpha, Char.isUpper, Bool.or_eq_true, decide_eq_true_eq, ge_iff_le,
      UInt32.le_iff_toNat_le]
    exact Or.inl bounds
  · exact lower

/-- A name that is equal up to case consists of letters, and does not start like a unit. -/
theorem letters_of_lower {name lower : List Char} (isName : PlainName lower)
    (same : name.map Char.toLower = lower) : LettersPart name ∧ ¬ weiPrefix <+: name := by
  obtain ⟨nonEmpty, letters, noPrefix⟩ := isName
  subst same
  refine ⟨⟨?_, ?_⟩, ?_⟩
  · rintro rfl
    exact nonEmpty rfl
  · intro c member
    exact isAlpha_of_toLower (letters c.toLower (List.mem_map_of_mem member))
  · intro isPrefix
    apply noPrefix
    have lowerPrefix := isPrefix.map Char.toLower
    have same : weiPrefix.map Char.toLower = weiPrefix := by decide
    rw [same] at lowerPrefix
    exact lowerPrefix

theorem plainName_lower_of_mem {currency : Currency} (known : currency ∈ currencies) :
    PlainName (currency.name.toList.map Char.toLower) ∧ currency.scale = 18 := by
  simp only [currencies, List.mem_cons, List.not_mem_nil, or_false] at known
  have spelledWx : WxHOPR.name.toList.map Char.toLower = ['w', 'x', 'h', 'o', 'p', 'r'] := by
    decide
  have spelledX : XHOPR.name.toList.map Char.toLower = ['x', 'h', 'o', 'p', 'r'] := by decide
  have spelledDai : XDai.name.toList.map Char.toLower = ['x', 'd', 'a', 'i'] := by decide
  rcases known with rfl | rfl | rfl
  · exact ⟨plainName_of_spelled spelledWx (by decide), rfl⟩
  · exact ⟨plainName_of_spelled spelledX (by decide), rfl⟩
  · exact ⟨plainName_of_spelled spelledDai (by decide), rfl⟩

/-! ## Written balances -/

/-- A numeral with blanks anywhere, white space, perhaps a unit, and the name of the currency in
any case. -/
structure Written (classes : CharClasses) (currency : Currency) (whole fraction : List Char)
    (unit : Option (List Char)) (text : List Char) : Prop where
  wholeDigits : IsDigits whole
  fractionDigits : IsDigits fraction
  nonEmpty : whole ≠ [] ∨ fraction ≠ []
  isUnit : ∀ spelling ∈ unit, UnitPart classes spelling
  divided : ∃ spaced spaces name : List Char,
    spaced.filter (· != ' ') = decimalText whole fraction ∧ SpacesPart classes spaces ∧
      name.map Char.toLower = currency.name.toList.map Char.toLower ∧
      text = spaced ++ (spaces ++ (unit.getD [] ++ name))

/-- The number in wei, before rounding. -/
def writtenAmount (whole fraction : List Char) (unit : Option (List Char)) : Rat :=
  if unit.isNone then valueOf whole fraction * 10 ^ 18 else valueOf whole fraction

theorem decimalText_last {whole fraction : List Char} (wholeDigits : IsDigits whole)
    (fractionDigits : IsDigits fraction) (nonEmpty : whole ≠ [] ∨ fraction ≠ []) :
    NumberText (decimalText whole fraction) := by
  by_cases startsWithPoint : whole = []
  · have filled : fraction ≠ [] := by
      rcases nonEmpty with filled | filled
      · exact absurd startsWithPoint filled
      · exact filled
    rw [startsWithPoint, decimalText, if_neg filled, List.nil_append]
    refine ⟨⟨'.' :: fraction.dropLast, fraction.getLast filled, ?_, ?_⟩, ?_⟩
    · rw [List.cons_append, List.dropLast_append_getLast]
    · exact fractionDigits _ (List.getLast_mem filled)
    · intro c member
      rcases List.mem_cons.mp member with point | inFraction
      · exact Or.inr point
      · exact Or.inl (fractionDigits c inFraction)
  · exact numberText_decimalText wholeDigits startsWithPoint fractionDigits

/-- The parts of a written balance, one behind the other, are a word of the expression. -/
theorem denotes_parts {amount spaces name : List Char} {unit : Option (List Char)}
    (isAmount : AmountPart classes amount) (isSpaces : SpacesPart classes spaces)
    (isUnit : ∀ spelling ∈ unit, UnitPart classes spelling) (isLetters : LettersPart name) :
    ∃ groups, Regex.Denotes (balanceRegex classes)
      (amount ++ (spaces ++ (unit.getD [] ++ name))) groups := by
  cases unit with
  | none =>
      exact ⟨_, denotes_balanceRegex.mpr ⟨amount, _, name, isAmount, isSpaces, isLetters,
        Or.inl ⟨rfl, rfl⟩⟩⟩
  | some spelling =>
      exact ⟨_, denotes_balanceRegex.mpr ⟨amount, _, name, isAmount, isSpaces, isLetters,
        Or.inr ⟨spelling, isUnit spelling rfl, rfl, rfl⟩⟩⟩

theorem UnitPart.weiPrefix_isPrefix {spelling : List Char} (isUnit : UnitPart classes spelling)
    (letters : List Char) : weiPrefix <+: spelling ++ letters := by
  rcases isUnit with rfl | ⟨c, _, rfl⟩
  · exact List.prefix_append _ _
  · rw [List.append_assoc]
    exact List.prefix_append _ _

section Reading

variable (unicode : classes.Unicode)

include unicode

/-- The amount of a spaced numeral ends at its last digit; trailing blanks are white space. -/
theorem spaced_split {number spaced : List Char} (isNumber : NumberText number)
    (unspaced : spaced.filter (· != ' ') = number) :
    ∃ amount blanks, spaced = amount ++ blanks ∧ AmountPart classes amount ∧
      amount.filter (· != ' ') = number ∧ ∀ c ∈ blanks, classes.space c = true := by
  obtain ⟨⟨front, last, rfl, digit⟩, all⟩ := isNumber
  obtain ⟨before, rest, rfl, kept, restKept⟩ := List.filter_eq_append_iff.mp unspaced
  obtain ⟨skipped, blanks, rfl, onlyBlanks, notBlank, afterBlanks⟩ :=
    List.filter_eq_cons_iff.mp restKept
  have digitClass := (digit_of_isDigit unicode.toLawful digit).1
  have blankSpace := space_blank unicode.toLawful
  have isBlank : ∀ {text : List Char}, (∀ c ∈ text, ¬ (c != ' ') = true) →
      ∀ c ∈ text, c = ' ' := by
    intro text none c member
    simpa using none c member
  refine ⟨before ++ skipped ++ [last], blanks, by simp, ⟨_, last, rfl, digitClass, ?_⟩, ?_, ?_⟩
  · intro c member
    rcases List.mem_append.mp member with inFront | inSkipped
    · by_cases blank : c = ' '
      · rw [blank, blankSpace]
        simp
      · have inKept : c ∈ front := by
          rw [← kept]
          exact List.mem_filter.mpr ⟨inFront, by simpa using blank⟩
        rcases all c (List.mem_append_left _ inKept) with digit | point
        · rw [(digit_of_isDigit unicode.toLawful digit).1]
          rfl
        · simp [point]
    · rw [isBlank onlyBlanks c inSkipped, blankSpace]
      simp
  · rw [List.filter_append, List.filter_append, kept, List.filter_eq_nil_iff.mpr onlyBlanks,
      List.append_nil, List.filter_cons, if_pos notBlank, List.filter_nil]
  · intro c member
    rw [isBlank (List.filter_eq_nil_iff.mp afterBlanks) c member]
    exact blankSpace

theorem captures_parts {amount spaces name : List Char} {unit : Option (List Char)}
    (isAmount : AmountPart classes amount) (isSpaces : SpacesPart classes spaces)
    (isUnit : ∀ spelling ∈ unit, UnitPart classes spelling) (isLetters : LettersPart name)
    (noPrefix : ¬ weiPrefix <+: name) :
    ∃ found, (balanceRegex classes).captures
        (amount ++ (spaces ++ (unit.getD [] ++ name))) = some found ∧
      found.get 1 = some amount ∧ found.get 2 = unit ∧ found.get 3 = some name := by
  have starts : StartsWithLetter (unit.getD [] ++ name) := by
    cases unit with
    | none => exact isLetters.starts
    | some spelling => exact (isUnit spelling rfl).starts name
  obtain ⟨groups, denoted⟩ := denotes_parts isAmount isSpaces isUnit isLetters
  obtain ⟨found, captured⟩ := Regex.captures_isSome denoted
  refine ⟨found, captured, ?_⟩
  obtain ⟨foundAmount, foundSpaces, rest, split, isFoundAmount, isFoundSpaces, divided⟩ :=
    captures_balanceRegex captured
  have foundStarts : StartsWithLetter rest := by
    rcases divided with ⟨spelling, letters, isSpelling, _, rfl, _⟩ | ⟨isRest, _⟩
    · exact isSpelling.starts letters
    · exact isRest.starts
  obtain ⟨rfl, sameRest⟩ := parts_unique unicode isFoundAmount isAmount isFoundSpaces isSpaces
    foundStarts starts split.symm
  rcases divided with ⟨spelling, letters, isSpelling, isFoundLetters, rfl, groups⟩ |
    ⟨_, indivisible, groups⟩
  · cases unit with
    | none =>
        -- A unit in front of a name without one would make the name start with it.
        have sameRest : spelling ++ letters = name := sameRest
        exfalso
        apply noPrefix
        rw [← sameRest]
        exact isSpelling.weiPrefix_isPrefix letters
    | some given =>
        obtain ⟨rfl, rfl⟩ := unit_unique unicode isSpelling (isUnit given rfl) isFoundLetters
          isLetters sameRest
        simp only [Regex.Match.get, groups]
        exact ⟨rfl, rfl, rfl⟩
  · cases unit with
    | none =>
        obtain rfl : rest = name := sameRest
        simp only [Regex.Match.get, groups]
        exact ⟨rfl, rfl, rfl⟩
    | some given =>
        exact absurd sameRest (indivisible given name (isUnit given rfl) isLetters)

theorem Written.captures {currency : Currency} (known : currency ∈ currencies)
    {whole fraction text : List Char} {unit : Option (List Char)}
    (written : Written classes currency whole fraction unit text) :
    ∃ found amount name, (balanceRegex classes).captures text = some found ∧
      amount.filter (· != ' ') = decimalText whole fraction ∧
      name.map Char.toLower = currency.name.toList.map Char.toLower ∧
      found.get 1 = some amount ∧ found.get 2 = unit ∧ found.get 3 = some name := by
  obtain ⟨spaced, spaces, name, unspaced, isSpaces, sameName, rfl⟩ := written.divided
  obtain ⟨isLetters, noPrefix⟩ := letters_of_lower (plainName_lower_of_mem known).1 sameName
  have isNumber := decimalText_last written.wholeDigits written.fractionDigits written.nonEmpty
  obtain ⟨amount, blanks, rfl, isAmount, amountNumber, allBlanks⟩ :=
    spaced_split unicode isNumber unspaced
  -- Blanks behind the numeral belong to the white space.
  have isBehind : SpacesPart classes (blanks ++ spaces) := by
    refine ⟨by simp [isSpaces.1], ?_⟩
    intro c member
    rcases List.mem_append.mp member with inBlanks | inSpaces
    · exact allBlanks c inBlanks
    · exact isSpaces.2 c inSpaces
  obtain ⟨found, captured, groups⟩ :=
    captures_parts unicode isAmount isBehind written.isUnit isLetters noPrefix
  have regrouped : amount ++ blanks ++ (spaces ++ (unit.getD [] ++ name)) =
      amount ++ ((blanks ++ spaces) ++ (unit.getD [] ++ name)) := by simp
  rw [regrouped]
  exact ⟨found, amount, name, captured, amountNumber, sameName, groups⟩

theorem noDigit_of_mark {c : Char} (member : c ∈ ' ' :: '.' :: numberMarks) :
    classes.digit c = false := by
  have ascii : ∀ c ∈ ' ' :: '.' :: numberMarks, c.toNat < 128 ∧ c.isDigit = false := by
    simp [numberMarks]
  rw [unicode.digit_ascii c (ascii c member).1]
  exact (ascii c member).2

theorem AmountPart.noMarks {amount : List Char} (isAmount : AmountPart classes amount) :
    ∀ c ∈ amount.filter (· != ' '), c ∉ numberMarks := by
  intro c member isMark
  have accepted := isAmount.accepts c (List.mem_filter.mp member).1
  have ascii : ∀ c ∈ numberMarks, c.toNat < 128 ∧ c ≠ '.' ∧
      ¬ (9 ≤ c.toNat ∧ c.toNat ≤ 13 ∨ c.toNat = 32) := by simp [numberMarks]
  obtain ⟨small, noPoint, noSpace⟩ := ascii c isMark
  rw [noDigit_of_mark unicode (by simp [isMark]), unicode.space_ascii c small,
    decide_eq_false noSpace] at accepted
  exact noPoint (eq_of_beq accepted)

/-- The last digit of an amount is no blank, so it stays in place. -/
theorem AmountPart.filter_endsInDigit {amount : List Char}
    (isAmount : AmountPart classes amount) :
    ∃ front last, amount.filter (· != ' ') = front ++ [last] ∧ classes.digit last = true := by
  obtain ⟨front, last, rfl, digit, _⟩ := isAmount
  have notBlank : (last != ' ') = true := by
    rw [bne_iff_ne]
    rintro rfl
    rw [noDigit_of_mark unicode (by simp)] at digit
    cases digit
  refine ⟨front.filter (· != ' '), last, ?_, digit⟩
  rw [List.filter_append, List.filter_cons, if_pos notBlank, List.filter_nil]

end Reading

/-! ## The value -/

namespace Balance

variable {currency : Currency} {D : Type} {crate : BigDecimalCrate D} {value : D → Rat}

theorem fromStr_of_parsed (exact : crate.Exact value) (scale : currency.scale = 18) {s : String}
    {found : Regex.Match} {parsed : D}
    (captured : (balanceRegex classes).captures s.toList = some found)
    (named : currency.nameMatches ((found.get 3).getD []) = .ok ())
    (read : crate.fromStr (((found.get 1).getD []).filter (· != ' ')) = some parsed)
    (nonneg : 0 ≤ value parsed) :
    (fromStr crate classes s : Outcome GeneralError (Balance currency)) =
      let amount := ⌊if (found.get 2).isNone then value parsed * 10 ^ 18 else value parsed⌋₊
      if amount > 2 ^ 256 - 1 then Outcome.fail (.parseError "balance value out of bounds")
      else .ok ⟨BitVec.ofNat 256 amount⟩ := by
  have scaled : value (if (found.get 2).isNone then crate.mulBigInt parsed (10 ^ currency.scale)
      else parsed) = if (found.get 2).isNone then value parsed * 10 ^ 18 else value parsed := by
    split_ifs
    · rw [exact.mul, scale]
      norm_num
    · rfl
  have scaledNonneg : 0 ≤ if (found.get 2).isNone then value parsed * 10 ^ 18
      else value parsed := by
    split_ifs
    · positivity
    · exact nonneg
  have truncated := exact.truncates (if (found.get 2).isNone then
    crate.mulBigInt parsed (10 ^ currency.scale) else parsed) (by rw [scaled]; exact scaledNonneg)
  rw [scaled] at truncated
  have natural := Int.floor_nonneg.mpr scaledNonneg
  unfold fromStr
  simp only [captured, okOr, Outcome.lift, ok_bind, named, read, truncated, Option.bind_eq_bind,
    Option.bind_some, toBiguint, if_pos natural, Outcome.expect, Int.floor_toNat]

theorem amount_decimalText (exact : crate.Exact value) (unicode : classes.Unicode)
    {amount : List Char} (isAmount : AmountPart classes amount) {parsed : D}
    (read : crate.fromStr (amount.filter (· != ' ')) = some parsed) :
    ∃ whole fraction, IsDigits whole ∧ IsDigits fraction ∧ (whole ≠ [] ∨ fraction ≠ []) ∧
      amount.filter (· != ' ') = decimalText whole fraction := by
  obtain ⟨whole, fraction, wholeDigits, fractionDigits, shape⟩ :=
    exact.refuses _ _ read (isAmount.noMarks unicode)
  obtain ⟨front, last, endsInLast, digit⟩ := isAmount.filter_endsInDigit unicode
  rw [endsInLast] at shape ⊢
  rcases shape with onlyWhole | withPoint
  · refine ⟨whole, [], wholeDigits, by simp [IsDigits], Or.inl ?_, ?_⟩
    · rintro rfl
      exact List.append_ne_nil_of_right_ne_nil _ (List.cons_ne_nil _ _) onlyWhole
    · rw [onlyWhole, decimalText, if_pos rfl]
  · have filled : fraction ≠ [] := by
      rintro rfl
      obtain ⟨_, rfl⟩ := List.append_singleton_inj.mp withPoint
      rw [noDigit_of_mark unicode (by simp)] at digit
      cases digit
    exact ⟨whole, fraction, wholeDigits, fractionDigits, Or.inr filled,
      by rw [withPoint, decimalText, if_neg filled]⟩

theorem parsed_nonneg (exact : crate.Exact value) (unicode : classes.Unicode)
    {amount : List Char} (isAmount : AmountPart classes amount) {parsed : D}
    (read : crate.fromStr (amount.filter (· != ' ')) = some parsed) : 0 ≤ value parsed := by
  obtain ⟨whole, fraction, wholeDigits, fractionDigits, nonEmpty, text⟩ :=
    amount_decimalText exact unicode isAmount read
  obtain ⟨same, again, valued⟩ := exact.parsesNumeral wholeDigits fractionDigits nonEmpty
  rw [text, again] at read
  rw [← Option.some.inj read, valued]
  exact valueOf_nonneg whole fraction

theorem fromStr_returns (exact : crate.Exact value) (unicode : classes.Unicode)
    (scale : currency.scale = 18) (s : String) :
    (fromStr crate classes s : Outcome GeneralError (Balance currency)).Returns := by
  cases captured : (balanceRegex classes).captures s.toList with
  | none =>
      unfold fromStr
      rw [captured]
      exact Outcome.returns_fail _
  | some found =>
      cases named : currency.nameMatches ((found.get 3).getD []) with
      | error cause =>
          unfold fromStr
          rw [captured]
          simp only [okOr, Outcome.lift, ok_bind, named]
          exact Outcome.returns_fail _
      | ok =>
          cases read : crate.fromStr (((found.get 1).getD []).filter (· != ' ')) with
          | none =>
              unfold fromStr
              rw [captured]
              simp only [okOr, Outcome.lift, ok_bind, named, read]
              exact Outcome.returns_fail _
          | some parsed =>
              obtain ⟨amount, _, _, _, isAmount, _, divided⟩ := captures_balanceRegex captured
              have first : found.get 1 = some amount := by
                rcases divided with ⟨_, _, _, _, _, groups⟩ | ⟨_, _, groups⟩
                · rw [Regex.Match.get, groups]
                  rfl
                · rw [Regex.Match.get, groups]
                  rfl
              have nonneg : 0 ≤ value parsed := by
                rw [first] at read
                exact parsed_nonneg exact unicode isAmount read
              rw [fromStr_of_parsed exact scale captured named read nonneg]
              exact Outcome.returns_ite (Outcome.returns_fail _) (Outcome.returns_ok _)

theorem fromStr_of_written (exact : crate.Exact value) (unicode : classes.Unicode)
    (known : currency ∈ currencies) {s : String} {whole fraction : List Char}
    {unit : Option (List Char)}
    (written : Written classes currency whole fraction unit s.toList) :
    (fromStr crate classes s : Outcome GeneralError (Balance currency)) =
      if ⌊writtenAmount whole fraction unit⌋₊ > 2 ^ 256 - 1 then
        Outcome.fail (.parseError "balance value out of bounds")
      else .ok ⟨BitVec.ofNat 256 ⌊writtenAmount whole fraction unit⌋₊⟩ := by
  obtain ⟨found, amount, name, captured, number, sameName, first, second, third⟩ :=
    written.captures unicode known
  obtain ⟨parsed, read, valued⟩ :=
    exact.parsesNumeral written.wholeDigits written.fractionDigits written.nonEmpty
  have named : currency.nameMatches ((found.get 3).getD []) = .ok () := by
    rw [third]
    exact if_pos sameName
  have readAmount : crate.fromStr (((found.get 1).getD []).filter (· != ' ')) = some parsed := by
    rw [first, Option.getD_some, number, read]
  have nonneg : 0 ≤ value parsed := by
    rw [valued]
    exact valueOf_nonneg whole fraction
  rw [fromStr_of_parsed exact (plainName_lower_of_mem known).2 captured named readAmount nonneg,
    second, valued]
  rfl

/-- No string makes the parser panic, and a written balance is parsed to the number in wei,
rounded down, if that fits into 256 bits, and refused otherwise. -/
theorem fromStr_computes_written_number (crate : BigDecimalCrate D) (value : D → Rat)
    (exact : crate.Exact value) (classes : CharClasses) (unicode : classes.Unicode)
    (currency : Currency) (known : currency ∈ currencies) :
    (∀ s, (fromStr crate classes s : Outcome GeneralError (Balance currency)).Returns) ∧
      ∀ s whole fraction unit, Written classes currency whole fraction unit s.toList →
        (⌊writtenAmount whole fraction unit⌋₊ ≤ 2 ^ 256 - 1 →
          (fromStr crate classes s : Outcome GeneralError (Balance currency)) =
            .ok ⟨BitVec.ofNat 256 ⌊writtenAmount whole fraction unit⌋₊⟩) ∧
        (2 ^ 256 - 1 < ⌊writtenAmount whole fraction unit⌋₊ →
          (fromStr crate classes s : Outcome GeneralError (Balance currency)).IsErr) := by
  refine ⟨fromStr_returns exact unicode (plainName_lower_of_mem known).2, ?_⟩
  intro s whole fraction unit written
  rw [fromStr_of_written exact unicode known written]
  constructor
  · intro fits
    exact if_neg (by omega)
  · intro beyond
    rw [if_pos beyond]
    exact ⟨_, rfl⟩

end Balance

/-! ## Executable crates -/

theorem asciiClasses_unicode : asciiClasses.Unicode where
  toLawful := asciiClasses_lawful
  disjoint := by
    intro c digit
    have bounds := isDigit_bounds digit
    exact decide_eq_false (by omega)

/-- The scaled integers, with texts that may start with the point. -/
def exactIntegers : BigDecimalCrate (Int × Nat) :=
  { scaledIntegers with
    fromStr := fun text =>
      let whole := text.takeWhile (· != '.')
      let fraction := (text.dropWhile (· != '.')).drop 1
      if !(whole ++ fraction).isEmpty && (whole ++ fraction).all Char.isDigit then
        some (Nat.ofDigitChars 10 (whole ++ fraction) 0, fraction.length)
      else none }

theorem exactIntegers_parses {whole fraction : List Char} (wholeDigits : IsDigits whole)
    (fractionDigits : IsDigits fraction) (nonEmpty : whole ≠ [] ∨ fraction ≠ []) :
    ∃ parsed, exactIntegers.fromStr (decimalText whole fraction) = some parsed ∧
      scaledValue parsed = valueOf whole fraction := by
  have split := split_decimalText wholeDigits fraction
  have allDigits : (whole ++ fraction).all Char.isDigit = true :=
    List.all_eq_true.mpr (isDigits_append.mpr ⟨wholeDigits, fractionDigits⟩)
  have filled : (whole ++ fraction).isEmpty = false := by
    rw [List.isEmpty_eq_false_iff, ne_eq, List.append_eq_nil_iff]
    rintro ⟨wholeEmpty, fractionEmpty⟩
    rcases nonEmpty with wholeFilled | fractionFilled
    · exact wholeFilled wholeEmpty
    · exact fractionFilled fractionEmpty
  refine ⟨_, ?_, scaledValue_digits whole fraction⟩
  unfold exactIntegers
  dsimp only
  rw [split.1, split.2, filled, allDigits]
  rfl

theorem exactIntegers_refuses {text : List Char} {parsed : Int × Nat}
    (read : exactIntegers.fromStr text = some parsed) :
    ∃ whole fraction, IsDigits whole ∧ IsDigits fraction ∧
      (text = whole ∨ text = whole ++ '.' :: fraction) := by
  unfold exactIntegers at read
  dsimp only at read
  split at read
  · rename_i checked
    rw [Bool.and_eq_true] at checked
    obtain ⟨wholeDigits, fractionDigits⟩ := isDigits_append.mp (List.all_eq_true.mp checked.2)
    refine ⟨_, _, wholeDigits, fractionDigits, ?_⟩
    have split := @List.takeWhile_append_dropWhile _ (· != '.') text
    cases behind : text.dropWhile (· != '.') with
    | nil =>
        rw [behind, List.append_nil] at split
        exact Or.inl split.symm
    | cons point rest =>
        have stops := List.head_dropWhile_not (· != '.') (by rw [behind]; simp)
        simp only [behind, List.head_cons, bne_eq_false_iff_eq] at stops
        rw [behind, stops] at split
        exact Or.inr split.symm
  · cases read

theorem exactIntegers_truncates {number : Int × Nat} (nonneg : 0 ≤ scaledValue number) :
    number.1.tdiv (10 ^ number.2) = ⌊scaledValue number⌋ := by
  have positive : (0 : Rat) < 10 ^ number.2 := by positivity
  have numerator : 0 ≤ number.1 := by
    have scaled := mul_nonneg nonneg positive.le
    rw [scaledValue, div_mul_cancel₀ _ positive.ne'] at scaled
    exact_mod_cast scaled
  have floors : ⌊scaledValue number⌋ = number.1 / (10 ^ number.2 : Nat) := by
    rw [← Rat.floor_intCast_div_natCast, scaledValue]
    push_cast
    rfl
  rw [floors, Int.tdiv_eq_ediv_of_nonneg numerator]
  push_cast
  rfl

theorem exactIntegers_exact : exactIntegers.Exact scaledValue where
  plain := scaledIntegers_lawful.plain
  count := scaledIntegers_lawful.count
  mul := scaledIntegers_lawful.mul
  whole := scaledIntegers_lawful.whole
  parses _ _ wholeDigits nonEmpty fractionDigits :=
    exactIntegers_parses wholeDigits fractionDigits (Or.inl nonEmpty)
  parsesFraction _ fractionDigits nonEmpty :=
    exactIntegers_parses (by simp [IsDigits]) fractionDigits (Or.inr nonEmpty)
  refuses _ _ read _ := exactIntegers_refuses read
  truncates _ nonneg := congrArg some (exactIntegers_truncates nonneg)

namespace Balance

/-- One and a half, with a blank behind the point. -/
def spacedText : String := "1. 5 wxhopr"

theorem spacedText_written :
    Written asciiClasses WxHOPR ['1'] ['5'] none spacedText.toList where
  wholeDigits := by simp [IsDigits]
  fractionDigits := by simp [IsDigits]
  nonEmpty := Or.inl (List.cons_ne_nil _ _)
  isUnit := by
    intro spelling impossible
    cases impossible
  divided := by
    refine ⟨['1', '.', ' ', '5'], [' '], ['w', 'x', 'h', 'o', 'p', 'r'], by decide, ?_, by decide,
      by decide⟩
    exact ⟨List.cons_ne_nil _ _, by simp [asciiClasses]⟩

theorem fromStr_computes_one_and_half :
    (fromStr exactIntegers asciiClasses spacedText : Outcome GeneralError HoprBalance) =
      .ok ⟨BitVec.ofNat 256 1500000000000000000⟩ := by
  have amount : ⌊writtenAmount ['1'] ['5'] none⌋₊ = 1500000000000000000 := by
    have exactly : writtenAmount ['1'] ['5'] none = (1500000000000000000 : Nat) := by
      have one : Nat.ofDigitChars 10 ['1'] 0 = 1 := by decide
      have five : Nat.ofDigitChars 10 ['5'] 0 = 5 := by decide
      rw [writtenAmount, if_pos Option.isNone_none, valueOf, one, five]
      norm_num
    rw [exactly, Nat.floor_natCast]
  have parsed := ((fromStr_computes_written_number exactIntegers scaledValue exactIntegers_exact
    asciiClasses asciiClasses_unicode WxHOPR (by simp [currencies])).2 spacedText ['1'] ['5'] none
    spacedText_written).1
  rw [amount] at parsed
  exact parsed (by norm_num)

end Balance

end HoprTypes.Primitive
