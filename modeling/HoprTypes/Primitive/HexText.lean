import HoprTypes.Primitive.Primitives

/-!
# Hexadecimal text of fixed-size types

A type that carries its bytes prints them as prefixed digits.  Reading strips one prefix and
hands the rest to the hex crate, which strips a prefix of its own; short inputs are decoded
into a stack buffer of the exact length, long ones into a vector.
-/

set_option autoImplicit false

namespace HoprTypes.Primitive

open BigEndian

/-! ## Pairs of digits -/

def hexDigitValue (digit : Char) : Option Nat :=
  if 48 ≤ digit.toNat ∧ digit.toNat ≤ 57 then some (digit.toNat - 48)
  else if 97 ≤ digit.toNat ∧ digit.toNat ≤ 102 then some (digit.toNat - 87)
  else if 65 ≤ digit.toNat ∧ digit.toNat ≤ 70 then some (digit.toNat - 55)
  else none

def decodePairs : List Char → Option Bytes
  | [] => some []
  | [_] => none
  | high :: low :: rest =>
      match hexDigitValue high, hexDigitValue low, decodePairs rest with
      | some high, some low, some bytes => some (UInt8.ofNat (16 * high + low) :: bytes)
      | _, _, _ => none

/-- Exactly `2 * size` hexadecimal digits, of either case. -/
def HexDigits (size : Nat) (digits : List Char) : Prop :=
  digits.length = 2 * size ∧ ∀ digit ∈ digits, (hexDigitValue digit).isSome

def utf8Len (text : List Char) : Nat := (text.map Char.utf8Size).sum

def lowerMark : List Char := ['0', 'x']

def upperMark : List Char := ['0', 'X']

theorem length_le_length_utf8 (text : String) : text.toList.length ≤ (utf8 text).length := by
  have encoded : (utf8 text).length = text.toList.utf8Encode.size := by
    rw [String.utf8Encode_toList]
    rfl
  rw [encoded]
  generalize text.toList = chars
  induction chars with
  | nil => exact Nat.zero_le _
  | cons c chars ih =>
      have positive := Char.utf8Size_pos c
      rw [List.utf8Encode_cons, ByteArray.size_append, List.utf8Encode_singleton,
        List.size_toByteArray, String.length_utf8EncodeChar, List.length_cons]
      omega

/-! ## The hex crate -/

/-- The `const-hex` crate: decoding into a vector, and into a slice of a given length. -/
structure ConstHex where
  decode : List Char → Except String Bytes
  decodeToSlice : List Char → Nat → Except String Bytes

/-- The text without one leading prefix, of either case. -/
def withoutMark (text : List Char) : List Char :=
  ((text.dropPrefix? lowerMark).or (text.dropPrefix? upperMark)).getD text

structure ConstHex.Lawful (crate : ConstHex) : Prop where
  decodes : ∀ text bytes, crate.decode text = .ok bytes ↔
    decodePairs (withoutMark text) = some bytes
  decodesToSlice : ∀ text size bytes, crate.decodeToSlice text size = .ok bytes ↔
    decodePairs (withoutMark text) = some bytes ∧ bytes.length = size

/-! ## Fixed-size types -/

/-- A type that is represented by `size` bytes. -/
structure BytesRepresentable (α : Type) where
  size : Nat
  asRef : α → Bytes
  tryFrom : Bytes → Except GeneralError α

/-- Exactly the slices of the right size are accepted, and the own bytes are read back. -/
structure BytesRepresentable.Lawful {α : Type} (type : BytesRepresentable α) : Prop where
  accepts : ∀ bytes, (∃ value, type.tryFrom bytes = .ok value) ↔ bytes.length = type.size
  restores : ∀ value, type.tryFrom (type.asRef value) = .ok value

/-- The fixed-size byte arrays, whose conversion checks the length only. -/
def FixedBytes.representable (size : Nat) (what : String) :
    BytesRepresentable (FixedBytes size) where
  size := size
  asRef := FixedBytes.toList
  tryFrom := tryFromSlice size what

namespace BytesRepresentable

def hexDecodeStackBufSize : Nat := 128

variable {α : Type} (type : BytesRepresentable α)

def toHex (value : α) : String := "0x" ++ hexEncode (type.asRef value)

def fromHex (crate : ConstHex) (str : String) : Except GeneralError α :=
  let str := str.toList
  if str ≠ [] ∧ utf8Len str % 2 = 0 then
    let data := ((str.dropPrefix? lowerMark).or (str.dropPrefix? upperMark)).getD str
    let halfLen := utf8Len data / 2
    if halfLen ≤ hexDecodeStackBufSize then do
      let buf ← (crate.decodeToSlice data halfLen).mapErr GeneralError.parseError
      type.tryFrom buf
    else do
      let bytes ← (crate.decode data).mapErr GeneralError.parseError
      type.tryFrom bytes
  else .error (.parseError "invalid hex length")

end BytesRepresentable

/-- At most one prefix, followed by the digits of `size` bytes. -/
def HexShape (size : Nat) (str : List Char) : Prop :=
  ∃ mark ∈ [[], lowerMark, upperMark], ∃ digits, str = mark ++ digits ∧ HexDigits size digits

/-- Two prefixes, each of either case, followed by the digits of `size` bytes. -/
def DoublePrefixed (size : Nat) (str : List Char) : Prop :=
  ∃ first ∈ [lowerMark, upperMark], ∃ second ∈ [lowerMark, upperMark], ∃ digits,
    str = first ++ (second ++ digits) ∧ HexDigits size digits

/-! ## Digits -/

theorem hexDigitValue_hexDigit {nibble : Nat} (small : nibble < 16) :
    hexDigitValue (hexDigit nibble) = some nibble := by
  have all : ∀ nibble : Fin 16, hexDigitValue (hexDigit nibble) = some nibble.val := by decide
  exact all ⟨nibble, small⟩

theorem decodePairs_hexEncode (bytes : Bytes) :
    decodePairs (hexEncode bytes).toList = some bytes := by
  induction bytes with
  | nil => rfl
  | cons byte bytes ih =>
      have small : byte.toNat < 256 := byte.toNat_lt
      have step : (hexEncode (byte :: bytes)).toList =
          hexDigit (byte.toNat / 16) :: hexDigit (byte.toNat % 16) :: (hexEncode bytes).toList := by
        simp [hexEncode]
      have joined : 16 * (byte.toNat / 16) + byte.toNat % 16 = byte.toNat := by omega
      rw [step, decodePairs, hexDigitValue_hexDigit (by omega), hexDigitValue_hexDigit (by omega),
        ih]
      simp [joined]

theorem hexDigits_cons_cons {size : Nat} {high low : Char} {rest : List Char} :
    HexDigits (size + 1) (high :: low :: rest) ↔
      (hexDigitValue high).isSome ∧ (hexDigitValue low).isSome ∧ HexDigits size rest := by
  simp only [HexDigits, List.length_cons, List.forall_mem_cons]
  constructor
  · rintro ⟨length, isHigh, isLow, others⟩
    exact ⟨isHigh, isLow, by omega, others⟩
  · rintro ⟨isHigh, isLow, length, others⟩
    exact ⟨by omega, isHigh, isLow, others⟩

theorem decodePairs_cons_cons {high low : Char} {rest : List Char} {byte : UInt8} {bytes : Bytes}
    (decoded : decodePairs (high :: low :: rest) = some (byte :: bytes)) :
    (hexDigitValue high).isSome ∧ (hexDigitValue low).isSome ∧ decodePairs rest = some bytes := by
  rw [decodePairs] at decoded
  split at decoded
  next foundHigh foundLow foundRest =>
      obtain ⟨_, rfl⟩ := List.cons.inj (Option.some.inj decoded)
      rw [foundHigh, foundLow]
      exact ⟨rfl, rfl, foundRest⟩
  next => cases decoded

/-- Digits are read two at a time, so that the induction is on the pairs. -/
theorem hexDigits_of_decodePairs : ∀ {digits : List Char} {bytes : Bytes},
    decodePairs digits = some bytes → HexDigits bytes.length digits
  | [], bytes, decoded => by
      rw [decodePairs] at decoded
      obtain rfl := Option.some.inj decoded
      exact ⟨rfl, by simp⟩
  | [_], _, decoded => by cases decoded
  | high :: low :: rest, [], decoded => by
      rw [decodePairs] at decoded
      split at decoded <;> simp at decoded
  | high :: low :: rest, byte :: bytes, decoded => by
      obtain ⟨isHigh, isLow, others⟩ := decodePairs_cons_cons decoded
      exact hexDigits_cons_cons.mpr ⟨isHigh, isLow, hexDigits_of_decodePairs others⟩

theorem decodePairs_of_hexDigits : ∀ {size : Nat} {digits : List Char},
    HexDigits size digits → ∃ bytes, decodePairs digits = some bytes ∧ bytes.length = size
  | size, [], digitsOf => by
      have empty : 0 = 2 * size := digitsOf.1
      exact ⟨[], rfl, by rw [List.length_nil]; omega⟩
  | size, [digit], digitsOf => by
      have odd : 1 = 2 * size := digitsOf.1
      omega
  | 0, high :: low :: rest, digitsOf => by
      have impossible := digitsOf.1
      rw [List.length_cons] at impossible
      omega
  | size + 1, high :: low :: rest, digitsOf => by
      obtain ⟨isHigh, isLow, others⟩ := hexDigits_cons_cons.mp digitsOf
      obtain ⟨highValue, foundHigh⟩ := Option.isSome_iff_exists.mp isHigh
      obtain ⟨lowValue, foundLow⟩ := Option.isSome_iff_exists.mp isLow
      obtain ⟨bytes, decoded, length⟩ := decodePairs_of_hexDigits others
      rw [decodePairs, foundHigh, foundLow, decoded]
      refine ⟨_, rfl, ?_⟩
      rw [List.length_cons, length]

theorem decodePairs_isSome_iff (size : Nat) (digits : List Char) :
    (∃ bytes, decodePairs digits = some bytes ∧ bytes.length = size) ↔ HexDigits size digits := by
  constructor
  · rintro ⟨bytes, decoded, rfl⟩
    exact hexDigits_of_decodePairs decoded
  · exact decodePairs_of_hexDigits

/-! ## Lengths and prefixes -/

theorem utf8Len_append (left right : List Char) :
    utf8Len (left ++ right) = utf8Len left + utf8Len right := by
  simp [utf8Len]

theorem utf8Size_of_hex {digit : Char} (isHex : (hexDigitValue digit).isSome) :
    digit.utf8Size = 1 := by
  have small : digit.toNat ≤ 127 := by
    unfold hexDigitValue at isHex
    split_ifs at isHex
    · omega
    · omega
    · omega
    · cases isHex
  have bound : digit.val ≤ 127 := by
    rw [UInt32.le_iff_toNat_le]
    exact small
  rw [Char.utf8Size]
  exact if_pos bound

theorem utf8Len_of_hex {digits : List Char}
    (allHex : ∀ digit ∈ digits, (hexDigitValue digit).isSome) :
    utf8Len digits = digits.length := by
  induction digits with
  | nil => rfl
  | cons digit digits ih =>
      rw [List.forall_mem_cons] at allHex
      have rest : utf8Len digits = digits.length := ih allHex.2
      have head : digit.utf8Size = 1 := utf8Size_of_hex allHex.1
      unfold utf8Len at rest ⊢
      rw [List.map_cons, List.sum_cons, head, rest, List.length_cons, Nat.add_comm]

theorem utf8Len_hexDigits {size : Nat} {digits : List Char} (digitsOf : HexDigits size digits) :
    utf8Len digits = 2 * size := by
  rw [utf8Len_of_hex digitsOf.2, digitsOf.1]

theorem dropPrefix_append (mark rest : List Char) :
    (mark ++ rest).dropPrefix? mark = some rest := by
  rw [List.dropPrefix?_eq_some_iff]
  exact ⟨mark, rfl, beq_self_eq_true mark⟩

theorem eq_append_of_dropPrefix {mark text rest : List Char}
    (dropped : text.dropPrefix? mark = some rest) : text = mark ++ rest := by
  obtain ⟨found, split, same⟩ := List.dropPrefix?_eq_some_iff.mp dropped
  rw [split, eq_of_beq same]

/-- Digits carry no prefix, since no digit is an `x`. -/
theorem dropPrefix_of_hex {digits : List Char} {first second : Char}
    (allHex : ∀ digit ∈ digits, (hexDigitValue digit).isSome)
    (notHex : hexDigitValue second = none) : digits.dropPrefix? [first, second] = none := by
  rw [Option.eq_none_iff_forall_ne_some]
  intro rest dropped
  have split := eq_append_of_dropPrefix dropped
  have member : second ∈ digits := by simp [split]
  have isHex := allHex second member
  rw [notHex] at isHex
  cases isHex

theorem withoutMark_of_hex {size : Nat} {digits : List Char} (digitsOf : HexDigits size digits) :
    withoutMark digits = digits := by
  rw [withoutMark, lowerMark, upperMark, dropPrefix_of_hex digitsOf.2 (by decide),
    dropPrefix_of_hex digitsOf.2 (by decide)]
  rfl

theorem withoutMark_marked {mark : List Char} (isMark : mark ∈ [lowerMark, upperMark])
    (rest : List Char) : withoutMark (mark ++ rest) = rest := by
  rcases List.mem_pair.mp isMark with rfl | rfl
  · rw [withoutMark, dropPrefix_append]
    rfl
  · have other : (upperMark ++ rest).dropPrefix? lowerMark = none := by
      rw [Option.eq_none_iff_forall_ne_some]
      intro tail dropped
      have split := eq_append_of_dropPrefix dropped
      simp [lowerMark, upperMark] at split
    rw [withoutMark, other, dropPrefix_append]
    rfl

theorem withoutMark_cases (text : List Char) :
    withoutMark text = text ∨
      ∃ mark ∈ [lowerMark, upperMark], text = mark ++ withoutMark text := by
  unfold withoutMark
  cases lower : text.dropPrefix? lowerMark with
  | some rest => exact Or.inr ⟨lowerMark, by simp, eq_append_of_dropPrefix lower⟩
  | none =>
      cases upper : text.dropPrefix? upperMark with
      | some rest => exact Or.inr ⟨upperMark, by simp, eq_append_of_dropPrefix upper⟩
      | none => exact Or.inl rfl

theorem utf8Len_mark {mark : List Char} (isMark : mark ∈ [lowerMark, upperMark]) :
    utf8Len mark = 2 := by
  have all : ∀ mark ∈ [lowerMark, upperMark], utf8Len mark = 2 := by decide
  exact all mark isMark

/-! ## The accepted strings -/

namespace BytesRepresentable

variable {α : Type} {type : BytesRepresentable α} {crate : ConstHex}

theorem tryFrom_of_fromHex {str : String} {value : α} (read : type.fromHex crate str = .ok value) :
    ∃ bytes, type.tryFrom bytes = .ok value := by
  unfold fromHex at read
  dsimp only at read
  split at read
  · split at read
    · obtain ⟨bytes, _, built⟩ := bind_eq_ok.mp read
      exact ⟨bytes, built⟩
    · obtain ⟨bytes, _, built⟩ := bind_eq_ok.mp read
      exact ⟨bytes, built⟩
  · cases read

theorem fromHex_eq_ok (lawful : crate.Lawful) {str : String} {value : α} :
    type.fromHex crate str = .ok value ↔
      (str.toList ≠ [] ∧ utf8Len str.toList % 2 = 0) ∧
        ∃ bytes, decodePairs (withoutMark (withoutMark str.toList)) = some bytes ∧
          (utf8Len (withoutMark str.toList) / 2 ≤ hexDecodeStackBufSize →
            bytes.length = utf8Len (withoutMark str.toList) / 2) ∧
          type.tryFrom bytes = .ok value := by
  unfold fromHex
  dsimp only
  rw [← withoutMark]
  by_cases wellFormed : str.toList ≠ [] ∧ utf8Len str.toList % 2 = 0
  · rw [if_pos wellFormed]
    by_cases short : utf8Len (withoutMark str.toList) / 2 ≤ hexDecodeStackBufSize
    · rw [if_pos short]
      simp only [bind_eq_ok, exceptMapErr_eq_ok, lawful.decodesToSlice, wellFormed, short,
        true_and, forall_const, ne_eq, not_false_eq_true, and_assoc]
    · rw [if_neg short]
      simp only [bind_eq_ok, exceptMapErr_eq_ok, lawful.decodes, wellFormed, short, true_and,
        false_implies, ne_eq, not_false_eq_true]
  · rw [if_neg wellFormed]
    simp only [reduceCtorEq, false_iff, not_and]
    intro impossible
    exact absurd impossible wellFormed

variable (lawful : crate.Lawful) (typeLawful : type.Lawful)

include lawful typeLawful

/-- Acceptance, in terms of the digits that remain after both prefixes are stripped. -/
theorem fromHex_isOk_iff {str : String} :
    (∃ value, type.fromHex crate str = .ok value) ↔
      (str.toList ≠ [] ∧ utf8Len str.toList % 2 = 0) ∧
        HexDigits type.size (withoutMark (withoutMark str.toList)) ∧
        (utf8Len (withoutMark str.toList) / 2 ≤ hexDecodeStackBufSize →
          type.size = utf8Len (withoutMark str.toList) / 2) := by
  rw [← decodePairs_isSome_iff]
  constructor
  · rintro ⟨value, read⟩
    obtain ⟨wellFormed, bytes, decoded, exact, built⟩ := (fromHex_eq_ok lawful).mp read
    have length : bytes.length = type.size := (typeLawful.accepts bytes).mp ⟨value, built⟩
    refine ⟨wellFormed, ⟨bytes, decoded, length⟩, ?_⟩
    rw [← length]
    exact exact
  · rintro ⟨wellFormed, ⟨bytes, decoded, length⟩, exact⟩
    obtain ⟨value, built⟩ := (typeLawful.accepts bytes).mpr length
    refine ⟨value, (fromHex_eq_ok lawful).mpr ⟨wellFormed, bytes, decoded, ?_, built⟩⟩
    rw [length]
    exact exact

theorem fromHex_of_shape (sized : 1 ≤ type.size) {str : String}
    (shape : HexShape type.size str.toList) : ∃ value, type.fromHex crate str = .ok value := by
  obtain ⟨mark, isMark, digits, split, digitsOf⟩ := shape
  have length : utf8Len digits = 2 * type.size := utf8Len_hexDigits digitsOf
  have stripped : withoutMark str.toList = digits := by
    rw [split]
    rcases List.mem_cons.mp isMark with rfl | marked
    · exact withoutMark_of_hex digitsOf
    · exact withoutMark_marked marked digits
  have even : utf8Len str.toList % 2 = 0 := by
    have markEven : utf8Len mark % 2 = 0 := by
      have all : ∀ mark ∈ [[], lowerMark, upperMark], utf8Len mark % 2 = 0 := by decide
      exact all mark isMark
    rw [split, utf8Len_append]
    omega
  have nonEmpty : str.toList ≠ [] := by
    intro empty
    have total := congrArg List.length split
    rw [empty, List.length_append, digitsOf.1, List.length_nil] at total
    omega
  rw [fromHex_isOk_iff lawful typeLawful, stripped, withoutMark_of_hex digitsOf]
  exact ⟨⟨nonEmpty, even⟩, digitsOf, fun _ => by omega⟩

theorem fromHex_of_doublePrefixed {str : String} (long : hexDecodeStackBufSize ≤ type.size)
    (doubled : DoublePrefixed type.size str.toList) :
    ∃ value, type.fromHex crate str = .ok value := by
  obtain ⟨first, isFirst, second, isSecond, digits, split, digitsOf⟩ := doubled
  have length : utf8Len (second ++ digits) = 2 + 2 * type.size := by
    rw [utf8Len_append, utf8Len_hexDigits digitsOf, utf8Len_mark isSecond]
  have even : utf8Len str.toList % 2 = 0 := by
    rw [split, utf8Len_append, length, utf8Len_mark isFirst]
    omega
  have nonEmpty : str.toList ≠ [] := by
    rw [split]
    rcases List.mem_pair.mp isFirst with rfl | rfl <;> exact List.cons_ne_nil _ _
  rw [fromHex_isOk_iff lawful typeLawful, split, withoutMark_marked isFirst,
    withoutMark_marked isSecond, length, ← split]
  exact ⟨⟨nonEmpty, even⟩, digitsOf, fun short => by omega⟩

/-- The accepted strings have one prefix at most, or are long enough for the vector and have
two. -/
theorem shape_of_fromHex {str : String} {value : α} (read : type.fromHex crate str = .ok value) :
    HexShape type.size str.toList ∨
      (hexDecodeStackBufSize ≤ type.size ∧ DoublePrefixed type.size str.toList) := by
  obtain ⟨_, digitsOf, exact⟩ := (fromHex_isOk_iff lawful typeLawful).mp ⟨value, read⟩
  rcases withoutMark_cases str.toList with whole | ⟨first, isFirst, split⟩
  · rw [whole, whole] at digitsOf
    exact Or.inl ⟨[], by simp, str.toList, rfl, digitsOf⟩
  · rcases withoutMark_cases (withoutMark str.toList) with same | ⟨second, isSecond, marked⟩
    · rw [same] at digitsOf
      exact Or.inl ⟨first, List.mem_cons_of_mem _ isFirst, _, split, digitsOf⟩
    · refine Or.inr ⟨?_, first, isFirst, second, isSecond,
        withoutMark (withoutMark str.toList), ?_, digitsOf⟩
      · have length : utf8Len (withoutMark str.toList) = 2 + 2 * type.size := by
          rw [marked, utf8Len_append, utf8Len_hexDigits digitsOf, utf8Len_mark isSecond]
        by_contra short
        have impossible := exact (by omega)
        omega
      · rw [← marked]
        exact split

omit lawful typeLawful

theorem not_shape_of_doublePrefixed {size : Nat} {str : List Char}
    (doubled : DoublePrefixed size str) : ¬ HexShape size str := by
  rintro ⟨mark, isMark, digits, split, digitsOf⟩
  obtain ⟨first, isFirst, second, isSecond, rest, doubledSplit, _⟩ := doubled
  have same : mark ++ digits = first ++ (second ++ rest) := split.symm.trans doubledSplit
  have noMark : ∀ mark ∈ [lowerMark, upperMark], ¬ mark ⊆ digits := by
    intro mark isMark inside
    have noX : 'x' ∉ digits := fun member => absurd (digitsOf.2 'x' member) (by decide)
    have noUpperX : 'X' ∉ digits := fun member => absurd (digitsOf.2 'X' member) (by decide)
    rcases List.mem_pair.mp isMark with rfl | rfl
    · exact noX (inside (by decide))
    · exact noUpperX (inside (by decide))
  rcases List.mem_cons.mp isMark with rfl | marked
  · rw [List.nil_append] at same
    exact noMark first isFirst (same ▸ List.subset_append_left _ _)
  · have lengths : mark.length = first.length := by
      have all : ∀ mark ∈ [lowerMark, upperMark], mark.length = 2 := by decide
      rw [all mark marked, all first isFirst]
    have digitsEq := (List.append_inj same lengths).2
    exact noMark second isSecond (digitsEq ▸ List.subset_append_left _ _)

include lawful typeLawful

theorem fromHex_toHex (sized : 1 ≤ type.size) (value : α) :
    type.fromHex crate (type.toHex value) = .ok value := by
  have chars : (type.toHex value).toList = lowerMark ++ (hexEncode (type.asRef value)).toList := by
    simp [toHex, lowerMark]
  have decoded := decodePairs_hexEncode (type.asRef value)
  have length : (type.asRef value).length = type.size :=
    (typeLawful.accepts _).mp ⟨value, typeLawful.restores value⟩
  have digitsOf : HexDigits type.size (hexEncode (type.asRef value)).toList :=
    length ▸ hexDigits_of_decodePairs decoded
  have shape : HexShape type.size (type.toHex value).toList :=
    ⟨lowerMark, by simp, _, chars, digitsOf⟩
  obtain ⟨read, accepted⟩ := fromHex_of_shape lawful typeLawful sized shape
  obtain ⟨wellFormed, bytes, readBytes, exact, _⟩ := (fromHex_eq_ok lawful).mp accepted
  refine (fromHex_eq_ok lawful).mpr ⟨wellFormed, bytes, readBytes, exact, ?_⟩
  rw [chars, withoutMark_marked (by simp), withoutMark_of_hex digitsOf, decoded] at readBytes
  rw [← Option.some.inj readBytes]
  exact typeLawful.restores value

omit lawful typeLawful

/-- Every value is read back; a string is accepted exactly for its shape, unless it is long and
has two prefixes. -/
theorem fromHex_accepts_shape_iff (crate : ConstHex) (crateLawful : crate.Lawful) {α : Type}
    (type : BytesRepresentable α) (lawful : type.Lawful) (sized : 1 ≤ type.size) :
    (∀ value, type.fromHex crate (type.toHex value) = .ok value) ∧
      ∀ str : String,
        ((∃ value, type.fromHex crate str = .ok value) ↔ HexShape type.size str.toList) ↔
          ¬ (hexDecodeStackBufSize ≤ type.size ∧ DoublePrefixed type.size str.toList) := by
  refine ⟨fromHex_toHex crateLawful lawful sized, ?_⟩
  intro str
  constructor
  · rintro agrees ⟨long, doubled⟩
    have accepted := fromHex_of_doublePrefixed crateLawful lawful long doubled
    exact not_shape_of_doublePrefixed doubled (agrees.mp accepted)
  · intro single
    constructor
    · rintro ⟨value, read⟩
      rcases shape_of_fromHex crateLawful lawful read with shape | doubled
      · exact shape
      · exact absurd doubled single
    · exact fromHex_of_shape crateLawful lawful sized

end BytesRepresentable

/-! ## An executable crate -/

def constHex : ConstHex where
  decode text := okOr "invalid hex" (decodePairs (withoutMark text))
  decodeToSlice text size := do
    let bytes ← okOr "invalid hex" (decodePairs (withoutMark text))
    if bytes.length = size then .ok bytes else .error "invalid length"

theorem constHex_lawful : constHex.Lawful where
  decodes text bytes := okOr_eq_ok
  decodesToSlice := by
    intro text size bytes
    unfold constHex
    simp only [bind_eq_ok, okOr_eq_ok]
    constructor
    · rintro ⟨found, decoded, checked⟩
      split_ifs at checked with exact
      obtain rfl := Except.ok.inj checked
      exact ⟨decoded, exact⟩
    · rintro ⟨decoded, exact⟩
      exact ⟨bytes, decoded, if_pos exact⟩

theorem FixedBytes.representable_lawful (size : Nat) (what : String) :
    (FixedBytes.representable size what).Lawful where
  accepts := by
    intro bytes
    constructor
    · rintro ⟨value, read⟩
      rw [← tryFromSlice_eq_ok.mp read]
      exact value.length_toList
    · intro exact
      exact ⟨⟨bytes, exact⟩, tryFromSlice_eq_ok.mpr rfl⟩
  restores value := tryFromSlice_toList what value

namespace BytesRepresentable

theorem fromHex_accepts_shape_iff_address :
    (∀ address : Address, (FixedBytes.representable 20 "Address").fromHex constHex
        ((FixedBytes.representable 20 "Address").toHex address) = .ok address) ∧
      ∀ str : String,
        ((∃ address, (FixedBytes.representable 20 "Address").fromHex constHex str = .ok address) ↔
          HexShape 20 str.toList) ↔
            ¬ (hexDecodeStackBufSize ≤ 20 ∧ DoublePrefixed 20 str.toList) :=
  fromHex_accepts_shape_iff constHex constHex_lawful (FixedBytes.representable 20 "Address")
    (FixedBytes.representable_lawful 20 "Address") (by decide)

def doubledPrefix : String := String.ofList (lowerMark ++ (lowerMark ++ List.replicate 256 '0'))

/-- A type of 128 bytes reads a doubled prefix, although the text has the wrong shape. -/
theorem fromHex_doubledPrefix :
    (∃ value, (FixedBytes.representable 128 "bytes").fromHex constHex doubledPrefix = .ok value) ∧
      ¬ HexShape 128 doubledPrefix.toList := by
  have digitsOf : HexDigits 128 (List.replicate 256 '0') := by
    refine ⟨List.length_replicate, ?_⟩
    intro digit member
    rw [List.eq_of_mem_replicate member]
    rfl
  have doubled : DoublePrefixed 128 doubledPrefix.toList :=
    ⟨lowerMark, by simp, lowerMark, by simp, _, String.toList_ofList, digitsOf⟩
  exact ⟨fromHex_of_doublePrefixed constHex_lawful (FixedBytes.representable_lawful 128 "bytes")
    (le_refl _) doubled, not_shape_of_doublePrefixed doubled⟩

end BytesRepresentable

end HoprTypes.Primitive
