import HoprTypes.Lib.Keccak
import HoprTypes.Primitive.HexText

/-!
# Checksummed and shortened hexadecimal text

A checksummed address differs from the plain one in the case of its letters, which the hash of
the plain digits chooses.  A shortened text keeps as many digits of both ends as fit.
-/

set_option autoImplicit false

namespace HoprTypes.Primitive

open BigEndian Keccak

/-! ## Nibbles -/

def nibbles (bytes : Bytes) : List Nat :=
  bytes.flatMap fun byte => [byte.toNat / 16, byte.toNat % 16]

theorem hexEncode_eq_nibbles (bytes : Bytes) :
    (hexEncode bytes).toList = (nibbles bytes).map hexDigit := by
  simp [hexEncode, nibbles, List.map_flatMap]

theorem length_nibbles (bytes : Bytes) : (nibbles bytes).length = 2 * bytes.length := by
  induction bytes with
  | nil => rfl
  | cons byte bytes ih =>
      simp only [nibbles, List.flatMap_cons, List.length_append, List.length_cons,
        List.length_nil] at ih ⊢
      omega

theorem nibbles_lt {bytes : Bytes} {nibble : Nat} (member : nibble ∈ nibbles bytes) :
    nibble < 16 := by
  obtain ⟨byte, _, isNibble⟩ := List.mem_flatMap.mp member
  have small : byte.toNat < 256 := byte.toNat_lt
  rcases List.mem_pair.mp isNibble with rfl | rfl <;> omega

theorem getElem?_nibbles (bytes : Bytes) (i : Nat) :
    (nibbles bytes)[i]? =
      bytes[i / 2]?.map fun byte => if i % 2 = 0 then byte.toNat / 16 else byte.toNat % 16 := by
  induction bytes generalizing i with
  | nil => simp [nibbles]
  | cons byte bytes ih =>
      have step : nibbles (byte :: bytes) =
          byte.toNat / 16 :: byte.toNat % 16 :: nibbles bytes := rfl
      rw [step]
      match i with
      | 0 => simp
      | 1 => simp
      | i + 2 =>
          rw [List.getElem?_cons_succ, List.getElem?_cons_succ, ih,
            show (i + 2) / 2 = i / 2 + 1 by omega, show (i + 2) % 2 = i % 2 by omega,
            List.getElem?_cons_succ]

/-! ## Checksummed addresses -/

namespace Address

/-- The digit in the case that the nibble of the hash at its place asks for. -/
def recase (hash : FixedBytes 32) (c : Char) (i : Nat) : Char :=
  let nibble := (hash.toList.getD (i / 2) 0 >>> UInt8.ofNat ((i + 1) % 2 * 4)) &&& 0xf
  if nibble < 8 then c else c.toUpper

/-- The digits, recased by the hash of their lower-case text. -/
def toChecksum (address : Address) : String :=
  let addressHex := hexEncode address.toList
  let hash := keccak256 (utf8 addressHex)
  "0x" ++ String.ofList (addressHex.toList.zipIdx.map fun (c, i) => recase hash c i)

end Address

theorem shifted_nibble (byte : UInt8) (i : Nat) :
    ((byte >>> UInt8.ofNat ((i + 1) % 2 * 4)) &&& 0xf).toNat =
      if i % 2 = 0 then byte.toNat / 16 else byte.toNat % 16 := by
  have small : byte.toNat < 256 := byte.toNat_lt
  by_cases even : i % 2 = 0
  · rw [if_pos even, show (i + 1) % 2 = 1 by omega]
    have lower : byte.toNat / 16 < 2 ^ 4 := by omega
    simp [UInt8.toNat_and, UInt8.toNat_shiftRight, Nat.shiftRight_eq_div_pow,
      Nat.and_two_pow_sub_one_of_lt_two_pow lower]
  · rw [if_neg even, show (i + 1) % 2 = 0 by omega]
    simp [UInt8.toNat_and, Nat.and_two_pow_sub_one_eq_mod byte.toNat 4]

/-- The nibble that decides the case of a digit is the hash's own digit at the same place. -/
theorem decides_case {hash : Bytes} {i : Nat} {nibble : Nat}
    (found : (nibbles hash)[i]? = some nibble) :
    ((hash.getD (i / 2) 0 >>> UInt8.ofNat ((i + 1) % 2 * 4)) &&& 0xf).toNat = nibble := by
  rw [getElem?_nibbles, Option.map_eq_some_iff] at found
  obtain ⟨byte, atByte, isNibble⟩ := found
  rw [List.getD_eq_getElem?_getD, atByte, Option.getD_some, shifted_nibble]
  exact isNibble

/-! ## The case of digits -/

theorem hexDigitValue_toUpper {nibble : Nat} (small : nibble < 16) :
    hexDigitValue (hexDigit nibble).toUpper = some nibble := by
  have all : ∀ nibble : Fin 16, hexDigitValue (hexDigit nibble).toUpper = some nibble.val := by
    decide
  exact all ⟨nibble, small⟩

theorem toLower_hexDigit {nibble : Nat} (small : nibble < 16) :
    (hexDigit nibble).toLower = hexDigit nibble ∧
      (hexDigit nibble).toUpper.toLower = hexDigit nibble := by
  have all : ∀ nibble : Fin 16, (hexDigit nibble).toLower = hexDigit nibble ∧
      (hexDigit nibble).toUpper.toLower = hexDigit nibble := by decide
  exact all ⟨nibble, small⟩

theorem decodePairs_congr : ∀ {left right : List Char},
    left.map hexDigitValue = right.map hexDigitValue → decodePairs left = decodePairs right
  | [], [], _ => rfl
  | [_], [_], _ => rfl
  | [], _ :: _, same => by cases same
  | _ :: _, [], same => by cases same
  | [_], _ :: _ :: _, same => by simp at same
  | _ :: _ :: _, [_], same => by simp at same
  | high :: low :: rest, high' :: low' :: rest', same => by
      simp only [List.map_cons, List.cons.injEq] at same
      obtain ⟨sameHigh, sameLow, others⟩ := same
      rw [decodePairs, decodePairs, sameHigh, sameLow, decodePairs_congr others]

namespace Address

theorem toChecksum_toList (address : Address) :
    (toChecksum address).toList = lowerMark ++
      (hexEncode address.toList).toList.zipIdx.map fun place =>
        recase (keccak256 (utf8 (hexEncode address.toList))) place.1 place.2 := by
  simp [toChecksum, lowerMark]

theorem recase_eq {hash : FixedBytes 32} {i nibble : Nat}
    (found : (nibbles hash.toList)[i]? = some nibble) (c : Char) :
    recase hash c i = if 8 ≤ nibble then c.toUpper else c := by
  have decides := decides_case found
  unfold recase
  by_cases large : 8 ≤ nibble
  · rw [if_pos large]
    refine if_neg fun isSmall => ?_
    rw [UInt8.lt_iff_toNat_lt, decides] at isSmall
    exact Nat.not_lt.mpr large isSmall
  · rw [if_neg large]
    refine if_pos ?_
    rw [UInt8.lt_iff_toNat_lt, decides]
    exact Nat.not_le.mp large

theorem recase_cases (hash : FixedBytes 32) (c : Char) (i : Nat) :
    recase hash c i = c ∨ recase hash c i = c.toUpper := by
  unfold recase
  dsimp only
  split_ifs
  · exact Or.inl rfl
  · exact Or.inr rfl

theorem map_recase {β : Type} (hash : FixedBytes 32) (bytes : Bytes) {f : Char → β}
    (blind : ∀ nibble < 16, f (hexDigit nibble).toUpper = f (hexDigit nibble)) :
    ((hexEncode bytes).toList.zipIdx.map fun place => recase hash place.1 place.2).map f =
      (hexEncode bytes).toList.map f := by
  have plain : (hexEncode bytes).toList.map f =
      (hexEncode bytes).toList.zipIdx.map fun place => f place.1 := by
    conv_lhs => rw [← List.zipIdx_map_fst 0 (hexEncode bytes).toList, List.map_map]
    rfl
  rw [plain, List.map_map]
  apply List.map_congr_left
  intro place member
  have isDigit : place.1 ∈ (hexEncode bytes).toList := by
    rw [← List.zipIdx_map_fst 0 (hexEncode bytes).toList]
    exact List.mem_map_of_mem member
  rw [hexEncode_eq_nibbles] at isDigit
  obtain ⟨nibble, isNibble, same⟩ := List.mem_map.mp isDigit
  rcases recase_cases hash place.1 place.2 with kept | raised
  · rw [Function.comp_apply, kept]
  · rw [Function.comp_apply, raised, ← same]
    exact blind nibble (nibbles_lt isNibble)

/-- The checksummed text of every address is read back as the address, is the plain text but
for the case of letters, and has a digit in upper case exactly where the hash of the plain
digits has a digit of at least 8. -/
theorem toChecksum_spec {crate : ConstHex} (lawful : crate.Lawful) (address : Address) :
    (FixedBytes.representable 20 "Address").fromHex crate address.toChecksum = .ok address ∧
      address.toChecksum.toList.map Char.toLower = (toHex address).toList ∧
      ∀ i c h, (hexEncode address.toList).toList[i]? = some c →
        (hexEncode (keccak256 (utf8 (hexEncode address.toList))).toList).toList[i]? = some h →
          address.toChecksum.toList[i + 2]? =
            some (if ∃ nibble, hexDigitValue h = some nibble ∧ 8 ≤ nibble then c.toUpper
              else c) := by
  refine ⟨?_, ?_, ?_⟩
  · let recased := (hexEncode address.toList).toList.zipIdx.map fun place =>
      recase (keccak256 (utf8 (hexEncode address.toList))) place.1 place.2
    have values : recased.map hexDigitValue = (hexEncode address.toList).toList.map hexDigitValue :=
      map_recase _ _ fun nibble small => by
        rw [hexDigitValue_toUpper small, hexDigitValue_hexDigit small]
    have decoded : decodePairs recased = some address.toList :=
      (decodePairs_congr values).trans (decodePairs_hexEncode address.toList)
    have digitsOf : HexDigits 20 recased := by
      rw [← address.length_toList]
      exact hexDigits_of_decodePairs decoded
    have chars : address.toChecksum.toList = lowerMark ++ recased := toChecksum_toList address
    have shape : HexShape 20 address.toChecksum.toList :=
      ⟨lowerMark, by simp, recased, chars, digitsOf⟩
    have typeLawful := FixedBytes.representable_lawful 20 "Address"
    obtain ⟨read, accepted⟩ :=
      BytesRepresentable.fromHex_of_shape lawful typeLawful (by decide) shape
    obtain ⟨_, bytes, readBytes, _, built⟩ :=
      (BytesRepresentable.fromHex_eq_ok lawful).mp accepted
    rw [chars, withoutMark_marked (by simp), withoutMark_of_hex digitsOf,
      decoded] at readBytes
    obtain rfl := Option.some.inj readBytes
    rw [accepted, ← FixedBytes.ext (tryFromSlice_eq_ok.mp built)]
  · rw [toChecksum_toList, List.map_append, map_recase _ _ fun nibble small => by
      rw [(toLower_hexDigit small).2, (toLower_hexDigit small).1]]
    have lower : (hexEncode address.toList).toList.map Char.toLower =
        (hexEncode address.toList).toList := by
      rw [hexEncode_eq_nibbles, List.map_map]
      exact List.map_congr_left fun nibble member => (toLower_hexDigit (nibbles_lt member)).1
    rw [lower]
    simp [toHex, lowerMark]
  · intro i c h atDigit atHash
    rw [hexEncode_eq_nibbles (keccak256 _).toList, List.getElem?_map, Option.map_eq_some_iff]
      at atHash
    obtain ⟨nibble, found, rfl⟩ := atHash
    have small := nibbles_lt (List.mem_of_getElem? found)
    rw [toChecksum_toList, hexDigitValue_hexDigit small]
    have place : (lowerMark ++ ((hexEncode address.toList).toList.zipIdx.map fun place =>
        recase (keccak256 (utf8 (hexEncode address.toList))) place.1 place.2))[i + 2]? =
          some (recase (keccak256 (utf8 (hexEncode address.toList))) c i) := by
      rw [List.getElem?_append_right (by simp [lowerMark])]
      simp [lowerMark, atDigit]
    rw [place, recase_eq found]
    simp

end Address

namespace Address

theorem toChecksum_spec_zero :
    (FixedBytes.representable 20 "Address").fromHex constHex zero.toChecksum = .ok zero :=
  (toChecksum_spec constHex_lawful zero).1

example : (toChecksum (beBytes 20 0xfb6916095ca1df60bb79ce92ce3ea74c37c5d359)).toList =
    "0xfB6916095ca1df60bB79Ce92cE3Ea74c37c5d359".toList := by decide +kernel

end Address

/-! ## Shortened text -/

/-- The digits of the bytes, without the middle if they are more than `maxChars`. -/
def toHexShortened {ε : Type} (maxChars : Nat) (data : Bytes) : Outcome ε String :=
  let numChars := max maxChars 4
  let shown := (numChars - 2) / 4
  if maxChars < data.length * 2 then
    if data.length < shown then Outcome.panicked "range end index out of range for slice"
    else .ok (hexEncode (data.take shown) ++ ".." ++ hexEncode (data.drop (data.length - shown)))
  else .ok (hexEncode data)

theorem length_hexEncode (bytes : Bytes) : (hexEncode bytes).toList.length = 2 * bytes.length := by
  rw [hexEncode_eq_nibbles, List.length_map, length_nibbles]

/-- A shortened text never panics and fits.  It is the whole text if that fits, and otherwise
equally many digits of both ends around two points, of as many bytes as fit. -/
theorem toHexShortened_spec {ε : Type} (maxChars : Nat) (data : Bytes) :
    ∃ text, (toHexShortened maxChars data : Outcome ε String) = .ok text ∧
      text.toList.length ≤ max maxChars 2 ∧
      (data.length * 2 ≤ maxChars → text = hexEncode data) ∧
      (maxChars < data.length * 2 → ∃ front middle back, data = front ++ (middle ++ back) ∧
        text = hexEncode front ++ ".." ++ hexEncode back ∧ front.length = back.length ∧
          max maxChars 4 < 4 * (front.length + 1) + 2) := by
  unfold toHexShortened
  dsimp only
  by_cases long : maxChars < data.length * 2
  · have enough : ¬ data.length < (max maxChars 4 - 2) / 4 := by omega
    rw [if_pos long, if_neg enough]
    generalize isShown : (max maxChars 4 - 2) / 4 = shown at enough ⊢
    have ends : shown ≤ data.length - shown := by omega
    refine ⟨_, rfl, ?_, fun short => absurd long (Nat.not_lt.mpr short), fun _ => ?_⟩
    · simp only [String.toList_append, List.length_append, length_hexEncode, List.length_take,
        List.length_drop]
      have points : "..".toList.length = 2 := rfl
      omega
    · refine ⟨data.take shown, (data.drop shown).take (data.length - shown - shown),
        data.drop (data.length - shown), ?_, rfl, ?_, ?_⟩
      · have rest : data.drop (data.length - shown) =
            (data.drop shown).drop (data.length - shown - shown) := by
          rw [List.drop_drop, Nat.add_sub_cancel' ends]
        rw [rest, List.take_append_drop, List.take_append_drop]
      · rw [List.length_take, List.length_drop]
        omega
      · rw [List.length_take]
        omega
  · rw [if_neg long]
    refine ⟨_, rfl, ?_, fun _ => rfl, fun impossible => absurd impossible long⟩
    rw [length_hexEncode]
    omega

end HoprTypes.Primitive
