import HoprTypes.Lib.Padding
import HoprTypes.Primitive.HexText
import HoprTypes.Internal.Service

/-!
# Names of service types

A service type whose id is a right-padded text of printable characters has this text as its
name; other ids are printed as hexadecimal text.
-/

set_option autoImplicit false

namespace HoprTypes.Internal

open BigEndian Padding HoprTypes.Primitive

def isAsciiGraphic (byte : UInt8) : Bool := decide (0x21 ≤ byte ∧ byte ≤ 0x7e)

def fromUtf8 (bytes : Bytes) : Option String := String.fromUTF8? ⟨bytes.toArray⟩

theorem fromUtf8_eq_some_iff {bytes : Bytes} {text : String} :
    fromUtf8 bytes = some text ↔ utf8 text = bytes := by
  unfold fromUtf8 String.fromUTF8? utf8
  constructor
  · intro decoded
    split at decoded
    · cases decoded
      rfl
    · cases decoded
  · intro encoded
    have same : (⟨bytes.toArray⟩ : ByteArray) = text.toByteArray := by
      rw [← encoded]
      rfl
    rw [same, dif_pos text.isValidUTF8]
    rfl

theorem isAsciiGraphic_zero : isAsciiGraphic 0 = false := rfl

namespace ServiceType

def rightPad (bytes : Bytes) (fits : bytes.length ≤ size) : FixedBytes 32 :=
  ⟨pad 0 size bytes, length_pad 0 fits⟩

def asAscii (serviceType : ServiceType) : Option String := do
  let last ← rposition (fun byte => decide (byte ≠ 0)) serviceType.bytes.toList
  let name ← fromUtf8 (serviceType.bytes.toList.take (last + 1))
  if (utf8 name).all isAsciiGraphic then some name else none

/-- A padded name is no zero id, because its first character is none. -/
theorem rightPad_ne_zero {bytes : Bytes} (nonEmpty : bytes ≠ [])
    (graphic : bytes.all isAsciiGraphic = true) (fits : bytes.length ≤ size) :
    (rightPad bytes fits).toList ≠ List.replicate 32 0 := by
  intro zero
  obtain ⟨first, member⟩ := List.exists_mem_of_ne_nil bytes nonEmpty
  have padded : first ∈ (rightPad bytes fits).toList := List.mem_append_left _ member
  have isGraphic := List.all_eq_true.mp graphic first member
  rw [zero] at padded
  rw [List.eq_of_mem_replicate padded, isAsciiGraphic_zero] at isGraphic
  cases isGraphic

def fromStr (s : String) : Except GeneralError ServiceType :=
  if bounds : utf8 s ≠ [] ∧ (utf8 s).length ≤ size then
    if graphic : (utf8 s).all isAsciiGraphic = true then
      .ok ⟨rightPad (utf8 s) bounds.2, rightPad_ne_zero bounds.1 graphic bounds.2⟩
    else .error (.parseError "service type name must be printable non-space ASCII")
  else .error (.parseError "service type name must be 1 to 32 bytes long")

/-- The name, or the hexadecimal id of a service type without one. -/
def display (serviceType : ServiceType) : String :=
  match serviceType.asAscii with
  | some name => name
  | none => toHex serviceType.bytes

/-! ### Names and ids -/

def IsName (s : String) : Prop :=
  1 ≤ (utf8 s).length ∧ (utf8 s).length ≤ size ∧ (utf8 s).all isAsciiGraphic = true

theorem fromStr_eq_ok_iff {s : String} {serviceType : ServiceType} :
    fromStr s = .ok serviceType ↔
      IsName s ∧ serviceType.bytes.toList = pad 0 size (utf8 s) := by
  unfold fromStr IsName
  by_cases bounds : utf8 s ≠ [] ∧ (utf8 s).length ≤ size
  · rw [dif_pos bounds]
    have nonEmpty : 1 ≤ (utf8 s).length := List.length_pos_of_ne_nil bounds.1
    by_cases graphic : (utf8 s).all isAsciiGraphic = true
    · rw [dif_pos graphic, Except.ok.injEq]
      constructor
      · intro built
        rw [← built]
        exact ⟨⟨nonEmpty, bounds.2, graphic⟩, rfl⟩
      · intro padded
        obtain ⟨bytes, nonZero⟩ := serviceType
        congr 1
        ext1
        exact padded.2.symm
    · rw [dif_neg graphic]
      constructor
      · intro impossible
        cases impossible
      · intro name
        exact absurd name.1.2.2 graphic
  · rw [dif_neg bounds]
    constructor
    · intro impossible
      cases impossible
    · intro name
      exact absurd ⟨List.ne_nil_of_length_pos name.1.1, name.1.2.1⟩ bounds

theorem fromStr_isOk_iff {s : String} :
    (∃ serviceType, fromStr s = .ok serviceType) ↔ IsName s := by
  constructor
  · intro parsed
    obtain ⟨serviceType, parsed⟩ := parsed
    exact (fromStr_eq_ok_iff.mp parsed).1
  · intro name
    have nonEmpty : utf8 s ≠ [] := List.ne_nil_of_length_pos name.1
    refine ⟨⟨rightPad (utf8 s) name.2.1, rightPad_ne_zero nonEmpty name.2.2 name.2.1⟩, ?_⟩
    exact fromStr_eq_ok_iff.mpr ⟨name, rfl⟩

theorem asAscii_eq_some_iff {serviceType : ServiceType} {s : String} :
    serviceType.asAscii = some s ↔
      IsName s ∧ serviceType.bytes.toList = pad 0 size (utf8 s) := by
  have length : serviceType.bytes.toList.length = size := serviceType.bytes.length_toList
  unfold asAscii
  constructor
  · intro named
    obtain ⟨last, found, named⟩ := Option.bind_eq_some_iff.mp named
    obtain ⟨name, decoded, named⟩ := Option.bind_eq_some_iff.mp named
    obtain ⟨front, lastByte, _, taken, padded⟩ := eq_pad_of_rposition found
    by_cases graphic : (utf8 name).all isAsciiGraphic = true
    · rw [if_pos graphic] at named
      cases named
      rw [fromUtf8_eq_some_iff, taken] at decoded
      rw [length, ← decoded] at padded
      refine ⟨⟨?_, ?_, graphic⟩, padded⟩
      · rw [decoded, List.length_append, List.length_singleton]
        omega
      · rw [decoded, ← taken, List.length_take, length]
        exact Nat.min_le_right _ _
    · rw [if_neg graphic] at named
      cases named
  · intro named
    obtain ⟨⟨positive, _, graphic⟩, padded⟩ := named
    obtain ⟨front, lastByte, whole⟩ :=
      (List.eq_nil_or_concat (utf8 s)).resolve_left (List.ne_nil_of_length_pos positive)
    rw [List.concat_eq_append] at whole
    have notZero : lastByte ≠ 0 := by
      intro zero
      have isGraphic := List.all_eq_true.mp graphic lastByte (by simp [whole])
      rw [zero, isAsciiGraphic_zero] at isGraphic
      cases isGraphic
    have found : rposition (fun byte => decide (byte ≠ 0)) serviceType.bytes.toList =
        some front.length := by
      rw [padded, whole]
      exact take_rposition_pad front notZero
    have taken : serviceType.bytes.toList.take (front.length + 1) = utf8 s := by
      rw [padded, pad, whole]
      exact List.take_left' (by simp)
    have decoded := fromUtf8_eq_some_iff.mpr taken.symm
    rw [Option.bind_eq_bind, Option.bind_eq_some_iff]
    refine ⟨front.length, found, ?_⟩
    rw [Option.bind_eq_bind, Option.bind_eq_some_iff]
    exact ⟨s, decoded, if_pos graphic⟩

/-! ### Hexadecimal ids -/

theorem toList_toHex (bytes : FixedBytes 32) :
    (toHex bytes).toList = lowerMark ++ (hexEncode bytes.toList).toList :=
  String.toList_append

theorem toHex_inj {first second : FixedBytes 32} (same : toHex first = toHex second) :
    first = second := by
  have texts := congrArg String.toList same
  rw [toList_toHex, toList_toHex] at texts
  have decoded := decodePairs_hexEncode first.toList
  rw [List.append_cancel_left texts, decodePairs_hexEncode] at decoded
  ext1
  exact (Option.some.inj decoded).symm

theorem not_isName_toHex (bytes : FixedBytes 32) : ¬IsName (toHex bytes) := by
  intro name
  have short : (utf8 (toHex bytes)).length ≤ 32 := name.2.1
  have digits := (hexDigits_of_decodePairs (decodePairs_hexEncode bytes.toList)).1
  have long := length_le_length_utf8 (toHex bytes)
  rw [toList_toHex, List.length_append, digits, bytes.length_toList] at long
  omega

theorem display_inj {first second : ServiceType} (same : first.display = second.display) :
    first = second := by
  have bytes : first.bytes = second.bytes := by
    unfold display at same
    cases firstName : first.asAscii with
    | some name =>
        rw [firstName] at same
        have firstNamed := asAscii_eq_some_iff.mp firstName
        cases secondName : second.asAscii with
        | some other =>
            rw [secondName] at same
            have secondNamed := asAscii_eq_some_iff.mp secondName
            have names : name = other := same
            ext1
            rw [firstNamed.2, secondNamed.2, names]
        | none =>
            rw [secondName] at same
            have hex : name = toHex second.bytes := same
            exact absurd (hex ▸ firstNamed.1) (not_isName_toHex second.bytes)
    | none =>
        rw [firstName] at same
        cases secondName : second.asAscii with
        | some other =>
            rw [secondName] at same
            have hex : toHex first.bytes = other := same
            exact absurd (hex ▸ (asAscii_eq_some_iff.mp secondName).1)
              (not_isName_toHex first.bytes)
        | none =>
            rw [secondName] at same
            exact toHex_inj same
  obtain ⟨firstBytes, _⟩ := first
  obtain ⟨secondBytes, _⟩ := second
  cases bytes
  rfl

/-- Names and ids correspond one to one, the names are the printable texts of at most 32 bytes,
and no two ids are printed alike. -/
theorem names_correspond :
    (∀ (s : String) (serviceType : ServiceType),
      fromStr s = .ok serviceType ↔ serviceType.asAscii = some s) ∧
    (∀ s : String, (∃ serviceType, fromStr s = .ok serviceType) ↔
      1 ≤ (utf8 s).length ∧ (utf8 s).length ≤ 32 ∧ ∀ byte ∈ utf8 s, 0x21 ≤ byte ∧ byte ≤ 0x7e) ∧
    Function.Injective display := by
  refine ⟨?_, ?_, ?_⟩
  · intro s serviceType
    rw [fromStr_eq_ok_iff, asAscii_eq_some_iff]
  · intro s
    rw [fromStr_isOk_iff, IsName, List.all_eq_true]
    simp only [isAsciiGraphic, decide_eq_true_eq]
    rfl
  · intro first second same
    exact display_inj same

end ServiceType

end HoprTypes.Internal
