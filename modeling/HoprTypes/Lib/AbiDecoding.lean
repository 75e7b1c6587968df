import HoprTypes.Lib.AbiEncoding

/-!
# The contract ABI: decoding

The decoder follows the offset words, so it accepts any placement of the tails.
It inverts the encoder on every value whose encoding is shorter than `2 ^ 256`
bytes, whatever follows the encoding in the buffer.
-/

set_option autoImplicit false

namespace Abi

open BigEndian

def readWord (buffer : Bytes) : Option Nat :=
  if 32 ≤ buffer.length then some (ofBE (buffer.take 32)) else none

def readBytes (size : Nat) (buffer : Bytes) : Option (FixedBytes size) :=
  if fits : size ≤ buffer.length then
    some ⟨buffer.take size, by simpa using fits⟩
  else none

def readDynamicBytes (buffer : Bytes) : Option Bytes := do
  let length ← readWord buffer
  if length ≤ (buffer.drop 32).length then some ((buffer.drop 32).take length) else none

/-- Reads a component of a tuple that starts at `base`, its head being at `offset`. -/
def readComponent {α : Type} (dynamic : Bool) (decodeBody : Bytes → Option α)
    (base : Bytes) (offset : Nat) : Option α :=
  if dynamic then do
    let tailOffset ← readWord (base.drop offset)
    decodeBody (base.drop tailOffset)
  else decodeBody (base.drop offset)

def readElements {α : Type} (readAt : Nat → Option α) (headSize : Nat) :
    Nat → Nat → Option (List α)
  | 0, _ => some []
  | count + 1, offset => do
      let value ← readAt offset
      let values ← readElements readAt headSize count (offset + headSize)
      some (value :: values)

mutual
def decode : (ty : Ty) → Bytes → Option ty.Val
  | .uint bits, buffer => (readWord buffer).map (BitVec.ofNat bits)
  | .address, buffer => readBytes 20 (buffer.drop 12)
  | .fixedBytes size, buffer => readBytes size buffer
  | .bytes, buffer => readDynamicBytes buffer
  | .string, buffer => readDynamicBytes buffer
  | .array element, buffer => do
      let count ← readWord buffer
      readElements (readComponent element.isDynamic (decode element) (buffer.drop 32))
        element.headSize count 0
  | .fixedArray element size, buffer => do
      let values ← readElements (readComponent element.isDynamic (decode element) buffer)
        element.headSize size 0
      if exact : values.length = size then some ⟨values, exact⟩ else none
  | .tuple components, buffer => decodeTuple components buffer 0

def decodeTuple : (components : List Ty) → Bytes → Nat → Option (Values components)
  | [], _, _ => some ()
  | ty :: rest, base, offset => do
      let value ← readComponent ty.isDynamic (decode ty) base offset
      let values ← decodeTuple rest base (offset + ty.headSize)
      some (value, values)
end

/-! ## Reading back what was written -/

theorem readWord_toBE {value : Nat} (fits : value < 2 ^ 256) (rest : Bytes) :
    readWord (toBE 32 value ++ rest) = some value := by
  have taken : (toBE 32 value ++ rest).take 32 = toBE 32 value :=
    List.take_left' (length_toBE 32 value)
  have bound : value < 256 ^ 32 := by simpa using fits
  rw [readWord, if_pos (by simp), taken, ofBE_toBE_of_lt bound]

theorem readBytes_append {size : Nat} (value : FixedBytes size) (rest : Bytes) :
    readBytes size (value.toList ++ rest) = some value := by
  have fits : size ≤ (value.toList ++ rest).length := by simp
  rw [readBytes, dif_pos fits, Option.some.injEq]
  ext1
  exact List.take_left' value.length_toList

theorem readDynamicBytes_append {bytes : Bytes} (fits : bytes.length < 2 ^ 256) (rest : Bytes) :
    readDynamicBytes ((toBE 32 bytes.length ++ padRight bytes) ++ rest) = some bytes := by
  have body : (toBE 32 bytes.length ++ (padRight bytes ++ rest)).drop 32 = padRight bytes ++ rest :=
    List.drop_left' (length_toBE 32 _)
  rw [List.append_assoc, readDynamicBytes, readWord_toBE fits, Option.bind_eq_bind,
    Option.bind_some, body, padRight]
  simp

/-- The state of the buffer in front of the parts still to be read: their heads at
`offset`, their tails at `tailOffset`. -/
structure PartsAt (base : Bytes) (offset tailOffset : Nat) (parts : List Part) : Prop where
  heads : ∃ rest, base.drop offset = heads tailOffset parts ++ rest
  tails : ∃ rest, base.drop tailOffset = tails parts ++ rest
  fits : tailOffset + (Abi.tails parts).length < 2 ^ 256

theorem partsAt_encodeParts (parts : List Part) (rest : Bytes)
    (fits : (encodeParts parts).length < 2 ^ 256) :
    PartsAt (encodeParts parts ++ rest) 0 (parts.map Part.headSize).sum parts := by
  have size := length_heads (parts.map Part.headSize).sum parts
  refine ⟨⟨tails parts ++ rest, ?_⟩, ⟨rest, ?_⟩, ?_⟩
  · rw [List.drop_zero, encodeParts, List.append_assoc]
  · rw [encodeParts, List.append_assoc, List.drop_left' size]
  · simpa [encodeParts, size] using fits

theorem readComponent_spec {α : Type} (dynamic : Bool) (body : Bytes) (value : α)
    (decodeBody : Bytes → Option α)
    (roundTrip : ∀ rest, decodeBody (body ++ rest) = some value)
    {base : Bytes} {offset tailOffset : Nat} {parts : List Part}
    (placed : PartsAt base offset tailOffset (⟨dynamic, body⟩ :: parts)) :
    readComponent dynamic decodeBody base offset = some value ∧
      ∃ nextTail, PartsAt base (offset + Part.headSize ⟨dynamic, body⟩) nextTail parts := by
  obtain ⟨⟨headRest, headsAt⟩, ⟨tailRest, tailsAt⟩, fits⟩ := placed
  cases dynamic with
  | false =>
      simp only [heads, tails, Bool.false_eq_true, if_false] at headsAt tailsAt fits
      rw [List.append_assoc] at headsAt
      refine ⟨?_, tailOffset, ⟨headRest, ?_⟩, ⟨tailRest, tailsAt⟩, fits⟩
      · rw [readComponent, if_neg (by simp), headsAt, roundTrip]
      · rw [Part.headSize, if_neg (by simp), ← List.drop_drop, headsAt, List.drop_left]
  | true =>
      simp only [heads, tails, if_true, List.length_append] at headsAt tailsAt fits
      rw [List.append_assoc] at headsAt tailsAt
      have offsetFits : tailOffset < 2 ^ 256 := by omega
      refine ⟨?_, tailOffset + body.length, ⟨headRest, ?_⟩, ⟨tailRest, ?_⟩, by omega⟩
      · rw [readComponent, if_pos rfl, headsAt, readWord_toBE offsetFits, Option.bind_eq_bind,
          Option.bind_some, tailsAt, roundTrip]
      · rw [Part.headSize, if_pos rfl, ← List.drop_drop, headsAt,
          List.drop_left' (length_toBE 32 _)]
      · rw [← List.drop_drop, tailsAt, List.drop_left]

theorem readElements_spec {α : Type} (dynamic : Bool) (headSize : Nat) (body : α → Bytes)
    (decodeBody : Bytes → Option α) (values : List α)
    (sizes : ∀ value, Part.headSize ⟨dynamic, body value⟩ = headSize)
    (roundTrip : ∀ value ∈ values, ∀ rest, decodeBody (body value ++ rest) = some value)
    {base : Bytes} {offset tailOffset : Nat}
    (placed : PartsAt base offset tailOffset (values.map fun value => ⟨dynamic, body value⟩)) :
    readElements (readComponent dynamic decodeBody base) headSize values.length offset =
      some values := by
  induction values generalizing offset tailOffset with
  | nil => rfl
  | cons value rest ih =>
      obtain ⟨first, nextTail, placedRest⟩ :=
        readComponent_spec dynamic (body value) value decodeBody (roundTrip value (by simp)) placed
      rw [sizes] at placedRest
      have others := ih (fun value member => roundTrip value (by simp [member])) placedRest
      simp [readElements, first, others]

theorem length_body_le_encodeParts (parts : List Part) (part : Part) (member : part ∈ parts) :
    part.body.length ≤ (encodeParts parts).length := by
  have general : ∀ tailOffset, part.body.length ≤
      (heads tailOffset parts).length + (tails parts).length := by
    induction parts with
    | nil => simp at member
    | cons first rest ih =>
        intro tailOffset
        rcases List.mem_cons.mp member with rfl | member
        · cases dynamic : part.dynamic <;> simp [heads, tails, dynamic] <;> omega
        · cases dynamic : first.dynamic with
          | false =>
              have := ih member tailOffset
              simp [heads, tails, dynamic]
              omega
          | true =>
              have := ih member (tailOffset + first.body.length)
              simp [heads, tails, dynamic]
              omega
  simpa [encodeParts] using general _

/-! ## Round trip, one type constructor at a time -/

/-- Decoding a short enough encoding gives the value back, whatever follows it. -/
def RoundTrips (ty : Ty) : Prop :=
  ∀ value : ty.Val, (encode ty value).length < 2 ^ 256 →
    ∀ rest, decode ty (encode ty value ++ rest) = some value

theorem roundTrips_uint {bits : Nat} (narrow : bits ≤ 256) : RoundTrips (.uint bits) := by
  intro (value : BitVec bits) _ rest
  have bound : value.toNat < 2 ^ 256 :=
    lt_of_lt_of_le value.isLt (Nat.pow_le_pow_right (by decide) narrow)
  have back : BitVec.ofNat bits value.toNat = value := by
    rw [BitVec.ofNat_toNat, BitVec.setWidth_eq]
  show (readWord (toBE 32 value.toNat ++ rest)).map (BitVec.ofNat bits) = some value
  rw [readWord_toBE bound, Option.map_some, back]

theorem roundTrips_address : RoundTrips .address := by
  intro value _ rest
  have pad : ((List.replicate 12 0 ++ FixedBytes.toList value) ++ rest).drop 12 =
      FixedBytes.toList value ++ rest := by
    rw [List.append_assoc, List.drop_left' (List.length_replicate)]
  rw [encode, decode, pad]
  exact readBytes_append value rest

theorem roundTrips_fixedBytes (size : Nat) : RoundTrips (.fixedBytes size) := by
  intro value _ rest
  rw [encode, decode, List.append_assoc]
  exact readBytes_append value _

theorem length_lt_of_padded {bytes : Bytes}
    (fits : (toBE 32 bytes.length ++ padRight bytes).length < 2 ^ 256) :
    bytes.length < 2 ^ 256 := by
  simp only [padRight, List.length_append] at fits
  omega

theorem roundTrips_bytes : RoundTrips .bytes := by
  intro value fits rest
  rw [encode] at fits
  rw [encode, decode]
  exact readDynamicBytes_append (length_lt_of_padded fits) rest

theorem roundTrips_string : RoundTrips .string := by
  intro value fits rest
  rw [encode] at fits
  rw [encode, decode]
  exact readDynamicBytes_append (length_lt_of_padded fits) rest

theorem readElements_encodeParts {element : Ty} (wellFormed : element.WellFormed)
    (roundTrip : RoundTrips element) (values : List element.Val) (rest : Bytes)
    (fits : (encodeParts (values.map fun value => ⟨element.isDynamic, encode element value⟩)).length
      < 2 ^ 256) :
    readElements (readComponent element.isDynamic (decode element)
        (encodeParts (values.map fun value => ⟨element.isDynamic, encode element value⟩) ++ rest))
      element.headSize values.length 0 = some values := by
  apply readElements_spec element.isDynamic element.headSize (encode element) (decode element)
    values (headSize_part element wellFormed) _ (partsAt_encodeParts _ rest fits)
  intro value member
  apply roundTrip value
  have body := length_body_le_encodeParts
    (values.map fun value => (⟨element.isDynamic, encode element value⟩ : Part)) _
    (List.mem_map_of_mem member)
  exact lt_of_le_of_lt body fits

theorem roundTrips_fixedArray {element : Ty} (size : Nat) (wellFormed : element.WellFormed)
    (roundTrip : RoundTrips element) : RoundTrips (.fixedArray element size) := by
  intro values fits rest
  rw [encode] at fits
  have elements := readElements_encodeParts wellFormed roundTrip values.val rest fits
  rw [values.property] at elements
  rw [encode, decode, elements, Option.bind_eq_bind, Option.bind_some, dif_pos values.property]
  rfl

/-- Every element takes room, so an array is never longer than its encoding. -/
theorem length_le_encodeParts {element : Ty} (wellFormed : element.WellFormed)
    (takesRoom : 0 < element.headSize) (values : List element.Val) :
    values.length ≤ (encodeParts (values.map fun value =>
      ⟨element.isDynamic, encode element value⟩)).length := by
  have headRoom : ((values.map fun value => (⟨element.isDynamic, encode element value⟩ : Part)).map
      Part.headSize).sum = values.length * element.headSize := by
    induction values with
    | nil => simp
    | cons value rest ih =>
        rw [List.map_cons, List.map_cons, List.sum_cons, ih, List.length_cons,
          headSize_part element wellFormed]
        ring
  rw [encodeParts, List.length_append, length_heads, headRoom]
  exact Nat.le_add_right_of_le (Nat.le_mul_of_pos_right _ takesRoom)

theorem roundTrips_array {element : Ty} (takesRoom : 0 < element.headSize)
    (wellFormed : element.WellFormed) (roundTrip : RoundTrips element) :
    RoundTrips (.array element) := by
  intro values fits rest
  have body : (toBE 32 values.length ++ (encodeParts (values.map fun value =>
      ⟨element.isDynamic, encode element value⟩) ++ rest)).drop 32 = _ :=
    List.drop_left' (length_toBE 32 _)
  rw [encode, List.length_append, length_toBE] at fits
  have count := length_le_encodeParts wellFormed takesRoom values
  have elements := readElements_encodeParts wellFormed roundTrip values rest (by omega)
  rw [encode, decode, List.append_assoc, body, readWord_toBE (by omega), Option.bind_eq_bind,
    Option.bind_some, elements]
  rfl

theorem decodeTuple_spec (components : List Ty) (wellFormed : AllWellFormed components)
    (roundTrip : ∀ ty ∈ components, RoundTrips ty) (values : Values components) {base : Bytes}
    {offset tailOffset : Nat}
    (placed : PartsAt base offset tailOffset (tupleParts components values))
    (short : ∀ part ∈ tupleParts components values, part.body.length < 2 ^ 256) :
    decodeTuple components base offset = some values := by
  induction components generalizing offset tailOffset with
  | nil => rfl
  | cons ty rest ih =>
      have decoded := roundTrip ty (by simp) values.1
        (short ⟨ty.isDynamic, encode ty values.1⟩ (by simp [tupleParts]))
      obtain ⟨first, nextTail, placedRest⟩ :=
        readComponent_spec ty.isDynamic (encode ty values.1) values.1 (decode ty) decoded placed
      rw [headSize_part ty wellFormed.1] at placedRest
      have others := ih wellFormed.2 (fun ty member => roundTrip ty (by simp [member])) values.2
        placedRest fun part member => short part (by simp [tupleParts, member])
      rw [decodeTuple, first, Option.bind_eq_bind, Option.bind_some, others]
      rfl

theorem roundTrips_tuple {components : List Ty} (wellFormed : AllWellFormed components)
    (roundTrip : ∀ ty ∈ components, RoundTrips ty) : RoundTrips (.tuple components) := by
  intro values fits rest
  rw [encode] at fits
  rw [encode, decode]
  exact decodeTuple_spec components wellFormed roundTrip values (partsAt_encodeParts _ rest fits)
    fun part member => lt_of_le_of_lt (length_body_le_encodeParts _ part member) fits

mutual
theorem roundTrips : (ty : Ty) → ty.WellFormed → RoundTrips ty
  | .uint _, wellFormed => roundTrips_uint wellFormed
  | .address, _ => roundTrips_address
  | .fixedBytes size, _ => roundTrips_fixedBytes size
  | .bytes, _ => roundTrips_bytes
  | .string, _ => roundTrips_string
  | .array element, wellFormed =>
      roundTrips_array wellFormed.1 wellFormed.2 (roundTrips element wellFormed.2)
  | .fixedArray element size, wellFormed =>
      roundTrips_fixedArray size wellFormed (roundTrips element wellFormed)
  | .tuple components, wellFormed =>
      roundTrips_tuple wellFormed (roundTripsAll components wellFormed)

theorem roundTripsAll : (components : List Ty) → AllWellFormed components →
    ∀ ty ∈ components, RoundTrips ty
  | [], _, _, member => by simp at member
  | first :: rest, wellFormed, ty, member => by
      have firstRoundTrips := roundTrips first wellFormed.1
      have restRoundTrip := roundTripsAll rest wellFormed.2
      rcases List.mem_cons.mp member with same | member
      · rw [same]
        exact firstRoundTrips
      · exact restRoundTrip ty member
end

end Abi
