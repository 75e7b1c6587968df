import HoprTypes.Lib.BigEndian

/-!
# Recursive-length prefix

The serialization of byte strings and nested lists, with integers in their shortest
form, and the reading of the first item of a byte string.
-/

set_option autoImplicit false

namespace Rlp

open BigEndian

inductive Item where
  | string (data : Bytes)
  | list (items : List Item)

/-- An integer is the string of its shortest form. -/
def Item.uint (value : Nat) : Item := .string (minimalBE value)

/-- The prefix of a payload; a size above 55 is written out behind its own length. -/
def header (base size : Nat) : Bytes :=
  if size ≤ 55 then [UInt8.ofNat (base + size)]
  else UInt8.ofNat (base + 55 + (minimalBE size).length) :: minimalBE size

def isPlain : Bytes → Bool
  | [byte] => byte.toNat < 0x80
  | _ => false

def encodeString (data : Bytes) : Bytes :=
  if isPlain data then data else header 0x80 data.length ++ data

def encodeList (payload : Bytes) : Bytes := header 0xc0 payload.length ++ payload

mutual

def encode : Item → Bytes
  | .string data => encodeString data
  | .list items => encodeList (encodeAll items)

def encodeAll : List Item → Bytes
  | [] => []
  | item :: items => encode item ++ encodeAll items

end

theorem encodeAll_append (front back : List Item) :
    encodeAll (front ++ back) = encodeAll front ++ encodeAll back := by
  induction front with
  | nil => rfl
  | cons item items ih => rw [List.cons_append, encodeAll, encodeAll, ih, List.append_assoc]

/-! ## Reading the first item -/

/-- The first item of a byte string: its kind, its content and what follows it. -/
@[ext]
structure Front where
  isList : Bool
  content : Bytes
  rest : Bytes

def readSized (isList : Bool) (size : Nat) (bytes : Bytes) : Option Front :=
  if size ≤ bytes.length then some ⟨isList, bytes.take size, bytes.drop size⟩ else none

def readLong (isList : Bool) (sizeLength : Nat) (bytes : Bytes) : Option Front :=
  readSized isList (ofBE (bytes.take sizeLength)) (bytes.drop sizeLength)

def readFront : Bytes → Option Front
  | [] => none
  | first :: bytes =>
      if first.toNat < 0x80 then some ⟨false, [first], bytes⟩
      else if first.toNat ≤ 0xb7 then readSized false (first.toNat - 0x80) bytes
      else if first.toNat ≤ 0xbf then readLong false (first.toNat - 0xb7) bytes
      else if first.toNat ≤ 0xf7 then readSized true (first.toNat - 0xc0) bytes
      else readLong true (first.toNat - 0xf7) bytes

theorem readSized_append (isList : Bool) (content rest : Bytes) :
    readSized isList content.length (content ++ rest) = some ⟨isList, content, rest⟩ := by
  have fits : content.length ≤ (content ++ rest).length := by simp
  rw [readSized, if_pos fits, List.take_left, List.drop_left]

theorem readLong_append (isList : Bool) (content rest : Bytes) :
    readLong isList (minimalBE content.length).length
      (minimalBE content.length ++ (content ++ rest)) = some ⟨isList, content, rest⟩ := by
  rw [readLong, List.take_left, List.drop_left, ofBE_minimalBE, readSized_append]

theorem header_cases {size : Nat} (small : size < 2 ^ 64) :
    size ≤ 55 ∨ 55 < size ∧ 1 ≤ (minimalBE size).length ∧ (minimalBE size).length ≤ 8 := by
  rcases Nat.lt_or_ge 55 size with large | short
  · refine Or.inr ⟨large, ?_, length_minimalBE_le (by omega)⟩
    have nonempty : minimalBE size ≠ [] := by
      intro empty
      have value := ofBE_minimalBE size
      rw [empty, ofBE_nil] at value
      omega
    exact List.length_pos_of_ne_nil nonempty
  · exact Or.inl short

theorem readFront_string_header {data : Bytes} (rest : Bytes) (small : data.length < 2 ^ 64) :
    readFront (header 0x80 data.length ++ (data ++ rest)) = some ⟨false, data, rest⟩ := by
  unfold header
  rcases header_cases small with short | ⟨large, positive, bounded⟩
  · have first : (UInt8.ofNat (0x80 + data.length)).toNat = 0x80 + data.length := by
      rw [UInt8.toNat_ofNat']
      omega
    rw [if_pos short, List.singleton_append, readFront, first, if_neg (by omega),
      if_pos (by omega), Nat.add_sub_cancel_left, readSized_append]
  · have first : (UInt8.ofNat (0x80 + 55 + (minimalBE data.length).length)).toNat =
        0xb7 + (minimalBE data.length).length := by
      rw [UInt8.toNat_ofNat']
      omega
    rw [if_neg (by omega), List.cons_append, readFront, first, if_neg (by omega),
      if_neg (by omega), if_pos (by omega), Nat.add_sub_cancel_left, readLong_append]

theorem readFront_list_header {payload : Bytes} (rest : Bytes) (small : payload.length < 2 ^ 64) :
    readFront (header 0xc0 payload.length ++ (payload ++ rest)) = some ⟨true, payload, rest⟩ := by
  unfold header
  rcases header_cases small with short | ⟨large, positive, bounded⟩
  · have first : (UInt8.ofNat (0xc0 + payload.length)).toNat = 0xc0 + payload.length := by
      rw [UInt8.toNat_ofNat']
      omega
    rw [if_pos short, List.singleton_append, readFront, first, if_neg (by omega),
      if_neg (by omega), if_neg (by omega), if_pos (by omega), Nat.add_sub_cancel_left,
      readSized_append]
  · have first : (UInt8.ofNat (0xc0 + 55 + (minimalBE payload.length).length)).toNat =
        0xf7 + (minimalBE payload.length).length := by
      rw [UInt8.toNat_ofNat']
      omega
    rw [if_neg (by omega), List.cons_append, readFront, first, if_neg (by omega),
      if_neg (by omega), if_neg (by omega), if_neg (by omega), Nat.add_sub_cancel_left,
      readLong_append]

theorem readFront_encodeString {data : Bytes} (rest : Bytes) (small : data.length < 2 ^ 64) :
    readFront (encodeString data ++ rest) = some ⟨false, data, rest⟩ := by
  unfold encodeString
  by_cases plain : isPlain data
  · rw [if_pos plain]
    match data, plain with
    | [byte], plain =>
        have low : byte.toNat < 0x80 := by simpa [isPlain] using plain
        rw [List.singleton_append, readFront, if_pos low]
  · rw [if_neg plain, List.append_assoc, readFront_string_header rest small]

theorem readFront_encodeList {payload : Bytes} (rest : Bytes) (small : payload.length < 2 ^ 64) :
    readFront (encodeList payload ++ rest) = some ⟨true, payload, rest⟩ := by
  rw [encodeList, List.append_assoc, readFront_list_header rest small]

theorem encodeString_append_inj {left right : Bytes} {leftRest rightRest : Bytes}
    (leftSmall : left.length < 2 ^ 64) (rightSmall : right.length < 2 ^ 64)
    (same : encodeString left ++ leftRest = encodeString right ++ rightRest) :
    left = right ∧ leftRest = rightRest := by
  have leftRead := readFront_encodeString leftRest leftSmall
  rw [same, readFront_encodeString rightRest rightSmall, Option.some.injEq,
    Front.mk.injEq] at leftRead
  exact ⟨leftRead.2.1.symm, leftRead.2.2.symm⟩

/-! ## Lengths -/

theorem length_header_mono (base : Nat) {small large : Nat} (le : small ≤ large) :
    (header base small).length ≤ (header base large).length := by
  have sizes := length_minimalBE_mono le
  unfold header
  split_ifs with smallShort largeShort largeShort
  · exact le_refl _
  · simp
  · omega
  · simp only [List.length_cons]
    omega

theorem encodeList_injective {left right : Bytes} (same : encodeList left = encodeList right) :
    left = right := by
  have lengths := congrArg List.length same
  unfold encodeList at same lengths
  rw [List.length_append, List.length_append] at lengths
  have equal : left.length = right.length := by
    rcases Nat.le_total left.length right.length with le | le
    · have headers := length_header_mono 0xc0 le
      omega
    · have headers := length_header_mono 0xc0 le
      omega
  rw [equal] at same
  exact List.append_cancel_left same

theorem length_encodeString_le {data : Bytes} (small : data.length < 2 ^ 64) :
    (encodeString data).length ≤ data.length + 9 := by
  have size : (minimalBE data.length).length ≤ 8 := length_minimalBE_le (by omega)
  unfold encodeString header
  split_ifs with plain short
  · omega
  · simp only [List.length_append, List.length_singleton]
    omega
  · simp only [List.length_append, List.length_cons]
    omega

theorem length_encodeList_le {payload : Bytes} (small : payload.length < 2 ^ 64) :
    (encodeList payload).length ≤ payload.length + 9 := by
  rw [encodeList, List.length_append, header]
  rcases header_cases small with short | ⟨large, _, bounded⟩
  · rw [if_pos short, List.length_singleton]
    omega
  · rw [if_neg (by omega), List.length_cons]
    omega

def Item.front : Item → Bool × Bytes
  | .string data => (false, data)
  | .list items => (true, encodeAll items)

theorem length_encodeAll_le {items : List Item}
    (small : ∀ item ∈ items, item.front.2.length < 2 ^ 64) :
    (encodeAll items).length ≤ (items.map fun item => item.front.2.length + 9).sum := by
  induction items with
  | nil => exact le_refl 0
  | cons item items ih =>
      have first : (encode item).length ≤ item.front.2.length + 9 := by
        have short := small item List.mem_cons_self
        cases item with
        | string data =>
            rw [encode]
            exact length_encodeString_le short
        | list items =>
            rw [encode]
            exact length_encodeList_le short
      have others := ih fun item member => small item (List.mem_cons_of_mem _ member)
      rw [encodeAll, List.length_append, List.map_cons, List.sum_cons]
      omega

theorem length_content_le (item : Item) : item.front.2.length ≤ (encode item).length := by
  cases item with
  | string data =>
      show data.length ≤ (encode (.string data)).length
      rw [encode]
      unfold encodeString
      split_ifs
      · exact le_refl _
      · rw [List.length_append]
        omega
  | list items =>
      show (encodeAll items).length ≤ (encode (.list items)).length
      rw [encode, encodeList, List.length_append]
      omega

theorem length_encode_le_encodeAll {items : List Item} {item : Item} (member : item ∈ items) :
    (encode item).length ≤ (encodeAll items).length := by
  induction items with
  | nil => cases member
  | cons first items ih =>
      rw [encodeAll, List.length_append]
      rcases List.mem_cons.mp member with rfl | member
      · omega
      · have inside := ih member
        omega

/-! ## Reading all items -/

/-- Reads a number of items, behind which nothing may follow. -/
def readItems : Nat → Bytes → Option (List (Bool × Bytes))
  | 0, bytes => if bytes = [] then some [] else none
  | count + 1, bytes => do
      let front ← readFront bytes
      let fronts ← readItems count front.rest
      some ((front.isList, front.content) :: fronts)

theorem readFront_encode {item : Item} (rest : Bytes) (small : item.front.2.length < 2 ^ 64) :
    readFront (encode item ++ rest) = some ⟨item.front.1, item.front.2, rest⟩ := by
  cases item with
  | string data =>
      rw [encode]
      exact readFront_encodeString rest small
  | list items =>
      rw [encode]
      exact readFront_encodeList rest small

theorem readItems_encodeAll {items : List Item}
    (small : ∀ item ∈ items, item.front.2.length < 2 ^ 64) :
    readItems items.length (encodeAll items) = some (items.map Item.front) := by
  induction items with
  | nil => rfl
  | cons item items ih =>
      have first := small item List.mem_cons_self
      have others := ih fun item member => small item (List.mem_cons_of_mem _ member)
      rw [encodeAll, List.length_cons, readItems, readFront_encode _ first, Option.bind_eq_bind,
        Option.bind_some, others]
      rfl

end Rlp
