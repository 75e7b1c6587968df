import HoprTypes.Lib.BigEndian

/-!
# The contract ABI: types, values and their encoding

A value is encoded by the head/tail scheme of the Solidity contract ABI: a
static component sits in the head of its tuple, a dynamic component leaves an
offset word there and sits in the tail.
-/

set_option autoImplicit false

namespace Abi

open BigEndian

inductive Ty where
  | uint (bits : Nat)
  | address
  | fixedBytes (size : Nat)
  | bytes
  | string
  | array (element : Ty)
  | fixedArray (element : Ty) (size : Nat)
  | tuple (components : List Ty)

mutual
/-- The values of an ABI type.  A `string` is its UTF-8 bytes. -/
def Ty.Val : Ty → Type
  | .uint bits => BitVec bits
  | .address => FixedBytes 20
  | .fixedBytes size => FixedBytes size
  | .bytes => Bytes
  | .string => Bytes
  | .array element => List element.Val
  | .fixedArray element size => { values : List element.Val // values.length = size }
  | .tuple components => Values components

def Values : List Ty → Type
  | [] => Unit
  | ty :: rest => ty.Val × Values rest
end

mutual
def Ty.isDynamic : Ty → Bool
  | .uint _ => false
  | .address => false
  | .fixedBytes _ => false
  | .bytes => true
  | .string => true
  | .array _ => true
  | .fixedArray element _ => element.isDynamic
  | .tuple components => someDynamic components

def someDynamic : List Ty → Bool
  | [] => false
  | ty :: rest => ty.isDynamic || someDynamic rest
end

mutual
def Ty.headSize : Ty → Nat
  | .fixedArray element size => if element.isDynamic then 32 else size * element.headSize
  | .tuple components => if someDynamic components then 32 else headSizes components
  | .uint _ => 32
  | .address => 32
  | .fixedBytes _ => 32
  | .bytes => 32
  | .string => 32
  | .array _ => 32

def headSizes : List Ty → Nat
  | [] => 0
  | ty :: rest => ty.headSize + headSizes rest
end

mutual
/-- The types of the ABI: integers and byte arrays of at most a word, and no arrays of
elements that take no room. -/
def Ty.WellFormed : Ty → Prop
  | .uint bits => bits ≤ 256
  | .fixedBytes size => size ≤ 32
  | .array element => 0 < element.headSize ∧ element.WellFormed
  | .fixedArray element _ => element.WellFormed
  | .tuple components => AllWellFormed components
  | .address => True
  | .bytes => True
  | .string => True

def AllWellFormed : List Ty → Prop
  | [] => True
  | ty :: rest => ty.WellFormed ∧ AllWellFormed rest
end

mutual
/-- The strings in the value are UTF-8 texts; others are not read back as they are. -/
def Ty.ValidText : (ty : Ty) → ty.Val → Prop
  | .string, value => ∃ text : String, value = text.toUTF8.data.toList
  | .array element, values => values.Forall element.ValidText
  | .fixedArray element _, values => values.val.Forall element.ValidText
  | .tuple components, values => AllValidText components values
  | .uint _, _ => True
  | .address, _ => True
  | .fixedBytes _, _ => True
  | .bytes, _ => True

def AllValidText : (components : List Ty) → Values components → Prop
  | [], _ => True
  | ty :: rest, values => ty.ValidText values.1 ∧ AllValidText rest values.2
end

/-! ## Heads and tails -/

structure Part where
  dynamic : Bool
  body : Bytes

def Part.headSize (part : Part) : Nat := if part.dynamic then 32 else part.body.length

/-- The head section, `tailOffset` being where the next dynamic body will start. -/
def heads : Nat → List Part → Bytes
  | _, [] => []
  | tailOffset, part :: rest =>
      if part.dynamic then toBE 32 tailOffset ++ heads (tailOffset + part.body.length) rest
      else part.body ++ heads tailOffset rest

def tails : List Part → Bytes
  | [] => []
  | part :: rest => if part.dynamic then part.body ++ tails rest else tails rest

def encodeParts (parts : List Part) : Bytes :=
  heads (parts.map Part.headSize).sum parts ++ tails parts

def padRight (bytes : Bytes) : Bytes :=
  bytes ++ List.replicate ((32 - bytes.length % 32) % 32) 0

mutual
def encode : (ty : Ty) → ty.Val → Bytes
  | .uint _, value => toBE 32 value.toNat
  | .address, value => List.replicate 12 0 ++ FixedBytes.toList value
  | .fixedBytes size, value => FixedBytes.toList value ++ List.replicate (32 - size) 0
  | .bytes, value => toBE 32 value.length ++ padRight value
  | .string, value => toBE 32 value.length ++ padRight value
  | .array element, values =>
      toBE 32 values.length ++
        encodeParts (values.map fun value => ⟨element.isDynamic, encode element value⟩)
  | .fixedArray element _, values =>
      encodeParts (values.val.map fun value => ⟨element.isDynamic, encode element value⟩)
  | .tuple components, values => encodeParts (tupleParts components values)

def tupleParts : (components : List Ty) → Values components → List Part
  | [], _ => []
  | ty :: rest, values => ⟨ty.isDynamic, encode ty values.1⟩ :: tupleParts rest values.2
end

/-! ## Sizes -/

theorem length_heads (tailOffset : Nat) (parts : List Part) :
    (heads tailOffset parts).length = (parts.map Part.headSize).sum := by
  induction parts generalizing tailOffset with
  | nil => rfl
  | cons part rest ih =>
      cases dynamic : part.dynamic <;> simp [heads, Part.headSize, dynamic, ih]

theorem tails_of_static (parts : List Part) (static : ∀ part ∈ parts, part.dynamic = false) :
    tails parts = [] := by
  induction parts with
  | nil => rfl
  | cons part rest ih =>
      have first := static part (by simp)
      simp [tails, first, ih fun part member => static part (by simp [member])]

theorem length_encodeParts_of_static (parts : List Part)
    (static : ∀ part ∈ parts, part.dynamic = false) :
    (encodeParts parts).length = (parts.map Part.headSize).sum := by
  rw [encodeParts, tails_of_static parts static, List.append_nil, length_heads]

theorem sum_headSize_elements {α : Type} (size : Nat) (body : α → Bytes)
    (sizes : ∀ value, (body value).length = size) (values : List α) :
    ((values.map fun value => (⟨false, body value⟩ : Part)).map Part.headSize).sum =
      values.length * size := by
  induction values with
  | nil => simp
  | cons value rest ih =>
      rw [List.map_cons, List.map_cons, List.sum_cons, ih, List.length_cons]
      simp only [Part.headSize, Bool.false_eq_true, if_false, sizes]
      ring

theorem headSize_of_dynamic (ty : Ty) (dynamic : ty.isDynamic = true) : ty.headSize = 32 := by
  cases ty with
  | fixedArray element size => rw [Ty.headSize, if_pos (by simpa [Ty.isDynamic] using dynamic)]
  | tuple components => rw [Ty.headSize, if_pos (by simpa [Ty.isDynamic] using dynamic)]
  | uint bits => rfl
  | address => rfl
  | fixedBytes size => rfl
  | bytes => rfl
  | string => rfl
  | array element => rfl

theorem tupleParts_static : (components : List Ty) → someDynamic components = false →
    (values : Values components) → ∀ part ∈ tupleParts components values, part.dynamic = false
  | [], _, _ => by simp [tupleParts]
  | ty :: rest, static, values => by
      simp only [someDynamic, Bool.or_eq_false_iff] at static
      intro part member
      simp only [tupleParts, List.mem_cons] at member
      rcases member with rfl | member
      · exact static.1
      · exact tupleParts_static rest static.2 values.2 part member
mutual
theorem length_encode_of_static : (ty : Ty) → ty.WellFormed → ty.isDynamic = false →
    (value : ty.Val) → (encode ty value).length = ty.headSize
  | .uint _, _, _, _ => by simp [encode, Ty.headSize]
  | .address, _, _, value => by
      have length : (FixedBytes.toList value).length = 20 := value.length_toList
      simp [encode, Ty.headSize, length]
  | .fixedBytes size, wellFormed, _, value => by
      have fits : size ≤ 32 := wellFormed
      have length : (FixedBytes.toList value).length = size := value.length_toList
      rw [encode, List.length_append, length, List.length_replicate, Ty.headSize]
      omega
  | .bytes, _, static, _ => by simp [Ty.isDynamic] at static
  | .string, _, static, _ => by simp [Ty.isDynamic] at static
  | .array _, _, static, _ => by simp [Ty.isDynamic] at static
  | .fixedArray element size, wellFormed, static, values => by
      simp only [Ty.isDynamic] at static
      have sizes := length_encode_of_static element wellFormed static
      have total := sum_headSize_elements element.headSize (encode element) sizes values.val
      rw [encode, length_encodeParts_of_static]
      · rw [static, total, values.property, Ty.headSize, if_neg (by simp [static])]
      · intro part member
        obtain ⟨value, _, rfl⟩ := List.mem_map.mp member
        exact static
  | .tuple components, wellFormed, static, values => by
      simp only [Ty.isDynamic] at static
      have parts := sum_headSize_tupleParts components wellFormed values
      rw [encode, length_encodeParts_of_static _ (tupleParts_static components static values),
        parts, Ty.headSize, if_neg (by simp [static])]

/-- The head of a tuple has the size its type says, whatever its values. -/
theorem sum_headSize_tupleParts : (components : List Ty) → AllWellFormed components →
    (values : Values components) →
    ((tupleParts components values).map Part.headSize).sum = headSizes components
  | [], _, _ => rfl
  | ty :: rest, wellFormed, values => by
      have tail := sum_headSize_tupleParts rest wellFormed.2 values.2
      simp only [tupleParts, List.map_cons, List.sum_cons, headSizes, tail, Part.headSize]
      cases dynamic : ty.isDynamic with
      | false => simp [length_encode_of_static ty wellFormed.1 dynamic values.1]
      | true => simp [headSize_of_dynamic ty dynamic]
end

theorem headSize_part (ty : Ty) (wellFormed : ty.WellFormed) (value : ty.Val) :
    Part.headSize ⟨ty.isDynamic, encode ty value⟩ = ty.headSize := by
  cases dynamic : ty.isDynamic with
  | false => simp [Part.headSize, length_encode_of_static ty wellFormed dynamic value]
  | true => simp [Part.headSize, headSize_of_dynamic ty dynamic]

end Abi
