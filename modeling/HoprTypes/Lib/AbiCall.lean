import HoprTypes.Lib.AbiDecoding
import HoprTypes.Lib.Keccak

/-!
# The contract ABI: function calls

A function is known on chain by the hash of its canonical signature.  The data of
a call is that selector, followed by the arguments encoded as one tuple.
-/

set_option autoImplicit false

namespace Abi

open BigEndian Keccak

mutual
def Ty.name : Ty → String
  | .uint bits => "uint" ++ toString bits
  | .address => "address"
  | .fixedBytes size => "bytes" ++ toString size
  | .bytes => "bytes"
  | .string => "string"
  | .array element => element.name ++ "[]"
  | .fixedArray element size => element.name ++ "[" ++ toString size ++ "]"
  | .tuple components => "(" ++ ",".intercalate (typeNames components) ++ ")"

def typeNames : List Ty → List String
  | [] => []
  | ty :: rest => ty.name :: typeNames rest
end

structure Function where
  name : String
  inputs : List Ty

def Function.signature (function : Function) : String :=
  function.name ++ (Ty.tuple function.inputs).name

def asciiBytes (text : String) : Bytes := text.toList.map fun letter => UInt8.ofNat letter.toNat

@[irreducible]
def Function.selector (function : Function) : FixedBytes 4 :=
  ⟨(keccak256 (asciiBytes function.signature)).toList.take 4, by simp⟩

structure Call where
  function : Function
  arguments : Values function.inputs

/-- The arguments of a call, or the members of a structure, without a leading offset. -/
def encodeValues (components : List Ty) (values : Values components) : Bytes :=
  encodeParts (tupleParts components values)

def Call.encode (call : Call) : Bytes :=
  call.function.selector.toList ++ encodeValues call.function.inputs call.arguments

/-- A value on its own: a dynamic one stands behind an offset word. -/
def encodeSingle (ty : Ty) (value : ty.Val) : Bytes := encodeValues [ty] (value, ())

def decodeSingle (ty : Ty) (buffer : Bytes) : Option ty.Val :=
  (decodeTuple [ty] buffer 0).map fun values => values.1

/-- Reads the arguments of a call of this function, and refuses calls of any other. -/
def Function.decodeCall (function : Function) (data : Bytes) : Option (Values function.inputs) :=
  if data.take 4 = function.selector.toList then decodeTuple function.inputs (data.drop 4) 0
  else none

/-! ## Encodings without dynamic parts -/

theorem heads_static_append {statics : List Part}
    (static : ∀ part ∈ statics, part.dynamic = false) (tailOffset : Nat) (rest : List Part) :
    heads tailOffset (statics ++ rest) =
      (statics.map Part.body).flatten ++ heads tailOffset rest := by
  induction statics with
  | nil => rfl
  | cons part others ih =>
      have first := static part (by simp)
      have remaining := ih fun part member => static part (by simp [member])
      rw [List.cons_append, heads, first, if_neg (by simp), remaining, List.map_cons,
        List.flatten_cons, List.append_assoc]

theorem tails_static_append {statics : List Part}
    (static : ∀ part ∈ statics, part.dynamic = false) (rest : List Part) :
    tails (statics ++ rest) = tails rest := by
  induction statics with
  | nil => rfl
  | cons part others ih =>
      have first := static part (by simp)
      rw [List.cons_append, tails, first, if_neg (by simp)]
      exact ih fun part member => static part (by simp [member])

theorem encodeParts_of_static {parts : List Part}
    (static : ∀ part ∈ parts, part.dynamic = false) :
    encodeParts parts = (parts.map Part.body).flatten := by
  have headsOnly := heads_static_append static (parts.map Part.headSize).sum []
  rw [List.append_nil, heads, List.append_nil] at headsOnly
  rw [encodeParts, headsOnly, tails_of_static parts static, List.append_nil]

theorem encodeParts_dynamic_last {statics : List Part}
    (static : ∀ part ∈ statics, part.dynamic = false) (body : Bytes) :
    encodeParts (statics ++ [Part.mk true body]) =
      (statics.map Part.body).flatten ++
        (toBE 32 ((statics.map Part.headSize).sum + 32) ++ body) := by
  have offset : ((statics ++ [Part.mk true body]).map Part.headSize).sum =
      (statics.map Part.headSize).sum + 32 := by
    simp [Part.headSize]
  have last : ∀ tailOffset, heads tailOffset [Part.mk true body] = toBE 32 tailOffset := by
    intro tailOffset
    simp [heads]
  rw [encodeParts, offset, heads_static_append static, tails_static_append static, last, tails,
    if_pos rfl, tails, List.append_nil, List.append_assoc]

theorem encodeSingle_of_dynamic {ty : Ty} (dynamic : ty.isDynamic = true) (value : ty.Val) :
    encodeSingle ty value = toBE 32 32 ++ encode ty value := by
  simp [encodeSingle, encodeValues, tupleParts, encodeParts, heads, tails, Part.headSize, dynamic]

/-! ## Lengths -/

/-- The head of a tuple has the size that its types say; the tails stand behind it. -/
theorem length_encodeValues {components : List Ty} (wellFormed : AllWellFormed components)
    (values : Values components) :
    (encodeValues components values).length =
      headSizes components + (tails (tupleParts components values)).length := by
  rw [encodeValues, encodeParts, List.length_append, length_heads,
    sum_headSize_tupleParts components wellFormed values]

theorem length_encodeValues_of_static {components : List Ty}
    (wellFormed : AllWellFormed components) (static : someDynamic components = false)
    (values : Values components) :
    (encodeValues components values).length = headSizes components := by
  have noTails := tails_of_static _ (tupleParts_static components static values)
  rw [length_encodeValues wellFormed, noTails, List.length_nil, Nat.add_zero]

theorem length_padRight_le (bytes : Bytes) : (padRight bytes).length ≤ bytes.length + 31 := by
  rw [padRight, List.length_append, List.length_replicate]
  omega

theorem length_encodeBytes_le (bytes : Bytes) :
    (toBE 32 bytes.length ++ padRight bytes).length ≤ bytes.length + 63 := by
  have padded := length_padRight_le bytes
  rw [List.length_append, length_toBE]
  omega

theorem Call.length_encode (call : Call) :
    call.encode.length = 4 + (encodeValues call.function.inputs call.arguments).length := by
  rw [Call.encode, List.length_append, call.function.selector.length_toList]

theorem Call.length_encode_le_of_tail {call : Call} {data : Bytes}
    (wellFormed : AllWellFormed call.function.inputs)
    (tail : tails (tupleParts call.function.inputs call.arguments) =
      (toBE 32 data.length ++ padRight data) ++ []) :
    call.encode.length ≤ headSizes call.function.inputs + data.length + 67 := by
  have bound := length_encodeBytes_le data
  rw [call.length_encode, length_encodeValues wellFormed, tail, List.append_nil]
  omega

/-! ## Calls are read back -/

theorem encode_tuple {components : List Ty} (values : (Ty.tuple components).Val) :
    encode (.tuple components) values = encodeValues components values := by
  rw [encode]
  rfl

theorem decodeTuple_encodeValues {components : List Ty} (wellFormed : AllWellFormed components)
    (values : Values components) (fits : (encodeValues components values).length < 2 ^ 256) :
    decodeTuple components (encodeValues components values) 0 = some values := by
  have decoded : ∀ value : (Ty.tuple components).Val,
      (encodeValues components value).length < 2 ^ 256 →
        decodeTuple components (encodeValues components value) 0 = some value := by
    intro value fits
    have roundTrip := roundTrips_tuple wellFormed (roundTripsAll components wellFormed) value
    rw [encode_tuple] at roundTrip
    have decoded := roundTrip fits []
    rw [List.append_nil, decode] at decoded
    exact decoded
  exact decoded values fits

theorem decodeSingle_encodeSingle {ty : Ty} (wellFormed : ty.WellFormed) (value : ty.Val)
    (fits : (encodeSingle ty value).length < 2 ^ 256) :
    decodeSingle ty (encodeSingle ty value) = some value := by
  have components : AllWellFormed [ty] := ⟨wellFormed, trivial⟩
  have decoded := decodeTuple_encodeValues components (value, ()) fits
  rw [decodeSingle, encodeSingle, decoded]
  rfl

theorem take_encode (call : Call) : call.encode.take 4 = call.function.selector.toList :=
  List.take_left' call.function.selector.length_toList

theorem decodeCall_encode {call : Call} (wellFormed : AllWellFormed call.function.inputs)
    (fits : call.encode.length < 2 ^ 256) :
    call.function.decodeCall call.encode = some call.arguments := by
  have behind : call.encode.drop 4 = encodeValues call.function.inputs call.arguments :=
    List.drop_left' call.function.selector.length_toList
  rw [Call.encode, List.length_append] at fits
  rw [Function.decodeCall, if_pos (take_encode call), behind]
  exact decodeTuple_encodeValues wellFormed call.arguments (by omega)

end Abi
