import HoprTypes.Lib.BigEndian

/-!
# Protocol buffer fields and multihashes

Varints of seven bits a byte, the fields of a protobuf message that are a varint or a byte
string, and multihashes: a hash code, the size of the digest and the digest.
-/

set_option autoImplicit false

namespace Protobuf

open BigEndian

/-- Seven bits a byte, the lowest first; all but the last byte have their top bit set. -/
def varint (value : Nat) : Bytes :=
  if value < 128 then [UInt8.ofNat value]
  else UInt8.ofNat (128 + value % 128) :: varint (value / 128)

theorem varint_of_lt {value : Nat} (small : value < 128) : varint value = [UInt8.ofNat value] := by
  rw [varint, if_pos small]

def tag (number wireType : Nat) : Bytes := varint (number * 8 + wireType)

def varintField (number value : Nat) : Bytes := tag number 0 ++ varint value

def bytesField (number : Nat) (value : Bytes) : Bytes :=
  tag number 2 ++ varint value.length ++ value

def multihash (code : Nat) (digest : Bytes) : Bytes :=
  varint code ++ varint digest.length ++ digest

theorem multihash_of_lt {code : Nat} {digest : Bytes} (smallCode : code < 128)
    (short : digest.length < 128) :
    multihash code digest = UInt8.ofNat code :: UInt8.ofNat digest.length :: digest := by
  rw [multihash, varint_of_lt smallCode, varint_of_lt short]
  rfl

theorem varintField_of_lt {number value : Nat} (smallNumber : number < 16) (small : value < 128) :
    varintField number value = [UInt8.ofNat (number * 8), UInt8.ofNat value] := by
  rw [varintField, tag, varint_of_lt (by omega), varint_of_lt small]
  rfl

theorem bytesField_of_lt {number : Nat} {value : Bytes} (smallNumber : number < 15)
    (short : value.length < 128) :
    bytesField number value =
      UInt8.ofNat (number * 8 + 2) :: UInt8.ofNat value.length :: value := by
  rw [bytesField, tag, varint_of_lt (by omega), varint_of_lt short]
  rfl

end Protobuf
