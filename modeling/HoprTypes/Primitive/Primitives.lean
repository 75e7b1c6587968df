import HoprTypes.Lib.Outcome

/-!
# Primitive types

Fixed-size byte types, 256-bit integers and balances, with the errors of the
conversions from byte slices.
-/

set_option autoImplicit false

namespace HoprTypes.Primitive

open BigEndian

inductive GeneralError where
  | parseError (what : String)
  | invalidInput
  | nonSpecificError (message : String)
deriving DecidableEq, Repr

def GeneralError.display : GeneralError → String
  | .parseError what => "failed to parse/deserialize the data: " ++ what
  | .invalidInput => "input argument to the function is invalid"
  | .nonSpecificError message => "non-specific error: " ++ message

def slice (bytes : Bytes) (offset size : Nat) : Bytes := (bytes.drop offset).take size

/-- The conversion of a byte slice to an array, which checks the length only. -/
def tryFromSlice (size : Nat) (what : String) (value : Bytes) :
    Except GeneralError (FixedBytes size) :=
  if exact : value.length = size then .ok ⟨value, exact⟩ else .error (.parseError what)

/-! ## Addresses and challenges -/

/-- An Ethereum address. -/
abbrev Address := FixedBytes 20

instance : LawfulBEq Address := inferInstance

namespace Address

def size : Nat := 20

def tryFrom (value : Bytes) : Except GeneralError Address := tryFromSlice 20 "Address" value

def zero : Address := ⟨List.replicate 20 0, by decide⟩

end Address

structure EthereumChallenge where
  address : Address
deriving DecidableEq

namespace EthereumChallenge

def size : Nat := 20

def tryFrom (value : Bytes) : Except GeneralError EthereumChallenge :=
  (Address.tryFrom value).map EthereumChallenge.mk

end EthereumChallenge

/-! ## Integers and balances -/

abbrev U256 := BitVec 256
abbrev U64 := BitVec 64
abbrev U32 := BitVec 32

/-- The `*` operator, which panics on overflow. -/
def U256.mul {ε : Type} (left right : U256) : Outcome ε U256 :=
  if left.toNat * right.toNat < 2 ^ 256 then .ok (left * right)
  else .panicked "arithmetic operation overflow"

/-- The big-endian bytes of a fixed-width integer of `width` bytes. -/
def toBeBytes (width : Nat) {bits : Nat} (value : BitVec bits) : Bytes := toBE width value.toNat

structure Currency where
  name : String
  scale : Nat
deriving DecidableEq

def WxHOPR : Currency := ⟨"wxHOPR", 18⟩
def XHOPR : Currency := ⟨"xHOPR", 18⟩
def XDai : Currency := ⟨"xDai", 18⟩

/-- Whether two currencies are the same, which the code decides by their names. -/
def Currency.is (currency other : Currency) : Bool := currency.name == other.name

structure Balance (currency : Currency) where
  amount : U256
deriving DecidableEq

abbrev HoprBalance := Balance WxHOPR
abbrev XDaiBalance := Balance XDai

def Balance.isZero {currency : Currency} (balance : Balance currency) : Bool :=
  decide (balance.amount = 0)

/-! ## Bounded sequences -/

/-- The most bytes a slice, a vector or a string can hold. -/
def isizeMax : Nat := 2 ^ 63 - 1

@[ext]
structure BoundedVec (α : Type) (bound : Nat) where
  toList : List α
  fits : toList.length ≤ bound
deriving DecidableEq

def BoundedVec.tryFrom {α : Type} {bound : Nat} (value : List α) :
    Except GeneralError (BoundedVec α bound) :=
  if fits : value.length ≤ bound then .ok ⟨value, fits⟩ else .error .invalidInput

def utf8 (text : String) : Bytes := text.toUTF8.data.toList

/-! ## Hexadecimal text -/

def hexDigit (nibble : Nat) : Char := "0123456789abcdef".toList.getD nibble '0'

def hexEncode (bytes : Bytes) : String :=
  String.ofList (bytes.flatMap fun byte => [hexDigit (byte.toNat / 16), hexDigit (byte.toNat % 16)])

theorem hexEncode_append (front back : Bytes) :
    (hexEncode (front ++ back)).toList = (hexEncode front).toList ++ (hexEncode back).toList := by
  simp [hexEncode]

def toHex {size : Nat} (value : FixedBytes size) : String := "0x" ++ hexEncode value.toList

/-! ## Lengths -/

theorem length_slice {bytes : Bytes} {offset size : Nat} (fits : offset + size ≤ bytes.length) :
    (slice bytes offset size).length = size := by
  rw [slice, List.length_take, List.length_drop]
  omega

theorem slice_append_drop (bytes : Bytes) (offset size : Nat) :
    slice bytes offset size ++ bytes.drop (offset + size) = bytes.drop offset := by
  rw [slice, ← List.drop_drop, List.take_append_drop]

theorem slice_append {front middle back : Bytes} {offset size : Nat}
    (offsetExact : front.length = offset) (sizeExact : middle.length = size) :
    slice (front ++ (middle ++ back)) offset size = middle := by
  rw [slice, List.drop_left' offsetExact, List.take_left' sizeExact]

theorem tryFromSlice_eq_ok {size : Nat} {what : String} {value : Bytes} {result : FixedBytes size} :
    tryFromSlice size what value = .ok result ↔ result.toList = value := by
  unfold tryFromSlice
  by_cases exact : value.length = size
  · rw [dif_pos exact, Except.ok.injEq]
    constructor
    · intro same
      rw [← same]
    · intro same
      ext1
      exact same.symm
  · rw [dif_neg exact]
    constructor
    · intro impossible
      cases impossible
    · intro same
      exact absurd (same ▸ result.length_toList) exact

@[simp] theorem tryFromSlice_toList {size : Nat} (what : String) (value : FixedBytes size) :
    tryFromSlice size what value.toList = .ok value :=
  tryFromSlice_eq_ok.mpr rfl

@[simp] theorem length_toBeBytes {bits : Nat} (width : Nat) (value : BitVec bits) :
    (toBeBytes width value).length = width := length_toBE _ _

end HoprTypes.Primitive
