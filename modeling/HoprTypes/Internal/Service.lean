import HoprTypes.Primitive.Primitives

/-!
# Service registry types

The id of a service type, which is never zero, and the metadata of a registry
entry, which has a maximum length.
-/

set_option autoImplicit false

namespace HoprTypes.Internal

open BigEndian HoprTypes.Primitive

structure ServiceType where
  bytes : FixedBytes 32
  nonZero : bytes.toList ≠ List.replicate 32 0
deriving DecidableEq

namespace ServiceType

def size : Nat := 32

def ofArray (value : FixedBytes 32) : Except GeneralError ServiceType :=
  if zero : value.toList = List.replicate 32 0 then .error (.parseError "zero service type")
  else .ok ⟨value, zero⟩

def tryFrom (value : Bytes) : Except GeneralError ServiceType := do
  let value ← tryFromSlice 32 "ServiceType" value
  ofArray value

/-- The raw id, as an ABI encoder takes it. -/
def asEncoded (serviceType : ServiceType) : FixedBytes 32 := serviceType.bytes

end ServiceType

structure ServiceMetadata where
  bytes : BoundedVec UInt8 2048
deriving DecidableEq

namespace ServiceMetadata

def maxLength : Nat := 2048

def tryFrom (value : Bytes) : Except GeneralError ServiceMetadata :=
  (BoundedVec.tryFrom value).map ServiceMetadata.mk

def asRef (metadata : ServiceMetadata) : Bytes := metadata.bytes.toList

theorem length_asRef (metadata : ServiceMetadata) : metadata.asRef.length ≤ maxLength :=
  metadata.bytes.fits

end ServiceMetadata

end HoprTypes.Internal
