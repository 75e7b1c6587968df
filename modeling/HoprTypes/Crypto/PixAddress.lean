import HoprTypes.Lib.ByteOrder
import HoprTypes.Primitive.HexText

/-!
# PIX address ids

A PIX deposit allocation is identified by the pseudonym of its session and a non-zero index,
kept as the bytes of the pseudonym followed by the big-endian index.  The bytes are a database
key: they sort and decode like the pair.
-/

set_option autoImplicit false

namespace HoprTypes.Crypto

open BigEndian HoprTypes.Primitive

/-! ## Session pseudonyms -/

/-- The cached hexadecimal text takes no part in equality or order. -/
abbrev SimplePseudonym := FixedBytes 10

namespace SimplePseudonym

def size : Nat := 10

def tryFrom (value : Bytes) : Except GeneralError SimplePseudonym :=
  tryFromSlice 10 "SimplePseudonym" value

def cmp (first second : SimplePseudonym) : Ordering := compare first.toList second.toList

end SimplePseudonym

/-! ## Non-zero indexes -/

def NonZeroU32 := { index : UInt32 // index ≠ 0 }

namespace NonZeroU32

def new (index : UInt32) : Option NonZeroU32 :=
  if nonZero : index ≠ 0 then some ⟨index, nonZero⟩ else none

def get (index : NonZeroU32) : UInt32 := index.val

def toBeBytes (index : NonZeroU32) : Bytes := toBE 4 index.get.toNat

end NonZeroU32

def u32FromBeBytes (bytes : FixedBytes 4) : UInt32 := UInt32.ofNat (ofBE bytes.toList)

/-! ## The identifiers -/

structure PixAddressId where
  bytes : FixedBytes 14
deriving DecidableEq

namespace PixAddressId

def size : Nat := 14

/-- The session takes the first bytes, the index the rest. -/
def new (sessionId : SimplePseudonym) (ssaIndex : NonZeroU32) : PixAddressId :=
  ⟨⟨sessionId.toList ++ ssaIndex.toBeBytes, by simp [NonZeroU32.toBeBytes]⟩⟩

def asRef (id : PixAddressId) : Bytes := id.bytes.toList

variable {ε : Type}

def sessionId (id : PixAddressId) : Outcome ε SimplePseudonym :=
  Outcome.expect "must have a valid session id" (SimplePseudonym.tryFrom (slice id.asRef 0 10))

def ssaIndex (id : PixAddressId) : Outcome ε NonZeroU32 := do
  let bytes ← Outcome.expect "must have a valid index size"
    (tryFromSlice 4 "index" (slice id.asRef 10 4))
  Outcome.expect "must have a non-zero SSA index"
    (okOr () (NonZeroU32.new (u32FromBeBytes bytes)))

/-- Both parts are checked before the id is built from them. -/
def tryFrom (value : Bytes) : Except GeneralError PixAddressId := do
  let bytes ← tryFromSlice 14 "PixAddressId" value
  let sessionId ← SimplePseudonym.tryFrom (slice bytes.toList 0 10)
  let indexBytes ← tryFromSlice 4 "PixAddressId" (slice bytes.toList 10 4)
  let ssaIndex ← okOr (.parseError "PixAddressId SSA index")
    (NonZeroU32.new (u32FromBeBytes indexBytes))
  .ok (new sessionId ssaIndex)

def representable : BytesRepresentable PixAddressId where
  size := 14
  asRef := asRef
  tryFrom := tryFrom

def fromTuple (pair : SimplePseudonym × NonZeroU32) : PixAddressId := new pair.1 pair.2

def intoTuple (id : PixAddressId) : Outcome ε (SimplePseudonym × NonZeroU32) := do
  let sessionId ← id.sessionId
  let ssaIndex ← id.ssaIndex
  .ok (sessionId, ssaIndex)

/-- What the deserializer uses of the serde crates: reading a byte buffer, and errors with a
message. -/
structure SerdeBytes (Deserializer ε : Type) where
  byteBuf : Deserializer → Except ε Bytes
  custom : String → ε

/-- The bytes are validated by the conversion. -/
def deserialize {Deserializer : Type} (serde : SerdeBytes Deserializer ε)
    (deserializer : Deserializer) : Except ε PixAddressId := do
  let bytes ← serde.byteBuf deserializer
  (tryFrom bytes).mapErr fun cause => serde.custom cause.display

def cmp (first second : PixAddressId) : Ordering := compare first.asRef second.asRef

/-- The ways to come by an id. -/
inductive Obtained (crate : ConstHex) {Deserializer : Type} (serde : SerdeBytes Deserializer ε) :
    PixAddressId → Prop where
  | new (sessionId : SimplePseudonym) (ssaIndex : NonZeroU32) :
      Obtained crate serde (new sessionId ssaIndex)
  | fromTuple (pair : SimplePseudonym × NonZeroU32) : Obtained crate serde (fromTuple pair)
  | tryFrom {value : Bytes} {id : PixAddressId} (read : tryFrom value = .ok id) :
      Obtained crate serde id
  | deserialize {deserializer : Deserializer} {id : PixAddressId}
      (read : deserialize serde deserializer = .ok id) : Obtained crate serde id
  | fromHex {str : String} {id : PixAddressId} (read : representable.fromHex crate str = .ok id) :
      Obtained crate serde id

/-! ## Reading the parts back -/

theorem u32FromBeBytes_eq {bytes : FixedBytes 4} (index : NonZeroU32)
    (encoded : bytes.toList = index.toBeBytes) : u32FromBeBytes bytes = index.get := by
  have fits : index.get.toNat < 256 ^ 4 := index.get.toNat_lt
  rw [u32FromBeBytes, encoded, NonZeroU32.toBeBytes, ofBE_toBE_of_lt fits, UInt32.ofNat_toNat]

theorem toBE_u32FromBeBytes (bytes : FixedBytes 4) :
    toBE 4 (u32FromBeBytes bytes).toNat = bytes.toList := by
  have fits : ofBE bytes.toList < 256 ^ 4 := by
    have below := ofBE_lt bytes.toList
    rw [bytes.length_toList] at below
    exact below
  rw [u32FromBeBytes, UInt32.toNat_ofNat_of_lt' fits]
  exact toBE_ofBE_of_length bytes.length_toList

theorem NonZeroU32.new_get (index : NonZeroU32) : NonZeroU32.new index.get = some index :=
  dif_pos index.property

theorem NonZeroU32.new_eq_some {index : UInt32} {nonZero : NonZeroU32}
    (checked : NonZeroU32.new index = some nonZero) : nonZero.get = index := by
  unfold NonZeroU32.new at checked
  split at checked
  · cases checked
    rfl
  · cases checked

theorem asRef_new (sessionId : SimplePseudonym) (ssaIndex : NonZeroU32) :
    (new sessionId ssaIndex).asRef = sessionId.toList ++ ssaIndex.toBeBytes := rfl

theorem slice_session (sessionId : SimplePseudonym) (ssaIndex : NonZeroU32) :
    slice (new sessionId ssaIndex).asRef 0 10 = sessionId.toList := by
  rw [asRef_new, slice, List.drop_zero]
  exact List.take_left' sessionId.length_toList

theorem slice_index (sessionId : SimplePseudonym) (ssaIndex : NonZeroU32) :
    slice (new sessionId ssaIndex).asRef 10 4 = ssaIndex.toBeBytes := by
  rw [asRef_new, slice, List.drop_left' sessionId.length_toList]
  exact List.take_of_length_le (by simp [NonZeroU32.toBeBytes])

theorem tryFromSlice_index (what : String) (sessionId : SimplePseudonym) (ssaIndex : NonZeroU32) :
    ∃ bytes, tryFromSlice 4 what (slice (new sessionId ssaIndex).asRef 10 4) = .ok bytes ∧
      NonZeroU32.new (u32FromBeBytes bytes) = some ssaIndex := by
  have length : ssaIndex.toBeBytes.length = 4 := by simp [NonZeroU32.toBeBytes]
  refine ⟨⟨ssaIndex.toBeBytes, length⟩, ?_, ?_⟩
  · rw [slice_index, tryFromSlice_eq_ok]
  · rw [u32FromBeBytes_eq ssaIndex rfl, NonZeroU32.new_get]

theorem sessionId_new (session : SimplePseudonym) (ssaIndex : NonZeroU32) :
    ((new session ssaIndex).sessionId : Outcome ε SimplePseudonym) = .ok session := by
  rw [sessionId, slice_session, expect_eq_ok, SimplePseudonym.tryFrom, tryFromSlice_toList]

theorem ssaIndex_new (session : SimplePseudonym) (index : NonZeroU32) :
    ((new session index).ssaIndex : Outcome ε NonZeroU32) = .ok index := by
  obtain ⟨bytes, sized, nonZero⟩ := tryFromSlice_index "index" session index
  rw [ssaIndex, sized]
  simp only [Outcome.expect, ok_bind, nonZero, okOr]

/-! ## The accepted byte strings -/

theorem tryFrom_asRef (session : SimplePseudonym) (index : NonZeroU32) :
    tryFrom (new session index).asRef = .ok (new session index) := by
  obtain ⟨bytes, sized, nonZero⟩ := tryFromSlice_index "PixAddressId" session index
  have whole : tryFromSlice 14 "PixAddressId" (new session index).asRef =
      .ok (new session index).bytes := tryFromSlice_toList _ _
  have front : SimplePseudonym.tryFrom (slice (new session index).bytes.toList 0 10) =
      .ok session := by
    change SimplePseudonym.tryFrom (slice (new session index).asRef 0 10) = .ok session
    rw [slice_session, SimplePseudonym.tryFrom, tryFromSlice_toList]
  unfold tryFrom
  rw [whole, ok_bind, front, ok_bind]
  change (tryFromSlice 4 "PixAddressId" (slice (new session index).asRef 10 4) >>= _) = _
  rw [sized, ok_bind, nonZero]
  rfl

theorem tryFrom_eq_ok {value : Bytes} {id : PixAddressId} :
    tryFrom value = .ok id ↔
      ∃ session index, id = new session index ∧ value = (new session index).asRef := by
  constructor
  · intro read
    obtain ⟨bytes, whole, read⟩ := bind_eq_ok.mp read
    obtain ⟨session, front, read⟩ := bind_eq_ok.mp read
    obtain ⟨indexBytes, back, read⟩ := bind_eq_ok.mp read
    obtain ⟨index, nonZero, built⟩ := bind_eq_ok.mp read
    have frontBytes : session.toList = slice bytes.toList 0 10 := tryFromSlice_eq_ok.mp front
    have backBytes : indexBytes.toList = slice bytes.toList 10 4 := tryFromSlice_eq_ok.mp back
    have spelled : index.toBeBytes = indexBytes.toList := by
      rw [NonZeroU32.toBeBytes, NonZeroU32.new_eq_some (okOr_eq_ok.mp nonZero),
        toBE_u32FromBeBytes]
    refine ⟨session, index, (Except.ok.inj built).symm, ?_⟩
    have rest : (bytes.toList.drop 10).take 4 = bytes.toList.drop 10 :=
      List.take_of_length_le (by simp)
    rw [asRef_new, spelled, frontBytes, backBytes, ← tryFromSlice_eq_ok.mp whole, slice, slice,
      List.drop_zero, rest, List.take_append_drop]
  · rintro ⟨session, index, rfl, rfl⟩
    exact tryFrom_asRef session index

theorem deserialize_eq_ok {Deserializer : Type} {serde : SerdeBytes Deserializer ε}
    {deserializer : Deserializer} {id : PixAddressId} :
    deserialize serde deserializer = .ok id ↔
      ∃ session index, id = new session index ∧
        serde.byteBuf deserializer = .ok (new session index).asRef := by
  unfold deserialize
  rw [bind_eq_ok]
  constructor
  · rintro ⟨bytes, buffered, read⟩
    obtain ⟨session, index, same, rfl⟩ := tryFrom_eq_ok.mp (exceptMapErr_eq_ok.mp read)
    exact ⟨session, index, same, buffered⟩
  · rintro ⟨session, index, rfl, buffered⟩
    exact ⟨_, buffered, exceptMapErr_eq_ok.mpr (tryFrom_asRef session index)⟩

theorem Obtained.eq_new {crate : ConstHex} {Deserializer : Type}
    {serde : SerdeBytes Deserializer ε} {id : PixAddressId} (obtained : Obtained crate serde id) :
    ∃ session index, id = PixAddressId.new session index := by
  cases obtained with
  | new session index => exact ⟨session, index, rfl⟩
  | fromTuple pair => exact ⟨pair.1, pair.2, rfl⟩
  | tryFrom read =>
      obtain ⟨session, index, same, _⟩ := tryFrom_eq_ok.mp read
      exact ⟨session, index, same⟩
  | deserialize read =>
      obtain ⟨session, index, same, _⟩ := deserialize_eq_ok.mp read
      exact ⟨session, index, same⟩
  | fromHex read =>
      obtain ⟨bytes, built⟩ := BytesRepresentable.tryFrom_of_fromHex read
      obtain ⟨session, index, same, _⟩ := tryFrom_eq_ok.mp built
      exact ⟨session, index, same⟩

/-! ## The order -/

theorem cmp_new (session otherSession : SimplePseudonym) (index otherIndex : NonZeroU32) :
    cmp (new session index) (new otherSession otherIndex) =
      (session.cmp otherSession).then (compare index.get.toNat otherIndex.get.toNat) := by
  have fits : index.get.toNat < 256 ^ 4 := index.get.toNat_lt
  have otherFits : otherIndex.get.toNat < 256 ^ 4 := otherIndex.get.toNat_lt
  have sameLength : session.toList.length = otherSession.toList.length := by
    rw [session.length_toList, otherSession.length_toList]
  rw [cmp, asRef_new, asRef_new, ByteOrder.compare_append sameLength, NonZeroU32.toBeBytes,
    NonZeroU32.toBeBytes, ByteOrder.compare_toBE fits otherFits]
  rfl

/-- The ids are an order-preserving bijection with the pairs of a session and a non-zero index:
the parser and the deserializer accept exactly the encodings of pairs, the bytes of what they
accept are given back, the parts of every id are read back without a panic, and ids compare
like their pairs. -/
theorem ordered_bijection (crate : ConstHex) {Deserializer : Type}
    (serde : SerdeBytes Deserializer ε) :
    (∀ value, (∃ id, tryFrom value = .ok id) ↔
        ∃ session index, value = (new session index).asRef) ∧
      (∀ deserializer, (∃ id, deserialize serde deserializer = .ok id) ↔
        ∃ session index, serde.byteBuf deserializer = .ok (new session index).asRef) ∧
      (∀ value id, tryFrom value = .ok id → id.asRef = value) ∧
      (∀ deserializer id, deserialize serde deserializer = .ok id →
        serde.byteBuf deserializer = .ok id.asRef) ∧
      (∀ session index,
        ((new session index).sessionId : Outcome ε SimplePseudonym) = .ok session ∧
          ((new session index).ssaIndex : Outcome ε NonZeroU32) = .ok index) ∧
      (∀ id, Obtained crate serde id → ∃ session index, id = new session index ∧
        (id.intoTuple : Outcome ε (SimplePseudonym × NonZeroU32)) = .ok (session, index)) ∧
      ∀ session otherSession index otherIndex,
        cmp (new session index) (new otherSession otherIndex) =
          (session.cmp otherSession).then (compare index.get.toNat otherIndex.get.toNat) := by
  refine ⟨?_, ?_, ?_, ?_, ?_, ?_, cmp_new⟩
  · intro value
    simp only [tryFrom_eq_ok]
    constructor
    · rintro ⟨_, session, index, _, encoded⟩
      exact ⟨session, index, encoded⟩
    · rintro ⟨session, index, encoded⟩
      exact ⟨_, session, index, rfl, encoded⟩
  · intro deserializer
    simp only [deserialize_eq_ok]
    constructor
    · rintro ⟨_, session, index, _, encoded⟩
      exact ⟨session, index, encoded⟩
    · rintro ⟨session, index, encoded⟩
      exact ⟨_, session, index, rfl, encoded⟩
  · intro value id read
    obtain ⟨session, index, rfl, rfl⟩ := tryFrom_eq_ok.mp read
    rfl
  · intro deserializer id read
    obtain ⟨session, index, rfl, encoded⟩ := deserialize_eq_ok.mp read
    exact encoded
  · intro session index
    exact ⟨sessionId_new session index, ssaIndex_new session index⟩
  · intro id obtained
    obtain ⟨session, index, rfl⟩ := obtained.eq_new
    refine ⟨session, index, rfl, ?_⟩
    rw [intoTuple, sessionId_new, ssaIndex_new]
    rfl

end PixAddressId

end HoprTypes.Crypto
