import HoprTypes.Primitive.Primitives

/-!
# Bounded sizes and vectors

The types as the code has them: the bound is no part of the value, and has to be
checked by whatever makes one.
-/

set_option autoImplicit false

namespace HoprTypes.Primitive.Bounded

/-! ## Sizes -/

/-- The integers `usize` and `isize` of the target. -/
abbrev Usize := BitVec 64
abbrev Isize := BitVec 64

structure BoundedSize (bound : Usize) where
  value : Usize
deriving DecidableEq

namespace BoundedSize

variable {bound : Usize}

def max : BoundedSize bound := ⟨bound⟩

def min : BoundedSize bound := ⟨0⟩

def tryFromUsize (value : Usize) : Except GeneralError (BoundedSize bound) :=
  if value ≤ bound then .ok ⟨value⟩ else .error .invalidInput

def tryFromIsize (value : Isize) : Except GeneralError (BoundedSize bound) :=
  if 0 ≤ value.toInt then tryFromUsize value else .error .invalidInput

/-- An unsigned integer that is no wider than `usize`. -/
def tryFromUnsigned {width : Nat} (value : BitVec width) :
    Except GeneralError (BoundedSize bound) :=
  tryFromUsize (BitVec.setWidth 64 value)

/-- A signed integer that is no wider than `isize`. -/
def tryFromSigned {width : Nat} (value : BitVec width) : Except GeneralError (BoundedSize bound) :=
  tryFromIsize (BitVec.signExtend 64 value)

/-- The derived deserializer is that of `usize`. -/
def deserialize (value : Usize) : Except GeneralError (BoundedSize bound) := .ok ⟨value⟩

inductive Source where
  | max
  | min
  | default
  | u8 (value : BitVec 8)
  | u16 (value : BitVec 16)
  | u32 (value : BitVec 32)
  | u64 (value : BitVec 64)
  | usize (value : Usize)
  | i8 (value : BitVec 8)
  | i16 (value : BitVec 16)
  | i32 (value : BitVec 32)
  | i64 (value : BitVec 64)
  | isize (value : Isize)
  | deserialize (value : Usize)

def make : Source → Except GeneralError (BoundedSize bound)
  | .max => .ok max
  | .min => .ok min
  | .default => .ok ⟨0⟩
  | .u8 value => tryFromUnsigned value
  | .u16 value => tryFromUnsigned value
  | .u32 value => tryFromUnsigned value
  | .u64 value => tryFromUnsigned value
  | .usize value => tryFromUsize value
  | .i8 value => tryFromSigned value
  | .i16 value => tryFromSigned value
  | .i32 value => tryFromSigned value
  | .i64 value => tryFromSigned value
  | .isize value => tryFromIsize value
  | .deserialize value => deserialize value

/-- The source is no deserializer that reads a larger value. -/
def Source.InBounds (bound : Usize) : Source → Prop
  | .deserialize value => value ≤ bound
  | _ => True

theorem tryFromUsize_eq_ok {value : Usize} {size : BoundedSize bound} :
    tryFromUsize value = .ok size ↔ value ≤ bound ∧ ⟨value⟩ = size := okIf_eq_ok

theorem tryFromIsize_le {value : Isize} {size : BoundedSize bound}
    (made : tryFromIsize value = .ok size) : size.value ≤ bound := by
  unfold tryFromIsize at made
  by_cases positive : 0 ≤ value.toInt
  · rw [if_pos positive] at made
    obtain ⟨small, rfl⟩ := tryFromUsize_eq_ok.mp made
    exact small
  · rw [if_neg positive] at made
    cases made

theorem tryFromUnsigned_le {width : Nat} {value : BitVec width} {size : BoundedSize bound}
    (made : tryFromUnsigned value = .ok size) : size.value ≤ bound := by
  obtain ⟨small, rfl⟩ := tryFromUsize_eq_ok.mp made
  exact small

/-- A size respects its bound, exactly unless a larger value is deserialized. -/
theorem make_le_iff (source : Source) :
    (∀ size : BoundedSize bound, make source = .ok size → size.value ≤ bound) ↔
      source.InBounds bound := by
  cases source with
  | max =>
      refine ⟨fun _ => trivial, fun _ size made => ?_⟩
      rw [← Except.ok.inj made]
      exact BitVec.le_refl bound
  | min =>
      refine ⟨fun _ => trivial, fun _ size made => ?_⟩
      rw [← Except.ok.inj made]
      exact Nat.zero_le bound.toNat
  | default =>
      refine ⟨fun _ => trivial, fun _ size made => ?_⟩
      rw [← Except.ok.inj made]
      exact Nat.zero_le bound.toNat
  | u8 value => exact ⟨fun _ => trivial, fun _ size made => tryFromUnsigned_le made⟩
  | u16 value => exact ⟨fun _ => trivial, fun _ size made => tryFromUnsigned_le made⟩
  | u32 value => exact ⟨fun _ => trivial, fun _ size made => tryFromUnsigned_le made⟩
  | u64 value => exact ⟨fun _ => trivial, fun _ size made => tryFromUnsigned_le made⟩
  | usize value =>
      refine ⟨fun _ => trivial, fun _ size made => ?_⟩
      obtain ⟨small, rfl⟩ := tryFromUsize_eq_ok.mp made
      exact small
  | i8 value => exact ⟨fun _ => trivial, fun _ size made => tryFromIsize_le made⟩
  | i16 value => exact ⟨fun _ => trivial, fun _ size made => tryFromIsize_le made⟩
  | i32 value => exact ⟨fun _ => trivial, fun _ size made => tryFromIsize_le made⟩
  | i64 value => exact ⟨fun _ => trivial, fun _ size made => tryFromIsize_le made⟩
  | isize value => exact ⟨fun _ => trivial, fun _ size made => tryFromIsize_le made⟩
  | deserialize value =>
      constructor
      · intro respects
        exact respects ⟨value⟩ rfl
      · intro small size made
        rw [← Except.ok.inj made]
        exact small

end BoundedSize

/-! ## Vectors -/

structure BoundedVec (α : Type) (bound : Nat) where
  items : List α
deriving DecidableEq

/-- The first items of an iterator, at most the given number. -/
def collectTake {α : Type} : Nat → (Nat → Option α) → List α
  | 0, _ => []
  | count + 1, next =>
      match next 0 with
      | some item => item :: collectTake count fun index => next (index + 1)
      | none => []

theorem length_collectTake_le {α : Type} (count : Nat) (next : Nat → Option α) :
    (collectTake count next).length ≤ count := by
  induction count generalizing next with
  | zero => exact le_refl 0
  | succ count ih =>
      rw [collectTake]
      cases next 0 with
      | none => exact Nat.zero_le _
      | some item => exact Nat.succ_le_succ (ih _)

theorem collectTake_getElem? {α : Type} (count : Nat) (items : List α) :
    collectTake count (items[·]?) = items.take count := by
  induction count generalizing items with
  | zero => rfl
  | succ count ih =>
      cases items with
      | nil => rfl
      | cons item rest =>
          rw [collectTake, List.take_succ_cons, ← ih rest]
          rfl

namespace BoundedVec

variable {α : Type} {bound : Nat}

def tryFrom (value : List α) : Except GeneralError (BoundedVec α bound) :=
  if value.length ≤ bound then .ok ⟨value⟩ else .error .invalidInput

def fromIter (iter : Nat → Option α) : BoundedVec α bound := ⟨collectTake bound iter⟩

/-- The derived deserializer is that of a vector. -/
def deserialize (items : List α) : Except GeneralError (BoundedVec α bound) := .ok ⟨items⟩

/-- Writes the items into an array from an index on; panics behind its end. -/
def fillArray {ε : Type} (out : List α) : Nat → List α → Outcome ε (List α)
  | _, [] => .ok out
  | index, item :: rest =>
      if index < out.length then fillArray (out.set index item) (index + 1) rest
      else Outcome.panicked "index out of bounds"

def toArray {ε : Type} [Inhabited α] (value : BoundedVec α bound) : Outcome ε (List α) :=
  fillArray (List.replicate bound default) 0 value.items

inductive Source (α : Type) (bound : Nat) where
  | default
  | tryFrom (value : List α)
  | fromIter (iter : Nat → Option α)
  | fromArray (value : List.Vector α bound)
  | deserialize (items : List α)

def make : Source α bound → Except GeneralError (BoundedVec α bound)
  | .default => .ok ⟨[]⟩
  | .tryFrom value => tryFrom value
  | .fromIter iter => .ok (fromIter iter)
  | .fromArray value => .ok ⟨value.toList⟩
  | .deserialize items => deserialize items

/-- The source is no deserializer that reads more items. -/
def Source.InBounds : Source α bound → Prop
  | .deserialize items => items.length ≤ bound
  | _ => True

/-! ## The bound -/

theorem tryFrom_eq_ok {value : List α} {made : BoundedVec α bound} :
    tryFrom value = .ok made ↔ value.length ≤ bound ∧ ⟨value⟩ = made := okIf_eq_ok

/-- Filling keeps what is in front of the index and behind the items, and needs room for all
of them. -/
theorem fillArray_eq {ε : Type} (items : List α) {out : List α} {index : Nat}
    (fits : index + items.length ≤ out.length) :
    (fillArray out index items : Outcome ε (List α)) =
      .ok (out.take index ++ items ++ out.drop (index + items.length)) := by
  induction items generalizing out index with
  | nil => simp [fillArray]
  | cons item rest ih =>
      rw [List.length_cons] at fits
      have inside : index < out.length := by omega
      have room : index + 1 + rest.length ≤ (out.set index item).length := by
        rw [List.length_set]
        omega
      have front : (out.set index item).take (index + 1) = out.take index ++ [item] := by
        rw [List.take_add_one, List.take_set_of_le (le_refl index), List.getElem?_set_self inside]
        rfl
      have behind : (out.set index item).drop (index + 1 + rest.length) =
          out.drop (index + (item :: rest).length) := by
        rw [List.drop_set_of_lt (by omega), List.length_cons]
        congr 1
        omega
      rw [fillArray, if_pos inside, ih room, front, behind, List.append_assoc, List.append_assoc,
        List.append_assoc, List.singleton_append, List.cons_append]

theorem fillArray_panics {ε : Type} (items : List α) {out : List α} {index : Nat}
    (inside : index ≤ out.length) (tooMany : out.length < index + items.length) :
    ¬ (fillArray out index items : Outcome ε (List α)).IsOk := by
  induction items generalizing out index with
  | nil =>
      rw [List.length_nil] at tooMany
      omega
  | cons item rest ih =>
      rw [List.length_cons] at tooMany
      rw [fillArray]
      by_cases room : index < out.length
      · rw [if_pos room]
        apply ih
        · rw [List.length_set]
          omega
        · rw [List.length_set]
          omega
      · rw [if_neg room]
        rintro ⟨_, impossible⟩
        cases impossible

/-- The conversion to an array succeeds exactly within the bound, and pads with the default. -/
theorem toArray_isOk_iff {ε : Type} [Inhabited α] (value : BoundedVec α bound) :
    (value.toArray : Outcome ε (List α)).IsOk ↔ value.items.length ≤ bound := by
  constructor
  · intro converted
    by_contra tooMany
    refine fillArray_panics value.items (Nat.zero_le _) ?_ converted
    rw [List.length_replicate]
    omega
  · intro fits
    have room : 0 + value.items.length ≤ (List.replicate bound (default : α)).length := by
      rw [List.length_replicate]
      omega
    exact ⟨_, fillArray_eq value.items room⟩

/-- A vector respects its bound, exactly unless more items are deserialized. -/
theorem make_length_le_iff (source : Source α bound) :
    (∀ value, make source = .ok value → value.items.length ≤ bound) ↔ source.InBounds := by
  cases source with
  | default =>
      refine ⟨fun _ => trivial, fun _ value made => ?_⟩
      rw [← Except.ok.inj made]
      exact Nat.zero_le bound
  | tryFrom items =>
      refine ⟨fun _ => trivial, fun _ value made => ?_⟩
      obtain ⟨small, rfl⟩ := tryFrom_eq_ok.mp made
      exact small
  | fromIter iter =>
      refine ⟨fun _ => trivial, fun _ value made => ?_⟩
      rw [← Except.ok.inj made]
      exact length_collectTake_le bound iter
  | fromArray array =>
      refine ⟨fun _ => trivial, fun _ value made => ?_⟩
      rw [← Except.ok.inj made]
      exact le_of_eq array.toList_length
  | deserialize items =>
      constructor
      · intro respects
        exact respects ⟨items⟩ rfl
      · intro small value made
        rw [← Except.ok.inj made]
        exact small

theorem tryFrom_eq (value : List α) :
    (tryFrom value : Except GeneralError (BoundedVec α bound)) =
      (Primitive.BoundedVec.tryFrom value : Except GeneralError (Primitive.BoundedVec α bound)).map
        fun carried => ⟨carried.toList⟩ := by
  unfold tryFrom Primitive.BoundedVec.tryFrom
  by_cases small : value.length ≤ bound
  · rw [if_pos small, dif_pos small]
    rfl
  · rw [if_neg small, dif_neg small]
    rfl

end BoundedVec

end HoprTypes.Primitive.Bounded
