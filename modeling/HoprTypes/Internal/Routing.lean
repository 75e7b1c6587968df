import HoprTypes.Internal.Path
import HoprTypes.Primitive.Bounded

/-!
# Routing options

The number of hops that routing options stand for, and their inversion.
-/

set_option autoImplicit false

namespace HoprTypes.Internal

open HoprTypes.Primitive HoprTypes.Primitive.Bounded

def maxIntermediateHops : Nat := 3

inductive RoutingOptions where
  | intermediatePath (path : Bounded.BoundedVec NodeId maxIntermediateHops)
  | hops (count : BoundedSize (BitVec.ofNat 64 maxIntermediateHops))
deriving DecidableEq

namespace RoutingOptions

def invert : RoutingOptions → RoutingOptions
  | .intermediatePath path => .intermediatePath (.fromIter (path.items.reverse[·]?))
  | .hops count => .hops count

def countHops : RoutingOptions → Nat
  | .intermediatePath path => path.items.length
  | .hops count => count.value.toNat

/-- The ways to make routing options: from any bounded value, or by the derived deserializer,
which is that of the bounded value. -/
inductive Source where
  | intermediatePath (path : Bounded.BoundedVec.Source NodeId maxIntermediateHops)
  | hops (count : BoundedSize.Source)

def make : Source → Except GeneralError RoutingOptions
  | .intermediatePath path => (Bounded.BoundedVec.make path).map .intermediatePath
  | .hops count => (BoundedSize.make count).map .hops

def Source.InBounds : Source → Prop
  | .intermediatePath path => path.InBounds
  | .hops count => count.InBounds (BitVec.ofNat 64 maxIntermediateHops)

/-! ## Inversion -/

theorem invert_intermediatePath (path : Bounded.BoundedVec NodeId maxIntermediateHops) :
    invert (.intermediatePath path) =
      .intermediatePath ⟨path.items.reverse.take maxIntermediateHops⟩ := by
  rw [invert, Bounded.BoundedVec.fromIter, collectTake_getElem?]

theorem invert_of_le {options : RoutingOptions} (small : options.countHops ≤ maxIntermediateHops) :
    options.invert.countHops = options.countHops ∧ options.invert.invert = options := by
  cases options with
  | hops count => exact ⟨rfl, rfl⟩
  | intermediatePath path =>
      have kept : path.items.reverse.take maxIntermediateHops = path.items.reverse := by
        apply List.take_of_length_le
        rw [List.length_reverse]
        exact small
      have back : path.items.take maxIntermediateHops = path.items := List.take_of_length_le small
      constructor
      · rw [invert_intermediatePath, kept]
        exact List.length_reverse
      · rw [invert_intermediatePath, kept, invert_intermediatePath, List.reverse_reverse, back]

theorem countHops_le_iff (source : Source) :
    (∀ options, make source = .ok options → options.countHops ≤ maxIntermediateHops) ↔
      source.InBounds := by
  cases source with
  | intermediatePath path =>
      rw [Source.InBounds, ← Bounded.BoundedVec.make_length_le_iff]
      exact forall_map_eq_ok
  | hops count =>
      rw [Source.InBounds, ← BoundedSize.make_le_iff]
      exact forall_map_eq_ok

/-- Bounded values keep their bound, and what relies on it works, exactly unless a derived
deserializer reads more than the bound: the vector is converted to an array without a panic, the
size is no larger than its bound, and routing options count at most the maximum number of hops,
which their inversion keeps and undoes. -/
theorem bounds_kept_iff {α : Type} [Inhabited α] {bound : Nat}
    (vector : Bounded.BoundedVec.Source α bound) (sizeBound : Usize) (size : BoundedSize.Source)
    (routing : Source) :
    ((∀ value : Bounded.BoundedVec α bound, Bounded.BoundedVec.make vector = .ok value →
        value.items.length ≤ bound ∧ (value.toArray : Outcome GeneralError (List α)).IsOk) ↔
      vector.InBounds) ∧
    ((∀ value : BoundedSize sizeBound, BoundedSize.make size = .ok value →
        value.value ≤ sizeBound) ↔
      size.InBounds sizeBound) ∧
    ((∀ options, make routing = .ok options → options.countHops ≤ maxIntermediateHops ∧
        options.invert.countHops = options.countHops ∧ options.invert.invert = options) ↔
      routing.InBounds) := by
  refine ⟨?_, ?_, ?_⟩
  · rw [← Bounded.BoundedVec.make_length_le_iff]
    constructor
    · intro sound value made
      exact (sound value made).1
    · intro respects value made
      have small := respects value made
      exact ⟨small, value.toArray_isOk_iff.mpr small⟩
  · exact BoundedSize.make_le_iff size
  · rw [← countHops_le_iff]
    constructor
    · intro sound options made
      exact (sound options made).1
    · intro respects options made
      have small := respects options made
      exact ⟨small, invert_of_le small⟩

/-- Four items are deserialized where at most three fit: the conversion to an array panics, and
a path of four hops is counted as such and loses one when it is inverted. -/
theorem bounds_broken_by_deserializer :
    let bytes : Bounded.BoundedVec UInt8 3 := ⟨[1, 2, 3, 4]⟩
    let hop := NodeId.chain Address.zero
    let path : Bounded.BoundedVec NodeId maxIntermediateHops := ⟨List.replicate 4 hop⟩
    Bounded.BoundedVec.deserialize [1, 2, 3, 4] = .ok bytes ∧
      (bytes.toArray : Outcome GeneralError (List UInt8)) =
        Outcome.panicked "index out of bounds" ∧
      make (.intermediatePath (.deserialize (List.replicate 4 hop))) =
        .ok (.intermediatePath path) ∧
      (intermediatePath path).countHops = 4 ∧ (intermediatePath path).invert.countHops = 3 := by
  intro bytes hop path
  exact ⟨rfl, rfl, rfl, rfl, rfl⟩

end RoutingOptions

end HoprTypes.Internal
