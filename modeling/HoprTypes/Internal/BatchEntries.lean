import HoprTypes.Internal.Protocol

/-!
# Entries of a batch

What becomes of the entries of a batch of acknowledgements when some of the keys are
not points of the curve, in the sequential and in the parallel build.
-/

set_option autoImplicit false

namespace HoprTypes.Internal

/-! ## Work that is split between threads -/

/-- How a pool of threads splits a list: at some place, and then each part on its own. -/
inductive WorkSplit where
  | sequential
  | join (front : Nat) (left right : WorkSplit)

/-- Every part is filtered and mapped by itself; the results are put together in order. -/
def WorkSplit.filterMap {α β : Type} (f : α → Option β) : WorkSplit → List α → List β
  | .sequential, items => items.filterMap f
  | .join front left right, items =>
      left.filterMap f (items.take front) ++ right.filterMap f (items.drop front)

namespace Acknowledgement

open BigEndian HoprTypes.Primitive HoprTypes.Crypto

variable {VerifyingKey : Type} (ed25519 : Ed25519 VerifyingKey)

/-! ## Both builds -/

/-- What single verification makes of the entries. -/
def single (acknowledgements : List (OffchainPublicKey × Acknowledgement)) :
    List (Except CoreTypesError VerifiedAcknowledgement) :=
  acknowledgements.map fun entry => entry.2.verify ed25519 entry.1

end Acknowledgement

end HoprTypes.Internal
