import HoprTypes.Lib.BigEndian

/-!
# Keccak-256

The hash of the Ethereum world, as an executable function on byte strings: the
permutation on five rows of five 64-bit lanes, and the sponge of rate 136 with
the original padding.
-/

set_option autoImplicit false

namespace Keccak

open BigEndian

abbrev Row := List Nat

abbrev State := List Row

def laneMask : Nat := 2 ^ 64 - 1

def rotateLane (lane shift : Nat) : Nat :=
  ((lane <<< shift) &&& laneMask) ||| (lane >>> (64 - shift))

def rotateRow : Row → Row
  | [] => []
  | lane :: rest => rest ++ [lane]

def xorRows (left right : Row) : Row := List.zipWith (· ^^^ ·) left right

/-! ## The permutation -/

def theta (state : State) : State :=
  let parity := state.foldl xorRows [0, 0, 0, 0, 0]
  let next := rotateRow parity
  let previous := rotateRow (rotateRow (rotateRow next))
  let mask := List.zipWith (fun left right => left ^^^ rotateLane right 1) previous next
  state.map (xorRows mask)

def rhoOffsets : State :=
  [[0, 1, 62, 28, 27],
   [36, 44, 6, 55, 20],
   [3, 10, 43, 25, 39],
   [41, 45, 15, 21, 8],
   [18, 2, 61, 56, 14]]

def rho (state : State) : State := List.zipWith (List.zipWith rotateLane) state rhoOffsets

def pi (state : State) : State :=
  (List.range 5).map fun y =>
    List.zipWith (fun x row => row.getD ((x + 3 * y) % 5) 0) (List.range 5) state

def chi (state : State) : State :=
  state.map fun row =>
    let first := rotateRow row
    let second := rotateRow first
    xorRows row (List.zipWith (fun lane other => (lane ^^^ laneMask) &&& other) first second)

def iota (roundConstant : Nat) : State → State
  | (lane :: row) :: rows => ((lane ^^^ roundConstant) :: row) :: rows
  | state => state

def roundConstants : List Nat :=
  [0x0000000000000001, 0x0000000000008082, 0x800000000000808A, 0x8000000080008000,
   0x000000000000808B, 0x0000000080000001, 0x8000000080008081, 0x8000000000008009,
   0x000000000000008A, 0x0000000000000088, 0x0000000080008009, 0x000000008000000A,
   0x000000008000808B, 0x800000000000008B, 0x8000000000008089, 0x8000000000008003,
   0x8000000000008002, 0x8000000000000080, 0x000000000000800A, 0x800000008000000A,
   0x8000000080008081, 0x8000000000008080, 0x0000000080000001, 0x8000000080008008]

def round (state : State) (roundConstant : Nat) : State :=
  iota roundConstant (chi (pi (rho (theta state))))

def permutation (state : State) : State := roundConstants.foldl round state

/-! ## The sponge -/

/-- Bytes of a block, in lanes of eight bytes, least significant byte first. -/
def lanes : Nat → Bytes → Row
  | 0, _ => []
  | count + 1, block => ofBE (block.take 8).reverse :: lanes count (block.drop 8)

def rows : Nat → Row → State
  | 0, _ => []
  | count + 1, flat => flat.take 5 :: rows count (flat.drop 5)

def rate : Nat := 136

def absorb (state : State) (block : Bytes) : State :=
  permutation (List.zipWith xorRows state (rows 5 (lanes 17 block ++ List.replicate 8 0)))

def absorbBlocks : Nat → State → Bytes → State
  | 0, state, _ => state
  | count + 1, state, message =>
      absorbBlocks count (absorb state (message.take rate)) (message.drop rate)

def padding (length : Nat) : Bytes :=
  match rate - 1 - length % rate with
  | 0 => [0x81]
  | fill + 1 => 0x01 :: List.replicate fill 0 ++ [0x80]

def emptyState : State := List.replicate 5 (List.replicate 5 0)

def squeeze (state : State) : FixedBytes 32 :=
  let row := state.headD []
  ⟨(List.range 4).flatMap fun index => (toBE 8 (row.getD index 0)).reverse,
    by simp [List.range_succ]⟩

def keccak256 (message : Bytes) : FixedBytes 32 :=
  let padded := message ++ padding message.length
  squeeze (absorbBlocks (padded.length / rate) emptyState padded)

example : (keccak256 []).toList.take 4 = [0xc5, 0xd2, 0x46, 0x01] := by decide +kernel

end Keccak
