import HoprTypes.Lib.Buffers
import HoprTypes.Lib.Feistel
import HoprTypes.Primitive.Primitives

/-!
# The Lioness wide-block cipher

Two rounds of a stream cipher on the right part and two of a keyed hash on the left part of
a block, in one buffer or from an input to an output buffer.
-/

set_option autoImplicit false

namespace HoprTypes.Crypto

open BigEndian Feistel HoprTypes.Primitive

structure StreamCipher (keySize ivSize : Nat) where
  keystream : FixedBytes keySize → FixedBytes ivSize → (size : Nat) → FixedBytes size

def StreamCipher.applyKeystream {keySize ivSize size : Nat} (cipher : StreamCipher keySize ivSize)
    (key : FixedBytes keySize) (iv : FixedBytes ivSize) (data : FixedBytes size) :
    FixedBytes size :=
  data.xor (cipher.keystream key iv size)

/-- The type parameters: a stream cipher, a keyed digest whose key and output have the size of
the cipher's key, and a block size above it. -/
structure LionessTypes where
  keySize : Nat
  ivSize : Nat
  blockSize : Nat
  blockGreater : keySize < blockSize
  cipher : StreamCipher keySize ivSize
  digest : FixedBytes keySize → Bytes → FixedBytes keySize

structure Lioness (types : LionessTypes) where
  k1 : FixedBytes types.keySize
  k2 : FixedBytes types.keySize
  k3 : FixedBytes types.keySize
  k4 : FixedBytes types.keySize
  iv1 : FixedBytes types.ivSize
  iv2 : FixedBytes types.ivSize

namespace Lioness

variable {types : LionessTypes}

def new (key : FixedBytes (types.keySize * 4)) (iv : FixedBytes (types.ivSize * 2)) :
    Lioness types where
  k1 := ⟨slice key.toList 0 types.keySize, length_slice (by rw [key.length_toList]; omega)⟩
  k2 := ⟨slice key.toList types.keySize types.keySize,
    length_slice (by rw [key.length_toList]; omega)⟩
  k3 := ⟨slice key.toList (2 * types.keySize) types.keySize,
    length_slice (by rw [key.length_toList]; omega)⟩
  k4 := ⟨slice key.toList (3 * types.keySize) types.keySize,
    length_slice (by rw [key.length_toList]; omega)⟩
  iv1 := ⟨slice iv.toList 0 types.ivSize, length_slice (by rw [iv.length_toList]; omega)⟩
  iv2 := ⟨slice iv.toList types.ivSize types.ivSize,
    length_slice (by rw [iv.length_toList]; omega)⟩

abbrev Block (types : LionessTypes) := FixedBytes types.blockSize

/-- The first bytes of a block, as many as the key of the stream cipher has. -/
def leftOf (block : Block types) : FixedBytes types.keySize := block.left types.blockGreater.le

def rightOf (block : Block types) : FixedBytes (types.blockSize - types.keySize) := block.right

def setRight (block : InOut types.blockSize)
    (right : FixedBytes (types.blockSize - types.keySize)) : InOut types.blockSize :=
  block.setOut (FixedBytes.join types.blockGreater.le (leftOf block.getOut) right)

variable (lioness : Lioness types)

def encryptBlock (block : InOut types.blockSize) : InOut types.blockSize :=
  -- L' = L ^ K1
  let leftPrime := (leftOf block.getIn).xorLoop lioness.k1
  -- R = R ^ S(L', IV1)
  let rCpy := rightOf block.getIn
  let block := setRight block (types.cipher.applyKeystream leftPrime lioness.iv1 rCpy)
  -- R' = H_K2(R)
  let rPrime := types.digest lioness.k2 (rightOf block.getOut).toList
  -- L = L ^ R'
  let block := block.xorIn rPrime
  -- L' = L ^ K3
  let leftPrime := (leftOf block.getOut).xorLoop lioness.k3
  -- R = R ^ S(L', IV2)
  let block := setRight block
    (types.cipher.applyKeystream leftPrime lioness.iv2 (rightOf block.getOut))
  -- R' = H_K4(R)
  let rPrime := types.digest lioness.k4 (rightOf block.getOut).toList
  -- L = L ^ R'
  block.xorOut rPrime

def decryptBlock (block : InOut types.blockSize) : InOut types.blockSize :=
  -- R' = H(K4 || R)
  let rPrime := types.digest lioness.k4 (rightOf block.getIn).toList
  -- L = L ^ R'
  let block := block.xorIn rPrime
  -- L' = L ^ K3
  let leftPrime := (leftOf block.getOut).xorLoop lioness.k3
  -- R = R ^ S(L', IV2)
  let rCpy := rightOf block.getIn
  let block := setRight block (types.cipher.applyKeystream leftPrime lioness.iv2 rCpy)
  -- R' = H(K2 || R)
  let rPrime := types.digest lioness.k2 (rightOf block.getOut).toList
  -- L = L ^ R'
  let block := block.xorOut rPrime
  -- L' = L ^ K1
  let leftPrime := (leftOf block.getOut).xorLoop lioness.k1
  -- R = R ^ S(L', IV1)
  setRight block (types.cipher.applyKeystream leftPrime lioness.iv1 (rightOf block.getOut))

def forward (data : Block types) : Block types := (lioness.encryptBlock (.inPlace data)).getOut

def inverse (data : Block types) : Block types := (lioness.decryptBlock (.inPlace data)).getOut

/-! ## The network behind the buffers -/

abbrev Halves (types : LionessTypes) :=
  FixedBytes types.keySize × FixedBytes (types.blockSize - types.keySize)

def split (block : Block types) : Halves types := (leftOf block, rightOf block)

def merge (halves : Halves types) : Block types :=
  FixedBytes.join types.blockGreater.le halves.1 halves.2

def streamRound (key : FixedBytes types.keySize) (iv : FixedBytes types.ivSize) :
    Round (FixedBytes types.keySize) (FixedBytes (types.blockSize - types.keySize)) :=
  .right fun left right => types.cipher.applyKeystream (left.xor key) iv right

/-- Masks the left part by the keyed hash of the right part. -/
def hashRound (key : FixedBytes types.keySize) :
    Round (FixedBytes types.keySize) (FixedBytes (types.blockSize - types.keySize)) :=
  .left fun right left => left.xor (types.digest key right.toList)

def rounds : List (Round (FixedBytes types.keySize)
    (FixedBytes (types.blockSize - types.keySize))) :=
  [streamRound lioness.k1 lioness.iv1, hashRound lioness.k2,
    streamRound lioness.k3 lioness.iv2, hashRound lioness.k4]

@[simp] theorem leftOf_merge (halves : Halves types) : leftOf (merge halves) = halves.1 :=
  FixedBytes.left_join _ halves.1 halves.2

@[simp] theorem rightOf_merge (halves : Halves types) : rightOf (merge halves) = halves.2 :=
  FixedBytes.right_join _ halves.1 halves.2

theorem split_merge (halves : Halves types) : split (merge halves) = halves :=
  Prod.ext (leftOf_merge halves) (rightOf_merge halves)

theorem merge_split (block : Block types) : merge (split block) = block :=
  FixedBytes.join_left_right _ block

theorem rounds_involutive : ∀ round ∈ lioness.rounds, round.Involutive := by
  have stream : ∀ key iv, (@streamRound types key iv).Involutive :=
    fun key iv left => FixedBytes.xor_involutive _
  have hash : ∀ key, (@hashRound types key).Involutive :=
    fun key right => FixedBytes.xor_involutive _
  simp [rounds, stream, hash]

/-! ## Each step on the halves of the output -/

theorem setRight_eq (block : InOut types.blockSize)
    (right : FixedBytes (types.blockSize - types.keySize)) :
    setRight block right = block.setOut (merge (leftOf block.getOut, right)) := rfl

theorem xorIn_merge (mask : FixedBytes types.keySize) (block : InOut types.blockSize) :
    block.xorIn mask =
      block.setOut (merge ((leftOf block.getIn).xor mask, rightOf block.getOut)) :=
  InOut.xorIn_eq types.blockGreater.le mask block

theorem xorOut_merge (mask : FixedBytes types.keySize) (block : InOut types.blockSize) :
    block.xorOut mask =
      block.setOut (merge ((leftOf block.getOut).xor mask, rightOf block.getOut)) :=
  InOut.xorOut_eq types.blockGreater.le mask block

theorem leftOf_getIn_setRight (block : InOut types.blockSize)
    (right : FixedBytes (types.blockSize - types.keySize)) :
    leftOf (setRight block right).getIn = leftOf block.getIn := by
  cases block with
  | inPlace buffer => exact leftOf_merge (leftOf buffer, right)
  | separate input output => rfl

theorem rightOf_getIn_xorIn (mask : FixedBytes types.keySize) (block : InOut types.blockSize) :
    rightOf (block.xorIn mask).getIn = rightOf block.getIn := by
  rw [xorIn_merge]
  cases block with
  | inPlace buffer => exact rightOf_merge _
  | separate input output => rfl

/-- The output of an encryption is the network's, whatever the output held before. -/
theorem encryptBlock_eq (block : InOut types.blockSize) :
    lioness.encryptBlock block =
      block.setOut (merge (run lioness.rounds (split block.getIn))) := by
  unfold encryptBlock
  dsimp only
  simp only [xorOut_merge, xorIn_merge, leftOf_getIn_setRight]
  simp only [setRight_eq, InOut.getOut_setOut, InOut.setOut_setOut, leftOf_merge, rightOf_merge,
    FixedBytes.xorLoop_eq]
  rfl

theorem decryptBlock_eq (block : InOut types.blockSize) :
    lioness.decryptBlock block =
      block.setOut (merge (run lioness.rounds.reverse (split block.getIn))) := by
  unfold decryptBlock
  dsimp only
  simp only [rightOf_getIn_xorIn]
  simp only [xorOut_merge, xorIn_merge, setRight_eq, InOut.getOut_setOut, InOut.setOut_setOut,
    leftOf_merge, rightOf_merge, FixedBytes.xorLoop_eq]
  rfl

theorem forward_eq (data : Block types) :
    lioness.forward data = merge (run lioness.rounds (split data)) := by
  rw [forward, encryptBlock_eq, InOut.getOut_setOut]
  rfl

theorem inverse_eq (data : Block types) :
    lioness.inverse data = merge (run lioness.rounds.reverse (split data)) := by
  rw [inverse, decryptBlock_eq, InOut.getOut_setOut]
  rfl

end Lioness

/-- The cipher of every key and iv is a permutation of the blocks, and calls with separate
buffers yield what the calls in place do. -/
theorem lioness_permutes (types : LionessTypes) (key : FixedBytes (types.keySize * 4))
    (iv : FixedBytes (types.ivSize * 2)) :
    let lioness := Lioness.new key iv
    (∀ block, lioness.inverse (lioness.forward block) = block) ∧
      (∀ block, lioness.forward (lioness.inverse block) = block) ∧
      ∀ block output,
        lioness.encryptBlock (.separate block output) =
            .separate block (lioness.forward block) ∧
          lioness.decryptBlock (.separate block output) =
            .separate block (lioness.inverse block) := by
  intro lioness
  refine ⟨?_, ?_, ?_⟩
  · intro block
    rw [lioness.forward_eq, lioness.inverse_eq, Lioness.split_merge,
      run_reverse_run lioness.rounds_involutive, Lioness.merge_split]
  · intro block
    rw [lioness.inverse_eq, lioness.forward_eq, Lioness.split_merge,
      run_run_reverse lioness.rounds_involutive, Lioness.merge_split]
  · intro block output
    rw [lioness.encryptBlock_eq, lioness.decryptBlock_eq, lioness.forward_eq, lioness.inverse_eq]
    exact ⟨rfl, rfl⟩

end HoprTypes.Crypto
