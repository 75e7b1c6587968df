import HoprTypes.Lib.BigEndian

/-!
# Byte buffers

Access to single bytes of a fixed-size array, its two parts, and a pair of buffers that may
be one and the same.  Loops over the bytes are folds over their indices.
-/

set_option autoImplicit false

namespace BigEndian

namespace FixedBytes

variable {size : Nat}

/-- The byte at an index, zero outside of the array. -/
def get (bytes : FixedBytes size) (i : Nat) : UInt8 := bytes.toList.getD i 0

def set (bytes : FixedBytes size) (i : Nat) (byte : UInt8) : FixedBytes size :=
  ⟨bytes.toList.set i byte, by simp⟩

def xor (left right : FixedBytes size) : FixedBytes size :=
  ⟨left.toList.zipWith (· ^^^ ·) right.toList, by simp⟩

/-- The loop `for i in 0..size { target[i] ^= mask[i] }`. -/
def xorLoop (target mask : FixedBytes size) : FixedBytes size :=
  size.fold (fun i _ target => target.set i (target.get i ^^^ mask.get i)) target

/-! ## Single bytes -/

theorem ext_get {left right : FixedBytes size} (same : ∀ i < size, left.get i = right.get i) :
    left = right := by
  ext1
  apply List.ext_getElem
  · rw [left.length_toList, right.length_toList]
  · intro i inLeft inRight
    have bytes := same i (left.length_toList ▸ inLeft)
    rw [get, get, List.getD_eq_getElem _ _ inLeft, List.getD_eq_getElem _ _ inRight] at bytes
    exact bytes

theorem get_set (bytes : FixedBytes size) {i : Nat} (inside : i < size) (byte : UInt8) (j : Nat) :
    (bytes.set i byte).get j = if i = j then byte else bytes.get j := by
  unfold get set
  simp only [List.getD_eq_getElem?_getD, List.getElem?_set]
  split_ifs with same bound
  · rfl
  · exact absurd (by rw [bytes.length_toList]; exact inside) bound
  · rfl

theorem get_xor (left right : FixedBytes size) {i : Nat} (inside : i < size) :
    (left.xor right).get i = left.get i ^^^ right.get i := by
  have inLeft : i < left.toList.length := by rw [left.length_toList]; exact inside
  have inRight : i < right.toList.length := by rw [right.length_toList]; exact inside
  unfold get xor
  simp [List.getD_eq_getElem?_getD, List.getElem?_eq_getElem inLeft,
    List.getElem?_eq_getElem inRight, List.getElem?_zipWith]

theorem xor_involutive (mask : FixedBytes size) :
    Function.Involutive fun bytes : FixedBytes size => bytes.xor mask := by
  intro bytes
  apply ext_get
  intro i inside
  dsimp only
  rw [get_xor _ _ inside, get_xor _ _ inside, UInt8.xor_assoc, UInt8.xor_self, UInt8.xor_zero]

theorem xorLoop_eq (target mask : FixedBytes size) : target.xorLoop mask = target.xor mask := by
  -- The bytes below the counter are done, the others are untouched.
  have partial_done : ∀ count ≤ size, ∀ j,
      (count.fold (fun i _ target => target.set i (target.get i ^^^ mask.get i)) target).get j =
        if j < count then target.get j ^^^ mask.get j else target.get j := by
    intro count
    induction count with
    | zero =>
        intro _ j
        rfl
    | succ count ih =>
        intro fits j
        rw [Nat.fold_succ, get_set _ (by omega), ih (by omega), ih (by omega)]
        rcases lt_trichotomy j count with below | rfl | above
        · rw [if_neg (by omega), if_pos below, if_pos (by omega)]
        · rw [if_pos rfl, if_neg (by omega), if_pos (by omega)]
        · rw [if_neg (by omega), if_neg (by omega), if_neg (by omega)]
  apply ext_get
  intro i inside
  rw [xorLoop, partial_done size (le_refl _), if_pos inside, get_xor _ _ inside]

/-! ## The two parts of an array -/

section Parts

variable {part : Nat} (fits : part ≤ size)

def left (bytes : FixedBytes size) : FixedBytes part :=
  ⟨bytes.toList.take part, by simp [fits]⟩

def right (bytes : FixedBytes size) : FixedBytes (size - part) :=
  ⟨bytes.toList.drop part, by simp⟩

def join (left : FixedBytes part) (right : FixedBytes (size - part)) : FixedBytes size :=
  ⟨left.toList ++ right.toList, by simp [fits]⟩

@[simp] theorem left_join (first : FixedBytes part) (second : FixedBytes (size - part)) :
    left fits (join fits first second) = first := by
  ext1
  exact List.take_left' first.length_toList

@[simp] theorem right_join (first : FixedBytes part) (second : FixedBytes (size - part)) :
    right (join fits first second) = second := by
  ext1
  exact List.drop_left' first.length_toList

@[simp] theorem join_left_right (bytes : FixedBytes size) :
    join fits (left fits bytes) (right bytes) = bytes := by
  ext1
  exact List.take_append_drop part bytes.toList

theorem get_left (bytes : FixedBytes size) {i : Nat} (inside : i < part) :
    (left fits bytes).get i = bytes.get i := by
  unfold get left
  rw [List.getD_eq_getElem?_getD, List.getElem?_take_of_lt inside, List.getD_eq_getElem?_getD]

theorem get_join_of_lt (first : FixedBytes part) (second : FixedBytes (size - part)) {i : Nat}
    (inside : i < part) : (join fits first second).get i = first.get i := by
  rw [← get_left fits _ inside, left_join]

theorem get_join_of_le (first : FixedBytes part) (bytes : FixedBytes size) {i : Nat}
    (beyond : part ≤ i) : (join fits first (right bytes)).get i = bytes.get i := by
  have length : first.toList.length ≤ i := by rw [first.length_toList]; exact beyond
  unfold get join right
  dsimp only
  rw [List.getD_eq_getElem?_getD, List.getElem?_append_right length, List.getElem?_drop,
    first.length_toList, Nat.add_sub_cancel' beyond, ← List.getD_eq_getElem?_getD]

end Parts

end FixedBytes

/-! ## An input and an output buffer -/

/-- A buffer that is read and overwritten, or a separate input and output. -/
inductive InOut (size : Nat) where
  | inPlace (buffer : FixedBytes size)
  | separate (input output : FixedBytes size)
deriving DecidableEq

namespace InOut

variable {size : Nat}

def getIn : InOut size → FixedBytes size
  | .inPlace buffer => buffer
  | .separate input _ => input

def getOut : InOut size → FixedBytes size
  | .inPlace buffer => buffer
  | .separate _ output => output

def setOut : InOut size → FixedBytes size → InOut size
  | .inPlace _, output => .inPlace output
  | .separate input _, output => .separate input output

@[simp] theorem getOut_setOut (block : InOut size) (output : FixedBytes size) :
    (block.setOut output).getOut = output := by
  cases block <;> rfl

@[simp] theorem setOut_setOut (block : InOut size) (first second : FixedBytes size) :
    (block.setOut first).setOut second = block.setOut second := by
  cases block <;> rfl

/-- The loop `for i in 0..part { block.get_out()[i] = block.read()[i] ^ mask[i] }`. -/
def xorLoop {part : Nat} (read : InOut size → FixedBytes size) (mask : FixedBytes part)
    (block : InOut size) : InOut size :=
  part.fold (fun i _ block => block.setOut (block.getOut.set i ((read block).get i ^^^ mask.get i)))
    block

def xorIn {part : Nat} (mask : FixedBytes part) (block : InOut size) : InOut size :=
  xorLoop getIn mask block

def xorOut {part : Nat} (mask : FixedBytes part) (block : InOut size) : InOut size :=
  xorLoop getOut mask block

open FixedBytes

variable {part : Nat} (fits : part ≤ size)

theorem xorLoop_eq {read : InOut size → FixedBytes size} {block : InOut size}
    (untouched : ∀ output i, output.get i = block.getOut.get i →
      (read (block.setOut output)).get i = (read block).get i) (mask : FixedBytes part) :
    xorLoop read mask block =
      block.setOut (join fits ((left fits (read block)).xor mask) (right block.getOut)) := by
  have partial_done : ∀ count ≤ part, ∃ output,
      count.fold (fun i _ block =>
        block.setOut (block.getOut.set i ((read block).get i ^^^ mask.get i))) block =
          block.setOut output ∧
        ∀ j, output.get j =
          if j < count then (read block).get j ^^^ mask.get j else block.getOut.get j := by
    intro count
    induction count with
    | zero =>
        intro _
        refine ⟨block.getOut, ?_, fun j => rfl⟩
        cases block <;> rfl
    | succ count ih =>
        intro below
        obtain ⟨output, reached, bytes⟩ := ih (by omega)
        have next : output.get count = block.getOut.get count := by
          rw [bytes count, if_neg (lt_irrefl count)]
        refine ⟨output.set count ((read block).get count ^^^ mask.get count), ?_, ?_⟩
        · rw [Nat.fold_succ, reached, getOut_setOut, setOut_setOut, untouched output count next]
        · intro j
          rw [get_set _ (by omega), bytes j]
          rcases lt_trichotomy j count with done | rfl | later
          · rw [if_neg (by omega), if_pos done, if_pos (by omega)]
          · rw [if_pos rfl, if_pos (by omega)]
          · rw [if_neg (by omega), if_neg (by omega), if_neg (by omega)]
  obtain ⟨output, reached, bytes⟩ := partial_done part (le_refl part)
  rw [xorLoop, reached]
  congr 1
  apply ext_get
  intro i inside
  rw [bytes i]
  rcases Nat.lt_or_ge i part with masked | kept
  · rw [if_pos masked, get_join_of_lt fits _ _ masked, get_xor _ _ masked,
      get_left fits _ masked]
  · rw [if_neg (by omega), get_join_of_le fits _ _ kept]

theorem xorIn_eq (mask : FixedBytes part) (block : InOut size) :
    block.xorIn mask =
      block.setOut (join fits ((left fits block.getIn).xor mask) (right block.getOut)) := by
  apply xorLoop_eq
  intro output i same
  cases block with
  | inPlace buffer => exact same
  | separate input output => rfl

theorem xorOut_eq (mask : FixedBytes part) (block : InOut size) :
    block.xorOut mask =
      block.setOut (join fits ((left fits block.getOut).xor mask) (right block.getOut)) := by
  apply xorLoop_eq
  intro output i same
  rw [getOut_setOut]
  exact same

end InOut

end BigEndian
