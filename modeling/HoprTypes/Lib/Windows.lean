import HoprTypes.Lib.Outcome

/-!
# Windows of a buffer

Copying a byte string into a window of a buffer, which panics unless the string has the
length of the window.  Windows that follow one another fill the buffer from the front.
-/

set_option autoImplicit false

namespace Windows

open BigEndian

variable {ε : Type} {size : Nat}

def lengthMismatch : String :=
  "copy_from_slice: source slice length does not match destination slice length"

def copyFromSlice (buffer : FixedBytes size) (offset width : Nat) (source : Bytes) :
    Outcome ε (FixedBytes size) :=
  if inside : offset + width ≤ size then
    if exact : source.length = width then
      .ok ⟨buffer.toList.take offset ++ (source ++ buffer.toList.drop (offset + width)), by
        rw [List.length_append, List.length_append, List.length_take, List.length_drop,
          buffer.length_toList, exact]
        omega⟩
    else .panicked lengthMismatch
  else .panicked "range end index out of range for slice"

/-- The buffer starts with what was written so far. -/
structure FilledTo (buffer : FixedBytes size) (front : Bytes) : Prop where
  front_prefix : front <+: buffer.toList

theorem FilledTo.nil (buffer : FixedBytes size) : FilledTo buffer [] := ⟨List.nil_prefix⟩

theorem FilledTo.copy {buffer : FixedBytes size} {front source : Bytes} {offset width : Nat}
    (filled : FilledTo buffer front) (here : front.length = offset)
    (inside : offset + width ≤ size) (exact : source.length = width) :
    ∃ result,
      (copyFromSlice buffer offset width source : Outcome ε (FixedBytes size)) = .ok result ∧
        FilledTo result (front ++ source) := by
  unfold copyFromSlice
  rw [dif_pos inside, dif_pos exact]
  refine ⟨_, rfl, ?_⟩
  obtain ⟨rest, split⟩ := filled.front_prefix
  have taken : buffer.toList.take offset = front := by
    rw [← split, ← here]
    exact List.take_left' rfl
  constructor
  change front ++ source <+:
    buffer.toList.take offset ++ (source ++ buffer.toList.drop (offset + width))
  rw [taken, ← List.append_assoc]
  exact List.prefix_append _ _

theorem FilledTo.eq {buffer : FixedBytes size} {front : Bytes} (filled : FilledTo buffer front)
    (whole : front.length = size) : buffer.toList = front := by
  symm
  apply filled.front_prefix.eq_of_length
  rw [whole, buffer.length_toList]

theorem copyFromSlice_of_ne {buffer : FixedBytes size} {offset width : Nat} {source : Bytes}
    (inside : offset + width ≤ size) (other : source.length ≠ width) :
    (copyFromSlice buffer offset width source : Outcome ε (FixedBytes size)) =
      .panicked lengthMismatch := by
  unfold copyFromSlice
  rw [dif_pos inside, dif_neg other]

end Windows
