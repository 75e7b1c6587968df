import Mathlib.Algebra.Order.Field.Rat
import Mathlib.Data.List.DropRight
import Mathlib.Tactic.FieldSimp
import Mathlib.Tactic.Ring

/-!
# Decimal text

The plain text of a natural number divided by a power of ten, with as many fractional digits
as the power has zeros, and the shorter text without trailing zeros.
-/

set_option autoImplicit false

namespace Decimal

def IsDigits (text : List Char) : Prop := ∀ c ∈ text, c.isDigit = true

def fractionText (width value : Nat) : List Char :=
  List.replicate (width - (Nat.toDigits 10 value).length) '0' ++ Nat.toDigits 10 value

def plainText (digits scale : Nat) : List Char :=
  Nat.toDigits 10 (digits / 10 ^ scale) ++ '.' :: fractionText scale (digits % 10 ^ scale)

/-- The text without all trailing occurrences of a character. -/
def trimEnd (c : Char) (text : List Char) : List Char := text.rdropWhile (· == c)

/-- Digits, and after a point further digits if there are any. -/
def decimalText (whole fraction : List Char) : List Char :=
  if fraction = [] then whole else whole ++ '.' :: fraction

def valueOf (whole fraction : List Char) : Rat :=
  Nat.ofDigitChars 10 whole 0 + Nat.ofDigitChars 10 fraction 0 / 10 ^ fraction.length

/-! ## Trailing characters -/

theorem trimEnd_concat_self (c : Char) (text : List Char) :
    trimEnd c (text ++ [c]) = trimEnd c text :=
  List.rdropWhile_concat_pos _ _ _ (beq_self_eq_true c)

theorem trimEnd_concat_of_ne {c last : Char} (other : last ≠ c) (text : List Char) :
    trimEnd c (text ++ [last]) = text ++ [last] :=
  List.rdropWhile_concat_neg _ _ _ (by simpa using other)

theorem trimEnd_append_replicate (c : Char) (text : List Char) (count : Nat) :
    trimEnd c (text ++ List.replicate count c) = trimEnd c text := by
  induction count with
  | zero => rw [List.replicate_zero, List.append_nil]
  | succ count ih => rw [List.replicate_succ', ← List.append_assoc, trimEnd_concat_self, ih]

/-- What is trimmed are occurrences of the character, and what remains ends in another one. -/
theorem trimEnd_spec (c : Char) (text : List Char) :
    (∃ count, text = trimEnd c text ++ List.replicate count c) ∧
      (trimEnd c text = [] ∨ ∃ front last, last ≠ c ∧ trimEnd c text = front ++ [last]) := by
  induction text using List.reverseRecOn with
  | nil => exact ⟨⟨0, rfl⟩, Or.inl rfl⟩
  | append_singleton text last ih =>
      by_cases same : last = c
      · rw [same, trimEnd_concat_self]
        obtain ⟨⟨count, split⟩, shape⟩ := ih
        refine ⟨⟨count + 1, ?_⟩, shape⟩
        rw [List.replicate_succ', ← List.append_assoc, ← split]
      · rw [trimEnd_concat_of_ne same]
        exact ⟨⟨0, (List.append_nil _).symm⟩, Or.inr ⟨text, last, same, rfl⟩⟩

theorem trimEnd_of_notMem {c : Char} {text : List Char} (absent : c ∉ text) :
    trimEnd c text = text := by
  rcases List.eq_nil_or_concat text with rfl | ⟨front, last, rfl⟩
  · rfl
  · rw [List.concat_eq_append] at absent ⊢
    apply trimEnd_concat_of_ne
    rintro rfl
    exact absent (by simp)

/-! ## Digits -/

theorem isDigits_toDigits (value : Nat) : IsDigits (Nat.toDigits 10 value) := by
  intro c member
  exact Nat.isDigit_of_mem_toDigits (by decide) (by decide) member

theorem isDigits_append {left right : List Char} :
    IsDigits (left ++ right) ↔ IsDigits left ∧ IsDigits right := by
  unfold IsDigits
  constructor
  · intro both
    exact ⟨fun c member => both c (List.mem_append_left _ member),
      fun c member => both c (List.mem_append_right _ member)⟩
  · rintro ⟨first, second⟩ c member
    rcases List.mem_append.mp member with left | right
    · exact first c left
    · exact second c right

theorem isDigits_fractionText (width value : Nat) : IsDigits (fractionText width value) := by
  apply isDigits_append.mpr
  refine ⟨?_, isDigits_toDigits value⟩
  intro c member
  rw [List.eq_of_mem_replicate member]
  rfl

theorem notMem_of_isDigits {text : List Char} {c : Char} (digits : IsDigits text)
    (noDigit : c.isDigit = false) : c ∉ text := by
  intro member
  have digit := digits c member
  rw [noDigit] at digit
  cases digit

theorem ofDigitChars_fractionText (width value : Nat) :
    Nat.ofDigitChars 10 (fractionText width value) 0 = value := by
  rw [fractionText, Nat.ofDigitChars_append, Nat.ofDigitChars_replicate_zero, Nat.mul_zero,
    Nat.ofDigitChars_ten_toDigits]

theorem length_fractionText {width value : Nat} (positive : 0 < width)
    (fits : value < 10 ^ width) : (fractionText width value).length = width := by
  have length := (Nat.length_toDigits_le_iff (by decide : 1 < 10) positive).mpr fits
  rw [fractionText, List.length_append, List.length_replicate]
  omega

theorem trim_plainText {scale : Nat} (digits : Nat) (positive : 0 < scale) :
    ∃ whole fraction, IsDigits whole ∧ whole ≠ [] ∧ IsDigits fraction ∧
      trimEnd '.' (trimEnd '0' (plainText digits scale)) = decimalText whole fraction ∧
      valueOf whole fraction = digits / 10 ^ scale := by
  have fits : digits % 10 ^ scale < 10 ^ scale := Nat.mod_lt _ (Nat.pow_pos (by decide))
  have wholeDigits := isDigits_toDigits (digits / 10 ^ scale)
  have fractionDigits := isDigits_fractionText scale (digits % 10 ^ scale)
  have length := length_fractionText positive fits
  have value := ofDigitChars_fractionText scale (digits % 10 ^ scale)
  obtain ⟨⟨count, split⟩, shape⟩ := trimEnd_spec '0' (fractionText scale (digits % 10 ^ scale))
  rw [plainText]
  generalize fractionText scale (digits % 10 ^ scale) = text at *
  generalize trimEnd '0' text = fraction at *
  subst split
  rw [isDigits_append] at fractionDigits
  refine ⟨Nat.toDigits 10 (digits / 10 ^ scale), fraction, wholeDigits, Nat.toDigits_ne_nil,
    fractionDigits.1, ?_, ?_⟩
  · have noPoint : '.' ∉ Nat.toDigits 10 (digits / 10 ^ scale) :=
      notMem_of_isDigits wholeDigits (by decide)
    rw [← List.cons_append, ← List.append_assoc, trimEnd_append_replicate]
    rcases shape with rfl | ⟨front, last, notZero, rfl⟩
    · rw [trimEnd_concat_of_ne (by decide), trimEnd_concat_self, trimEnd_of_notMem noPoint]
      exact (if_pos rfl).symm
    · have notPoint : last ≠ '.' := by
        rintro rfl
        exact absurd (fractionDigits.1 '.' (by simp)) (by decide)
      have nonEmpty : front ++ [last] ≠ [] := by simp
      rw [decimalText, if_neg nonEmpty, ← List.cons_append, ← List.append_assoc,
        trimEnd_concat_of_ne notZero, trimEnd_concat_of_ne notPoint]
  · rw [Nat.ofDigitChars_append, Nat.ofDigitChars_replicate_zero] at value
    rw [List.length_append, List.length_replicate] at length
    have total : (digits : Rat) = 10 ^ scale * (digits / 10 ^ scale : Nat) +
        10 ^ count * Nat.ofDigitChars 10 fraction 0 := by
      have division := Nat.div_add_mod digits (10 ^ scale)
      rw [← value] at division
      exact_mod_cast division.symm
    rw [valueOf, Nat.ofDigitChars_ten_toDigits, total, ← length, pow_add]
    field_simp
    ring

end Decimal
