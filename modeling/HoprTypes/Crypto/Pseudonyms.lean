import HoprTypes.Crypto.PixAddress
import HoprTypes.Lib.Buffers

/-!
# Reading pseudonyms

Some data formats hand over a pseudonym as one byte string, others byte by byte.  Both are read
alike, and a longer sequence is not read to its end.
-/

set_option autoImplicit false

namespace HoprTypes.Crypto.SimplePseudonym

open BigEndian HoprTypes.Primitive

variable {ε : Type} (custom : String → ε)

/-! ## The visitor -/

def visitBytes (v : Bytes) : Except ε SimplePseudonym :=
  if length : v.length = size then .ok ⟨v, length⟩
  else .error (custom "invalid SimplePseudonym length")

/-- The answers of a data format to the calls for the next element: an element, the end, or an
error of the format. -/
abbrev SeqAccess (ε : Type) := Nat → Except ε (Option UInt8)

/-- The loop that fills the buffer from an index on; every turn asks for one element. -/
def visitSeqFrom (seq : SeqAccess ε) (index : Nat) (buffer : FixedBytes 10) :
    Except ε SimplePseudonym := do
  match ← seq index with
  | some byte =>
      if full : size ≤ index then .error (custom "SimplePseudonym sequence too long")
      else visitSeqFrom seq (index + 1) (buffer.set index byte)
  | none =>
      if index < size then .error (custom "SimplePseudonym sequence too short")
      else .ok buffer
termination_by size - index
decreasing_by omega

def visitSeq (seq : SeqAccess ε) : Except ε SimplePseudonym :=
  visitSeqFrom custom seq 0 ⟨List.replicate 10 0, by simp⟩

def elements (v : Bytes) : SeqAccess ε := fun index => .ok v[index]?

/-! ## The loop -/

/-- A pseudonym has the bytes of the buffer before the index and those of the sequence from there
on, and the sequence ends behind it. -/
def Completes (seq : SeqAccess ε) (index : Nat) (buffer : FixedBytes 10)
    (pseudonym : SimplePseudonym) : Prop :=
  (∀ i < index, pseudonym.get i = buffer.get i) ∧
    (∀ i, index ≤ i → i < size → seq i = .ok (some (pseudonym.get i))) ∧
    seq size = .ok none

theorem completes_size_iff {seq : SeqAccess ε} {buffer : FixedBytes 10}
    {pseudonym : SimplePseudonym} (ended : seq size = .ok none) :
    Completes seq size buffer pseudonym ↔ buffer = pseudonym := by
  constructor
  · intro complete
    exact (FixedBytes.ext_get complete.1).symm
  · rintro rfl
    refine ⟨fun i _ => rfl, ?_, ended⟩
    intro i large small
    omega

theorem completes_set_iff {seq : SeqAccess ε} {index : Nat} {buffer : FixedBytes 10}
    {pseudonym : SimplePseudonym} {byte : UInt8} (inside : index < size)
    (asked : seq index = .ok (some byte)) :
    Completes seq (index + 1) (buffer.set index byte) pseudonym ↔
      Completes seq index buffer pseudonym := by
  have written (i : Nat) : (buffer.set index byte).get i =
      if index = i then byte else buffer.get i := FixedBytes.get_set buffer inside byte i
  constructor
  · rintro ⟨kept, elements, ended⟩
    have atIndex := kept index (by omega)
    rw [written, if_pos rfl] at atIndex
    refine ⟨?_, ?_, ended⟩
    · intro i before
      rw [kept i (by omega), written, if_neg (by omega)]
    · intro i large small
      rcases Nat.eq_or_lt_of_le large with rfl | above
      · rw [atIndex, asked]
      · exact elements i above small
  · rintro ⟨kept, elements, ended⟩
    have atIndex := elements index (le_refl _) inside
    rw [asked, Except.ok.injEq, Option.some.injEq] at atIndex
    refine ⟨?_, fun i above small => elements i (by omega) small, ended⟩
    intro i upTo
    rw [written]
    split_ifs with here
    · rw [← here, atIndex]
    · exact kept i (by omega)

/-- The loop succeeds on a sequence of the right length, and keeps the bytes before the index. -/
theorem visitSeqFrom_eq_ok {seq : SeqAccess ε} {left index : Nat} {buffer : FixedBytes 10}
    (sum : index + left = size) {pseudonym : SimplePseudonym} :
    visitSeqFrom custom seq index buffer = .ok pseudonym ↔
      Completes seq index buffer pseudonym := by
  induction left generalizing index buffer with
  | zero =>
      obtain rfl : index = size := by omega
      rw [visitSeqFrom]
      cases asked : seq size with
      | error cause => simp [Completes, asked]
      | ok element =>
          cases element with
          | some byte => simp [Completes, asked]
          | none =>
              have filled : ¬size < size := by omega
              rw [completes_size_iff asked]
              simp only [ok_bind, if_neg filled, Except.ok.injEq]
  | succ left ih =>
      have inside : index < size := by omega
      rw [visitSeqFrom]
      cases asked : seq index with
      | error cause =>
          simp only [error_bind, reduceCtorEq, false_iff]
          intro complete
          have element := complete.2.1 index (le_refl _) inside
          rw [asked] at element
          cases element
      | ok element =>
          cases element with
          | none =>
              simp only [ok_bind, if_pos inside, reduceCtorEq, false_iff]
              intro complete
              have element := complete.2.1 index (le_refl _) inside
              rw [asked] at element
              cases element
          | some byte =>
              simp only [ok_bind, dif_neg (not_le.mpr inside)]
              rw [ih (by omega), completes_set_iff inside asked]

theorem visitSeqFrom_congr {left right : SeqAccess ε} (same : ∀ i ≤ size, left i = right i)
    {count index : Nat} (sum : index + count = size) (buffer : FixedBytes 10) :
    visitSeqFrom custom left index buffer = visitSeqFrom custom right index buffer := by
  induction count generalizing index buffer with
  | zero =>
      obtain rfl : index = size := by omega
      rw [visitSeqFrom, visitSeqFrom, same size (le_refl _)]
      simp
  | succ count ih =>
      have next := fun byte => @ih (index + 1) (by omega) (buffer.set index byte)
      rw [visitSeqFrom, visitSeqFrom, same index (by omega)]
      simp only [next]

/-- A sequence that is too short ends within the buffer, and one that is too long goes on behind
it. -/
theorem visitSeqFrom_elements_error {v : Bytes} (wrong : v.length ≠ size) {left index : Nat}
    (sum : index + left = size) (inside : index ≤ v.length) (buffer : FixedBytes 10) :
    visitSeqFrom custom (elements v) index buffer = .error (custom
      (if v.length < size then "SimplePseudonym sequence too short"
        else "SimplePseudonym sequence too long")) := by
  induction left generalizing index buffer with
  | zero =>
      obtain rfl : index = size := by omega
      have longer : size < v.length := by omega
      rw [visitSeqFrom, elements, List.getElem?_eq_getElem longer]
      simp [Nat.not_lt_of_le inside]
  | succ left ih =>
      rw [visitSeqFrom, elements]
      rcases Nat.eq_or_lt_of_le inside with rfl | before
      · have short : v.length < size := by omega
        rw [List.getElem?_eq_none (le_refl _)]
        simp [short]
      · have room : ¬size ≤ index := by omega
        have rest := ih (by omega) before (buffer.set index v[index])
        rw [List.getElem?_eq_getElem before]
        simp only [ok_bind, dif_neg room]
        exact rest

/-! ## Both ways of reading -/

theorem visitBytes_eq_ok {v : Bytes} {pseudonym : SimplePseudonym} :
    visitBytes custom v = .ok pseudonym ↔ v = pseudonym.toList := by
  rw [visitBytes]
  by_cases length : v.length = size
  · rw [dif_pos length, Except.ok.injEq, FixedBytes.ext_iff]
  · rw [dif_neg length]
    simp only [reduceCtorEq, false_iff]
    rintro rfl
    exact length pseudonym.length_toList

theorem visitSeq_eq_ok {seq : SeqAccess ε} {pseudonym : SimplePseudonym} :
    visitSeq custom seq = .ok pseudonym ↔
      (∀ i < size, seq i = .ok (some (pseudonym.get i))) ∧ seq size = .ok none := by
  rw [visitSeq, visitSeqFrom_eq_ok custom (Nat.zero_add size)]
  simp [Completes]

/-- A pseudonym is read from its bytes and nothing else, in one piece or byte by byte, with the
length named in the error; and of a longer sequence only one element too many is asked for. -/
theorem deserialize_spec :
    (∀ (v : Bytes) (pseudonym : SimplePseudonym),
      (visitBytes custom v = .ok pseudonym ↔ v = pseudonym.toList) ∧
      (visitSeq custom (elements v) = .ok pseudonym ↔ v = pseudonym.toList)) ∧
    (∀ v : Bytes, v.length ≠ size →
      visitBytes custom v = .error (custom "invalid SimplePseudonym length") ∧
      visitSeq custom (elements v) = .error (custom
        (if v.length < size then "SimplePseudonym sequence too short"
          else "SimplePseudonym sequence too long"))) ∧
    ∀ left right : SeqAccess ε, (∀ i ≤ size, left i = right i) →
      visitSeq custom left = visitSeq custom right := by
  refine ⟨fun v pseudonym => ⟨visitBytes_eq_ok custom, ?_⟩, fun v wrong => ⟨dif_neg wrong, ?_⟩,
    fun left right same => visitSeqFrom_congr custom same (Nat.zero_add size) _⟩
  · by_cases length : v.length = size
    · rw [visitSeq_eq_ok]
      have ended : (elements v : SeqAccess ε) size = .ok none := by
        rw [elements, List.getElem?_eq_none (by omega)]
      constructor
      · rintro ⟨same, _⟩
        have bytes : (⟨v, length⟩ : FixedBytes 10) = pseudonym := by
          apply FixedBytes.ext_get
          intro i inside
          have inList : i < v.length := by rw [length]; exact inside
          have element := same i inside
          rw [elements, List.getElem?_eq_getElem inList] at element
          rw [FixedBytes.get, List.getD_eq_getElem _ _ inList]
          exact Option.some.inj (Except.ok.inj element)
        exact congrArg FixedBytes.toList bytes
      · rintro rfl
        refine ⟨fun i inside => ?_, ended⟩
        have inList : i < pseudonym.toList.length := by rw [length]; exact inside
        rw [elements, List.getElem?_eq_getElem inList, FixedBytes.get,
          List.getD_eq_getElem _ _ inList]
    · rw [visitSeq, visitSeqFrom_elements_error custom length (Nat.zero_add size) (Nat.zero_le _)]
      simp only [reduceCtorEq, false_iff]
      rintro rfl
      exact length pseudonym.length_toList
  · exact visitSeqFrom_elements_error custom wrong (Nat.zero_add size) (Nat.zero_le _) _

end HoprTypes.Crypto.SimplePseudonym
