import HoprTypes.Crypto.PixAddress
import HoprTypes.Lib.Successors

/-!
# Identifiers of packet senders

A sender id is a pseudonym with the id of one SURB. It stands for a sequence of ids, each of which
is hashed from the one before and a 32-bit counter.
-/

set_option autoImplicit false

namespace HoprTypes.Internal

open BigEndian HoprTypes.Primitive HoprTypes.Crypto

abbrev HoprPseudonym := SimplePseudonym

def surbIdSize : Nat := 8

abbrev HoprSurbId := FixedBytes 8

structure HoprSenderId where
  bytes : FixedBytes 18
deriving DecidableEq

namespace HoprSenderId

def fromPseudonymAndId (pseudonym : HoprPseudonym) (id : HoprSurbId) : HoprSenderId where
  bytes := ⟨pseudonym.toList ++ id.toList, by simp⟩

variable {ε : Type}

def pseudonym (sender : HoprSenderId) : Outcome ε HoprPseudonym :=
  Outcome.expect "must have valid pseudonym"
    (SimplePseudonym.tryFrom (slice sender.bytes.toList 0 SimplePseudonym.size))

def surbId (sender : HoprSenderId) : Outcome ε HoprSurbId :=
  Outcome.expect "must have valid nonce"
    (tryFromSlice 8 "surb id" (slice sender.bytes.toList SimplePseudonym.size surbIdSize))

/-! ## The sequence of a sender -/

/-- The increment of the counter. A build without overflow checks wraps it around. -/
def increment (overflowChecks : Bool) (i : U32) : Outcome ε U32 :=
  if overflowChecks = true ∧ i = BitVec.allOnes 32 then
    Outcome.panicked "attempt to add with overflow"
  else .ok (i + 1)

variable (blake3 : Bytes → FixedBytes 32) (overflowChecks : Bool)

def hashFast (inputs : List Bytes) : FixedBytes 32 := blake3 inputs.flatten

def idOfHash (hash : FixedBytes 32) : HoprSurbId :=
  ⟨slice hash.toList 0 surbIdSize, length_slice (by simp [surbIdSize])⟩

def successor (item : U32 × HoprSenderId) : Outcome ε (Option (U32 × HoprSenderId)) := do
  let (i, prev) := item
  let hash := hashFast blake3 [toBeBytes 4 i, prev.bytes.toList]
  let following ← increment overflowChecks i
  let pseudonym ← prev.pseudonym
  .ok (some (following, fromPseudonymAndId pseudonym (idOfHash hash)))

/-- The item at a position, which is counted from 1. -/
def intoSequence (sender : HoprSenderId) (position : Nat) : Outcome ε (Option HoprSenderId) := do
  let item ← Successors.nth (successor blake3 overflowChecks) (position - 1) (some (1, sender))
  .ok (item.map Prod.snd)

/-! ## The parts of an id -/

theorem pseudonym_fromPseudonymAndId (pseudonym : HoprPseudonym) (id : HoprSurbId) :
    ((fromPseudonymAndId pseudonym id).pseudonym : Outcome ε _) = .ok pseudonym := by
  have front : slice (fromPseudonymAndId pseudonym id).bytes.toList 0 SimplePseudonym.size =
      pseudonym.toList := by
    rw [slice, List.drop_zero, fromPseudonymAndId]
    exact List.take_left' (by simp [SimplePseudonym.size])
  rw [HoprSenderId.pseudonym, front, SimplePseudonym.tryFrom, tryFromSlice_toList]
  rfl

theorem surbId_fromPseudonymAndId (pseudonym : HoprPseudonym) (id : HoprSurbId) :
    ((fromPseudonymAndId pseudonym id).surbId : Outcome ε _) = .ok id := by
  have back : slice (fromPseudonymAndId pseudonym id).bytes.toList SimplePseudonym.size
      surbIdSize = id.toList := by
    rw [slice, fromPseudonymAndId, List.drop_left' (by simp [SimplePseudonym.size])]
    exact List.take_of_length_le (by simp [surbIdSize])
  rw [HoprSenderId.surbId, back, tryFromSlice_toList]
  rfl

theorem exists_pseudonym (sender : HoprSenderId) :
    ∃ pseudonym, ∀ {ε : Type}, (sender.pseudonym : Outcome ε _) = .ok pseudonym := by
  have length : (slice sender.bytes.toList 0 SimplePseudonym.size).length = 10 :=
    length_slice (by simp [SimplePseudonym.size])
  refine ⟨⟨_, length⟩, ?_⟩
  intro ε
  rw [HoprSenderId.pseudonym, SimplePseudonym.tryFrom, tryFromSlice, dif_pos length]
  rfl

/-! ## Steps and runs -/

variable {blake3 : Bytes → FixedBytes 32} {overflowChecks : Bool}

theorem increment_eq_ok {i following : U32} :
    (increment overflowChecks i : Outcome ε U32) = .ok following ↔
      (overflowChecks = true → i.toNat + 1 < 2 ^ 32) ∧ following = i + 1 := by
  have last : i = BitVec.allOnes 32 ↔ ¬ i.toNat + 1 < 2 ^ 32 := by
    have bound := i.isLt
    rw [← BitVec.toNat_inj, BitVec.toNat_allOnes]
    omega
  unfold increment
  by_cases stops : overflowChecks = true ∧ i = BitVec.allOnes 32
  · rw [if_pos stops]
    constructor
    · intro impossible
      cases impossible
    · rintro ⟨small, _⟩
      exact absurd (small stops.1) (last.mp stops.2)
  · rw [if_neg stops, Except.ok.injEq]
    constructor
    · intro same
      refine ⟨?_, same.symm⟩
      intro checked
      by_contra large
      exact stops ⟨checked, last.mpr large⟩
    · rintro ⟨_, same⟩
      exact same.symm

/-- The id behind another one, and the parts it is made of. -/
structure Follows (blake3 : Bytes → FixedBytes 32) (counter : FixedBytes 4)
    (previous item : HoprSenderId) : Prop where
  pseudonym : ∀ {ε : Type}, (item.pseudonym : Outcome ε _) = previous.pseudonym
  surbId : ∀ {ε : Type}, (item.surbId : Outcome ε _) =
    .ok (idOfHash (hashFast blake3 [counter.toList, previous.bytes.toList]))

/-- A step hashes the counter and the id, and computes the next counter. -/
theorem successor_spec (i : U32) (previous : HoprSenderId) :
    ∃ item, Follows blake3 (beBytes 4 i.toNat) previous item ∧
      ∀ rest, (successor blake3 overflowChecks (i, previous) : Outcome ε _) = .ok rest ↔
        (overflowChecks = true → i.toNat + 1 < 2 ^ 32) ∧ rest = some (i + 1, item) := by
  obtain ⟨pseudonym, parsed⟩ := exists_pseudonym previous
  refine ⟨fromPseudonymAndId pseudonym
    (idOfHash (hashFast blake3 [toBE 4 i.toNat, previous.bytes.toList])), ?_, ?_⟩
  · constructor
    · intro ε
      rw [pseudonym_fromPseudonymAndId, parsed]
    · intro ε
      exact surbId_fromPseudonymAndId _ _
  · intro rest
    unfold successor
    simp only [bind_eq_ok, increment_eq_ok, parsed]
    constructor
    · rintro ⟨following, ⟨small, next⟩, _, same, built⟩
      obtain rfl := Except.ok.inj same
      rw [← Except.ok.inj built, next]
      exact ⟨small, rfl⟩
    · rintro ⟨small, built⟩
      refine ⟨i + 1, ⟨small, rfl⟩, pseudonym, rfl, ?_⟩
      rw [built]
      rfl

/-- What the sequence keeps after `n` items. -/
def keptAfter (blake3 : Bytes → FixedBytes 32) (overflowChecks : Bool) (sender : HoprSenderId)
    (n : Nat) : Outcome ε (Option (U32 × HoprSenderId)) :=
  Successors.drops (successor blake3 overflowChecks) n (some (1, sender))

variable {sender : HoprSenderId} {n : Nat}

theorem keptAfter_shape {kept : Option (U32 × HoprSenderId)}
    (taken : (keptAfter blake3 overflowChecks sender n : Outcome ε _) = .ok kept) :
    ∃ item : HoprSenderId, kept = some (BitVec.ofNat 32 (n + 1), item) ∧
      ∀ {ε : Type}, (item.pseudonym : Outcome ε _) = sender.pseudonym := by
  induction n generalizing kept with
  | zero => exact ⟨sender, (Except.ok.inj taken).symm, rfl⟩
  | succ n ih =>
      rw [keptAfter, Successors.drops_succ] at taken
      obtain ⟨before, reached, stepped⟩ := bind_eq_ok.mp taken
      obtain ⟨previous, rfl, samePseudonym⟩ := ih reached
      obtain ⟨item, follows, step⟩ :=
        @successor_spec ε blake3 overflowChecks (BitVec.ofNat 32 (n + 1)) previous
      refine ⟨item, ?_, ?_⟩
      · rw [((step kept).mp stepped).2, BitVec.ofNat_add (n + 1)]
        rfl
      · intro ε
        rw [follows.pseudonym, samePseudonym]

theorem keptAfter_succ
    (reached : ∃ kept, (keptAfter blake3 overflowChecks sender n : Outcome ε _) = .ok kept) :
    (∃ kept, (keptAfter blake3 overflowChecks sender (n + 1) : Outcome ε _) = .ok kept) ↔
      (overflowChecks = true → (n + 1) % 2 ^ 32 + 1 < 2 ^ 32) := by
  obtain ⟨kept, taken⟩ := reached
  obtain ⟨previous, rfl, _⟩ := keptAfter_shape taken
  obtain ⟨item, _, step⟩ :=
    @successor_spec ε blake3 overflowChecks (BitVec.ofNat 32 (n + 1)) previous
  have unfolded : (keptAfter blake3 overflowChecks sender (n + 1) : Outcome ε _) =
      successor blake3 overflowChecks (BitVec.ofNat 32 (n + 1), previous) := by
    rw [keptAfter, Successors.drops_succ, ← keptAfter, taken]
    rfl
  rw [BitVec.toNat_ofNat] at step
  rw [unfolded]
  constructor
  · rintro ⟨rest, stepped⟩
    exact ((step rest).mp stepped).1
  · intro small
    exact ⟨_, (step _).mpr ⟨small, rfl⟩⟩

theorem keptAfter_isOk_iff :
    (∃ kept, (keptAfter blake3 overflowChecks sender n : Outcome ε _) = .ok kept) ↔
      (overflowChecks = true → n + 1 < 2 ^ 32) := by
  induction n with
  | zero => exact iff_of_true ⟨_, rfl⟩ (fun _ => by norm_num)
  | succ n ih =>
      constructor
      · rintro ⟨kept, taken⟩ checked
        have reached := Successors.drops_eq_ok_of_le (Nat.le_succ n) taken
        have before := ih.mp reached checked
        have small := (keptAfter_succ reached).mp ⟨kept, taken⟩ checked
        rw [Nat.mod_eq_of_lt before] at small
        exact small
      · intro small
        have reached := ih.mpr (fun checked => Nat.lt_of_succ_lt (small checked))
        apply (keptAfter_succ reached).mpr
        intro checked
        rw [Nat.mod_eq_of_lt (Nat.lt_of_succ_lt (small checked))]
        exact small checked

theorem keptAfter_follows {counter following : U32} {previous item : HoprSenderId}
    (taken : (keptAfter blake3 overflowChecks sender n : Outcome ε _) =
      .ok (some (counter, previous)))
    (next : (keptAfter blake3 overflowChecks sender (n + 1) : Outcome ε _) =
      .ok (some (following, item))) :
    Follows blake3 (beBytes 4 counter.toNat) previous item := by
  obtain ⟨found, follows, step⟩ := @successor_spec ε blake3 overflowChecks counter previous
  rw [keptAfter, Successors.drops_succ, ← keptAfter, taken] at next
  obtain ⟨_, same⟩ := (step _).mp next
  obtain ⟨_, rfl⟩ := Prod.mk.inj (Option.some.inj same)
  exact follows

theorem intoSequence_eq_ok {item : HoprSenderId} :
    (intoSequence blake3 overflowChecks sender (n + 1) : Outcome ε _) = .ok (some item) ↔
      (keptAfter blake3 overflowChecks sender n : Outcome ε _) =
          .ok (some (BitVec.ofNat 32 (n + 1), item)) ∧
        (overflowChecks = true → n + 2 < 2 ^ 32) := by
  rw [← keptAfter_isOk_iff (n := n + 1)]
  unfold intoSequence
  rw [Nat.add_sub_cancel, bind_eq_ok]
  simp only [Successors.nth_eq_ok]
  constructor
  · rintro ⟨kept, ⟨taken, further⟩, same⟩
    obtain ⟨found, rfl, _⟩ := keptAfter_shape taken
    obtain rfl := Option.some.inj (Except.ok.inj same)
    exact ⟨taken, further⟩
  · rintro ⟨taken, further⟩
    exact ⟨_, ⟨taken, further⟩, rfl⟩

theorem intoSequence_isOk_iff :
    (∃ item, (intoSequence blake3 overflowChecks sender (n + 1) : Outcome ε _) =
        .ok (some item)) ↔ (overflowChecks = true → n + 2 < 2 ^ 32) := by
  constructor
  · rintro ⟨item, taken⟩
    exact (intoSequence_eq_ok.mp taken).2
  · intro small
    obtain ⟨kept, taken⟩ := (keptAfter_isOk_iff (ε := ε)).mpr
      (fun checked => Nat.lt_of_succ_lt (small checked))
    obtain ⟨item, rfl, _⟩ := keptAfter_shape taken
    exact ⟨item, intoSequence_eq_ok.mpr ⟨taken, small⟩⟩

/-! ## The documented recurrence -/

/-- The item at a position can be taken and is the one that the recurrence gives: the sender
itself, or the id behind the item before it, hashed with a counter that spells its position. -/
def FollowsRecurrence (blake3 : Bytes → FixedBytes 32) (overflowChecks : Bool)
    (sender : HoprSenderId) (position : Nat) : Prop :=
  ∃ item, (intoSequence blake3 overflowChecks sender position : Outcome Empty _) =
      .ok (some item) ∧
    (position = 1 → item = sender) ∧
    (1 < position → ∃ (counter : FixedBytes 4) (previous : HoprSenderId),
      ofBE counter.toList = position - 1 ∧
      (intoSequence blake3 overflowChecks sender (position - 1) : Outcome Empty _) =
        .ok (some previous) ∧
      (item.pseudonym : Outcome Empty _) = sender.pseudonym ∧
      (item.surbId : Outcome Empty _) =
        .ok (idOfHash (hashFast blake3 [counter.toList, previous.bytes.toList])))

/-- The last position up to which the sequence is the documented one. -/
def lastPosition (overflowChecks : Bool) : Nat :=
  if overflowChecks then 2 ^ 32 - 2 else 2 ^ 32

/-- Without overflow checks the counter wraps around behind the last position; with them no item
can be taken whose successor has no counter. -/
theorem FollowsRecurrence.le_lastPosition
    (follows : FollowsRecurrence blake3 overflowChecks sender (n + 1)) :
    n + 1 ≤ lastPosition overflowChecks := by
  obtain ⟨item, taken, _, later⟩ := follows
  have small := (intoSequence_eq_ok.mp taken).2
  cases overflowChecks with
  | true =>
      have bound := small rfl
      show n + 1 ≤ 2 ^ 32 - 2
      omega
  | false =>
      show n + 1 ≤ 2 ^ 32
      by_contra large
      obtain ⟨counter, _, spelled, _⟩ := later (by omega)
      have bound := ofBE_lt counter.toList
      rw [spelled, counter.length_toList] at bound
      omega

/-- Up to the last position the item at a position is taken, and it comes from the item before it
by the counter of that position. -/
theorem followsRecurrence_of_le (inRange : n + 1 ≤ lastPosition overflowChecks) :
    FollowsRecurrence blake3 overflowChecks sender (n + 1) := by
  have small : overflowChecks = true → n + 2 < 2 ^ 32 := by
    intro checked
    rw [checked] at inRange
    have bound : n + 1 ≤ 2 ^ 32 - 2 := inRange
    omega
  have counterFits : n < 2 ^ 32 := by
    have bound : lastPosition overflowChecks ≤ 2 ^ 32 := by
      cases overflowChecks <;> decide
    omega
  obtain ⟨item, taken⟩ := (intoSequence_isOk_iff (ε := Empty)).mpr small
  have kept := (intoSequence_eq_ok.mp taken).1
  refine ⟨item, taken, ?_, ?_⟩
  · intro first
    obtain rfl : n = 0 := by omega
    obtain ⟨_, same⟩ := Prod.mk.inj (Option.some.inj (Except.ok.inj kept))
    exact same.symm
  · intro later
    obtain ⟨m, rfl⟩ := Nat.exists_eq_add_of_le' (show 1 ≤ n by omega)
    obtain ⟨previous, before⟩ := (intoSequence_isOk_iff (ε := Empty)).mpr
      (fun checked => Nat.lt_of_succ_lt (small checked))
    have follows := keptAfter_follows (intoSequence_eq_ok.mp before).1 kept
    obtain ⟨_, same, samePseudonym⟩ := keptAfter_shape kept
    obtain ⟨_, rfl⟩ := Prod.mk.inj (Option.some.inj same)
    refine ⟨beBytes 4 (BitVec.ofNat 32 (m + 1)).toNat, previous, ?_, before, samePseudonym,
      follows.surbId⟩
    rw [toList_beBytes, BitVec.toNat_ofNat, Nat.mod_eq_of_lt counterFits]
    exact ofBE_toBE_of_lt counterFits

theorem followsRecurrence_iff {position : Nat} (positive : 1 ≤ position) :
    FollowsRecurrence blake3 overflowChecks sender position ↔
      position ≤ lastPosition overflowChecks := by
  obtain ⟨n, rfl⟩ := Nat.exists_eq_add_of_le' positive
  exact ⟨FollowsRecurrence.le_lastPosition, followsRecurrence_of_le⟩

theorem intoSequence_determined {left right item : HoprSenderId} {position later : Nat}
    (positive : 1 ≤ position) (behind : position ≤ later)
    (inLeft : (intoSequence blake3 overflowChecks left position : Outcome ε _) = .ok (some item))
    (inRight : (intoSequence blake3 overflowChecks right position : Outcome ε _) =
      .ok (some item)) :
    (intoSequence blake3 overflowChecks left later : Outcome ε _) =
      intoSequence blake3 overflowChecks right later := by
  obtain ⟨n, rfl⟩ := Nat.exists_eq_add_of_le' positive
  have le : n ≤ later - 1 := by omega
  rw [intoSequence, intoSequence, Successors.nth_eq_of_drops_eq le
    (intoSequence_eq_ok.mp inLeft).1 (intoSequence_eq_ok.mp inRight).1]

/-- The sequence is the documented one up to its last position, and any item determines what
follows it. -/
theorem intoSequence_documented_iff (blake3 : Bytes → FixedBytes 32) (overflowChecks : Bool) :
    (∀ (sender : HoprSenderId) (position : Nat), 1 ≤ position →
      (FollowsRecurrence blake3 overflowChecks sender position ↔
        position ≤ lastPosition overflowChecks)) ∧
    ∀ (left right item : HoprSenderId) (position later : Nat),
      1 ≤ position → position ≤ later →
      (intoSequence blake3 overflowChecks left position : Outcome Empty _) = .ok (some item) →
        (intoSequence blake3 overflowChecks right position : Outcome Empty _) =
            .ok (some item) →
          (intoSequence blake3 overflowChecks left later : Outcome Empty _) =
            intoSequence blake3 overflowChecks right later := by
  constructor
  · intro sender position positive
    exact followsRecurrence_iff positive
  · intro left right item position later positive behind inLeft inRight
    exact intoSequence_determined positive behind inLeft inRight

/-- With a constant hash, the sequences of ids of one pseudonym meet at their second items. -/
theorem intoSequence_documented_constant :
    let hash : Bytes → FixedBytes 32 := fun _ => beBytes 32 7
    let left : HoprSenderId := ⟨beBytes 18 0⟩
    let right : HoprSenderId := ⟨beBytes 18 1⟩
    FollowsRecurrence hash true left 2 ∧
      (intoSequence hash true left 5 : Outcome Empty _) = intoSequence hash true right 5 := by
  intro hash left right
  have documented := intoSequence_documented_iff hash true
  constructor
  · exact (documented.1 left 2 (by decide)).mpr (by decide)
  · exact documented.2 left right left 2 5 (by decide) (by decide) rfl rfl

/-- A build with overflow checks cannot take the item whose position is the last counter. -/
theorem last_counter_not_taken :
    ¬ FollowsRecurrence (fun _ => beBytes 32 7) true ⟨beBytes 18 0⟩ (2 ^ 32 - 1) := by
  rw [followsRecurrence_iff (by norm_num)]
  decide

end HoprSenderId

end HoprTypes.Internal
