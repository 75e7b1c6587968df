import Mathlib.Data.List.Nodup

/-!
# Bounded memos

A table of values that were computed before, searched from the front.  New values
are taken in only as long as there is room; the values of later keys are computed
every time.
-/

set_option autoImplicit false

namespace Memo

variable {κ β : Type}

/-- Takes a new value in if there is room. -/
def remember (capacity : Nat) (seen : List (κ × β)) (key : κ) (value : β) : List (κ × β) :=
  if seen.length < capacity then seen ++ [(key, value)] else seen

/-- Every entry holds the value of its key. -/
def Computed (compute : κ → Option β) (seen : List (κ × β)) : Prop :=
  ∀ known ∈ seen, compute known.1 = some known.2

/-- No key twice, and no more entries than there is room for. -/
structure Bounded (capacity : Nat) (seen : List (κ × β)) : Prop where
  distinct : (seen.map Prod.fst).Nodup
  room : seen.length ≤ capacity

variable {capacity : Nat} {compute : κ → Option β} {seen next : List (κ × β)} {key : κ} {value : β}

theorem computed_nil : Computed compute ([] : List (κ × β)) := by
  intro known member
  cases member

theorem bounded_nil : Bounded capacity ([] : List (κ × β)) :=
  ⟨List.nodup_nil, Nat.zero_le _⟩

theorem Computed.remember (computed : Computed compute seen) (found : compute key = some value) :
    Computed compute (remember capacity seen key value) := by
  unfold Memo.remember
  split
  · intro known member
    rcases List.mem_append.mp member with old | new
    · exact computed known old
    · rw [List.mem_singleton.mp new]
      exact found
  · exact computed

theorem Bounded.remember (bounded : Bounded capacity seen) (unknown : key ∉ seen.map Prod.fst) :
    Bounded capacity (remember capacity seen key value) := by
  unfold Memo.remember
  split
  · rename_i room
    refine ⟨?_, ?_⟩
    · rw [List.map_append, List.map_singleton]
      refine List.nodup_append.mpr ⟨bounded.distinct, List.nodup_singleton _, ?_⟩
      intro other member new isNew same
      rw [same, List.mem_singleton.mp isNew] at member
      exact unknown member
    · rw [List.length_append, List.length_singleton]
      exact room
  · exact bounded

/-! ## Functions without a value for some keys -/

theorem mapM_eq_none_iff {f : κ → Option β} {items : List κ} :
    items.mapM f = none ↔ ∃ item ∈ items, f item = none := by
  induction items with
  | nil => simp
  | cons first rest ih =>
      rw [List.mapM_cons, List.exists_mem_cons_iff, ← ih]
      cases f first with
      | none => simp
      | some value =>
          cases rest.mapM f with
          | none => simp
          | some values => simp

theorem map_some_of_mapM {f : κ → Option β} {items : List κ} {values : List β}
    (converted : items.mapM f = some values) : values.map some = items.map f := by
  induction items generalizing values with
  | nil =>
      obtain rfl := Option.some.inj converted
      rfl
  | cons first rest ih =>
      rw [List.mapM_cons] at converted
      obtain ⟨value, ofFirst, others⟩ := Option.bind_eq_some_iff.mp converted
      obtain ⟨values, ofRest, same⟩ := Option.bind_eq_some_iff.mp others
      obtain rfl := Option.some.inj same
      rw [List.map_cons, List.map_cons, ih ofRest, ofFirst]

/-! ## One key -/

variable [DecidableEq κ]

/-- The value of a key and the table behind it; a value in the table is not computed again. -/
def fetch (capacity : Nat) (compute : κ → Option β) (seen : List (κ × β)) (key : κ) :
    Option (β × List (κ × β)) :=
  match seen.find? fun known => known.1 == key with
  | some known => some (known.2, seen)
  | none => (compute key).map fun value => (value, remember capacity seen key value)

theorem fetch_spec (computed : Computed compute seen) (capacity : Nat) (key : κ) :
    (compute key = none ∧ fetch capacity compute seen key = none) ∨
      ∃ value next, compute key = some value ∧
        fetch capacity compute seen key = some (value, next) ∧ Computed compute next := by
  unfold fetch
  cases found : seen.find? fun known => known.1 == key with
  | some known =>
      have same : known.1 = key := by simpa using List.find?_some found
      have value : compute key = some known.2 := by
        rw [← same]
        exact computed known (List.mem_of_find?_eq_some found)
      exact Or.inr ⟨known.2, seen, value, rfl, computed⟩
  | none =>
      cases converted : compute key with
      | none => exact Or.inl ⟨rfl, rfl⟩
      | some value => exact Or.inr ⟨value, _, rfl, rfl, computed.remember converted⟩

theorem Bounded.fetch (bounded : Bounded capacity seen)
    (fetched : fetch capacity compute seen key = some (value, next)) : Bounded capacity next := by
  unfold Memo.fetch at fetched
  cases found : seen.find? fun known => known.1 == key with
  | some known =>
      rw [found] at fetched
      obtain ⟨_, rfl⟩ := Prod.mk.inj (Option.some.inj fetched)
      exact bounded
  | none =>
      rw [found] at fetched
      obtain ⟨converted, _, same⟩ := Option.map_eq_some_iff.mp fetched
      obtain ⟨_, rfl⟩ := Prod.mk.inj same
      apply bounded.remember
      intro member
      obtain ⟨known, inSeen, sameKey⟩ := List.mem_map.mp member
      have missed := List.find?_eq_none.mp found known inSeen
      exact missed (by simpa using sameKey)

/-! ## Several keys -/

/-- The values of several keys; there are none if one key has no value. -/
def fetchAll (capacity : Nat) (compute : κ → Option β) :
    List (κ × β) → List κ → Option (List β × List (κ × β))
  | seen, [] => some ([], seen)
  | seen, key :: keys =>
      (fetch capacity compute seen key).bind fun (value, next) =>
        (fetchAll capacity compute next keys).map fun (values, last) => (value :: values, last)

/-- Whatever the capacity and the order of the keys, the values are those that are computed
without a table. -/
theorem fetchAll_eq_mapM (computed : Computed compute seen) (capacity : Nat) (keys : List κ) :
    (fetchAll capacity compute seen keys).map Prod.fst = keys.mapM compute := by
  induction keys generalizing seen with
  | nil => rfl
  | cons key keys ih =>
      rw [List.mapM_cons, fetchAll]
      rcases fetch_spec computed capacity key with
        ⟨missing, fetched⟩ | ⟨value, next, found, fetched, nextComputed⟩
      · rw [missing, fetched]
        rfl
      · rw [found, fetched, ← ih nextComputed]
        simp only [Option.bind_some, Option.bind_eq_bind, Option.map_map]
        cases fetchAll capacity compute next keys with
        | none => rfl
        | some result => rfl

theorem fetchAll_eq_none_iff (computed : Computed compute seen) {keys : List κ} :
    fetchAll capacity compute seen keys = none ↔ ∃ key ∈ keys, compute key = none := by
  rw [← mapM_eq_none_iff, ← fetchAll_eq_mapM computed capacity, Option.map_eq_none_iff]

theorem fetchAll_values (computed : Computed compute seen) {keys : List κ} {values : List β}
    (fetched : fetchAll capacity compute seen keys = some (values, next)) :
    values.map some = keys.map compute := by
  apply map_some_of_mapM
  rw [← fetchAll_eq_mapM computed capacity, fetched]
  rfl

theorem Bounded.fetchAll {keys : List κ} {values : List β} (bounded : Bounded capacity seen)
    (fetched : fetchAll capacity compute seen keys = some (values, next)) :
    Bounded capacity next := by
  induction keys generalizing seen values with
  | nil =>
      obtain ⟨_, rfl⟩ := Prod.mk.inj (Option.some.inj fetched)
      exact bounded
  | cons key keys ih =>
      rw [Memo.fetchAll] at fetched
      obtain ⟨⟨value, middle⟩, first, rest⟩ := Option.bind_eq_some_iff.mp fetched
      obtain ⟨⟨others, last⟩, inner, same⟩ := Option.map_eq_some_iff.mp rest
      obtain ⟨_, rfl⟩ := Prod.mk.inj same
      exact ih (bounded.fetch first) inner

end Memo
