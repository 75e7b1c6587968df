import Mathlib.Data.List.Nodup
import Mathlib.Data.List.Sort

/-!
# Tables searched from the highest rank

A list of entries with distinct keys, sorted by descending rank.  An entry is replaced in place
or pushed and sorted in, and a search that stops at the first match finds one of the highest
rank.
-/

set_option autoImplicit false

namespace RankedTable

universe u v

variable {ε : Type u} {κ : Type v}

/-- Changes the first entry that matches; `none` when there is no such entry. -/
def updateFirst (holds : ε → Bool) (update : ε → ε) : List ε → Option (List ε)
  | [] => none
  | entry :: rest =>
      if holds entry then some (update entry :: rest)
      else (updateFirst holds update rest).map (entry :: ·)

def sortByRank (rank : ε → Nat) (entries : List ε) : List ε :=
  entries.mergeSort fun first second => decide (rank second ≤ rank first)

/-- No key twice, higher ranks first. -/
structure Kept (key : ε → κ) (rank : ε → Nat) (entries : List ε) : Prop where
  nodup : (entries.map key).Nodup
  sorted : entries.Pairwise fun first second => rank second ≤ rank first

/-! ## Replacing -/

theorem updateFirst_eq_none {holds : ε → Bool} {update : ε → ε} {entries : List ε} :
    updateFirst holds update entries = none ↔ ∀ entry ∈ entries, holds entry = false := by
  induction entries with
  | nil => simp [updateFirst]
  | cons first rest ih =>
      cases matching : holds first with
      | true => simp [updateFirst, matching]
      | false => simp [updateFirst, matching, ih]

theorem updateFirst_eq_some {holds : ε → Bool} {update : ε → ε} {entries result : List ε}
    (updated : updateFirst holds update entries = some result) :
    ∃ front entry back, entries = front ++ entry :: back ∧ holds entry = true ∧
      result = front ++ update entry :: back := by
  induction entries generalizing result with
  | nil => cases updated
  | cons first rest ih =>
      cases matching : holds first with
      | true =>
          simp only [updateFirst, matching, if_true, Option.some.injEq] at updated
          exact ⟨[], first, rest, rfl, matching, updated.symm⟩
      | false =>
          simp only [updateFirst, matching, Bool.false_eq_true, if_false,
            Option.map_eq_some_iff] at updated
          obtain ⟨changed, inner, rfl⟩ := updated
          obtain ⟨front, entry, back, rfl, holdsEntry, rfl⟩ := ih inner
          exact ⟨first :: front, entry, back, rfl, holdsEntry, rfl⟩

variable {key : ε → κ} {rank : ε → Nat}

theorem Kept.key_ne_of_split {front back : List ε} {old : ε}
    (kept : Kept key rank (front ++ old :: back)) :
    ∀ entry ∈ front ++ back, key entry ≠ key old := by
  have distinct := kept.nodup
  rw [List.map_append, List.map_cons, List.nodup_middle, List.nodup_cons,
    ← List.map_append] at distinct
  intro entry member same
  exact distinct.1 (List.mem_map.mpr ⟨entry, member, same⟩)

theorem Kept.sorted_replace {front back : List ε} {old new : ε}
    (kept : Kept key rank (front ++ old :: back)) (sameRank : rank new = rank old) :
    (front ++ new :: back).Pairwise fun first second => rank second ≤ rank first := by
  have sorted := kept.sorted
  rw [List.pairwise_append, List.pairwise_cons] at sorted ⊢
  obtain ⟨frontSorted, ⟨below, backSorted⟩, across⟩ := sorted
  refine ⟨frontSorted, ⟨?_, backSorted⟩, ?_⟩
  · intro entry member
    rw [sameRank]
    exact below entry member
  · intro first inFront second inBack
    rcases List.mem_cons.mp inBack with rfl | inBack
    · rw [sameRank]
      exact across first inFront old (by simp)
    · exact across first inFront second (by simp [inBack])

/-- A change that leaves keys and ranks alone keeps the table, and replaces the entry of the
key. -/
theorem Kept.update [DecidableEq κ] {entries result : List ε} (kept : Kept key rank entries)
    {wanted : κ} (update : ε → ε) (sameKey : ∀ entry, key (update entry) = key entry)
    (sameRank : ∀ entry, rank (update entry) = rank entry)
    (updated : updateFirst (fun entry => decide (key entry = wanted)) update entries =
      some result) :
    Kept key rank result ∧ ∀ entry, entry ∈ result ↔
      (entry ∈ entries ∧ key entry ≠ wanted) ∨
        ∃ old ∈ entries, key old = wanted ∧ entry = update old := by
  obtain ⟨front, old, back, rfl, isWanted, rfl⟩ := updateFirst_eq_some updated
  obtain rfl : key old = wanted := of_decide_eq_true isWanted
  have sameKeys : (front ++ update old :: back).map key = (front ++ old :: back).map key := by
    simp [sameKey]
  have others := kept.key_ne_of_split
  refine ⟨⟨?_, kept.sorted_replace (sameRank old)⟩, ?_⟩
  · rw [sameKeys]
    exact kept.nodup
  · intro entry
    simp only [List.mem_append, List.mem_cons] at others ⊢
    constructor
    · rintro (inFront | rfl | inBack)
      · exact Or.inl ⟨Or.inl inFront, others entry (Or.inl inFront)⟩
      · exact Or.inr ⟨old, Or.inr (Or.inl rfl), rfl, rfl⟩
      · exact Or.inl ⟨Or.inr (Or.inr inBack), others entry (Or.inr inBack)⟩
    · rintro (⟨inFront | rfl | inBack, different⟩ | ⟨same, member, sameWanted, rfl⟩)
      · exact Or.inl inFront
      · exact absurd rfl different
      · exact Or.inr (Or.inr inBack)
      · rcases member with inFront | rfl | inBack
        · exact absurd sameWanted (others same (Or.inl inFront))
        · exact Or.inr (Or.inl rfl)
        · exact absurd sameWanted (others same (Or.inr inBack))

/-! ## Pushing -/

theorem mem_sortByRank {entries : List ε} {entry : ε} :
    entry ∈ sortByRank rank entries ↔ entry ∈ entries :=
  (List.mergeSort_perm _ _).mem_iff

theorem sorted_sortByRank (entries : List ε) :
    (sortByRank rank entries).Pairwise fun first second => rank second ≤ rank first := by
  have sorted := @List.pairwise_mergeSort ε
    (fun first second => decide (rank second ≤ rank first))
    (by
      intro first second third
      simp only [decide_eq_true_eq]
      omega)
    (by
      intro first second
      simp only [Bool.or_eq_true, decide_eq_true_eq]
      omega) entries
  unfold sortByRank
  simpa only [decide_eq_true_eq] using sorted

theorem Kept.push {entries : List ε} (kept : Kept key rank entries) {entry : ε}
    (fresh : ∀ old ∈ entries, key old ≠ key entry) :
    Kept key rank (sortByRank rank (entries ++ [entry])) := by
  constructor
  · have same : ((sortByRank rank (entries ++ [entry])).map key).Perm
        ((entries ++ [entry]).map key) := (List.mergeSort_perm _ _).map key
    rw [same.nodup_iff, List.map_append, List.nodup_append]
    refine ⟨kept.nodup, by simp, ?_⟩
    intro oldKey isOld newKey isNew
    obtain ⟨old, member, rfl⟩ := List.mem_map.mp isOld
    rw [List.map_singleton, List.mem_singleton] at isNew
    rw [isNew]
    exact fresh old member
  · exact sorted_sortByRank (entries ++ [entry])

/-! ## Searching -/

theorem Kept.find?_highest {entries : List ε} (kept : Kept key rank entries) {holds : ε → Bool}
    {found : ε} (first : entries.find? holds = some found) {other : ε} (member : other ∈ entries)
    (matching : holds other = true) : rank other ≤ rank found := by
  obtain ⟨_, front, back, rfl, unmatched⟩ := List.find?_eq_some_iff_append.mp first
  have sorted := kept.sorted
  rw [List.pairwise_append, List.pairwise_cons] at sorted
  rcases List.mem_append.mp member with inFront | inBack
  · have unmatchedOther := unmatched other inFront
    rw [matching] at unmatchedOther
    cases unmatchedOther
  · rcases List.mem_cons.mp inBack with rfl | inBack
    · exact le_refl _
    · exact sorted.2.1.1 other inBack

end RankedTable
