import Mathlib.Data.List.Basic

/-!
# Regular expressions with groups

Expressions over characters with greedy repetition, matched in order of preference.  The
groups of a whole match are determined as soon as the text can be divided in one way only.
-/

set_option autoImplicit false

inductive Regex where
  /-- One character of a class. -/
  | one (accepts : Char → Bool)
  /-- Any number of characters of a class, as many as possible. -/
  | many (accepts : Char → Bool)
  | literal (text : List Char)
  | seq (first second : Regex)
  /-- The expression if it matches, and nothing otherwise. -/
  | optional (inner : Regex)
  | group (index : Nat) (inner : Regex)

namespace Regex

/-- A match at the start of a text: what it took, what it left and the groups it captured. -/
structure Match where
  taken : List Char
  rest : List Char
  groups : List (Nat × List Char)

/-- The captured text of a group, if the group took part in the match. -/
def Match.get (found : Match) (index : Nat) : Option (List Char) := found.groups.lookup index

def atLeastOne (accepts : Char → Bool) : Regex := .seq (.one accepts) (.many accepts)

/-- The ways to take characters of a class from the start, the longest first. -/
def splits (accepts : Char → Bool) : List Char → List (List Char × List Char)
  | [] => [([], [])]
  | c :: text =>
      if accepts c then (splits accepts text).map (fun (taken, rest) => (c :: taken, rest)) ++
        [([], c :: text)]
      else [([], c :: text)]

/-- The matches at the start of a text, in order of preference. -/
def ways : Regex → List Char → List Match
  | .one _, [] => []
  | .one accepts, c :: text => if accepts c then [⟨[c], text, []⟩] else []
  | .many accepts, text =>
      (splits accepts text).map fun (taken, rest) => ⟨taken, rest, []⟩
  | .literal expected, text =>
      if expected.isPrefixOf text then [⟨expected, text.drop expected.length, []⟩] else []
  | .seq first second, text =>
      (ways first text).flatMap fun left =>
        (ways second left.rest).map fun right =>
          ⟨left.taken ++ right.taken, right.rest, left.groups ++ right.groups⟩
  | .optional inner, text => ways inner text ++ [⟨[], text, []⟩]
  | .group index inner, text =>
      (ways inner text).map fun found =>
        { found with groups := (index, found.taken) :: found.groups }

def captures (regex : Regex) (text : List Char) : Option Match :=
  (ways regex text).find? fun found => found.rest.isEmpty

section Ways

variable {text : List Char}

theorem ways_one_cons {accepts : Char → Bool} {c : Char} :
    ways (.one accepts) (c :: text) = if accepts c then [⟨[c], text, []⟩] else [] := rfl

theorem ways_many {accepts : Char → Bool} :
    ways (.many accepts) text =
      (splits accepts text).map fun (taken, rest) => ⟨taken, rest, []⟩ := rfl

theorem ways_literal {expected : List Char} :
    ways (.literal expected) text =
      if expected.isPrefixOf text then [⟨expected, text.drop expected.length, []⟩] else [] := rfl

theorem ways_seq {first second : Regex} :
    ways (.seq first second) text = (ways first text).flatMap fun left =>
      (ways second left.rest).map fun right =>
        ⟨left.taken ++ right.taken, right.rest, left.groups ++ right.groups⟩ := rfl

theorem ways_optional {inner : Regex} :
    ways (.optional inner) text = ways inner text ++ [⟨[], text, []⟩] := rfl

theorem ways_group {index : Nat} {inner : Regex} :
    ways (.group index inner) text = (ways inner text).map fun found =>
      { found with groups := (index, found.taken) :: found.groups } := rfl

end Ways

/-! ## What a match may take -/

/-- The texts that an expression describes, with the groups captured on the way. -/
def Denotes : Regex → List Char → List (Nat × List Char) → Prop
  | .one accepts, taken, groups => ∃ c, taken = [c] ∧ accepts c = true ∧ groups = []
  | .many accepts, taken, groups => (∀ c ∈ taken, accepts c = true) ∧ groups = []
  | .literal expected, taken, groups => taken = expected ∧ groups = []
  | .seq first second, taken, groups => ∃ left right leftGroups rightGroups,
      Denotes first left leftGroups ∧ Denotes second right rightGroups ∧
        taken = left ++ right ∧ groups = leftGroups ++ rightGroups
  | .optional inner, taken, groups => Denotes inner taken groups ∨ (taken = [] ∧ groups = [])
  | .group index inner, taken, groups =>
      ∃ inside, Denotes inner taken inside ∧ groups = (index, taken) :: inside

section Denoted

variable {taken : List Char} {groups : List (Nat × List Char)}

theorem denotes_one {accepts : Char → Bool} :
    Denotes (.one accepts) taken groups ↔
      ∃ c, taken = [c] ∧ accepts c = true ∧ groups = [] := Iff.rfl

theorem denotes_many {accepts : Char → Bool} :
    Denotes (.many accepts) taken groups ↔
      (∀ c ∈ taken, accepts c = true) ∧ groups = [] := Iff.rfl

theorem denotes_literal {expected : List Char} :
    Denotes (.literal expected) taken groups ↔ taken = expected ∧ groups = [] := Iff.rfl

theorem denotes_seq {first second : Regex} :
    Denotes (.seq first second) taken groups ↔ ∃ left right leftGroups rightGroups,
      Denotes first left leftGroups ∧ Denotes second right rightGroups ∧
        taken = left ++ right ∧ groups = leftGroups ++ rightGroups := Iff.rfl

theorem denotes_optional {inner : Regex} :
    Denotes (.optional inner) taken groups ↔
      Denotes inner taken groups ∨ (taken = [] ∧ groups = []) := Iff.rfl

theorem denotes_group {index : Nat} {inner : Regex} :
    Denotes (.group index inner) taken groups ↔
      ∃ inside, Denotes inner taken inside ∧ groups = (index, taken) :: inside := Iff.rfl

end Denoted

theorem denotes_atLeastOne {accepts : Char → Bool} {taken : List Char}
    {groups : List (Nat × List Char)} :
    Denotes (atLeastOne accepts) taken groups ↔
      (taken ≠ [] ∧ ∀ c ∈ taken, accepts c = true) ∧ groups = [] := by
  simp only [atLeastOne, denotes_seq, denotes_one, denotes_many]
  constructor
  · rintro ⟨_, right, _, _, ⟨c, rfl, first, rfl⟩, ⟨others, rfl⟩, rfl, rfl⟩
    refine ⟨⟨List.cons_ne_nil _ _, ?_⟩, rfl⟩
    exact List.forall_mem_cons.mpr ⟨first, others⟩
  · rintro ⟨⟨nonEmpty, all⟩, rfl⟩
    cases taken with
    | nil => exact absurd rfl nonEmpty
    | cons c rest =>
        obtain ⟨first, others⟩ := List.forall_mem_cons.mp all
        exact ⟨[c], rest, [], [], ⟨c, rfl, first, rfl⟩, ⟨others, rfl⟩, rfl, rfl⟩

theorem mem_splits {accepts : Char → Bool} {text taken rest : List Char} :
    (taken, rest) ∈ splits accepts text ↔
      (∀ c ∈ taken, accepts c = true) ∧ text = taken ++ rest := by
  induction text generalizing taken with
  | nil =>
      simp only [splits, List.mem_singleton, Prod.mk.injEq, List.nil_eq_append_iff]
      constructor
      · rintro ⟨rfl, rfl⟩
        simp
      · rintro ⟨_, both⟩
        exact both
  | cons c text ih =>
      cases taken with
      | nil =>
          rw [splits]
          split_ifs
          · simpa using (eq_comm : rest = c :: text ↔ c :: text = rest)
          · simpa using (eq_comm : rest = c :: text ↔ c :: text = rest)
      | cons head taken =>
          rw [splits]
          split_ifs with accepted
          · simp only [List.mem_append, List.mem_map, List.mem_singleton, Prod.exists,
              Prod.mk.injEq, List.cons.injEq, reduceCtorEq, false_and, or_false,
              List.forall_mem_cons, List.cons_append]
            constructor
            · rintro ⟨left, right, member, ⟨rfl, rfl⟩, rfl⟩
              have split := ih.mp member
              exact ⟨⟨accepted, split.1⟩, rfl, split.2⟩
            · rintro ⟨⟨_, others⟩, rfl, split⟩
              exact ⟨taken, rest, ih.mpr ⟨others, split⟩, ⟨rfl, rfl⟩, rfl⟩
          · simp only [List.mem_singleton, Prod.mk.injEq, reduceCtorEq, false_and,
              List.forall_mem_cons, List.cons_append, List.cons.injEq, false_iff, not_and]
            rintro ⟨head_accepted, _⟩ rfl
            exact absurd head_accepted accepted

theorem mem_ways_one {accepts : Char → Bool} {text taken rest : List Char}
    {groups : List (Nat × List Char)} :
    ⟨taken, rest, groups⟩ ∈ ways (.one accepts) text ↔
      Denotes (.one accepts) taken groups ∧ text = taken ++ rest := by
  cases text with
  | nil =>
      have none : ways (.one accepts) [] = [] := rfl
      simp only [none, List.not_mem_nil, denotes_one, false_iff, not_and, List.nil_eq,
        List.append_eq_nil_iff]
      rintro ⟨c, rfl, _⟩ ⟨impossible, _⟩
  | cons c text =>
      rw [ways_one_cons]
      split_ifs with accepted
      · simp only [List.mem_singleton, Match.mk.injEq, denotes_one]
        constructor
        · rintro ⟨rfl, rfl, rfl⟩
          exact ⟨⟨c, rfl, accepted, rfl⟩, rfl⟩
        · rintro ⟨⟨d, rfl, _, rfl⟩, split⟩
          obtain ⟨rfl, rfl⟩ := List.cons.inj split
          exact ⟨rfl, rfl, rfl⟩
      · simp only [List.not_mem_nil, denotes_one, false_iff, not_and]
        rintro ⟨d, rfl, member, _⟩ split
        obtain ⟨rfl, _⟩ := List.cons.inj split
        exact accepted member

theorem mem_ways_literal {expected text taken rest : List Char}
    {groups : List (Nat × List Char)} :
    ⟨taken, rest, groups⟩ ∈ ways (.literal expected) text ↔
      Denotes (.literal expected) taken groups ∧ text = taken ++ rest := by
  rw [ways_literal]
  split_ifs with starts
  · obtain ⟨tail, rfl⟩ := List.isPrefixOf_iff_prefix.mp starts
    rw [List.drop_left]
    simp only [List.mem_singleton, Match.mk.injEq, denotes_literal]
    constructor
    · rintro ⟨rfl, rfl, rfl⟩
      exact ⟨⟨rfl, rfl⟩, rfl⟩
    · rintro ⟨⟨rfl, rfl⟩, split⟩
      exact ⟨rfl, (List.append_cancel_left split).symm, rfl⟩
  · simp only [List.not_mem_nil, denotes_literal, false_iff, not_and]
    rintro ⟨rfl, rfl⟩ split
    exact starts (List.isPrefixOf_iff_prefix.mpr ⟨rest, split.symm⟩)

/-- The ways to match are the divisions of the text whose front the expression denotes. -/
theorem mem_ways {regex : Regex} {text taken rest : List Char} {groups : List (Nat × List Char)} :
    ⟨taken, rest, groups⟩ ∈ ways regex text ↔
      Denotes regex taken groups ∧ text = taken ++ rest := by
  induction regex generalizing text taken rest groups with
  | one accepts => exact mem_ways_one
  | many accepts =>
      simp only [ways_many, List.mem_map, Prod.exists, Match.mk.injEq, denotes_many, mem_splits]
      constructor
      · rintro ⟨left, right, ⟨accepted, split⟩, rfl, rfl, rfl⟩
        exact ⟨⟨accepted, rfl⟩, split⟩
      · rintro ⟨⟨accepted, rfl⟩, split⟩
        exact ⟨taken, rest, ⟨accepted, split⟩, rfl, rfl, rfl⟩
  | literal expected => exact mem_ways_literal
  | seq first second ihFirst ihSecond =>
      simp only [ways_seq, List.mem_flatMap, List.mem_map, Match.mk.injEq, denotes_seq]
      constructor
      · rintro ⟨⟨left, middle, leftGroups⟩, inFirst, ⟨right, tail, rightGroups⟩, inSecond, rfl,
          rfl, rfl⟩
        obtain ⟨leftDenoted, rfl⟩ := ihFirst.mp inFirst
        obtain ⟨rightDenoted, rfl⟩ := ihSecond.mp inSecond
        exact ⟨⟨left, right, leftGroups, rightGroups, leftDenoted, rightDenoted, rfl, rfl⟩,
          (List.append_assoc ..).symm⟩
      · rintro ⟨⟨left, right, leftGroups, rightGroups, leftDenoted, rightDenoted, rfl, rfl⟩, rfl⟩
        exact ⟨⟨left, right ++ rest, leftGroups⟩,
          ihFirst.mpr ⟨leftDenoted, List.append_assoc ..⟩,
          ⟨right, rest, rightGroups⟩, ihSecond.mpr ⟨rightDenoted, rfl⟩, rfl, rfl, rfl⟩
  | optional inner ih =>
      simp only [ways_optional, List.mem_append, List.mem_singleton, Match.mk.injEq,
        denotes_optional, ih]
      constructor
      · rintro (inside | ⟨rfl, rfl, rfl⟩)
        · exact ⟨Or.inl inside.1, inside.2⟩
        · exact ⟨Or.inr ⟨rfl, rfl⟩, rfl⟩
      · rintro ⟨denoted | ⟨rfl, rfl⟩, split⟩
        · exact Or.inl ⟨denoted, split⟩
        · exact Or.inr ⟨rfl, split.symm, rfl⟩
  | group index inner ih =>
      simp only [ways_group, List.mem_map, denotes_group]
      constructor
      · rintro ⟨⟨left, right, inside⟩, member, same⟩
        obtain ⟨rfl, rfl, rfl⟩ := Match.mk.inj same
        obtain ⟨denoted, split⟩ := ih.mp member
        exact ⟨⟨inside, denoted, rfl⟩, split⟩
      · rintro ⟨⟨inside, denoted, rfl⟩, split⟩
        exact ⟨⟨taken, rest, inside⟩, ih.mpr ⟨denoted, split⟩, rfl⟩

/-! ## The preferred match, part by part -/

def Match.followedBy (left right : Match) : Match :=
  ⟨left.taken ++ right.taken, right.rest, left.groups ++ right.groups⟩

/-- The preferred match of a sequence goes on with the preferred match of the rest. -/
theorem captures_seq {first second : Regex} {text : List Char} {found : Match}
    (captured : captures (.seq first second) text = some found) :
    ∃ left ∈ ways first text, ∃ right, captures second left.rest = some right ∧
      found = left.followedBy right := by
  unfold captures at captured
  rw [ways_seq, List.find?_flatMap] at captured
  obtain ⟨left, member, inside⟩ := List.exists_of_findSome?_eq_some captured
  rw [List.find?_map, Option.map_eq_some_iff] at inside
  obtain ⟨right, preferred, rfl⟩ := inside
  exact ⟨left, member, right, preferred, rfl⟩

/-- An optional part is only left out where the text cannot be matched with it. -/
theorem captures_seq_optional {inner last : Regex} {text : List Char} {found : Match}
    (captured : captures (.seq (.optional inner) last) text = some found) :
    captures (.seq inner last) text = some found ∨
      (captures (.seq inner last) text = none ∧ captures last text = some found) := by
  unfold captures at captured ⊢
  simp only [ways_seq, ways_optional, List.flatMap_append, List.find?_append,
    List.flatMap_singleton, List.nil_append] at captured ⊢
  have same :
      (ways last text).map (fun right => (⟨right.taken, right.rest, right.groups⟩ : Match)) =
        ways last text := List.map_id _
  rw [same] at captured
  rcases Option.or_eq_some_iff.mp captured with withInner | ⟨without, left⟩
  · exact Or.inl withInner
  · exact Or.inr ⟨without, left⟩

theorem denotes_of_captures {regex : Regex} {text : List Char} {found : Match}
    (captured : captures regex text = some found) : Denotes regex text found.groups := by
  obtain ⟨taken, rest, groups⟩ := found
  have empty : rest.isEmpty = true :=
    @List.find?_some _ (fun candidate : Match => candidate.rest.isEmpty) _ _ captured
  obtain rfl : rest = [] := List.isEmpty_iff.mp empty
  obtain ⟨denoted, split⟩ := mem_ways.mp (List.mem_of_find?_eq_some captured)
  rw [split, List.append_nil]
  exact denoted

theorem captures_isSome {regex : Regex} {text : List Char} {groups : List (Nat × List Char)}
    (denoted : Denotes regex text groups) : ∃ found, captures regex text = some found := by
  have listed : (⟨text, [], groups⟩ : Match) ∈ ways regex text :=
    mem_ways.mpr ⟨denoted, (List.append_nil _).symm⟩
  cases found : captures regex text with
  | none =>
      have missed := List.find?_eq_none.mp found _ listed
      exact absurd rfl missed
  | some candidate => exact ⟨candidate, rfl⟩

/-- Where the text can be divided in one way only, the order of preference does not matter. -/
theorem captures_eq {regex : Regex} {text : List Char} {groups : List (Nat × List Char)}
    (denoted : Denotes regex text groups)
    (unique : ∀ others, Denotes regex text others → others = groups) :
    captures regex text = some ⟨text, [], groups⟩ := by
  obtain ⟨⟨taken, rest, others⟩, found⟩ := captures_isSome denoted
  have empty : rest.isEmpty = true :=
    @List.find?_some _ (fun candidate : Match => candidate.rest.isEmpty) _ _ found
  obtain rfl : rest = [] := List.isEmpty_iff.mp empty
  obtain ⟨_, split⟩ := mem_ways.mp (List.mem_of_find?_eq_some found)
  rw [List.append_nil] at split
  rw [found, split, unique others (denotes_of_captures found)]

end Regex
