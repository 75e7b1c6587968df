import Mathlib.Data.List.Nodup

/-!
# Field-wise differences of two records

Records are compared kind of field by kind of field, each with a comparison of its own.
The difference of two records lists the kinds on which they differ; writing the listed
fields of the second record into the first makes the two agree on every kind.
-/

set_option autoImplicit false

namespace FieldDiff

universe u v w

variable {κ : Type u} {ρ : Type v} {δ : Type w}

/-- What is known of the fields: whether two records differ on a kind, the change that is
recorded then, and what writing a recorded change does. -/
structure Fields (κ : Type u) (ρ : Type v) (δ : Type w) where
  kinds : List κ
  differs : κ → ρ → ρ → Bool
  change : κ → ρ → ρ → δ
  write : δ → ρ → ρ

namespace Fields

variable (fields : Fields κ ρ δ)

/-- The kinds on which two records differ, in the order of all kinds. -/
def changed (left right : ρ) : List κ :=
  fields.kinds.filter fun kind => fields.differs kind left right

def diff (left right : ρ) : List δ :=
  (fields.changed left right).map fun kind => fields.change kind left right

/-- Writes the changes one after the other. -/
def patch (changes : List δ) (record : ρ) : ρ :=
  changes.foldl (fun current change => fields.write change current) record

theorem diff_eq_nil {left right : ρ} :
    fields.diff left right = [] ↔
      ∀ kind ∈ fields.kinds, fields.differs kind left right = false := by
  rw [diff, List.map_eq_nil_iff, changed, List.filter_eq_nil_iff]
  constructor
  · intro none kind member
    exact eq_false_of_ne_true (none kind member)
  · intro none kind member
    rw [none kind member]
    exact Bool.false_ne_true

/-- A comparison that ignores the order of its arguments finds the same kinds both ways. -/
theorem changed_comm (symmetric : ∀ kind left right,
      fields.differs kind left right = fields.differs kind right left) (left right : ρ) :
    fields.changed left right = fields.changed right left := by
  unfold changed
  apply List.filter_congr
  intro kind _
  exact symmetric kind left right

theorem diff_swap (symmetric : ∀ kind left right,
      fields.differs kind left right = fields.differs kind right left)
    {swap : δ → δ}
    (exchange : ∀ kind left right,
      swap (fields.change kind left right) = fields.change kind right left)
    (left right : ρ) :
    fields.diff right left = (fields.diff left right).map swap := by
  rw [diff, diff, List.map_map, fields.changed_comm symmetric right left]
  apply List.map_congr_left
  intro kind _
  exact (exchange kind left right).symm

theorem map_kindOf_diff {kindOf : δ → κ}
    (recorded : ∀ kind left right, kindOf (fields.change kind left right) = kind)
    (left right : ρ) : (fields.diff left right).map kindOf = fields.changed left right := by
  rw [diff, List.map_map]
  conv_rhs => rw [← List.map_id (fields.changed left right)]
  apply List.map_congr_left
  intro kind _
  exact recorded kind left right

theorem mem_map_diff {kindOf : δ → κ}
    (recorded : ∀ kind left right, kindOf (fields.change kind left right) = kind)
    (left right : ρ) {kind : κ} (member : kind ∈ fields.kinds) :
    kind ∈ (fields.diff left right).map kindOf ↔ fields.differs kind left right = true := by
  rw [fields.map_kindOf_diff recorded, changed, List.mem_filter]
  exact and_iff_right member

theorem nodup_diff (nodup : fields.kinds.Nodup) {kindOf : δ → κ}
    (recorded : ∀ kind left right, kindOf (fields.change kind left right) = kind)
    (left right : ρ) : ((fields.diff left right).map kindOf).Nodup := by
  rw [fields.map_kindOf_diff recorded]
  exact nodup.filter _

theorem eq_change_of_mem {kindOf : δ → κ}
    (recorded : ∀ kind left right, kindOf (fields.change kind left right) = kind)
    {left right : ρ} {change : δ} (member : change ∈ fields.diff left right) :
    change = fields.change (kindOf change) left right := by
  obtain ⟨kind, _, rfl⟩ := List.mem_map.mp member
  rw [recorded]

/-! ## Writing a difference -/

/-- What writing must do: the written kind then agrees with the record the change was taken
from, and no other agreement is lost. -/
structure Writes (fields : Fields κ ρ δ) : Prop where
  agrees : ∀ kind left right record,
    fields.differs kind (fields.write (fields.change kind left right) record) right = false
  keeps : ∀ kind written left right record,
    fields.differs kind record right = false →
      fields.differs kind (fields.write (fields.change written left right) record) right = false

variable {fields}

theorem Writes.patch_agrees (writes : fields.Writes) (left right : ρ) :
    ∀ (pending : List κ) (record : ρ),
      (∀ kind ∈ fields.kinds, fields.differs kind record right = true → kind ∈ pending) →
        ∀ kind ∈ fields.kinds, fields.differs kind
          (fields.patch (pending.map fun kind => fields.change kind left right) record)
          right = false := by
  intro pending
  induction pending with
  | nil =>
      intro record differing kind member
      apply eq_false_of_ne_true
      intro differs
      exact List.not_mem_nil (differing kind member differs)
  | cons next rest ih =>
      intro record differing
      apply ih
      intro kind member differs
      by_cases before : fields.differs kind record right = true
      · rcases List.mem_cons.mp (differing kind member before) with same | later
        · rw [same, writes.agrees next left right record] at differs
          exact absurd differs Bool.false_ne_true
        · exact later
      · have kept := writes.keeps kind next left right record
          (eq_false_of_ne_true before)
        rw [kept] at differs
        exact absurd differs Bool.false_ne_true

/-- Writing the difference of two records into the first makes them agree on every kind. -/
theorem Writes.patch_diff (writes : fields.Writes) (left right : ρ) {kind : κ}
    (member : kind ∈ fields.kinds) :
    fields.differs kind (fields.patch (fields.diff left right) left) right = false := by
  apply writes.patch_agrees left right (fields.changed left right) left _ kind member
  intro other otherMember differs
  exact List.mem_filter.mpr ⟨otherMember, differs⟩

end Fields

end FieldDiff
