import HoprTypes.Lib.FieldDiff
import HoprTypes.Internal.Tickets

/-!
# Channel entries: construction, equality and differences

The builder of channel entries, equality and hash of entries and of their status, and the
list of changes between two entries of one channel, as an instance of field-wise
differences.
-/

set_option autoImplicit false

namespace HoprTypes.Internal

open HoprTypes.Primitive HoprTypes.Crypto

/-! ## The builder -/

structure ChannelBuilder where
  source : Option Address := none
  destination : Option Address := none
  balance : Option HoprBalance := none
  ticketIndex : U64 := 0
  status : ChannelStatus := .open
  channelEpoch : U32 := 1

namespace ChannelBuilder

/-- The value if it is in range, an error otherwise. -/
def inRange {α : Type} (holds : Bool) (value : α) (message : String) : Except CoreTypesError α :=
  okOr (.invalidInputData message) (if holds then some value else none)

def build (builder : ChannelBuilder) : Except CoreTypesError ChannelEntry := do
  let source ← okOr (.invalidInputData "missing source") builder.source
  let destination ← okOr (.invalidInputData "missing destination") builder.destination
  let balance ← okOr (.invalidInputData "missing balance") builder.balance
  if source = destination then
    .error (.invalidInputData "source and destination cannot be the same")
  else do
    let balance ← inRange (balance.amount.toNat ≤ maxChannelStake) balance "balance too high"
    let ticketIndex ← inRange (builder.ticketIndex.toNat ≤ TicketBuilder.maxTicketIndex)
      builder.ticketIndex "ticket index too high"
    let channelEpoch ← inRange (builder.channelEpoch.toNat ≤ TicketBuilder.maxChannelEpoch)
      builder.channelEpoch "channel epoch too high"
    .ok
      { source := source
        destination := destination
        balance := balance
        ticketIndex := ticketIndex
        status := builder.status
        channelEpoch := channelEpoch
        id := generateChannelId source destination }

theorem inRange_eq_ok {α : Type} {holds : Bool} {value result : α} {message : String} :
    inRange holds value message = .ok result ↔ holds = true ∧ value = result := by
  rw [inRange, okOr_eq_ok]
  cases holds with
  | true => simp
  | false => simp

/-- What a built entry is: two different parties, values within their bounds and the id of
the parties. -/
theorem of_build_eq_ok {builder : ChannelBuilder} {entry : ChannelEntry}
    (built : builder.build = .ok entry) :
    entry.source ≠ entry.destination ∧
      entry.id = generateChannelId entry.source entry.destination ∧
      entry.balance.amount.toNat ≤ maxChannelStake ∧
      entry.ticketIndex.toNat ≤ TicketBuilder.maxTicketIndex ∧
      entry.channelEpoch.toNat ≤ TicketBuilder.maxChannelEpoch := by
  obtain ⟨source, _, rest⟩ := bind_eq_ok.mp built
  obtain ⟨destination, _, rest⟩ := bind_eq_ok.mp rest
  obtain ⟨balance, _, rest⟩ := bind_eq_ok.mp rest
  by_cases same : source = destination
  · rw [if_pos same] at rest
    cases rest
  · rw [if_neg same] at rest
    obtain ⟨_, balanceChecked, rest⟩ := bind_eq_ok.mp rest
    obtain ⟨_, indexChecked, rest⟩ := bind_eq_ok.mp rest
    obtain ⟨_, epochChecked, rest⟩ := bind_eq_ok.mp rest
    obtain ⟨balanceFits, rfl⟩ := inRange_eq_ok.mp balanceChecked
    obtain ⟨indexFits, rfl⟩ := inRange_eq_ok.mp indexChecked
    obtain ⟨epochFits, rfl⟩ := inRange_eq_ok.mp epochChecked
    rw [← Except.ok.inj rest]
    exact ⟨same, rfl, of_decide_eq_true balanceFits, of_decide_eq_true indexFits,
      of_decide_eq_true epochFits⟩

end ChannelBuilder

/-! ## Equality and hash -/

/-- What a hasher does with the values that are fed to it. -/
structure Hasher (H : Type) where
  writeI8 : BitVec 8 → H → H
  writeU32 : U32 → H → H
  writeHash : Hash → H → H

namespace ChannelStatus

/-- The status as a number, without its closure time. -/
def toI8 : ChannelStatus → BitVec 8
  | .closed => 0
  | .open => 1
  | .pendingToClose _ => 2

def hash {H : Type} (hasher : Hasher H) (status : ChannelStatus) (state : H) : H :=
  hasher.writeI8 status.toI8 state

/-- Two closure times that are less than a second apart. -/
def WithinSecond (first second : SystemTime) : Prop := |first - second| < 1000000000

theorem asSecs_eq_zero_iff {nanoseconds : Int} (nonNegative : 0 ≤ nanoseconds) :
    asSecs nanoseconds = 0 ↔ nanoseconds < 1000000000 := by
  unfold asSecs
  omega

theorem eq_pendingToClose_iff (first second : SystemTime) :
    (pendingToClose first).eq (pendingToClose second) = true ↔ WithinSecond first second := by
  have ordered : 0 ≤ max first second - min first second := sub_nonneg.mpr min_le_max
  rw [eq, beq_iff_eq, asSecs_eq_zero_iff ordered, WithinSecond, max_sub_min_eq_abs']

theorem eq_refl (status : ChannelStatus) : status.eq status = true := by
  cases status with
  | closed => rfl
  | «open» => rfl
  | pendingToClose closureTime =>
      rw [eq_pendingToClose_iff, WithinSecond, sub_self, abs_zero]
      decide

theorem eq_comm (first second : ChannelStatus) : first.eq second = second.eq first := by
  cases first with
  | closed => cases second <;> rfl
  | «open» => cases second <;> rfl
  | pendingToClose firstTime =>
      cases second with
      | closed => rfl
      | «open» => rfl
      | pendingToClose secondTime => rw [eq, eq, max_comm, min_comm]

theorem toI8_eq_of_eq {first second : ChannelStatus} (equal : first.eq second = true) :
    first.toI8 = second.toI8 := by
  cases first with
  | closed => cases second <;> simp_all [eq, toI8]
  | «open» => cases second <;> simp_all [eq, toI8]
  | pendingToClose closureTime => cases second <;> simp_all [eq, toI8]

/-- Three closure times of which the middle one is close to the other two, which are not
close to each other. -/
def Drifting (first second third : ChannelStatus) : Prop :=
  ∃ firstTime secondTime thirdTime,
    first = .pendingToClose firstTime ∧ second = .pendingToClose secondTime ∧
      third = .pendingToClose thirdTime ∧ WithinSecond firstTime secondTime ∧
      WithinSecond secondTime thirdTime ∧ ¬WithinSecond firstTime thirdTime

theorem eq_trans_iff (first second third : ChannelStatus) :
    (first.eq second = true → second.eq third = true → first.eq third = true) ↔
      ¬Drifting first second third := by
  constructor
  · intro transitive drifting
    obtain ⟨firstTime, secondTime, thirdTime, rfl, rfl, rfl, near, far, apart⟩ := drifting
    rw [eq_pendingToClose_iff, eq_pendingToClose_iff, eq_pendingToClose_iff] at transitive
    exact apart (transitive near far)
  · intro steady firstSecond secondThird
    cases second with
    | closed => cases first <;> cases third <;> simp_all [eq]
    | «open» => cases first <;> cases third <;> simp_all [eq]
    | pendingToClose secondTime =>
        cases first with
        | closed => cases firstSecond
        | «open» => cases firstSecond
        | pendingToClose firstTime =>
            cases third with
            | closed => cases secondThird
            | «open» => cases secondThird
            | pendingToClose thirdTime =>
                rw [eq_pendingToClose_iff] at firstSecond secondThird ⊢
                by_contra apart
                exact steady ⟨firstTime, secondTime, thirdTime, rfl, rfl, rfl, firstSecond,
                  secondThird, apart⟩

end ChannelStatus

namespace ChannelEntry

/-- Equality of entries, field by field. -/
def eq (left right : ChannelEntry) : Bool :=
  left.source == right.source && left.destination == right.destination &&
    left.balance == right.balance && left.ticketIndex == right.ticketIndex &&
    left.status.eq right.status && left.channelEpoch == right.channelEpoch && left.id == right.id

def hash {H : Type} (hasher : Hasher H) (entry : ChannelEntry) (state : H) : H :=
  hasher.writeU32 entry.channelEpoch (hasher.writeHash entry.id state)

theorem eq_iff (left right : ChannelEntry) :
    left.eq right = true ↔
      left.source = right.source ∧ left.destination = right.destination ∧
        left.balance = right.balance ∧ left.ticketIndex = right.ticketIndex ∧
        left.status.eq right.status = true ∧ left.channelEpoch = right.channelEpoch ∧
        left.id = right.id := by
  simp only [eq, Bool.and_eq_true, beq_iff_eq, and_assoc]

end ChannelEntry

/-! ## Differences -/

inductive ChannelChange where
  | status (left right : ChannelStatus)
  | balance (left right : HoprBalance)
  | epoch (left right : U32)
  | ticketIndex (left right : U64)

namespace ChannelChange

/-- The changes from one entry of a channel to another; panics on entries of different
channels. -/
def diffChannels (left right : ChannelEntry) : Outcome Empty (List ChannelChange) :=
  if left.id ≠ right.id then .panicked "must have equal ids"
  else if left.eq right then .ok []
  else
    let ret := []
    let ret :=
      if left.status.eq right.status then ret else ret ++ [.status left.status right.status]
    let ret :=
      if left.balance = right.balance then ret else ret ++ [.balance left.balance right.balance]
    let ret :=
      if left.channelEpoch = right.channelEpoch then ret
      else ret ++ [.epoch left.channelEpoch right.channelEpoch]
    let ret :=
      if left.ticketIndex = right.ticketIndex then ret
      else ret ++ [.ticketIndex left.ticketIndex right.ticketIndex]
    .ok ret

/-! ### The fields of an entry that may change -/

inductive Kind where
  | status
  | balance
  | epoch
  | ticketIndex
deriving DecidableEq

def kind : ChannelChange → Kind
  | .status _ _ => .status
  | .balance _ _ => .balance
  | .epoch _ _ => .epoch
  | .ticketIndex _ _ => .ticketIndex

def swap : ChannelChange → ChannelChange
  | .status left right => .status right left
  | .balance left right => .balance right left
  | .epoch left right => .epoch right left
  | .ticketIndex left right => .ticketIndex right left

def between : Kind → ChannelEntry → ChannelEntry → ChannelChange
  | .status, left, right => .status left.status right.status
  | .balance, left, right => .balance left.balance right.balance
  | .epoch, left, right => .epoch left.channelEpoch right.channelEpoch
  | .ticketIndex, left, right => .ticketIndex left.ticketIndex right.ticketIndex

def apply : ChannelChange → ChannelEntry → ChannelEntry
  | .status _ right, entry => { entry with status := right }
  | .balance _ right, entry => { entry with balance := right }
  | .epoch _ right, entry => { entry with channelEpoch := right }
  | .ticketIndex _ right, entry => { entry with ticketIndex := right }

def differs : Kind → ChannelEntry → ChannelEntry → Bool
  | .status, left, right => !left.status.eq right.status
  | .balance, left, right => left.balance != right.balance
  | .epoch, left, right => left.channelEpoch != right.channelEpoch
  | .ticketIndex, left, right => left.ticketIndex != right.ticketIndex

def entryFields : FieldDiff.Fields Kind ChannelEntry ChannelChange where
  kinds := [.status, .balance, .epoch, .ticketIndex]
  differs := differs
  change := between
  write := apply

theorem mem_kinds (kind : Kind) : kind ∈ entryFields.kinds := by
  cases kind <;> decide

theorem differs_comm (kind : Kind) (left right : ChannelEntry) :
    differs kind left right = differs kind right left := by
  cases kind with
  | status => rw [differs, differs, ChannelStatus.eq_comm]
  | balance => exact bne_comm
  | epoch => exact bne_comm
  | ticketIndex => exact bne_comm

theorem kind_between (kind : Kind) (left right : ChannelEntry) :
    (between kind left right).kind = kind := by
  cases kind <;> rfl

theorem swap_between (kind : Kind) (left right : ChannelEntry) :
    (between kind left right).swap = between kind right left := by
  cases kind <;> rfl

theorem not_differs_apply (kind : Kind) (left right record : ChannelEntry) :
    differs kind ((between kind left right).apply record) right = false := by
  cases kind with
  | status => simp [between, apply, differs, ChannelStatus.eq_refl]
  | balance => simp [between, apply, differs]
  | epoch => simp [between, apply, differs]
  | ticketIndex => simp [between, apply, differs]

theorem writes_entryFields : entryFields.Writes where
  agrees := not_differs_apply
  keeps kind written left right record agrees := by
    by_cases same : written = kind
    · subst same
      exact not_differs_apply written left right record
    · cases written <;> cases kind <;> first | exact absurd rfl same | exact agrees

theorem patch_parties (changes : List ChannelChange) (entry : ChannelEntry) :
    (entryFields.patch changes entry).source = entry.source ∧
      (entryFields.patch changes entry).destination = entry.destination ∧
      (entryFields.patch changes entry).id = entry.id := by
  induction changes generalizing entry with
  | nil => exact ⟨rfl, rfl, rfl⟩
  | cons change rest ih =>
      have kept : (change.apply entry).source = entry.source ∧
          (change.apply entry).destination = entry.destination ∧
          (change.apply entry).id = entry.id := by
        cases change <;> exact ⟨rfl, rfl, rfl⟩
      obtain ⟨source, destination, id⟩ := ih (change.apply entry)
      exact ⟨source.trans kept.1, destination.trans kept.2.1, id.trans kept.2.2⟩

end ChannelChange

open ChannelChange

theorem ChannelEntry.eq_iff_forall_differs {left right : ChannelEntry}
    (source : left.source = right.source) (destination : left.destination = right.destination)
    (id : left.id = right.id) :
    left.eq right = true ↔ ∀ kind, differs kind left right = false := by
  rw [ChannelEntry.eq_iff]
  constructor
  · intro equal kind
    obtain ⟨_, _, balance, ticketIndex, status, channelEpoch, _⟩ := equal
    cases kind with
    | status => simp [differs, status]
    | balance => simp [differs, balance]
    | epoch => simp [differs, channelEpoch]
    | ticketIndex => simp [differs, ticketIndex]
  · intro agrees
    have balance := agrees .balance
    have ticketIndex := agrees .ticketIndex
    have status := agrees .status
    have channelEpoch := agrees .epoch
    simp only [differs, bne_eq_false_iff_eq, Bool.not_eq_false'] at *
    exact ⟨source, destination, balance, ticketIndex, status, channelEpoch, id⟩

theorem ChannelEntry.not_differs_of_eq {left right : ChannelEntry}
    (equal : left.eq right = true) (kind : Kind) : differs kind left right = false := by
  obtain ⟨source, destination, _, _, _, _, id⟩ := (ChannelEntry.eq_iff left right).mp equal
  exact (ChannelEntry.eq_iff_forall_differs source destination id).mp equal kind

namespace ChannelChange

/-- The difference of two entries of one channel is the field-wise one. -/
theorem diffChannels_eq {left right : ChannelEntry} (id : left.id = right.id) :
    diffChannels left right = .ok (entryFields.diff left right) := by
  rw [diffChannels, if_neg (not_not_intro id)]
  by_cases equal : left.eq right = true
  · rw [if_pos equal]
    congr 1
    symm
    rw [FieldDiff.Fields.diff_eq_nil]
    intro kind _
    exact ChannelEntry.not_differs_of_eq equal kind
  · rw [if_neg equal]
    cases status : left.status.eq right.status <;>
      by_cases balance : left.balance = right.balance <;>
      by_cases epoch : left.channelEpoch = right.channelEpoch <;>
      by_cases ticketIndex : left.ticketIndex = right.ticketIndex <;>
      simp [FieldDiff.Fields.diff, FieldDiff.Fields.changed, entryFields, differs, between, status,
        balance, epoch, ticketIndex]

theorem diffChannels_eq_nil_iff (left right : ChannelEntry) :
    diffChannels left right = .ok [] ↔
      left.id = right.id ∧ ∀ kind, differs kind left right = false := by
  by_cases id : left.id = right.id
  · rw [diffChannels_eq id, Except.ok.injEq, FieldDiff.Fields.diff_eq_nil]
    constructor
    · intro none
      exact ⟨id, fun kind => none kind (mem_kinds kind)⟩
    · intro none kind _
      exact none.2 kind
  · constructor
    · intro empty
      rw [diffChannels, if_pos id] at empty
      cases empty
    · intro none
      exact absurd none.1 id

/-- The difference of two entries of the same parties is empty exactly when they are equal. -/
theorem diff_eq_nil_iff_eq {left right : ChannelEntry} (source : left.source = right.source)
    (destination : left.destination = right.destination) (id : left.id = right.id) :
    entryFields.diff left right = [] ↔ left.eq right = true := by
  rw [FieldDiff.Fields.diff_eq_nil, ChannelEntry.eq_iff_forall_differs source destination id]
  constructor
  · intro none kind
    exact none kind (mem_kinds kind)
  · intro none kind _
    exact none kind

/-- Writing the difference into the left entry gives an entry equal to the right one. -/
theorem patch_diff_eq {left right : ChannelEntry} (source : left.source = right.source)
    (destination : left.destination = right.destination) (id : left.id = right.id) :
    (entryFields.patch (entryFields.diff left right) left).eq right = true := by
  obtain ⟨patchedSource, patchedDestination, patchedId⟩ :=
    patch_parties (entryFields.diff left right) left
  rw [ChannelEntry.eq_iff_forall_differs (patchedSource.trans source)
    (patchedDestination.trans destination) (patchedId.trans id)]
  intro kind
  exact writes_entryFields.patch_diff left right (mem_kinds kind)

/-- The difference of two built entries of the same parties is complete and minimal. -/
theorem diffChannels_complete_minimal {leftBuilder rightBuilder : ChannelBuilder}
    {left right : ChannelEntry} (builtLeft : leftBuilder.build = .ok left)
    (builtRight : rightBuilder.build = .ok right) (source : left.source = right.source)
    (destination : left.destination = right.destination) :
    ∃ changes : List ChannelChange,
      diffChannels left right = .ok changes ∧
        (changes.map kind).Nodup ∧
        (∀ change ∈ changes, change = between change.kind left right) ∧
        (changes = [] ↔ left.eq right = true) ∧
        (changes.foldl (fun entry change => change.apply entry) left).eq right = true ∧
        diffChannels right left = .ok (changes.map swap) := by
  have id : left.id = right.id := by
    rw [(ChannelBuilder.of_build_eq_ok builtLeft).2.1,
      (ChannelBuilder.of_build_eq_ok builtRight).2.1, source, destination]
  refine ⟨entryFields.diff left right, diffChannels_eq id, ?_, ?_, ?_, ?_, ?_⟩
  · exact entryFields.nodup_diff (by decide) kind_between left right
  · intro change member
    exact entryFields.eq_change_of_mem kind_between member
  · exact diff_eq_nil_iff_eq source destination id
  · exact patch_diff_eq source destination id
  · rw [diffChannels_eq id.symm, entryFields.diff_swap differs_comm swap_between]

def fundedBuilder (amount : U256) (status : ChannelStatus) : ChannelBuilder :=
  { source := some Address.zero
    destination := some ⟨List.replicate 20 1, by decide⟩
    balance := some ⟨amount⟩
    status := status }

def fundedEntry (amount : U256) (status : ChannelStatus) : ChannelEntry :=
  { source := Address.zero
    destination := ⟨List.replicate 20 1, by decide⟩
    balance := ⟨amount⟩
    ticketIndex := 0
    status := status
    channelEpoch := 1
    id := generateChannelId Address.zero ⟨List.replicate 20 1, by decide⟩ }

theorem diffChannels_complete_minimal_closed :
    ∃ changes : List ChannelChange,
      diffChannels (fundedEntry 7 .open) (fundedEntry 0 .closed) = .ok changes ∧
        (changes.map kind).Nodup ∧
        (∀ change ∈ changes,
          change = between change.kind (fundedEntry 7 .open) (fundedEntry 0 .closed)) ∧
        (changes = [] ↔ (fundedEntry 7 .open).eq (fundedEntry 0 .closed) = true) ∧
        (changes.foldl (fun entry change => change.apply entry) (fundedEntry 7 .open)).eq
          (fundedEntry 0 .closed) = true ∧
        diffChannels (fundedEntry 0 .closed) (fundedEntry 7 .open) = .ok (changes.map swap) :=
  have builtOpen : (fundedBuilder 7 .open).build = .ok (fundedEntry 7 .open) := rfl
  have builtClosed : (fundedBuilder 0 .closed).build = .ok (fundedEntry 0 .closed) := rfl
  diffChannels_complete_minimal builtOpen builtClosed rfl rfl

end ChannelChange

/-! ## Equality as an equivalence -/

/-- What equality must satisfy at three entries: it is an equivalence on their statuses and on
the entries, equal values feed a hasher alike, and empty differences compose. -/
structure EqualityLaws (first second third : ChannelEntry) : Prop where
  status_refl : first.status.eq first.status = true
  status_symm : first.status.eq second.status = true → second.status.eq first.status = true
  status_trans : first.status.eq second.status = true → second.status.eq third.status = true →
    first.status.eq third.status = true
  status_hash : first.status.eq second.status = true → ∀ {H : Type} (hasher : Hasher H) (state : H),
    first.status.hash hasher state = second.status.hash hasher state
  entry_refl : first.eq first = true
  entry_symm : first.eq second = true → second.eq first = true
  entry_trans : first.eq second = true → second.eq third = true → first.eq third = true
  entry_hash : first.eq second = true → ∀ {H : Type} (hasher : Hasher H) (state : H),
    first.hash hasher state = second.hash hasher state
  diff_trans : diffChannels first second = .ok [] → diffChannels second third = .ok [] →
    diffChannels first third = .ok []

theorem ChannelChange.not_differs_trans {first second third : ChannelEntry}
    (status : first.status.eq second.status = true → second.status.eq third.status = true →
      first.status.eq third.status = true)
    {kind : Kind} (firstSecond : differs kind first second = false)
    (secondThird : differs kind second third = false) : differs kind first third = false := by
  cases kind with
  | status =>
      simp only [differs, Bool.not_eq_false'] at *
      exact status firstSecond secondThird
  | balance =>
      simp only [differs, bne_eq_false_iff_eq] at *
      exact firstSecond.trans secondThird
  | epoch =>
      simp only [differs, bne_eq_false_iff_eq] at *
      exact firstSecond.trans secondThird
  | ticketIndex =>
      simp only [differs, bne_eq_false_iff_eq] at *
      exact firstSecond.trans secondThird

/-- Equality is lawful at three entries unless their closure times drift apart. -/
theorem equalityLaws_iff_not_drifting (first second third : ChannelEntry) :
    EqualityLaws first second third ↔
      ¬ChannelStatus.Drifting first.status second.status third.status := by
  rw [← ChannelStatus.eq_trans_iff]
  constructor
  · intro laws
    exact laws.status_trans
  · intro transitive
    refine
      { status_refl := ChannelStatus.eq_refl _
        status_symm := ?_
        status_trans := transitive
        status_hash := ?_
        entry_refl := ?_
        entry_symm := ?_
        entry_trans := ?_
        entry_hash := ?_
        diff_trans := ?_ }
    · intro equal
      rw [ChannelStatus.eq_comm]
      exact equal
    · intro equal H hasher state
      rw [ChannelStatus.hash, ChannelStatus.hash, ChannelStatus.toI8_eq_of_eq equal]
    · rw [ChannelEntry.eq_iff]
      exact ⟨rfl, rfl, rfl, rfl, ChannelStatus.eq_refl _, rfl, rfl⟩
    · intro equal
      obtain ⟨source, destination, _, _, _, _, id⟩ := (ChannelEntry.eq_iff _ _).mp equal
      rw [ChannelEntry.eq_iff_forall_differs source.symm destination.symm id.symm]
      intro kind
      rw [differs_comm]
      exact ChannelEntry.not_differs_of_eq equal kind
    · intro firstSecond secondThird
      obtain ⟨source, destination, _, _, _, _, id⟩ := (ChannelEntry.eq_iff _ _).mp firstSecond
      obtain ⟨source', destination', _, _, _, _, id'⟩ := (ChannelEntry.eq_iff _ _).mp secondThird
      rw [ChannelEntry.eq_iff_forall_differs (source.trans source')
        (destination.trans destination') (id.trans id')]
      intro kind
      exact not_differs_trans transitive (ChannelEntry.not_differs_of_eq firstSecond kind)
        (ChannelEntry.not_differs_of_eq secondThird kind)
    · intro equal H hasher state
      obtain ⟨_, _, _, _, _, epoch, id⟩ := (ChannelEntry.eq_iff _ _).mp equal
      rw [ChannelEntry.hash, ChannelEntry.hash, epoch, id]
    · intro firstSecond secondThird
      rw [diffChannels_eq_nil_iff] at *
      refine ⟨firstSecond.1.trans secondThird.1, ?_⟩
      intro kind
      exact not_differs_trans transitive (firstSecond.2 kind) (secondThird.2 kind)

/-- Closure times at 0 s, 0.6 s and 1.2 s: neighbours are equal, the outer two are not. -/
theorem not_equalityLaws :
    ¬∀ first second third : ChannelEntry, EqualityLaws first second third := by
  intro laws
  have transitive := (laws (fundedEntry 7 (.pendingToClose 0))
    (fundedEntry 7 (.pendingToClose 600000000))
    (fundedEntry 7 (.pendingToClose 1200000000))).status_trans
  exact absurd (transitive rfl rfl) (by decide)

end HoprTypes.Internal
