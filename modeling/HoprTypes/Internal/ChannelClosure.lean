import Mathlib
import HoprTypes.Lib.Drift
import HoprTypes.Internal.ChannelDiff

/-!
# Closing a channel

Whether the closure time of a channel has passed and how long it takes till then; and what an
entry of a channel tells of this after updates of the channel that were not seen to change its
status.
-/

set_option autoImplicit false

namespace HoprTypes.Internal

open HoprTypes.Primitive

abbrev Duration := Nat

/-- Time since an earlier one, none if that is the later one. -/
def SystemTime.saturatingSub (time earlier : SystemTime) : Duration := (time - earlier).toNat

/-! ## The closure time of a status -/

namespace ChannelStatus

def closureTimeElapsed (status : ChannelStatus) (currentTime : SystemTime) : Bool :=
  match status with
  | .closed => true
  | .open => false
  | .pendingToClose closureTime => closureTime ≤ currentTime

noncomputable def dueTimes : ChannelStatus → UpperSet SystemTime
  | .closed => ⊥
  | .open => ⊤
  | .pendingToClose closureTime => UpperSet.Ici closureTime

theorem mem_dueTimes_iff (status : ChannelStatus) (now : SystemTime) :
    now ∈ status.dueTimes ↔ status.closureTimeElapsed now = true := by
  cases status with
  | closed => simp [dueTimes, closureTimeElapsed]
  | «open» => simp [dueTimes, closureTimeElapsed]
  | pendingToClose closureTime => simp [dueTimes, closureTimeElapsed]

/-- Whatever falls due, some status does so at the same moments. -/
theorem dueTimes_surjective : Function.Surjective dueTimes := by
  intro due
  by_cases never : ∃ now, now ∈ due
  · by_cases always : ∃ bound, ∀ now ∈ due, bound ≤ now
    · obtain ⟨first, member, least⟩ := Int.exists_least_of_bdd always never
      refine ⟨.pendingToClose first, ?_⟩
      ext now
      exact ⟨fun later => due.upper later member, least now⟩
    · refine ⟨.closed, ?_⟩
      ext now
      refine ⟨fun _ => ?_, fun _ => UpperSet.mem_bot⟩
      by_contra notDue
      refine always ⟨now, fun other member => ?_⟩
      by_contra earlier
      exact notDue (due.upper (not_le.mp earlier).le member)
  · refine ⟨.open, ?_⟩
    ext now
    exact ⟨fun member => absurd member UpperSet.notMem_top,
      fun member => absurd ⟨now, member⟩ never⟩

theorem never_ne_always : (⊤ : UpperSet SystemTime) ≠ ⊥ := by
  intro same
  have due : (0 : SystemTime) ∈ (⊤ : UpperSet SystemTime) := same ▸ UpperSet.mem_bot
  exact UpperSet.notMem_top due

theorem dueTimes_eq_bot_iff (status : ChannelStatus) : status.dueTimes = ⊥ ↔ status = .closed := by
  cases status with
  | closed => simp [dueTimes]
  | «open» => simp [dueTimes, never_ne_always]
  | pendingToClose closureTime =>
      have notAlways : UpperSet.Ici closureTime ≠ ⊥ := by
        intro always
        have earlier : closureTime - 1 ∈ UpperSet.Ici closureTime := always ▸ UpperSet.mem_bot
        exact absurd (UpperSet.mem_Ici_iff.mp earlier) (not_le.mpr (sub_one_lt closureTime))
      simp [dueTimes, notAlways]

theorem dueTimes_eq_top_iff (status : ChannelStatus) : status.dueTimes = ⊤ ↔ status = .open := by
  cases status with
  | closed => simp [dueTimes, never_ne_always.symm]
  | «open» => simp [dueTimes]
  | pendingToClose closureTime => simp [dueTimes]

theorem eq_closed_iff (status : ChannelStatus) : status.eq .closed = true ↔ status = .closed := by
  cases status with
  | closed => simp [eq]
  | «open» => simp [eq]
  | pendingToClose closureTime => simp [eq]

/-- How far apart the closure times of equal statuses are at most. -/
def precision : Duration := 999999999

/-- Equal statuses are those whose closure times elapse within a second of each other. -/
theorem eq_iff_within (first second : ChannelStatus) :
    first.eq second = true ↔ Drift.Within (precision : Int) first.dueTimes second.dueTimes := by
  cases first with
  | closed => rw [eq_comm, eq_closed_iff, dueTimes, Drift.within_bot_iff, dueTimes_eq_bot_iff]
  | «open» => rw [eq_comm, eq_open_iff, dueTimes, Drift.within_top_iff, dueTimes_eq_top_iff]
  | pendingToClose firstTime =>
      cases second with
      | closed =>
          rw [eq_closed_iff, Drift.within_comm, dueTimes, Drift.within_bot_iff,
            dueTimes_eq_bot_iff]
      | «open» =>
          rw [eq_open_iff, Drift.within_comm, dueTimes, Drift.within_top_iff,
            dueTimes_eq_top_iff]
      | pendingToClose secondTime =>
          rw [eq_pendingToClose_iff, dueTimes, dueTimes, Drift.within_Ici_iff, WithinSecond]
          exact Int.le_sub_one_iff.symm

end ChannelStatus

/-! ## The closure time of an entry -/

namespace ChannelEntry

def closureTimePassed (entry : ChannelEntry) (currentTime : SystemTime) : Bool :=
  entry.status.closureTimeElapsed currentTime

/-- What remains of the grace period, nothing if closing has not been initiated. -/
def remainingClosureTime (entry : ChannelEntry) (currentTime : SystemTime) : Option Duration :=
  match entry.status with
  | .open => none
  | .pendingToClose closureTime => some (SystemTime.saturatingSub closureTime currentTime)
  | .closed => some 0

/-- The remaining time is the shortest wait after which the closure time has passed. -/
theorem closureTimePassed_after_iff (entry : ChannelEntry) (now : SystemTime) (wait : Duration) :
    entry.closureTimePassed (now + wait) = true ↔
      ∃ remaining, entry.remainingClosureTime now = some remaining ∧ remaining ≤ wait := by
  rw [closureTimePassed, remainingClosureTime]
  cases entry.status with
  | closed => simp [ChannelStatus.closureTimeElapsed]
  | «open» => simp [ChannelStatus.closureTimeElapsed]
  | pendingToClose closureTime =>
      simp only [ChannelStatus.closureTimeElapsed, decide_eq_true_eq, Option.some.injEq,
        exists_eq_left', SystemTime.saturatingSub, Int.toNat_le, sub_le_iff_le_add']

theorem within_iff_remaining (drift : Duration) (first last : ChannelEntry) :
    Drift.Within (drift : Int) first.status.dueTimes last.status.dueTimes ↔
      ∀ now : SystemTime,
        (∀ remaining, first.remainingClosureTime now = some remaining →
          last.closureTimePassed (now + remaining + drift) = true) ∧
        (∀ remaining, last.remainingClosureTime now = some remaining →
          first.closureTimePassed (now + remaining + drift) = true) := by
  have waits (one other : ChannelEntry) :
      (∀ now ∈ one.status.dueTimes, now + (drift : Int) ∈ other.status.dueTimes) ↔
        ∀ (now : SystemTime) (remaining : Duration), one.remainingClosureTime now = some remaining →
          other.closureTimePassed (now + remaining + drift) = true := by
    simp only [ChannelStatus.mem_dueTimes_iff]
    constructor
    · intro follows now remaining remains
      exact follows _ ((one.closureTimePassed_after_iff now remaining).mpr
        ⟨remaining, remains, le_rfl⟩)
    · intro waited now due
      have passed : one.closureTimePassed (now + (0 : Duration)) = true := by
        rw [Nat.cast_zero, add_zero]
        exact due
      obtain ⟨remaining, remains, none⟩ := (one.closureTimePassed_after_iff now 0).mp passed
      have waitedNone := waited now remaining remains
      rw [Nat.le_zero.mp none, Nat.cast_zero, add_zero] at waitedNone
      exact waitedNone
  rw [Drift.Within, forall_and, forall_and, waits, waits]

end ChannelEntry

/-! ## Updates without a change of the status -/

namespace ChannelChange

/-- The difference of two entries tells of no other status. -/
def StatusUnreported (left right : ChannelEntry) : Prop :=
  ∃ changes, diffChannels left right = .ok changes ∧ .status ∉ changes.map kind

theorem statusUnreported_iff (left right : ChannelEntry) :
    StatusUnreported left right ↔
      left.id = right.id ∧
        Drift.Within (ChannelStatus.precision : Int) left.status.dueTimes
          right.status.dueTimes := by
  rw [← ChannelStatus.eq_iff_within]
  have reported : .status ∈ (entryFields.diff left right).map kind ↔
      ¬left.status.eq right.status = true := by
    rw [entryFields.mem_map_diff kind_between left right (mem_kinds .status)]
    simp [entryFields, differs]
  by_cases id : left.id = right.id
  · simp only [StatusUnreported, diffChannels_eq id, Except.ok.injEq, exists_eq_left', reported,
      not_not, id, true_and]
  · constructor
    · intro unreported
      obtain ⟨changes, returned, _⟩ := unreported
      rw [diffChannels, if_pos id] at returned
      cases returned
    · intro agree
      exact absurd agree.1 id

/-- What an entry tells of closing after updates of which none was seen to change the status: it
may be late by a second less a nanosecond for each update, and by no more. -/
theorem unreported_updates_iff (updates : Nat) (first last : ChannelEntry) :
    Steps StatusUnreported (updates + 1) first last ↔
      first.id = last.id ∧ ∀ now : SystemTime,
        (∀ remaining, first.remainingClosureTime now = some remaining →
          last.closureTimePassed (now + remaining + ((updates + 1) * 999999999 : Nat)) = true) ∧
        (∀ remaining, last.remainingClosureTime now = some remaining →
          first.closureTimePassed (now + remaining + ((updates + 1) * 999999999 : Nat)) =
            true) := by
  have shown (entry : ChannelEntry) (due : UpperSet SystemTime) :
      ∃ other : ChannelEntry, other.id = entry.id ∧ other.status.dueTimes = due := by
    obtain ⟨status, falls⟩ := ChannelStatus.dueTimes_surjective due
    exact ⟨{ entry with status := status }, rfl, falls⟩
  have unreported : StatusUnreported = fun left right => left.id = right.id ∧
      Drift.Within (ChannelStatus.precision : Int) left.status.dueTimes
        right.status.dueTimes := by
    funext left right
    exact propext (statusUnreported_iff left right)
  rw [← ChannelEntry.within_iff_remaining, unreported,
    Steps.view_iff ChannelEntry.id (fun entry => entry.status.dueTimes) shown,
    Drift.steps_within_iff (Int.natCast_nonneg _), nsmul_eq_mul, ← Nat.cast_mul]
  rfl

end ChannelChange

end HoprTypes.Internal
