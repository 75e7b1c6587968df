import HoprTypes.Crypto.Types

/-!
# Payment channels

The channel entry with its status, the id of a channel and the bounds of its
values.
-/

set_option autoImplicit false

namespace HoprTypes.Internal

open HoprTypes.Primitive HoprTypes.Crypto

/-- Nanoseconds since the Unix epoch. -/
abbrev SystemTime := Int

inductive ChannelStatus where
  | closed
  | «open»
  | pendingToClose (closureTime : SystemTime)

namespace ChannelStatus

def asSecs (nanoseconds : Int) : Int := nanoseconds / 1000000000

/-- Equality of statuses, with closure times compared up to whole seconds. -/
def eq : ChannelStatus → ChannelStatus → Bool
  | .open, .open => true
  | .closed, .closed => true
  | .pendingToClose first, .pendingToClose second =>
      asSecs (max first second - min first second) == 0
  | _, _ => false

theorem eq_open_iff (status : ChannelStatus) : status.eq .open = true ↔ status = .open := by
  cases status with
  | closed => simp [eq]
  | «open» => simp [eq]
  | pendingToClose closureTime => simp [eq]

end ChannelStatus

abbrev ChannelId := Hash

def generateChannelId (source destination : Address) : ChannelId :=
  Hash.create [source.toList, destination.toList]

namespace ChannelBuilder

def maxFundingAmount : Nat := 10 ^ 25

def maxChannelStake : Nat := 2 ^ 96 - 1

end ChannelBuilder

structure ChannelEntry where
  source : Address
  destination : Address
  balance : HoprBalance
  ticketIndex : U64
  status : ChannelStatus
  channelEpoch : U32
  id : ChannelId

end HoprTypes.Internal
