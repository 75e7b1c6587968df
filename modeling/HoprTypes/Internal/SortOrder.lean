import HoprTypes.Lib.KeyOrder
import HoprTypes.Internal.Tickets

/-!
# Sort orders of tickets and logs

Tickets in every state are sorted by their id, logs by their place in the chain.
-/

set_option autoImplicit false

open KeyOrder

/-! ## Logs -/

namespace HoprTypes.Primitive

open BigEndian

/-- A log of a mined block; the processing time is in nanoseconds. -/
structure SerializableLog where
  address : Address
  topics : List (FixedBytes 32)
  data : Bytes
  txIndex : U64
  blockNumber : U64
  blockHash : FixedBytes 32
  txHash : FixedBytes 32
  logIndex : U64
  removed : Bool
  processed : Option Bool
  processedAt : Option Int
  checksum : Option String
deriving DecidableEq

namespace SerializableLog

def cmp (log other : SerializableLog) : Ordering :=
  let blockNumberOrder := compare log.blockNumber.toNat other.blockNumber.toNat
  if blockNumberOrder = .eq then
    let txIndexOrder := compare log.txIndex.toNat other.txIndex.toNat
    if txIndexOrder = .eq then compare log.logIndex.toNat other.logIndex.toNat
    else txIndexOrder
  else blockNumberOrder

def eq (log other : SerializableLog) : Bool := log == other

def place (log : SerializableLog) : Nat × Nat × Nat :=
  (log.blockNumber.toNat, log.txIndex.toNat, log.logIndex.toNat)

theorem cmp_eq_byKeys : cmp = byKeys place := by
  funext log other
  simp only [cmp, byKeys, compareLex, compareOn, place]
  cases compare log.blockNumber.toNat other.blockNumber.toNat with
  | lt => rfl
  | gt => rfl
  | eq => cases compare log.txIndex.toNat other.txIndex.toNat <;> rfl

end SerializableLog

end HoprTypes.Primitive

/-! ## Tickets -/

namespace HoprTypes.Internal

open BigEndian HoprTypes.Primitive HoprTypes.Crypto

structure TicketId where
  id : ChannelId
  epoch : U32
  index : U64
deriving DecidableEq

namespace TicketId

def cmp (ticketId other : TicketId) : Ordering :=
  ((compare ticketId.id.toList other.id.toList).then
    (compare ticketId.epoch.toNat other.epoch.toNat)).then
    (compare ticketId.index.toNat other.index.toNat)

def fromVerified (verified : VerifiedTicket) : TicketId :=
  ⟨verified.channelId, verified.ticket.channelEpoch, verified.ticket.index⟩

def keys (ticketId : TicketId) : Bytes × Nat × Nat :=
  (ticketId.id.toList, ticketId.epoch.toNat, ticketId.index.toNat)

theorem cmp_eq_byKeys {α : Type} (ticketId : α → TicketId) :
    (fun first second => cmp (ticketId first) (ticketId second)) =
      byKeys fun value => (ticketId value).keys := by
  funext first second
  rw [cmp, Ordering.then_assoc]
  rfl

end TicketId

def VerifiedTicket.cmp (verified other : VerifiedTicket) : Ordering :=
  (TicketId.fromVerified verified).cmp (TicketId.fromVerified other)

def VerifiedTicket.eq (verified other : VerifiedTicket) : Bool := verified == other

def AcknowledgedTicket.cmp (acknowledged other : AcknowledgedTicket) : Ordering :=
  acknowledged.ticket.cmp other.ticket

def AcknowledgedTicket.eq (acknowledged other : AcknowledgedTicket) : Bool :=
  acknowledged == other

def RedeemableTicket.cmp (redeemable other : RedeemableTicket) : Ordering :=
  redeemable.ticket.cmp other.ticket

/-- A comparison by the id of a ticket is ordered by its keys, beside every equality that
compares the ticket. -/
theorem orderedByTicketId {α : Type} (ticket : α → VerifiedTicket) {eq : α → α → Bool}
    (same : ∀ first second, eq first second = true → ticket first = ticket second) :
    OrderedByKeys (fun first second => (ticket first).cmp (ticket second)) eq
      fun value => (TicketId.fromVerified (ticket value)).keys := by
  have byTicketId := TicketId.cmp_eq_byKeys fun value => TicketId.fromVerified (ticket value)
  change OrderedByKeys (fun first second => (TicketId.fromVerified (ticket first)).cmp
    (TicketId.fromVerified (ticket second))) eq _
  rw [byTicketId]
  apply orderedByKeys
  intro first second equal
  rw [same first second equal]

/-- Tickets are totally preordered by channel id, epoch and index, and logs by block number,
transaction index and log index; values that are equal compare as equal. -/
theorem sorted_by_identity :
    OrderedByKeys VerifiedTicket.cmp VerifiedTicket.eq
        (fun verified => (TicketId.fromVerified verified).keys) ∧
      OrderedByKeys AcknowledgedTicket.cmp AcknowledgedTicket.eq
        (fun acknowledged => (TicketId.fromVerified acknowledged.ticket).keys) ∧
      OrderedByKeys RedeemableTicket.cmp RedeemableTicket.eq
        (fun redeemable => (TicketId.fromVerified redeemable.ticket).keys) ∧
      OrderedByKeys SerializableLog.cmp SerializableLog.eq SerializableLog.place := by
  refine ⟨?_, ?_, ?_, ?_⟩
  · apply orderedByTicketId fun verified : VerifiedTicket => verified
    intro first second equal
    exact eq_of_beq equal
  · apply orderedByTicketId AcknowledgedTicket.ticket
    intro first second equal
    rw [eq_of_beq equal]
  · apply orderedByTicketId RedeemableTicket.ticket
    intro first second equal
    rw [RedeemableTicket.eq, Bool.and_eq_true, Bool.and_eq_true] at equal
    exact eq_of_beq equal.1.1
  · rw [SerializableLog.cmp_eq_byKeys]
    apply orderedByKeys
    intro first second equal
    rw [eq_of_beq equal]

/-! ### What the orders do not tell apart -/

/-- A ticket of a given amount, always with the same id. -/
def paidTicket (amount : U256) : VerifiedTicket where
  ticket :=
    { counterparty := Address.zero
      amount := ⟨amount⟩
      index := 3
      encodedWinProb := WinningProbability.always
      channelEpoch := 1
      challenge := ⟨Address.zero⟩
      signature := none }
  hash := Hash.default
  issuer := Address.zero
  channelId := Hash.default

def emptyResponse : Response := ⟨Hash.default⟩

def redeemableAt (channelDst : Hash) : RedeemableTicket where
  ticket := paidTicket 1
  response := emptyResponse
  vrfParams := ⟨.identity, 0, 0, .identity⟩
  channelDst := channelDst

def processedLog (processed : Option Bool) : SerializableLog where
  address := Address.zero
  topics := []
  data := []
  txIndex := 1
  blockNumber := 20
  blockHash := Hash.default
  txHash := Hash.default
  logIndex := 2
  removed := false
  processed := processed
  processedAt := none
  checksum := none

/-- Values that differ in more than their place compare as equal, in each of the orders. -/
theorem sortOrders_not_consistent :
    ¬Consistent VerifiedTicket.cmp VerifiedTicket.eq ∧
      ¬Consistent AcknowledgedTicket.cmp AcknowledgedTicket.eq ∧
      ¬Consistent RedeemableTicket.cmp RedeemableTicket.eq ∧
      ¬Consistent SerializableLog.cmp SerializableLog.eq := by
  refine ⟨?_, ?_, ?_, ?_⟩
  · have equal : (paidTicket 1).cmp (paidTicket 2) = .eq := by decide
    exact not_consistent equal (by decide)
  · have equal : (AcknowledgedTicket.mk .untouched (paidTicket 1) emptyResponse).cmp
        (AcknowledgedTicket.mk .beingRedeemed (paidTicket 1) emptyResponse) = .eq := by decide
    exact not_consistent equal (by decide)
  · have equal : (redeemableAt Hash.default).cmp
        (redeemableAt ⟨List.replicate 32 1, by decide⟩) = .eq := by decide
    exact not_consistent equal (by decide)
  · have equal : (processedLog none).cmp (processedLog (some true)) = .eq := by decide
    exact not_consistent equal (by decide)

end HoprTypes.Internal
