import Mathlib.Data.Set.Function
import HoprTypes.Internal.TicketCodec

/-!
# What the hash of a ticket binds

The hash of a ticket is taken over four byte strings, one inside the other.  As long as these do
not collide, it binds the issuer, the domain and all fields but the signature.
-/

set_option autoImplicit false

namespace HoprTypes.Internal.Ticket

open BigEndian Keccak HoprTypes.Primitive HoprTypes.Crypto

def unsigned (ticket : Ticket) : Ticket := { ticket with signature := none }

theorem unsigned_eq_of_encodeTail_eq {left right : Ticket} (leftInBounds : left.InBounds)
    (rightInBounds : right.InBounds) (sameCounterparty : left.counterparty = right.counterparty)
    (same : left.encodeTailWithoutSignature = right.encodeTailWithoutSignature) :
    left.unsigned = right.unsigned := by
  have windows := congrArg FixedBytes.toList same
  rw [toList_encodeTail, toList_encodeTail] at windows
  obtain ⟨sameAmount, windows⟩ := List.append_inj windows (by simp)
  obtain ⟨sameIndex, windows⟩ := List.append_inj windows (by simp)
  obtain ⟨sameEpoch, windows⟩ := List.append_inj windows (by simp)
  obtain ⟨sameWinProb, sameChallenge⟩ := List.append_inj windows (by simp)
  have amount : left.amount = right.amount := congrArg Balance.mk (BitVec.eq_of_toNat_eq
    (toBE_injective leftInBounds.amount_lt rightInBounds.amount_lt sameAmount))
  have index := BitVec.eq_of_toNat_eq
    (toBE_injective leftInBounds.index_lt rightInBounds.index_lt sameIndex)
  have epoch := BitVec.eq_of_toNat_eq
    (toBE_injective leftInBounds.channelEpoch_lt rightInBounds.channelEpoch_lt sameEpoch)
  have challenge : left.challenge = right.challenge :=
    congrArg EthereumChallenge.mk (FixedBytes.ext sameChallenge)
  rw [unsigned, unsigned, sameCounterparty, amount, index, epoch, FixedBytes.ext sameWinProb,
    challenge]

/-! ## The hashed strings -/

def channelInput (ticket : Ticket) (issuer : Address) : Bytes :=
  issuer.toList ++ ticket.counterparty.toList

def fieldsInput (ticket : Ticket) (issuer : Address) : Bytes :=
  (keccak256 (ticket.channelInput issuer)).toList ++ ticket.encodeTailWithoutSignature.toList

def callInput (ticket : Ticket) (issuer : Address) : Bytes :=
  (redeemCallSelector ++ List.replicate 28 0) ++
    (keccak256 (ticket.fieldsInput issuer)).toList

def messageInput (ticket : Ticket) (issuer : Address) (domainSeparator : Hash) : Bytes :=
  ([0x19, 0x01] ++ domainSeparator.toList) ++ (keccak256 (ticket.callInput issuer)).toList

def hashedInputs (ticket : Ticket) (issuer : Address) (domainSeparator : Hash) : List Bytes :=
  [ticket.channelInput issuer, ticket.fieldsInput issuer, ticket.callInput issuer,
    ticket.messageInput issuer domainSeparator]

theorem getHash_eq (ticket : Ticket) (issuer : Address) (domainSeparator : Hash) :
    ticket.getHash issuer domainSeparator = (keccak256 (ticket.channelInput issuer),
      keccak256 (ticket.messageInput issuer domainSeparator)) := by
  simp [getHash, encodeForSigning, generateChannelId, Hash.create, messageInput, callInput,
    fieldsInput, channelInput]

/-- Two messages that are equal were hashed from the same issuer, domain and fields. -/
theorem eq_of_messageInput_eq {inputs : Set Bytes} (noCollision : Set.InjOn keccak256 inputs)
    {left right : Ticket} {leftIssuer rightIssuer : Address} {leftDomain rightDomain : Hash}
    (leftInBounds : left.InBounds) (rightInBounds : right.InBounds)
    (leftHashed : ∀ input ∈ left.hashedInputs leftIssuer leftDomain, input ∈ inputs)
    (rightHashed : ∀ input ∈ right.hashedInputs rightIssuer rightDomain, input ∈ inputs)
    (same : left.messageInput leftIssuer leftDomain = right.messageInput rightIssuer rightDomain) :
    leftIssuer = rightIssuer ∧ leftDomain = rightDomain ∧ left.unsigned = right.unsigned := by
  simp only [hashedInputs, List.forall_mem_cons] at leftHashed rightHashed
  obtain ⟨leftChannel, leftFields, leftCall, _⟩ := leftHashed
  obtain ⟨rightChannel, rightFields, rightCall, _⟩ := rightHashed
  obtain ⟨sameFront, sameCallHash⟩ := List.append_inj same (by simp)
  have sameDomain := FixedBytes.ext (List.append_cancel_left sameFront)
  have sameCall := noCollision leftCall rightCall (FixedBytes.ext sameCallHash)
  have sameFieldsHash := List.append_cancel_left sameCall
  have sameFields := noCollision leftFields rightFields (FixedBytes.ext sameFieldsHash)
  obtain ⟨sameChannelHash, sameTail⟩ := List.append_inj sameFields (by simp)
  have sameChannel := noCollision leftChannel rightChannel (FixedBytes.ext sameChannelHash)
  obtain ⟨sameIssuer, sameCounterparty⟩ := List.append_inj sameChannel (by simp)
  exact ⟨FixedBytes.ext sameIssuer, sameDomain, unsigned_eq_of_encodeTail_eq leftInBounds
    rightInBounds (FixedBytes.ext sameCounterparty) (FixedBytes.ext sameTail)⟩

end HoprTypes.Internal.Ticket
