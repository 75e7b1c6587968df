import HoprTypes.Crypto.Signing
import HoprTypes.Crypto.Vrf
import HoprTypes.Internal.Channels
import HoprTypes.Internal.Errors

/-!
# Tickets

The ticket with its builder and its encodings, the signed and verified forms, and
the conversions between the states of a ticket up to its redemption.
-/

set_option autoImplicit false

namespace HoprTypes.Internal

open BigEndian HoprTypes.Primitive HoprTypes.Crypto

/-- The integer a big-endian byte array encodes. -/
def fromBeBytes (bits : Nat) (bytes : Bytes) : BitVec bits := BitVec.ofNat bits (ofBE bytes)

/-! ## Winning probability -/

abbrev WinningProbability := FixedBytes 7

namespace WinningProbability

def size : Nat := 7

def always : WinningProbability := ⟨List.replicate 7 0xff, by decide⟩

def never : WinningProbability := ⟨List.replicate 7 0, by decide⟩

def asLuck (probability : WinningProbability) : U64 :=
  fromBeBytes 64 (0 :: probability.toList)

def tryFrom (value : Bytes) : Except GeneralError WinningProbability :=
  tryFromSlice 7 "WinningProbability" value

end WinningProbability

/-- Whether the luck computed from a ticket's values is within its winning probability. -/
def checkTicketWin (ticketHash : Hash) (ticketSignature : ChainSignature)
    (winProb : WinningProbability) (response : Response) (vrfParams : VrfParameters) : Bool :=
  let digest := Hash.create
    [ticketHash.toList, vrfParams.getVEncodedPoint.drop 1, response.bytes.toList,
      ticketSignature.bytes.toList]
  let computedTicketLuck : U64 := fromBeBytes 64 (0 :: digest.toList.take 7)
  decide (computedTicketLuck ≤ winProb.asLuck)

/-! ## The ticket and its builder -/

structure Ticket where
  counterparty : Address
  amount : HoprBalance
  index : U64
  encodedWinProb : WinningProbability
  channelEpoch : U32
  challenge : EthereumChallenge
  signature : Option ChainSignature
deriving DecidableEq

structure TicketBuilder where
  counterparty : Option Address := none
  amount : Option U256 := none
  balance : Option HoprBalance := none
  index : U64 := 0
  channelEpoch : U32 := 1
  winProb : WinningProbability := WinningProbability.always
  challenge : Option EthereumChallenge := none
  signature : Option ChainSignature := none

namespace TicketBuilder

def maxTicketAmount : Nat := ChannelBuilder.maxFundingAmount
def maxTicketIndex : Nat := 2 ^ 48 - 1
def maxChannelEpoch : Nat := 2 ^ 24 - 1

def withAmount (builder : TicketBuilder) (amount : U256) : TicketBuilder :=
  { builder with amount := some amount, balance := none }

def withBalance (builder : TicketBuilder) (balance : HoprBalance) : TicketBuilder :=
  { builder with balance := some balance, amount := none }

def withChallenge (builder : TicketBuilder) (challenge : Challenge) : TicketBuilder :=
  { builder with challenge := some challenge.toEthereumChallenge }

/-- The amount of the ticket, given either directly or as a balance. -/
def buildAmount (builder : TicketBuilder) : Except CoreTypesError HoprBalance :=
  match builder.amount, builder.balance with
  | some amount, none =>
      if amount.toNat < maxTicketAmount then .ok ⟨amount⟩
      else .error (.invalidInputData "tickets may not have more than 1% of total supply")
  | none, some balance =>
      if balance.amount.toNat < maxTicketAmount then .ok balance
      else .error (.invalidInputData "tickets may not have more than 1% of total supply")
  | none, none => .error (.invalidInputData "missing ticket amount")
  | some _, some _ =>
      .error (.invalidInputData "either amount or balance must be set but not both")

/-- Checks all inputs and builds the ticket, without checking a signature that was set. -/
def build (builder : TicketBuilder) : Except CoreTypesError Ticket := do
  let amount ← builder.buildAmount
  if builder.index.toNat > maxTicketIndex then
    .error (.invalidInputData "cannot hold ticket indices larger than 2^48 - 1")
  else if builder.channelEpoch.toNat > maxChannelEpoch then
    .error (.invalidInputData "cannot hold channel epoch larger than 2^24 - 1")
  else do
    let counterparty ← okOr (.invalidInputData "missing channel id") builder.counterparty
    let challenge ← okOr (.invalidInputData "missing ticket challenge") builder.challenge
    .ok
      { counterparty := counterparty
        amount := amount
        index := builder.index
        encodedWinProb := builder.winProb
        channelEpoch := builder.channelEpoch
        challenge := challenge
        signature := builder.signature }

end TicketBuilder

/-! ## Encodings -/

namespace Ticket

def ticketSize : Nat := 48 + EthereumChallenge.size + ChainSignature.size

def redeemCallSelector : Bytes := [235, 19, 235, 17]

/-- The fields behind the counterparty, each cut to its window: amount 12, index 6, epoch 3,
winning probability 7 and challenge 20 bytes. -/
def encodeTailWithoutSignature (ticket : Ticket) : FixedBytes 48 :=
  ⟨(toBeBytes 32 ticket.amount.amount).drop 20 ++ ((toBeBytes 8 ticket.index).drop 2 ++
    ((toBeBytes 4 ticket.channelEpoch).drop 1 ++
      (ticket.encodedWinProb.toList ++ ticket.challenge.address.toList))), by simp⟩

def encodeForTransfer (ticket : Ticket) : FixedBytes 68 :=
  ⟨ticket.counterparty.toList ++ ticket.encodeTailWithoutSignature.toList, by simp⟩

def encodeForSigning (ticket : Ticket) (issuer : Address) : ChannelId × FixedBytes 80 :=
  let channelId := generateChannelId issuer ticket.counterparty
  (channelId, ⟨channelId.toList ++ ticket.encodeTailWithoutSignature.toList, by simp⟩)

/-- The channel id and the hash that is signed, equal to the on-chain computation. -/
def getHash (ticket : Ticket) (issuer : Address) (domainSeparator : Hash) : ChannelId × Hash :=
  let (channelId, hashStruct) := ticket.encodeForSigning issuer
  let ticketHash := Hash.create [hashStruct.toList]
  let hashStruct :=
    Hash.create [redeemCallSelector, List.replicate 28 0, ticketHash.toList]
  (channelId, Hash.create [[0x19, 0x01], domainSeparator.toList, hashStruct.toList])

/-- The wire form, which only a signed ticket has. -/
def intoEncoded {ε : Type} (ticket : Ticket) : Outcome ε (FixedBytes 132) :=
  match ticket.signature with
  | some signature =>
      .ok ⟨ticket.encodeForTransfer.toList ++ signature.bytes.toList, by simp⟩
  | none => Outcome.panicked "cannot serialize ticket without signature"

def tryFrom (value : Bytes) : Except GeneralError Ticket :=
  if value.length = ticketSize then do
    let offset := 0
    let counterparty ← Address.tryFrom (slice value offset Address.size)
    let offset := offset + Address.size
    let amount := List.replicate 20 0 ++ slice value offset 12
    let offset := offset + 12
    let index := List.replicate 2 0 ++ slice value offset 6
    let offset := offset + 6
    let channelEpoch := List.replicate 1 0 ++ slice value offset 3
    let offset := offset + 3
    let winProb ← WinningProbability.tryFrom (slice value offset WinningProbability.size)
    let offset := offset + WinningProbability.size
    let challenge ← EthereumChallenge.tryFrom (slice value offset EthereumChallenge.size)
    let offset := offset + EthereumChallenge.size
    let signature ← ChainSignature.tryFrom (slice value offset ChainSignature.size)
    let builder : TicketBuilder :=
      { counterparty := some counterparty
        amount := some (fromBeBytes 256 amount)
        index := fromBeBytes 64 index
        channelEpoch := fromBeBytes 32 channelEpoch
        winProb := winProb
        challenge := some challenge
        signature := some signature }
    builder.build.mapErr fun cause => .parseError ("ticket build failed: " ++ cause.display)
  else .error (.parseError "Ticket")

end Ticket

/-! ## Verified tickets -/

structure VerifiedTicket where
  ticket : Ticket
  hash : Hash
  issuer : Address
  channelId : ChannelId
deriving DecidableEq

structure UnacknowledgedTicket where
  ticket : VerifiedTicket
  ownKey : HalfKey
deriving DecidableEq

inductive AcknowledgedTicketStatus where
  | untouched
  | beingRedeemed
deriving DecidableEq

structure AcknowledgedTicket where
  status : AcknowledgedTicketStatus
  ticket : VerifiedTicket
  response : Response
deriving DecidableEq

structure RedeemableTicket where
  ticket : VerifiedTicket
  response : Response
  vrfParams : VrfParameters
  channelDst : Hash
deriving DecidableEq

/-- Equality of redeemable tickets, which leaves the VRF parameters out. -/
def RedeemableTicket.eq (left right : RedeemableTicket) : Bool :=
  left.ticket == right.ticket && left.channelDst == right.channelDst &&
    left.response == right.response

structure TransferableWinningTicket where
  ticket : Ticket
  response : Response
  vrfParams : VrfParameters
  signer : Address
deriving DecidableEq

section

variable {curve : Secp256k1} (engine : EcdsaEngine curve)

namespace Ticket

/-- Signs the ticket; a signature already present is replaced. -/
def sign {ε : Type} (ticket : Ticket) (signingKey : ChainKeypair curve) (domainSeparator : Hash) :
    Outcome ε VerifiedTicket := do
  let (channelId, ticketHash) := ticket.getHash signingKey.address domainSeparator
  let signature ← ChainSignature.signHash engine ticketHash signingKey
  .ok
    { ticket := { ticket with signature := some signature }
      hash := ticketHash
      issuer := signingKey.address
      channelId := channelId }

/-- Checks that the signature recovers to the issuer; a failure gives the ticket back. -/
def verify (ticket : Ticket) (issuer : Address) (domainSeparator : Hash) :
    Except Ticket VerifiedTicket :=
  let (channelId, ticketHash) := ticket.getHash issuer domainSeparator
  match ticket.signature with
  | some signature =>
      match signature.recoverFromHash engine ticketHash with
      | .ok publicKey =>
          if publicKey.toAddress = issuer then
            .ok { ticket := ticket, hash := ticketHash, issuer := issuer, channelId := channelId }
          else .error ticket
      | .error _ => .error ticket
  | none => .error ticket

end Ticket

def TicketBuilder.buildSigned (builder : TicketBuilder) (signer : ChainKeypair curve)
    (domainSeparator : Hash) : Outcome CoreTypesError VerifiedTicket :=
  if builder.signature.isNone then do
    let ticket ← .lift builder.build
    ticket.sign engine signer domainSeparator
  else Outcome.fail (.invalidInputData "signature already set")

namespace VerifiedTicket

variable (verified : VerifiedTicket)

def verifiedSignature {ε : Type} : Outcome ε ChainSignature :=
  match verified.ticket.signature with
  | some signature => .ok signature
  | none => Outcome.panicked "verified ticket always has a signature"

/-- Whether the ticket is a win for the holder of the key.  `randomBytes` is the randomness of
the VRF derivation. -/
def isWinning {ε : Type} (response : Response) (keypair : ChainKeypair curve)
    (domainSeparator : Hash) (randomBytes : FixedBytes 64) : Outcome ε Bool :=
  match deriveVrfParameters verified.hash keypair domainSeparator.toList randomBytes with
  | .ok vrfParams =>
      match verified.ticket.signature with
      | some signature =>
          .ok (checkTicketWin verified.hash signature verified.ticket.encodedWinProb response
            vrfParams)
      | none => Outcome.panicked "verified ticket have always a signature"
  | .error (.error _) => .ok false
  | .error (.panic message) => Outcome.panicked message

def leak : Ticket := verified.ticket

def intoUnacknowledged (ownKey : HalfKey) : UnacknowledgedTicket := ⟨verified, ownKey⟩

def intoAcknowledged (response : Response) : AcknowledgedTicket :=
  ⟨.untouched, verified, response⟩

end VerifiedTicket

def UnacknowledgedTicket.acknowledge (curve : Secp256k1) (unacknowledged : UnacknowledgedTicket)
    (acknowledgement : HalfKey) : Except CoreTypesError AcknowledgedTicket := do
  let response ← (Response.fromHalfKeys unacknowledged.ownKey acknowledgement).mapErr
    CoreTypesError.cryptoError
  let challenge ← (response.toChallenge curve).mapErr CoreTypesError.cryptoError
  if unacknowledged.ticket.ticket.challenge = challenge.toEthereumChallenge then
    .ok (unacknowledged.ticket.intoAcknowledged response)
  else .error (.cryptoError .invalidChallenge)

/-! ## Winning tickets -/

namespace AcknowledgedTicket

variable (acknowledged : AcknowledgedTicket) (keypair : ChainKeypair curve)
  (domainSeparator : Hash) (randomBytes : FixedBytes 64)

def isWinning {ε : Type} : Outcome ε Bool :=
  acknowledged.ticket.isWinning acknowledged.response keypair domainSeparator randomBytes

def intoRedeemable : Outcome CoreTypesError RedeemableTicket :=
  if keypair.address = acknowledged.ticket.issuer then Outcome.fail .loopbackTicket
  else do
    let vrfParams ← (deriveVrfParameters acknowledged.ticket.hash keypair
      domainSeparator.toList randomBytes).mapErr CoreTypesError.cryptoError
    let signature ← acknowledged.ticket.verifiedSignature
    if checkTicketWin acknowledged.ticket.hash signature acknowledged.ticket.ticket.encodedWinProb
        acknowledged.response vrfParams then
      .ok ⟨acknowledged.ticket, acknowledged.response, vrfParams, domainSeparator⟩
    else Outcome.fail .ticketNotWinning

end AcknowledgedTicket

def TransferableWinningTicket.fromRedeemable (redeemable : RedeemableTicket) :
    TransferableWinningTicket where
  response := redeemable.response
  vrfParams := redeemable.vrfParams
  signer := redeemable.ticket.issuer
  ticket := redeemable.ticket.leak

def AcknowledgedTicket.fromRedeemable (redeemable : RedeemableTicket) : AcknowledgedTicket where
  status := .untouched
  ticket := redeemable.ticket
  response := redeemable.response

def AcknowledgedTicket.intoTransferable (acknowledged : AcknowledgedTicket)
    (keypair : ChainKeypair curve) (domainSeparator : Hash) (randomBytes : FixedBytes 64) :
    Outcome CoreTypesError TransferableWinningTicket :=
  (acknowledged.intoRedeemable keypair domainSeparator randomBytes).map
    TransferableWinningTicket.fromRedeemable

/-- Turns a received ticket back into a redeemable one: the signer must be the expected issuer,
the signature must be the signer's, and the ticket must win. -/
def TransferableWinningTicket.intoRedeemable (transferable : TransferableWinningTicket)
    (expectedIssuer : Address) (domainSeparator : Hash) :
    Outcome CoreTypesError RedeemableTicket :=
  if transferable.signer ≠ expectedIssuer then
    Outcome.fail (.invalidInputData "invalid ticket issuer")
  else do
    let verified ← .lift
      ((transferable.ticket.verify engine transferable.signer domainSeparator).mapErr
        fun _ => CoreTypesError.cryptoError .signatureVerification)
    let signature ← verified.verifiedSignature
    if checkTicketWin verified.hash signature verified.ticket.encodedWinProb transferable.response
        transferable.vrfParams then
      .ok ⟨verified, transferable.response, transferable.vrfParams, domainSeparator⟩
    else Outcome.fail (.invalidInputData "ticket is not a win")

end

end HoprTypes.Internal
