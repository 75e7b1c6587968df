import HoprTypes.Chain.Contracts

/-!
# What a payload puts on chain

Each call of a payload generator stands for one message: a recipient, a value and
a typed function call.  The basic generator sends it from the node itself; the Safe
generator has the Safe module send it.
-/

set_option autoImplicit false

namespace HoprTypes.Chain

open BigEndian Abi HoprTypes.Primitive HoprTypes.Crypto HoprTypes.Internal Contracts

/-- A message without a function call is a transfer of native tokens. -/
structure ChainMessage where
  recipient : Address
  value : U256
  call : Option Call

namespace ChainMessage

def calldata (message : ChainMessage) : Bytes :=
  match message.call with
  | some call => call.encode
  | none => []

/-- The call of a contract function, without any value. -/
def ofCall (recipient : Address) (call : Call) : ChainMessage := ⟨recipient, 0, some call⟩

def throughModule (module : Address) (inner : ChainMessage) : ChainMessage :=
  ofCall module
    (execTransactionFromModuleCall inner.recipient inner.value inner.calldata 0)

def packed (message : ChainMessage) : Bytes :=
  (0 : UInt8) :: (message.recipient.toList ++ (toBE 32 message.value.toNat ++
    (toBE 32 message.calldata.length ++ message.calldata)))

/-- The message that has the Safe send a batch: a delegated call of the multi-send contract. -/
def batched (module multiSend : Address) (messages : List ChainMessage) : ChainMessage :=
  ofCall module
    (execTransactionFromModuleCall multiSend 0 (multiSendCall (messages.flatMap packed)).encode 1)

end ChainMessage

/-! ## Arguments of the calls -/

def erc777Data : Erc777Payload → Bytes
  | .curvy (.directShield aggregator note) =>
      encodeValues [.address, curvyNoteTy] (aggregator, curvyNoteValues note, ())

def keyBindAndAnnounce {Multiaddr : Type} (crate : MultiaddrCrate Multiaddr) (me : Address)
    (announcement : AnnouncementData Multiaddr) : KeyBindAndAnnouncePayload where
  callerNode := me
  ed25519Sig0 := ⟨slice announcement.keyBinding.signature.toList 0 32, length_slice (by simp)⟩
  ed25519Sig1 := ⟨slice announcement.keyBinding.signature.toList 32 32, length_slice (by simp)⟩
  ed25519PubKey := announcement.keyBinding.packetKey
  multiaddress := announcement.addressText crate

/-- The Safe to deploy; the target word is the channels contract with its permissions. -/
def safeUserData (channels : Address) (admins : List Address) (includeNode : Bool)
    (nonce : FixedBytes 32) : UserData where
  functionIdentifier :=
    if includeNode then
      beBytes 32 0x0105b97dcdf19d454ebe36f91ed516c2b90ee79f4a46af96a0138c1f5403c1cc
    else beBytes 32 0xdd24c144db91d1bc600aac99393baf8f8c664ba461188f057e37f2c37b962b45
  nonce := fromBeBytes 256 nonce.toList
  defaultTarget :=
    ⟨channels.toList ++ (beBytes 12 0x010103030303030303030303).toList, by simp⟩
  admins := admins

def multiSendAddress : Address := beBytes 20 0x38869bf66a61cf6bdb996a6ae40d5853fd43b526

/-- The ticket as the contract takes it: every value modulo the width it has there. -/
def onChainTicket (ackedTicket : Internal.RedeemableTicket) (signature : ChainSignature) :
    Contracts.RedeemableTicket where
  data :=
    { channelId := ackedTicket.ticket.channelId
      amount := BitVec.setWidth 96 ackedTicket.ticket.ticket.amount.amount
      ticketIndex := BitVec.setWidth 48 ackedTicket.ticket.ticket.index
      epoch := BitVec.setWidth 24 ackedTicket.ticket.ticket.channelEpoch
      winProb := fromBeBytes 56 ackedTicket.ticket.ticket.encodedWinProb.toList }
  signature :=
    { r := ⟨slice signature.bytes.toList 0 32, length_slice (by simp)⟩
      vs := ⟨slice signature.bytes.toList 32 32, length_slice (by simp)⟩ }
  porSecret := fromBeBytes 256 ackedTicket.response.bytes.toList

def pointX (point : Bytes) : U256 := fromBeBytes 256 (slice point 1 32)

def pointY (point : Bytes) : U256 := fromBeBytes 256 (slice point 33 32)

/-- The VRF parameters with their witnesses, `sB` being the one that depends on the redeemer. -/
def onChainVrf (curve : Secp256k1) (params : VrfParameters) (sB : Bytes) : VRFParameters where
  vx := pointX params.getVEncodedPoint
  vy := pointY params.getVEncodedPoint
  s := fromBeBytes 256 (Scalar.toBytes params.s).toList
  h := fromBeBytes 256 (Scalar.toBytes params.h).toList
  sBx := pointX sB
  sBy := pointY sB
  hVx := pointX (params.getHVWitness curve)
  hVy := pointY (params.getHVWitness curve)
  ax := pointX params.getAEncodedPoint
  ay := pointY params.getAEncodedPoint
  sGx := pointX (params.getSGWitness curve)
  sGy := pointY (params.getSGWitness curve)
  hAx := pointX (params.getHAWitness curve)
  hAy := pointY (params.getHAWitness curve)

/-! ## The message of each call -/

section

variable {Multiaddr : Type} (crate : MultiaddrCrate Multiaddr) (curve : Secp256k1)
  (me : Address) (addresses : ContractAddresses)

/-- The redemption of a signed ticket, with the function of the generator's kind. -/
def redemption (call : Contracts.RedeemableTicket → VRFParameters → Call)
    (ackedTicket : Internal.RedeemableTicket) : Option ChainMessage :=
  match ackedTicket.ticket.ticket.signature,
      ackedTicket.vrfParams.getSBWitness curve me ackedTicket.ticket.hash
        ackedTicket.channelDst.toList with
  | some signature, .ok sB =>
      some (.ofCall addresses.channels
        (call (onChainTicket ackedTicket signature) (onChainVrf curve ackedTicket.vrfParams sB)))
  | _, _ => none

/-- A channel operation, which cannot concern the node itself. -/
def withOther (other : Address) (call : Call) : Option ChainMessage :=
  if other = me then none else some (.ofCall addresses.channels call)

def tokenTransfer (currency : Currency) (destination : Address) (amount : Balance currency) :
    Option ChainMessage :=
  if XDai.is currency then some ⟨destination, amount.amount, none⟩
  else if WxHOPR.is currency then
    some (.ofCall addresses.token (transferCall destination amount.amount))
  else none

def sharedMessage : PayloadCall Multiaddr → Option ChainMessage
  | .approve spender amount => some (.ofCall addresses.token (approveCall spender amount.amount))
  | .transfer currency destination amount => tokenTransfer addresses currency destination amount
  | .sendErc777 recipient amount payload =>
      some (.ofCall addresses.token (sendCall recipient amount.amount (erc777Data payload)))
  | .announce announcement fee =>
      some (.ofCall addresses.token (sendCall addresses.announcements fee.amount
        (encode keyBindAndAnnouncePayloadTy (keyBindAndAnnounce crate me announcement).values)))
  | .deregisterService serviceType =>
      some (.ofCall addresses.serviceRegistry (selfDeregisterCall serviceType.asEncoded me))
  | _ => none

/-- The message of the basic generator, `none` where it refuses the call. -/
def basicMessage : PayloadCall Multiaddr → Option ChainMessage
  | .fundChannel dest amount =>
      withOther me addresses dest (fundChannelCall dest (BitVec.setWidth 96 amount.amount))
  | .closeIncomingChannel source => withOther me addresses source (closeIncomingChannelCall source)
  | .initiateOutgoingChannelClosure destination =>
      withOther me addresses destination (initiateOutgoingChannelClosureCall destination)
  | .finalizeOutgoingChannelClosure destination =>
      withOther me addresses destination (finalizeOutgoingChannelClosureCall destination)
  | .redeemTicket ackedTicket => redemption curve me addresses redeemTicketCall ackedTicket
  | .registerSafeByNode safeAddr =>
      some (.ofCall addresses.nodeSafeRegistry (registerSafeByNodeCall safeAddr))
  | .deregisterNodeBySafe => none
  | .registerService serviceType metadata burn =>
      if burn.isZero then
        some (.ofCall addresses.serviceRegistry
          (selfRegisterCall serviceType.asEncoded me metadata.asRef))
      else none
  | .updateService serviceType metadata burn =>
      if burn.isZero then
        some (.ofCall addresses.serviceRegistry
          (selfUpdateCall serviceType.asEncoded me metadata.asRef))
      else none
  | .deploySafe balance admins includeNode nonce =>
      some (.ofCall addresses.token (sendCall addresses.nodeStakeFactory balance.amount
        (encode userDataTy
          (safeUserData addresses.channels admins.toList includeNode nonce).values)))
  | call => sharedMessage crate me addresses call

/-- A registry write, behind the approval of its burn if there is one. -/
def paidWrite (burn : HoprBalance) (call : Call) : List ChainMessage :=
  (if burn.isZero then []
    else [.ofCall addresses.token (approveCall addresses.serviceRegistry burn.amount)]) ++
    [.ofCall addresses.serviceRegistry call]

variable (module : Address)

/-- The message of the Safe generator, `none` where it refuses the call. -/
def safeMessage : PayloadCall Multiaddr → Option ChainMessage
  | .fundChannel dest amount =>
      if amount.amount.toNat > ChannelBuilder.maxFundingAmount then none
      else (withOther me addresses dest
        (fundChannelSafeCall me dest (BitVec.setWidth 96 amount.amount))).map
          (.throughModule module)
  | .closeIncomingChannel source =>
      (withOther me addresses source (closeIncomingChannelSafeCall me source)).map
        (.throughModule module)
  | .initiateOutgoingChannelClosure destination =>
      (withOther me addresses destination
        (initiateOutgoingChannelClosureSafeCall me destination)).map (.throughModule module)
  | .finalizeOutgoingChannelClosure destination =>
      (withOther me addresses destination
        (finalizeOutgoingChannelClosureSafeCall me destination)).map (.throughModule module)
  | .redeemTicket ackedTicket =>
      (redemption curve me addresses (redeemTicketSafeCall me) ackedTicket).map
        (.throughModule module)
  | .registerSafeByNode safeAddr =>
      some (.ofCall addresses.nodeSafeRegistry (registerSafeByNodeCall safeAddr))
  | .deregisterNodeBySafe => some (.ofCall module (deregisterNodeBySafeCall me))
  | .registerService serviceType metadata burn =>
      some (.batched module multiSendAddress (paidWrite addresses burn
        (selfRegisterCall serviceType.asEncoded me metadata.asRef)))
  | .updateService serviceType metadata burn =>
      some (.batched module multiSendAddress (paidWrite addresses burn
        (selfUpdateCall serviceType.asEncoded me metadata.asRef)))
  | .deploySafe _ _ _ _ => none
  | call => (sharedMessage crate me addresses call).map (.throughModule module)

end

end HoprTypes.Chain
