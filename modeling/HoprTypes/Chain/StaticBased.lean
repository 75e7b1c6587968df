import HoprTypes.Chain.Payload

/-!
# Payload generators with manual ABI encoding

Call data is assembled by hand from hardcoded selectors and 32-byte words.
-/

set_option autoImplicit false

namespace HoprTypes.Chain.StaticBased

open BigEndian HoprTypes.Primitive HoprTypes.Crypto HoprTypes.Internal

abbrev Word := FixedBytes 32

/-! ## Function selectors -/

namespace Selectors

def approve : FixedBytes 4 := beBytes 4 0x095ea7b3
def transfer : FixedBytes 4 := beBytes 4 0xa9059cbb
def send : FixedBytes 4 := beBytes 4 0x9bd9bbc6
def registerSafeByNode : FixedBytes 4 := beBytes 4 0x7f935931
def deregisterNodeBySafe : FixedBytes 4 := beBytes 4 0x91607c4c
def selfRegister : FixedBytes 4 := beBytes 4 0x326005af
def selfUpdate : FixedBytes 4 := beBytes 4 0x210c3298
def selfDeregister : FixedBytes 4 := beBytes 4 0x1e46f907
def multiSend : FixedBytes 4 := beBytes 4 0x8d80ff0a
def execTransactionFromModule : FixedBytes 4 := beBytes 4 0x468721a7
def fundChannel : FixedBytes 4 := beBytes 4 0xfc55309a
def fundChannelSafe : FixedBytes 4 := beBytes 4 0x0abec58f
def closeIncomingChannel : FixedBytes 4 := beBytes 4 0x1a7ffe7a
def closeIncomingChannelSafe : FixedBytes 4 := beBytes 4 0x54a2edf5
def initiateOutgoingChannelClosure : FixedBytes 4 := beBytes 4 0x7c8e28da
def initiateOutgoingChannelClosureSafe : FixedBytes 4 := beBytes 4 0xbda65f45
def finalizeOutgoingChannelClosure : FixedBytes 4 := beBytes 4 0x23cb3ac0
def finalizeOutgoingChannelClosureSafe : FixedBytes 4 := beBytes 4 0x651514bf
def redeemTicket : FixedBytes 4 := beBytes 4 0xeb13eb11
def redeemTicketSafe : FixedBytes 4 := beBytes 4 0xab9b6ba7

end Selectors

/-! ## ABI encoding helpers -/

def zeroWord : Word := beBytes 32 0

def rightAlign32 (data : Bytes) : Word := beBytes 32 (ofBE data)

def addr32 (address : Address) : Word := rightAlign32 address.toList

/-- The low `keep` bytes of a big-endian integer. -/
def truncatedWord (full : Bytes) (keep : Nat) : Word :=
  rightAlign32 (full.drop (full.length - keep))

/-- A length or an offset; it is cast to 64 bits first. -/
def wordUsize (value : Nat) : Word := rightAlign32 (toBE 8 value)

def toBeWord (value : U256) : Word := beBytes 32 value.toNat

/-- The length word and the zero-padded data. -/
def abiDynTail (data : Bytes) : Bytes :=
  let pad := (32 - data.length % 32) % 32
  (wordUsize data.length).toList ++ (data ++ List.replicate pad 0)

def wordBytes (words : List Word) : Bytes := words.flatMap FixedBytes.toList

def staticCall (selector : FixedBytes 4) (words : List Word) : Bytes :=
  selector.toList ++ wordBytes words

def callWithBytes (selector : FixedBytes 4) (staticWords : List Word) (data : Bytes) : Bytes :=
  let offset := (staticWords.length + 1) * 32
  selector.toList ++ (wordBytes staticWords ++ ((wordUsize offset).toList ++ abiDynTail data))

/-! ## Specific ABI call encoders -/

def encodeApprove (spender : Address) (amount : Word) : Bytes :=
  staticCall Selectors.approve [addr32 spender, amount]

def encodeTransfer (recipient : Address) (amount : Word) : Bytes :=
  staticCall Selectors.transfer [addr32 recipient, amount]

def encodeSend (recipient : Address) (amount : Word) (data : Bytes) : Bytes :=
  callWithBytes Selectors.send [addr32 recipient, amount] data

def encodeErc777Payload : Erc777Payload → Bytes
  | .curvy (.directShield aggregator note) =>
      (addr32 aggregator).toList ++
        (wordBytes ([note.ownerHash, note.token, note.amount, note.ephemeralKey.1,
            note.ephemeralKey.2].map toBeWord) ++
          (rightAlign32 (toBeBytes 2 note.viewTag)).toList)

def encodeRegisterSafeByNode (safeAddr : Address) : Bytes :=
  staticCall Selectors.registerSafeByNode [addr32 safeAddr]

def encodeDeregisterNodeBySafe (nodeAddr : Address) : Bytes :=
  staticCall Selectors.deregisterNodeBySafe [addr32 nodeAddr]

def encodeExecFromModuleWithOperation (toAddress : Address) (value : Word) (callData : Bytes)
    (operation : UInt8) : Bytes :=
  let offset := 4 * 32
  Selectors.execTransactionFromModule.toList ++ ((addr32 toAddress).toList ++ (value.toList ++
    ((wordUsize offset).toList ++ ((rightAlign32 [operation]).toList ++ abiDynTail callData))))

def encodeExecFromModule (toAddress : Address) (value : Word) (callData : Bytes) : Bytes :=
  encodeExecFromModuleWithOperation toAddress value callData 0

def encodeServiceWrite (selector : FixedBytes 4) (serviceType : ServiceType) (node : Address)
    (metadata : Bytes) : Bytes :=
  callWithBytes selector [serviceType.asEncoded, addr32 node] metadata

def encodeServiceDeregister (serviceType : ServiceType) (node : Address) : Bytes :=
  staticCall Selectors.selfDeregister [serviceType.asEncoded, addr32 node]

def encodeMultiSendTransaction (toAddress : Address) (data : Bytes) : Bytes :=
  (0 : UInt8) :: (toAddress.toList ++ (List.replicate 32 0 ++
    ((wordUsize data.length).toList ++ data)))

def safeMultiSendAddress : Address := beBytes 20 0x38869bf66a61cf6bdb996a6ae40d5853fd43b526

/-- The registry call, behind an approval of the burn if there is one. -/
def paidServiceRegistryPayload (token registry : Address) (registryCall : Bytes)
    (burn : HoprBalance) : Bytes :=
  let approval :=
    if burn.isZero then []
    else encodeMultiSendTransaction token (encodeApprove registry (toBeWord burn.amount))
  let transactions := approval ++ encodeMultiSendTransaction registry registryCall
  let multiSend := callWithBytes Selectors.multiSend [] transactions
  encodeExecFromModuleWithOperation safeMultiSendAddress zeroWord multiSend 1

def encodeFundChannel (account : Address) (amountWord : Word) : Bytes :=
  staticCall Selectors.fundChannel [addr32 account, amountWord]

def encodeFundChannelSafe (selfAddr account : Address) (amountWord : Word) : Bytes :=
  staticCall Selectors.fundChannelSafe [addr32 selfAddr, addr32 account, amountWord]

def encodeCloseIncomingChannel (source : Address) : Bytes :=
  staticCall Selectors.closeIncomingChannel [addr32 source]

def encodeCloseIncomingChannelSafe (selfAddr source : Address) : Bytes :=
  staticCall Selectors.closeIncomingChannelSafe [addr32 selfAddr, addr32 source]

def encodeInitiateOutgoingChannelClosure (destination : Address) : Bytes :=
  staticCall Selectors.initiateOutgoingChannelClosure [addr32 destination]

def encodeInitiateOutgoingChannelClosureSafe (selfAddr destination : Address) : Bytes :=
  staticCall Selectors.initiateOutgoingChannelClosureSafe [addr32 selfAddr, addr32 destination]

def encodeFinalizeOutgoingChannelClosure (destination : Address) : Bytes :=
  staticCall Selectors.finalizeOutgoingChannelClosure [addr32 destination]

def encodeFinalizeOutgoingChannelClosureSafe (selfAddr destination : Address) : Bytes :=
  staticCall Selectors.finalizeOutgoingChannelClosureSafe [addr32 selfAddr, addr32 destination]

/-! ## Ticket redemption -/

def pointXyWords {ε : Type} (uncompressedPoint : Bytes) : Outcome ε (Word × Word) := do
  let x ← indexRange uncompressedPoint 1 33
  let y ← indexRange uncompressedPoint 33 65
  .ok (rightAlign32 x, rightAlign32 y)

def split64 (bytes : FixedBytes 64) : Word × Word :=
  (rightAlign32 (slice bytes.toList 0 32), rightAlign32 (slice bytes.toList 32 32))

/-- The words of the ticket: its data, the signature and the Proof-of-Relay secret. -/
def redeemableTicketWords (ackedTicket : RedeemableTicket) :
    Except ChainTypesError (List Word) := do
  let ticket := ackedTicket.ticket.ticket
  let signature ← okOr (.invalidArguments "Acknowledged ticket must be signed") ticket.signature
  let channelId ← (tryFromSlice 32 "channel_id" ackedTicket.ticket.channelId.toList).mapErr
    fun _ => ChainTypesError.invalidArguments "channel_id length"
  let amountWord := truncatedWord (toBeBytes 32 ticket.amount.amount) 12
  let indexWord := truncatedWord (toBeBytes 8 ticket.index) 6
  let epochWord := truncatedWord (toBeBytes 4 ticket.channelEpoch) 3
  let winProbWord := rightAlign32 ticket.encodedWinProb.toList
  let (r, vs) := split64 signature.bytes
  let porSecret := rightAlign32 ackedTicket.response.bytes.toList
  .ok [channelId, amountWord, indexWord, epochWord, winProbWord, r, vs, porSecret]

variable (curve : Secp256k1)

def vrfParametersWords (ackedTicket : RedeemableTicket) (me : Address) :
    Outcome ChainTypesError (List Word) := do
  let params := ackedTicket.vrfParams
  let (vx, vy) ← pointXyWords params.getVEncodedPoint
  let ticketHash ← .lift ((tryFromSlice 32 "hash" ackedTicket.ticket.hash.toList).mapErr
    fun _ => ChainTypesError.invalidArguments "ticket hash length")
  let sB ← .lift ((params.getSBWitness curve me ticketHash ackedTicket.channelDst.toList).mapErr
    fun _ => ChainTypesError.invalidArguments "VRF s_b witness computation failed")
  let (sbx, sby) ← pointXyWords sB
  let (hvx, hvy) ← pointXyWords (params.getHVWitness curve)
  let (ax, ay) ← pointXyWords params.getAEncodedPoint
  let (sgx, sgy) ← pointXyWords (params.getSGWitness curve)
  let (hax, hay) ← pointXyWords (params.getHAWitness curve)
  let sW := rightAlign32 (Scalar.toBytes params.s).toList
  let hW := rightAlign32 (Scalar.toBytes params.h).toList
  .ok [vx, vy, sW, hW, sbx, sby, hvx, hvy, ax, ay, sgx, sgy, hax, hay]

def redeemTicketWords (ackedTicket : RedeemableTicket) (me : Address) :
    Outcome ChainTypesError (List Word) := do
  let ticketWords ← .lift (redeemableTicketWords ackedTicket)
  let vrfWords ← vrfParametersWords curve ackedTicket me
  .ok (ticketWords ++ vrfWords)

def encodeRedeemTicket (ackedTicket : RedeemableTicket) (me : Address) :
    Outcome ChainTypesError Bytes := do
  let words ← redeemTicketWords curve ackedTicket me
  .ok (staticCall Selectors.redeemTicket words)

def encodeRedeemTicketSafe (selfAddr : Address) (ackedTicket : RedeemableTicket) (me : Address) :
    Outcome ChainTypesError Bytes := do
  let words ← redeemTicketWords curve ackedTicket me
  .ok (staticCall Selectors.redeemTicketSafe (addr32 selfAddr :: words))

/-! ## Structures behind dynamic parameters -/

def encodeKeyBindAnnounceBody (callerNode : Address) (sig0 sig1 pubKey : Word)
    (multiaddress : Bytes) : Bytes :=
  let offset := 5 * 32
  (addr32 callerNode).toList ++ (sig0.toList ++ (sig1.toList ++ (pubKey.toList ++
    ((wordUsize offset).toList ++ abiDynTail multiaddress))))

def encodeUserDataBody (functionId nonce defaultTarget : Word) (admins : List Address) : Bytes :=
  let offset := 4 * 32
  functionId.toList ++ (nonce.toList ++ (defaultTarget.toList ++ ((wordUsize offset).toList ++
    ((wordUsize admins.length).toList ++ wordBytes (admins.map addr32)))))

def capabilityPermissions : FixedBytes 12 := beBytes 12 0x010103030303030303030303

def makeDefaultTarget (channels : Address) : Word :=
  ⟨channels.toList ++ capabilityPermissions.toList, by simp⟩

/-! ## Transaction requests -/

structure TransactionRequest where
  toAddress : Option Address := none
  input : Bytes := []
  value : Word := zeroWord
  gasLimit : Option U64 := none
deriving DecidableEq

namespace TransactionRequest

def withTo (request : TransactionRequest) (toAddress : Address) : TransactionRequest :=
  { request with toAddress := some toAddress }

def withInput (request : TransactionRequest) (input : Bytes) : TransactionRequest :=
  { request with input := input }

def withValue (request : TransactionRequest) (value : Word) : TransactionRequest :=
  { request with value := value }

def withGasLimit (request : TransactionRequest) (gas : U64) : TransactionRequest :=
  { request with gasLimit := some gas }

end TransactionRequest

def transferTx (currency : Currency) (destination : Address) (amount : Balance currency) :
    Except ChainTypesError TransactionRequest :=
  let amountWord := toBeWord amount.amount
  if XDai.is currency then .ok (TransactionRequest.withValue {} amountWord)
  else if WxHOPR.is currency then
    .ok (TransactionRequest.withInput {} (encodeTransfer destination amountWord))
  else .error (.invalidArguments "invalid currency")

variable {Multiaddr : Type} (crate : MultiaddrCrate Multiaddr)

def announceCallData (me announcements : Address) (announcement : AnnouncementData Multiaddr)
    (keyBindingFee : HoprBalance) : Bytes :=
  let (sig0, sig1) := split64 announcement.keyBinding.signature
  let pubKey := rightAlign32 announcement.keyBinding.packetKey.toList
  let multiaddrStr := announcement.addressText crate
  let inner := encodeKeyBindAnnounceBody me sig0 sig1 pubKey multiaddrStr
  encodeSend announcements (toBeWord keyBindingFee.amount) inner

def defaultTxGas : U64 := 400000

/-! ## The basic generator -/

structure BasicPayloadGenerator where
  me : Address
  contractAddrs : ContractAddresses

namespace BasicPayloadGenerator

variable (generator : BasicPayloadGenerator)

def approve (spender : Address) (amount : HoprBalance) : TransactionRequest :=
  (TransactionRequest.withInput {} (encodeApprove spender (toBeWord amount.amount))).withTo
    generator.contractAddrs.token

def transfer (currency : Currency) (destination : Address) (amount : Balance currency) :
    Except ChainTypesError TransactionRequest :=
  if XDai.is currency then
    (transferTx currency destination amount).map fun request => request.withTo destination
  else if WxHOPR.is currency then
    (transferTx currency destination amount).map fun request =>
      request.withTo generator.contractAddrs.token
  else .error (.invalidArguments "invalid currency")

def sendErc777 (recipient : Address) (amount : HoprBalance) (payload : Erc777Payload) :
    TransactionRequest :=
  let data := encodeErc777Payload payload
  (TransactionRequest.withInput {} (encodeSend recipient (toBeWord amount.amount) data)).withTo
    generator.contractAddrs.token

def announce (announcement : AnnouncementData Multiaddr) (keyBindingFee : HoprBalance) :
    TransactionRequest :=
  let callData := announceCallData crate generator.me generator.contractAddrs.announcements
    announcement keyBindingFee
  (TransactionRequest.withInput {} callData).withTo generator.contractAddrs.token

def channelTx (other : Address) (message : String) (callData : Bytes) :
    Except ChainTypesError TransactionRequest :=
  if other = generator.me then .error (.invalidArguments message)
  else .ok ((TransactionRequest.withInput {} callData).withTo generator.contractAddrs.channels)

/-- The amount is cut to its low 12 bytes without a check. -/
def fundChannel (dest : Address) (amount : HoprBalance) :
    Except ChainTypesError TransactionRequest :=
  let amountWord := truncatedWord (toBeBytes 32 amount.amount) 12
  generator.channelTx dest "Cannot fund channel to self" (encodeFundChannel dest amountWord)

def closeIncomingChannel (source : Address) : Except ChainTypesError TransactionRequest :=
  generator.channelTx source "Cannot close incoming channel from self"
    (encodeCloseIncomingChannel source)

def initiateOutgoingChannelClosure (destination : Address) :
    Except ChainTypesError TransactionRequest :=
  generator.channelTx destination "Cannot initiate closure of incoming channel to self"
    (encodeInitiateOutgoingChannelClosure destination)

def finalizeOutgoingChannelClosure (destination : Address) :
    Except ChainTypesError TransactionRequest :=
  generator.channelTx destination "Cannot finalize closure of outgoing channel to self"
    (encodeFinalizeOutgoingChannelClosure destination)

def redeemTicket (ackedTicket : RedeemableTicket) :
    Outcome ChainTypesError TransactionRequest := do
  let callData ← encodeRedeemTicket curve ackedTicket generator.me
  .ok ((TransactionRequest.withInput {} callData).withTo generator.contractAddrs.channels)

def registerSafeByNode (safeAddr : Address) : TransactionRequest :=
  (TransactionRequest.withInput {} (encodeRegisterSafeByNode safeAddr)).withTo
    generator.contractAddrs.nodeSafeRegistry

def deregisterNodeBySafe : Except ChainTypesError TransactionRequest :=
  .error (.invalidState "Can only deregister an address if Safe is activated")

/-- A write to the service registry, which this generator can only make without a burn. -/
def serviceWrite (selector : FixedBytes 4) (serviceType : ServiceType)
    (metadata : ServiceMetadata) (burn : HoprBalance) :
    Except ChainTypesError TransactionRequest :=
  if burn.isZero then
    .ok ((TransactionRequest.withInput {}
      (encodeServiceWrite selector serviceType generator.me metadata.asRef)).withTo
        generator.contractAddrs.serviceRegistry)
  else .error (.invalidState "paid service writes require a Safe payload generator")

def registerService (serviceType : ServiceType) (metadata : ServiceMetadata)
    (registrationBurn : HoprBalance) : Except ChainTypesError TransactionRequest :=
  generator.serviceWrite Selectors.selfRegister serviceType metadata registrationBurn

def updateService (serviceType : ServiceType) (metadata : ServiceMetadata)
    (updateBurn : HoprBalance) : Except ChainTypesError TransactionRequest :=
  generator.serviceWrite Selectors.selfUpdate serviceType metadata updateBurn

def deregisterService (serviceType : ServiceType) : TransactionRequest :=
  (TransactionRequest.withInput {} (encodeServiceDeregister serviceType generator.me)).withTo
    generator.contractAddrs.serviceRegistry

def deploySafe (balance : HoprBalance) (admins : List Address) (includeNode : Bool)
    (nonce : FixedBytes 32) : TransactionRequest :=
  let functionId : Word :=
    if includeNode then
      beBytes 32 0x0105b97dcdf19d454ebe36f91ed516c2b90ee79f4a46af96a0138c1f5403c1cc
    else beBytes 32 0xdd24c144db91d1bc600aac99393baf8f8c664ba461188f057e37f2c37b962b45
  let defaultTarget := makeDefaultTarget generator.contractAddrs.channels
  let userData := encodeUserDataBody functionId nonce defaultTarget admins
  let txPayload := encodeSend generator.contractAddrs.nodeStakeFactory (toBeWord balance.amount)
    userData
  (TransactionRequest.withTo {} generator.contractAddrs.token).withInput txPayload

def generate : PayloadCall Multiaddr → Outcome ChainTypesError TransactionRequest
  | .approve spender amount => .ok (generator.approve spender amount)
  | .transfer currency destination amount => .lift (generator.transfer currency destination amount)
  | .sendErc777 recipient amount payload => .ok (generator.sendErc777 recipient amount payload)
  | .announce announcement fee => .ok (generator.announce crate announcement fee)
  | .fundChannel dest amount => .lift (generator.fundChannel dest amount)
  | .closeIncomingChannel source => .lift (generator.closeIncomingChannel source)
  | .initiateOutgoingChannelClosure destination =>
      .lift (generator.initiateOutgoingChannelClosure destination)
  | .finalizeOutgoingChannelClosure destination =>
      .lift (generator.finalizeOutgoingChannelClosure destination)
  | .redeemTicket ackedTicket => generator.redeemTicket curve ackedTicket
  | .registerSafeByNode safeAddr => .ok (generator.registerSafeByNode safeAddr)
  | .deregisterNodeBySafe => .lift deregisterNodeBySafe
  | .registerService serviceType metadata burn =>
      .lift (generator.registerService serviceType metadata burn)
  | .updateService serviceType metadata burn =>
      .lift (generator.updateService serviceType metadata burn)
  | .deregisterService serviceType => .ok (generator.deregisterService serviceType)
  | .deploySafe balance admins includeNode nonce =>
      .ok (generator.deploySafe balance admins.toList includeNode nonce)

end BasicPayloadGenerator

/-! ## The Safe generator -/

structure SafePayloadGenerator where
  me : Address
  contractAddrs : ContractAddresses
  module : Address

namespace SafePayloadGenerator

variable (generator : SafePayloadGenerator)

def moduleExecTx (toAddress : Address) (value : Word) (callData : Bytes) : TransactionRequest :=
  ((TransactionRequest.withInput {} (encodeExecFromModule toAddress value callData)).withTo
    generator.module).withGasLimit defaultTxGas

def approve (spender : Address) (amount : HoprBalance) : TransactionRequest :=
  let callData := encodeApprove spender (toBeWord amount.amount)
  generator.moduleExecTx generator.contractAddrs.token zeroWord callData

def transfer (currency : Currency) (destination : Address) (amount : Balance currency) :
    Except ChainTypesError TransactionRequest :=
  let amountWord := toBeWord amount.amount
  if XDai.is currency then .ok (generator.moduleExecTx destination amountWord [])
  else if WxHOPR.is currency then
    .ok (generator.moduleExecTx generator.contractAddrs.token zeroWord
      (encodeTransfer destination amountWord))
  else .error (.invalidArguments "invalid currency")

def sendErc777 (recipient : Address) (amount : HoprBalance) (payload : Erc777Payload) :
    TransactionRequest :=
  let data := encodeErc777Payload payload
  let callData := encodeSend recipient (toBeWord amount.amount) data
  generator.moduleExecTx generator.contractAddrs.token zeroWord callData

def announce (announcement : AnnouncementData Multiaddr) (keyBindingFee : HoprBalance) :
    TransactionRequest :=
  let callData := announceCallData crate generator.me generator.contractAddrs.announcements
    announcement keyBindingFee
  generator.moduleExecTx generator.contractAddrs.token zeroWord callData

def fundChannel (dest : Address) (amount : HoprBalance) :
    Except ChainTypesError TransactionRequest :=
  if dest = generator.me then .error (.invalidArguments "cannot fund channel to self")
  else if amount.amount.toNat > ChannelBuilder.maxFundingAmount then
    .error (.invalidArguments "cannot fund channel with amount larger than MAX_FUNDING_AMOUNT")
  else
    let amountWord := truncatedWord (toBeBytes 32 amount.amount) 12
    let callData := encodeFundChannelSafe generator.me dest amountWord
    .ok (generator.moduleExecTx generator.contractAddrs.channels zeroWord callData)

def channelTx (other : Address) (message : String) (callData : Bytes) :
    Except ChainTypesError TransactionRequest :=
  if other = generator.me then .error (.invalidArguments message)
  else .ok (generator.moduleExecTx generator.contractAddrs.channels zeroWord callData)

def closeIncomingChannel (source : Address) : Except ChainTypesError TransactionRequest :=
  generator.channelTx source "Cannot close incoming channel from self"
    (encodeCloseIncomingChannelSafe generator.me source)

def initiateOutgoingChannelClosure (destination : Address) :
    Except ChainTypesError TransactionRequest :=
  generator.channelTx destination "Cannot initiate closure of incoming channel to self"
    (encodeInitiateOutgoingChannelClosureSafe generator.me destination)

def finalizeOutgoingChannelClosure (destination : Address) :
    Except ChainTypesError TransactionRequest :=
  generator.channelTx destination "Cannot finalize closure of outgoing channel to self"
    (encodeFinalizeOutgoingChannelClosureSafe generator.me destination)

def redeemTicket (ackedTicket : RedeemableTicket) :
    Outcome ChainTypesError TransactionRequest := do
  let callData ← encodeRedeemTicketSafe curve generator.me ackedTicket generator.me
  .ok (generator.moduleExecTx generator.contractAddrs.channels zeroWord callData)

def registerSafeByNode (safeAddr : Address) : TransactionRequest :=
  ((TransactionRequest.withInput {} (encodeRegisterSafeByNode safeAddr)).withTo
    generator.contractAddrs.nodeSafeRegistry).withGasLimit defaultTxGas

def deregisterNodeBySafe : TransactionRequest :=
  ((TransactionRequest.withInput {} (encodeDeregisterNodeBySafe generator.me)).withTo
    generator.module).withGasLimit defaultTxGas

/-- A write to the service registry, bundled with the approval of its burn. -/
def serviceWrite (selector : FixedBytes 4) (serviceType : ServiceType)
    (metadata : ServiceMetadata) (burn : HoprBalance) : TransactionRequest :=
  let call := encodeServiceWrite selector serviceType generator.me metadata.asRef
  ((TransactionRequest.withInput {} (paidServiceRegistryPayload generator.contractAddrs.token
    generator.contractAddrs.serviceRegistry call burn)).withTo
      generator.module).withGasLimit defaultTxGas

def registerService (serviceType : ServiceType) (metadata : ServiceMetadata)
    (registrationBurn : HoprBalance) : TransactionRequest :=
  generator.serviceWrite Selectors.selfRegister serviceType metadata registrationBurn

def updateService (serviceType : ServiceType) (metadata : ServiceMetadata)
    (updateBurn : HoprBalance) : TransactionRequest :=
  generator.serviceWrite Selectors.selfUpdate serviceType metadata updateBurn

def deregisterService (serviceType : ServiceType) : TransactionRequest :=
  let call := encodeServiceDeregister serviceType generator.me
  generator.moduleExecTx generator.contractAddrs.serviceRegistry zeroWord call

def deploySafe : Except ChainTypesError TransactionRequest :=
  .error (.invalidState "cannot deploy Safe from SafePayloadGenerator")

def generate : PayloadCall Multiaddr → Outcome ChainTypesError TransactionRequest
  | .approve spender amount => .ok (generator.approve spender amount)
  | .transfer currency destination amount => .lift (generator.transfer currency destination amount)
  | .sendErc777 recipient amount payload => .ok (generator.sendErc777 recipient amount payload)
  | .announce announcement fee => .ok (generator.announce crate announcement fee)
  | .fundChannel dest amount => .lift (generator.fundChannel dest amount)
  | .closeIncomingChannel source => .lift (generator.closeIncomingChannel source)
  | .initiateOutgoingChannelClosure destination =>
      .lift (generator.initiateOutgoingChannelClosure destination)
  | .finalizeOutgoingChannelClosure destination =>
      .lift (generator.finalizeOutgoingChannelClosure destination)
  | .redeemTicket ackedTicket => generator.redeemTicket curve ackedTicket
  | .registerSafeByNode safeAddr => .ok (generator.registerSafeByNode safeAddr)
  | .deregisterNodeBySafe => .ok generator.deregisterNodeBySafe
  | .registerService serviceType metadata burn =>
      .ok (generator.registerService serviceType metadata burn)
  | .updateService serviceType metadata burn =>
      .ok (generator.updateService serviceType metadata burn)
  | .deregisterService serviceType => .ok (generator.deregisterService serviceType)
  | .deploySafe _ _ _ _ => .lift deploySafe

end SafePayloadGenerator

end HoprTypes.Chain.StaticBased
