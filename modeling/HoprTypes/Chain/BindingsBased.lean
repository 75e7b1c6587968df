import HoprTypes.Chain.Contracts

/-!
# Payload generators over the contract bindings

Call data is the ABI encoding of typed calls, which the bindings library makes.
-/

set_option autoImplicit false

namespace HoprTypes.Chain.BindingsBased

open BigEndian Abi HoprTypes.Primitive HoprTypes.Crypto HoprTypes.Internal Contracts

/-- What the generators use of the text forms of the bindings library. -/
structure AlloyText where
  /-- The debug output of an address. -/
  debugAddress : Address → String
  u256FromStr : String → Except String U256

/-- Addresses print as prefixed hexadecimal digits, and such digits are read as one number. -/
structure AlloyText.Lawful (text : AlloyText) : Prop where
  reads : ∀ (address : Address) (suffix : FixedBytes 12),
    text.u256FromStr (text.debugAddress address ++ hexEncode suffix.toList) =
      .ok (BitVec.ofNat 256 (ofBE (address.toList ++ suffix.toList)))

/-- An integer of the bindings library from at most as many big-endian bytes as it has. -/
abbrev fromBeSlice (bits : Nat) (bytes : Bytes) : BitVec bits := fromBeBytes bits bytes

def toBe32 (value : U256) : Bytes := toBeBytes 32 value

/-- The hash or key type of 32 bytes, from a slice of that length. -/
def b256FromSlice (bytes : FixedBytes 64) (half : Fin 2) : FixedBytes 32 :=
  ⟨slice bytes.toList (32 * half.val) 32, length_slice (by
    rw [bytes.length_toList]
    omega)⟩

/-! ## Transaction requests -/

structure TransactionRequest where
  toAddress : Option Address := none
  input : Option Bytes := none
  value : Option U256 := none
  gasLimit : Option U64 := none
deriving DecidableEq

namespace TransactionRequest

def withTo (request : TransactionRequest) (toAddress : Address) : TransactionRequest :=
  { request with toAddress := some toAddress }

def withInput (request : TransactionRequest) (input : Bytes) : TransactionRequest :=
  { request with input := some input }

def withValue (request : TransactionRequest) (value : U256) : TransactionRequest :=
  { request with value := some value }

def withGasLimit (request : TransactionRequest) (gas : U64) : TransactionRequest :=
  { request with gasLimit := some gas }

end TransactionRequest

inductive Operation where
  | call
  | delegateCall
deriving DecidableEq

def Operation.asU8 : Operation → BitVec 8
  | .call => 0
  | .delegateCall => 1

/-! ## Shared call data -/

def encodeErc777Payload : Erc777Payload → Bytes
  | .curvy (.directShield aggregator note) =>
      let word := fun value => fromBeSlice 256 (toBe32 value)
      let note : CurvyNote :=
        { ownerHash := word note.ownerHash
          token := word note.token
          amount := word note.amount
          ephemeralKey := (word note.ephemeralKey.1, word note.ephemeralKey.2)
          viewTag := note.viewTag }
      encodeValues [.address, curvyNoteTy] (aggregator, curvyNoteValues note, ())

def safeMultiSendAddress : Address := beBytes 20 0x38869bf66a61cF6bDB996A6aE40D5853Fd43B526

def modulePayload (target : Address) (value : U256) (callData : Bytes) : Bytes :=
  (execTransactionFromModuleCall target value callData Operation.call.asU8).encode

def channelsPayload (hoprChannels : Address) (callData : Bytes) : Bytes :=
  modulePayload hoprChannels 0 callData

def approveTx (spender : Address) (amount : HoprBalance) : TransactionRequest :=
  TransactionRequest.withInput {}
    (approveCall spender (fromBeSlice 256 (toBe32 amount.amount))).encode

def transferTx (currency : Currency) (destination : Address) (amount : Balance currency) :
    Outcome ChainTypesError TransactionRequest :=
  let amountU256 := fromBeSlice 256 (toBe32 amount.amount)
  if WxHOPR.is currency then
    .ok (TransactionRequest.withInput {} (transferCall destination amountU256).encode)
  else if XDai.is currency then .ok (TransactionRequest.withValue {} amountU256)
  else Outcome.panicked "other currencies are currently not supported"

def registerSafeTx (safeAddr : Address) : TransactionRequest :=
  TransactionRequest.withInput {} (registerSafeByNodeCall safeAddr).encode

def encodeMultiSendTransaction (toAddress : Address) (data : Bytes) : Bytes :=
  UInt8.ofNat Operation.call.asU8.toNat :: (toAddress.toList ++ (List.replicate 32 0 ++
    (toBe32 (BitVec.ofNat 256 data.length) ++ data)))

def serviceRegistryCall (serviceType : ServiceType) (node : Address)
    (metadata : Option ServiceMetadata) (update : Bool) : Bytes :=
  let serviceType := serviceType.asEncoded
  match metadata with
  | some metadata =>
      if update then (selfUpdateCall serviceType node metadata.asRef).encode
      else (selfRegisterCall serviceType node metadata.asRef).encode
  | none => (selfDeregisterCall serviceType node).encode

def paidServiceRegistryPayload (token registry : Address) (registryCall : Bytes)
    (burn : HoprBalance) : Bytes :=
  let approval :=
    if burn.isZero then []
    else encodeMultiSendTransaction token
      (approveCall registry (fromBeSlice 256 (toBe32 burn.amount))).encode
  let transactions := approval ++ encodeMultiSendTransaction registry registryCall
  let multiSend := (multiSendCall transactions).encode
  (execTransactionFromModuleCall safeMultiSendAddress 0 multiSend
    Operation.delegateCall.asU8).encode

/-! ## Ticket redemption -/

def coordinate {ε : Type} (point : Bytes) (first last : Nat) : Outcome ε U256 :=
  (indexRange point first last).map (fromBeSlice 256)

def convertVrfParameters {ε : Type} (curve : Secp256k1) (offChain : VrfParameters)
    (signer : Address) (ticketHash domainSeparator : Hash) : Outcome ε VRFParameters := do
  let v := offChain.getVEncodedPoint
  let sB ← Outcome.expect
    "ticket hash exceeded hash2field boundaries or encoding to unsupported curve"
    (offChain.getSBWitness curve signer ticketHash domainSeparator.toList)
  let hV := offChain.getHVWitness curve
  let a := offChain.getAEncodedPoint
  let sG := offChain.getSGWitness curve
  let hA := offChain.getHAWitness curve
  .ok
    { vx := ← coordinate v 1 33
      vy := ← coordinate v 33 65
      s := fromBeSlice 256 (Scalar.toBytes offChain.s).toList
      h := fromBeSlice 256 (Scalar.toBytes offChain.h).toList
      sBx := ← coordinate sB 1 33
      sBy := ← coordinate sB 33 65
      hVx := ← coordinate hV 1 33
      hVy := ← coordinate hV 33 65
      ax := ← coordinate a 1 33
      ay := ← coordinate a 33 65
      sGx := ← coordinate sG 1 33
      sGy := ← coordinate sG 33 65
      hAx := ← coordinate hA 1 33
      hAy := ← coordinate hA 33 65 }

def convertAcknowledgedTicket (offChain : Internal.RedeemableTicket) :
    Except ChainTypesError Contracts.RedeemableTicket :=
  let ticket := offChain.ticket.ticket
  match ticket.signature with
  | some signature =>
      .ok
        { data :=
            { channelId := offChain.ticket.channelId
              amount := fromBeSlice 96 ((toBeBytes 32 ticket.amount.amount).drop (32 - 12))
              ticketIndex := fromBeSlice 48 ((toBeBytes 8 ticket.index).drop (8 - 6))
              epoch := fromBeSlice 24 ((toBeBytes 4 ticket.channelEpoch).drop (4 - 3))
              winProb := fromBeSlice 56 ticket.encodedWinProb.toList }
          signature :=
            { r := b256FromSlice signature.bytes 0
              vs := b256FromSlice signature.bytes 1 }
          porSecret := fromBeSlice 256 offChain.response.bytes.toList }
  | none => .error (.invalidArguments "Acknowledged ticket must be signed")

/-! ## Announcements -/

variable {Multiaddr : Type} (crate : MultiaddrCrate Multiaddr)

/-- The `send` call that binds the keys and announces, with the tail of the encoded payload. -/
def announceCall (me announcements : Address) (announcement : AnnouncementData Multiaddr)
    (keyBindingFee : HoprBalance) : Call :=
  let serializedSignature := announcement.keyBinding.signature
  let payload : KeyBindAndAnnouncePayload :=
    { callerNode := me
      ed25519Sig0 := b256FromSlice serializedSignature 0
      ed25519Sig1 := b256FromSlice serializedSignature 1
      ed25519PubKey := announcement.keyBinding.packetKey
      multiaddress := announcement.addressText crate }
  let innerPayload := encodeSingle keyBindAndAnnouncePayloadTy payload.values
  sendCall announcements (fromBeSlice 256 (toBe32 keyBindingFee.amount)) (innerPayload.drop 32)

def defaultTxGas : U64 := 400000

variable (curve : Secp256k1) (text : AlloyText)

/-! ## The basic generator -/

structure BasicPayloadGenerator where
  me : Address
  contractAddrs : ContractAddresses

namespace BasicPayloadGenerator

variable (generator : BasicPayloadGenerator)

def approve (spender : Address) (amount : HoprBalance) : TransactionRequest :=
  (approveTx spender amount).withTo generator.contractAddrs.token

def transfer (currency : Currency) (destination : Address) (amount : Balance currency) :
    Outcome ChainTypesError TransactionRequest :=
  if XDai.is currency then
    (transferTx currency destination amount).map fun request => request.withTo destination
  else if WxHOPR.is currency then
    (transferTx currency destination amount).map fun request =>
      request.withTo generator.contractAddrs.token
  else Outcome.fail (.invalidArguments "invalid currency")

def sendErc777 (recipient : Address) (amount : HoprBalance) (payload : Erc777Payload) :
    TransactionRequest :=
  let callData := (sendCall recipient (fromBeSlice 256 (toBe32 amount.amount))
    (encodeErc777Payload payload)).encode
  (TransactionRequest.withInput {} callData).withTo generator.contractAddrs.token

def announce (announcement : AnnouncementData Multiaddr) (keyBindingFee : HoprBalance) :
    TransactionRequest :=
  let callData := (announceCall crate generator.me generator.contractAddrs.announcements
    announcement keyBindingFee).encode
  (TransactionRequest.withInput {} callData).withTo generator.contractAddrs.token

def channelTx (other : Address) (message : String) (call : Call) :
    Except ChainTypesError TransactionRequest :=
  if other = generator.me then .error (.invalidArguments message)
  else .ok ((TransactionRequest.withInput {} call.encode).withTo generator.contractAddrs.channels)

def fundChannel (dest : Address) (amount : HoprBalance) :
    Except ChainTypesError TransactionRequest :=
  generator.channelTx dest "Cannot fund channel to self"
    (fundChannelCall dest (fromBeSlice 96 ((toBe32 amount.amount).drop (32 - 12))))

def closeIncomingChannel (source : Address) : Except ChainTypesError TransactionRequest :=
  generator.channelTx source "Cannot close incoming channel from self"
    (closeIncomingChannelCall source)

def initiateOutgoingChannelClosure (destination : Address) :
    Except ChainTypesError TransactionRequest :=
  generator.channelTx destination "Cannot initiate closure of incoming channel to self"
    (initiateOutgoingChannelClosureCall destination)

def finalizeOutgoingChannelClosure (destination : Address) :
    Except ChainTypesError TransactionRequest :=
  generator.channelTx destination "Cannot initiate closure of incoming channel to self"
    (finalizeOutgoingChannelClosureCall destination)

def redeemTicket (ackedTicket : Internal.RedeemableTicket) :
    Outcome ChainTypesError TransactionRequest := do
  let redeemable ← .lift (convertAcknowledgedTicket ackedTicket)
  let params ← convertVrfParameters curve ackedTicket.vrfParams generator.me
    ackedTicket.ticket.hash ackedTicket.channelDst
  .ok ((TransactionRequest.withInput {} (redeemTicketCall redeemable params).encode).withTo
    generator.contractAddrs.channels)

def registerSafeByNode (safeAddr : Address) : TransactionRequest :=
  (registerSafeTx safeAddr).withTo generator.contractAddrs.nodeSafeRegistry

def deregisterNodeBySafe : Except ChainTypesError TransactionRequest :=
  .error (.invalidState "Can only deregister an address if Safe is activated")

/-- A write to the service registry, which this generator can only make without a burn. -/
def serviceWrite (serviceType : ServiceType) (metadata : ServiceMetadata) (burn : HoprBalance)
    (update : Bool) : Except ChainTypesError TransactionRequest :=
  if burn.isZero then
    .ok ((TransactionRequest.withInput {}
      (serviceRegistryCall serviceType generator.me (some metadata) update)).withTo
        generator.contractAddrs.serviceRegistry)
  else .error (.invalidState "paid service writes require a Safe payload generator")

def registerService (serviceType : ServiceType) (metadata : ServiceMetadata)
    (registrationBurn : HoprBalance) : Except ChainTypesError TransactionRequest :=
  generator.serviceWrite serviceType metadata registrationBurn false

def updateService (serviceType : ServiceType) (metadata : ServiceMetadata)
    (updateBurn : HoprBalance) : Except ChainTypesError TransactionRequest :=
  generator.serviceWrite serviceType metadata updateBurn true

def deregisterService (serviceType : ServiceType) : TransactionRequest :=
  (TransactionRequest.withInput {}
    (serviceRegistryCall serviceType generator.me none false)).withTo
      generator.contractAddrs.serviceRegistry

def defaultCapabilityPermissions : String := "010103030303030303030303"

def deploySafe (balance : HoprBalance) (admins : List Address) (includeNode : Bool)
    (nonce : FixedBytes 32) : Except ChainTypesError TransactionRequest := do
  let nonce := fromBeSlice 256 nonce.toList
  let defaultTarget ← (text.u256FromStr
    (text.debugAddress generator.contractAddrs.channels ++ defaultCapabilityPermissions)).mapErr
      ChainTypesError.parseError
  let functionIdentifier : FixedBytes 32 :=
    if includeNode then
      beBytes 32 0x0105b97dcdf19d454ebe36f91ed516c2b90ee79f4a46af96a0138c1f5403c1cc
    else beBytes 32 0xdd24c144db91d1bc600aac99393baf8f8c664ba461188f057e37f2c37b962b45
  let userData : UserData :=
    { functionIdentifier := functionIdentifier
      nonce := nonce
      defaultTarget := beBytes 32 defaultTarget.toNat
      admins := admins }
  let txPayload := (sendCall generator.contractAddrs.nodeStakeFactory
    (fromBeSlice 256 (toBe32 balance.amount))
    ((encodeSingle userDataTy userData.values).drop 32)).encode
  .ok ((TransactionRequest.withTo {} generator.contractAddrs.token).withInput txPayload)

def generate : PayloadCall Multiaddr → Outcome ChainTypesError TransactionRequest
  | .approve spender amount => .ok (generator.approve spender amount)
  | .transfer currency destination amount => generator.transfer currency destination amount
  | .sendErc777 recipient amount payload => .ok (generator.sendErc777 recipient amount payload)
  | .announce announcement fee => .ok (generator.announce crate announcement fee)
  | .fundChannel dest amount => .lift (generator.fundChannel dest amount)
  | .closeIncomingChannel source => .lift (generator.closeIncomingChannel source)
  | .initiateOutgoingChannelClosure destination =>
      .lift (generator.initiateOutgoingChannelClosure destination)
  | .finalizeOutgoingChannelClosure destination =>
      .lift (generator.finalizeOutgoingChannelClosure destination)
  | .redeemTicket ackedTicket => generator.redeemTicket curve ackedTicket
  | .registerSafeByNode safeAddr => .ok (generator.registerSafeByNode safeAddr)
  | .deregisterNodeBySafe => .lift deregisterNodeBySafe
  | .registerService serviceType metadata burn =>
      .lift (generator.registerService serviceType metadata burn)
  | .updateService serviceType metadata burn =>
      .lift (generator.updateService serviceType metadata burn)
  | .deregisterService serviceType => .ok (generator.deregisterService serviceType)
  | .deploySafe balance admins includeNode nonce =>
      .lift (generator.deploySafe text balance admins.toList includeNode nonce)

end BasicPayloadGenerator

/-! ## The Safe generator -/

structure SafePayloadGenerator where
  me : Address
  contractAddrs : ContractAddresses
  module : Address

namespace SafePayloadGenerator

variable (generator : SafePayloadGenerator)

def moduleTx (payload : Bytes) : TransactionRequest :=
  ((TransactionRequest.withInput {} payload).withTo generator.module).withGasLimit defaultTxGas

def approve (spender : Address) (amount : HoprBalance) : TransactionRequest :=
  let innerPayload := (approveCall spender (fromBeSlice 256 (toBe32 amount.amount))).encode
  generator.moduleTx (modulePayload generator.contractAddrs.token 0 innerPayload)

def transfer (currency : Currency) (destination : Address) (amount : Balance currency) :
    Except ChainTypesError TransactionRequest := do
  let toAddress ←
    if XDai.is currency then Except.ok destination
    else if WxHOPR.is currency then Except.ok generator.contractAddrs.token
    else Except.error (ChainTypesError.invalidArguments "invalid currency")
  let amountU256 := fromBeSlice 256 (toBe32 amount.amount)
  let value := if XDai.is currency then amountU256 else 0
  let innerPayload :=
    if WxHOPR.is currency then (transferCall destination amountU256).encode else []
  .ok (generator.moduleTx (modulePayload toAddress value innerPayload))

def sendErc777 (recipient : Address) (amount : HoprBalance) (payload : Erc777Payload) :
    TransactionRequest :=
  let callData := (sendCall recipient (fromBeSlice 256 (toBe32 amount.amount))
    (encodeErc777Payload payload)).encode
  generator.moduleTx (modulePayload generator.contractAddrs.token 0 callData)

def announce (announcement : AnnouncementData Multiaddr) (keyBindingFee : HoprBalance) :
    TransactionRequest :=
  let callData := (announceCall crate generator.me generator.contractAddrs.announcements
    announcement keyBindingFee).encode
  generator.moduleTx (modulePayload generator.contractAddrs.token 0 callData)

def fundChannel (dest : Address) (amount : HoprBalance) :
    Except ChainTypesError TransactionRequest :=
  if dest = generator.me then .error (.invalidArguments "cannot fund channel to self")
  else if amount.amount.toNat > ChannelBuilder.maxFundingAmount then
    .error (.invalidArguments "cannot fund channel with amount larger than MAX_FUNDING_AMOUNT")
  else
    let callData := (fundChannelSafeCall generator.me dest
      (fromBeSlice 96 ((toBe32 amount.amount).drop (32 - 12)))).encode
    .ok (generator.moduleTx (channelsPayload generator.contractAddrs.channels callData))

def channelTx (other : Address) (message : String) (call : Call) :
    Except ChainTypesError TransactionRequest :=
  if other = generator.me then .error (.invalidArguments message)
  else .ok (generator.moduleTx (channelsPayload generator.contractAddrs.channels call.encode))

def closeIncomingChannel (source : Address) : Except ChainTypesError TransactionRequest :=
  generator.channelTx source "Cannot close incoming channel from self"
    (closeIncomingChannelSafeCall generator.me source)

def initiateOutgoingChannelClosure (destination : Address) :
    Except ChainTypesError TransactionRequest :=
  generator.channelTx destination "Cannot initiate closure of incoming channel to self"
    (initiateOutgoingChannelClosureSafeCall generator.me destination)

def finalizeOutgoingChannelClosure (destination : Address) :
    Except ChainTypesError TransactionRequest :=
  generator.channelTx destination "Cannot initiate closure of incoming channel to self"
    (finalizeOutgoingChannelClosureSafeCall generator.me destination)

def redeemTicket (ackedTicket : Internal.RedeemableTicket) :
    Outcome ChainTypesError TransactionRequest := do
  let redeemable ← .lift (convertAcknowledgedTicket ackedTicket)
  let params ← convertVrfParameters curve ackedTicket.vrfParams generator.me
    ackedTicket.ticket.hash ackedTicket.channelDst
  let callData := (redeemTicketSafeCall generator.me redeemable params).encode
  .ok (generator.moduleTx (channelsPayload generator.contractAddrs.channels callData))

def registerSafeByNode (safeAddr : Address) : TransactionRequest :=
  ((registerSafeTx safeAddr).withTo generator.contractAddrs.nodeSafeRegistry).withGasLimit
    defaultTxGas

def deregisterNodeBySafe : TransactionRequest :=
  generator.moduleTx (deregisterNodeBySafeCall generator.me).encode

/-- A write to the service registry, bundled with the approval of its burn. -/
def serviceWrite (serviceType : ServiceType) (metadata : ServiceMetadata) (burn : HoprBalance)
    (update : Bool) : TransactionRequest :=
  let call := serviceRegistryCall serviceType generator.me (some metadata) update
  generator.moduleTx (paidServiceRegistryPayload generator.contractAddrs.token
    generator.contractAddrs.serviceRegistry call burn)

def registerService (serviceType : ServiceType) (metadata : ServiceMetadata)
    (registrationBurn : HoprBalance) : TransactionRequest :=
  generator.serviceWrite serviceType metadata registrationBurn false

def updateService (serviceType : ServiceType) (metadata : ServiceMetadata)
    (updateBurn : HoprBalance) : TransactionRequest :=
  generator.serviceWrite serviceType metadata updateBurn true

def deregisterService (serviceType : ServiceType) : TransactionRequest :=
  let call := serviceRegistryCall serviceType generator.me none false
  generator.moduleTx (modulePayload generator.contractAddrs.serviceRegistry 0 call)

def deploySafe : Except ChainTypesError TransactionRequest :=
  .error (.invalidState "cannot deploy Safe from SafePayloadGenerator")

def generate : PayloadCall Multiaddr → Outcome ChainTypesError TransactionRequest
  | .approve spender amount => .ok (generator.approve spender amount)
  | .transfer currency destination amount => .lift (generator.transfer currency destination amount)
  | .sendErc777 recipient amount payload => .ok (generator.sendErc777 recipient amount payload)
  | .announce announcement fee => .ok (generator.announce crate announcement fee)
  | .fundChannel dest amount => .lift (generator.fundChannel dest amount)
  | .closeIncomingChannel source => .lift (generator.closeIncomingChannel source)
  | .initiateOutgoingChannelClosure destination =>
      .lift (generator.initiateOutgoingChannelClosure destination)
  | .finalizeOutgoingChannelClosure destination =>
      .lift (generator.finalizeOutgoingChannelClosure destination)
  | .redeemTicket ackedTicket => generator.redeemTicket curve ackedTicket
  | .registerSafeByNode safeAddr => .ok (generator.registerSafeByNode safeAddr)
  | .deregisterNodeBySafe => .ok generator.deregisterNodeBySafe
  | .registerService serviceType metadata burn =>
      .ok (generator.registerService serviceType metadata burn)
  | .updateService serviceType metadata burn =>
      .ok (generator.updateService serviceType metadata burn)
  | .deregisterService serviceType => .ok (generator.deregisterService serviceType)
  | .deploySafe _ _ _ _ => .lift deploySafe

end SafePayloadGenerator

end HoprTypes.Chain.BindingsBased
