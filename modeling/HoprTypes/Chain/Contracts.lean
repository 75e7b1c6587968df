import HoprTypes.Chain.Payload
import HoprTypes.Lib.AbiCall

/-!
# Contract functions

The functions of the contracts that payloads call, with their parameter types, and
the structures that are passed to them.
-/

set_option autoImplicit false

namespace HoprTypes.Chain.Contracts

open BigEndian Abi HoprTypes.Primitive HoprTypes.Crypto

/-! ## Structures -/

def ticketDataTy : Ty := .tuple [.fixedBytes 32, .uint 96, .uint 48, .uint 24, .uint 56]

def compactSignatureTy : Ty := .tuple [.fixedBytes 32, .fixedBytes 32]

def redeemableTicketTy : Ty := .tuple [ticketDataTy, compactSignatureTy, .uint 256]

def vrfParametersTy : Ty :=
  .tuple [.uint 256, .uint 256, .uint 256, .uint 256, .uint 256, .uint 256, .uint 256,
    .uint 256, .uint 256, .uint 256, .uint 256, .uint 256, .uint 256, .uint 256]

def curvyNoteTy : Ty :=
  .tuple [.uint 256, .uint 256, .uint 256, .fixedArray (.uint 256) 2, .uint 16]

def keyBindAndAnnouncePayloadTy : Ty :=
  .tuple [.address, .fixedBytes 32, .fixedBytes 32, .fixedBytes 32, .string]

def userDataTy : Ty := .tuple [.fixedBytes 32, .uint 256, .fixedBytes 32, .array .address]

structure TicketData where
  channelId : FixedBytes 32
  amount : BitVec 96
  ticketIndex : BitVec 48
  epoch : BitVec 24
  winProb : BitVec 56
deriving DecidableEq

structure CompactSignature where
  r : FixedBytes 32
  vs : FixedBytes 32
deriving DecidableEq

structure RedeemableTicket where
  data : TicketData
  signature : CompactSignature
  porSecret : U256
deriving DecidableEq

structure VRFParameters where
  vx : U256
  vy : U256
  s : U256
  h : U256
  sBx : U256
  sBy : U256
  hVx : U256
  hVy : U256
  ax : U256
  ay : U256
  sGx : U256
  sGy : U256
  hAx : U256
  hAy : U256
deriving DecidableEq

structure KeyBindAndAnnouncePayload where
  callerNode : Address
  ed25519Sig0 : FixedBytes 32
  ed25519Sig1 : FixedBytes 32
  ed25519PubKey : FixedBytes 32
  multiaddress : Bytes

structure UserData where
  functionIdentifier : FixedBytes 32
  nonce : U256
  defaultTarget : FixedBytes 32
  admins : List Address

def RedeemableTicket.values (ticket : RedeemableTicket) : redeemableTicketTy.Val :=
  ((ticket.data.channelId, ticket.data.amount, ticket.data.ticketIndex, ticket.data.epoch,
      ticket.data.winProb, ()),
    (ticket.signature.r, ticket.signature.vs, ()), ticket.porSecret, ())

def VRFParameters.values (params : VRFParameters) : vrfParametersTy.Val :=
  (params.vx, params.vy, params.s, params.h, params.sBx, params.sBy, params.hVx, params.hVy,
    params.ax, params.ay, params.sGx, params.sGy, params.hAx, params.hAy, ())

def curvyNoteValues (note : CurvyNote) : curvyNoteTy.Val :=
  (note.ownerHash, note.token, note.amount, ⟨[note.ephemeralKey.1, note.ephemeralKey.2], rfl⟩,
    note.viewTag, ())

def KeyBindAndAnnouncePayload.values (payload : KeyBindAndAnnouncePayload) :
    keyBindAndAnnouncePayloadTy.Val :=
  (payload.callerNode, payload.ed25519Sig0, payload.ed25519Sig1, payload.ed25519PubKey,
    payload.multiaddress, ())

def UserData.values (data : UserData) : userDataTy.Val :=
  (data.functionIdentifier, data.nonce, data.defaultTarget, data.admins, ())

/-! ## Functions -/

def approve : Function := ⟨"approve", [.address, .uint 256]⟩
def transfer : Function := ⟨"transfer", [.address, .uint 256]⟩
def send : Function := ⟨"send", [.address, .uint 256, .bytes]⟩
def registerSafeByNode : Function := ⟨"registerSafeByNode", [.address]⟩
def deregisterNodeBySafe : Function := ⟨"deregisterNodeBySafe", [.address]⟩
def selfRegister : Function := ⟨"selfRegister", [.fixedBytes 32, .address, .bytes]⟩
def selfUpdate : Function := ⟨"selfUpdate", [.fixedBytes 32, .address, .bytes]⟩
def selfDeregister : Function := ⟨"selfDeregister", [.fixedBytes 32, .address]⟩
def multiSend : Function := ⟨"multiSend", [.bytes]⟩
def execTransactionFromModule : Function :=
  ⟨"execTransactionFromModule", [.address, .uint 256, .bytes, .uint 8]⟩
def fundChannel : Function := ⟨"fundChannel", [.address, .uint 96]⟩
def fundChannelSafe : Function := ⟨"fundChannelSafe", [.address, .address, .uint 96]⟩
def closeIncomingChannel : Function := ⟨"closeIncomingChannel", [.address]⟩
def closeIncomingChannelSafe : Function := ⟨"closeIncomingChannelSafe", [.address, .address]⟩
def initiateOutgoingChannelClosure : Function := ⟨"initiateOutgoingChannelClosure", [.address]⟩
def initiateOutgoingChannelClosureSafe : Function :=
  ⟨"initiateOutgoingChannelClosureSafe", [.address, .address]⟩
def finalizeOutgoingChannelClosure : Function := ⟨"finalizeOutgoingChannelClosure", [.address]⟩
def finalizeOutgoingChannelClosureSafe : Function :=
  ⟨"finalizeOutgoingChannelClosureSafe", [.address, .address]⟩
def redeemTicket : Function := ⟨"redeemTicket", [redeemableTicketTy, vrfParametersTy]⟩
def redeemTicketSafe : Function :=
  ⟨"redeemTicketSafe", [.address, redeemableTicketTy, vrfParametersTy]⟩

/-! ## Calls -/

def approveCall (spender : Address) (value : U256) : Call := ⟨approve, (spender, value, ())⟩

def transferCall (recipient : Address) (amount : U256) : Call :=
  ⟨transfer, (recipient, amount, ())⟩

def sendCall (recipient : Address) (amount : U256) (data : Bytes) : Call :=
  ⟨send, (recipient, amount, data, ())⟩

def registerSafeByNodeCall (safeAddr : Address) : Call := ⟨registerSafeByNode, (safeAddr, ())⟩

def deregisterNodeBySafeCall (nodeAddr : Address) : Call :=
  ⟨deregisterNodeBySafe, (nodeAddr, ())⟩

def selfRegisterCall (serviceType : FixedBytes 32) (node : Address) (metadata : Bytes) : Call :=
  ⟨selfRegister, (serviceType, node, metadata, ())⟩

def selfUpdateCall (serviceType : FixedBytes 32) (node : Address) (metadata : Bytes) : Call :=
  ⟨selfUpdate, (serviceType, node, metadata, ())⟩

def selfDeregisterCall (serviceType : FixedBytes 32) (node : Address) : Call :=
  ⟨selfDeregister, (serviceType, node, ())⟩

def multiSendCall (transactions : Bytes) : Call := ⟨multiSend, (transactions, ())⟩

def execTransactionFromModuleCall (toAddress : Address) (value : U256) (data : Bytes)
    (operation : BitVec 8) : Call :=
  ⟨execTransactionFromModule, (toAddress, value, data, operation, ())⟩

def fundChannelCall (account : Address) (amount : BitVec 96) : Call :=
  ⟨fundChannel, (account, amount, ())⟩

def fundChannelSafeCall (selfAddress account : Address) (amount : BitVec 96) : Call :=
  ⟨fundChannelSafe, (selfAddress, account, amount, ())⟩

def closeIncomingChannelCall (source : Address) : Call := ⟨closeIncomingChannel, (source, ())⟩

def closeIncomingChannelSafeCall (selfAddress source : Address) : Call :=
  ⟨closeIncomingChannelSafe, (selfAddress, source, ())⟩

def initiateOutgoingChannelClosureCall (destination : Address) : Call :=
  ⟨initiateOutgoingChannelClosure, (destination, ())⟩

def initiateOutgoingChannelClosureSafeCall (selfAddress destination : Address) : Call :=
  ⟨initiateOutgoingChannelClosureSafe, (selfAddress, destination, ())⟩

def finalizeOutgoingChannelClosureCall (destination : Address) : Call :=
  ⟨finalizeOutgoingChannelClosure, (destination, ())⟩

def finalizeOutgoingChannelClosureSafeCall (selfAddress destination : Address) : Call :=
  ⟨finalizeOutgoingChannelClosureSafe, (selfAddress, destination, ())⟩

def redeemTicketCall (redeemable : RedeemableTicket) (params : VRFParameters) : Call :=
  ⟨redeemTicket, (redeemable.values, params.values, ())⟩

def redeemTicketSafeCall (selfAddress : Address) (redeemable : RedeemableTicket)
    (params : VRFParameters) : Call :=
  ⟨redeemTicketSafe, (selfAddress, redeemable.values, params.values, ())⟩

end HoprTypes.Chain.Contracts
