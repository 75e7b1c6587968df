import HoprTypes.Internal.Announcement
import HoprTypes.Internal.Service
import HoprTypes.Internal.Tickets

/-!
# Payload generators

The types shared by the implementations of the payload generators: contract
addresses, the data of ERC777 transfers, gas estimates and the calls of the
generator's methods.
-/

set_option autoImplicit false

namespace HoprTypes.Chain

open BigEndian HoprTypes.Primitive HoprTypes.Crypto HoprTypes.Internal

inductive ChainTypesError where
  | invalidState (message : String)
  | invalidArguments (message : String)
  | signingError (cause : String)
  | parseError (cause : String)
deriving DecidableEq, Repr

structure ContractAddresses where
  token : Address
  channels : Address
  announcements : Address
  nodeSafeRegistry : Address
  serviceRegistry : Address
  ticketPriceOracle : Address
  winningProbabilityOracle : Address
  nodeSafeMigration : Address
  nodeStakeFactory : Address
  moduleImplementation : Address
deriving DecidableEq

def ContractAddresses.toList (addresses : ContractAddresses) : List Address :=
  [addresses.token, addresses.channels, addresses.announcements, addresses.nodeSafeRegistry,
    addresses.serviceRegistry, addresses.ticketPriceOracle, addresses.winningProbabilityOracle,
    addresses.nodeSafeMigration, addresses.nodeStakeFactory, addresses.moduleImplementation]

structure CurvyNote where
  ownerHash : U256
  token : U256
  amount : U256
  ephemeralKey : U256 × U256
  viewTag : BitVec 16
deriving DecidableEq

inductive CurvyErc777Payload where
  | directShield (aggregator : Address) (note : CurvyNote)
deriving DecidableEq

/-- Data that an ERC777 `send` passes to the recipient's hook. -/
inductive Erc777Payload where
  | curvy (payload : CurvyErc777Payload)
deriving DecidableEq

structure GasEstimation where
  gasLimit : U64
  maxFeePerGas : BitVec 128
  maxPriorityFeePerGas : BitVec 128
deriving DecidableEq

def GasEstimation.default : GasEstimation where
  gasLimit := 10000000
  maxFeePerGas := 10000000000
  maxPriorityFeePerGas := 2000000000

/-- A call of a method of the payload generator, with its arguments. -/
inductive PayloadCall (Multiaddr : Type) where
  | approve (spender : Address) (amount : HoprBalance)
  | transfer (currency : Currency) (destination : Address) (amount : Balance currency)
  | sendErc777 (recipient : Address) (amount : HoprBalance) (payload : Erc777Payload)
  | announce (announcement : AnnouncementData Multiaddr) (keyBindingFee : HoprBalance)
  | fundChannel (dest : Address) (amount : HoprBalance)
  | closeIncomingChannel (source : Address)
  | initiateOutgoingChannelClosure (destination : Address)
  | finalizeOutgoingChannelClosure (destination : Address)
  | redeemTicket (ackedTicket : RedeemableTicket)
  | registerSafeByNode (safeAddr : Address)
  | deregisterNodeBySafe
  | registerService (serviceType : ServiceType) (metadata : ServiceMetadata)
      (registrationBurn : HoprBalance)
  | updateService (serviceType : ServiceType) (metadata : ServiceMetadata)
      (updateBurn : HoprBalance)
  | deregisterService (serviceType : ServiceType)
  | deploySafe (balance : HoprBalance) (admins : BoundedVec Address (isizeMax / 20))
      (includeNode : Bool) (nonce : FixedBytes 32)

/-- The sub-slice `bytes[first..last]`, which panics behind the end of the slice. -/
def indexRange {ε : Type} (bytes : Bytes) (first last : Nat) : Outcome ε Bytes :=
  if last ≤ bytes.length then .ok (slice bytes first (last - first))
  else Outcome.panicked "range end index out of range for slice"

theorem indexRange_of_le {ε : Type} {bytes : Bytes} {first last : Nat}
    (inside : last ≤ bytes.length) :
    (indexRange bytes first last : Outcome ε Bytes) = .ok (slice bytes first (last - first)) :=
  if_pos inside

/-- The witnesses that the redemption of a ticket by `me` needs can be computed, and all of
them are points with coordinates. -/
structure VrfWitnesses (curve : Secp256k1) (ackedTicket : RedeemableTicket) (me : Address) :
    Prop where
  V : ackedTicket.vrfParams.getVEncodedPoint.length = 65
  A : ackedTicket.vrfParams.getAEncodedPoint.length = 65
  hV : (ackedTicket.vrfParams.getHVWitness curve).length = 65
  hA : (ackedTicket.vrfParams.getHAWitness curve).length = 65
  sG : (ackedTicket.vrfParams.getSGWitness curve).length = 65
  sB : ∃ point, ackedTicket.vrfParams.getSBWitness curve me ackedTicket.ticket.hash
    ackedTicket.channelDst.toList = .ok point ∧ point.length = 65

end HoprTypes.Chain
