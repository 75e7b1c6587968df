import HoprTypes.Chain.SignedTransactions

/-!
# The transaction parser

Reads the action of a signed transaction that a payload generator has built, and the
account that signed it.
-/

set_option autoImplicit false

namespace HoprTypes.Chain

open BigEndian Abi HoprTypes.Primitive HoprTypes.Crypto HoprTypes.Internal

/-- The account that a withdrawal debits, or that grants an allowance. -/
inductive Payer where
  | eoa
  | safe
deriving DecidableEq

inductive ParsedHoprChainAction (Multiaddr : Type) where
  | registerSafeAddress (safeAddr : Address)
  | announce (packetKey : OffchainPublicKey) (multiaddress : Option Multiaddr)
  | withdrawNative (recipient : Address) (amount : XDaiBalance) (payer : Payer)
  | withdrawToken (recipient : Address) (amount : HoprBalance) (payer : Payer)
  | approve (spender : Address) (amount : HoprBalance) (payer : Payer)
  | fundChannel (destination : Address) (amount : HoprBalance)
  | initializeChannelClosure (channelId : ChannelId)
  | finalizeChannelClosure (channelId : ChannelId)
  | incomingChannelClosure (channelId : ChannelId)
  | redeemTicket (channelId : ChannelId) (ticketIndex : U64) (ticketAmount : HoprBalance)
deriving DecidableEq

/-! ## What the bindings library decodes -/

structure TxEnvelope where
  toAddress : Option Address
  value : U256
  input : Bytes
  /-- The hash that was signed. -/
  signatureHash : Hash
  isYOdd : Bool
  r : U256
  s : U256
deriving DecidableEq

def TxEnvelope.ofSigned (signed : BindingsBased.SignedTx) : TxEnvelope where
  toAddress := signed.tx.toAddress
  value := signed.tx.value
  input := signed.tx.input
  signatureHash := signed.tx.signingHash
  isYOdd := signed.isYOdd
  r := signed.r
  s := signed.s

/-- What the parser uses of the bindings library. -/
structure AlloyDecoding where
  decode2718Exact : Bytes → Except String TxEnvelope
  recoverSigner : TxEnvelope → Except String Address
  /-- Reads the arguments of a call of a function. -/
  abiDecodeCall : (function : Function) → Bytes → Except String (Values function.inputs)
  abiDecode : (ty : Ty) → Bytes → Except String ty.Val

/-- Decoding inverts the encodings, and a call is only read as one of its function. -/
structure AlloyDecoding.Lawful (decoding : AlloyDecoding)
    (alloy : BindingsBased.AlloyTransactions) : Prop where
  decodes : ∀ signed, (alloy.encoded2718 signed).length < 2 ^ 64 →
    decoding.decode2718Exact (alloy.encoded2718 signed) = .ok (.ofSigned signed)
  readsCall : ∀ call : Call, AllWellFormed call.function.inputs →
    AllValidText call.function.inputs call.arguments → call.encode.length < 2 ^ 64 →
      decoding.abiDecodeCall call.function call.encode = .ok call.arguments
  refuses : ∀ (function : Function) (data : Bytes), data.take 4 ≠ function.selector.toList →
    ∃ cause, decoding.abiDecodeCall function data = .error cause
  reads : ∀ (ty : Ty) (value : ty.Val), ty.WellFormed → ty.ValidText value →
    (encodeSingle ty value).length < 2 ^ 64 →
      decoding.abiDecode ty (encodeSingle ty value) = .ok value

/-- Key pairs can sign all hashes, and the signer of a transaction is recovered from it. -/
structure AlloyDecoding.Recovers (decoding : AlloyDecoding) (signer : PrehashSigner)
    (curve : Secp256k1) : Prop where
  signs : ∀ (keypair : ChainKeypair curve) (hash : Hash),
    ∃ raw, signer keypair.secret hash = .ok raw
  recovers : ∀ (keypair : ChainKeypair curve) (tx : TxEip1559) (raw : RawSignature),
    signer keypair.secret tx.signingHash = .ok raw →
      decoding.recoverSigner (.ofSigned (.ofRaw tx raw)) = .ok keypair.address

/-- A non-empty address has a text, which is parsed back as the address. -/
structure MultiaddrTextLawful {Multiaddr : Type} (crate : MultiaddrCrate Multiaddr) : Prop where
  text_ne_nil : ∀ multiaddress, crate.isEmpty multiaddress = false →
    utf8 (crate.display multiaddress) ≠ []
  parses : ∀ multiaddress, crate.isEmpty multiaddress = false →
    crate.parse (utf8 (crate.display multiaddress)) = some multiaddress

/-! ## Calls of the contracts -/

def balanceFromBeBytes {currency : Currency} (width : Nat) {bits : Nat} (amount : BitVec bits) :
    Balance currency :=
  ⟨fromBeBytes 256 (toBeBytes width amount)⟩

/-- The integer as one of 64 bits; panics if it is too large. -/
def asU64 {ε : Type} (value : U256) : Outcome ε U64 :=
  if value.toNat < 2 ^ 64 then .ok (BitVec.setWidth 64 value)
  else Outcome.panicked "Integer overflow when casting to u64"

def Contracts.TicketData.ofValues (values : Contracts.ticketDataTy.Val) : Contracts.TicketData :=
  ⟨values.1, values.2.1, values.2.2.1, values.2.2.2.1, values.2.2.2.2.1⟩

def Contracts.KeyBindAndAnnouncePayload.ofValues
    (values : Contracts.keyBindAndAnnouncePayloadTy.Val) : Contracts.KeyBindAndAnnouncePayload :=
  ⟨values.1, values.2.1, values.2.2.1, values.2.2.2.1, values.2.2.2.2.1⟩

/-- A function, and what the parser uses of the arguments of its calls. -/
structure CallReader (α : Type) where
  function : Function
  use : Values function.inputs → α

def CallReader.abiDecode {α : Type} (reader : CallReader α) (decoding : AlloyDecoding)
    (input : Bytes) : Except String α :=
  (decoding.abiDecodeCall reader.function input).map reader.use

namespace CallReader

def registerSafeByNode : CallReader Address :=
  ⟨Contracts.registerSafeByNode, fun call => call.1⟩

def send : CallReader (Address × U256 × Bytes) :=
  ⟨Contracts.send, fun call => (call.1, call.2.1, call.2.2.1)⟩

def approve : CallReader (Address × U256) := ⟨Contracts.approve, fun call => (call.1, call.2.1)⟩

def transfer : CallReader (Address × U256) := ⟨Contracts.transfer, fun call => (call.1, call.2.1)⟩

def execTransactionFromModule : CallReader (Address × U256 × Bytes) :=
  ⟨Contracts.execTransactionFromModule, fun call => (call.1, call.2.1, call.2.2.1)⟩

end CallReader

structure ChannelCalls where
  fundChannel : CallReader (Address × BitVec 96)
  initiateOutgoingChannelClosure : CallReader Address
  finalizeOutgoingChannelClosure : CallReader Address
  closeIncomingChannel : CallReader Address
  redeemTicket : CallReader Contracts.TicketData

def ChannelCalls.plain : ChannelCalls where
  fundChannel := ⟨Contracts.fundChannel, fun call => (call.1, call.2.1)⟩
  initiateOutgoingChannelClosure :=
    ⟨Contracts.initiateOutgoingChannelClosure, fun call => call.1⟩
  finalizeOutgoingChannelClosure :=
    ⟨Contracts.finalizeOutgoingChannelClosure, fun call => call.1⟩
  closeIncomingChannel := ⟨Contracts.closeIncomingChannel, fun call => call.1⟩
  redeemTicket := ⟨Contracts.redeemTicket, fun call => .ofValues call.1.1⟩

/-- The functions that a Safe calls for its node, whose address is the first argument. -/
def ChannelCalls.safe : ChannelCalls where
  fundChannel := ⟨Contracts.fundChannelSafe, fun call => (call.2.1, call.2.2.1)⟩
  initiateOutgoingChannelClosure :=
    ⟨Contracts.initiateOutgoingChannelClosureSafe, fun call => call.2.1⟩
  finalizeOutgoingChannelClosure :=
    ⟨Contracts.finalizeOutgoingChannelClosureSafe, fun call => call.2.1⟩
  closeIncomingChannel := ⟨Contracts.closeIncomingChannelSafe, fun call => call.2.1⟩
  redeemTicket := ⟨Contracts.redeemTicketSafe, fun call => .ofValues call.2.1.1⟩

variable {Multiaddr : Type} (crate : MultiaddrCrate Multiaddr) (decoding : AlloyDecoding)

/-- A call of the channels contract: the first of its functions that the input is a call of. -/
def ChannelCalls.parse (calls : ChannelCalls) (signer : Address) (input : Bytes) :
    Outcome ChainTypesError (ParsedHoprChainAction Multiaddr) :=
  match calls.fundChannel.abiDecode decoding input with
  | .ok (account, amount) => .ok (.fundChannel account (balanceFromBeBytes 12 amount))
  | .error _ =>
  match calls.initiateOutgoingChannelClosure.abiDecode decoding input with
  | .ok destination => .ok (.initializeChannelClosure (generateChannelId signer destination))
  | .error _ =>
  match calls.finalizeOutgoingChannelClosure.abiDecode decoding input with
  | .ok destination => .ok (.finalizeChannelClosure (generateChannelId signer destination))
  | .error _ =>
  match calls.closeIncomingChannel.abiDecode decoding input with
  | .ok source => .ok (.incomingChannelClosure (generateChannelId source signer))
  | .error _ =>
  match calls.redeemTicket.abiDecode decoding input with
  | .ok ticketData => do
      let ticketIndex ← asU64 (fromBeBytes 256 (toBeBytes 6 ticketData.ticketIndex))
      .ok (.redeemTicket ticketData.channelId ticketIndex
        (balanceFromBeBytes 12 ticketData.amount))
  | .error _ => Outcome.fail (.parseError "channel transaction has invalid type")

/-- An empty text stands for no address. -/
def parseMultiaddress (text : Bytes) : Outcome ChainTypesError (Option Multiaddr) :=
  if text = [] then .ok none
  else .lift ((okOr (.parseError "failed to parse multiaddress") (crate.parse text)).map some)

/-- The announcement in the data of a `send`, which lacks the offset word of the structure. -/
def parseAnnouncement (data : Bytes) :
    Outcome ChainTypesError (ParsedHoprChainAction Multiaddr) := do
  let data := List.replicate 31 0 ++ 32 :: data
  let values ← .lift ((decoding.abiDecode Contracts.keyBindAndAnnouncePayloadTy data).mapErr
    ChainTypesError.parseError)
  let payload := Contracts.KeyBindAndAnnouncePayload.ofValues values
  let packetKey ← .lift ((tryFromSlice 32 "OffchainPublicKey" payload.ed25519PubKey.toList).mapErr
    fun _ => ChainTypesError.parseError "failed to parse packet key")
  let multiaddress ← parseMultiaddress crate payload.multiaddress
  .ok (.announce packetKey multiaddress)

def payerOf (moduleCall : Bool) : Payer := if moduleCall then .safe else .eoa

def parseTokenCall (contractAddresses : ContractAddresses) (moduleCall : Bool) (input : Bytes) :
    Outcome ChainTypesError (ParsedHoprChainAction Multiaddr) :=
  match CallReader.send.abiDecode decoding input with
  | .ok (recipient, amount, data) =>
      if recipient = contractAddresses.announcements then parseAnnouncement crate decoding data
      -- Any other `send` moves tokens like a transfer, whatever its data is.
      else .ok (.withdrawToken recipient (balanceFromBeBytes 32 amount) (payerOf moduleCall))
  | .error _ =>
  match CallReader.approve.abiDecode decoding input with
  | .ok (spender, value) =>
      .ok (.approve spender (balanceFromBeBytes 32 value) (payerOf moduleCall))
  | .error _ => do
      let (recipient, amount) ← .lift ((CallReader.transfer.abiDecode decoding input).mapErr
        ChainTypesError.parseError)
      .ok (.withdrawToken recipient (balanceFromBeBytes 32 amount) (payerOf moduleCall))

/-- A call of one of the contracts, by the node itself or through its Safe's module. -/
def parseContractCall (contractAddresses : ContractAddresses) (signer target : Address)
    (input : Bytes) (moduleCall : Bool) :
    Outcome ChainTypesError (ParsedHoprChainAction Multiaddr) :=
  if target = contractAddresses.nodeSafeRegistry then do
    let safeAddr ← .lift ((CallReader.registerSafeByNode.abiDecode decoding input).mapErr
      ChainTypesError.parseError)
    .ok (.registerSafeAddress safeAddr)
  else if target = contractAddresses.channels ∧ moduleCall then
    ChannelCalls.safe.parse decoding signer input
  else if target = contractAddresses.channels ∧ ¬ moduleCall then
    ChannelCalls.plain.parse decoding signer input
  else if target = contractAddresses.token then
    parseTokenCall crate decoding contractAddresses moduleCall input
  else Outcome.fail (.parseError "transaction has invalid contract address")

def parseTransaction (contractAddresses : ContractAddresses) (module signer txTarget : Address)
    (value : U256) (input : Bytes) : Outcome ChainTypesError (ParsedHoprChainAction Multiaddr) :=
  if txTarget = module then do
    let (target, value, data) ←
      .lift ((CallReader.execTransactionFromModule.abiDecode decoding input).mapErr
        ChainTypesError.parseError)
    if value ≠ 0 ∧ data = [] then .ok (.withdrawNative target (balanceFromBeBytes 32 value) .safe)
    else parseContractCall crate decoding contractAddresses signer target data true
  else if txTarget ∈ contractAddresses.toList then
    parseContractCall crate decoding contractAddresses signer txTarget input false
  else if value > 0 then .ok (.withdrawNative txTarget (balanceFromBeBytes 32 value) .eoa)
  else Outcome.fail (.parseError "failed to determine type of transaction")

def parseFromEip2718 (signedTx : Bytes) (module : Address)
    (contractAddresses : ContractAddresses) :
    Outcome ChainTypesError (ParsedHoprChainAction Multiaddr × Address) := do
  let tx ← .lift ((decoding.decode2718Exact signedTx).mapErr ChainTypesError.parseError)
  let signer ← .lift ((decoding.recoverSigner tx).mapErr ChainTypesError.parseError)
  let txTarget ← .lift (okOr (.parseError "transaction has no recipient") tx.toAddress)
  let action ← parseTransaction crate decoding contractAddresses module signer txTarget tx.value
    tx.input
  .ok (action, signer)

end HoprTypes.Chain
