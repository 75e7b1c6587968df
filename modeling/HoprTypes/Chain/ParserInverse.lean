import HoprTypes.Chain.ParsedCalls

/-!
# The parser inverts the generators

The transaction that a generator over the bindings builds for a call is parsed back
as the action of that call, together with the account that signed it.
-/

set_option autoImplicit false

namespace HoprTypes.Chain

open BigEndian Abi Keccak Rlp HoprTypes.Primitive HoprTypes.Crypto HoprTypes.Internal

/-! ## Dispatch on the recipient -/

/-- The contracts that the parser tells apart have addresses of their own. -/
def ContractAddresses.Separate (addresses : ContractAddresses) : Prop :=
  [addresses.token, addresses.channels, addresses.announcements, addresses.nodeSafeRegistry].Nodup

/-- The parser reads a call of a contract, made by the node or through the module, as an action. -/
structure ReadsAs {Multiaddr : Type} (crate : MultiaddrCrate Multiaddr) (decoding : AlloyDecoding)
    (addresses : ContractAddresses) (signer : Address) (moduleCall : Bool) (target : Address)
    (call : Call) (action : ParsedHoprChainAction Multiaddr) : Prop where
  readable : Readable call
  parsed : parseContractCall crate decoding addresses signer target call.encode moduleCall =
    .ok action

section

variable {Multiaddr : Type} {crate : MultiaddrCrate Multiaddr} {decoding : AlloyDecoding}
  {alloy : BindingsBased.AlloyTransactions} (lawful : decoding.Lawful alloy)
  {addresses : ContractAddresses} (separate : addresses.Separate) {signer : Address}

section

include separate

theorem parseContractCall_token (input : Bytes) (moduleCall : Bool) :
    parseContractCall crate decoding addresses signer addresses.token input moduleCall =
      parseTokenCall crate decoding addresses moduleCall input := by
  have distinct : addresses.token ≠ addresses.channels ∧
      addresses.token ≠ addresses.nodeSafeRegistry := by
    simp only [ContractAddresses.Separate, List.nodup_cons, List.mem_cons, not_or] at separate
    exact ⟨separate.1.1, separate.1.2.2.1⟩
  rw [parseContractCall, if_neg distinct.2, if_neg (fun same => distinct.1 same.1),
    if_neg (fun same => distinct.1 same.1), if_pos rfl]

theorem parseContractCall_channels (input : Bytes) (moduleCall : Bool) :
    parseContractCall crate decoding addresses signer addresses.channels input moduleCall =
      (ChannelCalls.ofCaller moduleCall).parse decoding signer input := by
  have distinct : addresses.channels ≠ addresses.nodeSafeRegistry := by
    simp only [ContractAddresses.Separate, List.nodup_cons, List.mem_cons, not_or] at separate
    exact separate.2.1.2.1
  cases moduleCall with
  | true =>
      rw [parseContractCall, if_neg distinct, if_pos ⟨rfl, rfl⟩]
      rfl
  | false =>
      rw [parseContractCall, if_neg distinct, if_neg (fun same => Bool.false_ne_true same.2),
        if_pos ⟨rfl, Bool.false_ne_true⟩]
      rfl

end

include lawful

theorem readsAs_registerSafeByNode (safeAddr : Address) (moduleCall : Bool) :
    ReadsAs crate decoding addresses signer moduleCall addresses.nodeSafeRegistry
      (Contracts.registerSafeByNodeCall safeAddr) (.registerSafeAddress safeAddr) := by
  have readable : Readable (Contracts.registerSafeByNodeCall safeAddr) :=
    readable_of_static registerSafeByNode_known rfl (by decide)
  have read : CallReader.registerSafeByNode.abiDecode decoding
      (Contracts.registerSafeByNodeCall safeAddr).encode = .ok safeAddr :=
    CallReader.registerSafeByNode.abiDecode_encode lawful readable
  refine ⟨readable, ?_⟩
  rw [parseContractCall, if_pos rfl, read]
  rfl

/-! ## Transactions of the node and of its Safe -/

variable {module : Address}

omit lawful in
theorem parseTransaction_direct (outside : module ∉ addresses.toList) {target : Address}
    (known : target ∈ addresses.toList) {call : Call} {action : ParsedHoprChainAction Multiaddr}
    (reads : ReadsAs crate decoding addresses signer false target call action) :
    parseTransaction crate decoding addresses module signer target 0 call.encode = .ok action := by
  have other : target ≠ module := by
    intro same
    exact outside (same ▸ known)
  rw [parseTransaction, if_neg other, if_pos known]
  exact reads.parsed

theorem parseTransaction_throughModule {target : Address} {call : Call}
    {action : ParsedHoprChainAction Multiaddr}
    (reads : ReadsAs crate decoding addresses signer true target call action) :
    parseTransaction crate decoding addresses module signer module 0
        ((ChainMessage.ofCall target call).throughModule module).calldata = .ok action := by
  let exec := Contracts.execTransactionFromModuleCall target 0 call.encode 0
  have short := reads.readable.short
  have size := length_execCall_le target 0 call.encode 0
  have wellFormed : AllWellFormed exec.function.inputs :=
    wellFormed_of_mem _ execTransactionFromModule_known
  have text := validText_of_mem _ execTransactionFromModule_known exec.arguments
  have decoded := lawful.readsCall exec wellFormed text (lt_of_le_of_lt size (by omega))
  have read : CallReader.execTransactionFromModule.abiDecode decoding exec.encode =
      .ok (target, 0, call.encode) := by
    rw [CallReader.abiDecode]
    exact congrArg (Except.map CallReader.execTransactionFromModule.use) decoded
  have calldata : ((ChainMessage.ofCall target call).throughModule module).calldata =
      exec.encode := rfl
  rw [parseTransaction, if_pos rfl, calldata, read]
  dsimp only [Except.mapErr, Outcome.lift]
  rw [ok_bind]
  dsimp only
  rw [if_neg (fun native => native.1 rfl)]
  exact reads.parsed

end

/-! ## The action of each call -/

/-- The action of a call that `me` signs, if the parser knows it. -/
def actionOf {Multiaddr : Type} (me : Address) (payer : Payer) :
    PayloadCall Multiaddr → Option (ParsedHoprChainAction Multiaddr)
  | .registerSafeByNode safeAddr => some (.registerSafeAddress safeAddr)
  | .announce announcement _ =>
      some (.announce announcement.keyBinding.packetKey announcement.multiaddress)
  | .approve spender amount => some (.approve spender amount payer)
  | .transfer _ destination amount => some (.withdrawToken destination ⟨amount.amount⟩ payer)
  | .sendErc777 recipient amount _ => some (.withdrawToken recipient amount payer)
  | .fundChannel dest amount => some (.fundChannel dest amount)
  | .initiateOutgoingChannelClosure destination =>
      some (.initializeChannelClosure (generateChannelId me destination))
  | .finalizeOutgoingChannelClosure destination =>
      some (.finalizeChannelClosure (generateChannelId me destination))
  | .closeIncomingChannel source => some (.incomingChannelClosure (generateChannelId source me))
  | .redeemTicket ackedTicket =>
      some (.redeemTicket ackedTicket.ticket.channelId ackedTicket.ticket.ticket.index
        ackedTicket.ticket.ticket.amount)
  | _ => none

/-- The calls that the parser reads back, with the arguments that it is meant for. -/
def Invertible {Multiaddr : Type} (crate : MultiaddrCrate Multiaddr)
    (addresses : ContractAddresses) : PayloadCall Multiaddr → Prop
  | .registerSafeByNode _ => True
  | .announce announcement _ => ∀ multiaddress, announcement.multiaddress = some multiaddress →
      crate.isEmpty multiaddress = false
  | .approve _ _ => True
  | .transfer currency _ _ => currency = WxHOPR
  | .sendErc777 recipient _ _ => recipient ≠ addresses.announcements
  | .fundChannel _ amount => amount.amount.toNat ≤ ChannelBuilder.maxFundingAmount
  | .initiateOutgoingChannelClosure _ => True
  | .finalizeOutgoingChannelClosure _ => True
  | .closeIncomingChannel _ => True
  | .redeemTicket ackedTicket =>
      ∃ builder : TicketBuilder, builder.build = .ok ackedTicket.ticket.ticket
  | _ => False

structure ParsesAs {Multiaddr : Type} (crate : MultiaddrCrate Multiaddr) (decoding : AlloyDecoding)
    (addresses : ContractAddresses) (module signer : Address) (message : ChainMessage)
    (action : ParsedHoprChainAction Multiaddr) : Prop where
  short : message.calldata.length < 2 ^ 63 + 2048
  parsed : parseTransaction crate decoding addresses module signer message.recipient
    message.value message.calldata = .ok action

section

variable {Multiaddr : Type} {crate : MultiaddrCrate Multiaddr}
  (textLawful : MultiaddrTextLawful crate) {decoding : AlloyDecoding}
  {alloy : BindingsBased.AlloyTransactions} (lawful : decoding.Lawful alloy)
  {addresses : ContractAddresses} (separate : addresses.Separate) {me module : Address}

theorem parsesAs_direct (outside : module ∉ addresses.toList) {target : Address}
    (known : target ∈ addresses.toList) {call : Call} {action : ParsedHoprChainAction Multiaddr}
    (reads : ReadsAs crate decoding addresses me false target call action) :
    ParsesAs crate decoding addresses module me (.ofCall target call) action := by
  have short := reads.readable.short
  refine ⟨?_, parseTransaction_direct outside known reads⟩
  show call.encode.length < _
  omega

include lawful in
theorem parsesAs_throughModule {target : Address} {call : Call}
    {action : ParsedHoprChainAction Multiaddr}
    (reads : ReadsAs crate decoding addresses me true target call action) :
    ParsesAs crate decoding addresses module me ((ChainMessage.ofCall target call).throughModule
      module) action := by
  have short := reads.readable.short
  have size := length_execCall_le target 0 call.encode 0
  refine ⟨?_, parseTransaction_throughModule lawful reads⟩
  show (Contracts.execTransactionFromModuleCall target 0 call.encode 0).encode.length < _
  omega

include textLawful lawful separate in
/-- The calls of the token contract, which are the same for a node and for its Safe. -/
theorem readsAs_shared (moduleCall : Bool) {call : PayloadCall Multiaddr}
    (invertible : Invertible crate addresses call) {message : ChainMessage}
    (sent : sharedMessage crate me addresses call = some message) :
    ∃ inner action, message = .ofCall addresses.token inner ∧
      actionOf me (payerOf moduleCall) call = some action ∧
      ReadsAs crate decoding addresses me moduleCall addresses.token inner action := by
  have token := @parseContractCall_token _ crate decoding _ separate me
  cases call with
  | approve spender amount =>
      have parsed := parseTokenCall_approve crate lawful addresses moduleCall spender amount.amount
      refine ⟨_, _, (Option.some.inj sent).symm, rfl, ?_, ?_⟩
      · exact readable_of_static approve_known rfl (by decide)
      · rw [token, parsed]
  | transfer currency destination amount =>
      obtain rfl : currency = WxHOPR := invertible
      have parsed :=
        parseTokenCall_transfer crate lawful addresses moduleCall destination amount.amount
      refine ⟨_, _, (Option.some.inj sent).symm, rfl, ?_, ?_⟩
      · exact readable_of_static transfer_known rfl (by decide)
      · rw [token, parsed]
  | sendErc777 recipient amount payload =>
      have short : (erc777Data payload).length ≤ isizeMax + 223 := by
        rw [← StaticBased.encodeErc777Payload_data, StaticBased.length_encodeErc777Payload]
        decide
      have readable := readable_sendCall recipient amount.amount short
      have parsed := parseTokenCall_send crate lawful addresses moduleCall invertible readable
      refine ⟨_, _, (Option.some.inj sent).symm, rfl, readable, ?_⟩
      rw [token, parsed]
  | announce announcement fee =>
      have parsed := parseTokenCall_announce lawful textLawful addresses moduleCall me fee.amount
        invertible
      refine ⟨_, _, (Option.some.inj sent).symm, rfl, ?_, ?_⟩
      · exact readable_sendCall _ _ (length_announcementData_le me announcement)
      · exact (token _ _).trans parsed
  | fundChannel dest amount => cases sent
  | closeIncomingChannel source => cases sent
  | initiateOutgoingChannelClosure destination => cases sent
  | finalizeOutgoingChannelClosure destination => cases sent
  | redeemTicket ackedTicket => cases sent
  | registerSafeByNode safeAddr => cases sent
  | deregisterNodeBySafe => cases sent
  | registerService serviceType metadata burn => cases sent
  | updateService serviceType metadata burn => cases sent
  | deregisterService serviceType => exact invertible.elim
  | deploySafe balance admins includeNode nonce => cases sent

theorem withOther_eq_some {other : Address} {call : Call} {message : ChainMessage}
    (sent : withOther me addresses other call = some message) :
    message = .ofCall addresses.channels call := by
  unfold withOther at sent
  by_cases self : other = me
  · rw [if_pos self] at sent
    cases sent
  · rw [if_neg self] at sent
    exact (Option.some.inj sent).symm

theorem redemption_eq_some {curve : Secp256k1}
    {redeemCall : Contracts.RedeemableTicket → Contracts.VRFParameters → Call}
    {ackedTicket : Internal.RedeemableTicket} {message : ChainMessage}
    (sent : redemption curve me addresses redeemCall ackedTicket = some message) :
    ∃ signature params, message =
      .ofCall addresses.channels (redeemCall (onChainTicket ackedTicket signature) params) := by
  unfold redemption at sent
  split at sent
  · rename_i signature sB _ _
    exact ⟨signature, _, (Option.some.inj sent).symm⟩
  · cases sent

/-- The index and the amount of a ticket from a builder are read back from the contract's. -/
theorem onChainTicket_read {ackedTicket : Internal.RedeemableTicket}
    (inBounds : ackedTicket.ticket.ticket.InBounds) (signature : ChainSignature) :
    let data := (onChainTicket ackedTicket signature).data
    BitVec.setWidth 64 data.ticketIndex = ackedTicket.ticket.ticket.index ∧
      balanceFromBeBytes 12 data.amount = ackedTicket.ticket.ticket.amount := by
  have index := inBounds.index_lt
  have amount := inBounds.amount_lt
  constructor
  · exact setWidth_index (by omega)
  · exact balanceFromBeBytes_setWidth (by omega)

include separate in
theorem readsAs_channels (moduleCall : Bool) {function : Function}
    (member : function ∈ (ChannelCalls.ofCaller moduleCall).functions)
    {arguments : Values function.inputs} {action : ParsedHoprChainAction Multiaddr}
    (parsed : (ChannelCalls.ofCaller moduleCall).parse decoding me
      (Call.encode ⟨function, arguments⟩) = .ok action) :
    ReadsAs crate decoding addresses me moduleCall addresses.channels ⟨function, arguments⟩
      action := by
  refine ⟨(ChannelCalls.ofCaller_lawful moduleCall).readable member arguments, ?_⟩
  rw [parseContractCall_channels separate, parsed]

include lawful separate

theorem readsAs_fundChannel (moduleCall : Bool) {dest : Address} {amount : HoprBalance}
    (fits : amount.amount.toNat ≤ ChannelBuilder.maxFundingAmount)
    {arguments : Values (ChannelCalls.ofCaller moduleCall).fundChannel.function.inputs}
    (used : (ChannelCalls.ofCaller moduleCall).fundChannel.use arguments =
      (dest, BitVec.setWidth 96 amount.amount)) :
    ReadsAs crate decoding addresses me moduleCall addresses.channels ⟨_, arguments⟩
      (.fundChannel dest amount) := by
  have narrow : amount.amount.toNat < 2 ^ 96 := lt_of_le_of_lt fits (by decide)
  have parsed := @ChannelCalls.parse_fundChannel Multiaddr _ _ _
    (ChannelCalls.ofCaller_lawful moduleCall) lawful me arguments
  rw [used] at parsed
  dsimp only at parsed
  rw [balanceFromBeBytes_setWidth narrow] at parsed
  exact readsAs_channels separate moduleCall (by simp [ChannelCalls.functions]) parsed

theorem readsAs_initiateOutgoingChannelClosure (moduleCall : Bool) {destination : Address}
    {arguments :
      Values (ChannelCalls.ofCaller moduleCall).initiateOutgoingChannelClosure.function.inputs}
    (used : (ChannelCalls.ofCaller moduleCall).initiateOutgoingChannelClosure.use arguments =
      destination) :
    ReadsAs crate decoding addresses me moduleCall addresses.channels ⟨_, arguments⟩
      (.initializeChannelClosure (generateChannelId me destination)) := by
  have parsed := @ChannelCalls.parse_initiateOutgoingChannelClosure Multiaddr _ _ _
    (ChannelCalls.ofCaller_lawful moduleCall) lawful me arguments
  rw [used] at parsed
  exact readsAs_channels separate moduleCall (by simp [ChannelCalls.functions]) parsed

theorem readsAs_finalizeOutgoingChannelClosure (moduleCall : Bool) {destination : Address}
    {arguments :
      Values (ChannelCalls.ofCaller moduleCall).finalizeOutgoingChannelClosure.function.inputs}
    (used : (ChannelCalls.ofCaller moduleCall).finalizeOutgoingChannelClosure.use arguments =
      destination) :
    ReadsAs crate decoding addresses me moduleCall addresses.channels ⟨_, arguments⟩
      (.finalizeChannelClosure (generateChannelId me destination)) := by
  have parsed := @ChannelCalls.parse_finalizeOutgoingChannelClosure Multiaddr _ _ _
    (ChannelCalls.ofCaller_lawful moduleCall) lawful me arguments
  rw [used] at parsed
  exact readsAs_channels separate moduleCall (by simp [ChannelCalls.functions]) parsed

theorem readsAs_closeIncomingChannel (moduleCall : Bool) {source : Address}
    {arguments : Values (ChannelCalls.ofCaller moduleCall).closeIncomingChannel.function.inputs}
    (used : (ChannelCalls.ofCaller moduleCall).closeIncomingChannel.use arguments = source) :
    ReadsAs crate decoding addresses me moduleCall addresses.channels ⟨_, arguments⟩
      (.incomingChannelClosure (generateChannelId source me)) := by
  have parsed := @ChannelCalls.parse_closeIncomingChannel Multiaddr _ _ _
    (ChannelCalls.ofCaller_lawful moduleCall) lawful me arguments
  rw [used] at parsed
  exact readsAs_channels separate moduleCall (by simp [ChannelCalls.functions]) parsed

theorem readsAs_redeemTicket (moduleCall : Bool) {ackedTicket : Internal.RedeemableTicket}
    {signature : ChainSignature}
    (built : ∃ builder : TicketBuilder, builder.build = .ok ackedTicket.ticket.ticket)
    {arguments : Values (ChannelCalls.ofCaller moduleCall).redeemTicket.function.inputs}
    (used : (ChannelCalls.ofCaller moduleCall).redeemTicket.use arguments =
      (onChainTicket ackedTicket signature).data) :
    ReadsAs crate decoding addresses me moduleCall addresses.channels ⟨_, arguments⟩
      (.redeemTicket ackedTicket.ticket.channelId ackedTicket.ticket.ticket.index
        ackedTicket.ticket.ticket.amount) := by
  have inBounds := (TicketBuilder.exists_build_iff _).mp built
  obtain ⟨index, amount⟩ := onChainTicket_read inBounds signature
  have parsed := @ChannelCalls.parse_redeemTicket Multiaddr _ _ _
    (ChannelCalls.ofCaller_lawful moduleCall) lawful me arguments
  rw [used, index, amount] at parsed
  exact readsAs_channels separate moduleCall (by simp [ChannelCalls.functions]) parsed

include textLawful

theorem parsesAs_basicMessage {curve : Secp256k1} (outside : module ∉ addresses.toList)
    {call : PayloadCall Multiaddr} (invertible : Invertible crate addresses call)
    {message : ChainMessage} (sent : basicMessage crate curve me addresses call = some message) :
    ∃ action, actionOf me .eoa call = some action ∧
      ParsesAs crate decoding addresses module me message action := by
  have token : addresses.token ∈ addresses.toList := by simp [ContractAddresses.toList]
  have channels : addresses.channels ∈ addresses.toList := by simp [ContractAddresses.toList]
  have registry : addresses.nodeSafeRegistry ∈ addresses.toList := by
    simp [ContractAddresses.toList]
  have shared : sharedMessage crate me addresses call = some message →
      ∃ action, actionOf me .eoa call = some action ∧
        ParsesAs crate decoding addresses module me message action := by
    intro sent
    obtain ⟨inner, action, rfl, stands, reads⟩ :=
      readsAs_shared textLawful lawful separate false invertible sent
    exact ⟨action, stands, parsesAs_direct outside token reads⟩
  cases call with
  | approve spender amount => exact shared sent
  | transfer currency destination amount => exact shared sent
  | sendErc777 recipient amount payload => exact shared sent
  | announce announcement fee => exact shared sent
  | deregisterService serviceType => exact shared sent
  | fundChannel dest amount =>
      obtain rfl := withOther_eq_some sent
      have reads := @readsAs_fundChannel _ crate _ _ lawful _ separate me false dest amount
        invertible (dest, BitVec.setWidth 96 amount.amount, ()) rfl
      exact ⟨_, rfl, parsesAs_direct outside channels reads⟩
  | initiateOutgoingChannelClosure destination =>
      obtain rfl := withOther_eq_some sent
      have reads := @readsAs_initiateOutgoingChannelClosure _ crate _ _ lawful _ separate me false
        destination (destination, ()) rfl
      exact ⟨_, rfl, parsesAs_direct outside channels reads⟩
  | finalizeOutgoingChannelClosure destination =>
      obtain rfl := withOther_eq_some sent
      have reads := @readsAs_finalizeOutgoingChannelClosure _ crate _ _ lawful _ separate me false
        destination (destination, ()) rfl
      exact ⟨_, rfl, parsesAs_direct outside channels reads⟩
  | closeIncomingChannel source =>
      obtain rfl := withOther_eq_some sent
      have reads := @readsAs_closeIncomingChannel _ crate _ _ lawful _ separate me false
        source (source, ()) rfl
      exact ⟨_, rfl, parsesAs_direct outside channels reads⟩
  | redeemTicket ackedTicket =>
      obtain ⟨signature, params, rfl⟩ := redemption_eq_some sent
      have reads := @readsAs_redeemTicket _ crate _ _ lawful _ separate me false ackedTicket
        signature invertible ((onChainTicket ackedTicket signature).values, params.values, ()) rfl
      exact ⟨_, rfl, parsesAs_direct outside channels reads⟩
  | registerSafeByNode safeAddr =>
      obtain rfl := Option.some.inj sent
      have reads := @readsAs_registerSafeByNode _ crate _ _ lawful addresses me safeAddr false
      exact ⟨_, rfl, parsesAs_direct outside registry reads⟩
  | deregisterNodeBySafe => exact invertible.elim
  | registerService serviceType metadata burn => exact invertible.elim
  | updateService serviceType metadata burn => exact invertible.elim
  | deploySafe balance admins includeNode nonce => exact invertible.elim

theorem parsesAs_safeMessage {curve : Secp256k1} (outside : module ∉ addresses.toList)
    {call : PayloadCall Multiaddr} (invertible : Invertible crate addresses call)
    {message : ChainMessage}
    (sent : safeMessage crate curve me addresses module call = some message) :
    ∃ action, actionOf me .safe call = some action ∧
      ParsesAs crate decoding addresses module me message action := by
  have registry : addresses.nodeSafeRegistry ∈ addresses.toList := by
    simp [ContractAddresses.toList]
  have shared : (sharedMessage crate me addresses call).map (.throughModule module) =
      some message → ∃ action, actionOf me .safe call = some action ∧
        ParsesAs crate decoding addresses module me message action := by
    intro sent
    obtain ⟨direct, sentDirect, rfl⟩ := Option.map_eq_some_iff.mp sent
    obtain ⟨inner, action, rfl, stands, reads⟩ :=
      readsAs_shared textLawful lawful separate true invertible sentDirect
    exact ⟨action, stands, parsesAs_throughModule lawful reads⟩
  cases call with
  | approve spender amount => exact shared sent
  | transfer currency destination amount => exact shared sent
  | sendErc777 recipient amount payload => exact shared sent
  | announce announcement fee => exact shared sent
  | deregisterService serviceType => exact shared sent
  | fundChannel dest amount =>
      have small : ¬ amount.amount.toNat > ChannelBuilder.maxFundingAmount :=
        Nat.not_lt.mpr invertible
      rw [safeMessage, if_neg small] at sent
      obtain ⟨direct, sentDirect, rfl⟩ := Option.map_eq_some_iff.mp sent
      obtain rfl := withOther_eq_some sentDirect
      have reads := @readsAs_fundChannel _ crate _ _ lawful _ separate me true dest amount
        invertible (me, dest, BitVec.setWidth 96 amount.amount, ()) rfl
      exact ⟨_, rfl, parsesAs_throughModule lawful reads⟩
  | initiateOutgoingChannelClosure destination =>
      obtain ⟨direct, sentDirect, rfl⟩ := Option.map_eq_some_iff.mp sent
      obtain rfl := withOther_eq_some sentDirect
      have reads := @readsAs_initiateOutgoingChannelClosure _ crate _ _ lawful _ separate me true
        destination (me, destination, ()) rfl
      exact ⟨_, rfl, parsesAs_throughModule lawful reads⟩
  | finalizeOutgoingChannelClosure destination =>
      obtain ⟨direct, sentDirect, rfl⟩ := Option.map_eq_some_iff.mp sent
      obtain rfl := withOther_eq_some sentDirect
      have reads := @readsAs_finalizeOutgoingChannelClosure _ crate _ _ lawful _ separate me true
        destination (me, destination, ()) rfl
      exact ⟨_, rfl, parsesAs_throughModule lawful reads⟩
  | closeIncomingChannel source =>
      obtain ⟨direct, sentDirect, rfl⟩ := Option.map_eq_some_iff.mp sent
      obtain rfl := withOther_eq_some sentDirect
      have reads := @readsAs_closeIncomingChannel _ crate _ _ lawful _ separate me true
        source (me, source, ()) rfl
      exact ⟨_, rfl, parsesAs_throughModule lawful reads⟩
  | redeemTicket ackedTicket =>
      obtain ⟨direct, sentDirect, rfl⟩ := Option.map_eq_some_iff.mp sent
      obtain ⟨signature, params, rfl⟩ := redemption_eq_some sentDirect
      have reads := @readsAs_redeemTicket _ crate _ _ lawful _ separate me true ackedTicket
        signature invertible
        (me, (onChainTicket ackedTicket signature).values, params.values, ()) rfl
      exact ⟨_, rfl, parsesAs_throughModule lawful reads⟩
  | registerSafeByNode safeAddr =>
      obtain rfl := Option.some.inj sent
      have reads := @readsAs_registerSafeByNode _ crate _ _ lawful addresses me safeAddr false
      exact ⟨_, rfl, parsesAs_direct outside registry reads⟩
  | deregisterNodeBySafe => exact invertible.elim
  | registerService serviceType metadata burn => exact invertible.elim
  | updateService serviceType metadata burn => exact invertible.elim
  | deploySafe balance admins includeNode nonce => exact invertible.elim

end

/-! ## Signed transactions -/

section

variable {Multiaddr : Type} {crate : MultiaddrCrate Multiaddr}
  (textLawful : MultiaddrTextLawful crate) {decoding : AlloyDecoding}
  {alloy : BindingsBased.AlloyTransactions} (alloyLawful : alloy.Lawful)
  (lawful : decoding.Lawful alloy) {signer : PrehashSigner} {curve : Secp256k1}
  (recovers : decoding.Recovers signer curve) {keypair : ChainKeypair curve}
  {addresses : ContractAddresses} {module : Address}

def ParsedBack (crate : MultiaddrCrate Multiaddr) (decoding : AlloyDecoding)
    (alloy : BindingsBased.AlloyTransactions) (signer : PrehashSigner)
    (keypair : ChainKeypair curve) (addresses : ContractAddresses) (module : Address)
    (payer : Payer) (call : PayloadCall Multiaddr) (request : BindingsBased.TransactionRequest) :
    Prop :=
  ∀ (nonce chainId : U64) (maxGas : Option GasEstimation), ∃ bytes action,
    request.signAndEncodeToEip2718 alloy signer nonce chainId maxGas keypair.secret = .ok bytes ∧
      actionOf keypair.address payer call = some action ∧
      parseFromEip2718 crate decoding bytes module addresses = .ok (action, keypair.address)

include alloyLawful lawful recovers

/-- A request that sends a message is signed, and its bytes are parsed like the message. -/
theorem parseFromEip2718_run {message : ChainMessage}
    (short : message.calldata.length < 2 ^ 63 + 2048)
    {request : BindingsBased.TransactionRequest}
    (recipient : request.toAddress = some message.recipient)
    (value : request.value.getD 0 = message.value)
    (input : request.input.getD [] = message.calldata) (nonce chainId : U64)
    (maxGas : Option GasEstimation) :
    ∃ bytes,
      request.signAndEncodeToEip2718 alloy signer nonce chainId maxGas keypair.secret =
          .ok bytes ∧
        parseFromEip2718 crate decoding bytes module addresses =
          parseTransaction crate decoding addresses module keypair.address message.recipient
            message.value message.calldata >>= fun action => .ok (action, keypair.address) := by
  let tx := request.toTx nonce chainId (maxGas.getD .default)
  obtain ⟨raw, signed⟩ := recovers.signs keypair tx.signingHash
  let envelope := BindingsBased.SignedTx.ofRaw tx raw
  have run := BindingsBased.TransactionRequest.signAndEncode_run alloyLawful signer recipient nonce
    chainId maxGas keypair.secret
  dsimp only at run
  rw [signed] at run
  refine ⟨alloy.encoded2718 envelope, run, ?_⟩
  have txInput : tx.input = message.calldata := input
  have size : (alloy.encoded2718 envelope).length < 2 ^ 64 := by
    rw [alloyLawful.encodes]
    exact TxEip1559.length_encoded2718_lt (txInput ▸ short) raw.isYOdd envelope.r envelope.s
  have decoded := lawful.decodes envelope size
  have sender := recovers.recovers keypair tx raw signed
  have target : (TxEnvelope.ofSigned envelope).toAddress = some message.recipient := recipient
  have sentValue : (TxEnvelope.ofSigned envelope).value = message.value := value
  have sentInput : (TxEnvelope.ofSigned envelope).input = message.calldata := input
  unfold parseFromEip2718
  rw [decoded]
  dsimp only [Except.mapErr, Outcome.lift]
  rw [ok_bind, sender]
  dsimp only [Except.mapErr, Outcome.lift]
  rw [ok_bind, target, sentValue, sentInput]
  rfl

theorem parseFromEip2718_signed {message : ChainMessage} {action : ParsedHoprChainAction Multiaddr}
    (parses : ParsesAs crate decoding addresses module keypair.address message action)
    {request : BindingsBased.TransactionRequest}
    (recipient : request.toAddress = some message.recipient)
    (value : request.value.getD 0 = message.value)
    (input : request.input.getD [] = message.calldata) (nonce chainId : U64)
    (maxGas : Option GasEstimation) :
    ∃ bytes,
      request.signAndEncodeToEip2718 alloy signer nonce chainId maxGas keypair.secret =
          .ok bytes ∧
        parseFromEip2718 crate decoding bytes module addresses = .ok (action, keypair.address) := by
  obtain ⟨bytes, signed, parsed⟩ := @parseFromEip2718_run _ crate _ _ alloyLawful lawful _ _
    recovers keypair addresses module _ parses.short _ recipient value input nonce chainId maxGas
  refine ⟨bytes, signed, ?_⟩
  rw [parsed, parses.parsed, ok_bind]

end

theorem sent_of_generated {outcome : Outcome ChainTypesError BindingsBased.TransactionRequest}
    {message : Option ChainMessage} (sends : BindingsBased.Sends outcome message)
    {request : BindingsBased.TransactionRequest} (generated : outcome = .ok request) :
    ∃ sent, message = some sent ∧ request.toAddress = some sent.recipient ∧
      request.value.getD 0 = sent.value ∧ request.input.getD [] = sent.calldata := by
  cases message with
  | none =>
      obtain ⟨cause, refused⟩ := sends
      rw [generated] at refused
      cases refused
  | some sent =>
      obtain ⟨built, same, fields⟩ := sends
      obtain rfl : request = built := Except.ok.inj (generated.symm.trans same)
      exact ⟨sent, rfl, fields⟩

section

variable {Multiaddr : Type} {crate : MultiaddrCrate Multiaddr} {curve : Secp256k1}
  {text : BindingsBased.AlloyText} {call : PayloadCall Multiaddr}
  {request : BindingsBased.TransactionRequest}

theorem hasWitnesses_of_basic {generator : BindingsBased.BasicPayloadGenerator}
    (generated : generator.generate crate curve text call = .ok request) :
    HasWitnesses curve generator.me call := by
  intro ackedTicket same
  subst same
  obtain ⟨redeemable, _, generated⟩ := bind_eq_ok.mp generated
  obtain ⟨params, converted, _⟩ := bind_eq_ok.mp generated
  exact vrfWitnesses_of_convert converted

theorem hasWitnesses_of_safe {generator : BindingsBased.SafePayloadGenerator}
    (generated : generator.generate crate curve call = .ok request) :
    HasWitnesses curve generator.me call := by
  intro ackedTicket same
  subst same
  obtain ⟨redeemable, _, generated⟩ := bind_eq_ok.mp generated
  obtain ⟨params, converted, _⟩ := bind_eq_ok.mp generated
  exact vrfWitnesses_of_convert converted

end

/-- The parser inverts the generators: a call that a generator over the bindings builds a
transaction for is parsed back from the signed transaction as its action, with the node itself
as the payer for the basic generator and its Safe for the other one. -/
theorem parser_inverts_generators {Multiaddr : Type} {crate : MultiaddrCrate Multiaddr}
    (textLawful : MultiaddrTextLawful crate) (curve : Secp256k1) (text : BindingsBased.AlloyText)
    {alloy : BindingsBased.AlloyTransactions} (alloyLawful : alloy.Lawful)
    {decoding : AlloyDecoding} (lawful : decoding.Lawful alloy) {signer : PrehashSigner}
    (recovers : decoding.Recovers signer curve) (keypair : ChainKeypair curve)
    {addresses : ContractAddresses} (separate : addresses.Separate) {module : Address}
    (outside : module ∉ addresses.toList) (call : PayloadCall Multiaddr)
    (invertible : Invertible crate addresses call) (request : BindingsBased.TransactionRequest) :
    ((⟨keypair.address, addresses⟩ : BindingsBased.BasicPayloadGenerator).generate crate curve
        text call = .ok request →
      ParsedBack crate decoding alloy signer keypair addresses module .eoa call request) ∧
    ((⟨keypair.address, addresses, module⟩ : BindingsBased.SafePayloadGenerator).generate crate
        curve call = .ok request →
      ParsedBack crate decoding alloy signer keypair addresses module .safe call request) := by
  constructor
  · intro generated nonce chainId maxGas
    have noDeployment : (∃ balance admins includeNode nonce,
        call = .deploySafe balance admins includeNode nonce) → text.Lawful := by
      rintro ⟨balance, admins, includeNode, nonce, rfl⟩
      exact invertible.elim
    have sends := BindingsBased.basic_sends crate ⟨keypair.address, addresses⟩ call noDeployment
      (hasWitnesses_of_basic generated)
    obtain ⟨message, sent, recipient, value, input⟩ := sent_of_generated sends generated
    obtain ⟨action, stands, parses⟩ :=
      parsesAs_basicMessage textLawful lawful separate outside invertible sent
    obtain ⟨bytes, signed, parsed⟩ := parseFromEip2718_signed alloyLawful lawful recovers parses
      recipient value input nonce chainId maxGas
    exact ⟨bytes, action, signed, stands, parsed⟩
  · intro generated nonce chainId maxGas
    have sends := BindingsBased.safe_sends crate ⟨keypair.address, addresses, module⟩ call
      (hasWitnesses_of_safe generated)
    obtain ⟨message, sent, recipient, value, input⟩ := sent_of_generated sends generated
    obtain ⟨action, stands, parses⟩ :=
      parsesAs_safeMessage textLawful lawful separate outside invertible sent
    obtain ⟨bytes, signed, parsed⟩ := parseFromEip2718_signed alloyLawful lawful recovers parses
      recipient value input nonce chainId maxGas
    exact ⟨bytes, action, signed, stands, parsed⟩

/-! ## An approval by the secret 1 -/

def txOfContents : List Bytes → Option BindingsBased.SignedTx
  | [chainId, nonce, priorityFee, fee, gas, recipient, value, input, _, y, r, s] =>
      some
        { tx :=
            { chainId := fromBeBytes 64 chainId
              nonce := fromBeBytes 64 nonce
              maxPriorityFeePerGas := fromBeBytes 128 priorityFee
              maxFeePerGas := fromBeBytes 128 fee
              gasLimit := fromBeBytes 64 gas
              toAddress :=
                if size : recipient.length = 20 then some ⟨recipient, size⟩ else none
              value := fromBeBytes 256 value
              input := input }
          isYOdd := decide (ofBE y = 1)
          r := fromBeBytes 256 r
          s := fromBeBytes 256 s }
  | _ => none

def readEnvelope : Bytes → Option TxEnvelope
  | 0x02 :: bytes => do
      let front ← readFront bytes
      let items ← readItems 12 front.content
      let signed ← txOfContents (items.map Prod.snd)
      some (.ofSigned signed)
  | _ => none

/-- The documented decoders, with one signature whose signer is known. -/
def knownDecoding (raw : RawSignature) (account : Address) : AlloyDecoding where
  decode2718Exact bytes := okOr "not a transaction" (readEnvelope bytes)
  recoverSigner envelope :=
    if envelope.r = fromBeBytes 256 raw.r.toList ∧ envelope.s = fromBeBytes 256 raw.s.toList then
      .ok account
    else .error "not the known signature"
  abiDecodeCall function data := okOr "not such a call" (function.decodeCall data)
  abiDecode ty data := okOr "not such a value" (decodeSingle ty data)

theorem fromBeBytes_minimalBE {bits : Nat} (value : BitVec bits) :
    fromBeBytes bits (minimalBE value.toNat) = value := by
  rw [fromBeBytes, ofBE_minimalBE, BitVec.ofNat_toNat, BitVec.setWidth_eq]

theorem txOfContents_signedFields (signed : BindingsBased.SignedTx) :
    txOfContents (((signed.tx.signedFields signed.isYOdd signed.r signed.s).map Item.front).map
      Prod.snd) = some signed := by
  obtain ⟨tx, isYOdd, r, s⟩ := signed
  have recipient : (if size : (recipientField tx.toAddress).front.2.length = 20 then
      some (⟨(recipientField tx.toAddress).front.2, size⟩ : Address) else none) = tx.toAddress := by
    cases sent : tx.toAddress with
    | none => rfl
    | some address => exact dif_pos address.length_toList
  have parity : decide (ofBE (minimalBE isYOdd.toNat) = 1) = isYOdd := by
    rw [ofBE_minimalBE]
    cases isYOdd <;> rfl
  have integer : ∀ number, (Item.uint number).front.2 = minimalBE number := fun _ => rfl
  have input : (Item.string tx.input).front.2 = tx.input := rfl
  simp only [TxEip1559.signedFields, TxEip1559.fields, List.cons_append, List.nil_append,
    List.map_cons, List.map_nil, txOfContents, integer, input, fromBeBytes_minimalBE, recipient,
    parity]

theorem knownDecoding_lawful (raw : RawSignature) (account : Address) :
    (knownDecoding raw account).Lawful canonicalAlloy where
  decodes := by
    intro signed short
    let items := signed.tx.signedFields signed.isYOdd signed.r signed.s
    have envelope : canonicalAlloy.encoded2718 signed = 0x02 :: encodeList (encodeAll items) := by
      show typedEnvelope items = _
      rw [typedEnvelope, Rlp.encode]
    have size : (canonicalAlloy.encoded2718 signed).length =
        (encodeList (encodeAll items)).length + 1 := by
      rw [envelope, List.length_cons]
    have payload := length_content_le (.list items)
    rw [Rlp.encode] at payload
    have inner : (encodeAll items).length < 2 ^ 64 :=
      lt_of_le_of_lt payload (by omega)
    have contents : ∀ item ∈ items, item.front.2.length < 2 ^ 64 := by
      intro item member
      have content := length_content_le item
      have whole := length_encode_le_encodeAll member
      omega
    have front := readFront_encodeList [] inner
    rw [List.append_nil] at front
    have read := readItems_encodeAll contents
    have fields := txOfContents_signedFields signed
    show okOr _ (readEnvelope _) = _
    rw [envelope]
    show okOr _ (readFront _ >>= fun front => readItems 12 front.content >>= fun items =>
      txOfContents (items.map Prod.snd) >>= fun signed => some (TxEnvelope.ofSigned signed)) = _
    rw [front, Option.bind_eq_bind, Option.bind_some]
    have count : items.length = 12 := rfl
    rw [count] at read
    rw [read, Option.bind_eq_bind, Option.bind_some, fields]
    rfl
  readsCall := by
    intro call wellFormed _ short
    have decoded := decodeCall_encode wellFormed (lt_trans short (by norm_num))
    exact okOr_eq_ok.mpr decoded
  refuses := by
    intro function data different
    refine ⟨"not such a call", ?_⟩
    show okOr _ (function.decodeCall data) = _
    rw [Function.decodeCall, if_neg different]
    rfl
  reads := by
    intro ty value wellFormed _ short
    have decoded := decodeSingle_encodeSingle wellFormed value (lt_trans short (by norm_num))
    exact okOr_eq_ok.mpr decoded

theorem knownDecoding_recovers (raw : RawSignature) :
    (knownDecoding raw oneKey.address).Recovers (fun _ _ => .ok raw) oneKeyCurve where
  signs _ _ := ⟨raw, rfl⟩
  recovers := by
    intro keypair tx given signed
    obtain rfl := Except.ok.inj signed
    have account : keypair.address = oneKey.address := by
      rw [ChainKeypair.address, fromPrivkey_oneKeyCurve keypair.derived]
      rfl
    rw [account]
    exact if_pos ⟨rfl, rfl⟩

theorem loopback_textLawful : MultiaddrTextLawful loopback where
  text_ne_nil := by
    intro _ _
    show utf8 "/ip4/127.0.0.1/tcp/10000" ≠ []
    decide
  parses := by
    intro _ _
    unfold loopback
    dsimp only
    rw [if_pos rfl]

theorem sampleAddresses_separate : sampleAddresses.Separate := by
  unfold ContractAddresses.Separate
  decide

theorem parser_inverts_generators_sample :
    ParsedBack loopback (knownDecoding fullSignature oneKey.address) canonicalAlloy
      (fun _ _ => .ok fullSignature) oneKeyPair sampleAddresses
      (beBytes 20 0xbbbbbbbbbbbbbbbbbbbbbbbbbbbbbbbbbbbbbbbb) .eoa
      (.approve sampleAddresses.channels ⟨1⟩) sampleTypedApproval :=
  (parser_inverts_generators loopback_textLawful oneKeyCurve hexText canonicalAlloy_lawful
    (knownDecoding_lawful fullSignature oneKey.address) (knownDecoding_recovers fullSignature)
    oneKeyPair sampleAddresses_separate (by decide) (.approve sampleAddresses.channels ⟨1⟩) trivial
    sampleTypedApproval).1 rfl

end HoprTypes.Chain
