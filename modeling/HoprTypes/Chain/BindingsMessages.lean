import HoprTypes.Chain.StaticMessages

/-!
# The messages of the generators over the bindings

These generators send the same messages, which makes the two implementations agree.
-/

set_option autoImplicit false

namespace HoprTypes.Chain

open BigEndian Abi HoprTypes.Primitive HoprTypes.Crypto HoprTypes.Internal

namespace BindingsBased

/-- Requests of the bindings leave out a zero value and empty data. -/
def Sends (outcome : Outcome ChainTypesError TransactionRequest) :
    Option ChainMessage → Prop
  | none => outcome.IsErr
  | some message => ∃ request, outcome = .ok request ∧
      request.toAddress = some message.recipient ∧
      request.value.getD 0 = message.value ∧ request.input.getD [] = message.calldata

variable {Multiaddr : Type} (crate : MultiaddrCrate Multiaddr) {curve : Secp256k1}
  {text : AlloyText}

theorem sends_call {recipient : Address} {call : Call} {callData : Bytes}
    (same : callData = call.encode) :
    Sends (.ok ((TransactionRequest.withInput {} callData).withTo recipient))
      (some (.ofCall recipient call)) :=
  ⟨_, rfl, rfl, rfl, same⟩

theorem sends_modulePayload (generator : SafePayloadGenerator)
    {message : ChainMessage} {callData : Bytes} (same : callData = message.calldata) :
    Sends (.ok (generator.moduleTx (modulePayload message.recipient message.value callData)))
      (some (message.throughModule generator.module)) := by
  refine ⟨_, rfl, rfl, rfl, ?_⟩
  rw [same]
  rfl

theorem sends_moduleCall (generator : SafePayloadGenerator) {recipient : Address}
    {call : Call} {callData : Bytes} (same : callData = call.encode) :
    Sends (.ok (generator.moduleTx (modulePayload recipient 0 callData)))
      (some ((ChainMessage.ofCall recipient call).throughModule generator.module)) :=
  @sends_modulePayload generator (.ofCall recipient call) callData same

theorem basic_channelTx (generator : BasicPayloadGenerator) (other : Address)
    (message : String) (call : Call) :
    Sends (.lift (generator.channelTx other message call))
      (withOther generator.me generator.contractAddrs other call) := by
  unfold BasicPayloadGenerator.channelTx withOther
  by_cases self : other = generator.me
  · rw [if_pos self, if_pos self]
    exact isErr_fail _
  · rw [if_neg self, if_neg self]
    exact sends_call rfl

theorem safe_channelTx (generator : SafePayloadGenerator) (other : Address)
    (message : String) (call : Call) :
    Sends (.lift (generator.channelTx other message call))
      ((withOther generator.me generator.contractAddrs other call).map
        (.throughModule generator.module)) := by
  unfold SafePayloadGenerator.channelTx withOther
  by_cases self : other = generator.me
  · rw [if_pos self, if_pos self]
    exact isErr_fail _
  · rw [if_neg self, if_neg self]
    exact sends_moduleCall generator rfl

theorem amount96_eq (amount : U256) :
    fromBeSlice 96 ((toBe32 amount).drop (32 - 12)) = BitVec.setWidth 96 amount :=
  fromBeSlice_eq 20 (show 256 ^ 12 = 2 ^ 96 by norm_num) amount

theorem encodeErc777Payload_data (payload : Erc777Payload) :
    encodeErc777Payload payload = erc777Data payload := by
  obtain ⟨⟨aggregator, note⟩⟩ := payload
  simp only [encodeErc777Payload, fromBeSlice_toBe32, erc777Data]

theorem announceCall_eq (me announcements : Address)
    (announcement : AnnouncementData Multiaddr) (fee : HoprBalance) :
    announceCall crate me announcements announcement fee =
      Contracts.sendCall announcements fee.amount
        (encode Contracts.keyBindAndAnnouncePayloadTy
          (keyBindAndAnnounce crate me announcement).values) := by
  have tail : ∀ value, (encodeSingle Contracts.keyBindAndAnnouncePayloadTy value).drop 32 =
      encode Contracts.keyBindAndAnnouncePayloadTy value := by
    intro value
    rw [encodeSingle_of_dynamic rfl, List.drop_left' (length_toBE 32 32)]
  unfold announceCall
  dsimp only
  rw [fromBeSlice_toBe32, tail]
  rfl

theorem notToken_of_native {currency : Currency} (native : XDai.is currency = true) :
    WxHOPR.is currency = false := by
  cases token : WxHOPR.is currency with
  | true =>
      have names : XDai.name = WxHOPR.name := by
        rw [eq_of_beq native, eq_of_beq token]
      exact absurd names (by decide)
  | false => rfl

theorem basic_transfer (generator : BasicPayloadGenerator) (currency : Currency)
    (destination : Address) (amount : Balance currency) :
    Sends (generator.transfer currency destination amount)
      (tokenTransfer generator.contractAddrs currency destination amount) := by
  unfold BasicPayloadGenerator.transfer tokenTransfer transferTx
  rw [fromBeSlice_toBe32]
  cases native : XDai.is currency with
  | true =>
      rw [notToken_of_native native]
      exact ⟨_, rfl, rfl, rfl, rfl⟩
  | false =>
      cases token : WxHOPR.is currency with
      | true => exact sends_call rfl
      | false => exact isErr_fail _

theorem safe_transfer (generator : SafePayloadGenerator) (currency : Currency)
    (destination : Address) (amount : Balance currency) :
    Sends (.lift (generator.transfer currency destination amount))
      ((tokenTransfer generator.contractAddrs currency destination amount).map
        (.throughModule generator.module)) := by
  unfold SafePayloadGenerator.transfer tokenTransfer
  rw [fromBeSlice_toBe32]
  cases native : XDai.is currency with
  | true =>
      rw [notToken_of_native native]
      exact @sends_modulePayload generator ⟨destination, amount.amount, none⟩ [] rfl
  | false =>
      cases token : WxHOPR.is currency with
      | true => exact sends_moduleCall generator rfl
      | false => exact isErr_fail _

theorem basic_fundChannel (generator : BasicPayloadGenerator) (dest : Address)
    (amount : HoprBalance) :
    Sends (.lift (generator.fundChannel dest amount))
      (withOther generator.me generator.contractAddrs dest
        (Contracts.fundChannelCall dest (BitVec.setWidth 96 amount.amount))) := by
  unfold BasicPayloadGenerator.fundChannel
  rw [amount96_eq]
  exact basic_channelTx generator dest _ _

theorem safe_fundChannel (generator : SafePayloadGenerator) (dest : Address)
    (amount : HoprBalance) :
    Sends (.lift (generator.fundChannel dest amount))
      (if amount.amount.toNat > ChannelBuilder.maxFundingAmount then none
        else (withOther generator.me generator.contractAddrs dest
          (Contracts.fundChannelSafeCall generator.me dest
            (BitVec.setWidth 96 amount.amount))).map (.throughModule generator.module)) := by
  unfold SafePayloadGenerator.fundChannel
  rw [amount96_eq]
  by_cases large : amount.amount.toNat > ChannelBuilder.maxFundingAmount
  · rw [if_pos large, if_pos large]
    by_cases self : dest = generator.me
    · rw [if_pos self]
      exact isErr_fail _
    · rw [if_neg self]
      exact isErr_fail _
  · rw [if_neg large, if_neg large]
    exact safe_channelTx generator dest "cannot fund channel to self"
      (Contracts.fundChannelSafeCall generator.me dest (BitVec.setWidth 96 amount.amount))

theorem basic_redeemTicket (generator : BasicPayloadGenerator)
    {ackedTicket : Internal.RedeemableTicket}
    (witnesses : VrfWitnesses curve ackedTicket generator.me) :
    Sends (generator.redeemTicket curve ackedTicket)
      (redemption curve generator.me generator.contractAddrs Contracts.redeemTicketCall
        ackedTicket) := by
  obtain ⟨sB, derived, _⟩ := witnesses.sB
  unfold BasicPayloadGenerator.redeemTicket redemption
  cases signed : ackedTicket.ticket.ticket.signature with
  | none =>
      rw [(redeem_unsigned signed).2]
      exact isErr_fail _
  | some signature =>
      rw [convertAcknowledgedTicket_eq signed, convertVrfParameters_eq witnesses derived, derived]
      exact sends_call rfl

theorem safe_redeemTicket (generator : SafePayloadGenerator)
    {ackedTicket : Internal.RedeemableTicket}
    (witnesses : VrfWitnesses curve ackedTicket generator.me) :
    Sends (generator.redeemTicket curve ackedTicket)
      ((redemption curve generator.me generator.contractAddrs
        (Contracts.redeemTicketSafeCall generator.me) ackedTicket).map
          (.throughModule generator.module)) := by
  obtain ⟨sB, derived, _⟩ := witnesses.sB
  unfold SafePayloadGenerator.redeemTicket redemption
  cases signed : ackedTicket.ticket.ticket.signature with
  | none =>
      rw [(redeem_unsigned signed).2]
      exact isErr_fail _
  | some signature =>
      rw [convertAcknowledgedTicket_eq signed, convertVrfParameters_eq witnesses derived, derived]
      exact sends_moduleCall generator rfl

theorem basic_deploySafe (lawful : text.Lawful) (generator : BasicPayloadGenerator)
    (balance : HoprBalance) (admins : BoundedVec Address (isizeMax / 20)) (includeNode : Bool)
    (nonce : FixedBytes 32) :
    Sends (.lift (generator.deploySafe text balance admins.toList includeNode nonce))
      (some (.ofCall generator.contractAddrs.token
        (Contracts.sendCall generator.contractAddrs.nodeStakeFactory balance.amount
          (encode Contracts.userDataTy (safeUserData generator.contractAddrs.channels
            admins.toList includeNode nonce).values)))) := by
  let permissions : FixedBytes 12 := beBytes 12 0x010103030303030303030303
  have permissionsText : BasicPayloadGenerator.defaultCapabilityPermissions =
      hexEncode permissions.toList := by decide +kernel
  have target := lawful.reads generator.contractAddrs.channels permissions
  have size : (generator.contractAddrs.channels.toList ++ permissions.toList).length = 32 := by
    simp
  have targetBytes : toBE 32 (BitVec.ofNat 256
      (ofBE (generator.contractAddrs.channels.toList ++ permissions.toList))).toNat =
      generator.contractAddrs.channels.toList ++ permissions.toList := by
    have bound := ofBE_lt (generator.contractAddrs.channels.toList ++ permissions.toList)
    rw [size] at bound
    rw [BitVec.toNat_ofNat, Nat.mod_eq_of_lt (by norm_num at bound ⊢; exact bound),
      toBE_ofBE_of_length size]
  have tail : ∀ value, (encodeSingle Contracts.userDataTy value).drop 32 =
      encode Contracts.userDataTy value := by
    intro value
    rw [encodeSingle_of_dynamic rfl, List.drop_left' (length_toBE 32 32)]
  unfold BasicPayloadGenerator.deploySafe
  rw [permissionsText, target, fromBeSlice_toBe32]
  refine ⟨_, rfl, rfl, rfl, ?_⟩
  have word : beBytes 32 (BitVec.ofNat 256
      (ofBE (generator.contractAddrs.channels.toList ++ permissions.toList))).toNat =
      (safeUserData generator.contractAddrs.channels admins.toList includeNode
        nonce).defaultTarget := by
    ext1
    exact targetBytes
  simp only [TransactionRequest.withInput, Option.getD_some, tail, word]
  rfl

theorem basic_sends (generator : BasicPayloadGenerator) (call : PayloadCall Multiaddr)
    (lawful : (∃ balance admins includeNode nonce,
      call = .deploySafe balance admins includeNode nonce) → text.Lawful)
    (witnesses : HasWitnesses curve generator.me call) :
    Sends (generator.generate crate curve text call)
      (basicMessage crate curve generator.me generator.contractAddrs call) := by
  cases call with
  | approve spender amount => exact sends_call (by rw [fromBeSlice_toBe32])
  | transfer currency destination amount =>
      exact basic_transfer generator currency destination amount
  | sendErc777 recipient amount payload =>
      exact sends_call (by rw [fromBeSlice_toBe32, encodeErc777Payload_data])
  | announce announcement fee =>
      exact sends_call (by rw [announceCall_eq])
  | fundChannel dest amount => exact basic_fundChannel generator dest amount
  | closeIncomingChannel source => exact basic_channelTx generator source _ _
  | initiateOutgoingChannelClosure destination =>
      exact basic_channelTx generator destination _ _
  | finalizeOutgoingChannelClosure destination =>
      exact basic_channelTx generator destination _ _
  | redeemTicket ackedTicket => exact basic_redeemTicket generator (witnesses ackedTicket rfl)
  | registerSafeByNode safeAddr => exact sends_call rfl
  | deregisterNodeBySafe => exact isErr_fail _
  | registerService serviceType metadata burn =>
      simp only [BasicPayloadGenerator.generate, BasicPayloadGenerator.registerService,
        BasicPayloadGenerator.serviceWrite, basicMessage]
      cases burn.isZero with
      | true => exact sends_call rfl
      | false => exact isErr_fail _
  | updateService serviceType metadata burn =>
      simp only [BasicPayloadGenerator.generate, BasicPayloadGenerator.updateService,
        BasicPayloadGenerator.serviceWrite, basicMessage]
      cases burn.isZero with
      | true => exact sends_call rfl
      | false => exact isErr_fail _
  | deregisterService serviceType => exact sends_call rfl
  | deploySafe balance admins includeNode nonce =>
      have textLawful := lawful ⟨balance, admins, includeNode, nonce, rfl⟩
      exact basic_deploySafe textLawful generator balance admins includeNode nonce

/-! ## Batches -/

theorem encodeMultiSendTransaction_eq (recipient : Address) (call : Call)
    (small : call.encode.length < 2 ^ 256) :
    encodeMultiSendTransaction recipient call.encode =
      (ChainMessage.ofCall recipient call).packed := by
  have value : List.replicate 32 (0 : UInt8) = toBE 32 (0 : U256).toNat := (toBE_zero 32).symm
  have length : toBe32 (BitVec.ofNat 256 call.encode.length) = toBE 32 call.encode.length := by
    unfold toBe32 toBeBytes
    rw [BitVec.toNat_ofNat, Nat.mod_eq_of_lt small]
  rw [encodeMultiSendTransaction, value, length]
  rfl

theorem length_approveCall (spender : Address) (amount : U256) :
    (Contracts.approveCall spender amount).encode.length = 68 := by
  rw [← StaticBased.encodeApprove_eq, StaticBased.length_encodeApprove]

theorem length_serviceWrite {selector : FixedBytes 4} {name : String}
    (known : (selector, ⟨name, [.fixedBytes 32, .address, .bytes]⟩) ∈ StaticBased.Selectors.table)
    (serviceType : ServiceType) (node : Address) (metadata : ServiceMetadata) :
    (Call.encode ⟨⟨name, [.fixedBytes 32, .address, .bytes]⟩,
      (serviceType.asEncoded, node, metadata.asRef, ())⟩).length < 2 ^ 256 := by
  have short := metadata.length_asRef
  unfold ServiceMetadata.maxLength at short
  rw [← StaticBased.encodeServiceWrite_eq known serviceType node (by omega)]
  apply lt_of_le_of_lt (StaticBased.length_encodeServiceWrite_le selector serviceType node metadata)
  norm_num

theorem paidServiceRegistryPayload_eq (module : Address) (addresses : ContractAddresses)
    (burn : HoprBalance) {call : Call} (small : call.encode.length < 2 ^ 256) :
    paidServiceRegistryPayload addresses.token addresses.serviceRegistry call.encode burn =
      (ChainMessage.batched module multiSendAddress (paidWrite addresses burn call)).calldata := by
  have approval := encodeMultiSendTransaction_eq addresses.token
    (Contracts.approveCall addresses.serviceRegistry burn.amount)
    (by rw [length_approveCall]; norm_num)
  have write := encodeMultiSendTransaction_eq addresses.serviceRegistry call small
  have transactions : (if burn.isZero then []
      else encodeMultiSendTransaction addresses.token
        (Contracts.approveCall addresses.serviceRegistry burn.amount).encode) ++
      encodeMultiSendTransaction addresses.serviceRegistry call.encode =
        (paidWrite addresses burn call).flatMap ChainMessage.packed := by
    rw [approval, write, paidWrite]
    cases burn.isZero <;> simp
  unfold paidServiceRegistryPayload
  dsimp only
  rw [fromBeSlice_toBe32, transactions]
  rfl

theorem safe_serviceWrite (generator : SafePayloadGenerator) (serviceType : ServiceType)
    (metadata : ServiceMetadata) (burn : HoprBalance) {update : Bool} {call : Call}
    (called : serviceRegistryCall serviceType generator.me (some metadata) update = call.encode)
    (small : call.encode.length < 2 ^ 256) :
    Sends (.ok (generator.serviceWrite serviceType metadata burn update))
      (some (.batched generator.module multiSendAddress
        (paidWrite generator.contractAddrs burn call))) := by
  have payload := paidServiceRegistryPayload_eq generator.module generator.contractAddrs burn small
  rw [← called] at payload
  exact ⟨_, rfl, rfl, rfl, payload⟩

theorem safe_sends (generator : SafePayloadGenerator) (call : PayloadCall Multiaddr)
    (witnesses : HasWitnesses curve generator.me call) :
    Sends (generator.generate crate curve call)
      (safeMessage crate curve generator.me generator.contractAddrs generator.module call) := by
  cases call with
  | approve spender amount => exact sends_moduleCall generator (by rw [fromBeSlice_toBe32])
  | transfer currency destination amount =>
      exact safe_transfer generator currency destination amount
  | sendErc777 recipient amount payload =>
      exact sends_moduleCall generator (by rw [fromBeSlice_toBe32, encodeErc777Payload_data])
  | announce announcement fee => exact sends_moduleCall generator (by rw [announceCall_eq])
  | fundChannel dest amount => exact safe_fundChannel generator dest amount
  | closeIncomingChannel source => exact safe_channelTx generator source _ _
  | initiateOutgoingChannelClosure destination => exact safe_channelTx generator destination _ _
  | finalizeOutgoingChannelClosure destination => exact safe_channelTx generator destination _ _
  | redeemTicket ackedTicket => exact safe_redeemTicket generator (witnesses ackedTicket rfl)
  | registerSafeByNode safeAddr => exact ⟨_, rfl, rfl, rfl, rfl⟩
  | deregisterNodeBySafe => exact ⟨_, rfl, rfl, rfl, rfl⟩
  | registerService serviceType metadata burn =>
      exact safe_serviceWrite generator serviceType metadata burn rfl
        (@length_serviceWrite StaticBased.Selectors.selfRegister _
          (by simp [StaticBased.Selectors.table, Contracts.selfRegister]) serviceType generator.me
          metadata)
  | updateService serviceType metadata burn =>
      exact safe_serviceWrite generator serviceType metadata burn rfl
        (@length_serviceWrite StaticBased.Selectors.selfUpdate _
          (by simp [StaticBased.Selectors.table, Contracts.selfUpdate]) serviceType generator.me
          metadata)
  | deregisterService serviceType => exact sends_moduleCall generator rfl
  | deploySafe balance admins includeNode nonce => exact isErr_fail _

end BindingsBased

end HoprTypes.Chain
