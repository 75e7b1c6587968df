import HoprTypes.Chain.Redemption

/-!
# The messages of the static generators

The static generators refuse the calls that have no message, and otherwise build a
request with the recipient, the value and the call data of the message.
-/

set_option autoImplicit false

namespace HoprTypes.Chain

open BigEndian Abi HoprTypes.Primitive HoprTypes.Crypto HoprTypes.Internal

theorem isErr_fail {ε α : Type} (cause : ε) : (Outcome.fail cause : Outcome ε α).IsErr :=
  ⟨cause, rfl⟩

/-- The witnesses of the ticket, if the call redeems one. -/
def HasWitnesses {Multiaddr : Type} (curve : Secp256k1) (me : Address)
    (call : PayloadCall Multiaddr) : Prop :=
  ∀ ackedTicket, call = .redeemTicket ackedTicket → VrfWitnesses curve ackedTicket me

namespace StaticBased

/-- The outcome of a static generator sends the message, or refuses if there is none. -/
def Sends (outcome : Outcome ChainTypesError TransactionRequest) :
    Option ChainMessage → Prop
  | none => outcome.IsErr
  | some message => ∃ request, outcome = .ok request ∧
      request.toAddress = some message.recipient ∧
      request.value = toBeWord message.value ∧ request.input = message.calldata

theorem sends_call {recipient : Address} {call : Call} {callData : Bytes}
    (same : callData = call.encode) :
    Sends (.ok ((TransactionRequest.withInput {} callData).withTo recipient))
      (some (.ofCall recipient call)) :=
  ⟨_, rfl, rfl, rfl, same⟩

theorem sends_moduleExecTx (generator : SafePayloadGenerator)
    {message : ChainMessage} {callData : Bytes} (same : callData = message.calldata)
    (small : callData.length < 2 ^ 64) :
    Sends (.ok (generator.moduleExecTx message.recipient (toBeWord message.value) callData))
      (some (message.throughModule generator.module)) := by
  refine ⟨_, rfl, rfl, rfl, ?_⟩
  have encoded := encodeExecFromModule_eq message.recipient message.value small
  rw [same] at encoded
  simp only [SafePayloadGenerator.moduleExecTx, TransactionRequest.withGasLimit,
    TransactionRequest.withTo, TransactionRequest.withInput, same, encoded]
  rfl

theorem sends_moduleCall (generator : SafePayloadGenerator) {recipient : Address}
    {call : Call} {callData : Bytes} (same : callData = call.encode)
    (small : callData.length < 2 ^ 64) :
    Sends (.ok (generator.moduleExecTx recipient zeroWord callData))
      (some ((ChainMessage.ofCall recipient call).throughModule generator.module)) :=
  @sends_moduleExecTx generator (.ofCall recipient call) callData same small

/-! ## Static requests -/

theorem basic_channelTx (generator : BasicPayloadGenerator) (other : Address)
    (message : String) {call : Call} {callData : Bytes} (same : callData = call.encode) :
    Sends (.lift (generator.channelTx other message callData))
      (withOther generator.me generator.contractAddrs other call) := by
  unfold BasicPayloadGenerator.channelTx withOther
  by_cases self : other = generator.me
  · rw [if_pos self, if_pos self]
    exact isErr_fail _
  · rw [if_neg self, if_neg self]
    exact sends_call same

theorem safe_channelTx (generator : SafePayloadGenerator) (other : Address)
    (message : String) {call : Call} {callData : Bytes} (same : callData = call.encode)
    (small : callData.length < 2 ^ 64) :
    Sends (.lift (generator.channelTx other message callData))
      ((withOther generator.me generator.contractAddrs other call).map
        (.throughModule generator.module)) := by
  unfold SafePayloadGenerator.channelTx withOther
  by_cases self : other = generator.me
  · rw [if_pos self, if_pos self]
    exact isErr_fail _
  · rw [if_neg self, if_neg self]
    exact sends_moduleCall generator same small

theorem length_encodeErc777Payload (payload : Erc777Payload) :
    (encodeErc777Payload payload).length = 224 := by
  obtain ⟨⟨aggregator, note⟩⟩ := payload
  simp [encodeErc777Payload, length_wordBytes]

theorem encodeErc777Payload_data (payload : Erc777Payload) :
    encodeErc777Payload payload = erc777Data payload := by
  obtain ⟨⟨aggregator, note⟩⟩ := payload
  exact encodeErc777Payload_eq aggregator note

theorem encodeSendErc777_eq (recipient : Address) (amount : U256)
    (payload : Erc777Payload) :
    encodeSend recipient (toBeWord amount) (encodeErc777Payload payload) =
      (Contracts.sendCall recipient amount (erc777Data payload)).encode := by
  have small : (encodeErc777Payload payload).length < 2 ^ 64 := by
    rw [length_encodeErc777Payload]
    norm_num
  rw [encodeSend_eq recipient amount small, encodeErc777Payload_data]

variable {Multiaddr : Type} (crate : MultiaddrCrate Multiaddr)

def announceBody (me : Address) (announcement : AnnouncementData Multiaddr) : Bytes :=
  encodeKeyBindAnnounceBody me (split64 announcement.keyBinding.signature).1
    (split64 announcement.keyBinding.signature).2
    (rightAlign32 announcement.keyBinding.packetKey.toList) (announcement.addressText crate)

theorem length_announceBody_le (me : Address)
    (announcement : AnnouncementData Multiaddr) :
    (announceBody crate me announcement).length ≤ isizeMax + 223 := by
  have bound := announcement.length_addressText crate
  have tail := length_abiDynTail_le (announcement.addressText crate)
  simp only [announceBody, encodeKeyBindAnnounceBody, List.length_append,
    FixedBytes.length_toList]
  omega

theorem announceBody_eq (me : Address) (announcement : AnnouncementData Multiaddr) :
    announceBody crate me announcement =
      encode Contracts.keyBindAndAnnouncePayloadTy
        (keyBindAndAnnounce crate me announcement).values := by
  have bound := announcement.length_addressText crate
  have small : (announcement.addressText crate).length < 2 ^ 64 := by
    unfold isizeMax at bound
    omega
  have encoded := encodeKeyBindAnnounceBody_eq (keyBindAndAnnounce crate me announcement) small
  simp only [announceBody, split64_eq, rightAlign32_toList]
  exact encoded

theorem announceCallData_eq (me announcements : Address)
    (announcement : AnnouncementData Multiaddr) (fee : HoprBalance) :
    announceCallData crate me announcements announcement fee =
      (Contracts.sendCall announcements fee.amount
        (encode Contracts.keyBindAndAnnouncePayloadTy
          (keyBindAndAnnounce crate me announcement).values)).encode := by
  have short := length_announceBody_le crate me announcement
  have sent : announceCallData crate me announcements announcement fee =
      encodeSend announcements (toBeWord fee.amount) (announceBody crate me announcement) := rfl
  unfold isizeMax at short
  rw [sent, encodeSend_eq announcements fee.amount (by omega), announceBody_eq]

theorem length_announceCallData (me announcements : Address)
    (announcement : AnnouncementData Multiaddr) (fee : HoprBalance) :
    (announceCallData crate me announcements announcement fee).length < 2 ^ 64 := by
  have short := length_announceBody_le crate me announcement
  have length := length_callWithBytes_le Selectors.send [addr32 announcements, toBeWord fee.amount]
    (announceBody crate me announcement)
  unfold isizeMax at short
  refine lt_of_le_of_lt length ?_
  simp only [List.length_cons, List.length_nil]
  omega

theorem userDataBody_eq (channels : Address)
    (admins : BoundedVec Address (isizeMax / 20)) (includeNode : Bool) (nonce : FixedBytes 32) :
    let data := safeUserData channels admins.toList includeNode nonce
    encodeUserDataBody data.functionIdentifier nonce (makeDefaultTarget channels) admins.toList =
        encode Contracts.userDataTy data.values ∧
      (encode Contracts.userDataTy data.values).length < 2 ^ 64 := by
  have few : admins.toList.length ≤ isizeMax / 20 := admins.fits
  have count : admins.toList.length < 2 ^ 64 := by
    unfold isizeMax at few
    omega
  intro data
  have encoded := encodeUserDataBody_eq data count
  have nonceWord : toBeWord data.nonce = nonce := by
    have aligned := rightAlign32_array nonce
    rw [rightAlign32_toList] at aligned
    exact aligned.symm
  rw [nonceWord] at encoded
  have body : encodeUserDataBody data.functionIdentifier nonce data.defaultTarget data.admins =
      encodeUserDataBody data.functionIdentifier nonce (makeDefaultTarget channels)
        admins.toList := rfl
  refine ⟨body.symm.trans encoded, ?_⟩
  rw [← encoded]
  simp only [encodeUserDataBody, List.length_append, FixedBytes.length_toList, length_wordBytes,
    List.length_map, data, safeUserData]
  unfold isizeMax at few
  omega

/-! ## Redemption -/

theorem redeemCall_eq {redeemable : Contracts.RedeemableTicket}
    {params : Contracts.VRFParameters} :
    staticCall Selectors.redeemTicket (ticketWords redeemable ++ vrfWords params) =
      (Contracts.redeemTicketCall redeemable params).encode := by
  apply staticCall_eq
  · simp [Selectors.table, Contracts.redeemTicketCall]
  · have parts : encodeValues (Contracts.redeemTicketCall redeemable params).function.inputs
        (Contracts.redeemTicketCall redeemable params).arguments =
        encodeParts [Abi.Part.mk false (encode Contracts.redeemableTicketTy redeemable.values),
          Abi.Part.mk false (encode Contracts.vrfParametersTy params.values)] := rfl
    rw [parts, ← wordBytes_ticketWords, ← wordBytes_vrfWords]
    simp [encodeParts, heads, tails, wordBytes]

theorem redeemSafeCall_eq (selfAddr : Address)
    {redeemable : Contracts.RedeemableTicket} {params : Contracts.VRFParameters} :
    staticCall Selectors.redeemTicketSafe
        (addr32 selfAddr :: (ticketWords redeemable ++ vrfWords params)) =
      (Contracts.redeemTicketSafeCall selfAddr redeemable params).encode := by
  apply staticCall_eq
  · simp [Selectors.table, Contracts.redeemTicketSafeCall]
  · have parts : encodeValues
        (Contracts.redeemTicketSafeCall selfAddr redeemable params).function.inputs
        (Contracts.redeemTicketSafeCall selfAddr redeemable params).arguments =
        encodeParts [Abi.Part.mk false (encode .address selfAddr),
          Abi.Part.mk false (encode Contracts.redeemableTicketTy redeemable.values),
          Abi.Part.mk false (encode Contracts.vrfParametersTy params.values)] := rfl
    rw [parts, ← wordBytes_ticketWords, ← wordBytes_vrfWords, ← toList_addr32]
    simp [encodeParts, heads, tails, wordBytes]

variable {curve : Secp256k1}

/-- With derivable witnesses, the words of a redemption exist exactly for a signed ticket. -/
theorem redeemTicketWords_eq {ackedTicket : Internal.RedeemableTicket} {me : Address}
    (witnesses : VrfWitnesses curve ackedTicket me) {sB : Bytes}
    (derived : ackedTicket.vrfParams.getSBWitness curve me ackedTicket.ticket.hash
      ackedTicket.channelDst.toList = .ok sB) {signature : ChainSignature}
    (signed : ackedTicket.ticket.ticket.signature = some signature) :
    redeemTicketWords curve ackedTicket me =
      .ok (ticketWords (onChainTicket ackedTicket signature) ++
        vrfWords (onChainVrf curve ackedTicket.vrfParams sB)) := by
  rw [redeemTicketWords, redeemableTicketWords_eq signed, vrfParametersWords_eq witnesses derived]
  rfl

theorem redeemTicketWords_unsigned {ackedTicket : Internal.RedeemableTicket}
    {me : Address} (unsigned : ackedTicket.ticket.ticket.signature = none) :
    redeemTicketWords curve ackedTicket me =
      Outcome.fail (.invalidArguments "Acknowledged ticket must be signed") := by
  rw [redeemTicketWords, (redeem_unsigned unsigned).1]
  rfl

/-! ## Batches -/

theorem encodeMultiSendTransaction_eq (recipient : Address) {call : Call}
    {data : Bytes} (same : data = call.encode) (small : data.length < 2 ^ 64) :
    encodeMultiSendTransaction recipient data = (ChainMessage.ofCall recipient call).packed := by
  have value : List.replicate 32 (0 : UInt8) = toBE 32 (0 : U256).toNat := (toBE_zero 32).symm
  rw [encodeMultiSendTransaction, toList_wordUsize small, value, same]
  rfl

def paidTransactions (token registry : Address) (registryCall : Bytes)
    (burn : HoprBalance) : Bytes :=
  (if burn.isZero then []
    else encodeMultiSendTransaction token (encodeApprove registry (toBeWord burn.amount))) ++
    encodeMultiSendTransaction registry registryCall

theorem length_encodeMultiSendTransaction (recipient : Address) (data : Bytes) :
    (encodeMultiSendTransaction recipient data).length = 85 + data.length := by
  simp only [encodeMultiSendTransaction, List.length_cons, List.length_append,
    FixedBytes.length_toList, List.length_replicate]
  omega

theorem length_encodeApprove (spender : Address) (amount : Word) :
    (encodeApprove spender amount).length = 68 := length_staticCall _ _

theorem length_paidTransactions_le (token registry : Address) (registryCall : Bytes)
    (burn : HoprBalance) :
    (paidTransactions token registry registryCall burn).length ≤ registryCall.length + 238 := by
  unfold paidTransactions
  cases burn.isZero <;> simp only [Bool.false_eq_true, if_true, if_false, List.length_append,
    List.length_nil, length_encodeMultiSendTransaction, length_encodeApprove] <;> omega

theorem paidTransactions_eq (addresses : ContractAddresses) (burn : HoprBalance)
    {call : Call} {registryCall : Bytes} (same : registryCall = call.encode)
    (small : registryCall.length < 2 ^ 64) :
    paidTransactions addresses.token addresses.serviceRegistry registryCall burn =
      (paidWrite addresses burn call).flatMap ChainMessage.packed := by
  have approval := encodeMultiSendTransaction_eq addresses.token
    (encodeApprove_eq addresses.serviceRegistry burn.amount)
    (by rw [length_encodeApprove]; norm_num)
  have write := encodeMultiSendTransaction_eq addresses.serviceRegistry same small
  rw [paidTransactions, approval, write, paidWrite]
  cases burn.isZero <;> simp

theorem multiSendCall_eq {transactions : Bytes}
    (small : transactions.length < 2 ^ 64) :
    callWithBytes Selectors.multiSend [] transactions =
      (Contracts.multiSendCall transactions).encode :=
  callWithBytes_eq (by simp [Selectors.table, Contracts.multiSendCall]) (by simp) small rfl

theorem paidServiceRegistryPayload_delegated (token registry : Address) {registryCall : Bytes}
    (small : registryCall.length ≤ isizeMax) (burn : HoprBalance) :
    paidServiceRegistryPayload token registry registryCall burn =
      (Contracts.execTransactionFromModuleCall multiSendAddress 0
        (Contracts.multiSendCall (paidTransactions token registry registryCall burn)).encode
        1).encode := by
  have length := length_paidTransactions_le token registry registryCall burn
  have batchLength := length_callWithBytes_le Selectors.multiSend []
    (paidTransactions token registry registryCall burn)
  rw [List.length_nil] at batchLength
  have payload : paidServiceRegistryPayload token registry registryCall burn =
      encodeExecFromModuleWithOperation multiSendAddress (toBeWord 0)
        (callWithBytes Selectors.multiSend [] (paidTransactions token registry registryCall burn))
        1 := rfl
  unfold isizeMax at small
  rw [payload, encodeExecFromModuleWithOperation_eq multiSendAddress 0 1 (by omega),
    multiSendCall_eq (by omega)]
  rfl

theorem paidServiceRegistryPayload_eq (module : Address)
    (addresses : ContractAddresses) (burn : HoprBalance) {call : Call} {registryCall : Bytes}
    (same : registryCall = call.encode) (small : registryCall.length ≤ 2 ^ 32) :
    paidServiceRegistryPayload addresses.token addresses.serviceRegistry registryCall burn =
      (ChainMessage.batched module multiSendAddress (paidWrite addresses burn call)).calldata := by
  have bounded : registryCall.length ≤ isizeMax := le_trans small (by decide)
  rw [paidServiceRegistryPayload_delegated _ _ bounded,
    paidTransactions_eq addresses burn same (by omega)]
  rfl

/-! ## The static generators send their messages -/

theorem basic_serviceWrite (generator : BasicPayloadGenerator)
    {selector : FixedBytes 4} {name : String}
    (known : (selector, ⟨name, [.fixedBytes 32, .address, .bytes]⟩) ∈ Selectors.table)
    (serviceType : ServiceType) (metadata : ServiceMetadata) (burn : HoprBalance) :
    Sends (.lift (generator.serviceWrite selector serviceType metadata burn))
      (if burn.isZero then
        some (.ofCall generator.contractAddrs.serviceRegistry
          ⟨⟨name, [.fixedBytes 32, .address, .bytes]⟩,
            (serviceType.asEncoded, generator.me, metadata.asRef, ())⟩)
      else none) := by
  have short := metadata.length_asRef
  unfold ServiceMetadata.maxLength at short
  unfold BasicPayloadGenerator.serviceWrite
  cases burn.isZero with
  | true => exact sends_call (encodeServiceWrite_eq known serviceType generator.me (by omega))
  | false => exact isErr_fail _

theorem length_encodeServiceWrite_le (selector : FixedBytes 4) (serviceType : ServiceType)
    (node : Address) (metadata : ServiceMetadata) :
    (encodeServiceWrite selector serviceType node metadata.asRef).length ≤ 2 ^ 32 := by
  have short := metadata.length_asRef
  unfold ServiceMetadata.maxLength at short
  have length := length_callWithBytes_le selector [serviceType.asEncoded, addr32 node]
    metadata.asRef
  refine le_trans length ?_
  simp only [List.length_cons, List.length_nil]
  omega

theorem safe_serviceWrite (generator : SafePayloadGenerator)
    {selector : FixedBytes 4} {name : String}
    (known : (selector, ⟨name, [.fixedBytes 32, .address, .bytes]⟩) ∈ Selectors.table)
    (serviceType : ServiceType) (metadata : ServiceMetadata) (burn : HoprBalance) :
    Sends (.ok (generator.serviceWrite selector serviceType metadata burn))
      (some (.batched generator.module multiSendAddress (paidWrite generator.contractAddrs burn
        ⟨⟨name, [.fixedBytes 32, .address, .bytes]⟩,
          (serviceType.asEncoded, generator.me, metadata.asRef, ())⟩))) := by
  have short := metadata.length_asRef
  unfold ServiceMetadata.maxLength at short
  refine ⟨_, rfl, rfl, rfl, ?_⟩
  exact paidServiceRegistryPayload_eq generator.module generator.contractAddrs burn
    (encodeServiceWrite_eq known serviceType generator.me (by omega))
    (length_encodeServiceWrite_le selector serviceType generator.me metadata)

theorem basic_redeemTicket (generator : BasicPayloadGenerator)
    {ackedTicket : Internal.RedeemableTicket}
    (witnesses : VrfWitnesses curve ackedTicket generator.me) :
    Sends (generator.redeemTicket curve ackedTicket)
      (redemption curve generator.me generator.contractAddrs Contracts.redeemTicketCall
        ackedTicket) := by
  obtain ⟨sB, derived, _⟩ := witnesses.sB
  unfold BasicPayloadGenerator.redeemTicket encodeRedeemTicket redemption
  cases signed : ackedTicket.ticket.ticket.signature with
  | none =>
      rw [redeemTicketWords_unsigned signed]
      exact isErr_fail _
  | some signature =>
      rw [redeemTicketWords_eq witnesses derived signed, derived]
      exact sends_call redeemCall_eq

theorem safe_redeemTicket (generator : SafePayloadGenerator)
    {ackedTicket : Internal.RedeemableTicket}
    (witnesses : VrfWitnesses curve ackedTicket generator.me) :
    Sends (generator.redeemTicket curve ackedTicket)
      ((redemption curve generator.me generator.contractAddrs
        (Contracts.redeemTicketSafeCall generator.me) ackedTicket).map
          (.throughModule generator.module)) := by
  obtain ⟨sB, derived, _⟩ := witnesses.sB
  unfold SafePayloadGenerator.redeemTicket encodeRedeemTicketSafe redemption
  cases signed : ackedTicket.ticket.ticket.signature with
  | none =>
      rw [redeemTicketWords_unsigned signed]
      exact isErr_fail _
  | some signature =>
      rw [redeemTicketWords_eq witnesses derived signed, derived]
      refine sends_moduleCall generator (redeemSafeCall_eq generator.me) ?_
      rw [length_staticCall]
      norm_num [ticketWords, vrfWords]

theorem basic_fundChannel (generator : BasicPayloadGenerator) (dest : Address)
    (amount : HoprBalance) :
    Sends (.lift (generator.fundChannel dest amount))
      (withOther generator.me generator.contractAddrs dest
        (Contracts.fundChannelCall dest (BitVec.setWidth 96 amount.amount))) :=
  basic_channelTx generator dest _ (encodeFundChannel_eq dest amount.amount)

theorem safe_fundChannel (generator : SafePayloadGenerator) (dest : Address)
    (amount : HoprBalance) :
    Sends (.lift (generator.fundChannel dest amount))
      (if amount.amount.toNat > ChannelBuilder.maxFundingAmount then none
        else (withOther generator.me generator.contractAddrs dest
          (Contracts.fundChannelSafeCall generator.me dest
            (BitVec.setWidth 96 amount.amount))).map (.throughModule generator.module)) := by
  unfold SafePayloadGenerator.fundChannel
  by_cases large : amount.amount.toNat > ChannelBuilder.maxFundingAmount
  · rw [if_pos large, if_pos large]
    by_cases self : dest = generator.me
    · rw [if_pos self]
      exact isErr_fail _
    · rw [if_neg self]
      exact isErr_fail _
  · rw [if_neg large, if_neg large]
    refine safe_channelTx generator dest "cannot fund channel to self"
      (encodeFundChannelSafe_eq generator.me dest amount.amount) ?_
    rw [encodeFundChannelSafe, length_staticCall]
    norm_num

theorem basic_transfer (generator : BasicPayloadGenerator) (currency : Currency)
    (destination : Address) (amount : Balance currency) :
    Sends (.lift (generator.transfer currency destination amount))
      (tokenTransfer generator.contractAddrs currency destination amount) := by
  unfold BasicPayloadGenerator.transfer tokenTransfer transferTx
  cases native : XDai.is currency with
  | true => exact ⟨_, rfl, rfl, rfl, rfl⟩
  | false =>
      cases token : WxHOPR.is currency with
      | true => exact sends_call (encodeTransfer_eq destination amount.amount)
      | false => exact isErr_fail _

theorem safe_transfer (generator : SafePayloadGenerator) (currency : Currency)
    (destination : Address) (amount : Balance currency) :
    Sends (.lift (generator.transfer currency destination amount))
      ((tokenTransfer generator.contractAddrs currency destination amount).map
        (.throughModule generator.module)) := by
  unfold SafePayloadGenerator.transfer tokenTransfer
  cases native : XDai.is currency with
  | true =>
      exact @sends_moduleExecTx generator ⟨destination, amount.amount, none⟩ [] rfl (by simp)
  | false =>
      cases token : WxHOPR.is currency with
      | true =>
          have length : (encodeTransfer destination (toBeWord amount.amount)).length = 68 :=
            length_staticCall _ _
          exact sends_moduleCall generator (encodeTransfer_eq destination amount.amount)
            (by rw [length]; norm_num)
      | false => exact isErr_fail _

theorem basic_sends (generator : BasicPayloadGenerator) (call : PayloadCall Multiaddr)
    (witnesses : HasWitnesses curve generator.me call) :
    Sends (generator.generate curve crate call)
      (basicMessage crate curve generator.me generator.contractAddrs call) := by
  cases call with
  | approve spender amount => exact sends_call (encodeApprove_eq spender amount.amount)
  | transfer currency destination amount =>
      exact basic_transfer generator currency destination amount
  | sendErc777 recipient amount payload =>
      exact sends_call (encodeSendErc777_eq recipient amount.amount payload)
  | announce announcement fee =>
      exact sends_call (announceCallData_eq crate generator.me _ announcement fee)
  | fundChannel dest amount => exact basic_fundChannel generator dest amount
  | closeIncomingChannel source =>
      exact basic_channelTx generator source _ (encodeCloseIncomingChannel_eq source)
  | initiateOutgoingChannelClosure destination =>
      exact basic_channelTx generator destination _
        (encodeInitiateOutgoingChannelClosure_eq destination)
  | finalizeOutgoingChannelClosure destination =>
      exact basic_channelTx generator destination _
        (encodeFinalizeOutgoingChannelClosure_eq destination)
  | redeemTicket ackedTicket => exact basic_redeemTicket generator (witnesses ackedTicket rfl)
  | registerSafeByNode safeAddr => exact sends_call (encodeRegisterSafeByNode_eq safeAddr)
  | deregisterNodeBySafe => exact isErr_fail _
  | registerService serviceType metadata burn =>
      exact basic_serviceWrite generator (by simp [Selectors.table, Contracts.selfRegister])
        serviceType metadata burn
  | updateService serviceType metadata burn =>
      exact basic_serviceWrite generator (by simp [Selectors.table, Contracts.selfUpdate])
        serviceType metadata burn
  | deregisterService serviceType =>
      exact sends_call (encodeServiceDeregister_eq serviceType generator.me)
  | deploySafe balance admins includeNode nonce =>
      obtain ⟨body, small⟩ := userDataBody_eq generator.contractAddrs.channels admins includeNode
        nonce
      have sent := encodeSend_eq generator.contractAddrs.nodeStakeFactory balance.amount small
      rw [← body] at sent
      exact sends_call (body ▸ sent)

theorem safe_sends (generator : SafePayloadGenerator) (call : PayloadCall Multiaddr)
    (witnesses : HasWitnesses curve generator.me call) :
    Sends (generator.generate curve crate call)
      (safeMessage crate curve generator.me generator.contractAddrs generator.module call) := by
  have shortCall : ∀ (selector : FixedBytes 4) (words : List Word), words.length ≤ 3 →
      (staticCall selector words).length < 2 ^ 64 := by
    intro selector words few
    rw [length_staticCall]
    omega
  cases call with
  | approve spender amount =>
      exact sends_moduleCall generator (encodeApprove_eq spender amount.amount)
        (shortCall _ _ (by simp))
  | transfer currency destination amount =>
      exact safe_transfer generator currency destination amount
  | sendErc777 recipient amount payload =>
      refine sends_moduleCall generator (encodeSendErc777_eq recipient amount.amount payload)
        (lt_of_le_of_lt (length_callWithBytes_le _ _ _) ?_)
      rw [length_encodeErc777Payload]
      norm_num
  | announce announcement fee =>
      exact sends_moduleCall generator (announceCallData_eq crate generator.me _ announcement fee)
        (length_announceCallData crate generator.me _ announcement fee)
  | fundChannel dest amount => exact safe_fundChannel generator dest amount
  | closeIncomingChannel source =>
      exact safe_channelTx generator source _
        (encodeCloseIncomingChannelSafe_eq generator.me source) (shortCall _ _ (by simp))
  | initiateOutgoingChannelClosure destination =>
      exact safe_channelTx generator destination _
        (encodeInitiateOutgoingChannelClosureSafe_eq generator.me destination)
        (shortCall _ _ (by simp))
  | finalizeOutgoingChannelClosure destination =>
      exact safe_channelTx generator destination _
        (encodeFinalizeOutgoingChannelClosureSafe_eq generator.me destination)
        (shortCall _ _ (by simp))
  | redeemTicket ackedTicket => exact safe_redeemTicket generator (witnesses ackedTicket rfl)
  | registerSafeByNode safeAddr => exact ⟨_, rfl, rfl, rfl, encodeRegisterSafeByNode_eq safeAddr⟩
  | deregisterNodeBySafe => exact ⟨_, rfl, rfl, rfl, encodeDeregisterNodeBySafe_eq generator.me⟩
  | registerService serviceType metadata burn =>
      exact safe_serviceWrite generator (by simp [Selectors.table, Contracts.selfRegister])
        serviceType metadata burn
  | updateService serviceType metadata burn =>
      exact safe_serviceWrite generator (by simp [Selectors.table, Contracts.selfUpdate])
        serviceType metadata burn
  | deregisterService serviceType =>
      exact sends_moduleCall generator (encodeServiceDeregister_eq serviceType generator.me)
        (shortCall _ _ (by simp))
  | deploySafe balance admins includeNode nonce => exact isErr_fail _

end StaticBased

end HoprTypes.Chain
