import HoprTypes.Chain.ParserInverse

/-!
# Native withdrawals

A transfer of native tokens carries no call.  The parser recognises it behind a module
call, and otherwise only if it goes to no address that has to be called.
-/

set_option autoImplicit false

namespace HoprTypes.Chain

open BigEndian Abi HoprTypes.Primitive HoprTypes.Crypto HoprTypes.Internal

section

variable {Multiaddr : Type} {crate : MultiaddrCrate Multiaddr} {decoding : AlloyDecoding}
  {alloy : BindingsBased.AlloyTransactions} (lawful : decoding.Lawful alloy)
  {addresses : ContractAddresses} {module signer : Address}

def IsParseError {α : Type} (outcome : Outcome ChainTypesError α) : Prop :=
  ∃ cause, outcome = Outcome.fail (.parseError cause)

/-! ## Empty call data -/

include lawful

theorem abiDecode_nil {α : Type} (reader : CallReader α) :
    ∃ cause, reader.abiDecode decoding [] = .error cause := by
  have different : ([] : Bytes).take 4 ≠ reader.function.selector.toList := by
    intro same
    have size := reader.function.selector.length_toList
    rw [← same] at size
    cases size
  obtain ⟨cause, refused⟩ := lawful.refuses reader.function [] different
  refine ⟨cause, ?_⟩
  rw [CallReader.abiDecode, refused]
  rfl

theorem ChannelCalls.parse_nil (calls : ChannelCalls) :
    IsParseError (calls.parse decoding signer [] :
      Outcome ChainTypesError (ParsedHoprChainAction Multiaddr)) := by
  obtain ⟨_, fund⟩ := abiDecode_nil lawful calls.fundChannel
  obtain ⟨_, initiate⟩ := abiDecode_nil lawful calls.initiateOutgoingChannelClosure
  obtain ⟨_, finalize⟩ := abiDecode_nil lawful calls.finalizeOutgoingChannelClosure
  obtain ⟨_, close⟩ := abiDecode_nil lawful calls.closeIncomingChannel
  obtain ⟨_, redeem⟩ := abiDecode_nil lawful calls.redeemTicket
  refine ⟨"channel transaction has invalid type", ?_⟩
  rw [ChannelCalls.parse, fund, initiate, finalize, close, redeem]

theorem parseTokenCall_nil (moduleCall : Bool) :
    IsParseError (parseTokenCall crate decoding addresses moduleCall []) := by
  obtain ⟨_, send⟩ := abiDecode_nil lawful CallReader.send
  obtain ⟨_, approve⟩ := abiDecode_nil lawful CallReader.approve
  obtain ⟨cause, transfer⟩ := abiDecode_nil lawful CallReader.transfer
  refine ⟨cause, ?_⟩
  rw [parseTokenCall, send, approve, transfer]
  rfl

theorem parseContractCall_nil (target : Address) (moduleCall : Bool) :
    IsParseError (parseContractCall crate decoding addresses signer target [] moduleCall) := by
  unfold parseContractCall
  by_cases registry : target = addresses.nodeSafeRegistry
  · obtain ⟨cause, refused⟩ := abiDecode_nil lawful CallReader.registerSafeByNode
    refine ⟨cause, ?_⟩
    rw [if_pos registry, refused]
    rfl
  · rw [if_neg registry]
    by_cases safe : target = addresses.channels ∧ moduleCall
    · rw [if_pos safe]
      exact ChannelCalls.parse_nil lawful .safe
    · rw [if_neg safe]
      by_cases plain : target = addresses.channels ∧ ¬ moduleCall
      · rw [if_pos plain]
        exact ChannelCalls.parse_nil lawful .plain
      · rw [if_neg plain]
        by_cases token : target = addresses.token
        · rw [if_pos token]
          exact parseTokenCall_nil lawful moduleCall
        · rw [if_neg token]
          exact ⟨_, rfl⟩

/-! ## Transactions without data -/

/-- A transfer to the module or to a contract is taken for a call, and refused. -/
theorem parseTransaction_called {target : Address}
    (called : target = module ∨ target ∈ addresses.toList) (value : U256) :
    IsParseError (parseTransaction crate decoding addresses module signer target value []) := by
  unfold parseTransaction
  by_cases viaModule : target = module
  · obtain ⟨cause, refused⟩ := abiDecode_nil lawful CallReader.execTransactionFromModule
    refine ⟨cause, ?_⟩
    rw [if_pos viaModule, refused]
    rfl
  · rw [if_neg viaModule, if_pos (called.resolve_left viaModule)]
    exact parseContractCall_nil lawful target false

omit lawful in
/-- Any other transfer of some value is a withdrawal that the signer pays. -/
theorem parseTransaction_withdrawal {target : Address} (other : target ≠ module)
    (outside : target ∉ addresses.toList) {value : U256} (nonzero : value ≠ 0) :
    parseTransaction crate decoding addresses module signer target value [] =
      .ok (.withdrawNative target ⟨value⟩ .eoa) := by
  have positive : value > 0 := by bv_omega
  rw [parseTransaction, if_neg other, if_neg outside, if_pos positive, balanceFromBeBytes_amount]

/-- A module call that moves some value and has no data is a withdrawal of the Safe. -/
theorem parseTransaction_moduleWithdrawal {target : Address} {value : U256} (nonzero : value ≠ 0) :
    parseTransaction crate decoding addresses module signer module 0
        ((⟨target, value, none⟩ : ChainMessage).throughModule module).calldata =
      .ok (.withdrawNative target ⟨value⟩ .safe) := by
  let exec := Contracts.execTransactionFromModuleCall target value [] 0
  have size := length_execCall_le target value [] 0
  have readable : Readable exec :=
    ⟨execTransactionFromModule_known, lt_of_le_of_lt size (by norm_num)⟩
  have read : CallReader.execTransactionFromModule.abiDecode decoding exec.encode =
      .ok (target, value, []) :=
    CallReader.execTransactionFromModule.abiDecode_encode lawful readable
  have calldata : ((⟨target, value, none⟩ : ChainMessage).throughModule module).calldata =
      exec.encode := rfl
  rw [parseTransaction, if_pos rfl, calldata, read]
  dsimp only [Except.mapErr, Outcome.lift]
  rw [ok_bind]
  dsimp only
  rw [if_pos ⟨nonzero, rfl⟩, balanceFromBeBytes_amount]

end

/-! ## Signed transfers -/

/-- The request is signed with the key pair, and its bytes are parsed with a result of the
given kind. -/
def ParsedSatisfies {Multiaddr : Type} {curve : Secp256k1} (crate : MultiaddrCrate Multiaddr)
    (decoding : AlloyDecoding) (alloy : BindingsBased.AlloyTransactions) (signer : PrehashSigner)
    (keypair : ChainKeypair curve) (addresses : ContractAddresses) (module : Address)
    (request : BindingsBased.TransactionRequest)
    (expected : Outcome ChainTypesError (ParsedHoprChainAction Multiaddr × Address) → Prop) :
    Prop :=
  ∀ (nonce chainId : U64) (maxGas : Option GasEstimation), ∃ bytes,
    request.signAndEncodeToEip2718 alloy signer nonce chainId maxGas keypair.secret = .ok bytes ∧
      expected (parseFromEip2718 crate decoding bytes module addresses)

section

variable {Multiaddr : Type} {crate : MultiaddrCrate Multiaddr} {decoding : AlloyDecoding}
  {alloy : BindingsBased.AlloyTransactions} (alloyLawful : alloy.Lawful)
  (lawful : decoding.Lawful alloy) {signer : PrehashSigner} {curve : Secp256k1}
  (recovers : decoding.Recovers signer curve) {keypair : ChainKeypair curve}
  {addresses : ContractAddresses} {module : Address}

def nativeTransfer (destination : Address) (amount : XDaiBalance) : ChainMessage :=
  ⟨destination, amount.amount, none⟩

include alloyLawful lawful recovers

theorem parsedSatisfies_of_message {message : ChainMessage}
    (short : message.calldata.length < 2 ^ 63 + 2048)
    {request : BindingsBased.TransactionRequest}
    (recipient : request.toAddress = some message.recipient)
    (value : request.value.getD 0 = message.value)
    (input : request.input.getD [] = message.calldata)
    {expected : Outcome ChainTypesError (ParsedHoprChainAction Multiaddr × Address) → Prop}
    (holds : expected (parseTransaction crate decoding addresses module keypair.address
      message.recipient message.value message.calldata >>= fun action =>
        .ok (action, keypair.address))) :
    ParsedSatisfies crate decoding alloy signer keypair addresses module request expected := by
  intro nonce chainId maxGas
  obtain ⟨bytes, signed, parsed⟩ := @parseFromEip2718_run _ crate _ _ alloyLawful lawful _ _
    recovers keypair addresses module message short request recipient value input nonce chainId
    maxGas
  refine ⟨bytes, signed, ?_⟩
  rw [parsed]
  exact holds

/-- Where the transfer of the basic generator goes decides how it is parsed. -/
theorem basic_nativeTransfer_parsed (destination : Address) {amount : XDaiBalance}
    (nonzero : amount.amount ≠ 0) {request : BindingsBased.TransactionRequest}
    (recipient : request.toAddress = some destination)
    (value : request.value.getD 0 = amount.amount) (input : request.input.getD [] = []) :
    ParsedSatisfies crate decoding alloy signer keypair addresses module request
      fun parsed =>
        if destination = module ∨ destination ∈ addresses.toList then IsParseError parsed
        else parsed = .ok (.withdrawNative destination amount .eoa, keypair.address) := by
  have short : (nativeTransfer destination amount).calldata.length < 2 ^ 63 + 2048 :=
    show 0 < 2 ^ 63 + 2048 by norm_num
  apply parsedSatisfies_of_message alloyLawful lawful recovers short recipient value input
  show if _ then IsParseError (parseTransaction crate decoding addresses module keypair.address
    destination amount.amount [] >>= _) else _
  by_cases called : destination = module ∨ destination ∈ addresses.toList
  · obtain ⟨cause, refused⟩ := @parseTransaction_called _ crate _ _ lawful addresses module
      keypair.address destination called amount.amount
    rw [if_pos called, refused]
    exact ⟨cause, rfl⟩
  · obtain ⟨other, outside⟩ := not_or.mp called
    have action := @parseTransaction_withdrawal _ crate decoding addresses module keypair.address
      destination other outside amount.amount nonzero
    rw [if_neg called]
    show parseTransaction crate decoding addresses module _ destination amount.amount [] >>= _ = _
    rw [action]
    rfl

theorem safe_nativeTransfer_parsed (destination : Address) {amount : XDaiBalance}
    (nonzero : amount.amount ≠ 0) {request : BindingsBased.TransactionRequest}
    (sends : BindingsBased.Sends (.ok request)
      (some ((nativeTransfer destination amount).throughModule module))) :
    ParsedSatisfies crate decoding alloy signer keypair addresses module request
      (· = .ok (.withdrawNative destination amount .safe, keypair.address)) := by
  obtain ⟨built, same, recipient, value, input⟩ := sends
  obtain rfl : request = built := Except.ok.inj same
  have size := length_execCall_le destination amount.amount [] 0
  have short : ((nativeTransfer destination amount).throughModule module).calldata.length <
      2 ^ 63 + 2048 := lt_of_le_of_lt size (by norm_num)
  apply parsedSatisfies_of_message alloyLawful lawful recovers short recipient value input
  have action := @parseTransaction_moduleWithdrawal _ crate decoding _ lawful addresses module
    keypair.address destination amount.amount nonzero
  show parseTransaction crate decoding addresses module _ module 0 _ >>= _ = _
  rw [nativeTransfer, action]
  rfl

end

/-- Both generators build a request for every native transfer.  The one of the Safe generator is
parsed as a withdrawal from the Safe, whatever its destination; the one of the basic generator
as a withdrawal from the node itself, unless it goes to the module or to one of the contracts:
then it is taken for a call, and refused. -/
theorem nativeWithdrawal_recognised {Multiaddr : Type} (crate : MultiaddrCrate Multiaddr)
    {curve : Secp256k1} {alloy : BindingsBased.AlloyTransactions} (alloyLawful : alloy.Lawful)
    {decoding : AlloyDecoding} (lawful : decoding.Lawful alloy) {signer : PrehashSigner}
    (recovers : decoding.Recovers signer curve) (keypair : ChainKeypair curve)
    (addresses : ContractAddresses) (module destination : Address) {amount : XDaiBalance}
    (nonzero : amount.amount ≠ 0) :
    (∃ request,
      (⟨keypair.address, addresses⟩ : BindingsBased.BasicPayloadGenerator).transfer XDai
          destination amount = .ok request ∧
        ParsedSatisfies crate decoding alloy signer keypair addresses module request
          fun parsed =>
            if destination = module ∨ destination ∈ addresses.toList then IsParseError parsed
            else parsed = .ok (.withdrawNative destination amount .eoa, keypair.address)) ∧
    (∃ request,
      (⟨keypair.address, addresses, module⟩ : BindingsBased.SafePayloadGenerator).transfer XDai
          destination amount = .ok request ∧
        ParsedSatisfies crate decoding alloy signer keypair addresses module request
          (· = .ok (.withdrawNative destination amount .safe, keypair.address))) := by
  constructor
  · obtain ⟨request, built, recipient, value, input⟩ := BindingsBased.basic_transfer
      ⟨keypair.address, addresses⟩ XDai destination amount
    exact ⟨request, built, basic_nativeTransfer_parsed alloyLawful lawful recovers destination
      nonzero recipient value input⟩
  · have sends := BindingsBased.safe_transfer ⟨keypair.address, addresses, module⟩ XDai
      destination amount
    obtain ⟨request, built, fields⟩ := sends
    exact ⟨request, lift_eq_ok.mp built, safe_nativeTransfer_parsed alloyLawful lawful recovers
      destination nonzero ⟨request, rfl, fields⟩⟩

theorem nativeWithdrawal_recognised_sample :
    let destination : Address := beBytes 20 0xcccccccccccccccccccccccccccccccccccccccc
    let module : Address := beBytes 20 0xbbbbbbbbbbbbbbbbbbbbbbbbbbbbbbbbbbbbbbbb
    ∃ request,
      (⟨oneKeyPair.address, sampleAddresses⟩ : BindingsBased.BasicPayloadGenerator).transfer XDai
          destination ⟨123⟩ = .ok request ∧
        ParsedSatisfies loopback (knownDecoding fullSignature oneKey.address) canonicalAlloy
          (fun _ _ => .ok fullSignature) oneKeyPair sampleAddresses module request
          (· = .ok (.withdrawNative destination ⟨123⟩ .eoa, oneKeyPair.address)) := by
  intro destination module
  have outside : ¬ (destination = module ∨ destination ∈ sampleAddresses.toList) := by decide
  have recognised := (@nativeWithdrawal_recognised _ loopback _ _ canonicalAlloy_lawful _
    (knownDecoding_lawful fullSignature oneKey.address) _ (knownDecoding_recovers fullSignature)
    oneKeyPair sampleAddresses module destination ⟨123⟩ (by decide)).1
  simp only [if_neg outside] at recognised
  exact recognised

/-- A withdrawal to the token contract is built and signed, but not recognised. -/
theorem nativeWithdrawal_to_token_refused :
    let module : Address := beBytes 20 0xbbbbbbbbbbbbbbbbbbbbbbbbbbbbbbbbbbbbbbbb
    ∃ request,
      (⟨oneKeyPair.address, sampleAddresses⟩ : BindingsBased.BasicPayloadGenerator).transfer XDai
          sampleAddresses.token ⟨123⟩ = .ok request ∧
        ParsedSatisfies loopback (knownDecoding fullSignature oneKey.address) canonicalAlloy
          (fun _ _ => .ok fullSignature) oneKeyPair sampleAddresses module request
          IsParseError := by
  intro module
  obtain ⟨request, built, recipient, value, input⟩ := BindingsBased.basic_transfer
    ⟨oneKeyPair.address, sampleAddresses⟩ XDai sampleAddresses.token ⟨123⟩
  have parsed := @basic_nativeTransfer_parsed _ loopback _ _ canonicalAlloy_lawful
    (knownDecoding_lawful fullSignature oneKey.address) _ _ (knownDecoding_recovers fullSignature)
    oneKeyPair sampleAddresses module sampleAddresses.token ⟨123⟩ (by decide) request recipient
    value input
  have called : sampleAddresses.token = module ∨
      sampleAddresses.token ∈ sampleAddresses.toList := by decide
  simp only [if_pos called] at parsed
  exact ⟨request, built, parsed⟩

end HoprTypes.Chain
