import HoprTypes.Chain.ParserInverse

/-!
# What the contracts decode

Requests seen from the other side: the call that a Safe's module executes, the amount
that reaches the channels contract, and the transactions of a multi-send batch.
-/

set_option autoImplicit false

namespace HoprTypes.Chain

open BigEndian Abi HoprTypes.Primitive HoprTypes.Crypto HoprTypes.Internal

def CallReader.decode {α : Type} (reader : CallReader α) (data : Bytes) : Option α :=
  (reader.function.decodeCall data).map reader.use

theorem CallReader.decode_encode {α : Type} (reader : CallReader α)
    (wellFormed : AllWellFormed reader.function.inputs)
    {arguments : Values reader.function.inputs}
    (fits : (Call.encode ⟨reader.function, arguments⟩).length < 2 ^ 256) :
    reader.decode (Call.encode ⟨reader.function, arguments⟩) = some (reader.use arguments) := by
  have decoded := @decodeCall_encode ⟨reader.function, arguments⟩ wellFormed fits
  rw [CallReader.decode]
  exact congrArg (Option.map reader.use) decoded

/-! ## Calls through the module of a Safe -/

/-- What a module executes: the recipient, the value, the data and the operation. -/
structure ModuleCall where
  toAddress : Address
  value : U256
  data : Bytes
  operation : BitVec 8
deriving DecidableEq

def CallReader.moduleCall : CallReader ModuleCall :=
  ⟨Contracts.execTransactionFromModule, fun call => ⟨call.1, call.2.1, call.2.2.1, call.2.2.2.1⟩⟩

theorem decode_moduleCall (toAddress : Address) (value : U256) {data : Bytes}
    (operation : BitVec 8) (short : data.length < 2 ^ 255) :
    CallReader.moduleCall.decode
        (Contracts.execTransactionFromModuleCall toAddress value data operation).encode =
      some ⟨toAddress, value, data, operation⟩ := by
  have size := length_execCall_le toAddress value data operation
  apply CallReader.moduleCall.decode_encode (wellFormed_of_mem _ execTransactionFromModule_known)
  exact lt_of_le_of_lt size (by omega)

/-! ## Funding a channel -/

/-- What a transaction request sends, however its generator represents it. -/
structure SentRequest where
  toAddress : Option Address
  value : U256
  input : Bytes
deriving DecidableEq

def StaticBased.TransactionRequest.sent (request : StaticBased.TransactionRequest) :
    SentRequest :=
  ⟨request.toAddress, fromBeBytes 256 request.value.toList, request.input⟩

def BindingsBased.TransactionRequest.sent (request : BindingsBased.TransactionRequest) :
    SentRequest :=
  ⟨request.toAddress, request.value.getD 0, request.input.getD []⟩

def ChainMessage.sent (message : ChainMessage) : SentRequest :=
  ⟨some message.recipient, message.value, message.calldata⟩

inductive PayloadGenerator where
  | staticBasic (generator : StaticBased.BasicPayloadGenerator)
  | staticSafe (generator : StaticBased.SafePayloadGenerator)
  | bindingsBasic (generator : BindingsBased.BasicPayloadGenerator)
  | bindingsSafe (generator : BindingsBased.SafePayloadGenerator)

namespace PayloadGenerator

def me : PayloadGenerator → Address
  | .staticBasic generator => generator.me
  | .staticSafe generator => generator.me
  | .bindingsBasic generator => generator.me
  | .bindingsSafe generator => generator.me

def contractAddrs : PayloadGenerator → ContractAddresses
  | .staticBasic generator => generator.contractAddrs
  | .staticSafe generator => generator.contractAddrs
  | .bindingsBasic generator => generator.contractAddrs
  | .bindingsSafe generator => generator.contractAddrs

/-- The module of the Safe that sends the payloads, if there is one. -/
def module : PayloadGenerator → Option Address
  | .staticBasic _ => none
  | .staticSafe generator => some generator.module
  | .bindingsBasic _ => none
  | .bindingsSafe generator => some generator.module

def fundChannel (dest : Address) (amount : HoprBalance) :
    PayloadGenerator → Except ChainTypesError SentRequest
  | .staticBasic generator => (generator.fundChannel dest amount).map (·.sent)
  | .staticSafe generator => (generator.fundChannel dest amount).map (·.sent)
  | .bindingsBasic generator => (generator.fundChannel dest amount).map (·.sent)
  | .bindingsSafe generator => (generator.fundChannel dest amount).map (·.sent)

variable (generator : PayloadGenerator)

def channelsData (request : SentRequest) : Option Bytes :=
  match generator.module with
  | none =>
      if request.toAddress = some generator.contractAddrs.channels then some request.input
      else none
  | some module =>
      if request.toAddress = some module then
        match CallReader.moduleCall.decode request.input with
        | some call =>
            if call.toAddress = generator.contractAddrs.channels ∧ call.value = 0 ∧
                call.operation = 0 then some call.data
            else none
        | none => none
      else none

def funding (request : SentRequest) : Option (Address × BitVec 96) :=
  (generator.channelsData request).bind
    (ChannelCalls.ofCaller generator.module.isSome).fundChannel.decode

def fundingCall (dest : Address) (amount : BitVec 96) : Call :=
  match generator.module with
  | none => Contracts.fundChannelCall dest amount
  | some _ => Contracts.fundChannelSafeCall generator.me dest amount

/-- The message that funds a channel, `none` where the generator refuses. -/
def fundingMessage (dest : Address) (amount : HoprBalance) : Option ChainMessage :=
  let direct := withOther generator.me generator.contractAddrs dest
    (generator.fundingCall dest (BitVec.setWidth 96 amount.amount))
  match generator.module with
  | none => direct
  | some module =>
      if amount.amount.toNat > ChannelBuilder.maxFundingAmount then none
      else direct.map (.throughModule module)

end PayloadGenerator

def SendsMessage (outcome : Except ChainTypesError SentRequest) : Option ChainMessage → Prop
  | none => ∃ cause, outcome = .error cause
  | some message => outcome = .ok message.sent

theorem sendsMessage_static {outcome : Except ChainTypesError StaticBased.TransactionRequest}
    {message : Option ChainMessage} (sends : StaticBased.Sends (.lift outcome) message) :
    SendsMessage (outcome.map (·.sent)) message := by
  cases message with
  | none =>
      cases outcome with
      | error cause => exact ⟨cause, rfl⟩
      | ok request =>
          obtain ⟨cause, impossible⟩ := sends
          cases impossible
  | some message =>
      obtain ⟨request, built, recipient, value, input⟩ := sends
      have word : fromBeBytes 256 (StaticBased.toBeWord message.value).toList = message.value :=
        fromBeSlice_toBe32 message.value
      rw [lift_eq_ok.mp built]
      show Except.ok request.sent = .ok message.sent
      rw [StaticBased.TransactionRequest.sent, recipient, value, input, word]
      rfl

theorem sendsMessage_bindings {outcome : Except ChainTypesError BindingsBased.TransactionRequest}
    {message : Option ChainMessage} (sends : BindingsBased.Sends (.lift outcome) message) :
    SendsMessage (outcome.map (·.sent)) message := by
  cases message with
  | none =>
      cases outcome with
      | error cause => exact ⟨cause, rfl⟩
      | ok request =>
          obtain ⟨cause, impossible⟩ := sends
          cases impossible
  | some message =>
      obtain ⟨request, built, recipient, value, input⟩ := sends
      rw [lift_eq_ok.mp built]
      show Except.ok request.sent = .ok message.sent
      rw [BindingsBased.TransactionRequest.sent, recipient, value, input]
      rfl

namespace PayloadGenerator

variable (generator : PayloadGenerator)

theorem fundChannel_sends (dest : Address) (amount : HoprBalance) :
    SendsMessage (generator.fundChannel dest amount) (generator.fundingMessage dest amount) := by
  cases generator with
  | staticBasic inner => exact sendsMessage_static (StaticBased.basic_fundChannel inner dest amount)
  | staticSafe inner => exact sendsMessage_static (StaticBased.safe_fundChannel inner dest amount)
  | bindingsBasic inner =>
      exact sendsMessage_bindings (BindingsBased.basic_fundChannel inner dest amount)
  | bindingsSafe inner =>
      exact sendsMessage_bindings (BindingsBased.safe_fundChannel inner dest amount)

theorem fundingCall_readable (dest : Address) (amount : BitVec 96) :
    Readable (generator.fundingCall dest amount) := by
  unfold fundingCall
  cases generator.module with
  | none =>
      have known : Contracts.fundChannel ∈ ChannelCalls.plain.functions := List.mem_cons_self
      exact ChannelCalls.plain_lawful.readable known _
  | some module =>
      have known : Contracts.fundChannelSafe ∈ ChannelCalls.safe.functions := List.mem_cons_self
      exact ChannelCalls.safe_lawful.readable known _

theorem decode_fundingCall (dest : Address) (amount : BitVec 96) :
    (ChannelCalls.ofCaller generator.module.isSome).fundChannel.decode
      (generator.fundingCall dest amount).encode = some (dest, amount) := by
  have readable := generator.fundingCall_readable dest amount
  have wellFormed := wellFormed_of_mem _ readable.known
  have fits := lt_trans readable.short (show 2 ^ 63 + 1024 < 2 ^ 256 by norm_num)
  unfold fundingCall at wellFormed fits ⊢
  cases module : generator.module with
  | none =>
      rw [module] at wellFormed fits
      exact ChannelCalls.plain.fundChannel.decode_encode wellFormed fits
  | some safeModule =>
      rw [module] at wellFormed fits
      exact ChannelCalls.safe.fundChannel.decode_encode wellFormed fits

theorem channelsData_direct (direct : generator.module = none) (call : Call) :
    generator.channelsData (ChainMessage.ofCall generator.contractAddrs.channels call).sent =
      some call.encode := by
  rw [channelsData, direct]
  exact if_pos rfl

theorem channelsData_throughModule {module : Address} (through : generator.module = some module)
    {call : Call} (short : call.encode.length < 2 ^ 255) :
    generator.channelsData
      ((ChainMessage.ofCall generator.contractAddrs.channels call).throughModule module).sent =
        some call.encode := by
  let message := (ChainMessage.ofCall generator.contractAddrs.channels call).throughModule module
  have recipient : message.sent.toAddress = some module := rfl
  have decoded : CallReader.moduleCall.decode message.sent.input =
      some ⟨generator.contractAddrs.channels, 0, call.encode, 0⟩ :=
    decode_moduleCall generator.contractAddrs.channels 0 0 short
  rw [channelsData, through]
  dsimp only
  rw [if_pos recipient, decoded]
  exact if_pos ⟨rfl, rfl, rfl⟩

theorem funding_fundingMessage {dest : Address} {amount : HoprBalance} {message : ChainMessage}
    (sent : generator.fundingMessage dest amount = some message) :
    generator.funding message.sent = some (dest, BitVec.setWidth 96 amount.amount) := by
  have readable := generator.fundingCall_readable dest (BitVec.setWidth 96 amount.amount)
  have read := generator.decode_fundingCall dest (BitVec.setWidth 96 amount.amount)
  unfold fundingMessage at sent
  dsimp only at sent
  cases module : generator.module with
  | none =>
      rw [module] at sent
      obtain rfl := withOther_eq_some sent
      rw [funding, generator.channelsData_direct module]
      exact read
  | some safeModule =>
      rw [module] at sent
      dsimp only at sent
      by_cases large : amount.amount.toNat > ChannelBuilder.maxFundingAmount
      · rw [if_pos large] at sent
        cases sent
      · rw [if_neg large] at sent
        obtain ⟨direct, sentDirect, rfl⟩ := Option.map_eq_some_iff.mp sent
        obtain rfl := withOther_eq_some sentDirect
        have short := lt_trans readable.short (show 2 ^ 63 + 1024 < 2 ^ 255 by norm_num)
        rw [funding, generator.channelsData_throughModule module short]
        exact read

theorem fundingMessage_isSome (dest : Address) (amount : HoprBalance) :
    (generator.fundingMessage dest amount).isSome ↔ dest ≠ generator.me ∧
      (generator.module.isSome → amount.amount.toNat ≤ ChannelBuilder.maxFundingAmount) := by
  unfold fundingMessage withOther
  dsimp only
  by_cases self : dest = generator.me
  · cases generator.module <;> simp [self]
  · cases generator.module <;> simp [self]

/-- What a generator sends for a funding call moves the requested amount to the requested
destination, exactly if the generator is one for a Safe, refuses to fund itself, or the amount
has at most 96 bits: the basic generators cut it without a check. -/
theorem fundChannel_moves_amount_iff (dest : Address) (amount : HoprBalance) :
    (∀ request, generator.fundChannel dest amount = .ok request →
        ∃ moved, generator.funding request = some (dest, moved) ∧
          moved.toNat = amount.amount.toNat) ↔
      (generator.module.isSome ∨ dest = generator.me ∨ amount.amount.toNat < 2 ^ 96) := by
  have sends := generator.fundChannel_sends dest amount
  have accepted := generator.fundingMessage_isSome dest amount
  cases message : generator.fundingMessage dest amount with
  | none =>
      rw [message] at sends accepted
      obtain ⟨cause, refused⟩ := sends
      simp only [Option.isSome_none, Bool.false_eq_true, false_iff, not_and] at accepted
      constructor
      · intro _
        by_cases self : dest = generator.me
        · exact .inr (.inl self)
        · left
          by_contra basic
          exact accepted self fun safe => absurd safe basic
      · intro _ request built
        rw [refused] at built
        cases built
  | some sent =>
      rw [message] at sends accepted
      have moved := generator.funding_fundingMessage message
      obtain ⟨other, checked⟩ := accepted.mp rfl
      have exact_iff : (BitVec.setWidth 96 amount.amount).toNat = amount.amount.toNat ↔
          amount.amount.toNat < 2 ^ 96 := by
        rw [BitVec.toNat_setWidth]
        constructor
        · intro same
          rw [← same]
          exact Nat.mod_lt _ (by norm_num)
        · intro narrow
          exact Nat.mod_eq_of_lt narrow
      constructor
      · intro moves
        obtain ⟨amount', read, same⟩ := moves _ sends
        rw [moved] at read
        obtain rfl := congrArg Prod.snd (Option.some.inj read)
        exact .inr (.inr (exact_iff.mp same))
      · intro condition request built
        obtain rfl := Except.ok.inj (sends.symm.trans built)
        refine ⟨_, moved, exact_iff.mpr ?_⟩
        rcases condition with safe | self | narrow
        · exact lt_of_le_of_lt (checked safe) (by decide)
        · exact absurd self other
        · exact narrow

/-- A basic generator funds a channel with nothing where `2^96` is requested. -/
theorem fundChannel_truncates :
    let dest : Address := beBytes 20 0xbbbbbbbbbbbbbbbbbbbbbbbbbbbbbbbbbbbbbbbb
    let generator : PayloadGenerator := .staticBasic ⟨Address.zero, sampleAddresses⟩
    ∃ request, generator.fundChannel dest ⟨BitVec.ofNat 256 (2 ^ 96)⟩ = .ok request ∧
      generator.funding request = some (dest, 0) := by
  intro dest generator
  have other : dest ≠ generator.me := by decide
  have low : BitVec.setWidth 96 (BitVec.ofNat 256 (2 ^ 96)) = 0 := by decide
  have message : ∀ amount : HoprBalance, generator.fundingMessage dest amount =
      some (.ofCall sampleAddresses.channels
        (Contracts.fundChannelCall dest (BitVec.setWidth 96 amount.amount))) := by
    intro amount
    show withOther generator.me _ dest _ = _
    rw [withOther, if_neg other]
    rfl
  have sends := generator.fundChannel_sends dest ⟨BitVec.ofNat 256 (2 ^ 96)⟩
  have moved := generator.funding_fundingMessage (message ⟨BitVec.ofNat 256 (2 ^ 96)⟩)
  rw [message] at sends
  rw [low] at moved
  exact ⟨_, sends, moved⟩

end PayloadGenerator

/-! ## Batches of the multi-send contract -/

structure MultiSendRecord where
  operation : UInt8
  toAddress : Address
  value : U256
  data : Bytes
deriving DecidableEq

namespace MultiSendRecord

def packed (record : MultiSendRecord) : Bytes :=
  record.operation :: (record.toAddress.toList ++ (toBE 32 record.value.toNat ++
    (toBE 32 record.data.length ++ record.data)))

def ofCall (toAddress : Address) (data : Bytes) : MultiSendRecord := ⟨0, toAddress, 0, data⟩

/-- The given number of bytes, and those behind them. -/
def readBytes (size : Nat) (bytes : Bytes) : Option (Bytes × Bytes) :=
  if size ≤ bytes.length then some (bytes.take size, bytes.drop size) else none

def read : Bytes → Option (MultiSendRecord × Bytes)
  | [] => none
  | operation :: bytes => do
      let (toAddress, bytes) ← readBytes 20 bytes
      let (value, bytes) ← readBytes 32 bytes
      let (size, bytes) ← readBytes 32 bytes
      let (data, bytes) ← readBytes (ofBE size) bytes
      some (⟨operation, beBytes 20 (ofBE toAddress), fromBeBytes 256 value, data⟩, bytes)

def readMany : Nat → Bytes → Option (List MultiSendRecord)
  | _, [] => some []
  | 0, _ :: _ => none
  | count + 1, bytes => do
      let (record, rest) ← read bytes
      let others ← readMany count rest
      some (record :: others)

/-- All the records in the bytes; every record has some bytes. -/
def readAll (bytes : Bytes) : Option (List MultiSendRecord) := readMany bytes.length bytes

theorem readBytes_append {size : Nat} {front : Bytes} (exact : front.length = size)
    (rest : Bytes) : readBytes size (front ++ rest) = some (front, rest) := by
  have inside : size ≤ (front ++ rest).length := by
    rw [List.length_append, exact]
    omega
  rw [readBytes, if_pos inside, List.take_left' exact, List.drop_left' exact]

theorem read_packed (record : MultiSendRecord) (fits : record.data.length < 2 ^ 256)
    (rest : Bytes) : read (record.packed ++ rest) = some (record, rest) := by
  obtain ⟨operation, toAddress, value, data⟩ := record
  have address : beBytes 20 (ofBE toAddress.toList) = toAddress := by
    ext1
    exact toBE_ofBE_of_length toAddress.length_toList
  have size : ofBE (toBE 32 data.length) = data.length :=
    ofBE_toBE_of_lt (lt_of_lt_of_eq fits (by norm_num))
  have number : fromBeBytes 256 (toBE 32 value.toNat) = value := fromBeSlice_toBe32 value
  simp only [packed, List.cons_append, List.append_assoc, read]
  rw [readBytes_append toAddress.length_toList, Option.bind_eq_bind, Option.bind_some,
    readBytes_append (length_toBE 32 _), Option.bind_some,
    readBytes_append (length_toBE 32 _), Option.bind_some, size,
    readBytes_append rfl, Option.bind_some, address, number]

theorem length_packed (record : MultiSendRecord) :
    record.packed.length = 85 + record.data.length := by
  simp only [packed, List.length_cons, List.length_append, FixedBytes.length_toList, length_toBE]
  omega

theorem readMany_packed {records : List MultiSendRecord}
    (fits : ∀ record ∈ records, record.data.length < 2 ^ 256) {count : Nat}
    (enough : records.length ≤ count) :
    readMany count (records.flatMap packed) = some records := by
  induction records generalizing count with
  | nil => cases count <;> rfl
  | cons record others ih =>
      obtain ⟨first, rest⟩ := List.forall_mem_cons.mp fits
      cases count with
      | zero => cases enough
      | succ count =>
          have here := read_packed record first (others.flatMap packed)
          have behind := ih rest (Nat.le_of_succ_le_succ enough)
          have step : readMany (count + 1) ((record :: others).flatMap packed) =
              read (record.packed ++ others.flatMap packed) >>= fun found =>
                readMany count found.2 >>= fun others => some (found.1 :: others) := rfl
          rw [step, here, Option.bind_eq_bind, Option.bind_some, behind]
          rfl

theorem readAll_packed {records : List MultiSendRecord}
    (fits : ∀ record ∈ records, record.data.length < 2 ^ 256) :
    readAll (records.flatMap packed) = some records := by
  apply readMany_packed fits
  induction records with
  | nil => exact Nat.le_refl 0
  | cons record others ih =>
      have rest := ih (List.forall_mem_cons.mp fits).2
      rw [List.flatMap_cons, List.length_append, length_packed, List.length_cons]
      omega

end MultiSendRecord

/-! ## Paid registry writes -/

def CallReader.multiSend : CallReader Bytes := ⟨Contracts.multiSend, fun call => call.1⟩

theorem multiSend_known : Contracts.multiSend ∈ StaticBased.Selectors.functions := by
  simp [StaticBased.Selectors.functions, StaticBased.Selectors.table]

theorem length_multiSendCall_le (transactions : Bytes) :
    (Contracts.multiSendCall transactions).encode.length ≤ transactions.length + 99 := by
  have wellFormed := wellFormed_of_mem _ multiSend_known
  have bound := @Call.length_encode_le_of_tail (Contracts.multiSendCall transactions) transactions
    wellFormed rfl
  have head : headSizes (Contracts.multiSendCall transactions).function.inputs = 32 := rfl
  omega

/-- The records of a paid registry write: the call, behind the approval of its burn if there
is one. -/
def paidRecords (token registry : Address) (registryCall : Bytes) (burn : HoprBalance) :
    List MultiSendRecord :=
  (if burn.amount = 0 then []
    else [.ofCall token (Contracts.approveCall registry burn.amount).encode]) ++
    [.ofCall registry registryCall]

theorem length_paidRecords_lt {token registry : Address} {registryCall : Bytes}
    (small : registryCall.length ≤ isizeMax) {burn : HoprBalance} :
    ∀ record ∈ paidRecords token registry registryCall burn, record.data.length < 2 ^ 64 := by
  have approval := BindingsBased.length_approveCall registry burn.amount
  unfold isizeMax at small
  intro record member
  rcases List.mem_append.mp member with approved | written
  · by_cases free : burn.amount = 0
    · rw [if_pos free] at approved
      cases approved
    · rw [if_neg free, List.mem_singleton] at approved
      rw [approved, MultiSendRecord.ofCall, approval]
      norm_num
  · rw [List.mem_singleton] at written
    rw [written]
    show registryCall.length < 2 ^ 64
    omega

theorem paidTransactions_packed (token registry : Address) {registryCall : Bytes}
    (small : registryCall.length ≤ isizeMax) (burn : HoprBalance) :
    StaticBased.paidTransactions token registry registryCall burn =
      (paidRecords token registry registryCall burn).flatMap MultiSendRecord.packed := by
  have packed : ∀ (toAddress : Address) {data : Bytes}, data.length < 2 ^ 64 →
      StaticBased.encodeMultiSendTransaction toAddress data =
        (MultiSendRecord.ofCall toAddress data).packed := by
    intro toAddress data short
    rw [StaticBased.encodeMultiSendTransaction, StaticBased.toList_wordUsize short,
      ← toBE_zero]
    rfl
  have approval := StaticBased.encodeApprove_eq registry burn.amount
  have length := BindingsBased.length_approveCall registry burn.amount
  unfold isizeMax at small
  rw [StaticBased.paidTransactions, approval, packed token (by rw [length]; norm_num),
    packed registry (by omega), paidRecords, Balance.isZero]
  by_cases free : burn.amount = 0
  · rw [if_pos free, decide_eq_true free, if_pos rfl]
    simp
  · rw [if_neg free, decide_eq_false free, if_neg Bool.false_ne_true]
    simp

theorem paidServiceRegistryPayload_agree (token registry : Address) {registryCall : Bytes}
    (small : registryCall.length ≤ isizeMax) (burn : HoprBalance) :
    BindingsBased.paidServiceRegistryPayload token registry registryCall burn =
      StaticBased.paidServiceRegistryPayload token registry registryCall burn := by
  have packed : ∀ (toAddress : Address) {data : Bytes}, data.length < 2 ^ 64 →
      BindingsBased.encodeMultiSendTransaction toAddress data =
        StaticBased.encodeMultiSendTransaction toAddress data := by
    intro toAddress data short
    have length : BindingsBased.toBe32 (BitVec.ofNat 256 data.length) = toBE 32 data.length := by
      rw [BindingsBased.toBe32, toBeBytes, BitVec.toNat_ofNat,
        Nat.mod_eq_of_lt (lt_trans short (by norm_num))]
    rw [BindingsBased.encodeMultiSendTransaction, StaticBased.encodeMultiSendTransaction, length,
      StaticBased.toList_wordUsize short]
    rfl
  have approval := StaticBased.encodeApprove_eq registry burn.amount
  have length := BindingsBased.length_approveCall registry burn.amount
  rw [StaticBased.paidServiceRegistryPayload_delegated token registry small,
    StaticBased.paidTransactions, approval]
  unfold isizeMax at small
  unfold BindingsBased.paidServiceRegistryPayload
  dsimp only
  rw [fromBeSlice_toBe32, packed token (by rw [length]; norm_num), packed registry (by omega)]
  rfl

/-- A paid registry write is well formed on every level: the module delegates a call of the
multi-send contract, without a value; the batch of that call is read up to its last byte as
records of plain calls without a value, namely the registry call, behind an approval of exactly
the burn if there is one. -/
theorem paidServiceRegistryPayload_decodes (token registry : Address)
    (registryCall : BoundedVec UInt8 isizeMax) (burn : HoprBalance) :
    ∃ multiSend batch,
      CallReader.moduleCall.decode
          (StaticBased.paidServiceRegistryPayload token registry registryCall.toList burn) =
        some ⟨multiSendAddress, 0, multiSend, BindingsBased.Operation.delegateCall.asU8⟩ ∧
      CallReader.multiSend.decode multiSend = some batch ∧
      MultiSendRecord.readAll batch =
        some ((if burn.amount = 0 then []
            else [⟨0, token, 0, (Contracts.approveCall registry burn.amount).encode⟩]) ++
          [⟨0, registry, 0, registryCall.toList⟩]) ∧
      CallReader.approve.decode (Contracts.approveCall registry burn.amount).encode =
        some (registry, burn.amount) ∧
      BindingsBased.paidServiceRegistryPayload token registry registryCall.toList burn =
        StaticBased.paidServiceRegistryPayload token registry registryCall.toList burn := by
  have small := registryCall.fits
  let batch := StaticBased.paidTransactions token registry registryCall.toList burn
  have batchLength : batch.length ≤ registryCall.toList.length + 238 :=
    StaticBased.length_paidTransactions_le token registry registryCall.toList burn
  have sendLength := length_multiSendCall_le batch
  have short : registryCall.toList.length + 1024 < 2 ^ 64 := by
    unfold isizeMax at small
    omega
  have room : (Contracts.multiSendCall batch).encode.length < 2 ^ 255 := by omega
  refine ⟨(Contracts.multiSendCall batch).encode, batch, ?_, ?_, ?_, ?_, ?_⟩
  · rw [StaticBased.paidServiceRegistryPayload_delegated token registry small]
    exact decode_moduleCall multiSendAddress 0 1 room
  · exact CallReader.multiSend.decode_encode (wellFormed_of_mem _ multiSend_known)
      (lt_of_le_of_lt sendLength (by omega))
  · have records := @length_paidRecords_lt token registry _ small burn
    have packed := paidTransactions_packed token registry small burn
    show MultiSendRecord.readAll (StaticBased.paidTransactions _ _ _ _) = _
    rw [packed]
    exact MultiSendRecord.readAll_packed fun record member =>
      lt_trans (records record member) (by norm_num)
  · apply CallReader.approve.decode_encode (wellFormed_of_mem _ approve_known)
    exact lt_of_eq_of_lt (BindingsBased.length_approveCall registry burn.amount) (by norm_num)
  · exact paidServiceRegistryPayload_agree token registry small burn

end HoprTypes.Chain
