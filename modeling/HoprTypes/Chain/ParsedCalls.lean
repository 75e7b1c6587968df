import HoprTypes.Chain.Parser

/-!
# Calls that the parser reads back

A call of a known function is read as one of that function and of no other, and the
parser takes the arguments of each call of a contract back out of its data.
-/

set_option autoImplicit false

namespace HoprTypes.Chain

open BigEndian Abi HoprTypes.Primitive HoprTypes.Crypto HoprTypes.Internal
open StaticBased.Selectors (functions)

/-! ## Integers -/

theorem toNat_fromBeBytes_toBeBytes {width bits : Nat} (narrow : width ≤ 32)
    (room : 2 ^ bits ≤ 256 ^ width) (value : BitVec bits) :
    (fromBeBytes 256 (toBeBytes width value)).toNat = value.toNat := by
  have size : 256 ^ (toBeBytes width value).length ≤ 2 ^ 256 := by
    rw [length_toBeBytes]
    calc 256 ^ width ≤ 256 ^ 32 := Nat.pow_le_pow_right (by norm_num) narrow
      _ = 2 ^ 256 := by norm_num
  rw [toNat_fromBeBytes size, toBeBytes, ofBE_toBE_of_lt (lt_of_lt_of_le value.isLt room)]

theorem balanceFromBeBytes_amount {currency : Currency} (amount : U256) :
    (balanceFromBeBytes 32 amount : Balance currency) = ⟨amount⟩ := by
  rw [balanceFromBeBytes, Balance.mk.injEq]
  apply BitVec.eq_of_toNat_eq
  exact toNat_fromBeBytes_toBeBytes (le_refl 32) (by norm_num) amount

theorem balanceFromBeBytes_setWidth {currency : Currency} {balance : Balance currency}
    (fits : balance.amount.toNat < 2 ^ 96) :
    balanceFromBeBytes 12 (BitVec.setWidth 96 balance.amount) = balance := by
  obtain ⟨amount⟩ := balance
  rw [balanceFromBeBytes, Balance.mk.injEq]
  apply BitVec.eq_of_toNat_eq
  rw [toNat_fromBeBytes_toBeBytes (by norm_num) (by norm_num), BitVec.toNat_setWidth,
    Nat.mod_eq_of_lt fits]

theorem asU64_index {ε : Type} (index : BitVec 48) :
    (asU64 (fromBeBytes 256 (toBeBytes 6 index)) : Outcome ε U64) =
      .ok (BitVec.setWidth 64 index) := by
  have value := toNat_fromBeBytes_toBeBytes (show 6 ≤ 32 by norm_num)
    (show 2 ^ 48 ≤ 256 ^ 6 by norm_num) index
  have bound := index.isLt
  rw [asU64, value, if_pos (by omega), Except.ok.injEq]
  apply BitVec.eq_of_toNat_eq
  rw [BitVec.toNat_setWidth, BitVec.toNat_setWidth, value]

theorem setWidth_index {index : U64} (fits : index.toNat < 2 ^ 48) :
    BitVec.setWidth 64 (BitVec.setWidth 48 index) = index := by
  apply BitVec.eq_of_toNat_eq
  have bound := index.isLt
  rw [BitVec.toNat_setWidth, BitVec.toNat_setWidth, Nat.mod_eq_of_lt fits,
    Nat.mod_eq_of_lt bound]

/-! ## Calls are read as what they are -/

theorem wellFormed_of_mem : ∀ function ∈ functions, AllWellFormed function.inputs := by
  simp [StaticBased.Selectors.functions, StaticBased.Selectors.table, Contracts.approve,
    Contracts.transfer, Contracts.send, Contracts.registerSafeByNode,
    Contracts.deregisterNodeBySafe, Contracts.selfRegister, Contracts.selfUpdate,
    Contracts.selfDeregister, Contracts.multiSend, Contracts.execTransactionFromModule,
    Contracts.fundChannel, Contracts.fundChannelSafe, Contracts.closeIncomingChannel,
    Contracts.closeIncomingChannelSafe, Contracts.initiateOutgoingChannelClosure,
    Contracts.initiateOutgoingChannelClosureSafe, Contracts.finalizeOutgoingChannelClosure,
    Contracts.finalizeOutgoingChannelClosureSafe, Contracts.redeemTicket,
    Contracts.redeemTicketSafe, Contracts.redeemableTicketTy, Contracts.ticketDataTy,
    Contracts.compactSignatureTy, Contracts.vrfParametersTy, AllWellFormed, Ty.WellFormed]

theorem validText_of_mem : ∀ function ∈ functions, ∀ arguments : Values function.inputs,
    AllValidText function.inputs arguments := by
  simp [StaticBased.Selectors.functions, StaticBased.Selectors.table, Contracts.approve,
    Contracts.transfer, Contracts.send, Contracts.registerSafeByNode,
    Contracts.deregisterNodeBySafe, Contracts.selfRegister, Contracts.selfUpdate,
    Contracts.selfDeregister, Contracts.multiSend, Contracts.execTransactionFromModule,
    Contracts.fundChannel, Contracts.fundChannelSafe, Contracts.closeIncomingChannel,
    Contracts.closeIncomingChannelSafe, Contracts.initiateOutgoingChannelClosure,
    Contracts.initiateOutgoingChannelClosureSafe, Contracts.finalizeOutgoingChannelClosure,
    Contracts.finalizeOutgoingChannelClosureSafe, Contracts.redeemTicket,
    Contracts.redeemTicketSafe, Contracts.redeemableTicketTy, Contracts.ticketDataTy,
    Contracts.compactSignatureTy, Contracts.vrfParametersTy, AllValidText, Ty.ValidText]

theorem send_known : Contracts.send ∈ functions := by
  simp [StaticBased.Selectors.functions, StaticBased.Selectors.table]

theorem approve_known : Contracts.approve ∈ functions := by
  simp [StaticBased.Selectors.functions, StaticBased.Selectors.table]

theorem transfer_known : Contracts.transfer ∈ functions := by
  simp [StaticBased.Selectors.functions, StaticBased.Selectors.table]

theorem registerSafeByNode_known : Contracts.registerSafeByNode ∈ functions := by
  simp [StaticBased.Selectors.functions, StaticBased.Selectors.table]

theorem execTransactionFromModule_known : Contracts.execTransactionFromModule ∈ functions := by
  simp [StaticBased.Selectors.functions, StaticBased.Selectors.table]

/-- A call of a known function, with room for an envelope around it. -/
structure Readable (call : Call) : Prop where
  known : call.function ∈ functions
  short : call.encode.length < 2 ^ 63 + 1024

theorem readable_of_static {function : Function} {arguments : Values function.inputs}
    (known : function ∈ functions) (static : someDynamic function.inputs = false)
    (small : headSizes function.inputs ≤ 1024) : Readable ⟨function, arguments⟩ := by
  have size := length_encodeValues_of_static (wellFormed_of_mem _ known) static arguments
  refine ⟨known, ?_⟩
  rw [Call.length_encode, size]
  omega

section

variable {decoding : AlloyDecoding} {alloy : BindingsBased.AlloyTransactions}
  (lawful : decoding.Lawful alloy)
include lawful

theorem reads_call {call : Call} (readable : Readable call) :
    decoding.abiDecodeCall call.function call.encode = .ok call.arguments := by
  have short := readable.short
  exact lawful.readsCall call (wellFormed_of_mem _ readable.known)
    (validText_of_mem _ readable.known call.arguments) (by omega)

theorem refuses_call {call : Call} (readable : Readable call) {function : Function}
    (known : function ∈ functions) (different : call.function.name ≠ function.name) :
    ∃ cause, decoding.abiDecodeCall function call.encode = .error cause := by
  apply lawful.refuses
  rw [take_encode]
  intro same
  apply StaticBased.Selectors.selector_ne readable.known known different
  ext1
  exact same

end

/-! ## The channels contract -/

section

variable {Multiaddr : Type} {decoding : AlloyDecoding} {alloy : BindingsBased.AlloyTransactions}

theorem CallReader.abiDecode_encode (lawful : decoding.Lawful alloy) {α : Type}
    (reader : CallReader α) {arguments : Values reader.function.inputs}
    (readable : Readable ⟨reader.function, arguments⟩) :
    reader.abiDecode decoding (Call.encode ⟨reader.function, arguments⟩) =
      .ok (reader.use arguments) := by
  have read := reads_call lawful readable
  rw [CallReader.abiDecode, read]
  rfl

theorem CallReader.abiDecode_refuses (lawful : decoding.Lawful alloy) {α : Type}
    (reader : CallReader α) (known : reader.function ∈ functions) {call : Call}
    (readable : Readable call) (different : call.function.name ≠ reader.function.name) :
    ∃ cause, reader.abiDecode decoding call.encode = .error cause := by
  obtain ⟨cause, refused⟩ := refuses_call lawful readable known different
  refine ⟨cause, ?_⟩
  rw [CallReader.abiDecode, refused]
  rfl

namespace ChannelCalls

/-- In the order in which the parser tries them. -/
def functions (calls : ChannelCalls) : List Function :=
  [calls.fundChannel.function, calls.initiateOutgoingChannelClosure.function,
    calls.finalizeOutgoingChannelClosure.function, calls.closeIncomingChannel.function,
    calls.redeemTicket.function]

/-- The functions have selectors of their own, and arguments of a fixed size. -/
structure Lawful (calls : ChannelCalls) : Prop where
  known : ∀ function ∈ calls.functions, function ∈ StaticBased.Selectors.functions
  names : (calls.functions.map Function.name).Nodup
  static : ∀ function ∈ calls.functions, someDynamic function.inputs = false
  small : ∀ function ∈ calls.functions, headSizes function.inputs ≤ 1024

theorem plain_lawful : plain.Lawful where
  known := by
    simp [functions, plain, StaticBased.Selectors.functions, StaticBased.Selectors.table]
  names := by decide
  static := by decide
  small := by decide

theorem safe_lawful : safe.Lawful where
  known := by
    simp [functions, safe, StaticBased.Selectors.functions, StaticBased.Selectors.table]
  names := by decide
  static := by decide
  small := by decide

/-- The functions for a call by the node, or through the module of its Safe. -/
def ofCaller (moduleCall : Bool) : ChannelCalls := if moduleCall then safe else plain

theorem ofCaller_lawful (moduleCall : Bool) : (ofCaller moduleCall).Lawful := by
  cases moduleCall with
  | false => exact plain_lawful
  | true => exact safe_lawful

variable {calls : ChannelCalls}

theorem Lawful.readable (regular : calls.Lawful) {function : Function}
    (member : function ∈ calls.functions) (arguments : Values function.inputs) :
    Readable ⟨function, arguments⟩ :=
  readable_of_static (regular.known function member) (regular.static function member)
    (regular.small function member)

theorem Lawful.refuses (regular : calls.Lawful) (lawful : decoding.Lawful alloy) {α : Type}
    {reader : CallReader α} {call : Call} (readable : Readable call)
    (order : [reader.function, call.function].Sublist calls.functions) :
    ∃ cause, reader.abiDecode decoding call.encode = .error cause := by
  have member : reader.function ∈ calls.functions := order.subset List.mem_cons_self
  have names := regular.names.sublist (order.map Function.name)
  rw [List.map_cons, List.map_cons, List.map_nil, List.nodup_cons, List.mem_singleton] at names
  exact reader.abiDecode_refuses lawful (regular.known _ member) readable (Ne.symm names.1)

variable (regular : calls.Lawful) (lawful : decoding.Lawful alloy) (signer : Address)
include regular lawful

theorem parse_fundChannel (arguments : Values calls.fundChannel.function.inputs) :
    (calls.parse decoding signer (Call.encode ⟨calls.fundChannel.function, arguments⟩) :
        Outcome ChainTypesError (ParsedHoprChainAction Multiaddr)) =
      .ok (.fundChannel (calls.fundChannel.use arguments).1
        (balanceFromBeBytes 12 (calls.fundChannel.use arguments).2)) := by
  have readable := regular.readable (by simp [functions]) arguments
  have read := calls.fundChannel.abiDecode_encode lawful readable
  rw [parse, read]

theorem parse_initiateOutgoingChannelClosure
    (arguments : Values calls.initiateOutgoingChannelClosure.function.inputs) :
    (calls.parse decoding signer
        (Call.encode ⟨calls.initiateOutgoingChannelClosure.function, arguments⟩) :
        Outcome ChainTypesError (ParsedHoprChainAction Multiaddr)) =
      .ok (.initializeChannelClosure
        (generateChannelId signer (calls.initiateOutgoingChannelClosure.use arguments))) := by
  have readable := regular.readable (by simp [functions]) arguments
  have read := calls.initiateOutgoingChannelClosure.abiDecode_encode lawful readable
  obtain ⟨_, fund⟩ := @Lawful.refuses _ _ _ regular lawful _ calls.fundChannel _ readable
    (.cons_cons _ (.cons_cons _ (List.nil_sublist _)))
  unfold parse
  simp only [fund, read]

theorem parse_finalizeOutgoingChannelClosure
    (arguments : Values calls.finalizeOutgoingChannelClosure.function.inputs) :
    (calls.parse decoding signer
        (Call.encode ⟨calls.finalizeOutgoingChannelClosure.function, arguments⟩) :
        Outcome ChainTypesError (ParsedHoprChainAction Multiaddr)) =
      .ok (.finalizeChannelClosure
        (generateChannelId signer (calls.finalizeOutgoingChannelClosure.use arguments))) := by
  have readable := regular.readable (by simp [functions]) arguments
  have read := calls.finalizeOutgoingChannelClosure.abiDecode_encode lawful readable
  obtain ⟨_, fund⟩ := @Lawful.refuses _ _ _ regular lawful _ calls.fundChannel _ readable
    (.cons_cons _ (.cons _ (.cons_cons _ (List.nil_sublist _))))
  obtain ⟨_, initiate⟩ :=
    @Lawful.refuses _ _ _ regular lawful _ calls.initiateOutgoingChannelClosure _ readable
    (.cons _ (.cons_cons _ (.cons_cons _ (List.nil_sublist _))))
  unfold parse
  simp only [fund, initiate, read]

theorem parse_closeIncomingChannel
    (arguments : Values calls.closeIncomingChannel.function.inputs) :
    (calls.parse decoding signer (Call.encode ⟨calls.closeIncomingChannel.function, arguments⟩) :
        Outcome ChainTypesError (ParsedHoprChainAction Multiaddr)) =
      .ok (.incomingChannelClosure
        (generateChannelId (calls.closeIncomingChannel.use arguments) signer)) := by
  have readable := regular.readable (by simp [functions]) arguments
  have read := calls.closeIncomingChannel.abiDecode_encode lawful readable
  obtain ⟨_, fund⟩ := @Lawful.refuses _ _ _ regular lawful _ calls.fundChannel _ readable
    (.cons_cons _ (.cons _ (.cons _ (.cons_cons _ (List.nil_sublist _)))))
  obtain ⟨_, initiate⟩ :=
    @Lawful.refuses _ _ _ regular lawful _ calls.initiateOutgoingChannelClosure _ readable
    (.cons _ (.cons_cons _ (.cons _ (.cons_cons _ (List.nil_sublist _)))))
  obtain ⟨_, finalize⟩ :=
    @Lawful.refuses _ _ _ regular lawful _ calls.finalizeOutgoingChannelClosure _ readable
    (.cons _ (.cons _ (.cons_cons _ (.cons_cons _ (List.nil_sublist _)))))
  unfold parse
  simp only [fund, initiate, finalize, read]

theorem parse_redeemTicket (arguments : Values calls.redeemTicket.function.inputs) :
    (calls.parse decoding signer (Call.encode ⟨calls.redeemTicket.function, arguments⟩) :
        Outcome ChainTypesError (ParsedHoprChainAction Multiaddr)) =
      .ok (.redeemTicket (calls.redeemTicket.use arguments).channelId
        (BitVec.setWidth 64 (calls.redeemTicket.use arguments).ticketIndex)
        (balanceFromBeBytes 12 (calls.redeemTicket.use arguments).amount)) := by
  have readable := regular.readable (by simp [functions]) arguments
  have read := calls.redeemTicket.abiDecode_encode lawful readable
  obtain ⟨_, fund⟩ := @Lawful.refuses _ _ _ regular lawful _ calls.fundChannel _ readable
    (.cons_cons _ (.cons _ (.cons _ (.cons _ (.cons_cons _ (List.nil_sublist _))))))
  obtain ⟨_, initiate⟩ :=
    @Lawful.refuses _ _ _ regular lawful _ calls.initiateOutgoingChannelClosure _ readable
    (.cons _ (.cons_cons _ (.cons _ (.cons _ (.cons_cons _ (List.nil_sublist _))))))
  obtain ⟨_, finalize⟩ :=
    @Lawful.refuses _ _ _ regular lawful _ calls.finalizeOutgoingChannelClosure _ readable
    (.cons _ (.cons _ (.cons_cons _ (.cons _ (.cons_cons _ (List.nil_sublist _))))))
  obtain ⟨_, close⟩ := @Lawful.refuses _ _ _ regular lawful _ calls.closeIncomingChannel _ readable
    (.cons _ (.cons _ (.cons _ (.cons_cons _ (.cons_cons _ (List.nil_sublist _))))))
  unfold parse
  simp only [fund, initiate, finalize, close, read, asU64_index, ok_bind]

end ChannelCalls

end

/-! ## The token contract -/

theorem length_sendCall_le (recipient : Address) (amount : U256) (data : Bytes) :
    (Contracts.sendCall recipient amount data).encode.length ≤ data.length + 163 := by
  have wellFormed : AllWellFormed Contracts.send.inputs := by
    simp [Contracts.send, AllWellFormed, Ty.WellFormed]
  have bound := @Call.length_encode_le_of_tail (Contracts.sendCall recipient amount data) data
    wellFormed rfl
  have head : headSizes (Contracts.sendCall recipient amount data).function.inputs = 96 := rfl
  omega

theorem length_execCall_le (target : Address) (value : U256) (data : Bytes)
    (operation : BitVec 8) :
    (Contracts.execTransactionFromModuleCall target value data operation).encode.length ≤
      data.length + 195 := by
  let call := Contracts.execTransactionFromModuleCall target value data operation
  have wellFormed : AllWellFormed call.function.inputs := by
    simp [call, Contracts.execTransactionFromModuleCall, Contracts.execTransactionFromModule,
      AllWellFormed, Ty.WellFormed]
  have bound := @Call.length_encode_le_of_tail call data wellFormed rfl
  have head : headSizes call.function.inputs = 128 := rfl
  show call.encode.length ≤ _
  omega

theorem readable_sendCall (recipient : Address) (amount : U256) {data : Bytes}
    (short : data.length ≤ isizeMax + 223) :
    Readable (Contracts.sendCall recipient amount data) := by
  have size := length_sendCall_le recipient amount data
  refine ⟨send_known, ?_⟩
  unfold isizeMax at short
  omega

section

variable {Multiaddr : Type} (crate : MultiaddrCrate Multiaddr) {decoding : AlloyDecoding}
  {alloy : BindingsBased.AlloyTransactions} (lawful : decoding.Lawful alloy)
  (addresses : ContractAddresses) (moduleCall : Bool)
include lawful

theorem parseTokenCall_send {recipient : Address} {amount : U256} {data : Bytes}
    (other : recipient ≠ addresses.announcements)
    (readable : Readable (Contracts.sendCall recipient amount data)) :
    parseTokenCall crate decoding addresses moduleCall
        (Contracts.sendCall recipient amount data).encode =
      .ok (.withdrawToken recipient ⟨amount⟩ (payerOf moduleCall)) := by
  have read : CallReader.send.abiDecode decoding
      (Contracts.sendCall recipient amount data).encode = .ok (recipient, amount, data) :=
    CallReader.send.abiDecode_encode lawful readable
  unfold parseTokenCall
  rw [read]
  dsimp only
  rw [if_neg other, balanceFromBeBytes_amount]

theorem parseTokenCall_approve (spender : Address) (amount : U256) :
    parseTokenCall crate decoding addresses moduleCall
        (Contracts.approveCall spender amount).encode =
      .ok (.approve spender ⟨amount⟩ (payerOf moduleCall)) := by
  have readable : Readable (Contracts.approveCall spender amount) :=
    readable_of_static approve_known rfl (by decide)
  obtain ⟨_, send⟩ := CallReader.send.abiDecode_refuses lawful send_known readable
    (show Contracts.approve.name ≠ Contracts.send.name by decide)
  have read : CallReader.approve.abiDecode decoding
      (Contracts.approveCall spender amount).encode = .ok (spender, amount) :=
    CallReader.approve.abiDecode_encode lawful readable
  unfold parseTokenCall
  rw [send, read]
  dsimp only
  rw [balanceFromBeBytes_amount]

theorem parseTokenCall_transfer (recipient : Address) (amount : U256) :
    parseTokenCall crate decoding addresses moduleCall
        (Contracts.transferCall recipient amount).encode =
      .ok (.withdrawToken recipient ⟨amount⟩ (payerOf moduleCall)) := by
  have readable : Readable (Contracts.transferCall recipient amount) :=
    readable_of_static transfer_known rfl (by decide)
  obtain ⟨_, send⟩ := CallReader.send.abiDecode_refuses lawful send_known readable
    (show Contracts.transfer.name ≠ Contracts.send.name by decide)
  obtain ⟨_, approve⟩ := CallReader.approve.abiDecode_refuses lawful approve_known readable
    (show Contracts.transfer.name ≠ Contracts.approve.name by decide)
  have read : CallReader.transfer.abiDecode decoding
      (Contracts.transferCall recipient amount).encode = .ok (recipient, amount) :=
    CallReader.transfer.abiDecode_encode lawful readable
  unfold parseTokenCall
  rw [send, approve, read]
  dsimp only [Except.mapErr, Outcome.lift]
  rw [ok_bind, balanceFromBeBytes_amount]

end

/-! ## Announcements -/

section

variable {Multiaddr : Type} {crate : MultiaddrCrate Multiaddr} {decoding : AlloyDecoding}
  {alloy : BindingsBased.AlloyTransactions} (lawful : decoding.Lawful alloy)
  (textLawful : MultiaddrTextLawful crate)

def announcementData (crate : MultiaddrCrate Multiaddr) (me : Address)
    (announcement : AnnouncementData Multiaddr) : Bytes :=
  encode Contracts.keyBindAndAnnouncePayloadTy (keyBindAndAnnounce crate me announcement).values

theorem length_announcementData_le (me : Address) (announcement : AnnouncementData Multiaddr) :
    (announcementData crate me announcement).length ≤ isizeMax + 223 := by
  have short := StaticBased.length_announceBody_le crate me announcement
  rw [StaticBased.announceBody_eq] at short
  exact short

include textLawful in
theorem parseMultiaddress_addressText {announcement : AnnouncementData Multiaddr}
    (nonEmpty : ∀ multiaddress, announcement.multiaddress = some multiaddress →
      crate.isEmpty multiaddress = false) :
    parseMultiaddress crate (announcement.addressText crate) = .ok announcement.multiaddress := by
  unfold AnnouncementData.addressText
  cases given : announcement.multiaddress with
  | none => rfl
  | some multiaddress =>
      have inhabited := nonEmpty multiaddress given
      have parsed := textLawful.parses multiaddress inhabited
      dsimp only
      rw [parseMultiaddress, if_neg (textLawful.text_ne_nil multiaddress inhabited), parsed]
      rfl

include lawful in
/-- An announcement is read as what was announced, behind the offset that the parser adds. -/
theorem abiDecode_announcementData (me : Address) (announcement : AnnouncementData Multiaddr) :
    decoding.abiDecode Contracts.keyBindAndAnnouncePayloadTy
        (List.replicate 31 0 ++ 32 :: announcementData crate me announcement) =
      .ok (keyBindAndAnnounce crate me announcement).values := by
  let payload := keyBindAndAnnounce crate me announcement
  have offset : List.replicate 31 (0 : UInt8) ++ 32 :: announcementData crate me announcement =
      encodeSingle Contracts.keyBindAndAnnouncePayloadTy payload.values := by
    have word : toBE 32 32 = List.replicate 31 0 ++ [32] := by decide
    rw [encodeSingle_of_dynamic rfl, word, List.append_assoc]
    rfl
  have short := @length_announcementData_le _ crate me announcement
  have size : (encodeSingle Contracts.keyBindAndAnnouncePayloadTy payload.values).length =
      32 + (announcementData crate me announcement).length := by
    rw [encodeSingle_of_dynamic rfl, List.length_append, length_toBE]
    rfl
  have wellFormed : Contracts.keyBindAndAnnouncePayloadTy.WellFormed := by
    simp [Contracts.keyBindAndAnnouncePayloadTy, Ty.WellFormed, AllWellFormed]
  have text : Contracts.keyBindAndAnnouncePayloadTy.ValidText payload.values :=
    ⟨trivial, trivial, trivial, trivial, announcement.addressText_eq_utf8 crate, trivial⟩
  unfold isizeMax at short
  rw [offset]
  exact lawful.reads _ payload.values wellFormed text (by omega)

include lawful textLawful in
theorem parseAnnouncement_data (me : Address) {announcement : AnnouncementData Multiaddr}
    (nonEmpty : ∀ multiaddress, announcement.multiaddress = some multiaddress →
      crate.isEmpty multiaddress = false) :
    parseAnnouncement crate decoding (announcementData crate me announcement) =
      .ok (.announce announcement.keyBinding.packetKey announcement.multiaddress) := by
  let payload := keyBindAndAnnounce crate me announcement
  have read : decoding.abiDecode _ (_ ++ 32 :: announcementData crate me announcement) =
      .ok payload.values := abiDecode_announcementData lawful me announcement
  have back : Contracts.KeyBindAndAnnouncePayload.ofValues payload.values = payload := rfl
  have address : parseMultiaddress crate payload.multiaddress = .ok announcement.multiaddress :=
    parseMultiaddress_addressText textLawful nonEmpty
  unfold parseAnnouncement
  dsimp only
  rw [read]
  dsimp only [Except.mapErr, Outcome.lift]
  rw [ok_bind, back, tryFromSlice_toList]
  dsimp only [Except.mapErr, Outcome.lift]
  rw [ok_bind, address, ok_bind]
  rfl

include lawful textLawful in
theorem parseTokenCall_announce (addresses : ContractAddresses) (moduleCall : Bool) (me : Address)
    (fee : U256) {announcement : AnnouncementData Multiaddr}
    (nonEmpty : ∀ multiaddress, announcement.multiaddress = some multiaddress →
      crate.isEmpty multiaddress = false) :
    parseTokenCall crate decoding addresses moduleCall
        (Contracts.sendCall addresses.announcements fee
          (announcementData crate me announcement)).encode =
      .ok (.announce announcement.keyBinding.packetKey announcement.multiaddress) := by
  have readable := readable_sendCall addresses.announcements fee
    (@length_announcementData_le _ crate me announcement)
  have read : CallReader.send.abiDecode decoding
      (Contracts.sendCall addresses.announcements fee
        (announcementData crate me announcement)).encode =
      .ok (addresses.announcements, fee, announcementData crate me announcement) :=
    CallReader.send.abiDecode_encode lawful readable
  unfold parseTokenCall
  rw [read]
  dsimp only
  rw [if_pos rfl]
  exact parseAnnouncement_data lawful textLawful me nonEmpty

end

end HoprTypes.Chain
