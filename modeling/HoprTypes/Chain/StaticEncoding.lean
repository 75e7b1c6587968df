import HoprTypes.Chain.BindingsBased
import HoprTypes.Chain.Selectors

/-!
# Manual encodings are ABI encodings

Every call encoder of the static generators writes the ABI encoding of the call
with the same arguments: selector, words, offsets and padded tails.
-/

set_option autoImplicit false

namespace HoprTypes.Chain.StaticBased

open BigEndian Abi HoprTypes.Primitive HoprTypes.Crypto HoprTypes.Internal

/-! ## Words -/

theorem toList_rightAlign32 {data : Bytes} (short : data.length ≤ 32) :
    (rightAlign32 data).toList = List.replicate (32 - data.length) 0 ++ data := by
  have split : 32 = (32 - data.length) + data.length := by omega
  have padded := toBE_of_lt (32 - data.length) (ofBE_lt data)
  rw [← split, toBE_ofBE] at padded
  exact padded

theorem toList_addr32 (address : Address) : (addr32 address).toList = encode .address address := by
  have length : address.toList.length = 20 := address.length_toList
  rw [addr32, toList_rightAlign32 (by omega), length]
  rfl

theorem toList_toBeWord (value : U256) : (toBeWord value).toList = encode (.uint 256) value := rfl

theorem toList_fixedBytes32 (value : FixedBytes 32) :
    value.toList = encode (.fixedBytes 32) value := by
  have padded : encode (.fixedBytes 32) value = value.toList ++ List.replicate (32 - 32) 0 := rfl
  rw [padded, Nat.sub_self, List.replicate_zero, List.append_nil]

theorem rightAlign32_toList (value : FixedBytes 32) : rightAlign32 value.toList = value := by
  ext1
  rw [toList_rightAlign32 (by simp)]
  simp

theorem rightAlign32_toBE (width value : Nat) :
    (rightAlign32 (toBE width value)).toList = toBE 32 (value % 256 ^ width) := by
  rw [rightAlign32, toList_beBytes, ofBE_toBE]

theorem toList_wordUsize {value : Nat} (small : value < 2 ^ 64) :
    (wordUsize value).toList = toBE 32 value := by
  have fits : value < 256 ^ 8 := by omega
  rw [wordUsize, rightAlign32_toBE, Nat.mod_eq_of_lt fits]

theorem toList_truncatedWord (high low value : Nat) :
    (truncatedWord (toBE (high + low) value) low).toList = toBE 32 (value % 256 ^ low) := by
  have start : (toBE (high + low) value).length - low = high := by
    rw [length_toBE]
    omega
  rw [truncatedWord, start, drop_toBE, rightAlign32_toBE]

theorem toNat_fromBeSlice_drop {bits high low : Nat} (value : Nat) (exact : 256 ^ low = 2 ^ bits) :
    (BindingsBased.fromBeSlice bits ((toBE (high + low) value).drop high)).toNat =
      value % 256 ^ low := by
  rw [BindingsBased.fromBeSlice, fromBeBytes, drop_toBE, ofBE_toBE, BitVec.toNat_ofNat, exact,
    Nat.mod_mod]

theorem abiDynTail_eq {data : Bytes} (small : data.length < 2 ^ 64) :
    abiDynTail data = encode .bytes data := by
  rw [abiDynTail, toList_wordUsize small]
  rfl

/-! ## Calls -/

def wordParts (words : List Word) : List Part := words.map fun word => ⟨false, word.toList⟩

theorem static_wordParts (words : List Word) : ∀ part ∈ wordParts words, part.dynamic = false := by
  intro part member
  obtain ⟨word, _, rfl⟩ := List.mem_map.mp member
  rfl

theorem bodies_wordParts (words : List Word) :
    ((wordParts words).map Part.body).flatten = wordBytes words := by
  rw [wordParts, List.map_map, wordBytes, List.flatMap]
  rfl

theorem headSizes_wordParts (words : List Word) :
    ((wordParts words).map Part.headSize).sum = words.length * 32 := by
  induction words with
  | nil => rfl
  | cons word rest ih =>
      rw [wordParts, List.map_cons, List.map_cons, List.sum_cons]
      rw [wordParts] at ih
      rw [ih, List.length_cons, Part.headSize, if_neg (by simp), word.length_toList]
      ring

theorem staticCall_eq {selector : FixedBytes 4} {words : List Word} {call : Call}
    (known : (selector, call.function) ∈ Selectors.table)
    (parts : encodeValues call.function.inputs call.arguments = wordBytes words) :
    staticCall selector words = call.encode := by
  rw [staticCall, Selectors.selector_of_mem known, Call.encode, parts]

theorem encodeValues_words {components : List Ty} {values : Values components}
    {words : List Word} (parts : tupleParts components values = wordParts words) :
    encodeValues components values = wordBytes words := by
  rw [encodeValues, parts, encodeParts_of_static (static_wordParts words), bodies_wordParts]

theorem encodeValues_words_bytes {components : List Ty} {values : Values components}
    {words : List Word} {data : Bytes} (few : words.length < 2 ^ 32)
    (small : data.length < 2 ^ 64)
    (parts : tupleParts components values =
      wordParts words ++ [Abi.Part.mk true (encode .bytes data)]) :
    encodeValues components values =
      wordBytes words ++
        ((wordUsize ((words.length + 1) * 32)).toList ++ abiDynTail data) := by
  have offset : words.length * 32 + 32 = (words.length + 1) * 32 := by ring
  rw [encodeValues, parts, encodeParts_dynamic_last (static_wordParts words), bodies_wordParts,
    headSizes_wordParts, offset, abiDynTail_eq small, toList_wordUsize (by omega)]

theorem callWithBytes_eq {selector : FixedBytes 4} {words : List Word} {data : Bytes}
    {call : Call} (known : (selector, call.function) ∈ Selectors.table)
    (few : words.length < 2 ^ 32) (small : data.length < 2 ^ 64)
    (parts : tupleParts call.function.inputs call.arguments =
      wordParts words ++ [Abi.Part.mk true (encode .bytes data)]) :
    callWithBytes selector words data = call.encode := by
  rw [callWithBytes, Selectors.selector_of_mem known, Call.encode,
    encodeValues_words_bytes few small parts]

/-! ## Lengths -/

theorem length_wordBytes (words : List Word) : (wordBytes words).length = words.length * 32 := by
  induction words with
  | nil => rfl
  | cons word rest ih =>
      rw [wordBytes, List.flatMap_cons, List.length_append, word.length_toList]
      rw [wordBytes] at ih
      rw [ih, List.length_cons]
      ring

theorem length_staticCall (selector : FixedBytes 4) (words : List Word) :
    (staticCall selector words).length = 4 + words.length * 32 := by
  rw [staticCall, List.length_append, selector.length_toList, length_wordBytes]

theorem length_abiDynTail_le (data : Bytes) : (abiDynTail data).length ≤ data.length + 63 := by
  rw [abiDynTail, List.length_append, List.length_append, FixedBytes.length_toList,
    List.length_replicate]
  omega

theorem length_callWithBytes_le (selector : FixedBytes 4) (words : List Word) (data : Bytes) :
    (callWithBytes selector words data).length ≤ words.length * 32 + data.length + 99 := by
  have tail := length_abiDynTail_le data
  rw [callWithBytes, List.length_append, List.length_append, List.length_append,
    selector.length_toList, length_wordBytes, FixedBytes.length_toList]
  omega

/-! ## The call encoders -/

theorem staticCall_words {selector : FixedBytes 4} {words : List Word} {call : Call}
    (known : (selector, call.function) ∈ Selectors.table)
    (parts : tupleParts call.function.inputs call.arguments = wordParts words) :
    staticCall selector words = call.encode :=
  staticCall_eq known (encodeValues_words parts)

section

variable {selector : FixedBytes 4} {name : String}

theorem addressCall_eq (known : (selector, ⟨name, [.address]⟩) ∈ Selectors.table)
    (address : Address) :
    staticCall selector [addr32 address] = Call.encode ⟨⟨name, [.address]⟩, (address, ())⟩ := by
  apply staticCall_words known
  simp only [wordParts, List.map_cons, List.map_nil, toList_addr32]
  rfl

theorem addressPairCall_eq (known : (selector, ⟨name, [.address, .address]⟩) ∈ Selectors.table)
    (first second : Address) :
    staticCall selector [addr32 first, addr32 second] =
      Call.encode ⟨⟨name, [.address, .address]⟩, (first, second, ())⟩ := by
  apply staticCall_words known
  simp only [wordParts, List.map_cons, List.map_nil, toList_addr32]
  rfl

theorem addressUintCall_eq {bits : Nat} {word : Word} {value : BitVec bits}
    (known : (selector, ⟨name, [.address, .uint bits]⟩) ∈ Selectors.table)
    (exact : word.toList = toBE 32 value.toNat) (address : Address) :
    staticCall selector [addr32 address, word] =
      Call.encode ⟨⟨name, [.address, .uint bits]⟩, (address, value, ())⟩ := by
  apply staticCall_words known
  simp only [wordParts, List.map_cons, List.map_nil, toList_addr32, exact]
  rfl

end

theorem encodeApprove_eq (spender : Address) (amount : U256) :
    encodeApprove spender (toBeWord amount) = (Contracts.approveCall spender amount).encode := by
  apply addressUintCall_eq
  · simp [Selectors.table, Contracts.approve]
  · rfl

theorem encodeTransfer_eq (recipient : Address) (amount : U256) :
    encodeTransfer recipient (toBeWord amount) =
      (Contracts.transferCall recipient amount).encode := by
  apply addressUintCall_eq
  · simp [Selectors.table, Contracts.transfer]
  · rfl

theorem encodeSend_eq (recipient : Address) (amount : U256) {data : Bytes}
    (small : data.length < 2 ^ 64) :
    encodeSend recipient (toBeWord amount) data =
      (Contracts.sendCall recipient amount data).encode := by
  apply callWithBytes_eq _ (by simp) small
  · simp only [wordParts, List.map_cons, List.map_nil, toList_addr32]
    rfl
  · simp [Selectors.table, Contracts.sendCall]

theorem encodeRegisterSafeByNode_eq (safeAddr : Address) :
    encodeRegisterSafeByNode safeAddr = (Contracts.registerSafeByNodeCall safeAddr).encode :=
  addressCall_eq (by simp [Selectors.table, Contracts.registerSafeByNode]) safeAddr

theorem encodeDeregisterNodeBySafe_eq (nodeAddr : Address) :
    encodeDeregisterNodeBySafe nodeAddr = (Contracts.deregisterNodeBySafeCall nodeAddr).encode :=
  addressCall_eq (by simp [Selectors.table, Contracts.deregisterNodeBySafe]) nodeAddr

theorem toList_amountWord (amount : U256) :
    (truncatedWord (toBeBytes 32 amount) 12).toList =
      toBE 32 (BitVec.setWidth 96 amount).toNat := by
  have kept := toList_truncatedWord 20 12 amount.toNat
  have width : 256 ^ 12 = 2 ^ 96 := by norm_num
  rw [toBeBytes, kept, BitVec.toNat_setWidth, width]

theorem encodeFundChannel_eq (account : Address) (amount : U256) :
    encodeFundChannel account (truncatedWord (toBeBytes 32 amount) 12) =
      (Contracts.fundChannelCall account (BitVec.setWidth 96 amount)).encode :=
  addressUintCall_eq (by simp [Selectors.table, Contracts.fundChannel])
    (toList_amountWord amount) account

theorem encodeFundChannelSafe_eq (selfAddr account : Address) (amount : U256) :
    encodeFundChannelSafe selfAddr account (truncatedWord (toBeBytes 32 amount) 12) =
      (Contracts.fundChannelSafeCall selfAddr account (BitVec.setWidth 96 amount)).encode := by
  apply staticCall_words
  · simp [Selectors.table, Contracts.fundChannelSafeCall]
  · simp only [wordParts, List.map_cons, List.map_nil, toList_addr32, toList_amountWord]
    rfl

theorem encodeCloseIncomingChannel_eq (source : Address) :
    encodeCloseIncomingChannel source = (Contracts.closeIncomingChannelCall source).encode :=
  addressCall_eq (by simp [Selectors.table, Contracts.closeIncomingChannel]) source

theorem encodeCloseIncomingChannelSafe_eq (selfAddr source : Address) :
    encodeCloseIncomingChannelSafe selfAddr source =
      (Contracts.closeIncomingChannelSafeCall selfAddr source).encode :=
  addressPairCall_eq (by simp [Selectors.table, Contracts.closeIncomingChannelSafe]) selfAddr source

theorem encodeInitiateOutgoingChannelClosure_eq (destination : Address) :
    encodeInitiateOutgoingChannelClosure destination =
      (Contracts.initiateOutgoingChannelClosureCall destination).encode :=
  addressCall_eq (by simp [Selectors.table, Contracts.initiateOutgoingChannelClosure]) destination

theorem encodeInitiateOutgoingChannelClosureSafe_eq (selfAddr destination : Address) :
    encodeInitiateOutgoingChannelClosureSafe selfAddr destination =
      (Contracts.initiateOutgoingChannelClosureSafeCall selfAddr destination).encode :=
  addressPairCall_eq (by simp [Selectors.table, Contracts.initiateOutgoingChannelClosureSafe])
    selfAddr destination

theorem encodeFinalizeOutgoingChannelClosure_eq (destination : Address) :
    encodeFinalizeOutgoingChannelClosure destination =
      (Contracts.finalizeOutgoingChannelClosureCall destination).encode :=
  addressCall_eq (by simp [Selectors.table, Contracts.finalizeOutgoingChannelClosure]) destination

theorem encodeFinalizeOutgoingChannelClosureSafe_eq (selfAddr destination : Address) :
    encodeFinalizeOutgoingChannelClosureSafe selfAddr destination =
      (Contracts.finalizeOutgoingChannelClosureSafeCall selfAddr destination).encode :=
  addressPairCall_eq (by simp [Selectors.table, Contracts.finalizeOutgoingChannelClosureSafe])
    selfAddr destination

theorem encodeServiceDeregister_eq (serviceType : ServiceType) (node : Address) :
    encodeServiceDeregister serviceType node =
      (Contracts.selfDeregisterCall serviceType.asEncoded node).encode := by
  apply staticCall_words
  · simp [Selectors.table, Contracts.selfDeregisterCall]
  · simp only [wordParts, List.map_cons, List.map_nil, toList_addr32,
      toList_fixedBytes32 serviceType.asEncoded]
    rfl

theorem encodeServiceWrite_eq {selector : FixedBytes 4} {name : String}
    (known : (selector, ⟨name, [.fixedBytes 32, .address, .bytes]⟩) ∈ Selectors.table)
    (serviceType : ServiceType) (node : Address) {metadata : Bytes}
    (small : metadata.length < 2 ^ 64) :
    encodeServiceWrite selector serviceType node metadata =
      Call.encode ⟨⟨name, [.fixedBytes 32, .address, .bytes]⟩,
        (serviceType.asEncoded, node, metadata, ())⟩ := by
  apply callWithBytes_eq known (by simp) small
  simp only [wordParts, List.map_cons, List.map_nil, toList_addr32,
    toList_fixedBytes32 serviceType.asEncoded]
  rfl

/-! ## Module calls -/

theorem toList_rightAlign32_byte (byte : UInt8) :
    (rightAlign32 [byte]).toList = toBE 32 byte.toNat := by
  rw [rightAlign32, toList_beBytes, ofBE_cons, ofBE_nil, List.length_nil, pow_zero, Nat.mul_one,
    Nat.add_zero]

theorem encodeExecFromModuleWithOperation_eq (toAddress : Address) (value : U256) {callData : Bytes}
    (operation : UInt8) (small : callData.length < 2 ^ 64) :
    encodeExecFromModuleWithOperation toAddress (toBeWord value) callData operation =
      (Contracts.execTransactionFromModuleCall toAddress value callData
        operation.toBitVec).encode := by
  have selector : Selectors.execTransactionFromModule =
      Contracts.execTransactionFromModule.selector :=
    Selectors.selector_of_mem (by simp [Selectors.table])
  have parts : tupleParts Contracts.execTransactionFromModule.inputs
      (toAddress, value, callData, operation.toBitVec, ()) =
      [Abi.Part.mk false (addr32 toAddress).toList, Abi.Part.mk false (toBeWord value).toList,
        Abi.Part.mk true (abiDynTail callData),
        Abi.Part.mk false (rightAlign32 [operation]).toList] := by
    rw [toList_addr32, abiDynTail_eq small, toList_rightAlign32_byte]
    rfl
  have values : encodeValues Contracts.execTransactionFromModule.inputs
      (toAddress, value, callData, operation.toBitVec, ()) =
      (addr32 toAddress).toList ++ ((toBeWord value).toList ++ (toBE 32 128 ++
        ((rightAlign32 [operation]).toList ++ abiDynTail callData))) := by
    unfold encodeValues
    rw [parts]
    simp [encodeParts, heads, tails, Part.headSize]
  rw [encodeExecFromModuleWithOperation, selector, toList_wordUsize (by decide)]
  simp only [Call.encode, Contracts.execTransactionFromModuleCall]
  rw [values]

theorem encodeExecFromModule_eq (toAddress : Address) (value : U256) {callData : Bytes}
    (small : callData.length < 2 ^ 64) :
    encodeExecFromModule toAddress (toBeWord value) callData =
      (Contracts.execTransactionFromModuleCall toAddress value callData 0).encode :=
  encodeExecFromModuleWithOperation_eq toAddress value 0 small

/-! ## Structures passed as bytes -/

theorem encodeErc777Payload_eq (aggregator : Address) (note : CurvyNote) :
    encodeErc777Payload (.curvy (.directShield aggregator note)) =
      encodeValues [.address, Contracts.curvyNoteTy]
        (aggregator, Contracts.curvyNoteValues note, ()) := by
  have members : encode Contracts.curvyNoteTy (Contracts.curvyNoteValues note) =
      encodeParts [Abi.Part.mk false (toBeWord note.ownerHash).toList,
        Abi.Part.mk false (toBeWord note.token).toList,
        Abi.Part.mk false (toBeWord note.amount).toList,
        Abi.Part.mk false (encodeParts [Abi.Part.mk false (toBeWord note.ephemeralKey.1).toList,
          Abi.Part.mk false (toBeWord note.ephemeralKey.2).toList]),
        Abi.Part.mk false (toBE 32 note.viewTag.toNat)] := rfl
  have parts : tupleParts [.address, Contracts.curvyNoteTy]
      (aggregator, Contracts.curvyNoteValues note, ()) =
      [Abi.Part.mk false (addr32 aggregator).toList,
        Abi.Part.mk false (encode Contracts.curvyNoteTy (Contracts.curvyNoteValues note))] := by
    rw [toList_addr32]
    rfl
  have viewTag : (rightAlign32 (toBeBytes 2 note.viewTag)).toList = toBE 32 note.viewTag.toNat := by
    have fits : note.viewTag.toNat < 256 ^ 2 := note.viewTag.isLt
    rw [toBeBytes, rightAlign32_toBE, Nat.mod_eq_of_lt fits]
  unfold encodeValues
  rw [parts, members, encodeErc777Payload, viewTag]
  simp [encodeParts, heads, tails, wordBytes]

theorem encodeKeyBindAnnounceBody_eq (payload : Contracts.KeyBindAndAnnouncePayload)
    (small : payload.multiaddress.length < 2 ^ 64) :
    encodeKeyBindAnnounceBody payload.callerNode payload.ed25519Sig0 payload.ed25519Sig1
        payload.ed25519PubKey payload.multiaddress =
      encode Contracts.keyBindAndAnnouncePayloadTy payload.values := by
  have parts : tupleParts [.address, .fixedBytes 32, .fixedBytes 32, .fixedBytes 32, .string]
      payload.values =
      wordParts [addr32 payload.callerNode, payload.ed25519Sig0, payload.ed25519Sig1,
        payload.ed25519PubKey] ++ [Abi.Part.mk true (encode .bytes payload.multiaddress)] := by
    simp only [wordParts, List.map_cons, List.map_nil, toList_addr32,
      toList_fixedBytes32 payload.ed25519Sig0, toList_fixedBytes32 payload.ed25519Sig1,
      toList_fixedBytes32 payload.ed25519PubKey]
    rfl
  have body := encodeValues_words_bytes (by simp) small parts
  have whole : encode Contracts.keyBindAndAnnouncePayloadTy payload.values =
      encodeValues _ payload.values := encode_tuple payload.values
  rw [whole, body]
  simp [encodeKeyBindAnnounceBody, wordBytes]

theorem encode_addresses (addresses : List Address) :
    encode (.array .address) addresses =
      toBE 32 addresses.length ++ wordBytes (addresses.map addr32) := by
  have listed : encode (.array .address) addresses =
      toBE 32 addresses.length ++
        encodeParts (addresses.map fun address : Address =>
          Abi.Part.mk false (encode .address address)) := rfl
  have words : (addresses.map fun address : Address =>
      Abi.Part.mk false (encode .address address)) = wordParts (addresses.map addr32) := by
    clear listed
    induction addresses with
    | nil => rfl
    | cons address rest ih =>
        rw [List.map_cons, List.map_cons, ih, ← toList_addr32]
        rfl
  rw [listed, words, encodeParts_of_static (static_wordParts _), bodies_wordParts]

theorem encodeUserDataBody_eq (data : Contracts.UserData) (few : data.admins.length < 2 ^ 64) :
    encodeUserDataBody data.functionIdentifier (toBeWord data.nonce) data.defaultTarget
        data.admins =
      encode Contracts.userDataTy data.values := by
  have parts : tupleParts [.fixedBytes 32, .uint 256, .fixedBytes 32, .array .address]
      data.values =
      wordParts [data.functionIdentifier, toBeWord data.nonce, data.defaultTarget] ++
        [Abi.Part.mk true (encode (.array .address) data.admins)] := by
    simp only [wordParts, List.map_cons, List.map_nil, toList_toBeWord,
      toList_fixedBytes32 data.functionIdentifier, toList_fixedBytes32 data.defaultTarget]
    rfl
  have whole : encode Contracts.userDataTy data.values = encodeValues _ data.values :=
    encode_tuple data.values
  rw [whole]
  unfold encodeValues
  rw [parts, encodeParts_dynamic_last (static_wordParts _), bodies_wordParts, headSizes_wordParts,
    encode_addresses]
  simp [encodeUserDataBody, wordBytes, toList_wordUsize few, toList_wordUsize]

end HoprTypes.Chain.StaticBased
