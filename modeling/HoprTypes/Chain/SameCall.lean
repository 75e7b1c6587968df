import HoprTypes.Chain.ContractView

/-!
# The same call, bare and through a module

The calls that both static generators make. The basic generator sends them itself; the Safe
generator asks its module to make the call that the basic generator would have sent.
-/

set_option autoImplicit false

namespace HoprTypes.Chain

open BigEndian HoprTypes.Primitive HoprTypes.Crypto HoprTypes.Internal

/-- The calls that do not depend on who owns the channels or pays for a registration. -/
def PayloadCall.SentByBoth {Multiaddr : Type} : PayloadCall Multiaddr → Prop
  | .approve _ _ | .sendErc777 _ _ _ | .announce _ _ | .deregisterService _ => True
  | .transfer currency _ _ => WxHOPR.is currency = true ∨ XDai.is currency = true
  | _ => False

namespace StaticBased

structure WrapsCall (module : Address) (wrapped bare : SentRequest) : Prop where
  recipient : wrapped.toAddress = some module
  value : wrapped.value = 0
  call : ∃ destination, bare.toAddress = some destination ∧
    CallReader.moduleCall.decode wrapped.input =
      some ⟨destination, bare.value, bare.input, 0⟩

theorem fromBeBytes_toBeWord (value : U256) : fromBeBytes 256 (toBeWord value).toList = value :=
  fromBeSlice_toBe32 value

/-- The value is an argument of the module call; the request itself carries none. -/
theorem moduleExecTx_wraps (generator : SafePayloadGenerator) (destination : Address)
    (value : U256) {callData : Bytes} (small : callData.length < 2 ^ 64) :
    WrapsCall generator.module (generator.moduleExecTx destination (toBeWord value) callData).sent
      ⟨some destination, value, callData⟩ := by
  have encoded := encodeExecFromModule_eq destination value small
  have decoded := decode_moduleCall destination value 0 (lt_trans small (by norm_num))
  constructor
  · rfl
  · exact fromBeBytes_toBeWord 0
  · refine ⟨destination, rfl, ?_⟩
    rw [← encoded] at decoded
    exact decoded

theorem moduleCall_wraps (generator : SafePayloadGenerator) (destination : Address)
    {callData : Bytes} (small : callData.length < 2 ^ 64) :
    WrapsCall generator.module (generator.moduleExecTx destination zeroWord callData).sent
      ((TransactionRequest.withInput {} callData).withTo destination).sent := by
  have bare : ((TransactionRequest.withInput {} callData).withTo destination).sent =
      ⟨some destination, 0, callData⟩ := by
    simp only [TransactionRequest.sent, TransactionRequest.withTo, TransactionRequest.withInput]
    rw [show zeroWord = toBeWord 0 from rfl, fromBeBytes_toBeWord]
  rw [bare]
  exact moduleExecTx_wraps generator destination 0 small

theorem nativeTransfer_wraps (generator : SafePayloadGenerator) (destination : Address)
    (value : U256) :
    WrapsCall generator.module (generator.moduleExecTx destination (toBeWord value) []).sent
      ((TransactionRequest.withValue {} (toBeWord value)).withTo destination).sent := by
  have bare : ((TransactionRequest.withValue {} (toBeWord value)).withTo destination).sent =
      ⟨some destination, value, []⟩ := by
    simp only [TransactionRequest.sent, TransactionRequest.withTo, TransactionRequest.withValue]
    rw [fromBeBytes_toBeWord]
  rw [bare]
  exact moduleExecTx_wraps generator destination value (by simp)

theorem small_staticCall (selector : FixedBytes 4) {words : List Word} (few : words.length ≤ 16) :
    (staticCall selector words).length < 2 ^ 64 := by
  rw [length_staticCall]
  omega

theorem length_encodeSendErc777 (recipient : Address) (amount : Word) (payload : Erc777Payload) :
    (encodeSend recipient amount (encodeErc777Payload payload)).length < 2 ^ 64 := by
  have length := length_callWithBytes_le Selectors.send [addr32 recipient, amount]
    (encodeErc777Payload payload)
  rw [length_encodeErc777Payload] at length
  refine lt_of_le_of_lt length ?_
  simp only [List.length_cons, List.length_nil]
  norm_num

/-! ## The calls that both generators make -/

/-- The two outcomes are requests, the first of which wraps the call of the second. -/
def SameCall (module : Address) (safe basic : Outcome ChainTypesError TransactionRequest) :
    Prop :=
  ∃ wrapped bare, safe = .ok wrapped ∧ basic = .ok bare ∧
    WrapsCall module wrapped.sent bare.sent

variable (basic : BasicPayloadGenerator)

theorem transfer_sameCall (module : Address) {currency : Currency}
    (known : WxHOPR.is currency = true ∨ XDai.is currency = true) (destination : Address)
    (amount : Balance currency) :
    let safe : SafePayloadGenerator := ⟨basic.me, basic.contractAddrs, module⟩
    SameCall module (.lift (safe.transfer currency destination amount))
      (.lift (basic.transfer currency destination amount)) := by
  intro safe
  unfold SafePayloadGenerator.transfer BasicPayloadGenerator.transfer transferTx
  cases native : XDai.is currency with
  | true => exact ⟨_, _, rfl, rfl, nativeTransfer_wraps safe destination amount.amount⟩
  | false =>
      have token : WxHOPR.is currency = true := by
        cases known with
        | inl token => exact token
        | inr other => rw [native] at other; cases other
      have small : (encodeTransfer destination (toBeWord amount.amount)).length < 2 ^ 64 :=
        small_staticCall _ (by simp)
      rw [token]
      exact ⟨_, _, rfl, rfl, moduleCall_wraps safe _ small⟩

/-- The Safe generator wraps the very call that the basic generator sends. -/
theorem generate_sameCall (safe : SafePayloadGenerator) (sameNode : safe.me = basic.me)
    (sameAddresses : safe.contractAddrs = basic.contractAddrs) {Multiaddr : Type}
    (crate : MultiaddrCrate Multiaddr) (curve : Secp256k1) {call : PayloadCall Multiaddr}
    (both : call.SentByBoth) :
    SameCall safe.module (safe.generate curve crate call) (basic.generate curve crate call) := by
  obtain ⟨me, contractAddrs, module⟩ := safe
  obtain rfl : me = basic.me := sameNode
  obtain rfl : contractAddrs = basic.contractAddrs := sameAddresses
  let safe : SafePayloadGenerator := ⟨basic.me, basic.contractAddrs, module⟩
  have bundle {destination : Address} {callData : Bytes} (small : callData.length < 2 ^ 64) :
      SameCall module (.ok (safe.moduleExecTx destination zeroWord callData))
        (.ok ((TransactionRequest.withInput {} callData).withTo destination)) :=
    ⟨_, _, rfl, rfl, moduleCall_wraps safe destination small⟩
  cases call with
  | approve spender amount => exact bundle (small_staticCall _ (by simp))
  | transfer currency destination amount =>
      exact transfer_sameCall basic module both destination amount
  | sendErc777 recipient amount payload =>
      exact bundle (length_encodeSendErc777 recipient (toBeWord amount.amount) payload)
  | announce announcement fee =>
      exact bundle (length_announceCallData crate basic.me basic.contractAddrs.announcements
        announcement fee)
  | deregisterService serviceType => exact bundle (small_staticCall _ (by simp))
  | _ => exact both.elim

/-- Five wei of xDai, sent by a node and by the module of its Safe. -/
theorem generate_sameCall_native :
    let basic : BasicPayloadGenerator := ⟨Address.zero, sampleAddresses⟩
    let safe : SafePayloadGenerator := ⟨Address.zero, sampleAddresses, beBytes 20 7⟩
    let call : PayloadCall Unit := .transfer XDai (beBytes 20 9) ⟨5⟩
    SameCall (beBytes 20 7) (safe.generate oneKeyCurve loopback call)
      (basic.generate oneKeyCurve loopback call) := by
  intro basic safe call
  have both : call.SentByBoth := Or.inr (by decide)
  exact generate_sameCall basic safe rfl rfl loopback oneKeyCurve both

end StaticBased

end HoprTypes.Chain
