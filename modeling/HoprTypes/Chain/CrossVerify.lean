import HoprTypes.Chain.BindingsMessages

/-!
# Cross-verification of the payload generators

The two implementations of a generator refuse the same calls, and build requests with
the same recipient, value and call data for all others.
-/

set_option autoImplicit false

namespace HoprTypes.Chain

open BigEndian Abi HoprTypes.Primitive HoprTypes.Crypto HoprTypes.Internal

/-- The requests have the same recipient, value and call data. -/
structure SameRequest (manual : StaticBased.TransactionRequest)
    (typed : BindingsBased.TransactionRequest) : Prop where
  recipient : manual.toAddress = typed.toAddress
  value : manual.value = StaticBased.toBeWord (typed.value.getD 0)
  input : manual.input = typed.input.getD []

/-- Both outcomes are errors, or both are requests for the same transaction, which carries the
standard encoding of the message. -/
def SameTransaction (static : Outcome ChainTypesError StaticBased.TransactionRequest)
    (bindings : Outcome ChainTypesError BindingsBased.TransactionRequest) :
    Option ChainMessage → Prop
  | none => static.IsErr ∧ bindings.IsErr
  | some message => ∃ manual typed, static = .ok manual ∧ bindings = .ok typed ∧
      SameRequest manual typed ∧ manual.toAddress = some message.recipient ∧
      manual.value = StaticBased.toBeWord message.value ∧ manual.input = message.calldata

theorem sameTransaction_of_sends {static : Outcome ChainTypesError StaticBased.TransactionRequest}
    {bindings : Outcome ChainTypesError BindingsBased.TransactionRequest}
    {message : Option ChainMessage} (manual : StaticBased.Sends static message)
    (typed : BindingsBased.Sends bindings message) : SameTransaction static bindings message := by
  cases message with
  | none => exact ⟨manual, typed⟩
  | some message =>
      obtain ⟨first, built, recipient, value, input⟩ := manual
      obtain ⟨second, typedBuilt, typedRecipient, typedValue, typedInput⟩ := typed
      refine ⟨first, second, built, typedBuilt, ⟨?_, ?_, ?_⟩, recipient, value, input⟩
      · rw [recipient, typedRecipient]
      · rw [value, typedValue]
      · rw [input, typedInput]

/-! ## Hexadecimal text forms -/

def hexValue (digit : Char) : Option Nat := "0123456789abcdef".toList.idxOf? digit

def readHexDigits : Nat → List Char → Option Nat
  | value, [] => some value
  | value, digit :: rest =>
      match hexValue digit with
      | some nibble => readHexDigits (16 * value + nibble) rest
      | none => none

theorem hexValue_hexDigit {nibble : Nat} (small : nibble < 16) :
    hexValue (hexDigit nibble) = some nibble := by
  have all : ∀ nibble : Fin 16, hexValue (hexDigit nibble) = some nibble.val := by decide
  exact all ⟨nibble, small⟩

theorem readHexDigits_append (bytes : Bytes) (value : Nat) (rest : List Char) :
    readHexDigits value ((hexEncode bytes).toList ++ rest) =
      readHexDigits (value * 256 ^ bytes.length + ofBE bytes) rest := by
  induction bytes generalizing value with
  | nil => simp [hexEncode]
  | cons byte bytes ih =>
      have small := byte.toNat_lt
      have step : (hexEncode (byte :: bytes)).toList ++ rest =
          hexDigit (byte.toNat / 16) :: hexDigit (byte.toNat % 16) ::
            ((hexEncode bytes).toList ++ rest) := by
        simp [hexEncode]
      have joined : 16 * (16 * value + byte.toNat / 16) + byte.toNat % 16 =
          value * 256 + byte.toNat := by omega
      rw [step, readHexDigits, hexValue_hexDigit (by omega)]
      dsimp only
      rw [readHexDigits, hexValue_hexDigit (by omega)]
      dsimp only
      rw [joined, ih, ofBE_cons, List.length_cons, pow_succ]
      congr 1
      ring

def readHexWord (digits : List Char) : Except String U256 :=
  match readHexDigits 0 digits with
  | some value =>
      if value < 2 ^ 256 then .ok (BitVec.ofNat 256 value) else .error "value too large"
  | none => .error "invalid digit"

/-- Addresses as prefixed lowercase digits, and the reader of such digits. -/
def hexText : BindingsBased.AlloyText where
  debugAddress := toHex
  u256FromStr text :=
    match text.toList with
    | '0' :: 'x' :: digits => readHexWord digits
    | _ => .error "missing prefix"

theorem hexText_lawful : hexText.Lawful where
  reads := by
    intro address suffix
    let digits := (hexEncode address.toList).toList ++ ((hexEncode suffix.toList).toList ++ [])
    have chars : (hexText.debugAddress address ++ hexEncode suffix.toList).toList =
        '0' :: 'x' :: digits := by
      simp [hexText, toHex, digits]
    have read : hexText.u256FromStr (hexText.debugAddress address ++ hexEncode suffix.toList) =
        readHexWord digits := by
      unfold hexText at chars ⊢
      dsimp only at chars ⊢
      rw [chars]
      rfl
    have bound := ofBE_lt (address.toList ++ suffix.toList)
    have size : (address.toList ++ suffix.toList).length = 32 := by simp
    rw [size] at bound
    have small : ofBE (address.toList ++ suffix.toList) < 2 ^ 256 := by
      norm_num at bound ⊢
      exact bound
    rw [read, readHexWord, readHexDigits_append, readHexDigits_append, Nat.zero_mul, Nat.zero_add,
      ← ofBE_append]
    simp only [readHexDigits, if_pos small]

/-! ## Agreement -/

/-- For every call, the static and the bindings generators of a node, and those of its Safe,
refuse together or build the same transaction. -/
theorem generators_build_same_transaction {Multiaddr : Type} (crate : MultiaddrCrate Multiaddr)
    (curve : Secp256k1) (text : BindingsBased.AlloyText) (lawful : text.Lawful) (me : Address)
    (addresses : ContractAddresses) (module : Address) (call : PayloadCall Multiaddr)
    (witnesses : HasWitnesses curve me call) :
    SameTransaction
        ((⟨me, addresses⟩ : StaticBased.BasicPayloadGenerator).generate curve crate call)
        ((⟨me, addresses⟩ : BindingsBased.BasicPayloadGenerator).generate crate curve text call)
        (basicMessage crate curve me addresses call) ∧
      SameTransaction
        ((⟨me, addresses, module⟩ : StaticBased.SafePayloadGenerator).generate curve crate call)
        ((⟨me, addresses, module⟩ : BindingsBased.SafePayloadGenerator).generate crate curve call)
        (safeMessage crate curve me addresses module call) := by
  constructor
  · exact sameTransaction_of_sends (StaticBased.basic_sends crate ⟨me, addresses⟩ call witnesses)
      (BindingsBased.basic_sends crate ⟨me, addresses⟩ call (fun _ => lawful) witnesses)
  · exact sameTransaction_of_sends
      (StaticBased.safe_sends crate ⟨me, addresses, module⟩ call witnesses)
      (BindingsBased.safe_sends crate ⟨me, addresses, module⟩ call witnesses)

def sampleAddresses : ContractAddresses where
  token := beBytes 20 0x1111111111111111111111111111111111111111
  channels := beBytes 20 0x2222222222222222222222222222222222222222
  announcements := beBytes 20 0x3333333333333333333333333333333333333333
  moduleImplementation := beBytes 20 0x4444444444444444444444444444444444444444
  nodeSafeMigration := beBytes 20 0x5555555555555555555555555555555555555555
  nodeSafeRegistry := beBytes 20 0x6666666666666666666666666666666666666666
  ticketPriceOracle := beBytes 20 0x7777777777777777777777777777777777777777
  winningProbabilityOracle := beBytes 20 0x8888888888888888888888888888888888888888
  nodeStakeFactory := beBytes 20 0x9999999999999999999999999999999999999999
  serviceRegistry := beBytes 20 0xaaaaaaaaaaaaaaaaaaaaaaaaaaaaaaaaaaaaaaaa

theorem incomingRedeemable_witnesses :
    VrfWitnesses oneKeyCurve incomingRedeemable oneKey.address where
  V := by decide +kernel
  A := by decide +kernel
  hV := by decide +kernel
  hA := by decide +kernel
  sG := by decide +kernel
  sB := ⟨(oneKeyCurve.mul payloadPoint.val 1).toSec1Point false, rfl, by decide +kernel⟩

theorem generators_build_same_transaction_sample :
    let call : PayloadCall Unit := .redeemTicket incomingRedeemable
    let module : Address := beBytes 20 0xbbbbbbbbbbbbbbbbbbbbbbbbbbbbbbbbbbbbbbbb
    SameTransaction
        ((⟨oneKey.address, sampleAddresses⟩ : StaticBased.BasicPayloadGenerator).generate
          oneKeyCurve loopback call)
        ((⟨oneKey.address, sampleAddresses⟩ : BindingsBased.BasicPayloadGenerator).generate
          loopback oneKeyCurve hexText call)
        (basicMessage loopback oneKeyCurve oneKey.address sampleAddresses call) ∧
      SameTransaction
        ((⟨oneKey.address, sampleAddresses, module⟩ :
          StaticBased.SafePayloadGenerator).generate oneKeyCurve loopback call)
        ((⟨oneKey.address, sampleAddresses, module⟩ :
          BindingsBased.SafePayloadGenerator).generate loopback oneKeyCurve call)
        (safeMessage loopback oneKeyCurve oneKey.address sampleAddresses module call) := by
  intro call module
  have witnesses : HasWitnesses oneKeyCurve oneKey.address call := by
    intro ackedTicket same
    have redeemed : incomingRedeemable = ackedTicket := PayloadCall.redeemTicket.inj same
    rw [← redeemed]
    exact incomingRedeemable_witnesses
  exact generators_build_same_transaction loopback oneKeyCurve hexText hexText_lawful
    oneKey.address sampleAddresses module call witnesses

end HoprTypes.Chain
