import HoprTypes.Chain.CrossVerify
import HoprTypes.Chain.Eip1559

/-!
# Signed transactions

Requests are signed and put into the typed envelope by hand in the static
implementation, and by the transaction types of the bindings library in the other.
-/

set_option autoImplicit false

namespace HoprTypes.Chain

open BigEndian Keccak HoprTypes.Primitive HoprTypes.Crypto HoprTypes.Internal Rlp

/-- What the ECDSA crate makes of a secret and a hash. -/
abbrev PrehashSigner := FixedBytes 32 → Hash → Except String RawSignature

/-! ## The static implementation -/

namespace StaticBased

def trimBe (bytes : Bytes) : Bytes := trimBE bytes

namespace TransactionRequest

def buildStream (request : TransactionRequest) (nonce chainId : U64) (maxGas : GasEstimation)
    (withSig : Bool) (y : Nat) (r s : FixedBytes 32) : List Item :=
  let toBytes := match request.toAddress with
    | some address => address.toList
    | none => []
  [.uint chainId.toNat, .uint nonce.toNat, .uint maxGas.maxPriorityFeePerGas.toNat,
    .uint maxGas.maxFeePerGas.toNat, .uint maxGas.gasLimit.toNat, .string toBytes,
    .string (trimBe request.value.toList), .string request.input, .list []] ++
    if withSig then [.uint y, .string r.toList, .string s.toList] else []

def signAndEncodeToEip2718 (request : TransactionRequest) (signer : PrehashSigner)
    (nonce chainId : U64) (maxGas : Option GasEstimation) (secret : FixedBytes 32) :
    Except ChainTypesError Bytes := do
  -- The gas limit of the request itself is ignored.
  let maxGas := maxGas.getD .default
  let unsignedRlp := encode (.list (request.buildStream nonce chainId maxGas false 0 zeroWord
    zeroWord))
  let toSign := 0x02 :: unsignedRlp
  let hash := keccak256 toSign
  let sig ← (signer secret hash).mapErr ChainTypesError.signingError
  let yParity := sig.recoveryId.toNat
  let signedRlp := encode (.list (request.buildStream nonce chainId maxGas true yParity
    sig.r sig.s))
  .ok (0x02 :: signedRlp)

end TransactionRequest

end StaticBased

/-! ## The bindings -/

namespace BindingsBased

/-- A request with what the generators leave open. -/
structure FilledRequest where
  request : TransactionRequest
  nonce : U64
  chainId : U64
  gasLimit : U64
  maxFeePerGas : BitVec 128
  maxPriorityFeePerGas : BitVec 128

structure SignedTx where
  tx : TxEip1559
  isYOdd : Bool
  r : U256
  s : U256

/-- What the code uses of the transaction types of the bindings library. -/
structure AlloyTransactions where
  /-- Builds the transaction of a request and has a wallet sign its hash. -/
  build : FilledRequest → (Hash → Except String RawSignature) → Except String SignedTx
  encoded2718 : SignedTx → Bytes

/-- The transaction of a request with a recipient: no value and no data unless given. -/
def FilledRequest.toTx (filled : FilledRequest) : TxEip1559 where
  chainId := filled.chainId
  nonce := filled.nonce
  maxPriorityFeePerGas := filled.maxPriorityFeePerGas
  maxFeePerGas := filled.maxFeePerGas
  gasLimit := filled.gasLimit
  toAddress := filled.request.toAddress
  value := filled.request.value.getD 0
  input := filled.request.input.getD []

/-- A signature as the library stores it, with the parity of the recovery id. -/
def SignedTx.ofRaw (tx : TxEip1559) (raw : RawSignature) : SignedTx where
  tx := tx
  isYOdd := raw.isYOdd
  r := BitVec.ofNat 256 (ofBE raw.r.toList)
  s := BitVec.ofNat 256 (ofBE raw.s.toList)

/-- The transaction is an EIP-1559 one, and its encoding is canonical. -/
structure AlloyTransactions.Lawful (alloy : AlloyTransactions) : Prop where
  builds : ∀ (filled : FilledRequest) (wallet : Hash → Except String RawSignature) (recipient),
    filled.request.toAddress = some recipient →
      alloy.build filled wallet = (wallet filled.toTx.signingHash).map (.ofRaw filled.toTx)
  encodes : ∀ signed : SignedTx, alloy.encoded2718 signed =
    signed.tx.encoded2718 signed.isYOdd.toNat signed.r.toNat signed.s.toNat

variable (alloy : AlloyTransactions)

def TransactionRequest.signAndEncodeToEip2718 (request : TransactionRequest)
    (signer : PrehashSigner) (nonce chainId : U64) (maxGas : Option GasEstimation)
    (secret : FixedBytes 32) : Except ChainTypesError Bytes := do
  let maxGas := maxGas.getD .default
  let filled : FilledRequest :=
    { request := request
      nonce := nonce
      chainId := chainId
      gasLimit := maxGas.gasLimit
      maxFeePerGas := maxGas.maxFeePerGas
      maxPriorityFeePerGas := maxGas.maxPriorityFeePerGas }
  let signed ← (alloy.build filled (signer secret)).mapErr ChainTypesError.signingError
  .ok (alloy.encoded2718 signed)

end BindingsBased

/-! ## The bytes of both implementations -/

def StaticBased.TransactionRequest.toTx (request : TransactionRequest) (nonce chainId : U64)
    (maxGas : GasEstimation) : TxEip1559 where
  chainId := chainId
  nonce := nonce
  maxPriorityFeePerGas := maxGas.maxPriorityFeePerGas
  maxFeePerGas := maxGas.maxFeePerGas
  gasLimit := maxGas.gasLimit
  toAddress := request.toAddress
  value := BitVec.ofNat 256 (ofBE request.value.toList)
  input := request.input

/-- The hand-written fields are canonical, but for `r` and `s`, which are always 32 bytes. -/
theorem StaticBased.TransactionRequest.buildStream_eq (request : TransactionRequest)
    (nonce chainId : U64) (maxGas : GasEstimation) (withSig : Bool) (y : Nat)
    (r s : FixedBytes 32) :
    request.buildStream nonce chainId maxGas withSig y r s =
      (request.toTx nonce chainId maxGas).fields ++
        if withSig then [.uint y, .string r.toList, .string s.toList] else [] := by
  have bound : ofBE request.value.toList < 2 ^ 256 := by
    have limit := ofBE_lt request.value.toList
    rw [FixedBytes.length_toList] at limit
    norm_num at limit ⊢
    exact limit
  have value : trimBe request.value.toList =
      minimalBE (BitVec.ofNat 256 (ofBE request.value.toList)).toNat := by
    rw [BitVec.toNat_ofNat, Nat.mod_eq_of_lt bound]
    exact trimBE_eq_minimalBE request.value.toList
  rw [buildStream, value]
  rfl

theorem StaticBased.TransactionRequest.signAndEncode_eq (request : TransactionRequest)
    (signer : PrehashSigner) (nonce chainId : U64) (maxGas : Option GasEstimation)
    (secret : FixedBytes 32) :
    let tx := request.toTx nonce chainId (maxGas.getD .default)
    request.signAndEncodeToEip2718 signer nonce chainId maxGas secret =
      ((signer secret tx.signingHash).mapErr ChainTypesError.signingError).map fun raw =>
        typedEnvelope (tx.fields ++ [.uint raw.recoveryId.toNat,
          .string raw.r.toList, .string raw.s.toList]) := by
  intro tx
  have unsigned := request.buildStream_eq nonce chainId (maxGas.getD .default) false 0 zeroWord
    zeroWord
  rw [if_neg (by decide), List.append_nil] at unsigned
  unfold signAndEncodeToEip2718
  dsimp only
  rw [unsigned]
  have hash : keccak256 (0x02 :: encode (.list tx.fields)) = tx.signingHash := rfl
  rw [hash]
  cases signer secret tx.signingHash with
  | error cause => rfl
  | ok raw =>
      have signed := request.buildStream_eq nonce chainId (maxGas.getD .default) true
        raw.recoveryId.toNat raw.r raw.s
      rw [if_pos rfl] at signed
      show Except.ok (0x02 :: encode (.list _)) = Except.ok _
      rw [signed]
      rfl

def BindingsBased.TransactionRequest.toTx (request : TransactionRequest) (nonce chainId : U64)
    (maxGas : GasEstimation) : TxEip1559 :=
  FilledRequest.toTx
    ⟨request, nonce, chainId, maxGas.gasLimit, maxGas.maxFeePerGas, maxGas.maxPriorityFeePerGas⟩

theorem BindingsBased.TransactionRequest.signAndEncode_run {alloy : AlloyTransactions}
    (lawful : alloy.Lawful) (signer : PrehashSigner) {request : TransactionRequest}
    {recipient : Address} (sent : request.toAddress = some recipient) (nonce chainId : U64)
    (maxGas : Option GasEstimation) (secret : FixedBytes 32) :
    let tx := request.toTx nonce chainId (maxGas.getD .default)
    request.signAndEncodeToEip2718 alloy signer nonce chainId maxGas secret =
      ((signer secret tx.signingHash).mapErr ChainTypesError.signingError).map fun raw =>
        alloy.encoded2718 (.ofRaw tx raw) := by
  intro tx
  let gas := maxGas.getD .default
  let filled : FilledRequest :=
    ⟨request, nonce, chainId, gas.gasLimit, gas.maxFeePerGas, gas.maxPriorityFeePerGas⟩
  have built : alloy.build filled (signer secret) =
      (signer secret tx.signingHash).map (.ofRaw tx) :=
    lawful.builds filled (signer secret) recipient sent
  have run : request.signAndEncodeToEip2718 alloy signer nonce chainId maxGas secret =
      ((alloy.build filled (signer secret)).mapErr ChainTypesError.signingError).map
        alloy.encoded2718 := by
    unfold signAndEncodeToEip2718
    dsimp only
    cases alloy.build filled (signer secret) <;> rfl
  rw [run, built]
  cases signer secret tx.signingHash with
  | error cause => rfl
  | ok raw => rfl

theorem BindingsBased.TransactionRequest.signAndEncode_eq {alloy : AlloyTransactions}
    (lawful : alloy.Lawful) (signer : PrehashSigner) {manual : StaticBased.TransactionRequest}
    {typed : TransactionRequest} (same : SameRequest manual typed) {recipient : Address}
    (sent : manual.toAddress = some recipient) (nonce chainId : U64)
    (maxGas : Option GasEstimation) (secret : FixedBytes 32) :
    let tx := manual.toTx nonce chainId (maxGas.getD .default)
    typed.signAndEncodeToEip2718 alloy signer nonce chainId maxGas secret =
      ((signer secret tx.signingHash).mapErr ChainTypesError.signingError).map fun raw =>
        tx.encoded2718 raw.isYOdd.toNat (ofBE raw.r.toList) (ofBE raw.s.toList) := by
  intro tx
  have wordValue : ∀ word : FixedBytes 32,
      (BitVec.ofNat 256 (ofBE word.toList)).toNat = ofBE word.toList := by
    intro word
    have bound := ofBE_lt word.toList
    rw [word.length_toList] at bound
    rw [BitVec.toNat_ofNat, Nat.mod_eq_of_lt]
    norm_num at bound ⊢
    exact bound
  have value : BitVec.ofNat 256 (ofBE manual.value.toList) = typed.value.getD 0 := by
    apply BitVec.eq_of_toNat_eq
    rw [wordValue, same.value]
    exact ofBE_toBE_of_lt (lt_of_lt_of_eq (typed.value.getD 0).isLt (by norm_num))
  have sameTx : typed.toTx nonce chainId (maxGas.getD .default) = tx := by
    simp only [tx, TransactionRequest.toTx, FilledRequest.toTx,
      StaticBased.TransactionRequest.toTx, same.recipient, same.input, value]
  have run := signAndEncode_run lawful signer (same.recipient ▸ sent) nonce chainId maxGas secret
  dsimp only at run
  rw [sameTx] at run
  rw [run]
  cases signer secret tx.signingHash with
  | error cause => rfl
  | ok raw =>
      show Except.ok (alloy.encoded2718 _) = Except.ok _
      rw [lawful.encodes]
      simp only [SignedTx.ofRaw, wordValue]

/-- The hand-written bytes are those of a canonical signature exactly when that signature has
the same recovery id and both halves of the given one do without leading zeros. -/
theorem manualEnvelope_eq_iff (tx : TxEip1559) (raw : RawSignature) {y : Nat} (small : y < 256) :
    typedEnvelope (tx.fields ++ [.uint raw.recoveryId.toNat, .string raw.r.toList,
        .string raw.s.toList]) = tx.encoded2718 y (ofBE raw.r.toList) (ofBE raw.s.toList) ↔
      raw.recoveryId.toNat = y ∧ raw.r.toList.head? ≠ some 0 ∧ raw.s.toList.head? ≠ some 0 := by
  have minimalShort : ∀ bytes : Bytes, bytes.length ≤ 32 →
      (minimalBE (ofBE bytes)).length < 2 ^ 64 := by
    intro bytes short
    have shortest : (minimalBE (ofBE bytes)).length ≤ bytes.length :=
      length_minimalBE_le (ofBE_lt bytes)
    omega
  have byteShort : ∀ value : Nat, value < 256 → (minimalBE value).length < 2 ^ 64 := by
    intro value fits
    have shortest : (minimalBE value).length ≤ 1 := length_minimalBE_le (by omega)
    omega
  rw [TxEip1559.encoded2718, Item.uint, Item.uint, Item.uint, Item.uint,
    typedEnvelope_signature_inj, eq_minimalBE_iff, eq_minimalBE_iff]
  · constructor
    · rintro ⟨y, r, s⟩
      exact ⟨minimalBE_injective y, r, s⟩
    · rintro ⟨y, r, s⟩
      exact ⟨congrArg minimalBE y, r, s⟩
  · intro data member
    simp only [List.mem_cons, List.not_mem_nil, or_false] at member
    rcases member with rfl | rfl | rfl | rfl | rfl | rfl
    · exact byteShort _ raw.recoveryId.toNat_lt
    · rw [raw.r.length_toList]
      norm_num
    · rw [raw.s.length_toList]
      norm_num
    · exact byteShort y small
    · exact minimalShort _ (by rw [raw.r.length_toList])
    · exact minimalShort _ (by rw [raw.s.length_toList])

/-- The static implementation writes the canonical bytes, which are those of the bindings,
exactly for the signatures without a leading zero and with an unreduced `x`. -/
theorem static_bytes_canonical_iff {alloy : BindingsBased.AlloyTransactions}
    (lawful : alloy.Lawful) {signer : PrehashSigner} {manual : StaticBased.TransactionRequest}
    {typed : BindingsBased.TransactionRequest} (same : SameRequest manual typed)
    {recipient : Address} (sent : manual.toAddress = some recipient) (nonce chainId : U64)
    (maxGas : Option GasEstimation) (secret : FixedBytes 32) {raw : RawSignature}
    (signed : signer secret
      (manual.toTx nonce chainId (maxGas.getD .default)).signingHash = .ok raw) :
    (manual.signAndEncodeToEip2718 signer nonce chainId maxGas secret =
          .ok ((manual.toTx nonce chainId (maxGas.getD .default)).encoded2718
            raw.recoveryId.toNat (ofBE raw.r.toList) (ofBE raw.s.toList)) ∧
        manual.signAndEncodeToEip2718 signer nonce chainId maxGas secret =
          typed.signAndEncodeToEip2718 alloy signer nonce chainId maxGas secret) ↔
      raw.r.toList.head? ≠ some 0 ∧ raw.s.toList.head? ≠ some 0 ∧ raw.recoveryId.toNat < 2 := by
  have manualBytes := manual.signAndEncode_eq signer nonce chainId maxGas secret
  have typedBytes := BindingsBased.TransactionRequest.signAndEncode_eq lawful signer
    same sent nonce chainId maxGas secret
  dsimp only at manualBytes typedBytes
  rw [signed] at manualBytes typedBytes
  rw [manualBytes, typedBytes]
  simp only [Except.mapErr, Except.map, Except.ok.injEq]
  have parity : raw.recoveryId.toNat = raw.isYOdd.toNat ↔ raw.recoveryId.toNat < 2 := by
    unfold RawSignature.isYOdd
    rcases Nat.mod_two_eq_zero_or_one raw.recoveryId.toNat with even | odd
    · rw [even]
      simp only [zero_ne_one, decide_false, Bool.toNat_false]
      omega
    · rw [odd]
      simp only [decide_true, Bool.toNat_true]
      omega
  have parityFits : raw.isYOdd.toNat < 256 := lt_of_le_of_lt (Bool.toNat_le _) (by norm_num)
  rw [manualEnvelope_eq_iff _ _ raw.recoveryId.toNat_lt, manualEnvelope_eq_iff _ _ parityFits,
    parity]
  constructor
  · rintro ⟨⟨_, r, s⟩, low, _⟩
    exact ⟨r, s, low⟩
  · rintro ⟨r, s, low⟩
    exact ⟨⟨rfl, r, s⟩, low, r, s⟩

/-! ## Two approvals by the secret 1 -/

def canonicalAlloy : BindingsBased.AlloyTransactions where
  build filled wallet :=
    match filled.request.toAddress with
    | some _ => (wallet filled.toTx.signingHash).map (.ofRaw filled.toTx)
    | none => .error "Missing to field"
  encoded2718 signed := signed.tx.encoded2718 signed.isYOdd.toNat signed.r.toNat signed.s.toNat

theorem canonicalAlloy_lawful : canonicalAlloy.Lawful where
  builds := by
    intro filled wallet recipient sent
    simp only [canonicalAlloy, sent]
  encodes _ := rfl

def sampleApproval : StaticBased.TransactionRequest :=
  (⟨oneKey.address, sampleAddresses⟩ : StaticBased.BasicPayloadGenerator).approve
    sampleAddresses.channels ⟨1⟩

def sampleTypedApproval : BindingsBased.TransactionRequest :=
  (⟨oneKey.address, sampleAddresses⟩ : BindingsBased.BasicPayloadGenerator).approve
    sampleAddresses.channels ⟨1⟩

theorem sampleApproval_same : SameRequest sampleApproval sampleTypedApproval where
  recipient := rfl
  value := rfl
  input := by
    have word : BindingsBased.fromBeSlice 256 (BindingsBased.toBe32 1) = 1 :=
      fromBeSlice_toBe32 1
    show StaticBased.encodeApprove _ _ = (Contracts.approveCall _ _).encode
    rw [word]
    exact StaticBased.encodeApprove_eq _ _

def fullSignature : RawSignature :=
  rawSignatureOf 0x9674812550d6a75cac6ea118707db4dd00bfbba700ab61f1aa11c30f62695939
    0x0c34f0a51dfcdaca6693bdb46c7f2246dd94c142ae0411b84dd37717639c3805 1

/-- The signature of the approval with nonce 384, whose `r` starts with a zero byte. -/
def shortSignature : RawSignature :=
  rawSignatureOf 0x0023322677ffca831ec3d9b69c60bb907736e107cbf1b03727a647ab2ee0aa2e
    0x2642bf06b199cb95bcfffe71a2783d78743dbebbc9599fb678a34aaebf07e431 1

theorem static_bytes_canonical_iff_sample :
    (sampleApproval.signAndEncodeToEip2718 (fun _ _ => .ok fullSignature) 0 100 none
          oneKeyPair.secret =
        .ok ((sampleApproval.toTx 0 100 .default).encoded2718 fullSignature.recoveryId.toNat
          (ofBE fullSignature.r.toList) (ofBE fullSignature.s.toList)) ∧
      sampleApproval.signAndEncodeToEip2718 (fun _ _ => .ok fullSignature) 0 100 none
          oneKeyPair.secret =
        sampleTypedApproval.signAndEncodeToEip2718 canonicalAlloy
          (fun _ _ => .ok fullSignature) 0 100 none oneKeyPair.secret) ↔
      fullSignature.r.toList.head? ≠ some 0 ∧ fullSignature.s.toList.head? ≠ some 0 ∧
        fullSignature.recoveryId.toNat < 2 :=
  static_bytes_canonical_iff canonicalAlloy_lawful sampleApproval_same rfl 0 100 none
    oneKeyPair.secret rfl

theorem leading_zero_not_canonical :
    ¬ (sampleApproval.signAndEncodeToEip2718 (fun _ _ => .ok shortSignature) 384 100 none
          oneKeyPair.secret =
        .ok ((sampleApproval.toTx 384 100 .default).encoded2718 shortSignature.recoveryId.toNat
          (ofBE shortSignature.r.toList) (ofBE shortSignature.s.toList)) ∧
      sampleApproval.signAndEncodeToEip2718 (fun _ _ => .ok shortSignature) 384 100 none
          oneKeyPair.secret =
        sampleTypedApproval.signAndEncodeToEip2718 canonicalAlloy
          (fun _ _ => .ok shortSignature) 384 100 none oneKeyPair.secret) := by
  rintro ⟨canonical, _⟩
  rw [sampleApproval.signAndEncode_eq] at canonical
  have bytes := Except.ok.inj canonical
  have heads := (manualEnvelope_eq_iff _ shortSignature shortSignature.recoveryId.toNat_lt).mp bytes
  exact heads.2.1 (by decide)

end HoprTypes.Chain
