import Mathlib
import HoprTypes.Chain.ParserInverse
import HoprTypes.Internal.TicketBinding

/-!
# What a chain key signs

A chain key signs tickets and transactions.  No two of them are hashed from the same bytes, and
no two transactions are encoded to the same bytes.
-/

set_option autoImplicit false

namespace HoprTypes.Chain

open BigEndian Keccak Rlp HoprTypes.Primitive HoprTypes.Crypto HoprTypes.Internal

/-! ## Transactions -/

theorem front_eq_of_typedEnvelope_eq {left right : List Item}
    (leftShort : ∀ item ∈ left, item.front.2.length < 2 ^ 64)
    (rightShort : ∀ item ∈ right, item.front.2.length < 2 ^ 64)
    (sameLength : left.length = right.length)
    (same : typedEnvelope left = typedEnvelope right) :
    left.map Item.front = right.map Item.front := by
  have leftRead := readItems_encodeAll leftShort
  have rightRead := readItems_encodeAll rightShort
  rw [sameLength, typedEnvelope_inj.mp same, rightRead] at leftRead
  exact (Option.some.inj leftRead).symm

namespace TxEip1559

variable {left right : TxEip1559}

theorem eq_of_front_fields_eq (same : left.fields.map Item.front = right.fields.map Item.front) :
    left = right := by
  have leftRead := txOfContents_signedFields ⟨left, false, 0, 0⟩
  have rightRead := txOfContents_signedFields ⟨right, false, 0, 0⟩
  simp only [signedFields, List.map_append] at leftRead rightRead
  rw [same, rightRead] at leftRead
  exact (congrArg BindingsBased.SignedTx.tx (Option.some.inj leftRead)).symm

theorem fields_content_lt {tx : TxEip1559} (short : tx.input.length < 2 ^ 63 + 2048) :
    ∀ item ∈ tx.fields, item.front.2.length < 2 ^ 64 := by
  intro item member
  exact content_lt short false 0 0 item (List.mem_append_left _ member)

theorem eq_of_typedEnvelope_eq (leftShort : left.input.length < 2 ^ 63 + 2048)
    (rightShort : right.input.length < 2 ^ 63 + 2048)
    (same : typedEnvelope left.fields = typedEnvelope right.fields) : left = right :=
  eq_of_front_fields_eq (front_eq_of_typedEnvelope_eq (fields_content_lt leftShort)
    (fields_content_lt rightShort) rfl same)

end TxEip1559

/-! ## Signed bytes -/

theorem RawSignature.eq_of_parts {left right : RawSignature}
    (sameId : left.recoveryId.toNat = right.recoveryId.toNat) (sameR : left.r = right.r)
    (sameS : left.s = right.s) : left = right := by
  have parts (raw : RawSignature) : raw.r.toList ++ raw.s.toList = raw.bytes.toList := by
    show slice raw.bytes.toList 0 32 ++ slice raw.bytes.toList 32 32 = _
    have back : (raw.bytes.toList.drop 32).take 32 = raw.bytes.toList.drop 32 :=
      List.take_of_length_le (by simp)
    rw [slice, slice, List.drop_zero, back, List.take_append_drop]
  have bytes : left.bytes = right.bytes := by
    ext1
    rw [← parts left, ← parts right, sameR, sameS]
  obtain ⟨leftBytes, leftId⟩ := left
  obtain ⟨rightBytes, rightId⟩ := right
  rw [RawSignature.mk.injEq]
  exact ⟨bytes, UInt8.toNat_inj.mp sameId⟩

/-- The items of a transaction that the static implementation signed. -/
def TxEip1559.manualFields (tx : TxEip1559) (raw : RawSignature) : List Item :=
  tx.fields ++ [.uint raw.recoveryId.toNat, .string raw.r.toList, .string raw.s.toList]

theorem TxEip1559.manualFields_content_lt {tx : TxEip1559}
    (short : tx.input.length < 2 ^ 63 + 2048) (raw : RawSignature) :
    ∀ item ∈ tx.manualFields raw, item.front.2.length < 2 ^ 64 := by
  intro item member
  rcases List.mem_append.mp member with field | part
  · exact fields_content_lt short item field
  · have identifier : (minimalBE raw.recoveryId.toNat).length ≤ 1 :=
      length_minimalBE_le raw.recoveryId.toNat_lt
    simp only [List.mem_cons, List.not_mem_nil, or_false] at part
    rcases part with rfl | rfl | rfl
    · exact lt_of_le_of_lt identifier (by norm_num)
    · show raw.r.toList.length < 2 ^ 64
      simp
    · show raw.s.toList.length < 2 ^ 64
      simp

theorem TxEip1559.eq_of_front_manualFields_eq {left right : TxEip1559}
    {leftRaw rightRaw : RawSignature}
    (same : (left.manualFields leftRaw).map Item.front =
      (right.manualFields rightRaw).map Item.front) :
    left = right ∧ leftRaw = rightRaw := by
  rw [manualFields, manualFields, List.map_append, List.map_append] at same
  obtain ⟨sameFields, sameParts⟩ := List.append_inj same rfl
  simp only [List.map_cons, List.map_nil, List.cons.injEq, Item.front, Prod.mk.injEq,
    Item.uint] at sameParts
  obtain ⟨⟨_, sameId⟩, ⟨_, sameR⟩, ⟨_, sameS⟩, _⟩ := sameParts
  refine ⟨eq_of_front_fields_eq sameFields, ?_⟩
  exact RawSignature.eq_of_parts (minimalBE_injective sameId) (FixedBytes.ext sameR)
    (FixedBytes.ext sameS)

theorem StaticBased.TransactionRequest.signed_of_ok {request : TransactionRequest}
    {signer : PrehashSigner} {nonce chainId : U64} {maxGas : Option GasEstimation}
    {secret : FixedBytes 32} {bytes : Bytes}
    (signed : request.signAndEncodeToEip2718 signer nonce chainId maxGas secret = .ok bytes) :
    ∃ raw, signer secret (request.toTx nonce chainId (maxGas.getD .default)).signingHash =
        .ok raw ∧
      typedEnvelope ((request.toTx nonce chainId (maxGas.getD .default)).manualFields raw) =
        bytes := by
  rw [signAndEncode_eq] at signed
  cases made : signer secret (request.toTx nonce chainId (maxGas.getD .default)).signingHash with
  | error cause =>
      rw [made] at signed
      cases signed
  | ok raw =>
      rw [made] at signed
      exact ⟨raw, rfl, Except.ok.inj signed⟩

/-- The bytes that the static implementation signs a request to determine the transaction and the
signature. -/
theorem signed_bytes_determine {left right : StaticBased.TransactionRequest}
    {leftSigner rightSigner : PrehashSigner} {leftNonce rightNonce leftChain rightChain : U64}
    {leftGas rightGas : Option GasEstimation} {leftSecret rightSecret : FixedBytes 32}
    (leftShort : left.input.length < 2 ^ 63 + 2048)
    (rightShort : right.input.length < 2 ^ 63 + 2048) {bytes : Bytes}
    (leftSigned : left.signAndEncodeToEip2718 leftSigner leftNonce leftChain leftGas leftSecret =
      .ok bytes)
    (rightSigned : right.signAndEncodeToEip2718 rightSigner rightNonce rightChain rightGas
      rightSecret = .ok bytes) :
    left.toTx leftNonce leftChain (leftGas.getD .default) =
        right.toTx rightNonce rightChain (rightGas.getD .default) ∧
      ∃ raw, leftSigner leftSecret
          (left.toTx leftNonce leftChain (leftGas.getD .default)).signingHash = .ok raw ∧
        rightSigner rightSecret
          (right.toTx rightNonce rightChain (rightGas.getD .default)).signingHash = .ok raw := by
  obtain ⟨leftRaw, leftMade, leftBytes⟩ := left.signed_of_ok leftSigned
  obtain ⟨rightRaw, rightMade, rightBytes⟩ := right.signed_of_ok rightSigned
  have fronts := front_eq_of_typedEnvelope_eq
    (TxEip1559.manualFields_content_lt leftShort leftRaw)
    (TxEip1559.manualFields_content_lt rightShort rightRaw) rfl (leftBytes.trans rightBytes.symm)
  obtain ⟨sameTx, sameRaw⟩ := TxEip1559.eq_of_front_manualFields_eq fronts
  refine ⟨sameTx, leftRaw, leftMade, ?_⟩
  rw [sameRaw]
  exact rightMade

theorem signed_bytes_determine_sample :
    let signer : PrehashSigner := fun _ _ => .ok fullSignature
    let implicit := sampleApproval.toTx 0 100 (Option.getD none .default)
    let explicit := sampleApproval.toTx 0 100 (Option.getD (some .default) .default)
    implicit = explicit ∧ ∃ raw, signer oneKeyPair.secret implicit.signingHash = .ok raw ∧
      signer oneKeyPair.secret explicit.signingHash = .ok raw := by
  have signed (maxGas : Option GasEstimation) :
      sampleApproval.signAndEncodeToEip2718 (fun _ _ => .ok fullSignature) 0 100 maxGas
        oneKeyPair.secret = .ok (typedEnvelope
          ((sampleApproval.toTx 0 100 (maxGas.getD .default)).manualFields fullSignature)) := by
    rw [StaticBased.TransactionRequest.signAndEncode_eq]
    rfl
  have short : sampleApproval.input.length < 2 ^ 63 + 2048 := by decide +kernel
  exact signed_bytes_determine short short (signed none) (signed (some .default))

/-! ## Tickets and transactions -/

/-- What the code signs with a chain key. -/
inductive SignedObject where
  | ticket (ticket : Ticket) (issuer : Address) (domainSeparator : Hash)
  | transaction (tx : TxEip1559)

namespace SignedObject

/-- The hash that is signed. -/
def signedHash : SignedObject → Hash
  | .ticket content issuer domainSeparator => (content.getHash issuer domainSeparator).2
  | .transaction tx => tx.signingHash

def message : SignedObject → Bytes
  | .ticket content issuer domainSeparator => content.messageInput issuer domainSeparator
  | .transaction tx => typedEnvelope tx.fields

def hashedInputs : SignedObject → List Bytes
  | .ticket content issuer domainSeparator => content.hashedInputs issuer domainSeparator
  | .transaction tx => [typedEnvelope tx.fields]

/-- Tickets come from the builder, and the data of transactions fits into memory. -/
def WellFormed : SignedObject → Prop
  | .ticket content _ _ => content.InBounds
  | .transaction tx => tx.input.length < 2 ^ 63 + 2048

/-- The object without a signature, which is not signed itself. -/
def unsigned : SignedObject → SignedObject
  | .ticket content issuer domainSeparator => .ticket content.unsigned issuer domainSeparator
  | .transaction tx => .transaction tx

theorem signedHash_eq (object : SignedObject) : object.signedHash = keccak256 object.message := by
  cases object with
  | ticket content issuer domainSeparator =>
      rw [signedHash, Ticket.getHash_eq, message]
  | transaction tx => rfl

theorem message_mem_hashedInputs (object : SignedObject) :
    object.message ∈ object.hashedInputs := by
  cases object with
  | ticket content issuer domainSeparator => simp [message, hashedInputs, Ticket.hashedInputs]
  | transaction tx => simp [message, hashedInputs]

theorem messageInput_ne_typedEnvelope (content : Ticket) (issuer : Address) (domainSeparator : Hash)
    (fields : List Item) : content.messageInput issuer domainSeparator ≠ typedEnvelope fields := by
  intro same
  have first : (0x19 : UInt8) = 0x02 := (List.cons.inj same).1
  exact absurd first (by decide)

/-- Among objects whose hashed strings do not collide, the signed hash tells which object was
signed: no hash signed for one ticket or transaction is signed for another. -/
theorem signedHash_determines {objects : Set SignedObject}
    (wellFormed : ∀ object ∈ objects, object.WellFormed)
    (noCollision : Set.InjOn keccak256
      {input | ∃ object ∈ objects, input ∈ object.hashedInputs}) :
    ∀ left ∈ objects, ∀ right ∈ objects, left.signedHash = right.signedHash →
      left.unsigned = right.unsigned := by
  intro left leftMember right rightMember same
  rw [signedHash_eq, signedHash_eq] at same
  have sameMessage := noCollision ⟨left, leftMember, left.message_mem_hashedInputs⟩
    ⟨right, rightMember, right.message_mem_hashedInputs⟩ same
  have leftFormed := wellFormed left leftMember
  have rightFormed := wellFormed right rightMember
  cases left with
  | ticket leftTicket leftIssuer leftDomain =>
      cases right with
      | ticket rightTicket rightIssuer rightDomain =>
          obtain ⟨sameIssuer, sameDomain, sameTicket⟩ :=
            Ticket.eq_of_messageInput_eq noCollision leftFormed rightFormed
              (fun input member => ⟨_, leftMember, member⟩)
              (fun input member => ⟨_, rightMember, member⟩) sameMessage
          rw [unsigned, unsigned, sameIssuer, sameDomain, sameTicket]
      | transaction rightTx =>
          exact absurd sameMessage (messageInput_ne_typedEnvelope _ _ _ _)
  | transaction leftTx =>
      cases right with
      | ticket rightTicket rightIssuer rightDomain =>
          exact absurd sameMessage.symm (messageInput_ne_typedEnvelope _ _ _ _)
      | transaction rightTx =>
          rw [TxEip1559.eq_of_typedEnvelope_eq leftFormed rightFormed sameMessage]

def sampleTicketObject : SignedObject :=
  .ticket (sampleTicket oneKey.address none) doubledKey.address Hash.default

def sampleTransactionObject : SignedObject :=
  .transaction (sampleApproval.toTx 0 100 .default)

theorem signedHash_determines_sample :
    sampleTicketObject.signedHash ≠ sampleTransactionObject.signedHash := by
  let objects : Set SignedObject := {sampleTicketObject, sampleTransactionObject}
  have wellFormed : ∀ object ∈ objects, object.WellFormed := by
    intro object member
    rcases member with rfl | rfl
    · exact ⟨by decide +kernel, by decide +kernel, by decide +kernel⟩
    · show (sampleApproval.toTx 0 100 .default).input.length < 2 ^ 63 + 2048
      decide +kernel
  have noCollision : Set.InjOn keccak256
      {input | ∃ object ∈ objects, input ∈ object.hashedInputs} := by
    have distinct : ((sampleTicketObject.hashedInputs ++
        sampleTransactionObject.hashedInputs).map keccak256).Nodup := by decide +kernel
    have listed : ∀ input, (∃ object ∈ objects, input ∈ object.hashedInputs) →
        input ∈ sampleTicketObject.hashedInputs ++ sampleTransactionObject.hashedInputs := by
      intro input hashed
      obtain ⟨object, rfl | rfl, member⟩ := hashed
      · exact List.mem_append_left _ member
      · exact List.mem_append_right _ member
    intro left leftHashed right rightHashed same
    exact List.inj_on_of_nodup_map distinct (listed left leftHashed) (listed right rightHashed) same
  intro same
  have sameUnsigned := signedHash_determines wellFormed noCollision
    sampleTicketObject (.inl rfl) sampleTransactionObject (.inr rfl) same
  exact SignedObject.noConfusion sameUnsigned

end SignedObject

end HoprTypes.Chain
