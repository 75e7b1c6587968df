import Mathlib
import HoprTypes.Crypto.OffchainSigning
import HoprTypes.Crypto.VrfCompleteness
import HoprTypes.Internal.Acknowledging
import HoprTypes.Internal.Protocol
import HoprTypes.Internal.TicketCodec
import HoprTypes.Internal.TicketMachine

/-!
# Relaying a packet

The sender of a packet issues a ticket to the relayer, the next node acknowledges the packet, and
the relayer redeems the ticket or hands it on.  What one party makes, the next one accepts.
-/

set_option autoImplicit false

namespace HoprTypes.Internal

open BigEndian HoprTypes.Primitive HoprTypes.Crypto

/-! ## The acknowledgement -/

section

variable {VerifyingKey : Type} {ed25519 : Ed25519 VerifyingKey} {signer : Ed25519Signer ed25519}

def Acknowledgement.tryFrom (value : Bytes) : Except GeneralError Acknowledgement :=
  (tryFromSlice 96 "Acknowledgement" value).map Acknowledgement.mk

def VerifiedAcknowledgement.new (ackKeyShare : HalfKey) (nodeKeypair : OffchainKeypair signer) :
    VerifiedAcknowledgement where
  ackKeyShare := ackKeyShare
  signature := OffchainSignature.signMessage ackKeyShare.toList nodeKeypair

namespace VerifiedAcknowledgement

variable (verified : VerifiedAcknowledgement)

theorem keyShareBytes_leak : verified.leak.keyShareBytes = verified.ackKeyShare.toList :=
  @slice_append [] _ _ 0 32 rfl verified.ackKeyShare.length_toList

theorem signatureBytes_leak : verified.leak.signatureBytes = verified.signature.toList := by
  have window := @slice_append verified.ackKeyShare.toList verified.signature.toList [] 32 64
    verified.ackKeyShare.length_toList verified.signature.length_toList
  rw [List.append_nil] at window
  exact window

theorem parts_leak :
    verified.leak.keyShare = verified.ackKeyShare ∧
      verified.leak.signature = verified.signature := by
  constructor
  · ext1
    exact verified.keyShareBytes_leak
  · ext1
    exact verified.signatureBytes_leak

end VerifiedAcknowledgement

theorem VerifiedAcknowledgement.verify_leak_new (lawful : signer.Lawful) (ackKeyShare : HalfKey)
    (nodeKeypair : OffchainKeypair signer) :
    (new ackKeyShare nodeKeypair).leak.verify ed25519 nodeKeypair.public =
      .ok (new ackKeyShare nodeKeypair) := by
  obtain ⟨share, signature⟩ := (new ackKeyShare nodeKeypair).parts_leak
  have signed := OffchainSignature.verifyMessage_signMessage lawful ackKeyShare.toList nodeKeypair
  rw [Acknowledgement.verify_eq, keyShareBytes_leak, share, signature]
  exact if_pos signed

end

variable {curve : Secp256k1} {engine : EcdsaEngine curve}

/-! ## The ticket -/

/-- Building signed succeeds when building does, and only adds the signature. -/
theorem TicketBuilder.buildSigned_spec (recovers : engine.Recovers) {builder : TicketBuilder}
    {ticket : Ticket} (built : builder.build = .ok ticket) (unsigned : builder.signature = none)
    (sender : ChainKeypair curve) (domainSeparator : Hash) :
    ∃ verified signature, builder.buildSigned engine sender domainSeparator = .ok verified ∧
      verified.ticket = { ticket with signature := some signature } ∧
      verified.issuer = sender.address ∧ verified.Consistent engine domainSeparator := by
  obtain ⟨signature, signed, _⟩ :=
    @ChainSignature.recoverFromHash_signHash _ _ recovers CoreTypesError
      (ticket.getHash sender.address domainSeparator).2 sender
  obtain ⟨verified, made, issuer, consistent⟩ :=
    @Ticket.sign_spec _ engine recovers CoreTypesError ticket sender domainSeparator
  refine ⟨verified, signature, ?_, ?_, issuer, consistent⟩
  · rw [buildSigned, unsigned, if_pos Option.isNone_none, built, ← made]
    rfl
  · unfold Ticket.sign at made
    dsimp only at made
    rw [signed, ok_bind] at made
    rw [← Except.ok.inj made]

theorem Ticket.tryFrom_encoded {domainSeparator : Hash} {verified : VerifiedTicket}
    (consistent : verified.Consistent engine domainSeparator)
    (inBounds : verified.ticket.InBounds) :
    ∃ encoded, (verified.leak.intoEncoded : Outcome GeneralError (FixedBytes 132)) =
        .ok encoded ∧ Ticket.tryFrom encoded.toList = .ok verified.leak := by
  obtain ⟨signature, present, _⟩ := consistent.signature
  refine ⟨_, intoEncoded_eq present, tryFrom_eq_ok.mpr
    ⟨length_wire verified.ticket signature, ?_, ofWindows_wire present inBounds⟩⟩
  rw [VerifiedTicket.leak, amount_wire, ofBE_toBE_of_lt inBounds.amount_lt]
  exact inBounds.amount

/-- The relayer solves the challenge that the sender combined, with the half-key it is sent. -/
theorem UnacknowledgedTicket.acknowledge_of_combines {own ack : HalfKey} {challenge : Challenge}
    (group : ∀ x y, NonZeroScalar.tryFrom own.toList = some x →
      NonZeroScalar.tryFrom ack.toList = some y → curve.AddsMultiples x y)
    (combined : Combines curve own ack challenge) {verified : VerifiedTicket}
    (asked : verified.ticket.challenge = challenge.toEthereumChallenge) :
    ∃ response, (verified.intoUnacknowledged own).acknowledge curve ack =
        .ok (verified.intoAcknowledged response) ∧
      Response.Solves curve response verified.ticket.challenge := by
  obtain ⟨response, built, solved⟩ := (response_challenge_iff group challenge).mpr combined
  exact ⟨response, acknowledge_eq_ok.mpr ⟨response, challenge, built, solved, asked, rfl⟩,
    challenge, solved, asked.symm⟩

theorem TicketBuilder.challenge_of_build {builder : TicketBuilder} {challenge : Challenge}
    {ticket : Ticket} (built : (builder.withChallenge challenge).build = .ok ticket) :
    ticket.challenge = challenge.toEthereumChallenge := by
  unfold build at built
  obtain ⟨amount, _, built⟩ := bind_eq_ok.mp built
  split_ifs at built
  obtain ⟨counterparty, _, built⟩ := bind_eq_ok.mp built
  obtain ⟨given, isGiven, built⟩ := bind_eq_ok.mp built
  rw [← Except.ok.inj built]
  exact (Option.some.inj (okOr_eq_ok.mp isGiven)).symm

/-! ## The redemption -/

section

variable {verified : VerifiedTicket} {response : Response} {relayer : ChainKeypair curve}
  {domainSeparator : Hash} {randomBytes : FixedBytes 64}

theorem AcknowledgedTicket.isWinning_iff (consistent : verified.Consistent engine domainSeparator)
    (different : relayer.address ≠ verified.issuer) :
    ((verified.intoAcknowledged response).isWinning relayer domainSeparator randomBytes :
        Outcome CoreTypesError Bool) = .ok true ↔
      ∃ redeemable, (verified.intoAcknowledged response).intoRedeemable relayer domainSeparator
        randomBytes = .ok redeemable := by
  obtain ⟨signature, present, _⟩ := consistent.signature
  simp only [intoRedeemable_eq_ok]
  unfold isWinning VerifiedTicket.isWinning VerifiedTicket.intoAcknowledged
  dsimp only
  cases derived : deriveVrfParameters verified.hash relayer domainSeparator.toList randomBytes with
  | error cause =>
      cases cause with
      | error _ => simp
      | panic _ => simp [Outcome.panicked]
  | ok vrfParams => simp [present, different]

/-- What the relayer redeems, it can hand on: the other party arrives at the same ticket. -/
theorem TransferableWinningTicket.intoRedeemable_fromRedeemable
    (consistent : verified.Consistent engine domainSeparator) {redeemable : RedeemableTicket}
    (redeemed : (verified.intoAcknowledged response).intoRedeemable relayer domainSeparator
      randomBytes = .ok redeemable) :
    (fromRedeemable redeemable).intoRedeemable engine verified.issuer domainSeparator =
      .ok redeemable := by
  obtain ⟨_, vrfParams, signature, _, present, wins, rfl⟩ :=
    AcknowledgedTicket.intoRedeemable_eq_ok.mp redeemed
  exact (intoRedeemable_eq_ok engine).mpr ⟨rfl, verified, signature,
    VerifiedTicket.verify_leak engine consistent, present, wins, rfl⟩

/-- What the contract asks of the relayer's ticket, where the curve crates compute in a group. -/
theorem AcknowledgedTicket.redeemableOnChain
    (native : curve.rustEcdsa = false → curve.NativeAgrees)
    (group : ∀ B a r h,
      VrfTranscript relayer verified.hash.toList domainSeparator.toList randomBytes B a r h →
        curve.ComputesAt B a r h ∧ curve.ComputesAt curve.generator.val a r h)
    (consistent : verified.Consistent engine domainSeparator)
    (solves : Response.Solves curve response verified.ticket.challenge)
    (recipient : verified.ticket.counterparty = relayer.address) {redeemable : RedeemableTicket}
    (redeemed : (verified.intoAcknowledged response).intoRedeemable relayer domainSeparator
      randomBytes = .ok redeemable) :
    redeemable.RedeemableOnChain engine verified.issuer domainSeparator := by
  obtain ⟨_, vrfParams, signature, derived, present, wins, rfl⟩ :=
    intoRedeemable_eq_ok.mp redeemed
  obtain ⟨B, a, r, h, transcript, rfl⟩ := deriveVrfParameters_transcript native derived
  obtain ⟨atB, atG⟩ := group B a r h transcript
  obtain ⟨stored, found, recovers⟩ := consistent.signature
  have same : signature = stored := Option.some.inj (present.symm.trans found)
  refine ⟨solves, ?_, signature, present, same ▸ recovers, wins⟩
  show (transcriptParameters curve B a r h).verify curve verified.ticket.counterparty
    verified.hash domainSeparator.toList = .ok ()
  rw [recipient]
  exact verify_transcript transcript atB atG

end

/-! ## From one node to the next -/

/-- What every party makes of a packet is accepted by the next one: the sender's ticket survives
the wire and verifies for the relayer, the next node's acknowledgement verifies and solves its
challenge, and the relayer can then redeem it exactly when it wins; handed on, it is accepted as
the same ticket; and it is one that the contract redeems for its recipient. -/
theorem relayed_ticket_redeems {VerifyingKey : Type} {ed25519 : Ed25519 VerifyingKey}
    {signer : Ed25519Signer ed25519} (lawful : signer.Lawful) (recovers : engine.Recovers)
    {builder : TicketBuilder} {ticket : Ticket} {own ack : HalfKey} {challenge : Challenge}
    (group : ∀ x y, NonZeroScalar.tryFrom own.toList = some x →
      NonZeroScalar.tryFrom ack.toList = some y → curve.AddsMultiples x y)
    (combined : Combines curve own ack challenge) (unsigned : builder.signature = none)
    (built : (builder.withChallenge challenge).build = .ok ticket)
    (sender relayer : ChainKeypair curve) (different : relayer.address ≠ sender.address)
    (nextNode : OffchainKeypair signer) (domainSeparator : Hash) :
    ∃ sent encoded acknowledgement response,
      (builder.withChallenge challenge).buildSigned engine sender domainSeparator = .ok sent ∧
      (sent.leak.intoEncoded : Outcome GeneralError (FixedBytes 132)) = .ok encoded ∧
      (∃ received, Ticket.tryFrom encoded.toList = .ok received ∧
        received.verify engine sender.address domainSeparator = .ok sent) ∧
      Acknowledgement.tryFrom (VerifiedAcknowledgement.new ack nextNode).leak.bytes.toList =
        .ok acknowledgement ∧
      acknowledgement.verify ed25519 nextNode.public =
        .ok (VerifiedAcknowledgement.new ack nextNode) ∧
      (sent.intoUnacknowledged own).acknowledge curve
          (VerifiedAcknowledgement.new ack nextNode).ackKeyShare =
        .ok (sent.intoAcknowledged response) ∧
      ∀ randomBytes : FixedBytes 64,
        (((sent.intoAcknowledged response).isWinning relayer domainSeparator randomBytes :
            Outcome CoreTypesError Bool) = .ok true ↔
          ∃ redeemable, (sent.intoAcknowledged response).intoRedeemable relayer domainSeparator
            randomBytes = .ok redeemable) ∧
        ∀ redeemable, (sent.intoAcknowledged response).intoRedeemable relayer domainSeparator
            randomBytes = .ok redeemable →
          (TransferableWinningTicket.fromRedeemable redeemable).intoRedeemable engine
              sender.address domainSeparator = .ok redeemable ∧
            ((curve.rustEcdsa = false → curve.NativeAgrees) →
              (∀ B a r h, VrfTranscript relayer sent.hash.toList domainSeparator.toList
                  randomBytes B a r h →
                curve.ComputesAt B a r h ∧ curve.ComputesAt curve.generator.val a r h) →
              ticket.counterparty = relayer.address →
                redeemable.RedeemableOnChain engine sender.address domainSeparator) := by
  obtain ⟨sent, signature, signed, content, issuer, consistent⟩ :=
    TicketBuilder.buildSigned_spec recovers built unsigned sender domainSeparator
  have bounds := TicketBuilder.inBounds_of_build built
  have inBounds : sent.ticket.InBounds := by
    rw [content]
    exact ⟨bounds.amount, bounds.index, bounds.channelEpoch⟩
  have ticketAsks := TicketBuilder.challenge_of_build built
  have asked : sent.ticket.challenge = challenge.toEthereumChallenge := by
    rw [content]
    exact ticketAsks
  obtain ⟨encoded, wire, parsed⟩ := Ticket.tryFrom_encoded consistent inBounds
  obtain ⟨response, acknowledged, solves⟩ :=
    UnacknowledgedTicket.acknowledge_of_combines group combined asked
  have verifies := VerifiedTicket.verify_leak engine consistent
  rw [issuer] at verifies
  have acknowledgement : Acknowledgement.tryFrom
      (VerifiedAcknowledgement.new ack nextNode).leak.bytes.toList =
        .ok (VerifiedAcknowledgement.new ack nextNode).leak := by
    rw [Acknowledgement.tryFrom, tryFromSlice_toList]
    rfl
  refine ⟨sent, encoded, _, response, signed, wire, ⟨sent.leak, parsed, verifies⟩,
    acknowledgement, VerifiedAcknowledgement.verify_leak_new lawful ack nextNode, acknowledged, ?_⟩
  intro randomBytes
  rw [← issuer] at different ⊢
  refine ⟨AcknowledgedTicket.isWinning_iff consistent different,
    fun redeemable redeemed => ⟨?_, ?_⟩⟩
  · exact TransferableWinningTicket.intoRedeemable_fromRedeemable consistent redeemed
  · intro native vrfGroup recipient
    have same : sent.ticket.counterparty = relayer.address := by
      rw [content]
      exact recipient
    exact AcknowledgedTicket.redeemableOnChain native vrfGroup consistent solves same redeemed

/-! ## A packet for the address of `2·G` -/

theorem publicKey_doublingCurve (keypair : ChainKeypair doublingCurve) :
    keypair.publicKey = oneKey ∨ keypair.publicKey = doubledKey := by
  have derived := keypair.derived
  have rust : doublingCurve.rustEcdsa = true := rfl
  unfold PublicKey.fromPrivkey at derived
  rw [if_pos rust] at derived
  obtain ⟨scalar, _, built⟩ := bind_eq_ok.mp derived
  rw [← Except.ok.inj built]
  by_cases isOne : scalar.val = 1
  · rw [doublingCurve_one isOne]
    exact Or.inl rfl
  · have other : doublingCurve.fromSecretScalar scalar = doubledBasePoint := if_neg isOne
    rw [other]
    exact Or.inr rfl

def doublingKeyPair (scalar : NonZeroScalar) : ChainKeypair doublingCurve where
  secret := Scalar.toBytes scalar.val
  publicKey := PublicKey.ofPoint (doublingCurve.fromSecretScalar scalar)
  derived := by
    have rust : doublingCurve.rustEcdsa = true := rfl
    unfold PublicKey.fromPrivkey
    rw [if_pos rust, tryFrom_toBytes scalar.property]
    rfl

theorem scalar_one_ne_zero : (1 : Scalar) ≠ 0 := by decide +kernel

def oneScalar : NonZeroScalar := ⟨1, scalar_one_ne_zero⟩

def twoScalar : NonZeroScalar := ⟨2, by decide +kernel⟩

def relayedSignature : RawSignature :=
  rawSignatureOf 0xd3c5b7cd4ae054ec35500b39788a10dd2f37c5dfb2ab3599b72fc6ef6311d85f
    0x2df712bb0f175b4356f8189375eee0ba9c4ab14a3c5283ab568ebcaad5b23d6a 1

def twoKeyEngine : EcdsaEngine doublingCurve where
  signHash _ keypair :=
    .ok (if keypair.publicKey = oneKey then relayedSignature else incomingSignature)
  verifyHash given _ key := .ok (decide (given =
    if key = oneKey then relayedSignature else incomingSignature))
  recoverFromHash given _ :=
    .ok (if given.bytes = relayedSignature.bytes then oneKey else doubledKey)

theorem twoKeyEngine_recovers : twoKeyEngine.Recovers where
  signs _ _ := ⟨_, rfl⟩
  recovers := by
    intro hash keypair raw signed
    have distinct : ¬ doubledKey = oneKey := by decide +kernel
    have known : (if keypair.publicKey = oneKey then relayedSignature else incomingSignature) =
        raw := Except.ok.inj signed
    rw [← known]
    rcases publicKey_doublingCurve keypair with isOne | isDoubled
    · rw [isOne, if_pos rfl]
      have same : (ChainSignature.new relayedSignature).rawSignature.bytes =
          relayedSignature.bytes := by decide +kernel
      show Except.ok (if _ then _ else _) = _
      rw [if_pos same]
    · rw [isDoubled, if_neg distinct]
      have different : ¬ (ChainSignature.new incomingSignature).rawSignature.bytes =
          relayedSignature.bytes := by decide +kernel
      show Except.ok (if _ then _ else _) = _
      rw [if_neg different]

def halfKeySignature : OffchainSignature :=
  ⟨toBE 32 0xb3540321bab5073663329ff2127cdd2581d87c85849df062b8b117ab24a5bd44 ++
    toBE 32 0x5db349e44eee17617762bd75c0ea6fa42f5031b801b563dc19bd64debc1aaa08, by simp⟩

def relayedBuilder : TicketBuilder :=
  { counterparty := some doubledKey.address, amount := some 100, index := 1 }

def relayedTicket : Ticket :=
  { sampleTicket doubledKey.address none with
    challenge := (⟨doubledBasePoint⟩ : Challenge).toEthereumChallenge }

theorem build_relayedBuilder :
    (relayedBuilder.withChallenge ⟨doubledBasePoint⟩).build = .ok relayedTicket := rfl

theorem combines_doublingCurve :
    Combines doublingCurve (Scalar.toBytes 1) (Scalar.toBytes 1) ⟨doubledBasePoint⟩ := by
  have group : doublingCurve.AddsMultiples oneScalar oneScalar := doublingCurve_group rfl
  have own := toChallenge_eq (tryFrom_toBytes oneScalar.property)
    (group.decodes oneScalar (by simp))
  have isTwo : oneScalar.val + oneScalar.val = 2 := by decide +kernel
  have nonZero : oneScalar.val + oneScalar.val ≠ 0 := by decide +kernel
  refine ⟨_, _, own, own, (fromHintAndShare_eq group).mpr ⟨nonZero, ?_⟩⟩
  rw [doublingCurve_two isTwo]

theorem relayed_ticket_redeems_doubling :
    ∃ sent encoded received acknowledgement,
      ((relayedBuilder.withChallenge ⟨doubledBasePoint⟩).buildSigned twoKeyEngine
        (doublingKeyPair oneScalar) Hash.default) = .ok sent ∧
      (sent.leak.intoEncoded : Outcome GeneralError (FixedBytes 132)) = .ok encoded ∧
      Ticket.tryFrom encoded.toList = .ok received ∧
      received.verify twoKeyEngine (doublingKeyPair oneScalar).address Hash.default =
        .ok sent ∧
      Acknowledgement.verify (oneSignature onePacketKey halfKeySignature) acknowledgement
        onePacketKey = .ok ⟨Scalar.toBytes 1, halfKeySignature⟩ := by
  have valid : NonZeroScalar.tryFrom (Scalar.toBytes 1).toList = some oneScalar :=
    tryFrom_toBytes oneScalar.property
  have group : ∀ x y, NonZeroScalar.tryFrom (Scalar.toBytes 1).toList = some x →
      NonZeroScalar.tryFrom (Scalar.toBytes 1).toList = some y →
        doublingCurve.AddsMultiples x y := by
    intro x y xValid yValid
    rw [valid] at xValid yValid
    rw [← Option.some.inj xValid, ← Option.some.inj yValid]
    exact doublingCurve_group rfl
  have different : (doublingKeyPair twoScalar).address ≠ (doublingKeyPair oneScalar).address := by
    simp only [ChainKeypair.address, doublingKeyPair]
    rw [@doublingCurve_one oneScalar rfl, @doublingCurve_two twoScalar rfl]
    exact oneKey_ne_doubledKey.symm
  have unsigned : relayedBuilder.signature = none := rfl
  obtain ⟨sent, encoded, acknowledgement, _, signed, wire, received, _, accepted, _⟩ :=
    relayed_ticket_redeems (oneSigner_lawful onePacketKey halfKeySignature)
      twoKeyEngine_recovers group combines_doublingCurve unsigned build_relayedBuilder
      (doublingKeyPair oneScalar) (doublingKeyPair twoScalar) different
      (oneOffchainKeypair halfKeySignature) Hash.default
  obtain ⟨ticket, parsed, verifies⟩ := received
  exact ⟨sent, encoded, ticket, acknowledgement, signed, wire, parsed, verifies, accepted⟩

end HoprTypes.Internal
