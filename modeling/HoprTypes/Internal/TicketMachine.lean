import HoprTypes.Crypto.Instance
import HoprTypes.Internal.Tickets

/-!
# The ticket state machine

A ticket moves between its forms, from the signed ticket to the redeemable one
and over the wire.  What every verified ticket on the way satisfies, when the
winning checks agree, and what accepting a transferred ticket guarantees.
-/

set_option autoImplicit false

namespace HoprTypes.Internal

open BigEndian HoprTypes.Primitive HoprTypes.Crypto

variable {curve : Secp256k1} (engine : EcdsaEngine curve)

/-! ## Consistent verified tickets -/

def RecoversTo (signature : ChainSignature) (hash : Hash) (issuer : Address) : Prop :=
  ∃ publicKey, signature.recoverFromHash engine hash = .ok publicKey ∧
    publicKey.toAddress = issuer

/-- What a verified ticket made under a domain separator guarantees. -/
structure VerifiedTicket.Consistent (domainSeparator : Hash) (verified : VerifiedTicket) :
    Prop where
  signature : ∃ signature, verified.ticket.signature = some signature ∧
    RecoversTo engine signature verified.hash verified.issuer
  hash : verified.hash = (verified.ticket.getHash verified.issuer domainSeparator).2
  channelId : verified.channelId =
    generateChannelId verified.issuer verified.ticket.counterparty

theorem Ticket.channelId_getHash (ticket : Ticket) (issuer : Address) (domainSeparator : Hash) :
    (ticket.getHash issuer domainSeparator).1 = generateChannelId issuer ticket.counterparty :=
  rfl

theorem Ticket.verify_eq_ok {ticket : Ticket} {issuer : Address} {domainSeparator : Hash}
    {verified : VerifiedTicket} :
    ticket.verify engine issuer domainSeparator = .ok verified ↔
      (∃ signature, ticket.signature = some signature ∧
        RecoversTo engine signature (ticket.getHash issuer domainSeparator).2 issuer) ∧
      verified =
        { ticket := ticket
          hash := (ticket.getHash issuer domainSeparator).2
          issuer := issuer
          channelId := (ticket.getHash issuer domainSeparator).1 } := by
  unfold Ticket.verify RecoversTo
  cases present : ticket.signature with
  | none => simp
  | some signature =>
      cases recovered : signature.recoverFromHash engine
          (ticket.getHash issuer domainSeparator).2 with
      | error cause => simp [recovered]
      | ok publicKey =>
          by_cases same : publicKey.toAddress = issuer
          · simp only [recovered, if_pos same, Except.ok.injEq]
            constructor
            · intro built
              exact ⟨⟨signature, rfl, publicKey, recovered, same⟩, built.symm⟩
            · rintro ⟨_, built⟩
              exact built.symm
          · simp only [recovered, if_neg same]
            constructor
            · intro impossible
              cases impossible
            · rintro ⟨⟨other, found, publicKey', recovered', same'⟩, _⟩
              cases found
              rw [recovered] at recovered'
              cases recovered'
              exact absurd same' same

theorem Ticket.consistent_of_verify {ticket : Ticket} {issuer : Address} {domainSeparator : Hash}
    {verified : VerifiedTicket}
    (accepted : ticket.verify engine issuer domainSeparator = .ok verified) :
    verified.Consistent engine domainSeparator := by
  obtain ⟨signature, rfl⟩ := (Ticket.verify_eq_ok engine).mp accepted
  exact ⟨signature, rfl, rfl⟩

theorem VerifiedTicket.verify_leak {domainSeparator : Hash} {verified : VerifiedTicket}
    (consistent : verified.Consistent engine domainSeparator) :
    verified.leak.verify engine verified.issuer domainSeparator = .ok verified := by
  rw [Ticket.verify_eq_ok engine]
  obtain ⟨signature, present, recovers⟩ := consistent.signature
  rw [consistent.hash] at recovers
  refine ⟨⟨signature, present, recovers⟩, ?_⟩
  have hash := consistent.hash
  have channelId := consistent.channelId
  cases verified
  simp_all [VerifiedTicket.leak, Ticket.channelId_getHash]

/-- A consistent ticket has a signature, so its accessors do not panic. -/
theorem VerifiedTicket.verifiedSignature_ok {ε : Type} {domainSeparator : Hash}
    {verified : VerifiedTicket} (consistent : verified.Consistent engine domainSeparator) :
    ∃ signature, verified.ticket.signature = some signature ∧
      (verified.verifiedSignature : Outcome ε ChainSignature) = .ok signature := by
  obtain ⟨signature, present, _⟩ := consistent.signature
  refine ⟨signature, present, ?_⟩
  rw [VerifiedTicket.verifiedSignature, present]

theorem Ticket.sign_spec (lawful : engine.Recovers) {ε : Type} (ticket : Ticket)
    (signingKey : ChainKeypair curve) (domainSeparator : Hash) :
    ∃ verified, (ticket.sign engine signingKey domainSeparator : Outcome ε VerifiedTicket) =
        .ok verified ∧
      verified.issuer = signingKey.address ∧ verified.Consistent engine domainSeparator := by
  obtain ⟨signature, signed, recovers⟩ :=
    @ChainSignature.recoverFromHash_signHash _ _ lawful ε
      (ticket.getHash signingKey.address domainSeparator).2 signingKey
  let verified : VerifiedTicket :=
    { ticket := { ticket with signature := some signature }
      hash := (ticket.getHash signingKey.address domainSeparator).2
      issuer := signingKey.address
      channelId := (ticket.getHash signingKey.address domainSeparator).1 }
  refine ⟨verified, ?_, rfl, ?_⟩
  · unfold Ticket.sign
    dsimp only
    rw [signed]
    rfl
  · exact ⟨⟨signature, rfl, signingKey.publicKey, recovers, rfl⟩, rfl, rfl⟩

/-! ## Runs -/

/-- A form of a ticket on its way.  A verified ticket is remembered with the domain separator
it was made under. -/
inductive TicketForm where
  | verified (madeUnder : Hash) (ticket : VerifiedTicket)
  | unacknowledged (madeUnder : Hash) (ticket : UnacknowledgedTicket)
  | acknowledged (madeUnder : Hash) (ticket : AcknowledgedTicket)
  | redeemable (madeUnder : Hash) (ticket : RedeemableTicket)
  | transferable (ticket : TransferableWinningTicket)

namespace TicketForm

/-- The verified ticket a form holds, with the domain separator it was made under. -/
def verifiedTicket : TicketForm → Option (Hash × VerifiedTicket)
  | verified madeUnder ticket => some (madeUnder, ticket)
  | unacknowledged madeUnder ticket => some (madeUnder, ticket.ticket)
  | acknowledged madeUnder ticket => some (madeUnder, ticket.ticket)
  | redeemable madeUnder ticket => some (madeUnder, ticket.ticket)
  | transferable _ => none

/-- How a run starts. -/
inductive Start : TicketForm → Prop where
  | sign (ticket : Ticket) (signingKey : ChainKeypair curve) (domainSeparator : Hash)
      (verified : VerifiedTicket)
      (signed : (ticket.sign engine signingKey domainSeparator :
        Outcome CoreTypesError VerifiedTicket) = .ok verified) :
      Start (.verified domainSeparator verified)
  | verify (ticket : Ticket) (issuer : Address) (domainSeparator : Hash)
      (verified : VerifiedTicket)
      (accepted : ticket.verify engine issuer domainSeparator = .ok verified) :
      Start (.verified domainSeparator verified)
  | buildSigned (builder : TicketBuilder) (signer : ChainKeypair curve) (domainSeparator : Hash)
      (verified : VerifiedTicket)
      (built : builder.buildSigned engine signer domainSeparator = .ok verified) :
      Start (.verified domainSeparator verified)

/-- The conversions between the forms.  The keys, domain separators and the randomness of each
conversion are arbitrary. -/
inductive Step : TicketForm → TicketForm → Prop where
  | leakAndVerify {madeUnder : Hash} {ticket verified : VerifiedTicket} (issuer : Address)
      (domainSeparator : Hash)
      (accepted : ticket.leak.verify engine issuer domainSeparator = .ok verified) :
      Step (.verified madeUnder ticket) (.verified domainSeparator verified)
  | intoUnacknowledged {madeUnder : Hash} {ticket : VerifiedTicket} (ownKey : HalfKey) :
      Step (.verified madeUnder ticket)
        (.unacknowledged madeUnder (ticket.intoUnacknowledged ownKey))
  | intoAcknowledged {madeUnder : Hash} {ticket : VerifiedTicket} (response : Response) :
      Step (.verified madeUnder ticket) (.acknowledged madeUnder (ticket.intoAcknowledged response))
  | acknowledge {madeUnder : Hash} {ticket : UnacknowledgedTicket}
      {acknowledged : AcknowledgedTicket} (acknowledgement : HalfKey)
      (solved : ticket.acknowledge curve acknowledgement = .ok acknowledged) :
      Step (.unacknowledged madeUnder ticket) (.acknowledged madeUnder acknowledged)
  | intoRedeemable {madeUnder : Hash} {ticket : AcknowledgedTicket}
      {redeemable : RedeemableTicket} (keypair : ChainKeypair curve) (domainSeparator : Hash)
      (randomBytes : FixedBytes 64)
      (won : ticket.intoRedeemable keypair domainSeparator randomBytes = .ok redeemable) :
      Step (.acknowledged madeUnder ticket) (.redeemable madeUnder redeemable)
  | intoTransferable {madeUnder : Hash} {ticket : AcknowledgedTicket}
      {transferable : TransferableWinningTicket} (keypair : ChainKeypair curve)
      (domainSeparator : Hash) (randomBytes : FixedBytes 64)
      (won : ticket.intoTransferable keypair domainSeparator randomBytes = .ok transferable) :
      Step (.acknowledged madeUnder ticket) (.transferable transferable)
  | strip {madeUnder : Hash} {ticket : RedeemableTicket} :
      Step (.redeemable madeUnder ticket)
        (.transferable (TransferableWinningTicket.fromRedeemable ticket))
  | redeemableToAcknowledged {madeUnder : Hash} {ticket : RedeemableTicket} :
      Step (.redeemable madeUnder ticket)
        (.acknowledged madeUnder (AcknowledgedTicket.fromRedeemable ticket))
  | receive {ticket : TransferableWinningTicket} {redeemable : RedeemableTicket}
      (expectedIssuer : Address) (domainSeparator : Hash)
      (accepted : ticket.intoRedeemable engine expectedIssuer domainSeparator = .ok redeemable) :
      Step (.transferable ticket) (.redeemable domainSeparator redeemable)

def Reachable (form : TicketForm) : Prop :=
  ∃ start, Start engine start ∧ Relation.ReflTransGen (Step engine) start form

/-- The invariant: the verified ticket a form holds is consistent. -/
def Sound (form : TicketForm) : Prop :=
  ∀ madeUnder verified, form.verifiedTicket = some (madeUnder, verified) →
    verified.Consistent engine madeUnder

end TicketForm

/-! ## What each conversion keeps -/

theorem UnacknowledgedTicket.ticket_acknowledge {unacknowledged : UnacknowledgedTicket}
    {acknowledgement : HalfKey} {acknowledged : AcknowledgedTicket}
    (solved : unacknowledged.acknowledge curve acknowledgement = .ok acknowledged) :
    acknowledged.ticket = unacknowledged.ticket := by
  unfold UnacknowledgedTicket.acknowledge at solved
  obtain ⟨response, _, solved⟩ := bind_eq_ok.mp solved
  obtain ⟨challenge, _, solved⟩ := bind_eq_ok.mp solved
  by_cases matching : unacknowledged.ticket.ticket.challenge = challenge.toEthereumChallenge
  · rw [if_pos matching] at solved
    rw [← Except.ok.inj solved]
    rfl
  · rw [if_neg matching] at solved
    cases solved

/-- An acknowledged ticket becomes redeemable exactly when the key is not the issuer's and the
derived parameters make it win. -/
theorem AcknowledgedTicket.intoRedeemable_eq_ok {acknowledged : AcknowledgedTicket}
    {keypair : ChainKeypair curve} {domainSeparator : Hash} {randomBytes : FixedBytes 64}
    {redeemable : RedeemableTicket} :
    acknowledged.intoRedeemable keypair domainSeparator randomBytes = .ok redeemable ↔
      keypair.address ≠ acknowledged.ticket.issuer ∧
      ∃ vrfParams signature,
        deriveVrfParameters acknowledged.ticket.hash keypair domainSeparator.toList randomBytes =
          .ok vrfParams ∧
        acknowledged.ticket.ticket.signature = some signature ∧
        checkTicketWin acknowledged.ticket.hash signature
          acknowledged.ticket.ticket.encodedWinProb acknowledged.response vrfParams = true ∧
        redeemable =
          ⟨acknowledged.ticket, acknowledged.response, vrfParams, domainSeparator⟩ := by
  unfold AcknowledgedTicket.intoRedeemable
  by_cases loopback : keypair.address = acknowledged.ticket.issuer
  · rw [if_pos loopback]
    constructor
    · intro impossible
      cases impossible
    · rintro ⟨different, _⟩
      exact absurd loopback different
  · rw [if_neg loopback]
    constructor
    · intro converted
      obtain ⟨vrfParams, derived, converted⟩ := bind_eq_ok.mp converted
      obtain ⟨signature, present, converted⟩ := bind_eq_ok.mp converted
      have found : acknowledged.ticket.ticket.signature = some signature := by
        unfold VerifiedTicket.verifiedSignature at present
        cases field : acknowledged.ticket.ticket.signature with
        | none =>
            rw [field] at present
            cases present
        | some other =>
            rw [field] at present
            rw [Except.ok.inj present]
      by_cases wins : checkTicketWin acknowledged.ticket.hash signature
          acknowledged.ticket.ticket.encodedWinProb acknowledged.response vrfParams = true
      · rw [if_pos wins] at converted
        exact ⟨loopback, vrfParams, signature, mapErr_eq_ok.mp derived, found, wins,
          (Except.ok.inj converted).symm⟩
      · rw [if_neg wins] at converted
        cases converted
    · rintro ⟨_, vrfParams, signature, derived, found, wins, rfl⟩
      rw [mapErr_eq_ok.mpr derived, ok_bind, VerifiedTicket.verifiedSignature, found]
      dsimp only
      rw [ok_bind, if_pos wins]

/-- A transferred ticket is accepted exactly when its signer is the expected issuer, its
signature verifies for the signer, and the win check passes; nothing else is looked at. -/
theorem TransferableWinningTicket.intoRedeemable_eq_ok {transferable : TransferableWinningTicket}
    {expectedIssuer : Address} {domainSeparator : Hash} {redeemable : RedeemableTicket} :
    transferable.intoRedeemable engine expectedIssuer domainSeparator = .ok redeemable ↔
      transferable.signer = expectedIssuer ∧
      ∃ verified signature,
        transferable.ticket.verify engine transferable.signer domainSeparator = .ok verified ∧
        transferable.ticket.signature = some signature ∧
        checkTicketWin verified.hash signature transferable.ticket.encodedWinProb
          transferable.response transferable.vrfParams = true ∧
        redeemable =
          ⟨verified, transferable.response, transferable.vrfParams, domainSeparator⟩ := by
  unfold TransferableWinningTicket.intoRedeemable
  by_cases signer : transferable.signer = expectedIssuer
  · rw [if_neg (not_not.mpr signer)]
    constructor
    · intro converted
      obtain ⟨verified, accepted, converted⟩ := bind_eq_ok.mp converted
      obtain ⟨signature, present, converted⟩ := bind_eq_ok.mp converted
      have verifies := exceptMapErr_eq_ok.mp (lift_eq_ok.mp accepted)
      obtain ⟨⟨stored, found, _⟩, shape⟩ := (Ticket.verify_eq_ok engine).mp verifies
      have sameTicket : verified.ticket = transferable.ticket := by rw [shape]
      rw [VerifiedTicket.verifiedSignature, sameTicket, found] at present
      cases present
      rw [sameTicket] at converted
      by_cases wins : checkTicketWin verified.hash signature transferable.ticket.encodedWinProb
          transferable.response transferable.vrfParams = true
      · rw [if_pos wins] at converted
        exact ⟨signer, verified, signature, verifies, found, wins, (Except.ok.inj converted).symm⟩
      · rw [if_neg wins] at converted
        cases converted
    · rintro ⟨_, verified, signature, verifies, found, wins, rfl⟩
      obtain ⟨_, shape⟩ := (Ticket.verify_eq_ok engine).mp verifies
      have sameTicket : verified.ticket = transferable.ticket := by rw [shape]
      have lifted : Outcome.lift ((transferable.ticket.verify engine transferable.signer
          domainSeparator).mapErr fun _ => CoreTypesError.cryptoError .signatureVerification) =
          .ok verified := lift_eq_ok.mpr (exceptMapErr_eq_ok.mpr verifies)
      rw [lifted, ok_bind, VerifiedTicket.verifiedSignature, sameTicket, found]
      dsimp only
      rw [ok_bind, if_pos wins]
  · rw [if_pos signer]
    constructor
    · intro impossible
      cases impossible
    · rintro ⟨same, _⟩
      exact absurd same signer

namespace TicketForm

theorem sound_start (lawful : engine.Recovers) {start : TicketForm}
    (starts : Start engine start) : Sound engine start := by
  intro madeUnder verified held
  cases starts with
  | sign ticket signingKey domainSeparator made signed =>
      cases held
      obtain ⟨other, otherSigned, _, consistent⟩ :=
        @Ticket.sign_spec _ engine lawful CoreTypesError ticket signingKey madeUnder
      rw [signed] at otherSigned
      cases otherSigned
      exact consistent
  | verify ticket issuer domainSeparator made accepted =>
      cases held
      exact Ticket.consistent_of_verify engine accepted
  | buildSigned builder signer domainSeparator made built =>
      cases held
      unfold TicketBuilder.buildSigned at built
      by_cases unsigned : builder.signature.isNone = true
      · rw [if_pos unsigned] at built
        obtain ⟨ticket, _, signed⟩ := bind_eq_ok.mp built
        obtain ⟨other, otherSigned, _, consistent⟩ :=
          @Ticket.sign_spec _ engine lawful CoreTypesError ticket signer madeUnder
        rw [signed] at otherSigned
        cases otherSigned
        exact consistent
      · rw [if_neg unsigned] at built
        cases built

/-- Every conversion keeps the invariant: most carry the verified ticket over unchanged, and the
two that make a new one verify it. -/
theorem sound_step {form next : TicketForm} (sound : Sound engine form)
    (step : Step engine form next) : Sound engine next := by
  intro madeUnder verified held
  cases step with
  | leakAndVerify issuer domainSeparator accepted =>
      cases held
      exact Ticket.consistent_of_verify engine accepted
  | intoUnacknowledged ownKey =>
      cases held
      exact sound _ _ rfl
  | intoAcknowledged response =>
      cases held
      exact sound _ _ rfl
  | acknowledge acknowledgement solved =>
      cases held
      rw [UnacknowledgedTicket.ticket_acknowledge solved]
      exact sound _ _ rfl
  | intoRedeemable keypair domainSeparator randomBytes won =>
      cases held
      obtain ⟨_, _, _, _, _, _, rfl⟩ := AcknowledgedTicket.intoRedeemable_eq_ok.mp won
      exact sound _ _ rfl
  | intoTransferable keypair domainSeparator randomBytes won => cases held
  | strip => cases held
  | redeemableToAcknowledged =>
      cases held
      exact sound _ _ rfl
  | receive expectedIssuer domainSeparator accepted =>
      cases held
      obtain ⟨_, _, _, verifies, _, _, rfl⟩ :=
        (TransferableWinningTicket.intoRedeemable_eq_ok engine).mp accepted
      exact Ticket.consistent_of_verify engine verifies

theorem sound_of_reachable (lawful : engine.Recovers) {form : TicketForm}
    (reachable : Reachable engine form) : Sound engine form := by
  obtain ⟨start, starts, run⟩ := reachable
  induction run with
  | refl => exact sound_start engine lawful starts
  | tail _ step ih => exact sound_step engine ih step

end TicketForm

/-- In every run, every verified ticket is consistent and its signature accessor does not panic;
and a signed ticket that is leaked verifies again to an equal ticket. -/
theorem verified_tickets_consistent (lawful : engine.Recovers) :
    (∀ form, TicketForm.Reachable engine form → ∀ madeUnder verified,
      form.verifiedTicket = some (madeUnder, verified) →
        verified.Consistent engine madeUnder ∧
          ∃ signature, (verified.verifiedSignature : Outcome CoreTypesError ChainSignature) =
            .ok signature) ∧
    (∀ (ticket : Ticket) (keypair : ChainKeypair curve) (domainSeparator : Hash),
      ∃ verified, (ticket.sign engine keypair domainSeparator :
          Outcome CoreTypesError VerifiedTicket) = .ok verified ∧
        verified.leak.verify engine keypair.address domainSeparator = .ok verified) := by
  constructor
  · intro form reachable madeUnder verified held
    have consistent := TicketForm.sound_of_reachable engine lawful reachable madeUnder verified held
    obtain ⟨signature, _, accessed⟩ :=
      @VerifiedTicket.verifiedSignature_ok _ engine CoreTypesError _ _ consistent
    exact ⟨consistent, signature, accessed⟩
  · intro ticket keypair domainSeparator
    obtain ⟨verified, signed, issuer, consistent⟩ :=
      @Ticket.sign_spec _ engine lawful CoreTypesError ticket keypair domainSeparator
    refine ⟨verified, signed, ?_⟩
    rw [← issuer]
    exact VerifiedTicket.verify_leak engine consistent

def sampleTicket (counterparty : Address) (signature : Option ChainSignature) : Ticket where
  counterparty := counterparty
  amount := ⟨100⟩
  index := 1
  encodedWinProb := WinningProbability.always
  channelEpoch := 1
  challenge := ⟨Address.zero⟩
  signature := signature

def doubledKey : PublicKey := PublicKey.ofPoint doubledBasePoint

def rawSignatureOf (r s : Nat) (recoveryId : UInt8) : RawSignature :=
  ⟨⟨toBE 32 r ++ toBE 32 s, by simp⟩, recoveryId⟩

/-- The signature by the secret 1 of the sample ticket for the address of `2·G`. -/
def outgoingSignature : RawSignature :=
  rawSignatureOf 0x89ff07c7adcc4c77857e289712e462391a46daa1b9eb7c843848dfec0dff632a
    0x2030a0369abf0d32aec8a5aee143da204c98b6210af599f77140f37aed575400 1

theorem verified_tickets_consistent_sample :
    ∃ verified, ((sampleTicket doubledKey.address none).sign
        (fixedEngine outgoingSignature oneKey) oneKeyPair Hash.default :
          Outcome CoreTypesError VerifiedTicket) = .ok verified ∧
      verified.leak.verify (fixedEngine outgoingSignature oneKey) oneKeyPair.address
        Hash.default = .ok verified :=
  (verified_tickets_consistent (fixedEngine outgoingSignature oneKey)
    (fixedEngine_recovers outgoingSignature)).2 (sampleTicket doubledKey.address none) oneKeyPair
      Hash.default

/-! ## The winning checks agree -/

theorem checkTicketWin_congr {ticketHash : Hash} {signature : ChainSignature}
    {winProb : WinningProbability} {response : Response} {left right : VrfParameters}
    (same : left.V = right.V) :
    checkTicketWin ticketHash signature winProb response left =
      checkTicketWin ticketHash signature winProb response right := by
  unfold checkTicketWin VrfParameters.getVEncodedPoint
  rw [same]

/-- A ticket that always wins does so whatever its luck is. -/
theorem checkTicketWin_always (ticketHash : Hash) (signature : ChainSignature)
    (response : Response) (vrfParams : VrfParameters) :
    checkTicketWin ticketHash signature WinningProbability.always response vrfParams = true := by
  have luckiest : WinningProbability.always.asLuck.toNat = 256 ^ 7 - 1 := by decide +kernel
  unfold checkTicketWin
  generalize Hash.create [ticketHash.toList, vrfParams.getVEncodedPoint.drop 1,
    response.bytes.toList, signature.bytes.toList] = digest
  have bound : ofBE (digest.toList.take 7) < 256 ^ 7 := by
    simpa using ofBE_lt (digest.toList.take 7)
  have low := Nat.mod_le (ofBE (digest.toList.take 7)) (2 ^ 64)
  rw [decide_eq_true_iff, BitVec.le_def, luckiest, fromBeBytes, BitVec.toNat_ofNat, ofBE_cons,
    UInt8.toNat_zero, Nat.zero_mul, Nat.zero_add]
  omega

/-- The recipient's win check, the conversion to a redeemable ticket and the check of the party
the ticket is handed to all agree, whatever randomness each derivation drew. -/
theorem winning_checks_agree {acknowledged : AcknowledgedTicket} {keypair : ChainKeypair curve}
    {domainSeparator : Hash}
    (verified : ∃ (ticket : Ticket) (issuer : Address),
      ticket.verify engine issuer domainSeparator = .ok acknowledged.ticket)
    (recipient : keypair.address ≠ acknowledged.ticket.issuer)
    (derives : ∀ randomBytes, ∃ vrfParams, deriveVrfParameters acknowledged.ticket.hash keypair
      domainSeparator.toList randomBytes = .ok vrfParams)
    (checkRandom redeemRandom : FixedBytes 64) :
    ((acknowledged.isWinning keypair domainSeparator checkRandom : Outcome CoreTypesError Bool) =
        .ok true ↔
      ∃ redeemable, acknowledged.intoRedeemable keypair domainSeparator redeemRandom =
        .ok redeemable) ∧
    ∀ redeemable,
      acknowledged.intoRedeemable keypair domainSeparator redeemRandom = .ok redeemable →
        ∃ received, (TransferableWinningTicket.fromRedeemable redeemable).intoRedeemable engine
            acknowledged.ticket.issuer domainSeparator = .ok received ∧
          received.eq redeemable = true ∧ received.vrfParams = redeemable.vrfParams ∧
          received.response = redeemable.response ∧
          received.ticket.issuer = redeemable.ticket.issuer := by
  obtain ⟨ticket, issuer, accepted⟩ := verified
  have consistent := Ticket.consistent_of_verify engine accepted
  obtain ⟨signature, present, _⟩ := consistent.signature
  obtain ⟨checkParams, checkDerived⟩ := derives checkRandom
  obtain ⟨redeemParams, redeemDerived⟩ := derives redeemRandom
  have sameWin : checkTicketWin acknowledged.ticket.hash signature
        acknowledged.ticket.ticket.encodedWinProb acknowledged.response checkParams =
      checkTicketWin acknowledged.ticket.hash signature
        acknowledged.ticket.ticket.encodedWinProb acknowledged.response redeemParams :=
    checkTicketWin_congr (deriveVrfParameters_V_unique checkDerived redeemDerived)
  have checked : (acknowledged.isWinning keypair domainSeparator checkRandom :
      Outcome CoreTypesError Bool) = .ok (checkTicketWin acknowledged.ticket.hash signature
        acknowledged.ticket.ticket.encodedWinProb acknowledged.response checkParams) := by
    rw [AcknowledgedTicket.isWinning, VerifiedTicket.isWinning, checkDerived, present]
  refine ⟨⟨?_, ?_⟩, ?_⟩
  · intro wins
    rw [checked, sameWin, Except.ok.injEq] at wins
    exact ⟨_, AcknowledgedTicket.intoRedeemable_eq_ok.mpr
      ⟨recipient, redeemParams, signature, redeemDerived, present, wins, rfl⟩⟩
  · rintro ⟨redeemable, converted⟩
    obtain ⟨_, params, stored, derived, found, wins, _⟩ :=
      AcknowledgedTicket.intoRedeemable_eq_ok.mp converted
    rw [present] at found
    cases found
    rw [checked, Except.ok.injEq, ← wins]
    exact checkTicketWin_congr (deriveVrfParameters_V_unique checkDerived derived)
  · intro redeemable converted
    obtain ⟨_, params, stored, _, found, wins, rfl⟩ :=
      AcknowledgedTicket.intoRedeemable_eq_ok.mp converted
    have again := VerifiedTicket.verify_leak engine consistent
    refine ⟨⟨acknowledged.ticket, acknowledged.response, params, domainSeparator⟩, ?_, ?_, rfl,
      rfl, rfl⟩
    · exact (TransferableWinningTicket.intoRedeemable_eq_ok engine).mpr
        ⟨rfl, acknowledged.ticket, stored, again, found, wins, rfl⟩
    · simp [RedeemableTicket.eq]

/-- The signature by the secret 2 of the sample ticket for the address of `G`. -/
def incomingSignature : RawSignature :=
  rawSignatureOf 0xbec7289d21bdd6ef9d01e820c8654295693bf7779d9f8070d744f59cd29ee076
    0x187671b7653dd14f2f21ec05f039363433d74414b1029ba7ef9f49d03ced5969 1

def incomingEngine : EcdsaEngine oneKeyCurve := fixedEngine incomingSignature doubledKey

def incomingTicket : Ticket :=
  sampleTicket oneKey.address (some (ChainSignature.new incomingSignature))

def incomingVerified : VerifiedTicket where
  ticket := incomingTicket
  hash := (incomingTicket.getHash doubledKey.address Hash.default).2
  issuer := doubledKey.address
  channelId := (incomingTicket.getHash doubledKey.address Hash.default).1

theorem verify_incomingTicket :
    incomingTicket.verify incomingEngine doubledKey.address Hash.default = .ok incomingVerified :=
  (Ticket.verify_eq_ok incomingEngine).mpr ⟨⟨_, rfl, doubledKey, rfl, rfl⟩, rfl⟩

theorem oneKey_ne_doubledKey : oneKey.address ≠ doubledKey.address := by decide +kernel

theorem oneKey_ne_zero : oneKey.address ≠ Address.zero := by decide +kernel

theorem winning_checks_agree_sample :
    let acknowledged := incomingVerified.intoAcknowledged ⟨Scalar.toBytes 1⟩
    let randomBytes : FixedBytes 64 := beBytes 64 0
    (acknowledged.isWinning oneKeyPair Hash.default randomBytes :
        Outcome CoreTypesError Bool) = .ok true ↔
      ∃ redeemable, acknowledged.intoRedeemable oneKeyPair Hash.default randomBytes =
        .ok redeemable :=
  (@winning_checks_agree _ incomingEngine (incomingVerified.intoAcknowledged ⟨Scalar.toBytes 1⟩)
    oneKeyPair Hash.default ⟨incomingTicket, doubledKey.address, verify_incomingTicket⟩
    oneKey_ne_doubledKey (deriveVrfParameters_oneKey _ _) (beBytes 64 0) (beBytes 64 0)).1

/-! ## Accepting a transferred ticket -/

def Response.Solves (curve : Secp256k1) (response : Response) (challenge : EthereumChallenge) :
    Prop :=
  ∃ solved, response.toChallenge curve = .ok solved ∧ solved.toEthereumChallenge = challenge

structure RedeemableTicket.RedeemableOnChain (issuer : Address) (domainSeparator : Hash)
    (redeemable : RedeemableTicket) : Prop where
  response : Response.Solves curve redeemable.response redeemable.ticket.ticket.challenge
  vrfParams : redeemable.vrfParams.verify curve redeemable.ticket.ticket.counterparty
    redeemable.ticket.hash domainSeparator.toList = .ok ()
  signed : ∃ signature, redeemable.ticket.ticket.signature = some signature ∧
    RecoversTo engine signature redeemable.ticket.hash issuer ∧
    checkTicketWin redeemable.ticket.hash signature redeemable.ticket.ticket.encodedWinProb
      redeemable.response redeemable.vrfParams = true

namespace TransferableWinningTicket

/-- The hash of the carried ticket, for the signer it names. -/
def ticketHash (transferable : TransferableWinningTicket) (domainSeparator : Hash) : Hash :=
  (transferable.ticket.getHash transferable.signer domainSeparator).2

/-- The signer is the expected one, the signature is the signer's, and the ticket wins. -/
def SignedAndWinning (transferable : TransferableWinningTicket) (expectedIssuer : Address)
    (domainSeparator : Hash) : Prop :=
  transferable.signer = expectedIssuer ∧
    ∃ signature, transferable.ticket.signature = some signature ∧
      RecoversTo engine signature (transferable.ticketHash domainSeparator) transferable.signer ∧
      checkTicketWin (transferable.ticketHash domainSeparator) signature
        transferable.ticket.encodedWinProb transferable.response transferable.vrfParams = true

/-- The response solves the challenge and the VRF parameters are the counterparty's. -/
def ProvesWin (curve : Secp256k1) (transferable : TransferableWinningTicket)
    (domainSeparator : Hash) : Prop :=
  Response.Solves curve transferable.response transferable.ticket.challenge ∧
    transferable.vrfParams.verify curve transferable.ticket.counterparty
      (transferable.ticketHash domainSeparator) domainSeparator.toList = .ok ()

/-- Acceptance is sound exactly for the transfers that are refused by the checks made, or whose
response and VRF parameters, which are not checked, happen to be right. -/
theorem intoRedeemable_sound_iff (transferable : TransferableWinningTicket)
    (expectedIssuer : Address) (domainSeparator : Hash) :
    (∀ redeemable,
      transferable.intoRedeemable engine expectedIssuer domainSeparator = .ok redeemable →
        redeemable.RedeemableOnChain engine expectedIssuer domainSeparator) ↔
      (¬ transferable.SignedAndWinning engine expectedIssuer domainSeparator ∨
        transferable.ProvesWin curve domainSeparator) := by
  constructor
  · intro sound
    by_cases checked : transferable.SignedAndWinning engine expectedIssuer domainSeparator
    · obtain ⟨signer, signature, present, recovers, wins⟩ := checked
      have verifies := (Ticket.verify_eq_ok engine).mpr
        ⟨⟨signature, present, recovers⟩, rfl⟩
      have onChain := sound _ ((intoRedeemable_eq_ok engine).mpr
        ⟨signer, _, signature, verifies, present, wins, rfl⟩)
      exact Or.inr ⟨onChain.response, onChain.vrfParams⟩
    · exact Or.inl checked
  · intro condition redeemable accepted
    obtain ⟨signer, verified, signature, verifies, present, wins, rfl⟩ :=
      (intoRedeemable_eq_ok engine).mp accepted
    obtain ⟨⟨stored, found, recovers⟩, rfl⟩ := (Ticket.verify_eq_ok engine).mp verifies
    rw [present] at found
    cases found
    rcases condition with refused | ⟨response, vrfParams⟩
    · exact absurd ⟨signer, signature, present, recovers, wins⟩ refused
    · exact ⟨response, vrfParams, signature, present, signer ▸ recovers, wins⟩

/-- The sample ticket sent on by its recipient, with a response that solves nothing and empty
VRF parameters. -/
def unsolved : TransferableWinningTicket where
  ticket := incomingTicket
  response := ⟨Scalar.toBytes 1⟩
  vrfParams := ⟨.identity, 0, 0, .identity⟩
  signer := doubledKey.address

theorem unsolved_accepted :
    ¬ ∀ redeemable,
      unsolved.intoRedeemable incomingEngine doubledKey.address Hash.default = .ok redeemable →
        redeemable.RedeemableOnChain incomingEngine doubledKey.address Hash.default := by
  intro sound
  have wins := checkTicketWin_always incomingVerified.hash (ChainSignature.new incomingSignature)
    unsolved.response unsolved.vrfParams
  have accepted : unsolved.intoRedeemable incomingEngine doubledKey.address Hash.default =
      .ok ⟨incomingVerified, unsolved.response, unsolved.vrfParams, Hash.default⟩ := by
    rw [intoRedeemable_eq_ok incomingEngine]
    exact ⟨rfl, incomingVerified, ChainSignature.new incomingSignature, verify_incomingTicket,
      rfl, wins, rfl⟩
  obtain ⟨solved, converted, challenge⟩ := (sound _ accepted).response
  have publicKey : PublicKey.fromPrivkey oneKeyCurve unsolved.response.bytes.toList = .ok oneKey :=
    oneKeyPair.derived
  have solution : solved.toEthereumChallenge = ⟨oneKey.address⟩ := by
    have shape : Response.toChallenge oneKeyCurve unsolved.response = .ok ⟨oneKey.point⟩ := by
      rw [Response.toChallenge, publicKey]
      rfl
    have same : (⟨oneKey.point⟩ : Challenge) = solved := Except.ok.inj (shape.symm.trans converted)
    rw [← same]
    rfl
  rw [solution] at challenge
  exact oneKey_ne_zero (congrArg EthereumChallenge.address challenge)

end TransferableWinningTicket

end HoprTypes.Internal
