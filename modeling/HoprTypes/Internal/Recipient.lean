import HoprTypes.Internal.TicketMachine

/-!
# Who can make a ticket redeemable

The conversion of an acknowledged ticket turns away the issuer's key only.  Winning depends on
the key, so every other key for which the ticket wins is let through, whether or not it is the
recipient's.
-/

set_option autoImplicit false

namespace HoprTypes.Internal

open BigEndian HoprTypes.Primitive HoprTypes.Crypto

variable {curve : Secp256k1}

/-- The check that the conversion makes is the winning check of the same derivation. -/
theorem AcknowledgedTicket.isWinning_eq_ok_true {acknowledged : AcknowledgedTicket}
    {keypair : ChainKeypair curve} {domainSeparator : Hash} {randomBytes : FixedBytes 64} :
    (acknowledged.isWinning keypair domainSeparator randomBytes : Outcome CoreTypesError Bool) =
        .ok true ↔
      ∃ vrfParams signature,
        deriveVrfParameters acknowledged.ticket.hash keypair domainSeparator.toList randomBytes =
          .ok vrfParams ∧
        acknowledged.ticket.ticket.signature = some signature ∧
        checkTicketWin acknowledged.ticket.hash signature
          acknowledged.ticket.ticket.encodedWinProb acknowledged.response vrfParams = true := by
  rw [AcknowledgedTicket.isWinning, VerifiedTicket.isWinning]
  cases derived : deriveVrfParameters acknowledged.ticket.hash keypair domainSeparator.toList
      randomBytes with
  | ok vrfParams =>
      cases present : acknowledged.ticket.ticket.signature with
      | none =>
          constructor
          · intro impossible
            cases impossible
          · rintro ⟨_, _, _, impossible, _⟩
            cases impossible
      | some signature =>
          constructor
          · intro wins
            exact ⟨vrfParams, signature, rfl, rfl, Except.ok.inj wins⟩
          · rintro ⟨_, _, same, found, wins⟩
            cases same
            cases found
            exact congrArg Except.ok wins
  | error failure =>
      constructor
      · intro impossible
        cases failure with
        | error cause => cases impossible
        | panic message => cases impossible
      · rintro ⟨_, _, impossible, _⟩
        cases impossible

/-- A key makes the ticket redeemable exactly when it is not the issuer's and the ticket wins
for it. -/
theorem AcknowledgedTicket.intoRedeemable_isOk_iff {acknowledged : AcknowledgedTicket}
    {keypair : ChainKeypair curve} {domainSeparator : Hash} {randomBytes : FixedBytes 64} :
    (acknowledged.intoRedeemable keypair domainSeparator randomBytes).IsOk ↔
      keypair.address ≠ acknowledged.ticket.issuer ∧
        (acknowledged.isWinning keypair domainSeparator randomBytes :
          Outcome CoreTypesError Bool) = .ok true := by
  rw [AcknowledgedTicket.isWinning_eq_ok_true]
  constructor
  · intro converted
    obtain ⟨_, accepted⟩ := converted
    obtain ⟨notIssuer, vrfParams, signature, derived, present, wins, _⟩ :=
      AcknowledgedTicket.intoRedeemable_eq_ok.mp accepted
    exact ⟨notIssuer, vrfParams, signature, derived, present, wins⟩
  · rintro ⟨notIssuer, vrfParams, signature, derived, present, wins⟩
    exact ⟨_, AcknowledgedTicket.intoRedeemable_eq_ok.mpr
      ⟨notIssuer, vrfParams, signature, derived, present, wins, rfl⟩⟩

theorem AcknowledgedTicket.intoTransferable_isOk_iff {acknowledged : AcknowledgedTicket}
    {keypair : ChainKeypair curve} {domainSeparator : Hash} {randomBytes : FixedBytes 64} :
    (acknowledged.intoTransferable keypair domainSeparator randomBytes).IsOk ↔
      (acknowledged.intoRedeemable keypair domainSeparator randomBytes).IsOk := by
  unfold AcknowledgedTicket.intoTransferable
  cases acknowledged.intoRedeemable keypair domainSeparator randomBytes with
  | ok redeemable => exact iff_of_true ⟨_, rfl⟩ ⟨_, rfl⟩
  | error failure =>
      apply iff_of_false
      · intro converted
        obtain ⟨_, impossible⟩ := converted
        cases impossible
      · intro converted
        obtain ⟨_, impossible⟩ := converted
        cases impossible

/-- With this key, only the recipient gets a redeemable or a transferable ticket, whatever
randomness the derivation draws. -/
def AcknowledgedTicket.OnlyForRecipient (acknowledged : AcknowledgedTicket)
    (keypair : ChainKeypair curve) (domainSeparator : Hash) : Prop :=
  ∀ randomBytes,
    ((acknowledged.intoRedeemable keypair domainSeparator randomBytes).IsOk →
      keypair.address = acknowledged.ticket.ticket.counterparty) ∧
    ((acknowledged.intoTransferable keypair domainSeparator randomBytes).IsOk →
      keypair.address = acknowledged.ticket.ticket.counterparty)

/-- A key that is neither of the two parties' gets through when the ticket wins for it. -/
theorem AcknowledgedTicket.not_onlyForRecipient {acknowledged : AcknowledgedTicket}
    {keypair : ChainKeypair curve} {domainSeparator : Hash} {randomBytes : FixedBytes 64}
    (notRecipient : keypair.address ≠ acknowledged.ticket.ticket.counterparty)
    (converted : (acknowledged.intoRedeemable keypair domainSeparator randomBytes).IsOk) :
    ¬acknowledged.OnlyForRecipient keypair domainSeparator := by
  intro only
  exact notRecipient ((only randomBytes).1 converted)

/-- Only the recipient gets through exactly for the keys of the two parties, and for the keys for
which the ticket does not win. -/
theorem only_recipient_redeems_iff (acknowledged : AcknowledgedTicket)
    (keypair : ChainKeypair curve) (domainSeparator : Hash) :
    acknowledged.OnlyForRecipient keypair domainSeparator ↔
      keypair.address = acknowledged.ticket.ticket.counterparty ∨
        keypair.address = acknowledged.ticket.issuer ∨
        ∀ randomBytes, (acknowledged.isWinning keypair domainSeparator randomBytes :
          Outcome CoreTypesError Bool) ≠ .ok true := by
  constructor
  · intro only
    by_cases recipient : keypair.address = acknowledged.ticket.ticket.counterparty
    · exact Or.inl recipient
    by_cases issuer : keypair.address = acknowledged.ticket.issuer
    · exact Or.inr (Or.inl issuer)
    right
    right
    intro randomBytes wins
    exact AcknowledgedTicket.not_onlyForRecipient recipient
      (AcknowledgedTicket.intoRedeemable_isOk_iff.mpr ⟨issuer, wins⟩) only
  · intro allowed randomBytes
    have redeemed : (acknowledged.intoRedeemable keypair domainSeparator randomBytes).IsOk →
        keypair.address = acknowledged.ticket.ticket.counterparty := by
      intro converted
      obtain ⟨notIssuer, wins⟩ := AcknowledgedTicket.intoRedeemable_isOk_iff.mp converted
      rcases allowed with recipient | issuer | loses
      · exact recipient
      · exact absurd issuer notIssuer
      · exact absurd wins (loses randomBytes)
    refine ⟨redeemed, ?_⟩
    intro converted
    exact redeemed (AcknowledgedTicket.intoTransferable_isOk_iff.mp converted)

/-! ## A key of neither party -/

def recipientKey : PublicKey := PublicKey.ofPoint payloadPoint

def foreignSignature : RawSignature :=
  rawSignatureOf 0xe866f8a01299cc8b8a1dd389def8641a3bd9a0a2fb010c0e0d94d86f71b4f224
    0x68954cea467106916172ea7a9a5e9a2f2fbc299607244bb687cf26c499659291 0

def foreignEngine : EcdsaEngine oneKeyCurve := fixedEngine foreignSignature doubledKey

def foreignTicket : Ticket :=
  sampleTicket recipientKey.address (some (ChainSignature.new foreignSignature))

def foreignVerified : VerifiedTicket where
  ticket := foreignTicket
  hash := (foreignTicket.getHash doubledKey.address Hash.default).2
  issuer := doubledKey.address
  channelId := (foreignTicket.getHash doubledKey.address Hash.default).1

/-- The key of the secret 1 is neither the issuer's nor the recipient's, and makes a verified
ticket that always wins redeemable. -/
theorem third_party_redeems :
    let acknowledged := foreignVerified.intoAcknowledged ⟨Scalar.toBytes 1⟩
    foreignTicket.verify foreignEngine doubledKey.address Hash.default = .ok foreignVerified ∧
      (acknowledged.intoRedeemable oneKeyPair Hash.default (beBytes 64 0)).IsOk ∧
      ¬acknowledged.OnlyForRecipient oneKeyPair Hash.default := by
  have notIssuer : oneKeyPair.address ≠ doubledKey.address := oneKey_ne_doubledKey
  have notRecipient : oneKeyPair.address ≠ recipientKey.address := by decide +kernel
  obtain ⟨vrfParams, derived⟩ :=
    deriveVrfParameters_oneKey foreignVerified.hash Hash.default.toList (beBytes 64 0)
  have converted : ((foreignVerified.intoAcknowledged ⟨Scalar.toBytes 1⟩).intoRedeemable
      oneKeyPair Hash.default (beBytes 64 0)).IsOk :=
    ⟨_, AcknowledgedTicket.intoRedeemable_eq_ok.mpr ⟨notIssuer, vrfParams, _, derived, rfl,
      checkTicketWin_always _ _ _ _, rfl⟩⟩
  refine ⟨?_, converted, ?_⟩
  · exact (Ticket.verify_eq_ok foreignEngine).mpr ⟨⟨_, rfl, doubledKey, rfl, rfl⟩, rfl⟩
  · exact AcknowledgedTicket.not_onlyForRecipient notRecipient converted

end HoprTypes.Internal
