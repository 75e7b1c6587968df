import Mathlib
import HoprTypes.Internal.Relaying

/-!
# What a ticket keeps on its way

However a ticket is converted, acknowledged, transferred and verified again, it stays the ticket
that its issuer signed; a response stays with it once it is there; and only winning tickets become
redeemable or transferable.
-/

set_option autoImplicit false

namespace HoprTypes.Internal

open BigEndian HoprTypes.Primitive HoprTypes.Crypto

variable {curve : Secp256k1} {engine : EcdsaEngine curve}

namespace TicketForm

/-- The ticket that every form carries. -/
def ticket : TicketForm → Ticket
  | verified _ held => held.ticket
  | unacknowledged _ held => held.ticket.ticket
  | acknowledged _ held => held.ticket.ticket
  | redeemable _ held => held.ticket.ticket
  | transferable held => held.ticket

/-- The response to the challenge, once there is one. -/
def response? : TicketForm → Option Response
  | verified _ _ => none
  | unacknowledged _ _ => none
  | acknowledged _ held => some held.response
  | redeemable _ held => some held.response
  | transferable held => some held.response

/-- The win check passes on the values that a form carries, where the form tells of a win. -/
def Wins : TicketForm → Prop
  | verified _ _ => True
  | unacknowledged _ _ => True
  | acknowledged _ _ => True
  | redeemable _ held => ∃ signature, held.ticket.ticket.signature = some signature ∧
      checkTicketWin held.ticket.hash signature held.ticket.ticket.encodedWinProb held.response
        held.vrfParams = true
  | transferable held => ∃ signature domainSeparator, held.ticket.signature = some signature ∧
      checkTicketWin (held.ticketHash domainSeparator) signature held.ticket.encodedWinProb
        held.response held.vrfParams = true

/-! ## One conversion -/

theorem intoTransferable_eq_ok {acknowledged : AcknowledgedTicket} {keypair : ChainKeypair curve}
    {domainSeparator : Hash} {randomBytes : FixedBytes 64}
    {transferable : TransferableWinningTicket}
    (won : acknowledged.intoTransferable keypair domainSeparator randomBytes =
      .ok transferable) :
    ∃ redeemable, acknowledged.intoRedeemable keypair domainSeparator randomBytes =
        .ok redeemable ∧ transferable = TransferableWinningTicket.fromRedeemable redeemable := by
  unfold AcknowledgedTicket.intoTransferable at won
  cases converted : acknowledged.intoRedeemable keypair domainSeparator randomBytes with
  | error failure =>
      rw [converted] at won
      cases won
  | ok redeemable =>
      rw [converted] at won
      exact ⟨redeemable, rfl, (Except.ok.inj won).symm⟩

theorem ticket_step {form next : TicketForm} (step : Step engine form next) :
    next.ticket = form.ticket := by
  cases step with
  | leakAndVerify issuer domainSeparator accepted =>
      obtain ⟨_, rfl⟩ := (Ticket.verify_eq_ok engine).mp accepted
      rfl
  | intoUnacknowledged ownKey => rfl
  | intoAcknowledged response => rfl
  | acknowledge acknowledgement solved =>
      exact congrArg VerifiedTicket.ticket (UnacknowledgedTicket.ticket_acknowledge solved)
  | intoRedeemable keypair domainSeparator randomBytes won =>
      obtain ⟨_, _, _, _, _, _, rfl⟩ := AcknowledgedTicket.intoRedeemable_eq_ok.mp won
      rfl
  | intoTransferable keypair domainSeparator randomBytes won =>
      obtain ⟨redeemable, converted, rfl⟩ := intoTransferable_eq_ok won
      obtain ⟨_, _, _, _, _, _, rfl⟩ := AcknowledgedTicket.intoRedeemable_eq_ok.mp converted
      rfl
  | strip => rfl
  | redeemableToAcknowledged => rfl
  | receive expectedIssuer domainSeparator accepted =>
      obtain ⟨_, verified, _, verifies, _, _, rfl⟩ :=
        (TransferableWinningTicket.intoRedeemable_eq_ok engine).mp accepted
      obtain ⟨_, rfl⟩ := (Ticket.verify_eq_ok engine).mp verifies
      rfl

theorem response_step {form next : TicketForm} (step : Step engine form next)
    {response : Response} (given : form.response? = some response) :
    next.response? = some response := by
  cases step with
  | leakAndVerify issuer domainSeparator accepted => cases given
  | intoUnacknowledged ownKey => cases given
  | intoAcknowledged response => cases given
  | acknowledge acknowledgement solved => cases given
  | intoRedeemable keypair domainSeparator randomBytes won =>
      obtain ⟨_, _, _, _, _, _, rfl⟩ := AcknowledgedTicket.intoRedeemable_eq_ok.mp won
      exact given
  | intoTransferable keypair domainSeparator randomBytes won =>
      obtain ⟨redeemable, converted, rfl⟩ := intoTransferable_eq_ok won
      obtain ⟨_, _, _, _, _, _, rfl⟩ := AcknowledgedTicket.intoRedeemable_eq_ok.mp converted
      exact given
  | strip => exact given
  | redeemableToAcknowledged => exact given
  | receive expectedIssuer domainSeparator accepted =>
      obtain ⟨_, _, _, _, _, _, rfl⟩ :=
        (TransferableWinningTicket.intoRedeemable_eq_ok engine).mp accepted
      exact given

theorem wins_fromRedeemable {domainSeparator : Hash} {redeemable : RedeemableTicket}
    (consistent : redeemable.ticket.Consistent engine domainSeparator) {signature : ChainSignature}
    (present : redeemable.ticket.ticket.signature = some signature)
    (wins : checkTicketWin redeemable.ticket.hash signature
      redeemable.ticket.ticket.encodedWinProb redeemable.response redeemable.vrfParams = true) :
    Wins (.transferable (TransferableWinningTicket.fromRedeemable redeemable)) := by
  refine ⟨signature, domainSeparator, present, ?_⟩
  rw [consistent.hash] at wins
  exact wins

theorem wins_step {form next : TicketForm} (sound : Sound engine form) (wins : form.Wins)
    (step : Step engine form next) : next.Wins := by
  cases step with
  | leakAndVerify issuer domainSeparator accepted => trivial
  | intoUnacknowledged ownKey => trivial
  | intoAcknowledged response => trivial
  | acknowledge acknowledgement solved => trivial
  | intoRedeemable keypair domainSeparator randomBytes won =>
      obtain ⟨_, _, signature, _, present, wins, rfl⟩ :=
        AcknowledgedTicket.intoRedeemable_eq_ok.mp won
      exact ⟨signature, present, wins⟩
  | intoTransferable keypair domainSeparator randomBytes won =>
      obtain ⟨redeemable, converted, rfl⟩ := intoTransferable_eq_ok won
      obtain ⟨_, _, signature, _, present, wins, rfl⟩ :=
        AcknowledgedTicket.intoRedeemable_eq_ok.mp converted
      exact wins_fromRedeemable (sound _ _ rfl) present wins
  | strip =>
      obtain ⟨signature, present, wins⟩ := wins
      exact wins_fromRedeemable (sound _ _ rfl) present wins
  | redeemableToAcknowledged => trivial
  | receive expectedIssuer domainSeparator accepted =>
      obtain ⟨_, verified, signature, verifies, present, wins, rfl⟩ :=
        (TransferableWinningTicket.intoRedeemable_eq_ok engine).mp accepted
      obtain ⟨_, rfl⟩ := (Ticket.verify_eq_ok engine).mp verifies
      exact ⟨signature, present, wins⟩

/-! ## Whole runs -/

theorem wins_start {start : TicketForm} (starts : Start engine start) : start.Wins := by
  cases starts <;> trivial

theorem ticket_run {form next : TicketForm} (run : Relation.ReflTransGen (Step engine) form next) :
    next.ticket = form.ticket ∧
      ∀ response, form.response? = some response → next.response? = some response := by
  induction run with
  | refl => exact ⟨rfl, fun _ given => given⟩
  | tail _ step ih =>
      obtain ⟨sameTicket, kept⟩ := ih
      exact ⟨(ticket_step step).trans sameTicket,
        fun response given => response_step step (kept response given)⟩

/-- In every run, the ticket stays the one that the run started with, a response stays once it is
there, and every redeemable or transferable ticket wins with the values it carries. -/
theorem ticket_kept_in_runs (recovers : engine.Recovers) {start form : TicketForm}
    (starts : Start engine start) (run : Relation.ReflTransGen (Step engine) start form) :
    form.ticket = start.ticket ∧ form.Wins ∧
      ∀ next, Relation.ReflTransGen (Step engine) form next →
        next.ticket = start.ticket ∧
          ∀ response, form.response? = some response → next.response? = some response := by
  have sameTicket := (ticket_run run).1
  refine ⟨sameTicket, ?_, ?_⟩
  · induction run with
    | refl => exact wins_start starts
    | tail before step ih =>
        have sound := sound_of_reachable engine recovers ⟨start, starts, before⟩
        exact wins_step sound (ih (ticket_run before).1) step
  · intro next later
    obtain ⟨laterTicket, kept⟩ := ticket_run later
    exact ⟨laterTicket.trans sameTicket, kept⟩

theorem ticket_kept_in_runs_sample :
    ∃ verified, (relayedTicket.sign twoKeyEngine (doublingKeyPair oneScalar) Hash.default :
        Outcome CoreTypesError VerifiedTicket) = .ok verified ∧
      ticket (.acknowledged Hash.default (verified.intoAcknowledged ⟨Scalar.toBytes 2⟩)) =
        verified.ticket := by
  obtain ⟨verified, signed, _⟩ :=
    @Ticket.sign_spec _ _ twoKeyEngine_recovers CoreTypesError relayedTicket
      (doublingKeyPair oneScalar) Hash.default
  have starts : Start twoKeyEngine (.verified Hash.default verified) :=
    .sign relayedTicket (doublingKeyPair oneScalar) Hash.default verified signed
  have step : Step twoKeyEngine (.verified Hash.default verified)
      (.acknowledged Hash.default (verified.intoAcknowledged ⟨Scalar.toBytes 2⟩)) :=
    .intoAcknowledged ⟨Scalar.toBytes 2⟩
  exact ⟨verified, signed, (ticket_kept_in_runs twoKeyEngine_recovers starts (.single step)).1⟩

end TicketForm

end HoprTypes.Internal
