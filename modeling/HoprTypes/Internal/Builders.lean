import HoprTypes.Internal.ChannelDiff
import HoprTypes.Internal.TicketCodec
import HoprTypes.Internal.TicketMachine
import HoprTypes.Lib.Setters

/-!
# Runs of the builders

The setters of a builder are called any number of times and in any order before the build.
-/

set_option autoImplicit false

namespace HoprTypes.Internal

open BigEndian HoprTypes.Primitive HoprTypes.Crypto Setters

/-! ## Tickets -/

namespace TicketBuilder

def zeroHop : TicketBuilder :=
  { index := 0
    amount := some 0
    winProb := WinningProbability.never
    channelEpoch := 0 }

/-- The builder with the values of a ticket, without its signature. -/
def ofTicket (value : Ticket) : TicketBuilder where
  counterparty := some value.counterparty
  amount := none
  balance := some value.amount
  index := value.index
  channelEpoch := value.channelEpoch
  winProb := value.encodedWinProb
  challenge := some value.challenge
  signature := none

inductive Setter where
  | counterparty (counterparty : Address)
  | amount (amount : U256)
  | balance (balance : HoprBalance)
  | index (index : U64)
  | channelEpoch (channelEpoch : U32)
  | winProb (winProb : WinningProbability)
  | challenge (challenge : Challenge)
  | ethChallenge (challenge : EthereumChallenge)
  | signature (signature : ChainSignature)

def apply (builder : TicketBuilder) : Setter → TicketBuilder
  | .counterparty counterparty => { builder with counterparty := some counterparty }
  | .amount amount => builder.withAmount amount
  | .balance balance => builder.withBalance balance
  | .index index => { builder with index := index }
  | .channelEpoch channelEpoch => { builder with channelEpoch := channelEpoch }
  | .winProb winProb => { builder with winProb := winProb }
  | .challenge challenge => builder.withChallenge challenge
  | .ethChallenge challenge => { builder with challenge := some challenge }
  | .signature signature => { builder with signature := some signature }

inductive Begins : TicketBuilder → Prop where
  | default : Begins {}
  | zeroHop : Begins zeroHop
  | ofTicket (ticket : Ticket) : Begins (ofTicket ticket)

/-- The amount of the ticket, however it is given. -/
def worth (builder : TicketBuilder) : Option U256 :=
  builder.amount.or (builder.balance.map Balance.amount)

/-- At most one of the amount and the balance is set. -/
def Exclusive (builder : TicketBuilder) : Prop :=
  builder.amount = none ∨ builder.balance = none

/-! ### The fields that the setters write -/

def counterpartyField : Field apply (Option Address) where
  get := counterparty
  written
    | .counterparty value => some (some value)
    | _ => none
  get_apply _ call := by cases call <;> rfl

def worthField : Field apply (Option U256) where
  get := worth
  written
    | .amount value => some (some value)
    | .balance value => some (some value.amount)
    | _ => none
  get_apply _ call := by cases call <;> rfl

def indexField : Field apply U64 where
  get := index
  written
    | .index value => some value
    | _ => none
  get_apply _ call := by cases call <;> rfl

def channelEpochField : Field apply U32 where
  get := channelEpoch
  written
    | .channelEpoch value => some value
    | _ => none
  get_apply _ call := by cases call <;> rfl

def winProbField : Field apply WinningProbability where
  get := winProb
  written
    | .winProb value => some value
    | _ => none
  get_apply _ call := by cases call <;> rfl

def challengeField : Field apply (Option EthereumChallenge) where
  get := challenge
  written
    | .challenge value => some (some value.toEthereumChallenge)
    | .ethChallenge value => some (some value)
    | _ => none
  get_apply _ call := by cases call <;> rfl

def signatureField : Field apply (Option ChainSignature) where
  get := signature
  written
    | .signature value => some (some value)
    | _ => none
  get_apply _ call := by cases call <;> rfl

/-! ### What is built -/

theorem Begins.exclusive {builder : TicketBuilder} (begins : Begins builder) :
    builder.Exclusive := by
  cases begins with
  | default => exact Or.inl rfl
  | zeroHop => exact Or.inr rfl
  | ofTicket ticket => exact Or.inl rfl

theorem exclusive_apply (builder : TicketBuilder) (call : Setter)
    (exclusive : builder.Exclusive) : (builder.apply call).Exclusive := by
  cases call with
  | amount amount => exact Or.inr rfl
  | balance balance => exact Or.inl rfl
  | counterparty | index | channelEpoch | winProb | challenge | ethChallenge | signature =>
      exact exclusive

theorem buildAmount_eq_ok {builder : TicketBuilder} (exclusive : builder.Exclusive)
    {amount : HoprBalance} :
    builder.buildAmount = .ok amount ↔
      builder.worth = some amount.amount ∧ amount.amount.toNat < maxTicketAmount := by
  unfold buildAmount worth
  cases given : builder.amount with
  | none =>
      cases balance : builder.balance with
      | none => simp
      | some value =>
          simp only [okIf_eq_ok, Option.none_or, Option.map_some, Option.some.injEq]
          constructor
          · intro built
            obtain ⟨fits, rfl⟩ := built
            exact ⟨rfl, fits⟩
          · intro held
            obtain ⟨same, fits⟩ := held
            cases value
            cases amount
            cases same
            exact ⟨fits, rfl⟩
  | some value =>
      rcases exclusive with absent | absent
      · rw [given] at absent
        cases absent
      · rw [absent]
        simp only [okIf_eq_ok, Option.some_or, Option.some.injEq]
        constructor
        · intro built
          obtain ⟨fits, rfl⟩ := built
          exact ⟨rfl, fits⟩
        · intro held
          obtain ⟨rfl, fits⟩ := held
          exact ⟨fits, rfl⟩

theorem build_eq_ok {builder : TicketBuilder} (exclusive : builder.Exclusive) {ticket : Ticket} :
    builder.build = .ok ticket ↔
      ticket.InBounds ∧ builder.counterparty = some ticket.counterparty ∧
        builder.worth = some ticket.amount.amount ∧ builder.index = ticket.index ∧
        builder.channelEpoch = ticket.channelEpoch ∧ builder.winProb = ticket.encodedWinProb ∧
        builder.challenge = some ticket.challenge ∧ builder.signature = ticket.signature := by
  constructor
  · intro built
    refine ⟨inBounds_of_build built, ?_⟩
    unfold build at built
    obtain ⟨amount, given, built⟩ := bind_eq_ok.mp built
    obtain ⟨isWorth, _⟩ := (buildAmount_eq_ok exclusive).mp given
    split_ifs at built
    obtain ⟨counterparty, hasCounterparty, built⟩ := bind_eq_ok.mp built
    obtain ⟨challenge, hasChallenge, built⟩ := bind_eq_ok.mp built
    obtain rfl := Except.ok.inj built
    exact ⟨okOr_eq_ok.mp hasCounterparty, isWorth, rfl, rfl, rfl, okOr_eq_ok.mp hasChallenge, rfl⟩
  · intro held
    obtain ⟨inBounds, counterparty, worth, index, epoch, winProb, challenge, signature⟩ := held
    have amount := (buildAmount_eq_ok exclusive).mpr ⟨worth, inBounds.amount⟩
    unfold build
    rw [amount, ok_bind, index, epoch, if_neg (Nat.not_lt_of_le inBounds.index),
      if_neg (Nat.not_lt_of_le inBounds.channelEpoch), counterparty, challenge, winProb, signature]
    rfl

def bothSet : CoreTypesError :=
  .invalidInputData "either amount or balance must be set but not both"

theorem buildAmount_ne_both {builder : TicketBuilder} (exclusive : builder.Exclusive) :
    builder.buildAmount ≠ .error bothSet := by
  unfold buildAmount bothSet
  cases given : builder.amount with
  | none =>
      cases balance : builder.balance with
      | none => simp
      | some value => by_cases fits : value.amount.toNat < maxTicketAmount <;> simp [fits]
  | some value =>
      rcases exclusive with absent | absent
      · rw [given] at absent
        cases absent
      · by_cases fits : value.toNat < maxTicketAmount <;> simp [absent, fits]

theorem build_ne_both {builder : TicketBuilder} (exclusive : builder.Exclusive) :
    builder.build ≠ .error bothSet := by
  have amountError := buildAmount_ne_both exclusive
  unfold build
  cases given : builder.buildAmount with
  | error cause =>
      rw [given] at amountError
      rw [error_bind]
      exact fun same => amountError (congrArg Except.error (Except.error.inj same))
  | ok amount =>
      unfold bothSet
      cases builder.counterparty <;> cases builder.challenge <;>
        simp only [ok_bind, okOr, error_bind] <;> split_ifs <;> simp

/-- Whatever setters are called, and in whatever order, the ticket has for every field what the
last setter of the field gave, or else what the builder started with; it is built exactly if the
counterparty, an amount and a challenge are there and the numbers are in their bounds.  An
amount and a balance replace one another. -/
theorem ticket_last_written {start : TicketBuilder} (begins : Begins start)
    (calls : List Setter) :
    (∀ ticket, (calls.foldl apply start).build = .ok ticket ↔
      ticket.InBounds ∧
        (counterpartyField.last calls).getD start.counterparty = some ticket.counterparty ∧
        (worthField.last calls).getD start.worth = some ticket.amount.amount ∧
        (indexField.last calls).getD start.index = ticket.index ∧
        (channelEpochField.last calls).getD start.channelEpoch = ticket.channelEpoch ∧
        (winProbField.last calls).getD start.winProb = ticket.encodedWinProb ∧
        (challengeField.last calls).getD start.challenge = some ticket.challenge ∧
        (signatureField.last calls).getD start.signature = ticket.signature) ∧
      (calls.foldl apply start).build ≠ .error bothSet := by
  have exclusive : (calls.foldl apply start).Exclusive :=
    foldl_keeps exclusive_apply begins.exclusive calls
  refine ⟨fun ticket => ?_, build_ne_both exclusive⟩
  rw [build_eq_ok exclusive,
    show (calls.foldl apply start).counterparty = _ from counterpartyField.get_foldl start calls,
    show (calls.foldl apply start).worth = _ from worthField.get_foldl start calls,
    show (calls.foldl apply start).index = _ from indexField.get_foldl start calls,
    show (calls.foldl apply start).channelEpoch = _ from channelEpochField.get_foldl start calls,
    show (calls.foldl apply start).winProb = _ from winProbField.get_foldl start calls,
    show (calls.foldl apply start).challenge = _ from challengeField.get_foldl start calls,
    show (calls.foldl apply start).signature = _ from signatureField.get_foldl start calls]
  rfl

/-- Two setters of the amount: the second one counts, and the ticket is built. -/
theorem ticket_last_written_sample :
    (([.amount 5, .balance ⟨7⟩, .ethChallenge ⟨Address.zero⟩].foldl apply
        (ofTicket ⟨Address.zero, ⟨1⟩, 3, WinningProbability.always, 2, ⟨Address.zero⟩,
          none⟩)).build) =
      .ok ⟨Address.zero, ⟨7⟩, 3, WinningProbability.always, 2, ⟨Address.zero⟩, none⟩ :=
  ((ticket_last_written (.ofTicket _) _).1 _).mpr
    ⟨⟨by decide +kernel, by decide, by decide⟩, rfl, rfl, rfl, rfl, rfl, rfl, rfl⟩

end TicketBuilder

/-! ### Tickets whose signature is taken for granted -/

section

variable {curve : Secp256k1} (engine : EcdsaEngine curve)

/-- Builds a verified ticket with the signature that was set, for a hash that is not checked. -/
def TicketBuilder.buildVerified (builder : TicketBuilder) (hash : Hash) :
    Except CoreTypesError VerifiedTicket :=
  match builder.signature with
  | some signature => do
      let publicKey ← (signature.recoverFromHash engine hash).mapErr CoreTypesError.cryptoError
      let issuer := publicKey.toAddress
      let ticket ← builder.build
      .ok
        { hash := hash
          issuer := issuer
          channelId := generateChannelId issuer ticket.counterparty
          ticket := ticket }
  | none => .error (.invalidInputData "signature is missing")

variable {engine}

theorem TicketBuilder.buildVerified_eq_ok {builder : TicketBuilder} {hash : Hash}
    {verified : VerifiedTicket} :
    builder.buildVerified engine hash = .ok verified ↔
      builder.build = .ok verified.ticket ∧ verified.hash = hash ∧
        verified.channelId = generateChannelId verified.issuer verified.ticket.counterparty ∧
        ∃ signature, builder.signature = some signature ∧
          RecoversTo engine signature hash verified.issuer := by
  unfold buildVerified RecoversTo
  cases present : builder.signature with
  | none => simp
  | some signature =>
      simp only [bind_eq_ok, exceptMapErr_eq_ok, Except.ok.injEq, Option.some.injEq]
      constructor
      · intro made
        obtain ⟨publicKey, recovered, ticket, built, rfl⟩ := made
        exact ⟨built, rfl, rfl, signature, rfl, publicKey, recovered, rfl⟩
      · intro held
        obtain ⟨built, rfl, channel, other, rfl, publicKey, recovered, sameIssuer⟩ := held
        refine ⟨publicKey, recovered, verified.ticket, built, ?_⟩
        cases verified
        simp_all

theorem TicketBuilder.signature_build {builder : TicketBuilder} {ticket : Ticket}
    (built : builder.build = .ok ticket) : ticket.signature = builder.signature := by
  unfold build at built
  obtain ⟨amount, _, built⟩ := bind_eq_ok.mp built
  split_ifs at built
  obtain ⟨counterparty, _, built⟩ := bind_eq_ok.mp built
  obtain ⟨challenge, _, built⟩ := bind_eq_ok.mp built
  obtain rfl := Except.ok.inj built
  rfl

/-- A ticket that is built for an unchecked hash verifies as itself exactly if the hash is its
own one for the domain separator.  From its own values, signature and hash, every verified
ticket is built again. -/
theorem buildVerified_spec :
    (∀ (builder : TicketBuilder) (hash domainSeparator : Hash) (verified : VerifiedTicket),
      builder.buildVerified engine hash = .ok verified →
        (verified.leak.verify engine verified.issuer domainSeparator = .ok verified ↔
          hash = (verified.ticket.getHash verified.issuer domainSeparator).2)) ∧
    ∀ (ticket : Ticket) (issuer : Address) (domainSeparator : Hash) (verified : VerifiedTicket),
      ticket.InBounds → ticket.verify engine issuer domainSeparator = .ok verified →
        ∃ signature, verified.ticket.signature = some signature ∧
          ((TicketBuilder.ofTicket verified.ticket).apply (.signature signature)).buildVerified
            engine verified.hash = .ok verified := by
  constructor
  · intro builder hash domainSeparator verified made
    obtain ⟨built, sameHash, channel, signature, present, recovers⟩ :=
      TicketBuilder.buildVerified_eq_ok.mp made
    have signed := (TicketBuilder.signature_build built).trans present
    constructor
    · intro verifies
      have consistent := Ticket.consistent_of_verify engine verifies
      rw [← sameHash]
      exact consistent.hash
    · intro own
      apply VerifiedTicket.verify_leak
      refine ⟨⟨signature, signed, ?_⟩, sameHash.trans own, channel⟩
      rw [sameHash]
      exact recovers
  · intro ticket issuer domainSeparator verified inBounds verifies
    obtain ⟨⟨signature, present, recovers⟩, rfl⟩ := (Ticket.verify_eq_ok engine).mp verifies
    refine ⟨signature, present, ?_⟩
    rw [TicketBuilder.buildVerified_eq_ok]
    refine ⟨?_, rfl, rfl, signature, rfl, recovers⟩
    rw [TicketBuilder.build_eq_ok (TicketBuilder.exclusive_apply _ _ (Or.inl rfl))]
    exact ⟨inBounds, rfl, rfl, rfl, rfl, rfl, rfl, present.symm⟩

/-- The sample ticket as its recipient verified it, built from its values again. -/
theorem buildVerified_spec_incoming :
    ∃ signature, incomingVerified.ticket.signature = some signature ∧
    ((TicketBuilder.ofTicket incomingVerified.ticket).apply (.signature signature)).buildVerified
      incomingEngine incomingVerified.hash = .ok incomingVerified :=
  buildVerified_spec.2 incomingTicket doubledKey.address Hash.default incomingVerified
    ⟨by decide +kernel, by decide, by decide⟩ verify_incomingTicket

end

/-! ## Channels -/

namespace ChannelBuilder

inductive Setter where
  | source (source : Address)
  | destination (destination : Address)
  | between (source destination : Address)
  | amount (amount : U256)
  | balance (balance : HoprBalance)
  | ticketIndex (ticketIndex : U64)
  | status (status : ChannelStatus)
  | epoch (channelEpoch : U32)

def apply (builder : ChannelBuilder) : Setter → ChannelBuilder
  | .source source => { builder with source := some source }
  | .destination destination => { builder with destination := some destination }
  | .between source destination =>
      { builder with source := some source, destination := some destination }
  | .amount amount => { builder with balance := some ⟨amount⟩ }
  | .balance balance => { builder with balance := some balance }
  | .ticketIndex ticketIndex => { builder with ticketIndex := ticketIndex }
  | .status status => { builder with status := status }
  | .epoch channelEpoch => { builder with channelEpoch := channelEpoch }

def sourceField : Field apply (Option Address) where
  get := source
  written
    | .source value | .between value _ => some (some value)
    | _ => none
  get_apply _ call := by cases call <;> rfl

def destinationField : Field apply (Option Address) where
  get := destination
  written
    | .destination value | .between _ value => some (some value)
    | _ => none
  get_apply _ call := by cases call <;> rfl

def balanceField : Field apply (Option HoprBalance) where
  get := balance
  written
    | .amount value => some (some ⟨value⟩)
    | .balance value => some (some value)
    | _ => none
  get_apply _ call := by cases call <;> rfl

def ticketIndexField : Field apply U64 where
  get := ticketIndex
  written
    | .ticketIndex value => some value
    | _ => none
  get_apply _ call := by cases call <;> rfl

def statusField : Field apply ChannelStatus where
  get := status
  written
    | .status value => some value
    | _ => none
  get_apply _ call := by cases call <;> rfl

def channelEpochField : Field apply U32 where
  get := channelEpoch
  written
    | .epoch value => some value
    | _ => none
  get_apply _ call := by cases call <;> rfl

/-- Two different parties, the id of the parties and numbers within their bounds. -/
structure WellFormed (entry : ChannelEntry) : Prop where
  parties : entry.source ≠ entry.destination
  id : entry.id = generateChannelId entry.source entry.destination
  balance : entry.balance.amount.toNat ≤ maxChannelStake
  ticketIndex : entry.ticketIndex.toNat ≤ TicketBuilder.maxTicketIndex
  channelEpoch : entry.channelEpoch.toNat ≤ TicketBuilder.maxChannelEpoch

theorem build_eq_ok {builder : ChannelBuilder} {entry : ChannelEntry} :
    builder.build = .ok entry ↔
      WellFormed entry ∧ builder.source = some entry.source ∧
        builder.destination = some entry.destination ∧ builder.balance = some entry.balance ∧
        builder.ticketIndex = entry.ticketIndex ∧ builder.status = entry.status ∧
        builder.channelEpoch = entry.channelEpoch := by
  constructor
  · intro built
    obtain ⟨parties, id, stake, index, epoch⟩ := of_build_eq_ok built
    refine ⟨⟨parties, id, stake, index, epoch⟩, ?_⟩
    unfold build at built
    obtain ⟨source, hasSource, built⟩ := bind_eq_ok.mp built
    obtain ⟨destination, hasDestination, built⟩ := bind_eq_ok.mp built
    obtain ⟨balance, hasBalance, built⟩ := bind_eq_ok.mp built
    split_ifs at built
    obtain ⟨balance', inBalance, built⟩ := bind_eq_ok.mp built
    obtain ⟨index', inIndex, built⟩ := bind_eq_ok.mp built
    obtain ⟨epoch', inEpoch, built⟩ := bind_eq_ok.mp built
    obtain ⟨_, rfl⟩ := inRange_eq_ok.mp inBalance
    obtain ⟨_, rfl⟩ := inRange_eq_ok.mp inIndex
    obtain ⟨_, rfl⟩ := inRange_eq_ok.mp inEpoch
    obtain rfl := Except.ok.inj built
    exact ⟨okOr_eq_ok.mp hasSource, okOr_eq_ok.mp hasDestination, okOr_eq_ok.mp hasBalance, rfl,
      rfl, rfl⟩
  · intro held
    obtain ⟨wellFormed, source, destination, balance, index, status, epoch⟩ := held
    unfold build
    rw [source, destination, balance]
    simp only [okOr, ok_bind]
    rw [if_neg wellFormed.parties, inRange_eq_ok.mpr ⟨decide_eq_true wellFormed.balance, rfl⟩,
      ok_bind, index, inRange_eq_ok.mpr ⟨decide_eq_true wellFormed.ticketIndex, rfl⟩, ok_bind,
      epoch, inRange_eq_ok.mpr ⟨decide_eq_true wellFormed.channelEpoch, rfl⟩, ok_bind, status,
      ← wellFormed.id]

/-- Whatever setters are called, and in whatever order, the entry has for every field what the
last setter of the field gave, or else the default; it is built exactly if the parties and a
balance are there, the parties differ and the numbers are in their bounds, and then carries the
id of its parties. -/
theorem channel_last_written (calls : List Setter) (entry : ChannelEntry) :
    (calls.foldl apply {}).build = .ok entry ↔
      WellFormed entry ∧
        (sourceField.last calls).getD none = some entry.source ∧
        (destinationField.last calls).getD none = some entry.destination ∧
        (balanceField.last calls).getD none = some entry.balance ∧
        (ticketIndexField.last calls).getD 0 = entry.ticketIndex ∧
        (statusField.last calls).getD .open = entry.status ∧
        (channelEpochField.last calls).getD 1 = entry.channelEpoch := by
  rw [build_eq_ok,
    show (calls.foldl apply {}).source = _ from sourceField.get_foldl {} calls,
    show (calls.foldl apply {}).destination = _ from destinationField.get_foldl {} calls,
    show (calls.foldl apply {}).balance = _ from balanceField.get_foldl {} calls,
    show (calls.foldl apply {}).ticketIndex = _ from ticketIndexField.get_foldl {} calls,
    show (calls.foldl apply {}).status = _ from statusField.get_foldl {} calls,
    show (calls.foldl apply {}).channelEpoch = _ from channelEpochField.get_foldl {} calls]
  rfl

end ChannelBuilder

end HoprTypes.Internal
