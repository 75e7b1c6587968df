import HoprTypes.Internal.Tickets

/-!
# The wire format of tickets

Every field of a ticket is cut to its own window of the encoding.  The bounds the
builder checks are what keeps the cut from losing anything.
-/

set_option autoImplicit false

namespace HoprTypes.Internal

open BigEndian HoprTypes.Primitive HoprTypes.Crypto

/-! ## Windows -/

theorem toNat_fromBeBytes_padded {bits zeros : Nat} {window : Bytes}
    (fits : 256 ^ window.length ≤ 2 ^ bits) :
    (fromBeBytes bits (List.replicate zeros 0 ++ window)).toNat = ofBE window := by
  have bound : ofBE window < 2 ^ bits := lt_of_lt_of_le (ofBE_lt window) fits
  rw [fromBeBytes, ofBE_replicate_zero_append, BitVec.toNat_ofNat, Nat.mod_eq_of_lt bound]

theorem fromBeBytes_toBE {bits zeros width : Nat} {value : BitVec bits}
    (narrow : value.toNat < 256 ^ width) :
    fromBeBytes bits (List.replicate zeros 0 ++ toBE width value.toNat) = value := by
  apply BitVec.eq_of_toNat_eq
  rw [fromBeBytes, ofBE_replicate_zero_append, ofBE_toBE_of_lt narrow, BitVec.toNat_ofNat,
    Nat.mod_eq_of_lt value.isLt]

theorem toBE_fromBeBytes {bits zeros width : Nat} {window : Bytes}
    (lengthExact : window.length = width) (fits : 256 ^ width ≤ 2 ^ bits) :
    toBE width (fromBeBytes bits (List.replicate zeros 0 ++ window)).toNat = window := by
  rw [toNat_fromBeBytes_padded (lengthExact.symm ▸ fits), toBE_ofBE_of_length lengthExact]

/-! ## The bounds of a ticket -/

/-- The bounds the builder checks. -/
structure Ticket.InBounds (ticket : Ticket) : Prop where
  amount : ticket.amount.amount.toNat < TicketBuilder.maxTicketAmount
  index : ticket.index.toNat ≤ TicketBuilder.maxTicketIndex
  channelEpoch : ticket.channelEpoch.toNat ≤ TicketBuilder.maxChannelEpoch

theorem maxTicketAmount_lt : TicketBuilder.maxTicketAmount < 256 ^ 12 := by decide +kernel

namespace Ticket.InBounds

variable {ticket : Ticket} (inBounds : ticket.InBounds)
include inBounds

theorem amount_lt : ticket.amount.amount.toNat < 256 ^ 12 :=
  lt_trans inBounds.amount maxTicketAmount_lt

theorem index_lt : ticket.index.toNat < 256 ^ 6 := by
  have := inBounds.index
  simp only [TicketBuilder.maxTicketIndex] at this
  omega

theorem channelEpoch_lt : ticket.channelEpoch.toNat < 256 ^ 3 := by
  have := inBounds.channelEpoch
  simp only [TicketBuilder.maxChannelEpoch] at this
  omega

end Ticket.InBounds

namespace TicketBuilder

theorem buildAmount_lt {builder : TicketBuilder} {amount : HoprBalance}
    (built : builder.buildAmount = .ok amount) : amount.amount.toNat < maxTicketAmount := by
  unfold buildAmount at built
  cases given : builder.amount with
  | none =>
      cases balance : builder.balance with
      | none =>
          rw [given, balance] at built
          cases built
      | some balance' =>
          rw [given, balance] at built
          dsimp only at built
          by_cases small : balance'.amount.toNat < maxTicketAmount
          · rw [if_pos small] at built
            rw [← Except.ok.inj built]
            exact small
          · rw [if_neg small] at built
            cases built
  | some given' =>
      cases balance : builder.balance with
      | none =>
          rw [given, balance] at built
          dsimp only at built
          by_cases small : given'.toNat < maxTicketAmount
          · rw [if_pos small] at built
            rw [← Except.ok.inj built]
            exact small
          · rw [if_neg small] at built
            cases built
      | some balance' =>
          rw [given, balance] at built
          cases built

theorem inBounds_of_build {builder : TicketBuilder} {ticket : Ticket}
    (built : builder.build = .ok ticket) : ticket.InBounds := by
  unfold build at built
  obtain ⟨amount, amountBuilt, built⟩ := bind_eq_ok.mp built
  by_cases indexHigh : builder.index.toNat > maxTicketIndex
  · rw [if_pos indexHigh] at built
    cases built
  · rw [if_neg indexHigh] at built
    by_cases epochHigh : builder.channelEpoch.toNat > maxChannelEpoch
    · rw [if_pos epochHigh] at built
      cases built
    · rw [if_neg epochHigh] at built
      obtain ⟨counterparty, _, built⟩ := bind_eq_ok.mp built
      obtain ⟨challenge, _, built⟩ := bind_eq_ok.mp built
      rw [← Except.ok.inj built]
      exact ⟨buildAmount_lt amountBuilt, Nat.le_of_not_lt indexHigh, Nat.le_of_not_lt epochHigh⟩

theorem exists_build_iff (ticket : Ticket) :
    (∃ builder : TicketBuilder, builder.build = .ok ticket) ↔ ticket.InBounds := by
  constructor
  · rintro ⟨builder, built⟩
    exact inBounds_of_build built
  · intro inBounds
    let builder : TicketBuilder :=
      { counterparty := some ticket.counterparty
        balance := some ticket.amount
        index := ticket.index
        channelEpoch := ticket.channelEpoch
        winProb := ticket.encodedWinProb
        challenge := some ticket.challenge
        signature := ticket.signature }
    refine ⟨builder, ?_⟩
    have amountBuilt : builder.buildAmount = .ok ticket.amount := if_pos inBounds.amount
    unfold build
    rw [amountBuilt, ok_bind, if_neg (Nat.not_lt_of_le inBounds.index),
      if_neg (Nat.not_lt_of_le inBounds.channelEpoch)]
    rfl

end TicketBuilder

/-! ## The fields of a wire form -/

namespace Ticket

theorem toList_encodeTail (ticket : Ticket) : ticket.encodeTailWithoutSignature.toList =
    toBE 12 ticket.amount.amount.toNat ++ (toBE 6 ticket.index.toNat ++
      (toBE 3 ticket.channelEpoch.toNat ++
        (ticket.encodedWinProb.toList ++ ticket.challenge.address.toList))) := by
  have amount : (toBeBytes 32 ticket.amount.amount).drop 20 = toBE 12 ticket.amount.amount.toNat :=
    drop_toBE 20 12 _
  have index : (toBeBytes 8 ticket.index).drop 2 = toBE 6 ticket.index.toNat := drop_toBE 2 6 _
  have epoch : (toBeBytes 4 ticket.channelEpoch).drop 1 = toBE 3 ticket.channelEpoch.toNat :=
    drop_toBE 1 3 _
  simp only [encodeTailWithoutSignature, amount, index, epoch]

def ofWindows (value : Bytes) (lengthExact : value.length = 132) : Ticket where
  counterparty := ⟨slice value 0 20, length_slice (by omega)⟩
  amount := ⟨fromBeBytes 256 (List.replicate 20 0 ++ slice value 20 12)⟩
  index := fromBeBytes 64 (List.replicate 2 0 ++ slice value 32 6)
  channelEpoch := fromBeBytes 32 (List.replicate 1 0 ++ slice value 38 3)
  encodedWinProb := ⟨slice value 41 7, length_slice (by omega)⟩
  challenge := ⟨⟨slice value 48 20, length_slice (by omega)⟩⟩
  signature := some ⟨⟨slice value 68 64, length_slice (by omega)⟩⟩

section

variable {value : Bytes} (lengthExact : value.length = 132)

theorem amount_ofWindows :
    (ofWindows value lengthExact).amount.amount.toNat = ofBE (slice value 20 12) := by
  have window : (slice value 20 12).length = 12 := length_slice (by omega)
  exact toNat_fromBeBytes_padded (by rw [window]; decide +kernel)

theorem index_ofWindows : (ofWindows value lengthExact).index.toNat < 256 ^ 6 := by
  have window : (slice value 32 6).length = 6 := length_slice (by omega)
  have read : (ofWindows value lengthExact).index.toNat = ofBE (slice value 32 6) :=
    toNat_fromBeBytes_padded (by rw [window]; decide +kernel)
  have bound := ofBE_lt (slice value 32 6)
  rw [window] at bound
  rw [read]
  exact bound

theorem channelEpoch_ofWindows : (ofWindows value lengthExact).channelEpoch.toNat < 256 ^ 3 := by
  have window : (slice value 38 3).length = 3 := length_slice (by omega)
  have read : (ofWindows value lengthExact).channelEpoch.toNat = ofBE (slice value 38 3) :=
    toNat_fromBeBytes_padded (by rw [window]; decide +kernel)
  have bound := ofBE_lt (slice value 38 3)
  rw [window] at bound
  rw [read]
  exact bound

/-- The index and epoch windows cannot hold a value above the bounds, so only the amount
decides whether a string of the right length is accepted. -/
theorem inBounds_ofWindows :
    (ofWindows value lengthExact).InBounds ↔
      ofBE (slice value 20 12) < TicketBuilder.maxTicketAmount := by
  constructor
  · intro inBounds
    rw [← amount_ofWindows lengthExact]
    exact inBounds.amount
  · intro small
    have index := index_ofWindows lengthExact
    have epoch := channelEpoch_ofWindows lengthExact
    refine ⟨?_, ?_, ?_⟩
    · rw [amount_ofWindows lengthExact]
      exact small
    · simp only [TicketBuilder.maxTicketIndex]
      omega
    · simp only [TicketBuilder.maxChannelEpoch]
      omega

theorem tryFrom_of_length :
    tryFrom value = if ofBE (slice value 20 12) < TicketBuilder.maxTicketAmount
      then .ok (ofWindows value lengthExact)
      else .error (.parseError
        "ticket build failed: tickets may not have more than 1% of total supply") := by
  have sliceOk : ∀ (what : String) (offset size : Nat) (fits : offset + size ≤ value.length),
      tryFromSlice size what (slice value offset size) = .ok ⟨_, length_slice fits⟩ := by
    intro what offset size fits
    exact tryFromSlice_eq_ok.mpr rfl
  have amount := amount_ofWindows lengthExact
  have index := index_ofWindows lengthExact
  have epoch := channelEpoch_ofWindows lengthExact
  have indexFits : ¬ (fromBeBytes 64 (List.replicate 2 0 ++ slice value 32 6)).toNat >
      TicketBuilder.maxTicketIndex := by
    simp only [ofWindows, TicketBuilder.maxTicketIndex] at index ⊢
    omega
  have epochFits : ¬ (fromBeBytes 32 (List.replicate 1 0 ++ slice value 38 3)).toNat >
      TicketBuilder.maxChannelEpoch := by
    simp only [ofWindows, TicketBuilder.maxChannelEpoch] at epoch ⊢
    omega
  simp only [ofWindows] at amount
  have sizeExact : value.length = ticketSize := lengthExact
  unfold tryFrom
  rw [if_pos sizeExact]
  simp only [Address.tryFrom, WinningProbability.tryFrom, EthereumChallenge.tryFrom,
    ChainSignature.tryFrom, Address.size, WinningProbability.size, EthereumChallenge.size,
    ChainSignature.size, Nat.reduceAdd]
  rw [sliceOk "Address" 0 20 (by omega), sliceOk "WinningProbability" 41 7 (by omega),
    sliceOk "Address" 48 20 (by omega), sliceOk "Signature" 68 64 (by omega)]
  simp only [ok_bind, Except.map, TicketBuilder.build, TicketBuilder.buildAmount, indexFits,
    epochFits, if_false, okOr, amount]
  by_cases small : ofBE (slice value 20 12) < TicketBuilder.maxTicketAmount
  · simp only [if_pos small, ok_bind]
    rfl
  · simp only [if_neg small, error_bind]
    rfl

end

/-! ## Round trips -/

def wire (ticket : Ticket) (signature : ChainSignature) : Bytes :=
  ticket.counterparty.toList ++ (toBE 12 ticket.amount.amount.toNat ++
    (toBE 6 ticket.index.toNat ++ (toBE 3 ticket.channelEpoch.toNat ++
      (ticket.encodedWinProb.toList ++ (ticket.challenge.address.toList ++
        signature.bytes.toList)))))

@[simp] theorem length_wire (ticket : Ticket) (signature : ChainSignature) :
    (ticket.wire signature).length = 132 := by
  simp [wire]

theorem intoEncoded_eq {ε : Type} {ticket : Ticket} {signature : ChainSignature}
    (signed : ticket.signature = some signature) :
    (ticket.intoEncoded : Outcome ε (FixedBytes 132)) =
      .ok ⟨ticket.wire signature, length_wire ticket signature⟩ := by
  have bytes : ticket.encodeForTransfer.toList ++ signature.bytes.toList =
      ticket.wire signature := by
    simp only [encodeForTransfer, toList_encodeTail, wire, List.append_assoc]
  unfold intoEncoded
  rw [signed]
  simp only [bytes]

section

variable (ticket : Ticket) (signature : ChainSignature)

theorem counterparty_wire : slice (ticket.wire signature) 0 20 = ticket.counterparty.toList :=
  @slice_append [] _ _ 0 20 rfl ticket.counterparty.length_toList

theorem amount_wire :
    slice (ticket.wire signature) 20 12 = toBE 12 ticket.amount.amount.toNat :=
  slice_append ticket.counterparty.length_toList (length_toBE 12 _)

theorem index_wire : slice (ticket.wire signature) 32 6 = toBE 6 ticket.index.toNat := by
  have front : (ticket.counterparty.toList ++ toBE 12 ticket.amount.amount.toNat).length = 32 := by
    simp
  rw [wire, ← List.append_assoc]
  exact slice_append front (length_toBE 6 _)

theorem channelEpoch_wire :
    slice (ticket.wire signature) 38 3 = toBE 3 ticket.channelEpoch.toNat := by
  have front : ((ticket.counterparty.toList ++ toBE 12 ticket.amount.amount.toNat) ++
      toBE 6 ticket.index.toNat).length = 38 := by
    simp
  rw [wire, ← List.append_assoc, ← List.append_assoc]
  exact slice_append front (length_toBE 3 _)

theorem encodedWinProb_wire :
    slice (ticket.wire signature) 41 7 = ticket.encodedWinProb.toList := by
  have front : (((ticket.counterparty.toList ++ toBE 12 ticket.amount.amount.toNat) ++
      toBE 6 ticket.index.toNat) ++ toBE 3 ticket.channelEpoch.toNat).length = 41 := by
    simp
  rw [wire, ← List.append_assoc, ← List.append_assoc, ← List.append_assoc]
  exact slice_append front ticket.encodedWinProb.length_toList

theorem challenge_wire :
    slice (ticket.wire signature) 48 20 = ticket.challenge.address.toList := by
  have front : ((((ticket.counterparty.toList ++ toBE 12 ticket.amount.amount.toNat) ++
      toBE 6 ticket.index.toNat) ++ toBE 3 ticket.channelEpoch.toNat) ++
        ticket.encodedWinProb.toList).length = 48 := by
    simp
  rw [wire, ← List.append_assoc, ← List.append_assoc, ← List.append_assoc, ← List.append_assoc]
  exact slice_append front ticket.challenge.address.length_toList

theorem signature_wire : slice (ticket.wire signature) 68 64 = signature.bytes.toList := by
  have behind : (ticket.wire signature).drop 68 = signature.bytes.toList := by
    have split : ticket.wire signature =
        (ticket.counterparty.toList ++ (toBE 12 ticket.amount.amount.toNat ++
          (toBE 6 ticket.index.toNat ++ (toBE 3 ticket.channelEpoch.toNat ++
            (ticket.encodedWinProb.toList ++ ticket.challenge.address.toList))))) ++
          signature.bytes.toList := by
      simp only [wire, List.append_assoc]
    rw [split]
    exact List.drop_left' (by simp)
  rw [slice, behind, List.take_of_length_le (by simp)]

end

/-- Reading the windows of a wire form gives the ticket back, if nothing was cut off. -/
theorem ofWindows_wire {ticket : Ticket} {signature : ChainSignature}
    (signed : ticket.signature = some signature) (inBounds : ticket.InBounds) :
    ofWindows (ticket.wire signature) (length_wire ticket signature) = ticket := by
  have amount : fromBeBytes 256 (List.replicate 20 0 ++ toBE 12 ticket.amount.amount.toNat) =
      ticket.amount.amount := fromBeBytes_toBE inBounds.amount_lt
  have index : fromBeBytes 64 (List.replicate 2 0 ++ toBE 6 ticket.index.toNat) = ticket.index :=
    fromBeBytes_toBE inBounds.index_lt
  have epoch : fromBeBytes 32 (List.replicate 1 0 ++ toBE 3 ticket.channelEpoch.toNat) =
      ticket.channelEpoch := fromBeBytes_toBE inBounds.channelEpoch_lt
  unfold ofWindows
  simp only [counterparty_wire, amount_wire, index_wire, channelEpoch_wire, encodedWinProb_wire,
    challenge_wire, signature_wire, amount, index, epoch]
  cases ticket
  simp_all

theorem wire_ofWindows {value : Bytes} (lengthExact : value.length = 132)
    {signature : ChainSignature}
    (signed : (ofWindows value lengthExact).signature = some signature) :
    (ofWindows value lengthExact).wire signature = value := by
  have amount : toBE 12 (ofWindows value lengthExact).amount.amount.toNat = slice value 20 12 :=
    toBE_fromBeBytes (length_slice (by omega)) (by decide +kernel)
  have index : toBE 6 (ofWindows value lengthExact).index.toNat = slice value 32 6 :=
    toBE_fromBeBytes (length_slice (by omega)) (by decide +kernel)
  have epoch : toBE 3 (ofWindows value lengthExact).channelEpoch.toNat = slice value 38 3 :=
    toBE_fromBeBytes (length_slice (by omega)) (by decide +kernel)
  have signatureBytes : signature.bytes.toList = value.drop 68 := by
    have window : signature.bytes.toList = slice value 68 64 := by
      rw [← Option.some.inj signed]
    rw [window, slice, List.take_of_length_le]
    rw [List.length_drop]
    omega
  rw [wire, amount, index, epoch, signatureBytes]
  calc slice value 0 20 ++ (slice value 20 12 ++ (slice value 32 6 ++ (slice value 38 3 ++
        (slice value 41 7 ++ (slice value 48 20 ++ value.drop 68)))))
      = slice value 0 20 ++ (slice value 20 12 ++ (slice value 32 6 ++ (slice value 38 3 ++
          (slice value 41 7 ++ value.drop 48)))) := by rw [slice_append_drop value 48 20]
    _ = slice value 0 20 ++ (slice value 20 12 ++ (slice value 32 6 ++ (slice value 38 3 ++
          value.drop 41))) := by rw [slice_append_drop value 41 7]
    _ = slice value 0 20 ++ (slice value 20 12 ++ (slice value 32 6 ++ value.drop 38)) := by
        rw [slice_append_drop value 38 3]
    _ = slice value 0 20 ++ (slice value 20 12 ++ value.drop 32) := by
        rw [slice_append_drop value 32 6]
    _ = slice value 0 20 ++ value.drop 20 := by rw [slice_append_drop value 20 12]
    _ = value := by rw [slice_append_drop value 0 20, List.drop_zero]

theorem tryFrom_eq_ok {value : Bytes} {ticket : Ticket} :
    tryFrom value = .ok ticket ↔
      ∃ lengthExact : value.length = 132,
        ofBE (slice value 20 12) < TicketBuilder.maxTicketAmount ∧
          ofWindows value lengthExact = ticket := by
  constructor
  · intro accepted
    by_cases lengthExact : value.length = 132
    · rw [tryFrom_of_length lengthExact] at accepted
      by_cases small : ofBE (slice value 20 12) < TicketBuilder.maxTicketAmount
      · rw [if_pos small] at accepted
        exact ⟨lengthExact, small, Except.ok.inj accepted⟩
      · rw [if_neg small] at accepted
        cases accepted
    · have sizeWrong : ¬ value.length = ticketSize := lengthExact
      rw [tryFrom, if_neg sizeWrong] at accepted
      cases accepted
  · rintro ⟨lengthExact, small, rfl⟩
    rw [tryFrom_of_length lengthExact, if_pos small]

/-- The wire format is exact: a signed ticket of the builder survives it, an accepted string is
the encoding of its ticket, and a string is accepted exactly when it has the size of a ticket
and its amount is below the maximum. -/
theorem wire_format_exact :
    (∀ (builder : TicketBuilder) (ticket : Ticket) (signature : ChainSignature),
      builder.build = .ok ticket → ticket.signature = some signature →
        ∃ encoded, (ticket.intoEncoded : Outcome GeneralError (FixedBytes 132)) = .ok encoded ∧
          tryFrom encoded.toList = .ok ticket) ∧
    (∀ (value : Bytes) (ticket : Ticket), tryFrom value = .ok ticket →
      ∃ encoded, (ticket.intoEncoded : Outcome GeneralError (FixedBytes 132)) = .ok encoded ∧
        encoded.toList = value) ∧
    (∀ value : Bytes, (∃ ticket, tryFrom value = .ok ticket) ↔
      value.length = ticketSize ∧
        ofBE (slice value 20 12) < TicketBuilder.maxTicketAmount) := by
  refine ⟨?_, ?_, ?_⟩
  · intro builder ticket signature built signed
    have inBounds := TicketBuilder.inBounds_of_build built
    refine ⟨_, intoEncoded_eq signed, tryFrom_eq_ok.mpr ⟨length_wire ticket signature, ?_,
      ofWindows_wire signed inBounds⟩⟩
    rw [amount_wire, ofBE_toBE_of_lt inBounds.amount_lt]
    exact inBounds.amount
  · intro value ticket accepted
    obtain ⟨lengthExact, small, rfl⟩ := tryFrom_eq_ok.mp accepted
    exact ⟨_, intoEncoded_eq rfl, wire_ofWindows lengthExact rfl⟩
  · intro value
    constructor
    · rintro ⟨ticket, accepted⟩
      obtain ⟨lengthExact, small, _⟩ := tryFrom_eq_ok.mp accepted
      exact ⟨lengthExact, small⟩
    · rintro ⟨lengthExact, small⟩
      exact ⟨_, tryFrom_eq_ok.mpr ⟨lengthExact, small, rfl⟩⟩

/-! ## The signed message -/

theorem encodeForSigning_injective {left right : Ticket} {leftIssuer rightIssuer : Address}
    (leftBounds : left.InBounds) (rightBounds : right.InBounds)
    (same : (left.encodeForSigning leftIssuer).2 = (right.encodeForSigning rightIssuer).2) :
    (left.encodeForSigning leftIssuer).1 = (right.encodeForSigning rightIssuer).1 ∧
      left.amount = right.amount ∧ left.index = right.index ∧
      left.channelEpoch = right.channelEpoch ∧ left.encodedWinProb = right.encodedWinProb ∧
      left.challenge = right.challenge := by
  have bytes := congrArg FixedBytes.toList same
  simp only [encodeForSigning, toList_encodeTail] at bytes
  obtain ⟨channel, bytes⟩ := List.append_inj bytes (by simp)
  obtain ⟨amount, bytes⟩ := List.append_inj bytes (by simp)
  obtain ⟨index, bytes⟩ := List.append_inj bytes (by simp)
  obtain ⟨epoch, bytes⟩ := List.append_inj bytes (by simp)
  obtain ⟨winProb, challenge⟩ := List.append_inj bytes (by simp)
  have sameAmount := toBE_injective leftBounds.amount_lt rightBounds.amount_lt amount
  have sameIndex := toBE_injective leftBounds.index_lt rightBounds.index_lt index
  have sameEpoch := toBE_injective leftBounds.channelEpoch_lt rightBounds.channelEpoch_lt epoch
  refine ⟨FixedBytes.ext channel, ?_, BitVec.eq_of_toNat_eq sameIndex,
    BitVec.eq_of_toNat_eq sameEpoch, FixedBytes.ext winProb, ?_⟩
  · have amounts : left.amount.amount = right.amount.amount := BitVec.eq_of_toNat_eq sameAmount
    cases leftAmount : left.amount
    cases rightAmount : right.amount
    simp_all
  · have addresses : left.challenge.address = right.challenge.address := FixedBytes.ext challenge
    cases leftChallenge : left.challenge
    cases rightChallenge : right.challenge
    simp_all

end Ticket

end HoprTypes.Internal
