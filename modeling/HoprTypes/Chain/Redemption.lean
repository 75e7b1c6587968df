import HoprTypes.Chain.Messages
import HoprTypes.Chain.StaticEncoding
import HoprTypes.Internal.TicketCodec
import HoprTypes.Internal.TicketMachine

/-!
# Redemption of tickets

Both kinds of generators pass the same ticket and VRF parameters to the channels
contract, and the values of the ticket are those that its issuer signed.
-/

set_option autoImplicit false

namespace HoprTypes.Chain

open BigEndian Abi HoprTypes.Primitive HoprTypes.Crypto HoprTypes.Internal StaticBased

/-! ## Words of integers -/

theorem toNat_fromBeBytes {bits : Nat} {bytes : Bytes} (fits : 256 ^ bytes.length ≤ 2 ^ bits) :
    (fromBeBytes bits bytes).toNat = ofBE bytes := by
  have bound : ofBE bytes < 2 ^ bits := lt_of_lt_of_le (ofBE_lt bytes) fits
  rw [fromBeBytes, BitVec.toNat_ofNat, Nat.mod_eq_of_lt bound]

theorem rightAlign32_eq {bits : Nat} {data : Bytes} (fits : 256 ^ data.length ≤ 2 ^ bits) :
    rightAlign32 data = beBytes 32 (fromBeBytes bits data).toNat := by
  rw [rightAlign32, toNat_fromBeBytes fits]

theorem rightAlign32_array (value : FixedBytes 32) :
    rightAlign32 value.toList = toBeWord (fromBeBytes 256 value.toList) := by
  have fits : 256 ^ value.toList.length ≤ 2 ^ 256 := by
    rw [value.length_toList]
    norm_num
  exact rightAlign32_eq fits

theorem truncatedWord_eq {bits low : Nat} (high : Nat) (exact : 256 ^ low = 2 ^ bits) {wide : Nat}
    (value : BitVec wide) :
    truncatedWord (toBE (high + low) value.toNat) low =
      beBytes 32 (BitVec.setWidth bits value).toNat := by
  ext1
  rw [toList_truncatedWord, BitVec.toNat_setWidth, ← exact, toList_beBytes]

theorem fromBeSlice_eq {bits low : Nat} (high : Nat) (exact : 256 ^ low = 2 ^ bits) {wide : Nat}
    (value : BitVec wide) :
    BindingsBased.fromBeSlice bits ((toBE (high + low) value.toNat).drop high) =
      BitVec.setWidth bits value := by
  apply BitVec.eq_of_toNat_eq
  rw [toNat_fromBeSlice_drop value.toNat exact, BitVec.toNat_setWidth, exact]

theorem fromBeSlice_toBe32 (value : U256) :
    BindingsBased.fromBeSlice 256 (BindingsBased.toBe32 value) = value := by
  have fits : value.toNat < 256 ^ 32 := by
    have bound := value.isLt
    norm_num at bound ⊢
    exact bound
  apply BitVec.eq_of_toNat_eq
  rw [BindingsBased.toBe32, toBeBytes, toNat_fromBeBytes (by rw [length_toBE]; norm_num),
    ofBE_toBE_of_lt fits]

/-! ## The ticket -/

def ticketWords (ticket : Contracts.RedeemableTicket) : List Word :=
  [ticket.data.channelId, beBytes 32 ticket.data.amount.toNat,
    beBytes 32 ticket.data.ticketIndex.toNat, beBytes 32 ticket.data.epoch.toNat,
    beBytes 32 ticket.data.winProb.toNat, ticket.signature.r, ticket.signature.vs,
    toBeWord ticket.porSecret]

def half (bytes : FixedBytes 64) (offset : Nat) (inside : offset + 32 ≤ 64) : Word :=
  ⟨slice bytes.toList offset 32, length_slice (by rw [bytes.length_toList]; exact inside)⟩

theorem rightAlign32_slice (bytes : FixedBytes 64) {offset : Nat} (inside : offset + 32 ≤ 64) :
    rightAlign32 (slice bytes.toList offset 32) = half bytes offset inside := by
  have aligned := rightAlign32_toList (half bytes offset inside)
  rw [half] at aligned ⊢
  exact aligned

theorem split64_eq (bytes : FixedBytes 64) :
    split64 bytes = (half bytes 0 (by decide), half bytes 32 (by decide)) := by
  rw [split64, rightAlign32_slice bytes (by decide), rightAlign32_slice bytes (by decide)]

section

variable {ackedTicket : Internal.RedeemableTicket}

theorem redeemableTicketWords_eq {signature : ChainSignature}
    (signed : ackedTicket.ticket.ticket.signature = some signature) :
    redeemableTicketWords ackedTicket =
      .ok (ticketWords (onChainTicket ackedTicket signature)) := by
  have amount := truncatedWord_eq 20 (show 256 ^ 12 = 2 ^ 96 by norm_num)
    ackedTicket.ticket.ticket.amount.amount
  have index := truncatedWord_eq 2 (show 256 ^ 6 = 2 ^ 48 by norm_num)
    ackedTicket.ticket.ticket.index
  have epoch := truncatedWord_eq 1 (show 256 ^ 3 = 2 ^ 24 by norm_num)
    ackedTicket.ticket.ticket.channelEpoch
  have winProb : rightAlign32 ackedTicket.ticket.ticket.encodedWinProb.toList = _ :=
    @rightAlign32_eq 56 _ (by rw [FixedBytes.length_toList]; norm_num)
  have porSecret := rightAlign32_array ackedTicket.response.bytes
  unfold redeemableTicketWords
  simp only [signed, okOr, tryFromSlice_toList, Except.mapErr, ok_bind, split64_eq]
  rw [toBeBytes, toBeBytes, toBeBytes, amount, index, epoch, winProb, porSecret]
  rfl

theorem convertAcknowledgedTicket_eq {signature : ChainSignature}
    (signed : ackedTicket.ticket.ticket.signature = some signature) :
    BindingsBased.convertAcknowledgedTicket ackedTicket =
      .ok (onChainTicket ackedTicket signature) := by
  have amount := fromBeSlice_eq 20 (show 256 ^ 12 = 2 ^ 96 by norm_num)
    ackedTicket.ticket.ticket.amount.amount
  have index := fromBeSlice_eq 2 (show 256 ^ 6 = 2 ^ 48 by norm_num)
    ackedTicket.ticket.ticket.index
  have epoch := fromBeSlice_eq 1 (show 256 ^ 3 = 2 ^ 24 by norm_num)
    ackedTicket.ticket.ticket.channelEpoch
  unfold BindingsBased.convertAcknowledgedTicket
  simp only [signed, Nat.reduceSub]
  rw [toBeBytes, toBeBytes, toBeBytes, amount, index, epoch]
  rfl

theorem redeem_unsigned (unsigned : ackedTicket.ticket.ticket.signature = none) :
    redeemableTicketWords ackedTicket =
        .error (.invalidArguments "Acknowledged ticket must be signed") ∧
      BindingsBased.convertAcknowledgedTicket ackedTicket =
        .error (.invalidArguments "Acknowledged ticket must be signed") := by
  constructor
  · rw [redeemableTicketWords, unsigned]
    rfl
  · rw [BindingsBased.convertAcknowledgedTicket, unsigned]

end

theorem wordBytes_ticketWords (ticket : Contracts.RedeemableTicket) :
    wordBytes (ticketWords ticket) = encode Contracts.redeemableTicketTy ticket.values := by
  have data : encode Contracts.ticketDataTy ticket.values.1 =
      encodeParts (wordParts [ticket.data.channelId, beBytes 32 ticket.data.amount.toNat,
        beBytes 32 ticket.data.ticketIndex.toNat, beBytes 32 ticket.data.epoch.toNat,
        beBytes 32 ticket.data.winProb.toNat]) := by
    simp only [wordParts, List.map_cons, List.map_nil, toList_fixedBytes32 ticket.data.channelId]
    rfl
  have signature : encode Contracts.compactSignatureTy ticket.values.2.1 =
      encodeParts (wordParts [ticket.signature.r, ticket.signature.vs]) := by
    simp only [wordParts, List.map_cons, List.map_nil, toList_fixedBytes32 ticket.signature.r,
      toList_fixedBytes32 ticket.signature.vs]
    rfl
  have whole : encode Contracts.redeemableTicketTy ticket.values =
      encodeParts [Abi.Part.mk false (encode Contracts.ticketDataTy ticket.values.1),
        Abi.Part.mk false (encode Contracts.compactSignatureTy ticket.values.2.1),
        Abi.Part.mk false (toBeWord ticket.porSecret).toList] := rfl
  rw [whole, data, signature, encodeParts_of_static (static_wordParts _), bodies_wordParts,
    encodeParts_of_static (static_wordParts _), bodies_wordParts]
  simp [encodeParts, heads, tails, ticketWords, wordBytes]

/-! ## The VRF parameters -/

def vrfWords (params : Contracts.VRFParameters) : List Word :=
  [params.vx, params.vy, params.s, params.h, params.sBx, params.sBy, params.hVx, params.hVy,
    params.ax, params.ay, params.sGx, params.sGy, params.hAx, params.hAy].map toBeWord

theorem wordBytes_vrfWords (params : Contracts.VRFParameters) :
    wordBytes (vrfWords params) = encode Contracts.vrfParametersTy params.values := by
  have whole : encode Contracts.vrfParametersTy params.values =
      encodeParts (wordParts (vrfWords params)) := rfl
  rw [whole, encodeParts_of_static (static_wordParts _), bodies_wordParts]

theorem rightAlign32_coordinate {point : Bytes} (size : point.length = 65) {offset : Nat}
    (inside : offset + 32 ≤ 65) :
    rightAlign32 (slice point offset 32) = toBeWord (fromBeBytes 256 (slice point offset 32)) := by
  have length : (slice point offset 32).length = 32 := length_slice (by omega)
  have fits : 256 ^ (slice point offset 32).length ≤ 2 ^ 256 := by
    rw [length]
    norm_num
  exact rightAlign32_eq fits

theorem pointXyWords_eq {ε : Type} {point : Bytes} (size : point.length = 65) :
    (pointXyWords point : Outcome ε (Word × Word)) =
      .ok (toBeWord (pointX point), toBeWord (pointY point)) := by
  rw [pointXyWords, indexRange_of_le (by omega), indexRange_of_le (by omega)]
  simp only [ok_bind, Nat.reduceSub]
  rw [rightAlign32_coordinate size (by decide), rightAlign32_coordinate size (by decide)]
  rfl

theorem coordinate_eq {ε : Type} {point : Bytes} (size : point.length = 65) :
    (BindingsBased.coordinate point 1 33 : Outcome ε U256) = .ok (pointX point) ∧
      (BindingsBased.coordinate point 33 65 : Outcome ε U256) = .ok (pointY point) := by
  constructor
  · rw [BindingsBased.coordinate, indexRange_of_le (by omega)]
    rfl
  · rw [BindingsBased.coordinate, indexRange_of_le (by omega)]
    rfl

section

variable {curve : Secp256k1} {ackedTicket : Internal.RedeemableTicket} {me : Address}
  (witnesses : VrfWitnesses curve ackedTicket me)
include witnesses

theorem vrfParametersWords_eq {sB : Bytes}
    (derived : ackedTicket.vrfParams.getSBWitness curve me ackedTicket.ticket.hash
      ackedTicket.channelDst.toList = .ok sB) :
    vrfParametersWords curve ackedTicket me =
      .ok (vrfWords (onChainVrf curve ackedTicket.vrfParams sB)) := by
  have sBSize : sB.length = 65 := by
    obtain ⟨point, found, size⟩ := witnesses.sB
    rw [derived] at found
    rw [Except.ok.inj found]
    exact size
  have s := rightAlign32_array (Scalar.toBytes ackedTicket.vrfParams.s)
  have h := rightAlign32_array (Scalar.toBytes ackedTicket.vrfParams.h)
  unfold vrfParametersWords
  simp only [pointXyWords_eq witnesses.V, pointXyWords_eq witnesses.A, pointXyWords_eq witnesses.hV,
    pointXyWords_eq witnesses.hA, pointXyWords_eq witnesses.sG, tryFromSlice_toList,
    Except.mapErr, Outcome.lift, derived, pointXyWords_eq sBSize, ok_bind, s, h]
  rfl

theorem convertVrfParameters_eq {ε : Type} {sB : Bytes}
    (derived : ackedTicket.vrfParams.getSBWitness curve me ackedTicket.ticket.hash
      ackedTicket.channelDst.toList = .ok sB) :
    (BindingsBased.convertVrfParameters curve ackedTicket.vrfParams me ackedTicket.ticket.hash
      ackedTicket.channelDst : Outcome ε Contracts.VRFParameters) =
      .ok (onChainVrf curve ackedTicket.vrfParams sB) := by
  have sBSize : sB.length = 65 := by
    obtain ⟨point, found, size⟩ := witnesses.sB
    rw [derived] at found
    rw [Except.ok.inj found]
    exact size
  unfold BindingsBased.convertVrfParameters
  simp only [derived, Outcome.expect, ok_bind, coordinate_eq witnesses.V, coordinate_eq witnesses.A,
    coordinate_eq witnesses.hV, coordinate_eq witnesses.hA, coordinate_eq witnesses.sG,
    coordinate_eq sBSize]
  rfl

end

theorem length_of_coordinate {ε : Type} {point : AffinePoint} {y : U256}
    (read : (BindingsBased.coordinate (point.toSec1Point false) 33 65 : Outcome ε U256) = .ok y) :
    (point.toSec1Point false).length = 65 := by
  cases point with
  | identity => cases read
  | affine x y onCurve => simp [AffinePoint.toSec1Point]

/-- The conversion of VRF parameters only succeeds with all witnesses. -/
theorem vrfWitnesses_of_convert {ε : Type} {curve : Secp256k1}
    {ackedTicket : Internal.RedeemableTicket} {me : Address} {params : Contracts.VRFParameters}
    (converted : (BindingsBased.convertVrfParameters curve ackedTicket.vrfParams me
      ackedTicket.ticket.hash ackedTicket.channelDst : Outcome ε Contracts.VRFParameters) =
        .ok params) :
    VrfWitnesses curve ackedTicket me := by
  unfold BindingsBased.convertVrfParameters at converted
  obtain ⟨sB, derived, converted⟩ := bind_eq_ok.mp converted
  obtain ⟨_, _, converted⟩ := bind_eq_ok.mp converted
  obtain ⟨_, V, converted⟩ := bind_eq_ok.mp converted
  obtain ⟨_, _, converted⟩ := bind_eq_ok.mp converted
  obtain ⟨_, sBy, converted⟩ := bind_eq_ok.mp converted
  obtain ⟨_, _, converted⟩ := bind_eq_ok.mp converted
  obtain ⟨_, hV, converted⟩ := bind_eq_ok.mp converted
  obtain ⟨_, _, converted⟩ := bind_eq_ok.mp converted
  obtain ⟨_, A, converted⟩ := bind_eq_ok.mp converted
  obtain ⟨_, _, converted⟩ := bind_eq_ok.mp converted
  obtain ⟨_, sG, converted⟩ := bind_eq_ok.mp converted
  obtain ⟨_, _, converted⟩ := bind_eq_ok.mp converted
  obtain ⟨_, hA, _⟩ := bind_eq_ok.mp converted
  have witness := expect_eq_ok.mp derived
  obtain ⟨payload, _, encoded⟩ := bind_eq_ok.mp witness
  have point := Except.ok.inj encoded
  rw [← point] at sBy
  refine ⟨length_of_coordinate V, length_of_coordinate A, length_of_coordinate hV,
    length_of_coordinate hA, length_of_coordinate sG, sB, witness, ?_⟩
  rw [← point]
  exact length_of_coordinate sBy

/-! ## What is signed is what is redeemed -/

section

variable {curve : Secp256k1} (engine : EcdsaEngine curve)

def CertifiedFrom (ticket : Ticket) (verified : VerifiedTicket) : Prop :=
  (∃ keypair domainSeparator, (ticket.sign engine keypair domainSeparator :
      Outcome CoreTypesError VerifiedTicket) = .ok verified) ∨
    ∃ issuer domainSeparator, ticket.verify engine issuer domainSeparator = .ok verified

theorem certifiedFrom_spec {ticket : Ticket} {verified : VerifiedTicket}
    (certified : CertifiedFrom engine ticket verified) :
    ∃ signature, verified.ticket = { ticket with signature := some signature } ∧
      verified.channelId = generateChannelId verified.issuer ticket.counterparty := by
  rcases certified with ⟨keypair, domainSeparator, signed⟩ | ⟨issuer, domainSeparator, accepted⟩
  · unfold Ticket.sign at signed
    obtain ⟨signature, _, built⟩ := bind_eq_ok.mp signed
    rw [← Except.ok.inj built]
    exact ⟨signature, rfl, rfl⟩
  · obtain ⟨⟨signature, present, _⟩, built⟩ := (Ticket.verify_eq_ok engine).mp accepted
    rw [built]
    refine ⟨signature, ?_, rfl⟩
    cases ticket
    simp_all

end

def signedWidths : List Nat := [32, 12, 6, 3, 7]

def lowBytes (word : Word) (width : Nat) : Bytes := word.toList.drop (32 - width)

def HighBytesZero (word : Word) (width : Nat) : Prop :=
  word.toList.take (32 - width) = List.replicate (32 - width) 0

theorem word_of_lt {width value : Nat} (narrow : width ≤ 32) (fits : value < 256 ^ width) :
    HighBytesZero (beBytes 32 value) width ∧
      lowBytes (beBytes 32 value) width = toBE width value := by
  have split : 32 = (32 - width) + width := by omega
  have padded := toBE_of_lt (32 - width) fits
  rw [← split] at padded
  constructor
  · rw [HighBytesZero, toList_beBytes, padded]
    exact List.take_left' (List.length_replicate)
  · rw [lowBytes, toList_beBytes, padded]
    exact List.drop_left' (List.length_replicate)

def valueWords (data : Contracts.TicketData) : List Word :=
  [data.channelId, beBytes 32 data.amount.toNat, beBytes 32 data.ticketIndex.toNat,
    beBytes 32 data.epoch.toNat, beBytes 32 data.winProb.toNat]

/-- The words are zero above the signed widths, and their low bytes are the signed message up
to the challenge. -/
structure SignedValues (words : List Word) (message : Bytes) : Prop where
  count : words.length = signedWidths.length
  high : ∀ entry ∈ words.zip signedWidths, HighBytesZero entry.1 entry.2
  low : ((words.zip signedWidths).flatMap fun entry => lowBytes entry.1 entry.2) = message.take 60

/-- In bounds, no conversion for the bindings changes a value of the ticket. -/
theorem valueWords_onChainTicket {ackedTicket : Internal.RedeemableTicket}
    {signature : ChainSignature} (inBounds : ackedTicket.ticket.ticket.InBounds) :
    valueWords (onChainTicket ackedTicket signature).data =
      [ackedTicket.ticket.channelId,
        beBytes 32 ackedTicket.ticket.ticket.amount.amount.toNat,
        beBytes 32 ackedTicket.ticket.ticket.index.toNat,
        beBytes 32 ackedTicket.ticket.ticket.channelEpoch.toNat,
        beBytes 32 (ofBE ackedTicket.ticket.ticket.encodedWinProb.toList)] := by
  have amountFits := inBounds.amount_lt
  have indexFits := inBounds.index_lt
  have epochFits := inBounds.channelEpoch_lt
  have amountValue : (BitVec.setWidth 96 ackedTicket.ticket.ticket.amount.amount).toNat =
      ackedTicket.ticket.ticket.amount.amount.toNat := by
    rw [BitVec.toNat_setWidth, Nat.mod_eq_of_lt (by norm_num at amountFits ⊢; exact amountFits)]
  have indexValue : (BitVec.setWidth 48 ackedTicket.ticket.ticket.index).toNat =
      ackedTicket.ticket.ticket.index.toNat := by
    rw [BitVec.toNat_setWidth, Nat.mod_eq_of_lt (by norm_num at indexFits ⊢; exact indexFits)]
  have epochValue : (BitVec.setWidth 24 ackedTicket.ticket.ticket.channelEpoch).toNat =
      ackedTicket.ticket.ticket.channelEpoch.toNat := by
    rw [BitVec.toNat_setWidth, Nat.mod_eq_of_lt (by norm_num at epochFits ⊢; exact epochFits)]
  have winProbValue : (fromBeBytes 56 ackedTicket.ticket.ticket.encodedWinProb.toList).toNat =
      ofBE ackedTicket.ticket.ticket.encodedWinProb.toList :=
    toNat_fromBeBytes (by rw [FixedBytes.length_toList]; norm_num)
  simp only [valueWords, onChainTicket, amountValue, indexValue, epochValue, winProbValue]

/-- The signed message starts with the channel, the amount, the index, the epoch and the winning
probability, each in its own width. -/
theorem take_encodeForSigning {ticket : Internal.Ticket} {issuer : Address} {channelId : Hash}
    (isChannel : channelId = generateChannelId issuer ticket.counterparty) :
    (ticket.encodeForSigning issuer).2.toList.take 60 =
      channelId.toList ++ (toBE 12 ticket.amount.amount.toNat ++ (toBE 6 ticket.index.toNat ++
        (toBE 3 ticket.channelEpoch.toNat ++ ticket.encodedWinProb.toList))) := by
  have message : (ticket.encodeForSigning issuer).2.toList =
      (channelId.toList ++ (toBE 12 ticket.amount.amount.toNat ++ (toBE 6 ticket.index.toNat ++
        (toBE 3 ticket.channelEpoch.toNat ++ ticket.encodedWinProb.toList)))) ++
        ticket.challenge.address.toList := by
    rw [isChannel]
    simp only [Ticket.encodeForSigning, Ticket.toList_encodeTail, List.append_assoc]
  rw [message, List.take_left' (by simp)]

theorem signedValues_onChainTicket {ackedTicket : Internal.RedeemableTicket}
    {signature : ChainSignature} (inBounds : ackedTicket.ticket.ticket.InBounds)
    (channelId : ackedTicket.ticket.channelId =
      generateChannelId ackedTicket.ticket.issuer ackedTicket.ticket.ticket.counterparty) :
    SignedValues (valueWords (onChainTicket ackedTicket signature).data)
      (ackedTicket.ticket.ticket.encodeForSigning ackedTicket.ticket.issuer).2.toList := by
  have winProbSize := ackedTicket.ticket.ticket.encodedWinProb.length_toList
  have winProbFits : ofBE ackedTicket.ticket.ticket.encodedWinProb.toList < 256 ^ 7 := by
    have bound := ofBE_lt ackedTicket.ticket.ticket.encodedWinProb.toList
    rw [winProbSize] at bound
    exact bound
  have amount := word_of_lt (by decide) inBounds.amount_lt
  have index := word_of_lt (by decide) inBounds.index_lt
  have epoch := word_of_lt (by decide) inBounds.channelEpoch_lt
  have winProb := word_of_lt (by decide) winProbFits
  rw [valueWords_onChainTicket inBounds]
  refine ⟨rfl, ?_, ?_⟩
  · intro entry member
    simp only [signedWidths, List.zip_cons_cons, List.zip_nil_right, List.mem_cons,
      List.not_mem_nil, or_false] at member
    rcases member with rfl | rfl | rfl | rfl | rfl
    · rfl
    · exact amount.1
    · exact index.1
    · exact epoch.1
    · exact winProb.1
  · have channelWord : lowBytes ackedTicket.ticket.channelId 32 =
        ackedTicket.ticket.channelId.toList := rfl
    rw [take_encodeForSigning channelId]
    simp only [signedWidths, List.zip_cons_cons, List.zip_nil_right, List.flatMap_cons,
      List.flatMap_nil, List.append_nil, channelWord, amount.2, index.2, epoch.2, winProb.2,
      toBE_ofBE_of_length winProbSize]

/-- What is signed is what is redeemed: the manual encoding of a ticket and its conversion for
the bindings hold the same five values, which are those of the signed message; and the signed
message determines these values and the challenge. -/
theorem redeemed_values_are_signed {curve : Secp256k1} (engine : EcdsaEngine curve) :
    (∀ (ticket : Ticket) (ackedTicket : Internal.RedeemableTicket),
      (∃ builder : TicketBuilder, builder.build = .ok ticket) →
      CertifiedFrom engine ticket ackedTicket.ticket →
        ∃ words converted, redeemableTicketWords ackedTicket = .ok words ∧
          BindingsBased.convertAcknowledgedTicket ackedTicket = .ok converted ∧
          words.take 5 = valueWords converted.data ∧
          SignedValues (words.take 5)
            (ticket.encodeForSigning ackedTicket.ticket.issuer).2.toList) ∧
    (∀ (left right : Ticket) (leftIssuer rightIssuer : Address),
      (∃ builder : TicketBuilder, builder.build = .ok left) →
      (∃ builder : TicketBuilder, builder.build = .ok right) →
      (left.encodeForSigning leftIssuer).2 = (right.encodeForSigning rightIssuer).2 →
        (left.encodeForSigning leftIssuer).1 = (right.encodeForSigning rightIssuer).1 ∧
          left.amount = right.amount ∧ left.index = right.index ∧
          left.channelEpoch = right.channelEpoch ∧ left.encodedWinProb = right.encodedWinProb ∧
          left.challenge = right.challenge) := by
  constructor
  · intro ticket ackedTicket built certified
    have inBounds := (TicketBuilder.exists_build_iff ticket).mp built
    obtain ⟨signature, stored, channelId⟩ := certifiedFrom_spec engine certified
    have signed : ackedTicket.ticket.ticket.signature = some signature := by rw [stored]
    have storedBounds : ackedTicket.ticket.ticket.InBounds := by
      rw [stored]
      exact ⟨inBounds.amount, inBounds.index, inBounds.channelEpoch⟩
    have message : ticket.encodeForSigning ackedTicket.ticket.issuer =
        ackedTicket.ticket.ticket.encodeForSigning ackedTicket.ticket.issuer := by
      rw [stored]
      rfl
    have counterparty : ackedTicket.ticket.ticket.counterparty = ticket.counterparty := by
      rw [stored]
    refine ⟨_, _, redeemableTicketWords_eq signed, convertAcknowledgedTicket_eq signed, rfl, ?_⟩
    rw [message]
    exact signedValues_onChainTicket storedBounds (counterparty ▸ channelId)
  · intro left right leftIssuer rightIssuer leftBuilt rightBuilt same
    exact Ticket.encodeForSigning_injective ((TicketBuilder.exists_build_iff left).mp leftBuilt)
      ((TicketBuilder.exists_build_iff right).mp rightBuilt) same

/-- The sample ticket as its recipient redeems it, with some VRF parameters. -/
def incomingRedeemable : Internal.RedeemableTicket :=
  ⟨incomingVerified, ⟨Scalar.toBytes 1⟩, ⟨basePoint.val, 1, 1, basePoint.val⟩, Hash.default⟩

theorem redeemed_values_are_signed_sample :
    ∃ words converted, redeemableTicketWords incomingRedeemable = .ok words ∧
      BindingsBased.convertAcknowledgedTicket incomingRedeemable = .ok converted ∧
      words.take 5 = valueWords converted.data ∧
      SignedValues (words.take 5)
        (incomingTicket.encodeForSigning incomingRedeemable.ticket.issuer).2.toList :=
  (redeemed_values_are_signed incomingEngine).1 incomingTicket incomingRedeemable
    ((TicketBuilder.exists_build_iff incomingTicket).mpr ⟨by decide, by decide, by decide⟩)
    (Or.inr ⟨doubledKey.address, Hash.default, verify_incomingTicket⟩)

end HoprTypes.Chain
