import HoprTypes.Crypto.Instance
import HoprTypes.Internal.Tickets

/-!
# Acknowledging tickets

The relayer of a packet solves the challenge of its ticket with the half-key that the
next node acknowledges, which works out exactly when the sender combined the challenges
of the same two half-keys.
-/

set_option autoImplicit false

namespace HoprTypes.Internal

open BigEndian HoprTypes.Primitive HoprTypes.Crypto

section

variable (curve : Secp256k1)

/-- The relayer's challenge: the response to both half-keys solves it. -/
def Responds (first second : HalfKey) (challenge : Challenge) : Prop :=
  ∃ response, Response.fromHalfKeys first second = .ok response ∧
    response.toChallenge curve = .ok challenge

/-- The sender's challenge: both half-key challenges exist, and combine into it. -/
def Combines (first second : HalfKey) (challenge : Challenge) : Prop :=
  ∃ own hint, first.toChallenge curve = .ok own ∧ second.toChallenge curve = .ok hint ∧
    Challenge.fromHintAndShare curve own hint = .ok challenge

end

variable {curve : Secp256k1}

theorem fromHalfKeys_comm {first second : HalfKey} {response : Response}
    (built : Response.fromHalfKeys first second = .ok response) :
    Response.fromHalfKeys second first = .ok response := by
  obtain ⟨x, y, firstValid, secondValid⟩ := scalars_of_fromHalfKeys built
  have sum := (response_eq firstValid secondValid).mp built
  rw [add_comm] at sum
  exact (response_eq secondValid firstValid).mpr sum

theorem responds_comm {first second : HalfKey} {challenge : Challenge} :
    Responds curve first second challenge ↔ Responds curve second first challenge := by
  constructor
  · rintro ⟨response, built, solved⟩
    exact ⟨response, fromHalfKeys_comm built, solved⟩
  · rintro ⟨response, built, solved⟩
    exact ⟨response, fromHalfKeys_comm built, solved⟩

/-- Acknowledging succeeds exactly if the response to both half-keys solves the challenge. -/
theorem acknowledge_eq_ok {unacknowledged : UnacknowledgedTicket} {acknowledgement : HalfKey}
    {acknowledged : AcknowledgedTicket} :
    unacknowledged.acknowledge curve acknowledgement = .ok acknowledged ↔
      ∃ response challenge,
        Response.fromHalfKeys unacknowledged.ownKey acknowledgement = .ok response ∧
        response.toChallenge curve = .ok challenge ∧
        unacknowledged.ticket.ticket.challenge = challenge.toEthereumChallenge ∧
        acknowledged = unacknowledged.ticket.intoAcknowledged response := by
  unfold UnacknowledgedTicket.acknowledge
  simp only [bind_eq_ok, exceptMapErr_eq_ok]
  constructor
  · rintro ⟨response, built, challenge, solved, accepted⟩
    by_cases matching : unacknowledged.ticket.ticket.challenge = challenge.toEthereumChallenge
    · rw [if_pos matching] at accepted
      exact ⟨response, challenge, built, solved, matching, (Except.ok.inj accepted).symm⟩
    · rw [if_neg matching] at accepted
      cases accepted
  · rintro ⟨response, challenge, built, solved, matching, rfl⟩
    exact ⟨response, built, challenge, solved, if_pos matching⟩

/-- Sender and relayer accept the same half-keys, in any order, and agree on their challenge; so
a ticket is acknowledged exactly by the half-keys whose combined challenge is its own, with the
sum of the scalars as the response. -/
theorem proof_of_relay_agrees (a b : HalfKey)
    (group : ∀ x y, NonZeroScalar.tryFrom a.toList = some x →
      NonZeroScalar.tryFrom b.toList = some y → curve.AddsMultiples x y) :
    (∀ challenge,
      (Responds curve a b challenge ↔ Combines curve a b challenge) ∧
        (Responds curve b a challenge ↔ Combines curve a b challenge) ∧
        (Combines curve b a challenge ↔ Combines curve a b challenge)) ∧
    ∀ (unacknowledged : UnacknowledgedTicket) (acknowledged : AcknowledgedTicket),
      unacknowledged.ownKey = a →
        (unacknowledged.acknowledge curve b = .ok acknowledged ↔
          ∃ challenge x y, Combines curve a b challenge ∧
            challenge.toEthereumChallenge = unacknowledged.ticket.ticket.challenge ∧
            NonZeroScalar.tryFrom a.toList = some x ∧ NonZeroScalar.tryFrom b.toList = some y ∧
            acknowledged = ⟨.untouched, unacknowledged.ticket,
              ⟨Scalar.toBytes (x.val + y.val)⟩⟩) := by
  have forward := response_challenge_iff group
  have backward : ∀ challenge, Responds curve b a challenge ↔ Combines curve b a challenge :=
    response_challenge_iff fun x y xValid yValid => (group y x yValid xValid).symm
  constructor
  · intro challenge
    refine ⟨forward challenge, responds_comm.trans (forward challenge), ?_⟩
    exact (backward challenge).symm.trans (responds_comm.trans (forward challenge))
  · rintro unacknowledged acknowledged rfl
    rw [acknowledge_eq_ok]
    constructor
    · rintro ⟨response, challenge, built, solved, matching, rfl⟩
      obtain ⟨x, y, firstValid, secondValid⟩ := scalars_of_fromHalfKeys built
      obtain ⟨_, bytes⟩ := (response_eq firstValid secondValid).mp built
      refine ⟨challenge, x, y, (forward challenge).mp ⟨response, built, solved⟩, matching.symm,
        firstValid, secondValid, ?_⟩
      rw [← bytes]
      rfl
    · rintro ⟨challenge, x, y, combined, matching, firstValid, secondValid, rfl⟩
      obtain ⟨response, built, solved⟩ := (forward challenge).mpr combined
      obtain ⟨_, bytes⟩ := (response_eq firstValid secondValid).mp built
      refine ⟨response, challenge, built, solved, matching.symm, ?_⟩
      rw [← bytes]
      rfl

/-! ## The half-keys 1 and 1 -/

/-- The curve crates, right for the multiples of the generator by 1 and 2. -/
def doublingCurve : Secp256k1 :=
  { oneKeyCurve with
    add := fun _ _ => doubledBasePoint.val
    fromSecretScalar := fun scalar =>
      if scalar.val = 1 then basePoint else doubledBasePoint
    fromSec1Bytes := fun bytes =>
      if bytes = basePoint.val.toSec1Point true ∨ bytes = basePoint.val.toSec1Point false then
        some basePoint.val
      else some doubledBasePoint.val }

theorem doublingCurve_one {scalar : NonZeroScalar} (isOne : scalar.val = 1) :
    doublingCurve.fromSecretScalar scalar = basePoint := if_pos isOne

theorem doublingCurve_two {scalar : NonZeroScalar} (isTwo : scalar.val = 2) :
    doublingCurve.fromSecretScalar scalar = doubledBasePoint := by
  apply if_neg
  rw [isTwo]
  decide +kernel

theorem doublingCurve_decodes (compress : Bool) :
    doublingCurve.fromSec1Bytes (basePoint.val.toSec1Point compress) = some basePoint.val ∧
      doublingCurve.fromSec1Bytes (doubledBasePoint.val.toSec1Point compress) =
        some doubledBasePoint.val := by
  cases compress <;> exact ⟨by decide +kernel, by decide +kernel⟩

theorem doublingCurve_group {one : NonZeroScalar} (isOne : one.val = 1) :
    doublingCurve.AddsMultiples one one := by
  have two : one.val + one.val = 2 := by
    rw [isOne]
    decide +kernel
  have sum : doublingCurve.multiple (one.val + one.val) = doubledBasePoint.val := by
    have nonZero : (2 : Scalar) ≠ 0 := by decide +kernel
    rw [two, Secp256k1.multiple, dif_neg nonZero, doublingCurve_two rfl]
  refine ⟨?_, sum.symm, sum.symm⟩
  intro scalar member compress
  simp only [List.mem_cons, List.not_mem_nil, or_false] at member
  rcases member with isOwn | isOwn | isSum
  · rw [doublingCurve_one (isOwn.trans isOne)]
    exact (doublingCurve_decodes compress).1
  · rw [doublingCurve_one (isOwn.trans isOne)]
    exact (doublingCurve_decodes compress).1
  · rw [doublingCurve_two (isSum.trans two)]
    exact (doublingCurve_decodes compress).2

theorem proof_of_relay_agrees_sample :
    let one : HalfKey := Scalar.toBytes 1
    let challenge : Challenge := ⟨doubledBasePoint⟩
    Responds doublingCurve one one challenge ↔ Combines doublingCurve one one challenge := by
  intro one challenge
  have nonZero : (1 : Scalar) ≠ 0 := by decide +kernel
  have valid : NonZeroScalar.tryFrom one.toList = some ⟨1, nonZero⟩ := tryFrom_toBytes nonZero
  refine ((proof_of_relay_agrees one one ?_).1 challenge).1
  intro x y xValid yValid
  rw [valid] at xValid yValid
  rw [← Option.some.inj xValid, ← Option.some.inj yValid]
  exact doublingCurve_group rfl

end HoprTypes.Internal
