import HoprTypes.Crypto.VrfCompleteness
import HoprTypes.Lib.RejectionSampling

/-!
# Random keys

Chain key pairs and half-keys come from one loop, which draws until it has the encoding
of a scalar.
-/

set_option autoImplicit false

namespace HoprTypes.Crypto

open BigEndian HoprTypes.Primitive

variable (curve : Secp256k1)

/-- One turn of the loop; a draw that encodes no scalar is skipped. -/
def randomGroupAttempt {ε : Type} (bytes : FixedBytes 32) :
    Option (Outcome ε (FixedBytes 32 × NonIdentity)) :=
  (Scalar.fromRepr bytes.toList).map fun scalar => do
    let point ← Outcome.expect "non-zero scalar cannot represent an invalid public key"
      (PublicKey.fromPrivkey curve scalar.toBytes.toList)
    .ok (scalar.toBytes, point.point)

/-- A secret scalar and its point, from at most so many draws. -/
def randomGroupElement {ε : Type} (turns : Nat) (draws : Nat → FixedBytes 32) :
    Option (Outcome ε (FixedBytes 32 × NonIdentity)) :=
  RejectionSampling.sample (randomGroupAttempt curve) turns draws

/-! ## A single draw -/

/-- The encodings of the numbers from 1 to the order of the group less one. -/
def InRange (bytes : FixedBytes 32) : Prop :=
  1 ≤ ofBE bytes.toList ∧ ofBE bytes.toList ≤ order - 1

variable {curve} {ε : Type} {bytes : FixedBytes 32}

theorem fromRepr_of_lt (canonical : ofBE bytes.toList < order) :
    Scalar.fromRepr bytes.toList = some ⟨ofBE bytes.toList, canonical⟩ :=
  dif_pos ⟨bytes.length_toList, canonical⟩

theorem toBytes_ofBE (canonical : ofBE bytes.toList < order) :
    Scalar.toBytes ⟨ofBE bytes.toList, canonical⟩ = bytes :=
  FixedBytes.ext (toBE_ofBE_of_length bytes.length_toList)

theorem randomGroupAttempt_eq_none_iff :
    (randomGroupAttempt curve bytes : Option (Outcome ε _)) = none ↔
      order ≤ ofBE bytes.toList := by
  rw [randomGroupAttempt, Option.map_eq_none_iff]
  by_cases canonical : ofBE bytes.toList < order
  · rw [fromRepr_of_lt canonical]
    simpa using canonical
  · have refused : Scalar.fromRepr bytes.toList = none := dif_neg fun both => canonical both.2
    rw [refused]
    simpa using canonical

theorem randomGroupAttempt_of_lt (canonical : ofBE bytes.toList < order) :
    (randomGroupAttempt curve bytes : Option (Outcome ε _)) =
      some ((Outcome.expect "non-zero scalar cannot represent an invalid public key"
        (PublicKey.fromPrivkey curve bytes.toList)).map fun key => (bytes, key.point)) := by
  rw [randomGroupAttempt, fromRepr_of_lt canonical, Option.map_some, toBytes_ofBE canonical]
  cases PublicKey.fromPrivkey curve bytes.toList with
  | error cause => rfl
  | ok key => rfl

theorem lt_order_of_zero (zero : ofBE bytes.toList = 0) : ofBE bytes.toList < order := by
  rw [zero]
  exact Nat.pos_of_neZero order

theorem fromPrivkey_of_zero (zero : ofBE bytes.toList = 0) :
    ∃ cause, PublicKey.fromPrivkey curve bytes.toList = .error cause := by
  cases derived : PublicKey.fromPrivkey curve bytes.toList with
  | error cause => exact ⟨cause, rfl⟩
  | ok key =>
      obtain ⟨secret, valid⟩ := PublicKey.scalar_of_fromPrivkey derived
      have canonical := lt_order_of_zero zero
      have isZero : (⟨ofBE bytes.toList, canonical⟩ : Scalar) = 0 := Fin.ext zero
      rw [NonZeroScalar.tryFrom, fromRepr_of_lt canonical] at valid
      dsimp only at valid
      rw [dif_pos isZero] at valid
      cases valid

theorem randomGroupAttempt_of_zero (zero : ofBE bytes.toList = 0) :
    (randomGroupAttempt curve bytes : Option (Outcome ε _)) =
      some (Outcome.panicked "non-zero scalar cannot represent an invalid public key") := by
  obtain ⟨cause, failed⟩ := @fromPrivkey_of_zero curve bytes zero
  rw [randomGroupAttempt_of_lt (lt_order_of_zero zero), failed]
  rfl

theorem affinePointFromBytes_native (native : curve.NativeAgrees) (point : AffinePoint) :
    affinePointFromBytes curve (point.toSec1Point false) = .ok point := by
  rw [affinePointFromBytes, native.decodes]
  rfl

theorem randomGroupAttempt_of_inRange (native : curve.NativeAgrees) (inRange : InRange bytes) :
    ∃ scalar point, scalar.val = ofBE bytes.toList ∧
      point.val = curve.mul curve.generator.val scalar ∧
      (randomGroupAttempt curve bytes : Option (Outcome ε _)) = some (.ok (bytes, point)) := by
  have canonical : ofBE bytes.toList < order :=
    Nat.lt_of_le_pred (Nat.pos_of_neZero order) inRange.2
  let scalar : Scalar := ⟨ofBE bytes.toList, canonical⟩
  have nonZero : scalar ≠ 0 := by
    intro zero
    have value : ofBE bytes.toList = 0 := congrArg Fin.val zero
    have positive := inRange.1
    omega
  have valid : NonZeroScalar.tryFrom bytes.toList = some ⟨scalar, nonZero⟩ := by
    rw [NonZeroScalar.tryFrom, fromRepr_of_lt canonical]
    exact dif_neg nonZero
  refine ⟨scalar, curve.fromSecretScalar ⟨scalar, nonZero⟩, rfl, native.publicKey _, ?_⟩
  rw [randomGroupAttempt_of_lt canonical, fromPrivkey_eq_of_uncompressed valid
    (affinePointFromBytes_native native _)]
  rfl

theorem draw_cases (bytes : FixedBytes 32) :
    order ≤ ofBE bytes.toList ∨ ofBE bytes.toList = 0 ∨ InRange bytes := by
  unfold InRange
  omega

/-! ## The loop -/

/-- The loop does not panic, and what it returns is the first draw in range, with its multiple of
the generator. -/
structure SafeSampling (curve : Secp256k1) (draws : Nat → FixedBytes 32) : Prop where
  noPanic : ∀ turns message,
    (randomGroupElement curve turns draws : Option (Outcome Empty _)) ≠
      some (Outcome.panicked message)
  first : ∀ turns secret point,
    (randomGroupElement curve turns draws : Option (Outcome Empty _)) =
        some (.ok (secret, point)) →
      ∃ index, InRange (draws index) ∧ (∀ earlier < index, ¬ InRange (draws earlier)) ∧
        secret = draws index ∧ ∃ scalar : Scalar, scalar.val = ofBE (draws index).toList ∧
          point.val = curve.mul curve.generator.val scalar

variable {draws : Nat → FixedBytes 32}

/-- A draw of zero that no draw in range precedes makes the loop panic. -/
theorem randomGroupElement_panics {index : Nat} (zero : ofBE (draws index).toList = 0)
    (none : ∀ earlier < index, ¬ InRange (draws earlier)) :
    ∃ turns, (randomGroupElement curve turns draws : Option (Outcome ε _)) =
      some (Outcome.panicked "non-zero scalar cannot represent an invalid public key") := by
  have some : ∃ index, ofBE (draws index).toList = 0 := ⟨index, zero⟩
  refine ⟨Nat.find some + 1, RejectionSampling.sample_eq_some_iff.mpr ⟨Nat.find some,
    Nat.lt_succ_self _, randomGroupAttempt_of_zero (Nat.find_spec some), ?_⟩⟩
  intro earlier before
  have nonZero := Nat.find_min some before
  have notInRange := none earlier (before.trans_le (Nat.find_min' some zero))
  rw [randomGroupAttempt_eq_none_iff]
  rcases draw_cases (draws earlier) with large | isZero | inRange
  · exact large
  · exact absurd isZero nonZero
  · exact absurd inRange notInRange

theorem not_inRange_of_skipped
    (skipped : (randomGroupAttempt curve bytes : Option (Outcome ε _)) = none) :
    ¬ InRange bytes := by
  have large := randomGroupAttempt_eq_none_iff.mp skipped
  have positive : 0 < order := Nat.pos_of_neZero order
  unfold InRange
  omega

/-- Where no draw of zero comes first, the first draw that is not skipped is in range. -/
theorem firstAccepted_inRange (native : curve.NativeAgrees)
    (preceded : ∀ index, ofBE (draws index).toList = 0 → ∃ earlier < index, InRange (draws earlier))
    {index : Nat} {result : Outcome ε (FixedBytes 32 × NonIdentity)}
    (found : RejectionSampling.FirstAccepted (randomGroupAttempt curve) draws index result) :
    InRange (draws index) ∧ (∀ earlier < index, ¬ InRange (draws earlier)) ∧
      ∃ scalar point, scalar.val = ofBE (draws index).toList ∧
        point.val = curve.mul curve.generator.val scalar ∧ result = .ok (draws index, point) := by
  have skips : ∀ earlier < index, ¬ InRange (draws earlier) := by
    intro earlier before
    exact not_inRange_of_skipped (found.skipped earlier before)
  have accepted := found.accepted
  rcases draw_cases (draws index) with large | zero | inRange
  · rw [randomGroupAttempt_eq_none_iff.mpr large] at accepted
    cases accepted
  · obtain ⟨earlier, before, inRange⟩ := preceded index zero
    exact absurd inRange (skips earlier before)
  · obtain ⟨scalar, point, value, multiple, taken⟩ :=
      @randomGroupAttempt_of_inRange curve ε (draws index) native inRange
    rw [taken] at accepted
    exact ⟨inRange, skips, scalar, point, value, multiple, (Option.some.inj accepted).symm⟩

/-- Sampling is safe exactly if every draw of zero comes behind a draw in range. -/
theorem randomGroupElement_safe_iff (native : curve.NativeAgrees) (draws : Nat → FixedBytes 32) :
    SafeSampling curve draws ↔
      ∀ index, ofBE (draws index).toList = 0 → ∃ earlier < index, InRange (draws earlier) := by
  constructor
  · intro safe index zero
    by_contra unpreceded
    push Not at unpreceded
    obtain ⟨turns, panics⟩ := @randomGroupElement_panics curve Empty draws index zero unpreceded
    exact safe.noPanic turns _ panics
  · intro preceded
    constructor
    · intro turns message panics
      obtain ⟨index, _, found⟩ := RejectionSampling.sample_eq_some_iff.mp panics
      obtain ⟨_, _, _, _, _, _, returned⟩ := firstAccepted_inRange native preceded found
      cases returned
    · intro turns secret point returned
      obtain ⟨index, _, found⟩ := RejectionSampling.sample_eq_some_iff.mp returned
      obtain ⟨inRange, skips, scalar, multiplePoint, value, multiple, same⟩ :=
        firstAccepted_inRange native preceded found
      obtain ⟨rfl, rfl⟩ := Prod.mk.inj (Except.ok.inj same)
      exact ⟨index, inRange, skips, rfl, scalar, value, multiple⟩

/-- Draws of which the first is too large, the second is 1, and all others are zero. -/
def oneBehindRejected : Nat → FixedBytes 32
  | 0 => beBytes 32 (2 ^ 256 - 1)
  | 1 => beBytes 32 1
  | _ => beBytes 32 0

theorem randomGroupElement_safe_oneBehindRejected :
    SafeSampling oneProofCurve oneBehindRejected := by
  apply (randomGroupElement_safe_iff oneProofCurve_native oneBehindRejected).mpr
  intro index zero
  have first : ofBE (oneBehindRejected 0).toList ≠ 0 := by decide +kernel
  have second : InRange (oneBehindRejected 1) := by
    unfold InRange
    decide +kernel
  rcases Nat.lt_or_ge 1 index with behind | early
  · exact ⟨1, behind, second⟩
  · exfalso
    rcases Nat.le_one_iff_eq_zero_or_eq_one.mp early with rfl | rfl
    · exact first zero
    · exact Nat.pos_iff_ne_zero.mp second.1 zero

/-- The generator yields zero at once. -/
theorem zero_draw_not_safe :
    oneProofCurve.NativeAgrees ∧ ¬ SafeSampling oneProofCurve fun _ => beBytes 32 0 := by
  refine ⟨oneProofCurve_native, ?_⟩
  intro safe
  have zero : ofBE (beBytes 32 0).toList = 0 := by decide
  obtain ⟨turns, panics⟩ := @randomGroupElement_panics oneProofCurve Empty
    (fun _ => beBytes 32 0) 0 zero (by simp)
  exact safe.noPanic turns _ panics

/-! ## What is returned -/

theorem randomGroupElement_ends_iff :
    (∃ turns result, (randomGroupElement curve turns draws : Option (Outcome ε _)) =
        some result) ↔ ∃ index, ofBE (draws index).toList < order := by
  have accepts : ∀ index, (randomGroupAttempt curve (draws index) :
      Option (Outcome ε _)).isSome ↔ ofBE (draws index).toList < order := by
    intro index
    rw [← Option.ne_none_iff_isSome, Ne, randomGroupAttempt_eq_none_iff, not_le]
  simp only [← accepts, ← RejectionSampling.exists_returns_iff]
  exact exists_comm

theorem fromPrivkey_of_randomGroupElement {turns : Nat} {secret : FixedBytes 32}
    {point : NonIdentity}
    (returned : (randomGroupElement curve turns draws : Option (Outcome ε _)) =
      some (.ok (secret, point))) :
    PublicKey.fromPrivkey curve secret.toList = .ok (PublicKey.ofPoint point) := by
  obtain ⟨index, _, found⟩ := RejectionSampling.sample_eq_some_iff.mp returned
  have canonical : ofBE (draws index).toList < order := by
    by_contra large
    have skipped : (randomGroupAttempt curve (draws index) : Option (Outcome ε _)) = none :=
      randomGroupAttempt_eq_none_iff.mpr (Nat.le_of_not_lt large)
    rw [found.accepted] at skipped
    cases skipped
  have accepted := found.accepted
  rw [randomGroupAttempt_of_lt canonical, Option.some.injEq] at accepted
  cases derived : PublicKey.fromPrivkey curve (draws index).toList with
  | error cause =>
      rw [derived] at accepted
      cases accepted
  | ok key =>
      rw [derived] at accepted
      obtain ⟨rfl, rfl⟩ := Prod.mk.inj (Except.ok.inj accepted)
      obtain ⟨point, rfl⟩ := PublicKey.address_of_fromPrivkey derived
      exact derived

def HalfKey.random {ε : Type} (curve : Secp256k1) (turns : Nat) (draws : Nat → FixedBytes 32) :
    Option (Outcome ε HalfKey) :=
  (randomGroupElement curve turns draws).map fun drawn => drawn.map Prod.fst

def PublicKey.random {ε : Type} (curve : Secp256k1) (turns : Nat) (draws : Nat → FixedBytes 32) :
    Option (Outcome ε PublicKey) :=
  (randomGroupElement curve turns draws).map fun drawn => drawn.map fun (_, point) =>
    PublicKey.ofPoint point

def ChainKeypair.random {ε : Type} (curve : Secp256k1) (turns : Nat)
    (draws : Nat → FixedBytes 32) : Option (Outcome ε (ChainKeypair curve)) :=
  match returned : randomGroupElement curve turns draws with
  | none => none
  | some (.error failure) => some (.error failure)
  | some (.ok (secret, point)) =>
      some (.ok ⟨secret, PublicKey.ofPoint point, fromPrivkey_of_randomGroupElement returned⟩)

theorem HalfKey.random_valid {turns : Nat} {halfKey : HalfKey}
    (drawn : (HalfKey.random curve turns draws : Option (Outcome ε _)) = some (.ok halfKey)) :
    ∃ scalar, NonZeroScalar.tryFrom halfKey.toList = some scalar := by
  obtain ⟨outcome, returned, same⟩ := Option.map_eq_some_iff.mp drawn
  cases outcome with
  | error failure => cases same
  | ok pair =>
      obtain ⟨secret, point⟩ := pair
      obtain rfl := Except.ok.inj same
      exact PublicKey.scalar_of_fromPrivkey (fromPrivkey_of_randomGroupElement returned)

end HoprTypes.Crypto
