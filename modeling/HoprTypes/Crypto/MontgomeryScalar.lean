import Mathlib
import HoprTypes.Crypto.Bn254Keypair
import HoprTypes.Crypto.OffchainSigning
import HoprTypes.Lib.Primality

/-!
# Scalars of off-chain keys

An off-chain key signs with Ed25519 and agrees on shared secrets over the same curve.  Its scalar
is clamped and reduced by the order of the base point, which keeps the public key.
-/

set_option autoImplicit false

namespace HoprTypes.Crypto

open BigEndian HoprTypes.Primitive Bn254

/-! ## Clamped numbers -/

def curve25519Order : Nat := 2 ^ 252 + 27742317777372353535851937790883648493

abbrev Curve25519Scalar := Fin curve25519Order

instance : NeZero curve25519Order := ⟨by decide +kernel⟩

open Primality in
def curve25519OrderSteps : List Step :=
  [⟨2851, 2, [2, 3, 5, 5, 19]⟩,
    ⟨2551, 6, [2, 3, 5, 5, 17]⟩,
    ⟨1224481, 13, [2, 2, 2, 2, 2, 3, 5, 2551]⟩,
    ⟨3797, 2, [2, 2, 13, 73]⟩,
    ⟨531581, 2, [2, 2, 5, 7, 3797]⟩,
    ⟨1257559732178653, 2, [2, 2, 3, 7, 23, 531581, 1224481]⟩,
    ⟨4434155615661930479, 17, [2, 41, 43, 1257559732178653]⟩,
    ⟨1361, 3, [2, 2, 2, 2, 5, 17]⟩,
    ⟨172054593956031949258510691, 2, [2, 5, 1361, 2851, 4434155615661930479]⟩,
    ⟨2939, 2, [2, 13, 113]⟩,
    ⟨5879, 11, [2, 2939]⟩,
    ⟨292386187, 2, [2, 3, 3, 3, 3, 307, 5879]⟩,
    ⟨213441916511, 13, [2, 5, 73, 292386187]⟩,
    ⟨19757330305831588566944191468367130476339, 2,
      [2, 269, 213441916511, 172054593956031949258510691]⟩,
    ⟨276602624281642239937218680557139826668747, 2,
      [2, 7, 19757330305831588566944191468367130476339]⟩,
    ⟨34123, 2, [2, 3, 11, 11, 47]⟩,
    ⟨409477, 2, [2, 2, 3, 34123]⟩,
    ⟨14741173, 2, [2, 2, 3, 3, 409477]⟩,
    ⟨58964693, 2, [2, 2, 14741173]⟩,
    ⟨30703, 3, [2, 3, 7, 17, 43]⟩,
    ⟨41081, 3, [2, 2, 2, 5, 13, 79]⟩,
    ⟨82163, 2, [2, 41081]⟩,
    ⟨1723, 3, [2, 3, 7, 41]⟩,
    ⟨17231, 13, [2, 5, 1723]⟩,
    ⟨137849, 3, [2, 2, 2, 17231]⟩,
    ⟨22111, 6, [2, 3, 5, 11, 67]⟩,
    ⟨132667, 5, [2, 3, 22111]⟩,
    ⟨3044861653679985063343, 5, [2, 3, 11, 30703, 82163, 132667, 137849]⟩,
    ⟨198211423230930754013084525763697, 5,
      [2, 2, 2, 2, 3, 23, 58964693, 3044861653679985063343]⟩,
    ⟨curve25519Order, 2,
      [2, 2, 3, 11, 198211423230930754013084525763697,
        276602624281642239937218680557139826668747]⟩]

open Primality in
theorem curve25519Order_prime : curve25519Order.Prime := by
  have checked : certifies 256 [] curve25519OrderSteps = true := by decide +kernel
  have none : ∀ q ∈ ([] : List Nat), q.Prime := by simp
  have primes := prime_of_certifies none checked
  exact primes (curve25519OrderSteps.getLast (by decide)) (List.getLast_mem _)

/-- A 255-bit multiple of the co-factor: the bits 3 to 253 of the number below the highest bit. -/
def clampInteger (number : Nat) : Nat := 2 ^ 254 + number % 2 ^ 254 / 8 * 8

theorem clampInteger_eq (number : Nat) :
    clampInteger number = 8 * (2 ^ 251 + number % 2 ^ 254 / 8) := by
  rw [clampInteger]
  ring

/-- The co-factor is invertible modulo the order, and clamped numbers have room for one multiple
of each number below it. -/
theorem clampInteger_modEq_iff (left right : Nat) :
    clampInteger left ≡ clampInteger right [MOD curve25519Order] ↔
      left % 2 ^ 254 / 8 = right % 2 ^ 254 / 8 := by
  have coprime : curve25519Order.gcd 8 = 1 := by decide +kernel
  have below (number : Nat) : 2 ^ 251 + number % 2 ^ 254 / 8 < curve25519Order := by
    have small : number % 2 ^ 254 < 2 ^ 254 := Nat.mod_lt _ (by positivity)
    rw [curve25519Order]
    omega
  rw [clampInteger_eq, clampInteger_eq]
  refine ⟨fun same => ?_, fun same => by rw [same]⟩
  have reduced := Nat.ModEq.cancel_left_of_coprime coprime same
  exact Nat.add_left_cancel (Nat.ModEq.eq_of_lt_of_lt reduced (below left) (below right))

theorem clampInteger_mod_ne_zero (number : Nat) : clampInteger number % curve25519Order ≠ 0 := by
  intro zero
  have coprime : curve25519Order.Coprime 8 := by decide +kernel
  have divides : curve25519Order ∣ 2 ^ 251 + number % 2 ^ 254 / 8 := by
    refine coprime.dvd_of_dvd_mul_left ?_
    rw [← clampInteger_eq]
    exact Nat.dvd_of_mod_eq_zero zero
  have small : number % 2 ^ 254 < 2 ^ 254 := Nat.mod_lt _ (by positivity)
  have le := Nat.le_of_dvd (Nat.add_pos_left (by positivity) _) divides
  rw [curve25519Order] at le
  omega

theorem mod_smul {Point : Type} [AddCommGroup Point] {point : Point}
    (order : curve25519Order • point = 0) (factor : Nat) :
    (factor % curve25519Order) • point = factor • point := by
  have split := congrArg (· • point) (Nat.mod_add_div factor curve25519Order)
  simp only [add_smul, mul_smul] at split
  rw [smul_comm, order, smul_zero, add_zero] at split
  exact split

/-! ## Scalars of bytes -/

def Curve25519Scalar.fromBytesModOrder (bytes : Bytes) : Curve25519Scalar :=
  Fin.ofNat curve25519Order (ofLE bytes)

/-- Sets the bits that the curve prescribes for a secret. -/
def x25519ScalarFromBytes (bytes : Bytes) : Except CryptoError Curve25519Scalar :=
  if bytes.length = 32 then
    let clamped := bytes
    let clamped := clamped.modify 0 (· &&& 0b11111000)
    let clamped := clamped.modify 31 (· &&& 0b01111111)
    let clamped := clamped.modify 31 (· ||| 0b01000000)
    .ok (Curve25519Scalar.fromBytesModOrder clamped)
  else .error (.invalidInputValue "bytes")

theorem toNat_clearLow (byte : UInt8) : (byte &&& 0b11111000).toNat = byte.toNat / 8 * 8 := by
  have table : ∀ number < 256, number &&& 0b11111000 = number / 8 * 8 := by decide +kernel
  exact table byte.toNat byte.toNat_lt

theorem toNat_setHigh (byte : UInt8) :
    (byte &&& 0b01111111 ||| 0b01000000).toNat = 64 + byte.toNat % 64 := by
  have table : ∀ number < 256, number &&& 0b01111111 ||| 0b01000000 = 64 + number % 64 := by
    decide +kernel
  exact table byte.toNat byte.toNat_lt

theorem modify_length_append (inner : Bytes) (change : UInt8 → UInt8) (byte : UInt8) :
    (inner ++ [byte]).modify inner.length change = inner ++ [change byte] := by
  induction inner with
  | nil => rfl
  | cons first rest ih => rw [List.cons_append, List.length_cons, List.modify_succ_cons, ih]; rfl

theorem eq_first_inner_last {bytes : Bytes} (length : bytes.length = 32) :
    ∃ first inner last, inner.length = 30 ∧ bytes = first :: (inner ++ [last]) := by
  cases bytes with
  | nil => simp at length
  | cons first rest =>
      have nonempty : rest ≠ [] := by
        intro empty
        simp [empty] at length
      refine ⟨first, rest.dropLast, rest.getLast nonempty, ?_, ?_⟩
      · simpa using length
      · rw [List.dropLast_append_getLast nonempty]

theorem ofLE_first_inner_last {inner : Bytes} (length : inner.length = 30) (first last : UInt8) :
    ofLE (first :: (inner ++ [last])) = first.toNat + 256 * ofLE inner + 2 ^ 248 * last.toNat := by
  have one (byte : UInt8) : ofLE [byte] = byte.toNat := by simp [ofLE]
  rw [show first :: (inner ++ [last]) = [first] ++ (inner ++ [last]) from rfl, ofLE_append,
    ofLE_append, one, one, length]
  simp only [List.length_singleton]
  ring

theorem x25519ScalarFromBytes_eq {bytes : Bytes} (length : bytes.length = 32) :
    x25519ScalarFromBytes bytes =
      .ok (Fin.ofNat curve25519Order (clampInteger (ofLE bytes))) := by
  obtain ⟨first, inner, last, innerLength, rfl⟩ := eq_first_inner_last length
  have modified : List.modify (List.modify (List.modify (first :: (inner ++ [last])) 0
      (· &&& 0b11111000)) 31 (· &&& 0b01111111)) 31 (· ||| 0b01000000) =
      (first &&& 0b11111000) :: (inner ++ [last &&& 0b01111111 ||| 0b01000000]) := by
    rw [List.modify_zero_cons, List.modify_succ_cons, List.modify_succ_cons, ← innerLength,
      modify_length_append, modify_length_append]
  rw [x25519ScalarFromBytes, if_pos length]
  dsimp only
  rw [modified, Curve25519Scalar.fromBytesModOrder]
  congr 2
  rw [ofLE_first_inner_last innerLength, ofLE_first_inner_last innerLength, toNat_clearLow,
    toNat_setHigh, clampInteger]
  have innerSmall := ofLE_lt inner
  rw [innerLength, show 256 ^ 30 = 2 ^ 240 by norm_num] at innerSmall
  have firstSmall := first.toNat_lt
  omega

/-- Exactly the strings of 32 bytes have a scalar.  It is never zero, it forgets the five bits that
the curve prescribes and no other, and it multiplies every point of the base point's group as the
clamped number does. -/
theorem x25519ScalarFromBytes_spec :
    (∀ bytes : Bytes, bytes.length ≠ 32 →
      x25519ScalarFromBytes bytes = .error (.invalidInputValue "bytes")) ∧
    ∀ bytes : Bytes, bytes.length = 32 → ∃ scalar, x25519ScalarFromBytes bytes = .ok scalar ∧
      scalar ≠ 0 ∧
      (∀ other : Bytes, other.length = 32 → (x25519ScalarFromBytes other = .ok scalar ↔
        ofLE other % 2 ^ 254 / 8 = ofLE bytes % 2 ^ 254 / 8)) ∧
      ∀ (Point : Type) [AddCommGroup Point] (point : Point), curve25519Order • point = 0 →
        scalar.val • point = clampInteger (ofLE bytes) • point := by
  refine ⟨fun bytes length => if_neg length, fun bytes length => ?_⟩
  refine ⟨_, x25519ScalarFromBytes_eq length, ?_, ?_, ?_⟩
  · intro zero
    exact clampInteger_mod_ne_zero (ofLE bytes) (congrArg Fin.val zero)
  · intro other otherLength
    rw [x25519ScalarFromBytes_eq otherLength, Except.ok.injEq, Fin.ext_iff, Fin.val_ofNat,
      Fin.val_ofNat]
    exact clampInteger_modEq_iff (ofLE other) (ofLE bytes)
  · intro Point _ point order
    exact mod_smul order (clampInteger (ofLE bytes))

/-! ## Scalars of key pairs -/

variable {VerifyingKey : Type} {ed25519 : Ed25519 VerifyingKey} {signer : Ed25519Signer ed25519}

/-- What the code uses of the curve crate and of SHA-512. -/
structure EdwardsCurve (VerifyingKey Point : Type) where
  sha512 : Bytes → FixedBytes 64
  basePoint : Point
  edwards : VerifyingKey → Point

/-- The base point has the prime order, and the public key of a secret is the base point times the
clamped first half of the secret's hash. -/
structure EdwardsCurve.Lawful {Point : Type} [AddCommGroup Point]
    (curve : EdwardsCurve VerifyingKey Point) (signer : Ed25519Signer ed25519) : Prop where
  order : curve25519Order • curve.basePoint = 0
  generates : curve.basePoint ≠ 0
  derives : ∀ secret compact expanded, signer.fromPrivkey secret = .ok compact →
    ed25519.tryFrom compact = some expanded → curve.edwards expanded =
      clampInteger (ofLE ((curve.sha512 secret.toList).toList.take 32)) • curve.basePoint

/-- Transforms the secret to be equivalent with the public key used for signing. -/
def OffchainKeypair.toScalar {ε : Type} {Point : Type} (curve : EdwardsCurve VerifyingKey Point)
    (value : OffchainKeypair signer) : Outcome ε Curve25519Scalar :=
  let hash := curve.sha512 value.secret.toList
  let ret := hash.toList.take 32
  Outcome.expect "called `Result::unwrap()` on an `Err` value" (x25519ScalarFromBytes ret)

section

variable {Point : Type} [AddCommGroup Point] {curve : EdwardsCurve VerifyingKey Point}

theorem OffchainKeypair.toScalar_eq {ε : Type} (lawful : curve.Lawful signer)
    (keypair : OffchainKeypair signer) :
    ∃ scalar : Curve25519Scalar, (keypair.toScalar curve : Outcome ε _) = .ok scalar ∧
      scalar ≠ 0 ∧ scalar.val • curve.basePoint = curve.edwards keypair.edwards := by
  have length : ((curve.sha512 keypair.secret.toList).toList.take 32).length = 32 := by simp
  have decoded := x25519ScalarFromBytes_eq length
  refine ⟨_, by rw [toScalar, decoded]; rfl, ?_, ?_⟩
  · intro zero
    exact clampInteger_mod_ne_zero _ (congrArg Fin.val zero)
  · rw [lawful.derives _ _ _ keypair.derived keypair.expanded]
    exact mod_smul lawful.order _

theorem EdwardsCurve.Lawful.smul_ne_zero (lawful : curve.Lawful signer)
    {left right : Curve25519Scalar} (leftNonZero : left ≠ 0) (rightNonZero : right ≠ 0) :
    left.val • right.val • curve.basePoint ≠ 0 := by
  have : Fact curve25519Order.Prime := ⟨curve25519Order_prime⟩
  have order : addOrderOf curve.basePoint = curve25519Order :=
    addOrderOf_eq_prime lawful.order lawful.generates
  have coprime (scalar : Curve25519Scalar) (nonZero : scalar ≠ 0) :
      ¬curve25519Order ∣ scalar.val := by
    intro divides
    apply nonZero
    apply Fin.ext
    exact Nat.eq_zero_of_dvd_of_lt divides scalar.isLt
  rw [← mul_smul]
  intro zero
  have divides := addOrderOf_dvd_of_nsmul_eq_zero zero
  rw [order] at divides
  rcases curve25519Order_prime.dvd_mul.mp divides with leftDivides | rightDivides
  · exact coprime left leftNonZero leftDivides
  · exact coprime right rightNonZero rightDivides

/-- Two nodes that know each other's public keys agree on a secret point, which is never the
neutral one. -/
theorem offchain_shared_secret {ε : Type} (lawful : curve.Lawful signer)
    (own peer : OffchainKeypair signer) :
    ∃ ownScalar peerScalar : Curve25519Scalar,
      (own.toScalar curve : Outcome ε _) = .ok ownScalar ∧
      (peer.toScalar curve : Outcome ε _) = .ok peerScalar ∧
      ownScalar.val • curve.basePoint = curve.edwards own.edwards ∧
      ownScalar.val • curve.edwards peer.edwards = peerScalar.val • curve.edwards own.edwards ∧
      ownScalar.val • curve.edwards peer.edwards ≠ 0 := by
  obtain ⟨ownScalar, ownReturned, ownNonZero, ownPoint⟩ := own.toScalar_eq lawful (ε := ε)
  obtain ⟨peerScalar, peerReturned, peerNonZero, peerPoint⟩ := peer.toScalar_eq lawful (ε := ε)
  refine ⟨ownScalar, peerScalar, ownReturned, peerReturned, ownPoint, ?_, ?_⟩
  · rw [← ownPoint, ← peerPoint, smul_comm]
  · rw [← peerPoint]
    exact lawful.smul_ne_zero ownNonZero peerNonZero

end

/-! ## Two keys -/

def twoPacketKey : OffchainPublicKey :=
  beBytes 32 0x7422b9887598068e32c4448a949adb290d0f4e35b9e01b0ee5f1a1e600fe2674

/-- An Ed25519 crate that knows the keys of the secrets 1 and 2 and no signature. -/
def twoKeys : Ed25519 Bool where
  tryFrom given :=
    if given = onePacketKey then some true else if given = twoPacketKey then some false else none
  verifyStrict _ _ _ := false
  verifyBatch _ _ _ := false

def twoKeysSigner : Ed25519Signer twoKeys where
  fromPrivkey secret :=
    if secret = beBytes 32 1 then .ok onePacketKey
    else if secret = beBytes 32 2 then .ok twoPacketKey
    else .error (.invalidInputValue "private_key")
  rawSign _ _ _ := beBytes 64 0

def hashOfOne : FixedBytes 64 :=
  ⟨toBE 32 0xf168e2f7ccc3eee220065e1dc937d34d548ec59be6488fea5ae1397e63f81c12 ++
    toBE 32 0xbc545075d7ce4333786a73bd01715a14bc541d837cb8a819f6207986ad5d053a, by simp⟩

def hashOfTwo : FixedBytes 64 :=
  ⟨toBE 32 0x8aaff351a303e9b6781e37bed44c29b73c09313d501811e62ac2b0b0129cbffd ++
    toBE 32 0x7e76c3293bd6f36200df74f14f635c8b74fdf2f2114df431ac6a2b1ccbb356bd, by simp⟩

def twoKeysCurve : EdwardsCurve Bool (ZMod curve25519Order) where
  sha512 secret := if secret = (beBytes 32 1).toList then hashOfOne else hashOfTwo
  basePoint := 1
  edwards isOne :=
    clampInteger (ofLE ((if isOne then hashOfOne else hashOfTwo).toList.take 32)) • 1

theorem twoKeysCurve_lawful : twoKeysCurve.Lawful twoKeysSigner where
  order := by simp [twoKeysCurve]
  generates := by
    have : Fact curve25519Order.Prime := ⟨curve25519Order_prime⟩
    exact one_ne_zero
  derives := by
    intro secret compact expanded derived decompressed
    have different : twoPacketKey ≠ onePacketKey := by decide +kernel
    have differentSecrets : toBE 32 2 ≠ toBE 32 1 := by decide +kernel
    simp only [twoKeysSigner] at derived
    simp only [twoKeys] at decompressed
    by_cases isOne : secret = beBytes 32 1
    · rw [if_pos isOne] at derived
      rw [← Except.ok.inj derived, if_pos rfl] at decompressed
      rw [← Option.some.inj decompressed, isOne]
      simp [twoKeysCurve]
    · rw [if_neg isOne] at derived
      by_cases isTwo : secret = beBytes 32 2
      · rw [if_pos isTwo] at derived
        rw [← Except.ok.inj derived, if_neg different, if_pos rfl] at decompressed
        rw [← Option.some.inj decompressed, isTwo]
        simp [twoKeysCurve, differentSecrets]
      · rw [if_neg isTwo] at derived
        cases derived

def keypairOfOne : OffchainKeypair twoKeysSigner where
  secret := beBytes 32 1
  compact := onePacketKey
  edwards := true
  derived := rfl
  expanded := rfl

def keypairOfTwo : OffchainKeypair twoKeysSigner where
  secret := beBytes 32 2
  compact := twoPacketKey
  edwards := false
  derived := by decide +kernel
  expanded := by decide +kernel

theorem offchain_shared_secret_twoKeys :
    ∃ ownScalar peerScalar : Curve25519Scalar,
      (keypairOfOne.toScalar twoKeysCurve : Outcome CryptoError _) = .ok ownScalar ∧
      (keypairOfTwo.toScalar twoKeysCurve : Outcome CryptoError _) = .ok peerScalar ∧
      ownScalar.val • twoKeysCurve.edwards false = peerScalar.val • twoKeysCurve.edwards true ∧
      ownScalar.val • twoKeysCurve.edwards false ≠ 0 := by
  obtain ⟨ownScalar, peerScalar, own, peer, _, same, nonZero⟩ :=
    offchain_shared_secret (ε := CryptoError) twoKeysCurve_lawful keypairOfOne keypairOfTwo
  exact ⟨ownScalar, peerScalar, own, peer, same, nonZero⟩

end HoprTypes.Crypto
