import HoprTypes.Crypto.Signing
import HoprTypes.Internal.Errors
import HoprTypes.Lib.Primality

/-!
# Acknowledgements

Single and batched verification of packet acknowledgements.  The batch is first
checked as a whole; only when that fails are its entries checked one by one.
-/

set_option autoImplicit false

namespace HoprTypes.Internal

open BigEndian HoprTypes.Primitive HoprTypes.Crypto

structure Acknowledgement where
  bytes : FixedBytes 96
deriving DecidableEq

structure VerifiedAcknowledgement where
  ackKeyShare : HalfKey
  signature : OffchainSignature
deriving DecidableEq

def minBatchSize : Nat := 4

def VerifiedAcknowledgement.leak (verified : VerifiedAcknowledgement) : Acknowledgement :=
  ⟨⟨verified.ackKeyShare.toList ++ verified.signature.toList, by simp⟩⟩

namespace Acknowledgement

variable {VerifyingKey : Type} (ed25519 : Ed25519 VerifyingKey)

def keyShareBytes (ack : Acknowledgement) : Bytes := slice ack.bytes.toList 0 32

def signatureBytes (ack : Acknowledgement) : Bytes := slice ack.bytes.toList 32 64

def verify (ack : Acknowledgement) (senderNodeKey : OffchainPublicKey) :
    Except CoreTypesError VerifiedAcknowledgement := do
  let signature ← (OffchainSignature.tryFrom ack.signatureBytes).mapErr
    CoreTypesError.generalError
  if signature.verifyMessage ed25519 ack.keyShareBytes senderNodeKey then do
    let ackKeyShare ← (HalfKey.tryFrom ack.keyShareBytes).mapErr CoreTypesError.generalError
    .ok ⟨ackKeyShare, signature⟩
  else .error .invalidAcknowledgement

def parse (ack : Acknowledgement) : Except GeneralError (HalfKey × OffchainSignature) := do
  let ackKeyShare ← HalfKey.tryFrom ack.keyShareBytes
  let signature ← OffchainSignature.tryFrom ack.signatureBytes
  .ok (ackKeyShare, signature)

/-! ## The batch -/

structure BatchRecord where
  optimisticResult : List (Except CoreTypesError VerifiedAcknowledgement)
  keys : List (Option OffchainPublicKey)

def BatchRecord.push (record : BatchRecord)
    (result : Except CoreTypesError VerifiedAcknowledgement) (key : Option OffchainPublicKey) :
    BatchRecord where
  optimisticResult := record.optimisticResult ++ [result]
  keys := record.keys ++ [key]

/-- The batch verifier pulls the entries one by one, and records each as it is pulled.  It stops
pulling at a key that is not a curve point. -/
def optimisticPass (record : BatchRecord) (inputs : OffchainSignature.BatchInputs VerifyingKey) :
    List (OffchainPublicKey × Acknowledgement) →
      BatchRecord × Option (OffchainSignature.BatchInputs VerifyingKey)
  | [] => (record, some inputs)
  | (key, ack) :: rest =>
      match ack.parse with
      | .ok (ackKeyShare, signature) =>
          let record := record.push (.ok ⟨ackKeyShare, signature⟩) (some key)
          match inputs.add ed25519 ⟨ackKeyShare.toList, signature, key⟩ with
          | some inputs => optimisticPass record inputs rest
          | none => (record, none)
      | .error cause => optimisticPass (record.push (.error (.generalError cause)) none) inputs rest

def optimisticCheck : Option (OffchainSignature.BatchInputs VerifyingKey) → Bool
  | some inputs => ed25519.verifyBatch inputs.messages inputs.signatures inputs.publicKeys
  | none => false

def recheckEntry : Option OffchainPublicKey × Except CoreTypesError VerifiedAcknowledgement →
    Option (Except CoreTypesError VerifiedAcknowledgement)
  | (some key, .ok verified) => some (verified.leak.verify ed25519 key)
  | _ => none

def recheck (record : BatchRecord) : List (Except CoreTypesError VerifiedAcknowledgement) :=
  (record.keys.zip record.optimisticResult).filterMap (recheckEntry ed25519)

/-- Verifies acknowledgements; `sizeLowerBound` is the lower bound of the iterator's size, and
`recheck` what a build does with the record of a batch that is not accepted as a whole. -/
def verifyBatchWith (recheck : BatchRecord → List (Except CoreTypesError VerifiedAcknowledgement))
    (sizeLowerBound : Nat) (acknowledgements : List (OffchainPublicKey × Acknowledgement)) :
    List (Except CoreTypesError VerifiedAcknowledgement) :=
  if sizeLowerBound < minBatchSize then
    acknowledgements.map fun entry => entry.2.verify ed25519 entry.1
  else
    let (record, inputs) := optimisticPass ed25519 ⟨[], []⟩ ⟨[], [], [], []⟩ acknowledgements
    if optimisticCheck ed25519 inputs then record.optimisticResult else recheck record

def verifyBatch (sizeLowerBound : Nat)
    (acknowledgements : List (OffchainPublicKey × Acknowledgement)) :
    List (Except CoreTypesError VerifiedAcknowledgement) :=
  verifyBatchWith ed25519 (recheck ed25519) sizeLowerBound acknowledgements

/-! ## Parsing never fails -/

def keyShare (ack : Acknowledgement) : HalfKey := ⟨ack.keyShareBytes, length_slice (by simp)⟩

def signature (ack : Acknowledgement) : OffchainSignature :=
  ⟨ack.signatureBytes, length_slice (by simp)⟩

theorem parse_eq (ack : Acknowledgement) : ack.parse = .ok (ack.keyShare, ack.signature) := by
  have share : HalfKey.tryFrom ack.keyShareBytes = .ok ack.keyShare := tryFromSlice_eq_ok.mpr rfl
  have signature : OffchainSignature.tryFrom ack.signatureBytes = .ok ack.signature :=
    tryFromSlice_eq_ok.mpr rfl
  rw [parse, share, signature]
  rfl

theorem leak_keyShare_signature (ack : Acknowledgement) :
    (⟨ack.keyShare, ack.signature⟩ : VerifiedAcknowledgement).leak = ack := by
  have bytes : ack.keyShareBytes ++ ack.signatureBytes = ack.bytes.toList := by
    rw [keyShareBytes, signatureBytes]
    simp only [slice, List.drop_zero]
    rw [List.take_of_length_le (by simp : (ack.bytes.toList.drop 32).length ≤ 64),
      List.take_append_drop]
  cases ack
  simp only [VerifiedAcknowledgement.leak, mk.injEq]
  ext1
  exact bytes

theorem verify_eq (ack : Acknowledgement) (key : OffchainPublicKey) :
    ack.verify ed25519 key =
      if ack.signature.verifyMessage ed25519 ack.keyShareBytes key then
        .ok ⟨ack.keyShare, ack.signature⟩
      else .error .invalidAcknowledgement := by
  have share : HalfKey.tryFrom ack.keyShareBytes = .ok ack.keyShare := tryFromSlice_eq_ok.mpr rfl
  have signature : OffchainSignature.tryFrom ack.signatureBytes = .ok ack.signature :=
    tryFromSlice_eq_ok.mpr rfl
  rw [verify, signature, share]
  rfl

/-! ## The whole pass -/

def batchEntry (entry : OffchainPublicKey × Acknowledgement) : OffchainSignature.BatchEntry :=
  ⟨entry.2.keyShareBytes, entry.2.signature, entry.1⟩

def optimisticEntry (entry : OffchainPublicKey × Acknowledgement) : VerifiedAcknowledgement :=
  ⟨entry.2.keyShare, entry.2.signature⟩

theorem optimisticPass_snd (record : BatchRecord)
    (inputs : OffchainSignature.BatchInputs VerifyingKey)
    (acknowledgements : List (OffchainPublicKey × Acknowledgement)) :
    (optimisticPass ed25519 record inputs acknowledgements).2 =
      OffchainSignature.collectBatch ed25519 inputs (acknowledgements.map batchEntry) := by
  induction acknowledgements generalizing record inputs with
  | nil => rfl
  | cons entry rest ih =>
      obtain ⟨key, ack⟩ := entry
      have sees : (⟨ack.keyShare.toList, ack.signature, key⟩ : OffchainSignature.BatchEntry) =
          batchEntry (key, ack) := rfl
      rw [optimisticPass, parse_eq, List.map_cons, OffchainSignature.collectBatch]
      dsimp only
      rw [sees]
      cases inputs.add ed25519 (batchEntry (key, ack)) with
      | none => rfl
      | some next => exact ih _ _

theorem optimisticPass_fst {record : BatchRecord}
    {inputs final : OffchainSignature.BatchInputs VerifyingKey}
    {acknowledgements : List (OffchainPublicKey × Acknowledgement)}
    (complete : (optimisticPass ed25519 record inputs acknowledgements).2 = some final) :
    (optimisticPass ed25519 record inputs acknowledgements).1 =
      ⟨record.optimisticResult ++ acknowledgements.map (fun entry => .ok (optimisticEntry entry)),
        record.keys ++ acknowledgements.map fun entry => some entry.1⟩ := by
  induction acknowledgements generalizing record inputs with
  | nil => simp [optimisticPass]
  | cons entry rest ih =>
      obtain ⟨key, ack⟩ := entry
      rw [optimisticPass, parse_eq] at complete ⊢
      dsimp only at complete ⊢
      cases added : inputs.add ed25519 ⟨ack.keyShare.toList, ack.signature, key⟩ with
      | none =>
          rw [added] at complete
          cases complete
      | some next =>
          rw [added] at complete
          dsimp only at complete ⊢
          rw [ih complete]
          simp [BatchRecord.push, optimisticEntry]

theorem recheck_complete (acknowledgements : List (OffchainPublicKey × Acknowledgement)) :
    recheck ed25519
        ⟨acknowledgements.map (fun entry => .ok (optimisticEntry entry)),
          acknowledgements.map fun entry => some entry.1⟩ =
      acknowledgements.map fun entry => entry.2.verify ed25519 entry.1 := by
  unfold recheck
  induction acknowledgements with
  | nil => rfl
  | cons entry rest ih =>
      simp only [List.map_cons, List.zip_cons_cons, List.filterMap_cons]
      rw [ih, recheckEntry, optimisticEntry, leak_keyShare_signature]

/-! ## Batched and single verification -/

/-- The two verification equations: strict verification also refuses small-order points, the
batch verifier checks the plain equation of every entry. -/
structure VerificationEquations where
  plain : VerifyingKey → Bytes → OffchainSignature → Bool
  smallOrderKey : VerifyingKey → Bool
  smallOrderR : OffchainSignature → Bool
  strict : ∀ key message signature, ed25519.verifyStrict key message signature =
    (plain key message signature && !smallOrderKey key && !smallOrderR signature)
  batch : ∀ entries : List (Bytes × OffchainSignature × VerifyingKey),
    ed25519.verifyBatch (entries.map fun entry => entry.1) (entries.map fun entry => entry.2.1)
        (entries.map fun entry => entry.2.2) =
      entries.all fun entry => plain entry.2.2 entry.1 entry.2.1

variable {ed25519} (equations : VerificationEquations ed25519)

def PlainHolds (entry : OffchainPublicKey × Acknowledgement) : Prop :=
  ∃ verifying, ed25519.tryFrom entry.1 = some verifying ∧
    equations.plain verifying entry.2.keyShareBytes entry.2.signature = true

/-- The key or the point `R` of the entry has small order. -/
def SmallOrder (entry : OffchainPublicKey × Acknowledgement) : Prop :=
  equations.smallOrderR entry.2.signature = true ∨
    ∃ verifying, ed25519.tryFrom entry.1 = some verifying ∧
      equations.smallOrderKey verifying = true

/-- The result for every entry is Ok exactly when its single verification is, with the same
value. -/
def AgreesWithSingle (ed25519 : Ed25519 VerifyingKey)
    (results : List (Except CoreTypesError VerifiedAcknowledgement))
    (acknowledgements : List (OffchainPublicKey × Acknowledgement)) : Prop :=
  ∀ (index : Nat) (verified : VerifiedAcknowledgement),
    results[index]? = some (.ok verified) ↔
      ∃ entry, acknowledgements[index]? = some entry ∧
        entry.2.verify ed25519 entry.1 = .ok verified

theorem agreesWithSingle_map (acknowledgements : List (OffchainPublicKey × Acknowledgement)) :
    AgreesWithSingle ed25519
      (acknowledgements.map fun entry => entry.2.verify ed25519 entry.1) acknowledgements := by
  intro index verified
  rw [List.getElem?_map, Option.map_eq_some_iff]

include equations in
theorem verifyMessage_eq_true {entry : OffchainPublicKey × Acknowledgement} :
    entry.2.signature.verifyMessage ed25519 entry.2.keyShareBytes entry.1 = true ↔
      PlainHolds equations entry ∧ ¬ SmallOrder equations entry := by
  unfold OffchainSignature.verifyMessage PlainHolds SmallOrder
  cases ed25519.tryFrom entry.1 with
  | none => simp
  | some verifying =>
      simp only [equations.strict, Option.some.injEq, Bool.and_eq_true, Bool.not_eq_true',
        exists_eq_left', not_or, Bool.not_eq_true, and_assoc]
      rw [and_comm (a := _ = false)]

include equations in
/-- Single verification accepts exactly the entries whose equation holds on points of large
order. -/
theorem verify_eq_ok {entry : OffchainPublicKey × Acknowledgement}
    {verified : VerifiedAcknowledgement} :
    entry.2.verify ed25519 entry.1 = .ok verified ↔
      PlainHolds equations entry ∧ ¬ SmallOrder equations entry ∧
        verified = optimisticEntry entry := by
  rw [verify_eq, okIf_eq_ok, verifyMessage_eq_true equations]
  constructor
  · rintro ⟨⟨holds, large⟩, same⟩
    exact ⟨holds, large, same.symm⟩
  · rintro ⟨holds, large, same⟩
    exact ⟨⟨holds, large⟩, same.symm⟩

theorem mapM_tryFrom {acknowledgements : List (OffchainPublicKey × Acknowledgement)}
    (validKeys : ∀ entry ∈ acknowledgements, (ed25519.tryFrom entry.1).isSome) :
    ∃ inputs : List (Bytes × OffchainSignature × VerifyingKey),
      (acknowledgements.map batchEntry).mapM (fun entry => ed25519.tryFrom entry.publicKey) =
        some (inputs.map fun input => input.2.2) ∧
      (acknowledgements.map batchEntry).map OffchainSignature.BatchEntry.message =
        inputs.map (fun input => input.1) ∧
      (acknowledgements.map batchEntry).map OffchainSignature.BatchEntry.signature =
        inputs.map (fun input => input.2.1) ∧
      ((inputs.all fun input => equations.plain input.2.2 input.1 input.2.1) = true ↔
        ∀ entry ∈ acknowledgements, PlainHolds equations entry) := by
  induction acknowledgements with
  | nil => exact ⟨[], rfl, rfl, rfl, by simp⟩
  | cons entry rest ih =>
      obtain ⟨inputs, keys, messages, signatures, plain⟩ :=
        ih fun entry member => validKeys entry (List.mem_cons_of_mem _ member)
      obtain ⟨verifying, converted⟩ := Option.isSome_iff_exists.mp (validKeys entry (by simp))
      refine ⟨(entry.2.keyShareBytes, entry.2.signature, verifying) :: inputs, ?_, ?_, ?_, ?_⟩
      · rw [List.map_cons, List.mapM_cons, keys, batchEntry, converted]
        rfl
      · rw [List.map_cons, List.map_cons, messages]
        rfl
      · rw [List.map_cons, List.map_cons, signatures]
        rfl
      · rw [List.all_cons, Bool.and_eq_true, plain, List.forall_mem_cons]
        have first : equations.plain verifying entry.2.keyShareBytes entry.2.signature = true ↔
            PlainHolds equations entry := by
          constructor
          · intro holds
            exact ⟨verifying, converted, holds⟩
          · rintro ⟨other, otherConverted, holds⟩
            rw [converted] at otherConverted
            cases otherConverted
            exact holds
        rw [first]

theorem noneSeen_remembers :
    (⟨[], [], [], []⟩ : OffchainSignature.BatchInputs VerifyingKey).Remembers ed25519 :=
  Memo.computed_nil

/-- With valid keys, the check of the collected inputs decides between the recorded and the
single results of a large batch. -/
theorem verifyBatch_collected {sizeLowerBound : Nat} (large : ¬ sizeLowerBound < minBatchSize)
    {acknowledgements : List (OffchainPublicKey × Acknowledgement)} {keys : List VerifyingKey}
    (converted : (acknowledgements.map batchEntry).mapM
      (fun entry => ed25519.tryFrom entry.publicKey) = some keys) :
    ∃ final, OffchainSignature.collectBatch ed25519 ⟨[], [], [], []⟩
        (acknowledgements.map batchEntry) = some final ∧
      final.messages = (acknowledgements.map batchEntry).map OffchainSignature.BatchEntry.message ∧
      final.signatures =
        (acknowledgements.map batchEntry).map OffchainSignature.BatchEntry.signature ∧
      final.publicKeys = keys ∧
      verifyBatch ed25519 sizeLowerBound acknowledgements =
        if optimisticCheck ed25519 (some final) then
          acknowledgements.map fun entry => .ok (optimisticEntry entry)
        else acknowledgements.map fun entry => entry.2.verify ed25519 entry.1 := by
  obtain ⟨final, collected, messages, signatures, publicKeys⟩ :=
    OffchainSignature.collectBatch_spec ed25519 _ noneSeen_remembers converted
  have pulled : (optimisticPass ed25519 ⟨[], []⟩ ⟨[], [], [], []⟩ acknowledgements).2 =
      some final := by
    rw [optimisticPass_snd, collected]
  have recorded := optimisticPass_fst ed25519 pulled
  refine ⟨final, collected, messages, signatures, publicKeys, ?_⟩
  rw [verifyBatch, verifyBatchWith, if_neg large]
  dsimp only
  rw [pulled, recorded, List.nil_append, List.nil_append, recheck_complete]

/-- With valid keys, a large batch is accepted as a whole if every plain equation holds, and
verified entry by entry otherwise. -/
theorem verifyBatch_eq {sizeLowerBound : Nat} (large : ¬ sizeLowerBound < minBatchSize)
    {acknowledgements : List (OffchainPublicKey × Acknowledgement)}
    (validKeys : ∀ entry ∈ acknowledgements, (ed25519.tryFrom entry.1).isSome) :
    ((∀ entry ∈ acknowledgements, PlainHolds equations entry) ∧
        verifyBatch ed25519 sizeLowerBound acknowledgements =
          acknowledgements.map fun entry => .ok (optimisticEntry entry)) ∨
      (¬ (∀ entry ∈ acknowledgements, PlainHolds equations entry) ∧
        verifyBatch ed25519 sizeLowerBound acknowledgements =
          acknowledgements.map fun entry => entry.2.verify ed25519 entry.1) := by
  obtain ⟨inputs, keys, messages, signatures, plain⟩ := mapM_tryFrom equations validKeys
  obtain ⟨final, _, finalMessages, finalSignatures, finalKeys, results⟩ :=
    verifyBatch_collected large keys
  have check : optimisticCheck ed25519 (some final) =
      inputs.all fun input => equations.plain input.2.2 input.1 input.2.1 := by
    rw [optimisticCheck, finalMessages, finalSignatures, finalKeys, messages, signatures,
      ← equations.batch]
  rw [results, check]
  cases accepted : inputs.all fun input => equations.plain input.2.2 input.1 input.2.1 with
  | true => exact Or.inl ⟨plain.mp accepted, rfl⟩
  | false =>
      refine Or.inr ⟨?_, rfl⟩
      intro holds
      rw [plain.mpr holds] at accepted
      cases accepted

/-- With valid keys, batched verification agrees with single verification exactly when the batch
is too small for the batch verifier, or some entry fails the plain equation, or no entry has a
point of small order. -/
theorem verifyBatch_agrees_iff (sizeLowerBound : Nat)
    (acknowledgements : List (OffchainPublicKey × Acknowledgement))
    (validKeys : ∀ entry ∈ acknowledgements, (ed25519.tryFrom entry.1).isSome) :
    AgreesWithSingle ed25519 (verifyBatch ed25519 sizeLowerBound acknowledgements)
        acknowledgements ↔
      (sizeLowerBound < minBatchSize ∨
        (∃ entry ∈ acknowledgements, ¬ PlainHolds equations entry) ∨
        ∀ entry ∈ acknowledgements, ¬ SmallOrder equations entry) := by
  by_cases small : sizeLowerBound < minBatchSize
  · have sequential : verifyBatch ed25519 sizeLowerBound acknowledgements =
        acknowledgements.map fun entry => entry.2.verify ed25519 entry.1 := if_pos small
    rw [sequential]
    exact ⟨fun _ => Or.inl small, fun _ => agreesWithSingle_map acknowledgements⟩
  · rcases verifyBatch_eq equations small validKeys with ⟨holds, results⟩ | ⟨fails, results⟩
    · rw [results]
      constructor
      · intro agrees
        refine Or.inr (Or.inr ?_)
        intro entry member
        obtain ⟨index, inRange, found⟩ := List.getElem_of_mem member
        have present : acknowledgements[index]? = some entry := by
          rw [List.getElem?_eq_getElem inRange, found]
        have accepted : (acknowledgements.map fun entry =>
            (Except.ok (optimisticEntry entry) :
              Except CoreTypesError VerifiedAcknowledgement))[index]? =
            some (.ok (optimisticEntry entry)) := by
          rw [List.getElem?_map, present]
          rfl
        obtain ⟨other, otherPresent, single⟩ := (agrees index _).mp accepted
        rw [present] at otherPresent
        cases otherPresent
        exact ((verify_eq_ok equations).mp single).2.1
      · intro condition index verified
        have large : ∀ entry ∈ acknowledgements, ¬ SmallOrder equations entry := by
          rcases condition with bound | ⟨entry, member, fails⟩ | large
          · exact absurd bound small
          · exact absurd (holds entry member) fails
          · exact large
        rw [List.getElem?_map, Option.map_eq_some_iff]
        constructor
        · rintro ⟨entry, present, same⟩
          have member := List.mem_of_getElem? present
          exact ⟨entry, present, (verify_eq_ok equations).mpr
            ⟨holds entry member, large entry member, (Except.ok.inj same).symm⟩⟩
        · rintro ⟨entry, present, single⟩
          exact ⟨entry, present, by rw [((verify_eq_ok equations).mp single).2.2]⟩
    · rw [results]
      push Not at fails
      obtain ⟨entry, member, failing⟩ := fails
      exact ⟨fun _ => Or.inr (Or.inl ⟨entry, member, failing⟩),
        fun _ => agreesWithSingle_map acknowledgements⟩

/-! ## A batch of identity points -/

/-- The encoding of the identity point, also the signature `R = identity`, `s = 0`. -/
def identityEncoding (size : Nat) (nonempty : 0 < size) : FixedBytes size :=
  ⟨1 :: List.replicate (size - 1) 0, by rw [List.length_cons, List.length_replicate]; omega⟩

def identityKey : OffchainPublicKey := identityEncoding 32 (by decide)

def identitySignature : OffchainSignature := identityEncoding 64 (by decide)

def edwardsModulus : Nat := 2 ^ 255 - 19

/-- The coefficient of the Edwards form of the curve, `-121665/121666`. -/
def edwardsD : Nat := 0x52036cee2b6ffe738cc740797779e89800700a4d4141d8ab75eb4dca135978a3

/-- Whether the bytes are those of a point: the number without the sign bit is a second coordinate
where `(y² - 1) / (d·y² + 1)` is a square, by Euler's criterion. -/
def isEdwardsPoint (key : OffchainPublicKey) : Bool :=
  let y := ofBE key.toList.reverse % 2 ^ 255
  let u := (y * y + edwardsModulus - 1) % edwardsModulus
  let v := (edwardsD * (y * y) + 1) % edwardsModulus
  Primality.powMod edwardsModulus 255 (u * v) ((edwardsModulus - 1) / 2) != edwardsModulus - 1

/-- The Ed25519 crate: it converts the keys that are points, and here verifies under each of them
as under the identity. -/
def identityEd25519 : Ed25519 Unit where
  tryFrom key := if isEdwardsPoint key then some () else none
  verifyStrict _ _ _ := false
  verifyBatch _ signatures _ := signatures.all (· == identitySignature)

/-- Under the identity as the key, the equation holds for `R = s·B`, here for `s = 0`. -/
def identityEquations : VerificationEquations identityEd25519 where
  plain _ _ signature := signature == identitySignature
  smallOrderKey _ := true
  smallOrderR signature := signature == identitySignature
  strict := by
    intro key message signature
    simp [identityEd25519]
  batch := by
    intro entries
    simp only [identityEd25519, List.all_map]
    rfl

def identityAcknowledgement : Acknowledgement :=
  (⟨⟨List.replicate 32 7, by decide⟩, identitySignature⟩ : VerifiedAcknowledgement).leak

def identityBatch : List (OffchainPublicKey × Acknowledgement) :=
  List.replicate 4 (identityKey, identityAcknowledgement)

theorem tryFrom_identityKey : identityEd25519.tryFrom identityKey = some () := by decide +kernel

theorem identityBatch_validKeys :
    ∀ entry ∈ identityBatch, (identityEd25519.tryFrom entry.1).isSome := by
  intro entry member
  rw [List.eq_of_mem_replicate member, tryFrom_identityKey]
  rfl

theorem verifyBatch_agrees_iff_identityBatch :
    AgreesWithSingle identityEd25519 (verifyBatch identityEd25519 3 identityBatch)
        identityBatch ↔
      (3 < minBatchSize ∨
        (∃ entry ∈ identityBatch, ¬ PlainHolds identityEquations entry) ∨
        ∀ entry ∈ identityBatch, ¬ SmallOrder identityEquations entry) :=
  verifyBatch_agrees_iff identityEquations 3 identityBatch identityBatch_validKeys

/-- The batch of four accepts what single verification refuses. -/
theorem verifyBatch_identityBatch :
    (∀ entry ∈ identityBatch, (identityEd25519.tryFrom entry.1).isSome) ∧
      ¬ AgreesWithSingle identityEd25519 (verifyBatch identityEd25519 4 identityBatch)
        identityBatch := by
  refine ⟨identityBatch_validKeys, ?_⟩
  intro agrees
  have accepted : (verifyBatch identityEd25519 4 identityBatch)[0]? =
      some (.ok (optimisticEntry (identityKey, identityAcknowledgement))) := by decide +kernel
  obtain ⟨entry, present, single⟩ := (agrees 0 _).mp accepted
  have refused := ((verify_eq_ok identityEquations).mp single).2.1
  have key : entry = (identityKey, identityAcknowledgement) := (Option.some.inj present).symm
  apply refused
  rw [key]
  exact Or.inr ⟨(), tryFrom_identityKey, rfl⟩

end Acknowledgement

end HoprTypes.Internal
