import HoprTypes.Crypto.Signing

/-!
# The inputs of the batch verifier

What the batch verifier is called with when the keys of a batch are converted through
the memo, and when it is not called at all.
-/

set_option autoImplicit false

namespace HoprTypes.Crypto.OffchainSignature

open BigEndian HoprTypes.Primitive

variable {VerifyingKey : Type} (ed25519 : Ed25519 VerifyingKey)

/-! ## Capacities -/

structure SizeHint where
  lower : Nat
  upper : Option Nat

/-- The hint is right for this number of items. -/
structure SizeHint.Bounds (hint : SizeHint) (length : Nat) : Prop where
  lower_le : hint.lower ≤ length
  le_upper : ∀ upper ∈ hint.upper, length ≤ upper

def SizeHint.filterMap (hint : SizeHint) : SizeHint := ⟨0, hint.upper⟩

def batchCapacityFromSizeHint (hint : SizeHint) : Nat := hint.upper.getD hint.lower

theorem SizeHint.Bounds.filterMap {α β : Type} {hint : SizeHint} {items : List α}
    (bounds : hint.Bounds items.length) (f : α → Option β) :
    hint.filterMap.Bounds (items.filterMap f).length where
  lower_le := Nat.zero_le _
  le_upper := by
    intro upper known
    exact (List.length_filterMap_le f items).trans (bounds.le_upper upper known)

/-- With an upper bound, no more inputs come than there is room reserved for, filtered or not. -/
theorem SizeHint.Bounds.le_batchCapacity {hint : SizeHint} {length : Nat}
    (bounds : hint.Bounds length) (bounded : hint.upper.isSome) :
    length ≤ batchCapacityFromSizeHint hint := by
  obtain ⟨upper, known⟩ := Option.isSome_iff_exists.mp bounded
  rw [batchCapacityFromSizeHint, known]
  exact bounds.le_upper upper known

/-! ## Calls -/

structure VerifierCall (VerifyingKey : Type) where
  messages : List Bytes
  signatures : List OffchainSignature
  publicKeys : List VerifyingKey

def VerifierCall.result (call : VerifierCall VerifyingKey) : Bool :=
  ed25519.verifyBatch call.messages call.signatures call.publicKeys

def verifyBatchCalls (entries : List BatchEntry) : Bool × List (VerifierCall VerifyingKey) :=
  match collectBatch ed25519 ⟨[], [], [], []⟩ entries with
  | some inputs =>
      let call : VerifierCall VerifyingKey :=
        ⟨inputs.messages, inputs.signatures, inputs.publicKeys⟩
      (call.result ed25519, [call])
  | none => (false, [])

theorem verifyBatchCalls_fst (entries : List BatchEntry) :
    (verifyBatchCalls ed25519 entries).1 = verifyBatch ed25519 entries := by
  unfold verifyBatchCalls verifyBatch
  cases collectBatch ed25519 ⟨[], [], [], []⟩ entries with
  | none => rfl
  | some inputs => rfl

/-- At every position stand the message and the signature of the entry, and the key that is
converted from the entry's own bytes. -/
structure VerifierCall.ConvertsDirectly (call : VerifierCall VerifyingKey)
    (entries : List BatchEntry) : Prop where
  messages : call.messages = entries.map BatchEntry.message
  signatures : call.signatures = entries.map BatchEntry.signature
  publicKeys : call.publicKeys.map some = entries.map fun entry => ed25519.tryFrom entry.publicKey

theorem collectBatch_convertsDirectly {entries : List BatchEntry}
    {final : BatchInputs VerifyingKey}
    (collected : collectBatch ed25519 ⟨[], [], [], []⟩ entries = some final) :
    (⟨final.messages, final.signatures, final.publicKeys⟩ :
      VerifierCall VerifyingKey).ConvertsDirectly ed25519 entries := by
  rw [collectBatch_eq_fetchAll] at collected
  obtain ⟨⟨keys, seen⟩, fetched, rfl⟩ := Option.map_eq_some_iff.mp collected
  refine ⟨List.nil_append _, List.nil_append _, ?_⟩
  have values := Memo.fetchAll_values Memo.computed_nil fetched
  rw [List.map_map] at values
  exact values

/-- The memo never holds a key twice, and never more keys than its capacity. -/
theorem collectBatch_bounded {entries : List BatchEntry} {final : BatchInputs VerifyingKey}
    (collected : collectBatch ed25519 ⟨[], [], [], []⟩ entries = some final) :
    Memo.Bounded memoCapacity final.seen := by
  rw [collectBatch_eq_fetchAll] at collected
  obtain ⟨⟨keys, seen⟩, fetched, rfl⟩ := Option.map_eq_some_iff.mp collected
  exact Memo.bounded_nil.fetchAll fetched

/-- The batch verifier is called once, with every entry converted on its own, or a key that does
not convert stops the batch before the call. -/
theorem verifyBatch_converts_directly (entries : List BatchEntry) :
    (verifyBatchCalls ed25519 entries).1 = verifyBatch ed25519 entries ∧
      (verifyBatchCalls ed25519 entries = (false, []) ↔
        ∃ entry ∈ entries, ed25519.tryFrom entry.publicKey = none) ∧
      ((∀ entry ∈ entries, (ed25519.tryFrom entry.publicKey).isSome) →
        ∃ call : VerifierCall VerifyingKey, call.ConvertsDirectly ed25519 entries ∧
          verifyBatchCalls ed25519 entries = (call.result ed25519, [call])) := by
  have stops : collectBatch ed25519 ⟨[], [], [], []⟩ entries = none ↔
      ∃ entry ∈ entries, ed25519.tryFrom entry.publicKey = none := by
    rw [collectBatch_eq_fetchAll, Option.map_eq_none_iff,
      Memo.fetchAll_eq_none_iff Memo.computed_nil]
    simp
  refine ⟨verifyBatchCalls_fst ed25519 entries, ?_, ?_⟩
  · rw [← stops]
    unfold verifyBatchCalls
    cases collectBatch ed25519 ⟨[], [], [], []⟩ entries with
    | none => simp
    | some inputs => simp
  · intro valid
    cases collected : collectBatch ed25519 ⟨[], [], [], []⟩ entries with
    | none =>
        obtain ⟨entry, member, unconverted⟩ := stops.mp collected
        have converts := valid entry member
        rw [unconverted] at converts
        cases converts
    | some inputs =>
        refine ⟨⟨inputs.messages, inputs.signatures, inputs.publicKeys⟩,
          collectBatch_convertsDirectly ed25519 collected, ?_⟩
        rw [verifyBatchCalls, collected]

end HoprTypes.Crypto.OffchainSignature
