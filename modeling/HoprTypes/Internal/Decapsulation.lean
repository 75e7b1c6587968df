import HoprTypes.Internal.Announcement

/-!
# Announced addresses without a peer id

A multiaddress as a sequence of protocols, of which some are `/p2p` with a peer id.  The
constructor of an announcement appends and removes the last protocol, while decapsulation
cuts at the first peer id.
-/

set_option autoImplicit false

namespace HoprTypes.Internal

open BigEndian HoprTypes.Primitive HoprTypes.Crypto

inductive Protocol (PeerId Other : Type) where
  | p2p (peer : PeerId)
  | other (protocol : Other)
deriving DecidableEq

def Protocol.isP2p {PeerId Other : Type} : Protocol PeerId Other → Bool
  | .p2p _ => true
  | .other _ => false

/-- What the multiaddress crate does, in terms of the protocols of an address. -/
structure ProtocolCrate (Multiaddr PeerId Other : Type) extends MultiaddrCrate Multiaddr where
  peerId : OffchainPublicKey → PeerId
  protocols : Multiaddr → List (Protocol PeerId Other)
  /-- The address of the given protocols. -/
  collect : List (Protocol PeerId Other) → Multiaddr
  protocols_collect : ∀ sequence, protocols (collect sequence) = sequence
  protocols_inj : ∀ {first second}, protocols first = protocols second → first = second
  isEmpty_iff : ∀ multiaddress, isEmpty multiaddress = true ↔ protocols multiaddress = []
  withP2p_own : ∀ {multiaddress key}, (protocols multiaddress).getLast? = some (.p2p (peerId key)) →
    withP2p multiaddress key = .ok multiaddress
  withP2p_foreign : ∀ {multiaddress key peer},
    (protocols multiaddress).getLast? = some (.p2p peer) → peer ≠ peerId key →
      withP2p multiaddress key = .error multiaddress
  withP2p_append : ∀ multiaddress key,
    (∀ peer, (protocols multiaddress).getLast? ≠ some (.p2p peer)) →
      ∃ extended, withP2p multiaddress key = .ok extended ∧
        protocols extended = protocols multiaddress ++ [.p2p (peerId key)]
  protocols_pop : ∀ multiaddress, protocols (pop multiaddress) = (protocols multiaddress).dropLast

variable {Multiaddr PeerId Other : Type} (crate : ProtocolCrate Multiaddr PeerId Other)

/-- Strips the peer id and all that follows it. -/
def decapsulateMultiaddress (multiaddress : Multiaddr) : Multiaddr :=
  crate.collect ((crate.protocols multiaddress).takeWhile fun protocol => !protocol.isP2p)

theorem protocols_decapsulate (multiaddress : Multiaddr) :
    crate.protocols (decapsulateMultiaddress crate multiaddress) =
      (crate.protocols multiaddress).takeWhile fun protocol => !protocol.isP2p :=
  crate.protocols_collect _

/-- An address is its own decapsulation exactly when no protocol of it is a peer id. -/
theorem decapsulate_eq_self_iff (multiaddress : Multiaddr) :
    decapsulateMultiaddress crate multiaddress = multiaddress ↔
      ∀ protocol ∈ crate.protocols multiaddress, protocol.isP2p = false := by
  have cut : decapsulateMultiaddress crate multiaddress = multiaddress ↔
      (crate.protocols multiaddress).takeWhile (fun protocol => !protocol.isP2p) =
        crate.protocols multiaddress := by
    constructor
    · intro same
      rw [← protocols_decapsulate, same]
    · intro same
      apply crate.protocols_inj
      rw [protocols_decapsulate, same]
  rw [cut, List.takeWhile_eq_self_iff]
  simp only [Bool.not_eq_true']

/-- Without the peer id that follows it, an address with no other one is the decapsulated one. -/
theorem eq_decapsulate_of_append {multiaddress address : Multiaddr} {peer : PeerId}
    (split : crate.protocols multiaddress = crate.protocols address ++ [.p2p peer])
    (noPeer : ∀ protocol ∈ crate.protocols address, protocol.isP2p = false) :
    address = decapsulateMultiaddress crate multiaddress := by
  apply crate.protocols_inj
  rw [protocols_decapsulate, split, List.takeWhile_append_of_pos]
  · simp [Protocol.isP2p]
  · intro protocol member
    simp [noPeer protocol member]

/-- No protocol is a peer id if none before the last one is and the last one is not. -/
theorem noPeer_of_dropLast {protocols : List (Protocol PeerId Other)}
    (bare : ∀ peer, protocols.getLast? ≠ some (.p2p peer))
    (noPeer : ∀ protocol ∈ protocols.dropLast, protocol.isP2p = false) :
    ∀ protocol ∈ protocols, protocol.isP2p = false := by
  intro protocol member
  have nonEmpty : protocols ≠ [] := List.ne_nil_of_mem member
  rw [← List.dropLast_concat_getLast nonEmpty] at member
  rcases List.mem_append.mp member with before | atEnd
  · exact noPeer protocol before
  · have last := List.getLast?_eq_some_getLast nonEmpty
    rw [← List.mem_singleton.mp atEnd] at last
    cases protocol with
    | p2p peer => exact absurd last (bare peer)
    | other protocol => rfl

namespace AnnouncementData

def EndsInOtherPeer (keyBinding : KeyBinding) (multiaddress : Multiaddr) : Prop :=
  ∃ peer, (crate.protocols multiaddress).getLast? = some (.p2p peer) ∧
    peer ≠ crate.peerId keyBinding.packetKey

/-- The two outcomes of announcing an address that is not empty and does not end in another
peer id: the peer id at its end is taken off, or the address is kept. -/
theorem new_cases (keyBinding : KeyBinding) (multiaddress : Multiaddr) :
    (crate.protocols multiaddress = [] ∧
        new crate.toMultiaddrCrate keyBinding (some multiaddress) = .error .invalidInput) ∨
      (EndsInOtherPeer crate keyBinding multiaddress ∧
        ∃ cause, new crate.toMultiaddrCrate keyBinding (some multiaddress) = .error cause) ∨
      (∃ address,
        crate.protocols multiaddress =
            crate.protocols address ++ [.p2p (crate.peerId keyBinding.packetKey)] ∧
          new crate.toMultiaddrCrate keyBinding (some multiaddress) =
            .ok ⟨some address, keyBinding⟩) ∨
      (crate.protocols multiaddress ≠ [] ∧
        (∀ peer, (crate.protocols multiaddress).getLast? ≠ some (.p2p peer)) ∧
        new crate.toMultiaddrCrate keyBinding (some multiaddress) =
          .ok ⟨some multiaddress, keyBinding⟩) := by
  by_cases empty : crate.protocols multiaddress = []
  · left
    refine ⟨empty, ?_⟩
    simp only [new]
    rw [if_pos ((crate.isEmpty_iff multiaddress).mpr empty)]
  · right
    have nonEmpty : ¬crate.isEmpty multiaddress = true := by
      rw [crate.isEmpty_iff]
      exact empty
    by_cases trailing : ∃ peer, (crate.protocols multiaddress).getLast? = some (.p2p peer)
    · obtain ⟨peer, last⟩ := trailing
      by_cases own : peer = crate.peerId keyBinding.packetKey
      · right
        left
        subst own
        refine ⟨crate.pop multiaddress, ?_, ?_⟩
        · obtain ⟨front, split⟩ := List.getLast?_eq_some_iff.mp last
          rw [crate.protocols_pop, split, List.dropLast_concat]
        · simp only [new]
          rw [if_neg nonEmpty, crate.withP2p_own last]
      · left
        refine ⟨⟨peer, last, own⟩, ?_⟩
        simp only [new]
        rw [if_neg nonEmpty, crate.withP2p_foreign last own]
        exact ⟨_, rfl⟩
    · right
      right
      have bare : ∀ peer, (crate.protocols multiaddress).getLast? ≠ some (.p2p peer) := by
        intro peer last
        exact trailing ⟨peer, last⟩
      refine ⟨empty, bare, ?_⟩
      obtain ⟨extended, appended, protocols⟩ :=
        crate.withP2p_append multiaddress keyBinding.packetKey bare
      have popped : crate.pop extended = multiaddress := by
        apply crate.protocols_inj
        rw [crate.protocols_pop, protocols, List.dropLast_concat]
      simp only [new]
      rw [if_neg nonEmpty, appended]
      simp only [popped]

/-- What announcing an address must do: an announced address is not empty, has no peer id and
is the decapsulated one, and an address that ends in another peer id is refused. -/
structure Decapsulates (keyBinding : KeyBinding) (multiaddress : Multiaddr) : Prop where
  announced : ∀ announcement,
    new crate.toMultiaddrCrate keyBinding (some multiaddress) = .ok announcement →
      ∃ address, announcement.multiaddress = some address ∧ crate.protocols address ≠ [] ∧
        (∀ protocol ∈ crate.protocols address, protocol.isP2p = false) ∧
        address = decapsulateMultiaddress crate multiaddress
  refused : EndsInOtherPeer crate keyBinding multiaddress →
    ∃ cause, new crate.toMultiaddrCrate keyBinding (some multiaddress) = .error cause

theorem refused_of_endsInOtherPeer {keyBinding : KeyBinding} {multiaddress : Multiaddr}
    (other : EndsInOtherPeer crate keyBinding multiaddress) :
    ∃ cause, new crate.toMultiaddrCrate keyBinding (some multiaddress) = .error cause := by
  obtain ⟨peer, last, foreign⟩ := other
  rcases new_cases crate keyBinding multiaddress with empty | refused | own | kept
  · exact ⟨_, empty.2⟩
  · exact refused.2
  · obtain ⟨address, split, _⟩ := own
    rw [split, List.getLast?_concat] at last
    cases last
    exact absurd rfl foreign
  · exact absurd last (kept.2.1 peer)

theorem decapsulates_iff_of_new {keyBinding : KeyBinding} {multiaddress address : Multiaddr}
    (built : new crate.toMultiaddrCrate keyBinding (some multiaddress) =
      .ok ⟨some address, keyBinding⟩) :
    Decapsulates crate keyBinding multiaddress ↔
      crate.protocols address ≠ [] ∧
        (∀ protocol ∈ crate.protocols address, protocol.isP2p = false) ∧
        address = decapsulateMultiaddress crate multiaddress := by
  constructor
  · intro laws
    obtain ⟨announced, same, rest⟩ := laws.announced _ built
    cases same
    exact rest
  · intro laws
    refine ⟨?_, refused_of_endsInOtherPeer crate⟩
    intro announcement announced
    rw [built] at announced
    cases announced
    exact ⟨address, rfl, laws⟩

theorem decapsulates_of_refused {keyBinding : KeyBinding} {multiaddress : Multiaddr}
    {cause : GeneralError}
    (refused : new crate.toMultiaddrCrate keyBinding (some multiaddress) = .error cause) :
    Decapsulates crate keyBinding multiaddress := by
  refine ⟨?_, refused_of_endsInOtherPeer crate⟩
  intro announcement announced
  rw [refused] at announced
  cases announced

/-- Announcing decapsulates exactly the addresses that end in another peer id, and those
without a peer id before their last protocol, other than the own peer id alone. -/
theorem decapsulates_iff (keyBinding : KeyBinding) (multiaddress : Multiaddr) :
    Decapsulates crate keyBinding multiaddress ↔
      EndsInOtherPeer crate keyBinding multiaddress ∨
        (∀ protocol ∈ (crate.protocols multiaddress).dropLast, protocol.isP2p = false) ∧
          crate.protocols multiaddress ≠ [.p2p (crate.peerId keyBinding.packetKey)] := by
  rcases new_cases crate keyBinding multiaddress with
    ⟨empty, refused⟩ | ⟨other, cause, refused⟩ | ⟨address, split, built⟩ | ⟨nonEmpty, bare, built⟩
  · refine iff_of_true (decapsulates_of_refused crate refused) (Or.inr ?_)
    simp [empty]
  · exact iff_of_true (decapsulates_of_refused crate refused) (Or.inl other)
  · rw [decapsulates_iff_of_new crate built, split, List.dropLast_concat]
    constructor
    · intro laws
      right
      refine ⟨laws.2.1, ?_⟩
      intro only
      exact laws.1 (List.append_left_eq_self.mp only)
    · intro holds
      rcases holds with other | ⟨noPeer, more⟩
      · obtain ⟨cause, refused⟩ := refused_of_endsInOtherPeer crate other
        rw [refused] at built
        cases built
      · refine ⟨?_, noPeer, eq_decapsulate_of_append crate split noPeer⟩
        intro empty
        rw [empty] at more
        exact more rfl
  · rw [decapsulates_iff_of_new crate built]
    constructor
    · intro laws
      right
      refine ⟨?_, ?_⟩
      · intro protocol member
        exact laws.2.1 protocol (List.mem_of_mem_dropLast member)
      · intro only
        apply bare (crate.peerId keyBinding.packetKey)
        rw [only]
        rfl
    · intro holds
      rcases holds with ⟨peer, trailing, _⟩ | ⟨noPeer, _⟩
      · exact absurd trailing (bare peer)
      · have all := noPeer_of_dropLast bare noPeer
        exact ⟨nonEmpty, all, ((decapsulate_eq_self_iff crate multiaddress).mpr all).symm⟩

end AnnouncementData

/-! ## Addresses as lists of protocols -/

/-- The crate on lists of protocols; the texts are those of an address that fits in memory. -/
def protocolLists (peerIdText : OffchainPublicKey → String) :
    ProtocolCrate (List (Protocol OffchainPublicKey String)) OffchainPublicKey String where
  isEmpty multiaddress := multiaddress.isEmpty
  withP2p multiaddress key :=
    match multiaddress.getLast? with
    | some (.p2p peer) => if peer = key then .ok multiaddress else .error multiaddress
    | _ => .ok (multiaddress ++ [.p2p key])
  pop multiaddress := multiaddress.dropLast
  display multiaddress :=
    let text := String.join (multiaddress.map fun protocol =>
      match protocol with
      | .p2p peer => "/p2p/" ++ peerIdText peer
      | .other protocol => "/" ++ protocol)
    if (utf8 text).length ≤ isizeMax then text else ""
  display_fits multiaddress := by
    dsimp only
    split
    · assumption
    · decide
  parse _ := none
  peerIdText := peerIdText
  peerId key := key
  protocols multiaddress := multiaddress
  collect sequence := sequence
  protocols_collect _ := rfl
  protocols_inj same := same
  isEmpty_iff multiaddress := List.isEmpty_iff
  withP2p_own last := by rw [last]; exact if_pos rfl
  withP2p_foreign last foreign := by rw [last]; exact if_neg foreign
  withP2p_append multiaddress key bare := by
    split
    · rename_i peer last
      exact absurd last (bare peer)
    · exact ⟨_, rfl, rfl⟩
  protocols_pop _ := rfl

def zeroBinding : KeyBinding where
  chainKey := Address.zero
  packetKey := beBytes 32 0
  signature := ⟨List.replicate 64 0, by decide⟩

/-- The own peer id alone is announced as the empty address. -/
theorem not_decapsulates_own_peerId :
    ¬∀ (keyBinding : KeyBinding) (multiaddress : List (Protocol OffchainPublicKey String)),
      AnnouncementData.Decapsulates
        (protocolLists fun _ => "12D3KooWPGsW7vCu9t9Z6mF8iVQvEzNnJGN2LqM4vqQSpkcvKfUq")
        keyBinding multiaddress := by
  intro laws
  have law := laws zeroBinding [.p2p zeroBinding.packetKey]
  obtain ⟨address, same, nonEmpty, _⟩ := law.announced ⟨some [], zeroBinding⟩ rfl
  cases same
  exact nonEmpty rfl

end HoprTypes.Internal
