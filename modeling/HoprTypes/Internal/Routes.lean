import Mathlib
import HoprTypes.Internal.Path

/-!
# Routes put together and turned around

A validated path can be cut at any of its relays and put together again, and turned around where
the channels allow it.
-/

set_option autoImplicit false

namespace HoprTypes.Internal

open BigEndian HoprTypes.Primitive HoprTypes.Crypto

/-! ## The kinds of paths -/

/-- The intermediate hops of a route; there may be none. -/
abbrev ChannelPath := List Address

def ChannelPath.invert (path : ChannelPath) : Option ChannelPath := some path.reverse

namespace ChainPath

def fromChannelPath (path : ChannelPath) (destination : Address) : ChainPath :=
  ⟨path ++ [destination]⟩

def intoChannelPath (path : ChainPath) : ChannelPath := path.hops.dropLast

theorem eq_fromChannelPath {path : ChainPath} (nonempty : path.hops ≠ []) :
    path = fromChannelPath path.intoChannelPath (path.hops.getLast nonempty) := by
  rw [fromChannelPath, intoChannelPath, List.dropLast_append_getLast nonempty]

end ChainPath

namespace ValidatedPath

def direct (dstKey : OffchainPublicKey) (dstAddress : Address) : ValidatedPath :=
  ⟨⟨[dstKey]⟩, ⟨[dstAddress]⟩⟩

def append (first second : ValidatedPath) : ValidatedPath :=
  ⟨⟨first.transportPath.hops ++ second.transportPath.hops⟩,
    ⟨first.chainPath.hops ++ second.chainPath.hops⟩⟩

variable (resolver : PathAddressResolver)

theorem new_single_iff {origin hop : NodeId} {validated : ValidatedPath} :
    new resolver origin [hop] = .ok validated ↔
      ∃ issuer key address, nodeAddress resolver origin = some issuer ∧
        nodeAddress resolver hop = some address ∧ nodeKey resolver hop = some key ∧
        issuer ≠ address ∧ validated = direct key address := by
  rw [new_eq_ok]
  constructor
  · rintro ⟨issuer, found, accepted⟩
    obtain ⟨⟨keys⟩, ⟨addrs⟩⟩ := validated
    obtain ⟨address, rfl, hopAddress⟩ := List.map_eq_singleton_iff.mp accepted.hopAddresses.symm
    obtain ⟨key, rfl, hopKey⟩ := List.map_eq_singleton_iff.mp accepted.hopKeys.symm
    exact ⟨issuer, key, address, found, hopAddress.symm, hopKey.symm, accepted.noLoops.rel, rfl⟩
  · rintro ⟨issuer, key, address, found, hopAddress, hopKey, different, rfl⟩
    exact ⟨issuer, found, by simp, by simp [hopAddress, direct], by simp [hopKey, direct],
      by simpa [direct] using different, by simp [direct], trivial⟩

/-! ## Channels along a route -/

/-- All channels on the way are open, the one to the last hop included. -/
def AllChannelsOpen (issuer : Address) (addrs : List Address) : Prop :=
  List.IsChain (ChannelOpen resolver) (issuer :: addrs)

theorem openChannels_append_singleton {issuer : Address} (relays : List Address)
    (destination : Address) :
    OpenChannels resolver issuer (relays ++ [destination]) ↔
      AllChannelsOpen resolver issuer relays := by
  induction relays generalizing issuer with
  | nil => simp [OpenChannels, AllChannelsOpen]
  | cons relay relays ih =>
      rw [List.cons_append, openChannels_cons, ih]
      simp [AllChannelsOpen]

theorem openChannels_append {issuer relay : Address} (front : List Address) {back : List Address}
    (nonempty : back ≠ []) :
    OpenChannels resolver issuer (front ++ relay :: back) ↔
      AllChannelsOpen resolver issuer (front ++ [relay]) ∧ OpenChannels resolver relay back := by
  rw [← List.dropLast_append_getLast nonempty]
  have regroup : front ++ relay :: (back.dropLast ++ [back.getLast nonempty]) =
      (front ++ relay :: back.dropLast) ++ [back.getLast nonempty] := by simp
  rw [regroup, openChannels_append_singleton, openChannels_append_singleton]
  exact List.isChain_cons_split

/-! ## Putting routes together -/

theorem resolved_append_iff {α : Type} {resolve : NodeId → Option α} {front back : List NodeId}
    {relay : NodeId} {values : List α} :
    (front ++ relay :: back).map resolve = values.map some ↔
      ∃ frontValues relayValue backValues, values = frontValues ++ relayValue :: backValues ∧
        front.map resolve = frontValues.map some ∧ resolve relay = some relayValue ∧
        back.map resolve = backValues.map some := by
  constructor
  · intro resolved
    rw [List.map_append, List.map_cons] at resolved
    obtain ⟨frontValues, rest, rfl, frontSame, restSame⟩ :=
      List.append_eq_map_iff.mp resolved
    obtain ⟨relayValue, backValues, rfl, relaySame, backSame⟩ :=
      List.map_eq_cons_iff.mp restSame
    exact ⟨frontValues, relayValue, backValues, rfl, frontSame.symm, relaySame.symm, backSame.symm⟩
  · rintro ⟨frontValues, relayValue, backValues, rfl, frontSame, relaySame, backSame⟩
    rw [List.map_append, List.map_cons, List.map_append, List.map_cons, frontSame, relaySame,
      backSame]

/-- A route behind a relay is accepted where its two parts are, the relay is reached by open
channels, and no address stands in both parts. -/
theorem accepted_append_iff {issuer : Address} {front back : List NodeId} {relay : NodeId}
    (nonempty : back ≠ []) {keys : List OffchainPublicKey} {addrs : List Address} :
    Accepted resolver issuer (front ++ relay :: back) keys addrs ↔
      ∃ firstKeys firstAddrs secondKeys secondAddrs relayAddress,
        keys = firstKeys ++ secondKeys ∧ addrs = firstAddrs ++ secondAddrs ∧
        nodeAddress resolver relay = some relayAddress ∧
        Accepted resolver issuer (front ++ [relay]) firstKeys firstAddrs ∧
        Accepted resolver relayAddress back secondKeys secondAddrs ∧
        AllChannelsOpen resolver issuer firstAddrs ∧ firstAddrs.Disjoint secondAddrs := by
  constructor
  · intro accepted
    obtain ⟨frontAddrs, relayAddress, backAddrs, rfl, frontResolved, relayResolved,
      backResolved⟩ := resolved_append_iff.mp accepted.hopAddresses
    obtain ⟨frontKeys, relayKey, backKeys, rfl, frontNamed, relayNamed, backNamed⟩ :=
      resolved_append_iff.mp accepted.hopKeys
    have backAddrsNonempty : backAddrs ≠ [] := by
      rintro rfl
      exact nonempty (List.map_eq_nil_iff.mp backResolved)
    obtain ⟨reached, channels⟩ :=
      (openChannels_append resolver frontAddrs backAddrsNonempty).mp accepted.channels
    obtain ⟨frontLoops, backLoops⟩ := List.isChain_cons_split.mp accepted.noLoops
    have regroup : frontAddrs ++ relayAddress :: backAddrs =
        (frontAddrs ++ [relayAddress]) ++ backAddrs := by simp
    have distinct := accepted.distinct
    rw [regroup, List.nodup_append'] at distinct
    have beforeRelay : AllChannelsOpen resolver issuer frontAddrs := by
      rw [AllChannelsOpen, ← List.cons_append] at reached
      exact reached.left_of_append
    refine ⟨frontKeys ++ [relayKey], frontAddrs ++ [relayAddress], backKeys, backAddrs,
      relayAddress, by simp, by simp, relayResolved, ?_, ?_, reached, distinct.2.2⟩
    · exact
        { nonempty := by simp
          hopAddresses := by simp [frontResolved, relayResolved]
          hopKeys := by simp [frontNamed, relayNamed]
          noLoops := frontLoops
          distinct := distinct.1
          channels := (openChannels_append_singleton resolver _ _).mpr beforeRelay }
    · exact ⟨nonempty, backResolved, backNamed, backLoops, distinct.2.1, channels⟩
  · rintro ⟨firstKeys, firstAddrs, secondKeys, secondAddrs, relayAddress, rfl, rfl, relayResolved,
      first, second, reached, disjoint⟩
    obtain ⟨frontAddrs, lastAddress, noAddrs, rfl, frontResolved, lastResolved, noneResolved⟩ :=
      resolved_append_iff.mp first.hopAddresses
    obtain rfl : noAddrs = [] := List.map_eq_nil_iff.mp noneResolved.symm
    obtain rfl : relayAddress = lastAddress := by
      rw [relayResolved] at lastResolved
      exact Option.some.inj lastResolved
    have secondNonempty : secondAddrs ≠ [] := by
      rintro rfl
      exact nonempty (List.map_eq_nil_iff.mp second.hopAddresses)
    have regroup : (frontAddrs ++ [relayAddress]) ++ secondAddrs =
        frontAddrs ++ relayAddress :: secondAddrs := by simp
    refine ⟨by simp, ?_, ?_, ?_, ?_, ?_⟩
    · have regrouped : front ++ relay :: back = (front ++ [relay]) ++ back := by simp
      rw [regrouped, List.map_append, first.hopAddresses, second.hopAddresses,
        ← List.map_append]
    · have regrouped : front ++ relay :: back = (front ++ [relay]) ++ back := by simp
      rw [regrouped, List.map_append, first.hopKeys, second.hopKeys, ← List.map_append]
    · rw [regroup]
      exact List.isChain_cons_split.mpr ⟨first.noLoops, second.noLoops⟩
    · exact List.nodup_append'.mpr ⟨first.distinct, second.distinct, disjoint⟩
    · rw [regroup]
      exact (openChannels_append resolver frontAddrs secondNonempty).mpr
        ⟨reached, second.channels⟩

/-- A path through a relay is valid exactly where the path to the relay and the relay's own path
are, all channels to the relay are open, and no node is on both. -/
theorem new_through_relay_iff (origin relay : NodeId) (front : List NodeId) {back : List NodeId}
    (nonempty : back ≠ []) (whole : ValidatedPath) :
    new resolver origin (front ++ relay :: back) = .ok whole ↔
      ∃ issuer first second, nodeAddress resolver origin = some issuer ∧
        whole = append first second ∧
        new resolver origin (front ++ [relay]) = .ok first ∧
        new resolver relay back = .ok second ∧
        AllChannelsOpen resolver issuer first.chainPath.hops ∧
        first.chainPath.hops.Disjoint second.chainPath.hops := by
  simp only [new_eq_ok, accepted_append_iff resolver nonempty]
  constructor
  · rintro ⟨issuer, found, firstKeys, firstAddrs, secondKeys, secondAddrs, relayAddress, sameKeys,
      sameAddrs, relayFound, first, second, reached, disjoint⟩
    obtain ⟨⟨keys⟩, ⟨addrs⟩⟩ := whole
    exact ⟨issuer, ⟨⟨firstKeys⟩, ⟨firstAddrs⟩⟩, ⟨⟨secondKeys⟩, ⟨secondAddrs⟩⟩, found,
      by rw [append]; exact congrArg₂ _ (congrArg _ sameKeys) (congrArg _ sameAddrs),
      ⟨issuer, found, first⟩, ⟨relayAddress, relayFound, second⟩, reached, disjoint⟩
  · rintro ⟨issuer, first, second, found, rfl, ⟨firstIssuer, firstFound, firstAccepted⟩,
      ⟨relayAddress, relayFound, secondAccepted⟩, reached, disjoint⟩
    obtain rfl : issuer = firstIssuer := by
      rw [found] at firstFound
      exact Option.some.inj firstFound
    exact ⟨issuer, found, _, _, _, _, relayAddress, rfl, rfl, relayFound, firstAccepted,
      secondAccepted, reached, disjoint⟩

/-! ## Turning a route around -/

theorem nodeKey_of_accepted {resolver : PathAddressResolver} (inverse : Inverse resolver)
    {issuer : Address} {path : List NodeId} {keys : List OffchainPublicKey}
    {addrs : List Address} (accepted : Accepted resolver issuer path keys addrs) :
    (addrs.map NodeId.chain).map (nodeKey resolver) = keys.map some := by
  obtain ⟨_, named⟩ := sameNodes_of_resolved inverse accepted.hopAddresses accepted.hopKeys
  rw [← (mapped_of_sameNodes inverse named).2]
  exact accepted.hopKeys

theorem openChannels_return_iff (resolver : PathAddressResolver) (relays : List Address)
    (issuer destination : Address) :
    OpenChannels resolver destination (relays.reverse ++ [issuer]) ↔
      (relays ++ [destination]).IsChain fun near far => ChannelOpen resolver far near := by
  have reversed : (relays ++ [destination]).reverse = destination :: relays.reverse := by simp
  rw [openChannels_append_singleton, AllChannelsOpen, ← reversed, List.isChain_reverse]

theorem accepted_return_iff {resolver : PathAddressResolver} (inverse : Inverse resolver)
    {issuer destination : Address} {path : List NodeId} {keys : List OffchainPublicKey}
    {relays : List Address}
    (accepted : Accepted resolver issuer path keys (relays ++ [destination]))
    {issuerKey : OffchainPublicKey}
    (issuerNamed : nodeKey resolver (.chain issuer) = some issuerKey) :
    (∃ backKeys backAddrs, Accepted resolver destination
        ((relays.reverse ++ [issuer]).map .chain) backKeys backAddrs) ↔
      issuer ∉ relays ∧
        (relays ++ [destination]).IsChain fun near far => ChannelOpen resolver far near := by
  have addresses : ((relays.reverse ++ [issuer]).map NodeId.chain).map (nodeAddress resolver) =
      (relays.reverse ++ [issuer]).map some := by
    rw [List.map_map]
    rfl
  have nodup : (relays.reverse ++ [issuer]).Nodup ↔ issuer ∉ relays := by
    have relaysNodup := (List.nodup_append'.mp accepted.distinct).1
    rw [← List.nodup_reverse, List.reverse_append, List.reverse_reverse]
    simp [relaysNodup]
  rw [← openChannels_return_iff resolver relays issuer destination]
  constructor
  · rintro ⟨backKeys, backAddrs, back⟩
    have same := back.hopAddresses
    rw [addresses] at same
    have sameAddrs := List.map_injective_iff.mpr (Option.some_injective Address) same
    have distinct := back.distinct
    have channels := back.channels
    rw [← sameAddrs] at distinct channels
    exact ⟨nodup.mp distinct, channels⟩
  · rintro ⟨fresh, channels⟩
    have named := nodeKey_of_accepted inverse accepted
    obtain ⟨relayKeys, destinationKeys, rfl, relaysNamed, _⟩ :=
      List.append_eq_map_iff.mp (by simpa using named)
    have loops := accepted.noLoops
    have reversed : (issuer :: (relays ++ [destination])).reverse =
        destination :: (relays.reverse ++ [issuer]) := by simp
    refine ⟨relayKeys.reverse ++ [issuerKey], relays.reverse ++ [issuer], by simp, addresses, ?_,
      ?_, nodup.mpr fresh, channels⟩
    · have front : (relays.map NodeId.chain).map (nodeKey resolver) = relayKeys.map some := by
        rw [List.map_map]
        exact relaysNamed.symm
      rw [List.map_append, List.map_append, List.map_reverse, List.map_reverse, front]
      simp [issuerNamed]
    · rw [← reversed, List.isChain_reverse]
      exact List.IsChain.imp (fun _ _ => Ne.symm) loops

/-- The relays of a validated path lead back to the issuer exactly where the issuer is no relay
itself and every channel between two hops is open the other way, too. -/
theorem new_return_path_iff {resolver : PathAddressResolver} (inverse : Inverse resolver)
    {origin : NodeId} {path : List NodeId} {validated : ValidatedPath}
    (built : new resolver origin path = .ok validated) {issuer : Address}
    (issuerAddress : nodeAddress resolver origin = some issuer) {issuerKey : OffchainPublicKey}
    (issuerNamed : nodeKey resolver origin = some issuerKey) :
    ∃ destination returnRelays,
      validated.chainPath = .fromChannelPath validated.chainPath.intoChannelPath destination ∧
      validated.chainPath.intoChannelPath.invert = some returnRelays ∧
      ((∃ back, new resolver (.chain destination)
          ((ChainPath.fromChannelPath returnRelays issuer).hops.map .chain) = .ok back) ↔
        issuer ∉ validated.chainPath.intoChannelPath ∧
          validated.chainPath.hops.IsChain fun near far => ChannelOpen resolver far near) := by
  obtain ⟨knownIssuer, found, accepted⟩ := (new_eq_ok resolver).mp built
  obtain rfl : issuer = knownIssuer := by
    rw [issuerAddress] at found
    exact Option.some.inj found
  have nonempty : validated.chainPath.hops ≠ [] := by
    intro empty
    have addresses := accepted.hopAddresses
    rw [empty] at addresses
    exact accepted.nonempty (List.map_eq_nil_iff.mp addresses)
  have whole := ChainPath.eq_fromChannelPath nonempty
  refine ⟨_, _, whole, rfl, ?_⟩
  have hops : validated.chainPath.hops = validated.chainPath.intoChannelPath ++
      [validated.chainPath.hops.getLast nonempty] := congrArg ChainPath.hops whole
  have named : nodeKey resolver (.chain issuer) = some issuerKey := by
    have sameNode := (sameNode_of_resolved inverse issuerAddress issuerNamed).2
    rw [← (resolved_of_sameNode inverse sameNode).2]
    exact issuerNamed
  have turned := accepted_return_iff inverse (hops ▸ accepted) named
  rw [← hops] at turned
  rw [← turned]
  simp only [new_eq_ok]
  constructor
  · rintro ⟨back, destination, found, backAccepted⟩
    obtain rfl := Option.some.inj found
    exact ⟨_, _, backAccepted⟩
  · rintro ⟨backKeys, backAddrs, backAccepted⟩
    exact ⟨⟨⟨backKeys⟩, ⟨backAddrs⟩⟩, _, rfl, backAccepted⟩

/-! ## A sample -/

theorem new_through_relay_sample :
    ∃ issuer first second, nodeAddress paddedKeyResolver (.chain Address.zero) = some issuer ∧
      new paddedKeyResolver (.chain Address.zero) [.chain sampleRelay] = .ok first ∧
      new paddedKeyResolver (.chain sampleRelay) [.chain sampleDestination] = .ok second ∧
      AllChannelsOpen paddedKeyResolver issuer first.chainPath.hops := by
  obtain ⟨issuer, first, second, found, _, front, back, reached, _⟩ :=
    (new_through_relay_iff paddedKeyResolver (.chain Address.zero) (.chain sampleRelay) []
      (List.cons_ne_nil (.chain sampleDestination) []) _).mp rfl
  exact ⟨issuer, first, second, found, front, back, reached⟩

theorem new_return_path_sample :
    ∃ destination returnRelays,
      (⟨[sampleRelay, sampleDestination]⟩ : ChainPath) =
        .fromChannelPath [sampleRelay] destination ∧
      ChannelPath.invert [sampleRelay] = some returnRelays ∧
      ((∃ back, new paddedKeyResolver (.chain destination)
          ((ChainPath.fromChannelPath returnRelays Address.zero).hops.map .chain) = .ok back) ↔
        Address.zero ∉ [sampleRelay] ∧
          [sampleRelay, sampleDestination].IsChain fun near far =>
            ChannelOpen paddedKeyResolver far near) :=
  new_return_path_iff paddedKeyResolver_inverse
    (rfl : new paddedKeyResolver (.chain Address.zero)
      [.chain sampleRelay, .chain sampleDestination] = .ok _) rfl rfl

end ValidatedPath

end HoprTypes.Internal
