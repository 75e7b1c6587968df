import HoprTypes.Crypto.PeerIds
import HoprTypes.Internal.Channels
import Mathlib.Data.List.Dedup

/-!
# Paths

A path names its hops by chain address or by off-chain key.  Validation resolves
every hop both ways, refuses loops, and checks the channel in front of every hop
but the last.
-/

set_option autoImplicit false

namespace HoprTypes.Internal

open BigEndian HoprTypes.Primitive HoprTypes.Crypto

inductive NodeId where
  | chain (address : Address)
  | offchain (key : OffchainPublicKey)
deriving DecidableEq

inductive PathError where
  | pathNotValid
  | invalidPeer (peer : String)
  | missingChannel (source destination : String)
  | channelNotOpened (source destination : String)
  | loopsNotAllowed (peer : String)
  | otherError (cause : GeneralError)
deriving DecidableEq

/-! ## Peer id text -/

def base58Alphabet : List Char :=
  "123456789ABCDEFGHJKLMNPQRSTUVWXYZabcdefghijkmnopqrstuvwxyz".toList

/-- Base58 text: a `1` for every leading zero byte, then the digits of the number. -/
def base58 (bytes : Bytes) : String :=
  let zeros := (bytes.takeWhile (· == 0)).length
  let digits := (Nat.digits 58 (ofBE bytes)).reverse
  String.ofList (List.replicate zeros '1' ++ digits.map fun digit => base58Alphabet.getD digit '1')

def toPeeridStr (key : OffchainPublicKey) : String :=
  base58 (peerIdMultihashPrefix ++ key.toList)

/-! ## Validation -/

structure PathAddressResolver where
  resolveTransportAddress : Address → Except PathError (Option OffchainPublicKey)
  resolveChainAddress : OffchainPublicKey → Except PathError (Option Address)
  getChannel : Address → Address → Except PathError (Option ChannelEntry)

structure TransportPath where
  hops : List OffchainPublicKey
deriving DecidableEq

structure ChainPath where
  hops : List Address
deriving DecidableEq

/-- Checks if a path contains some entry twice, by the size of the set of its nodes. -/
def containsCycle {N : Type} (toNode : N → NodeId) (hops : List N) : Bool :=
  (hops.map toNode).dedup.length != hops.length

def TransportPath.containsCycle (path : TransportPath) : Bool :=
  Internal.containsCycle .offchain path.hops

def ChainPath.containsCycle (path : ChainPath) : Bool :=
  Internal.containsCycle .chain path.hops

structure ValidatedPath where
  transportPath : TransportPath
  chainPath : ChainPath
deriving DecidableEq

namespace ValidatedPath

variable (resolver : PathAddressResolver)

structure LoopState where
  ticketIssuer : Address
  keys : List OffchainPublicKey
  addrs : List Address
  seen : List Address

def resolveOrigin : NodeId → Except PathError Address
  | .chain address => .ok address
  | .offchain key => do
      okOr (.invalidPeer (toPeeridStr key)) (← resolver.resolveChainAddress key)

/-- Both names of a hop: the given one and the resolved one. -/
def resolveHop : NodeId → Except PathError (OffchainPublicKey × Address)
  | .chain address => do
      let key ← okOr (.invalidPeer (toHex address)) (← resolver.resolveTransportAddress address)
      .ok (key, address)
  | .offchain key => do
      let address ← okOr (.invalidPeer (toPeeridStr key)) (← resolver.resolveChainAddress key)
      .ok (key, address)

def checkChannel (ticketIssuer ticketReceiver : Address) : Except PathError Unit := do
  let channel ← okOr (.missingChannel (toHex ticketIssuer) (toHex ticketReceiver))
    (← resolver.getChannel ticketIssuer ticketReceiver)
  if channel.status.eq .open then .ok ()
  else .error (.channelNotOpened (toHex ticketIssuer) (toHex ticketReceiver))

def validateHop (isLast : Bool) (state : LoopState) (hop : NodeId) :
    Except PathError LoopState := do
  let (key, ticketReceiver) ← resolveHop resolver hop
  -- Also catches an origin equal to the first hop, which is not in `seen`.
  if state.ticketIssuer = ticketReceiver then
    .error (.loopsNotAllowed (toHex ticketReceiver))
  else if ticketReceiver ∈ state.seen then
    .error (.loopsNotAllowed (toHex ticketReceiver))
  else
    let next : LoopState :=
      { ticketIssuer := ticketReceiver
        keys := state.keys ++ [key]
        addrs := state.addrs ++ [ticketReceiver]
        seen := ticketReceiver :: state.seen }
    if isLast then .ok next
    else do
      checkChannel resolver state.ticketIssuer ticketReceiver
      .ok next

def validateHops (numHops : Nat) : Nat → LoopState → List NodeId → Except PathError LoopState
  | _, state, [] => .ok state
  | index, state, hop :: rest => do
      let next ← validateHop resolver (!decide (index < numHops - 1)) state hop
      validateHops numHops (index + 1) next rest

def new (origin : NodeId) (path : List NodeId) : Except PathError ValidatedPath :=
  if path.isEmpty then .error .pathNotValid
  else do
    let ticketIssuer ← resolveOrigin resolver origin
    let final ← validateHops resolver path.length 0 ⟨ticketIssuer, [], [], []⟩ path
    .ok ⟨⟨final.keys⟩, ⟨final.addrs⟩⟩

/-! ## What acceptance means -/

def nodeAddress : NodeId → Option Address
  | .chain address => some address
  | .offchain key =>
      match resolver.resolveChainAddress key with
      | .ok address => address
      | .error _ => none

def nodeKey : NodeId → Option OffchainPublicKey
  | .chain address =>
      match resolver.resolveTransportAddress address with
      | .ok key => key
      | .error _ => none
  | .offchain key => some key

def ChannelOpen (source destination : Address) : Prop :=
  ∃ channel, resolver.getChannel source destination = .ok (some channel) ∧
    channel.status = .open

/-- An open channel leads to every hop but the last one. -/
def OpenChannels : Address → List Address → Prop
  | _, [] => True
  | _, [_] => True
  | issuer, receiver :: next :: rest =>
      ChannelOpen resolver issuer receiver ∧ OpenChannels receiver (next :: rest)

/-- A path with the keys and addresses of its hops, seen from its issuer. -/
structure Accepted (issuer : Address) (path : List NodeId) (keys : List OffchainPublicKey)
    (addrs : List Address) : Prop where
  nonempty : path ≠ []
  hopAddresses : path.map (nodeAddress resolver) = addrs.map some
  hopKeys : path.map (nodeKey resolver) = keys.map some
  noLoops : List.IsChain (· ≠ ·) (issuer :: addrs)
  distinct : addrs.Nodup
  channels : OpenChannels resolver issuer addrs

/-! ## One hop -/

theorem resolveOrigin_eq_ok {origin : NodeId} {address : Address} :
    resolveOrigin resolver origin = .ok address ↔ nodeAddress resolver origin = some address := by
  cases origin with
  | chain given => simp [resolveOrigin, nodeAddress]
  | offchain key =>
      simp only [resolveOrigin, nodeAddress]
      cases resolver.resolveChainAddress key with
      | error cause => simp
      | ok resolved => rw [ok_bind, okOr_eq_ok]

theorem resolveHop_eq_ok {hop : NodeId} {key : OffchainPublicKey} {address : Address} :
    resolveHop resolver hop = .ok (key, address) ↔
      nodeKey resolver hop = some key ∧ nodeAddress resolver hop = some address := by
  cases hop with
  | chain given =>
      simp only [resolveHop, nodeKey, nodeAddress]
      cases resolver.resolveTransportAddress given with
      | error cause => simp
      | ok resolved => cases resolved <;> simp [okOr]
  | offchain given =>
      simp only [resolveHop, nodeKey, nodeAddress]
      cases resolver.resolveChainAddress given with
      | error cause => simp
      | ok resolved => cases resolved <;> simp [okOr]

theorem checkChannel_eq_ok {source destination : Address} :
    checkChannel resolver source destination = .ok () ↔
      ChannelOpen resolver source destination := by
  unfold checkChannel ChannelOpen
  cases resolver.getChannel source destination with
  | error cause => simp
  | ok found =>
      cases found with
      | none => simp [okOr]
      | some channel =>
          rw [ok_bind, okOr, ok_bind]
          by_cases opened : channel.status.eq .open = true
          · have isOpen := (ChannelStatus.eq_open_iff _).mp opened
            simp only [opened, if_true, true_iff]
            exact ⟨channel, rfl, isOpen⟩
          · have notOpen : channel.status ≠ .open := by
              intro same
              exact opened ((ChannelStatus.eq_open_iff _).mpr same)
            simp [opened, notOpen]

/-- An iteration succeeds exactly when the hop resolves, repeats neither the issuer nor an
earlier hop, and is either the last or reached by an open channel. -/
theorem validateHop_eq_ok {isLast : Bool} {state next : LoopState} {hop : NodeId} :
    validateHop resolver isLast state hop = .ok next ↔
      ∃ key address, nodeKey resolver hop = some key ∧ nodeAddress resolver hop = some address ∧
        state.ticketIssuer ≠ address ∧ address ∉ state.seen ∧
        (isLast = false → ChannelOpen resolver state.ticketIssuer address) ∧
        next = ⟨address, state.keys ++ [key], state.addrs ++ [address], address :: state.seen⟩ := by
  unfold validateHop
  rw [bind_eq_ok]
  constructor
  · rintro ⟨⟨key, address⟩, resolved, built⟩
    obtain ⟨hasKey, hasAddress⟩ := (resolveHop_eq_ok resolver).mp resolved
    dsimp only at built
    by_cases loop : state.ticketIssuer = address
    · rw [if_pos loop] at built
      cases built
    · by_cases repeated : address ∈ state.seen
      · rw [if_neg loop, if_pos repeated] at built
        cases built
      · rw [if_neg loop, if_neg repeated] at built
        refine ⟨key, address, hasKey, hasAddress, loop, repeated, ?_⟩
        cases isLast with
        | true =>
            rw [if_pos rfl] at built
            exact ⟨by simp, (Except.ok.inj built).symm⟩
        | false =>
            rw [if_neg (by simp)] at built
            obtain ⟨_, checked, result⟩ := bind_eq_ok.mp built
            exact ⟨fun _ => (checkChannel_eq_ok resolver).mp checked, (Except.ok.inj result).symm⟩
  · rintro ⟨key, address, hasKey, hasAddress, loop, repeated, channel, rfl⟩
    refine ⟨(key, address), (resolveHop_eq_ok resolver).mpr ⟨hasKey, hasAddress⟩, ?_⟩
    dsimp only
    rw [if_neg loop, if_neg repeated]
    cases isLast with
    | true => rfl
    | false =>
        rw [if_neg (by simp), (checkChannel_eq_ok resolver).mpr (channel rfl)]
        rfl

/-! ## The whole loop -/

theorem openChannels_cons {issuer receiver : Address} {rest : List Address} :
    OpenChannels resolver issuer (receiver :: rest) ↔
      (rest ≠ [] → ChannelOpen resolver issuer receiver) ∧
        OpenChannels resolver receiver rest := by
  cases rest with
  | nil => simp [OpenChannels]
  | cons next rest => simp [OpenChannels]

theorem isLast_eq_false_iff {numHops index : Nat} {rest : List NodeId}
    (lengths : index + 1 + rest.length = numHops) :
    (!decide (index < numHops - 1)) = false ↔ rest ≠ [] := by
  have filled : rest ≠ [] ↔ 0 < rest.length := List.length_pos_iff.symm
  rw [filled, Bool.not_eq_false', decide_eq_true_iff]
  omega

/-- The loop from any state on: it succeeds exactly on the acceptable remaining hops, and
appends their keys and addresses. -/
theorem validateHops_eq_ok {numHops index : Nat} {state final : LoopState} (path : List NodeId)
    (remaining : index + path.length = numHops) :
    validateHops resolver numHops index state path = .ok final ↔
      ∃ keys addrs, path.map (nodeAddress resolver) = addrs.map some ∧
        path.map (nodeKey resolver) = keys.map some ∧
        List.IsChain (· ≠ ·) (state.ticketIssuer :: addrs) ∧
        addrs.Nodup ∧ (∀ address ∈ addrs, address ∉ state.seen) ∧
        OpenChannels resolver state.ticketIssuer addrs ∧
        final.keys = state.keys ++ keys ∧ final.addrs = state.addrs ++ addrs ∧
        final.ticketIssuer = addrs.getLastD state.ticketIssuer ∧
        final.seen = addrs.reverse ++ state.seen := by
  induction path generalizing index state with
  | nil =>
      simp only [validateHops, Except.ok.injEq, List.map_nil]
      constructor
      · rintro rfl
        exact ⟨[], [], by simp [OpenChannels]⟩
      · rintro ⟨keys, addrs, hopAddresses, hopKeys, _, _, _, _, finalKeys, finalAddrs, issuer,
          seen⟩
        obtain rfl : addrs = [] := List.map_eq_nil_iff.mp hopAddresses.symm
        obtain rfl : keys = [] := List.map_eq_nil_iff.mp hopKeys.symm
        cases state
        cases final
        simp_all
  | cons hop rest ih =>
      have lengths : index + 1 + rest.length = numHops := by
        rw [← remaining, List.length_cons]
        omega
      have last := isLast_eq_false_iff lengths
      simp only [validateHops, bind_eq_ok, validateHop_eq_ok resolver, last]
      constructor
      · rintro ⟨next, ⟨key, address, hasKey, hasAddress, loop, fresh, channel, rfl⟩, run⟩
        obtain ⟨keys, addrs, hopAddresses, hopKeys, noLoops, distinct, disjoint, channels,
          finalKeys, finalAddrs, issuer, seen⟩ := (ih lengths).mp run
        dsimp only at noLoops disjoint channels finalKeys finalAddrs issuer seen
        have restEmpty : addrs ≠ [] → rest ≠ [] := by
          intro some none
          rw [none] at hopAddresses
          exact some (List.map_eq_nil_iff.mp hopAddresses.symm)
        refine ⟨key :: keys, address :: addrs, ?_, ?_, ?_, ?_, ?_, ?_, ?_, ?_, ?_, ?_⟩
        · rw [List.map_cons, List.map_cons, hasAddress, hopAddresses]
        · rw [List.map_cons, List.map_cons, hasKey, hopKeys]
        · exact List.isChain_cons_cons.mpr ⟨loop, noLoops⟩
        · refine List.nodup_cons.mpr ⟨?_, distinct⟩
          intro repeated
          exact disjoint address repeated (by simp)
        · intro other member
          rcases List.mem_cons.mp member with same | later
          · rw [same]
            exact fresh
          · intro earlier
            exact disjoint other later (List.mem_cons_of_mem _ earlier)
        · exact (openChannels_cons resolver).mpr ⟨fun some => channel (restEmpty some), channels⟩
        · rw [finalKeys, List.append_assoc, List.singleton_append]
        · rw [finalAddrs, List.append_assoc, List.singleton_append]
        · rw [issuer, List.getLastD_cons]
        · rw [seen]
          simp
      · rintro ⟨keys, addrs, hopAddresses, hopKeys, noLoops, distinct, disjoint, channels,
          finalKeys, finalAddrs, issuer, seen⟩
        obtain ⟨address, addrs, rfl⟩ : ∃ address others, addrs = address :: others := by
          cases addrs with
          | nil => simp at hopAddresses
          | cons address others => exact ⟨address, others, rfl⟩
        obtain ⟨key, keys, rfl⟩ : ∃ key others, keys = key :: others := by
          cases keys with
          | nil => simp at hopKeys
          | cons key others => exact ⟨key, others, rfl⟩
        simp only [List.map_cons, List.cons.injEq] at hopAddresses hopKeys
        obtain ⟨loop, noLoops⟩ := List.isChain_cons_cons.mp noLoops
        obtain ⟨fresh, distinct⟩ := List.nodup_cons.mp distinct
        obtain ⟨channel, channels⟩ := (openChannels_cons resolver).mp channels
        have restNonempty : rest ≠ [] → addrs ≠ [] := by
          intro some none
          rw [none] at hopAddresses
          exact some (List.map_eq_nil_iff.mp hopAddresses.2)
        refine ⟨_, ⟨key, address, hopKeys.1, hopAddresses.1, loop, disjoint address (by simp),
          fun some => channel (restNonempty some), rfl⟩, ?_⟩
        refine (ih lengths).mpr ⟨keys, addrs, hopAddresses.2, hopKeys.2, noLoops, distinct, ?_,
          channels, ?_, ?_, ?_, ?_⟩
        · intro other member earlier
          rcases List.mem_cons.mp earlier with same | earlier
          · exact fresh (same ▸ member)
          · exact disjoint other (List.mem_cons_of_mem _ member) earlier
        · rw [finalKeys, List.append_assoc, List.singleton_append]
        · rw [finalAddrs, List.append_assoc, List.singleton_append]
        · rw [issuer, List.getLastD_cons]
        · rw [seen]
          simp

/-! ## Exact acceptance -/

theorem new_eq_ok {origin : NodeId} {path : List NodeId} {validated : ValidatedPath} :
    new resolver origin path = .ok validated ↔
      ∃ issuer, nodeAddress resolver origin = some issuer ∧
        Accepted resolver issuer path validated.transportPath.hops validated.chainPath.hops := by
  unfold new
  by_cases empty : path = []
  · rw [empty, List.isEmpty_nil, if_pos rfl]
    constructor
    · intro impossible
      cases impossible
    · rintro ⟨issuer, _, accepted⟩
      exact absurd rfl accepted.nonempty
  · rw [if_neg (by simpa using empty)]
    simp only [bind_eq_ok, resolveOrigin_eq_ok resolver,
      validateHops_eq_ok resolver path (Nat.zero_add path.length)]
    constructor
    · rintro ⟨issuer, origin, final, ⟨keys, addrs, hopAddresses, hopKeys, noLoops, distinct, _,
        channels, finalKeys, finalAddrs, _, _⟩, built⟩
      have shape := Except.ok.inj built
      rw [finalKeys, finalAddrs, List.nil_append, List.nil_append] at shape
      rw [← shape]
      exact ⟨issuer, origin, empty, hopAddresses, hopKeys, noLoops, distinct, channels⟩
    · rintro ⟨issuer, origin, accepted⟩
      let keys := validated.transportPath.hops
      let addrs := validated.chainPath.hops
      refine ⟨issuer, origin, ⟨addrs.getLastD issuer, keys, addrs, addrs.reverse⟩, ?_, rfl⟩
      exact ⟨keys, addrs, accepted.hopAddresses, accepted.hopKeys, accepted.noLoops,
        accepted.distinct, by simp, accepted.channels, rfl, rfl, rfl, by simp⟩

/-- Validation accepts exactly the paths whose origin has an address, whose hops resolve both
ways, do not loop, and are reached by open channels; and it lists the hops in order. -/
theorem new_accepts_exactly (origin : NodeId) (path : List NodeId) :
    ((∃ validated, new resolver origin path = .ok validated) ↔
      ∃ issuer keys addrs, nodeAddress resolver origin = some issuer ∧
        Accepted resolver issuer path keys addrs) ∧
    ∀ validated, new resolver origin path = .ok validated →
      validated.transportPath.hops.map some = path.map (nodeKey resolver) ∧
        validated.chainPath.hops.map some = path.map (nodeAddress resolver) := by
  refine ⟨⟨?_, ?_⟩, ?_⟩
  · rintro ⟨validated, built⟩
    obtain ⟨issuer, origin, accepted⟩ := (new_eq_ok resolver).mp built
    exact ⟨issuer, _, _, origin, accepted⟩
  · rintro ⟨issuer, keys, addrs, origin, accepted⟩
    exact ⟨⟨⟨keys⟩, ⟨addrs⟩⟩, (new_eq_ok resolver).mpr ⟨issuer, origin, accepted⟩⟩
  · intro validated built
    obtain ⟨_, _, accepted⟩ := (new_eq_ok resolver).mp built
    exact ⟨accepted.hopKeys.symm, accepted.hopAddresses.symm⟩

/-- A resolver that knows one node, the one with the given address. -/
def soleNodeResolver (known : Address) (key : OffchainPublicKey) : PathAddressResolver where
  resolveTransportAddress address := .ok (if address = known then some key else none)
  resolveChainAddress given := .ok (if given = key then some known else none)
  getChannel _ _ := .ok none

/-- An origin given by its address is never looked up, so it needs no off-chain key. -/
theorem new_accepts_origin_without_key :
    let known : Address := ⟨List.replicate 20 1, by decide⟩
    let key : OffchainPublicKey := ⟨List.replicate 32 2, by decide⟩
    let resolver := soleNodeResolver known key
    let origin := NodeId.chain Address.zero
    new resolver origin [.chain known] = .ok ⟨⟨[key]⟩, ⟨[known]⟩⟩ ∧
      ¬((∃ validated, new resolver origin [.chain known] = .ok validated) ↔
        ∃ issuer keys addrs, nodeAddress resolver origin = some issuer ∧
          (∃ originKey, nodeKey resolver origin = some originKey) ∧
          Accepted resolver issuer [.chain known] keys addrs) := by
  intro known key resolver origin
  have accepted : new resolver origin [.chain known] = .ok ⟨⟨[key]⟩, ⟨[known]⟩⟩ := rfl
  have unknown : nodeKey resolver origin = none := rfl
  refine ⟨accepted, ?_⟩
  intro claimed
  obtain ⟨_, _, _, _, ⟨originKey, found⟩, _⟩ := claimed.mp ⟨_, accepted⟩
  rw [unknown] at found
  cases found

/-! ## Naming the hops -/

/-- The two lookups of the resolver are mutually inverse. -/
def Inverse : Prop :=
  ∀ key address, resolver.resolveChainAddress key = .ok (some address) ↔
    resolver.resolveTransportAddress address = .ok (some key)

/-- Two names of one node: the same name twice, or its address and its key. -/
def SameNode : NodeId → NodeId → Prop
  | .chain left, .chain right => left = right
  | .offchain left, .offchain right => left = right
  | .chain address, .offchain key => resolver.resolveChainAddress key = .ok (some address)
  | .offchain key, .chain address => resolver.resolveChainAddress key = .ok (some address)

variable {resolver}

theorem resolved_of_inverse (inverse : Inverse resolver) {key : OffchainPublicKey}
    {address : Address} (found : resolver.resolveChainAddress key = .ok (some address)) :
    nodeAddress resolver (.offchain key) = nodeAddress resolver (.chain address) ∧
      nodeKey resolver (.offchain key) = nodeKey resolver (.chain address) := by
  have back := (inverse key address).mp found
  constructor
  · simp only [nodeAddress, found]
  · simp only [nodeKey, back]

theorem resolved_of_sameNode (inverse : Inverse resolver) {left right : NodeId}
    (same : SameNode resolver left right) :
    nodeAddress resolver left = nodeAddress resolver right ∧
      nodeKey resolver left = nodeKey resolver right := by
  cases left with
  | chain address =>
      cases right with
      | chain other => exact ⟨congrArg _ (congrArg _ same), congrArg _ (congrArg _ same)⟩
      | offchain key =>
          obtain ⟨addresses, keys⟩ := resolved_of_inverse inverse same
          exact ⟨addresses.symm, keys.symm⟩
  | offchain key =>
      cases right with
      | chain address => exact resolved_of_inverse inverse same
      | offchain other => exact ⟨congrArg _ (congrArg _ same), congrArg _ (congrArg _ same)⟩

theorem mapped_of_sameNodes (inverse : Inverse resolver) {left right : List NodeId}
    (same : List.Forall₂ (SameNode resolver) left right) :
    left.map (nodeAddress resolver) = right.map (nodeAddress resolver) ∧
      left.map (nodeKey resolver) = right.map (nodeKey resolver) := by
  induction same with
  | nil => exact ⟨rfl, rfl⟩
  | cons head _ ih =>
      obtain ⟨address, key⟩ := resolved_of_sameNode inverse head
      obtain ⟨addresses, keys⟩ := ih
      simp only [List.map_cons, address, key, addresses, keys, and_self]

theorem Accepted.rename {issuer : Address} {path renamed : List NodeId}
    {keys : List OffchainPublicKey} {addrs : List Address}
    (accepted : Accepted resolver issuer path keys addrs)
    (addresses : path.map (nodeAddress resolver) = renamed.map (nodeAddress resolver))
    (names : path.map (nodeKey resolver) = renamed.map (nodeKey resolver)) :
    Accepted resolver issuer renamed keys addrs where
  nonempty := by
    intro empty
    rw [empty, List.map_nil] at addresses
    exact accepted.nonempty (List.map_eq_nil_iff.mp addresses)
  hopAddresses := addresses.symm.trans accepted.hopAddresses
  hopKeys := names.symm.trans accepted.hopKeys
  noLoops := accepted.noLoops
  distinct := accepted.distinct
  channels := accepted.channels

theorem new_of_sameNodes (inverse : Inverse resolver) {origin origin' : NodeId}
    {path path' : List NodeId} (origins : SameNode resolver origin origin')
    (hops : List.Forall₂ (SameNode resolver) path path') {validated : ValidatedPath}
    (built : new resolver origin path = .ok validated) :
    new resolver origin' path' = .ok validated := by
  obtain ⟨issuer, found, accepted⟩ := (new_eq_ok resolver).mp built
  obtain ⟨addresses, keys⟩ := mapped_of_sameNodes inverse hops
  have origin := (resolved_of_sameNode inverse origins).1
  exact (new_eq_ok resolver).mpr ⟨issuer, origin ▸ found, accepted.rename addresses keys⟩

theorem SameNode.symm {left right : NodeId} (same : SameNode resolver left right) :
    SameNode resolver right left := by
  cases left <;> cases right <;> first | exact Eq.symm same | exact same

theorem SameNode.refl (node : NodeId) : SameNode resolver node node := by
  cases node <;> rfl

theorem sameNode_of_resolved (inverse : Inverse resolver) {hop : NodeId}
    {key : OffchainPublicKey} {address : Address}
    (hasAddress : nodeAddress resolver hop = some address)
    (hasKey : nodeKey resolver hop = some key) :
    SameNode resolver hop (.offchain key) ∧ SameNode resolver hop (.chain address) := by
  cases hop with
  | chain given =>
      obtain rfl : given = address := Option.some.inj hasAddress
      simp only [nodeKey] at hasKey
      refine ⟨?_, rfl⟩
      apply (inverse key given).mpr
      cases found : resolver.resolveTransportAddress given with
      | error cause => simp [found] at hasKey
      | ok resolved =>
          rw [found] at hasKey
          exact congrArg _ hasKey
  | offchain given =>
      obtain rfl : given = key := Option.some.inj hasKey
      simp only [nodeAddress] at hasAddress
      refine ⟨rfl, ?_⟩
      show resolver.resolveChainAddress given = .ok (some address)
      cases found : resolver.resolveChainAddress given with
      | error cause => simp [found] at hasAddress
      | ok resolved =>
          rw [found] at hasAddress
          exact congrArg _ hasAddress

theorem sameNodes_of_resolved (inverse : Inverse resolver) {path : List NodeId}
    {keys : List OffchainPublicKey} {addrs : List Address}
    (hopAddresses : path.map (nodeAddress resolver) = addrs.map some)
    (hopKeys : path.map (nodeKey resolver) = keys.map some) :
    List.Forall₂ (SameNode resolver) path (keys.map .offchain) ∧
      List.Forall₂ (SameNode resolver) path (addrs.map .chain) := by
  induction path generalizing keys addrs with
  | nil =>
      obtain rfl : addrs = [] := List.map_eq_nil_iff.mp hopAddresses.symm
      obtain rfl : keys = [] := List.map_eq_nil_iff.mp hopKeys.symm
      exact ⟨.nil, .nil⟩
  | cons hop rest ih =>
      rcases addrs with _ | ⟨address, addrs⟩
      · simp at hopAddresses
      rcases keys with _ | ⟨key, keys⟩
      · simp at hopKeys
      simp only [List.map_cons, List.cons.injEq] at hopAddresses hopKeys
      obtain ⟨restKeys, restAddrs⟩ := ih hopAddresses.2 hopKeys.2
      obtain ⟨hopKey, hopAddress⟩ := sameNode_of_resolved inverse hopAddresses.1 hopKeys.1
      exact ⟨.cons hopKey restKeys, .cons hopAddress restAddrs⟩

/-- How the nodes of a path are named does not matter: renaming the origin and any of the hops
gives the same result, and so does validating an accepted path again. -/
theorem new_naming_independent (inverse : Inverse resolver) :
    (∀ (origin origin' : NodeId) (path path' : List NodeId),
      SameNode resolver origin origin' → List.Forall₂ (SameNode resolver) path path' →
        ∀ validated, new resolver origin path = .ok validated ↔
          new resolver origin' path' = .ok validated) ∧
    (∀ (origin : NodeId) (path : List NodeId) (validated : ValidatedPath),
      new resolver origin path = .ok validated →
        new resolver origin (validated.transportPath.hops.map .offchain) = .ok validated ∧
          new resolver origin (validated.chainPath.hops.map .chain) = .ok validated) := by
  constructor
  · intro origin origin' path path' origins hops validated
    have backwards : List.Forall₂ (SameNode resolver) path' path :=
      List.Forall₂.flip (List.Forall₂.imp (fun _ _ => SameNode.symm) hops)
    exact ⟨new_of_sameNodes inverse origins hops,
      new_of_sameNodes inverse origins.symm backwards⟩
  · intro origin path validated built
    obtain ⟨issuer, found, accepted⟩ := (new_eq_ok resolver).mp built
    obtain ⟨keys, addrs⟩ := sameNodes_of_resolved inverse accepted.hopAddresses accepted.hopKeys
    exact ⟨new_of_sameNodes inverse (SameNode.refl origin) keys built,
      new_of_sameNodes inverse (SameNode.refl origin) addrs built⟩

def paddedKey (address : Address) : OffchainPublicKey :=
  ⟨List.replicate 12 0 ++ address.toList, by simp⟩

/-- Keys that end in the address of their node, and every channel open. -/
def paddedKeyResolver : PathAddressResolver where
  resolveTransportAddress address := .ok (some (paddedKey address))
  resolveChainAddress key :=
    .ok (if key.toList.take 12 = List.replicate 12 0 then some ⟨key.toList.drop 12, by simp⟩
      else none)
  getChannel source destination := .ok (some
    { source, destination, balance := ⟨1⟩, ticketIndex := 1, status := .open, channelEpoch := 1
      id := generateChannelId source destination })

theorem paddedKeyResolver_inverse : Inverse paddedKeyResolver := by
  intro key address
  simp only [paddedKeyResolver, Except.ok.injEq, Option.ite_none_right_eq_some, Option.some.injEq]
  constructor
  · rintro ⟨padded, rfl⟩
    ext1
    show List.replicate 12 0 ++ key.toList.drop 12 = key.toList
    rw [← padded, List.take_append_drop]
  · rintro rfl
    simp [paddedKey]

def sampleRelay : Address := ⟨List.replicate 20 3, by simp⟩

def sampleDestination : Address := ⟨List.replicate 20 4, by simp⟩

theorem new_naming_independent_sample :
    let validated : ValidatedPath :=
      ⟨⟨[paddedKey sampleRelay, paddedKey sampleDestination]⟩, ⟨[sampleRelay, sampleDestination]⟩⟩
    new paddedKeyResolver (.chain Address.zero)
        [.chain sampleRelay, .offchain (paddedKey sampleDestination)] = .ok validated ∧
      new paddedKeyResolver (.offchain (paddedKey Address.zero))
        [.offchain (paddedKey sampleRelay), .chain sampleDestination] = .ok validated := by
  intro validated
  have origins : SameNode paddedKeyResolver (.chain Address.zero)
      (.offchain (paddedKey Address.zero)) := rfl
  have relays : SameNode paddedKeyResolver (.chain sampleRelay)
      (.offchain (paddedKey sampleRelay)) := rfl
  have destinations : SameNode paddedKeyResolver (.offchain (paddedKey sampleDestination))
      (.chain sampleDestination) := rfl
  have built : new paddedKeyResolver (.chain Address.zero)
      [.chain sampleRelay, .offchain (paddedKey sampleDestination)] = .ok validated := rfl
  exact ⟨built, ((new_naming_independent paddedKeyResolver_inverse).1 _ _ _ _ origins
    (.cons relays (.cons destinations .nil)) validated).mp built⟩

end ValidatedPath

/-! ## Cycles -/

theorem containsCycle_eq_false {N : Type} {toNode : N → NodeId}
    (injective : Function.Injective toNode) (hops : List N) :
    containsCycle toNode hops = false ↔ hops.Nodup := by
  rw [← List.nodup_map_iff injective, ← List.dedup_eq_self]
  simp only [containsCycle, bne_eq_false_iff_eq]
  constructor
  · intro sameLength
    apply (List.dedup_sublist _).eq_of_length
    rw [sameLength, List.length_map]
  · intro unchanged
    rw [unchanged, List.length_map]

theorem TransportPath.containsCycle_eq_false (path : TransportPath) :
    path.containsCycle = false ↔ path.hops.Nodup :=
  Internal.containsCycle_eq_false (fun _ _ same => NodeId.offchain.inj same) path.hops

theorem ChainPath.containsCycle_eq_false (path : ChainPath) :
    path.containsCycle = false ↔ path.hops.Nodup :=
  Internal.containsCycle_eq_false (fun _ _ same => NodeId.chain.inj same) path.hops

namespace ValidatedPath

variable (resolver : PathAddressResolver)

/-- The chain path of an accepted path never has a cycle, its transport path has one exactly
if two hops resolve to one off-chain key. -/
theorem Accepted.cycles {issuer : Address} {path : List NodeId} {validated : ValidatedPath}
    (accepted : Accepted resolver issuer path validated.transportPath.hops
      validated.chainPath.hops) :
    validated.chainPath.containsCycle = false ∧
      (validated.transportPath.containsCycle = false ↔ (path.map (nodeKey resolver)).Nodup) := by
  constructor
  · exact (ChainPath.containsCycle_eq_false _).mpr accepted.distinct
  · rw [TransportPath.containsCycle_eq_false, accepted.hopKeys,
      List.nodup_map_iff (Option.some_injective _)]

/-- Validation only ever yields paths without a cycle in either naming, exactly if a path it
accepts has hops with pairwise distinct off-chain keys: repeated keys behind distinct
addresses are not looked for. -/
theorem new_without_cycles_iff (origin : NodeId) (path : List NodeId) :
    (∀ validated, new resolver origin path = .ok validated →
        validated.transportPath.containsCycle = false ∧
          validated.chainPath.containsCycle = false) ↔
      ((∃ issuer keys addrs, nodeAddress resolver origin = some issuer ∧
          Accepted resolver issuer path keys addrs) →
        (path.map (nodeKey resolver)).Nodup) := by
  constructor
  · intro acyclic resolvable
    obtain ⟨issuer, keys, addrs, found, accepted⟩ := resolvable
    let validated : ValidatedPath := ⟨⟨keys⟩, ⟨addrs⟩⟩
    have cycles := @Accepted.cycles resolver issuer path validated accepted
    have built : new resolver origin path = .ok validated :=
      (new_eq_ok resolver).mpr ⟨issuer, found, accepted⟩
    exact cycles.2.mp (acyclic validated built).1
  · intro distinct validated built
    obtain ⟨issuer, found, accepted⟩ := (new_eq_ok resolver).mp built
    have cycles := accepted.cycles
    exact ⟨cycles.2.mpr (distinct ⟨issuer, _, _, found, accepted⟩), cycles.1⟩

/-- A resolver with one key for every address, and every channel open. -/
def sharedKeyResolver (key : OffchainPublicKey) : PathAddressResolver where
  resolveTransportAddress _ := .ok (some key)
  resolveChainAddress _ := .ok none
  getChannel source destination := .ok (some
    { source, destination, balance := ⟨1⟩, ticketIndex := 1, status := .open, channelEpoch := 1
      id := generateChannelId source destination })

/-- Two relays behind one off-chain key pass the validation. -/
theorem new_accepts_shared_key :
    let key : OffchainPublicKey := ⟨List.replicate 32 2, by decide⟩
    let first : Address := ⟨List.replicate 20 1, by decide⟩
    let second : Address := ⟨List.replicate 20 2, by decide⟩
    let validated : ValidatedPath := ⟨⟨[key, key]⟩, ⟨[first, second]⟩⟩
    new (sharedKeyResolver key) (.chain Address.zero) [.chain first, .chain second] =
        .ok validated ∧
      validated.transportPath.containsCycle = true ∧
      validated.chainPath.containsCycle = false := by
  intro key first second validated
  refine ⟨rfl, ?_, ?_⟩
  · decide +kernel
  · decide +kernel

end ValidatedPath

end HoprTypes.Internal
