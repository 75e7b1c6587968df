import HoprTypes.Crypto.Signing

/-!
# Announcements

The signed binding of a chain key and a packet key, and the announcement of that
binding with an optional multiaddress.  Multiaddresses belong to their own crate.
-/

set_option autoImplicit false

namespace HoprTypes.Internal

open BigEndian HoprTypes.Primitive HoprTypes.Crypto

structure KeyBinding where
  chainKey : Address
  packetKey : OffchainPublicKey
  signature : OffchainSignature
deriving DecidableEq

/-- What the code uses of the multiaddress and peer id crates. -/
structure MultiaddrCrate (Multiaddr : Type) where
  isEmpty : Multiaddr → Bool
  /-- Appends the peer id of a key; fails with the address if it ends in another peer id. -/
  withP2p : Multiaddr → OffchainPublicKey → Except Multiaddr Multiaddr
  /-- The address without its last protocol. -/
  pop : Multiaddr → Multiaddr
  display : Multiaddr → String
  display_fits : ∀ multiaddress, (utf8 (display multiaddress)).length ≤ isizeMax
  parse : Bytes → Option Multiaddr
  peerIdText : OffchainPublicKey → String

/-- An announcement: the address, if there is one, is decapsulated. -/
structure AnnouncementData (Multiaddr : Type) where
  multiaddress : Option Multiaddr
  keyBinding : KeyBinding
deriving DecidableEq

namespace AnnouncementData

variable {Multiaddr : Type} (crate : MultiaddrCrate Multiaddr)

def new (keyBinding : KeyBinding) (multiaddress : Option Multiaddr) :
    Except GeneralError (AnnouncementData Multiaddr) :=
  match multiaddress with
  | some multiaddress =>
      if crate.isEmpty multiaddress then .error .invalidInput
      else
        match crate.withP2p multiaddress keyBinding.packetKey with
        | .ok multiaddress => .ok ⟨some (crate.pop multiaddress), keyBinding⟩
        | .error multiaddress =>
            .error (.nonSpecificError (crate.display multiaddress ++
              " does not match the keybinding " ++ crate.peerIdText keyBinding.packetKey ++
              " peer id"))
  | none => .ok ⟨none, keyBinding⟩

/-- The text of the announced address, empty if there is none. -/
def addressText (announcement : AnnouncementData Multiaddr) : Bytes :=
  match announcement.multiaddress with
  | some multiaddress => utf8 (crate.display multiaddress)
  | none => []

theorem addressText_eq_utf8 (announcement : AnnouncementData Multiaddr) :
    ∃ text : String, announcement.addressText crate = utf8 text := by
  unfold addressText
  cases announcement.multiaddress with
  | none => exact ⟨"", rfl⟩
  | some multiaddress => exact ⟨crate.display multiaddress, rfl⟩

theorem length_addressText (announcement : AnnouncementData Multiaddr) :
    (announcement.addressText crate).length ≤ isizeMax := by
  unfold addressText
  cases announcement.multiaddress with
  | none => exact Nat.zero_le _
  | some multiaddress => exact crate.display_fits multiaddress

end AnnouncementData

/-- The crates on a single address; the peer id that is appended and taken off again is left
out. -/
def loopback : MultiaddrCrate Unit where
  isEmpty _ := false
  withP2p address _ := .ok address
  pop address := address
  display _ := "/ip4/127.0.0.1/tcp/10000"
  display_fits _ := by decide
  parse text := if text = utf8 "/ip4/127.0.0.1/tcp/10000" then some () else none
  peerIdText _ := "12D3KooWPGsW7vCu9t9Z6mF8iVQvEzNnJGN2LqM4vqQSpkcvKfUq"

end HoprTypes.Internal
