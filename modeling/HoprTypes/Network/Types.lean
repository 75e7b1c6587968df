import HoprTypes.Lib.AddressText
import HoprTypes.Lib.Outcome

/-!
# Hosts and their text

A host is an IP address or a DNS name, with a port.  Its text is first read as a socket
address, and otherwise as a name and a port around the first colon.
-/

set_option autoImplicit false

namespace HoprTypes.Network

open AddressText Decimal

inductive NetworkTypeError where
  | sealedTarget
  | other (message : String)
deriving DecidableEq

/-- The socket addresses of version 6 with their text, which is a bracketed address with at least
two colons of its own in front of the port. -/
structure SocketAddrV6Text where
  Addr : Type
  decidableEq : DecidableEq Addr
  fromStr : List Char → Option Addr
  display : Addr → List Char
  fromStr_display : ∀ {text address}, fromStr text = some address →
    fromStr (display address) = some address
  colons : ∀ {text address}, fromStr text = some address → 2 < text.count ':'

variable (v6 : SocketAddrV6Text)

instance : DecidableEq v6.Addr := v6.decidableEq

inductive SocketAddr where
  | v4 (address : SocketAddrV4)
  | v6 (address : v6.Addr)
deriving DecidableEq

namespace SocketAddr

variable {v6}

def fromStr (s : List Char) : Option (SocketAddr v6) :=
  match parseWith readSocketAddrV4 s with
  | some address => some (.v4 address)
  | none => (v6.fromStr s).map .v6

def display : SocketAddr v6 → List Char
  | .v4 address => address.display
  | .v6 address => v6.display address

end SocketAddr

/-- A DNS name or an IP address, with a port. -/
inductive IpOrHost where
  | dns (host : String) (port : Fin 65536)
  | ip (address : SocketAddr v6)
deriving DecidableEq

namespace IpOrHost

variable {v6}

def display : IpOrHost v6 → String
  | .dns host port => String.ofList (host.toList ++ ':' :: decimal port)
  | .ip address => String.ofList address.display

def fromStr (s : String) : Except NetworkTypeError (IpOrHost v6) :=
  match SocketAddr.fromStr s.toList with
  | some address => .ok (.ip address)
  | none => do
      let (host, portStr) ← okOr (.other "missing port delimiter") (splitOnce ':' s.toList)
      let port ← okOr (.other "invalid port number") (u16FromStr portStr)
      .ok (.dns (String.ofList host) port)

end IpOrHost

/-! ## Texts that are read again -/

namespace SocketAddr

variable {v6}

theorem fromStr_append {host port : List Char} (hostColon : ':' ∉ host) (portColon : ':' ∉ port) :
    (fromStr (host ++ ':' :: port) : Option (SocketAddr v6)) =
      (parseWith readIpv4Addr host).bind fun ip =>
        (parseWith (readNumber none true 65536) port).map fun port => .v4 ⟨ip, port⟩ := by
  have single : (host ++ ':' :: port).count ':' = 1 := by
    rw [List.count_append, List.count_cons_self, List.count_eq_zero.mpr hostColon,
      List.count_eq_zero.mpr portColon]
  have noV6 : v6.fromStr (host ++ ':' :: port) = none := by
    cases read : v6.fromStr (host ++ ':' :: port) with
    | none => rfl
    | some address =>
        have := v6.colons read
        omega
  rw [fromStr, parseWith_readSocketAddrV4 hostColon, noV6]
  cases parseWith readIpv4Addr host with
  | none => rfl
  | some ip => cases parseWith (readNumber none true 65536) port <;> rfl

theorem fromStr_of_display {s : List Char} {address : SocketAddr v6}
    (read : fromStr s = some address) :
    fromStr address.display = some address := by
  unfold fromStr at read
  cases parsed : parseWith readSocketAddrV4 s with
  | some v4 =>
      rw [parsed] at read
      cases read
      simp only [display, fromStr, v4.parseWith_display]
  | none =>
      rw [parsed] at read
      obtain ⟨v6Address, readV6, same⟩ := Option.map_eq_some_iff.mp read
      cases same
      have again := v6.fromStr_display readV6
      have noV4 : parseWith readSocketAddrV4 (v6.display v6Address) = none := by
        cases readV4 : parseWith readSocketAddrV4 (v6.display v6Address) with
        | none => rfl
        | some v4 =>
            obtain ⟨host, port, split, hostColon, portColon⟩ := of_parseWith_readSocketAddrV4 readV4
            have many := v6.colons again
            rw [split, List.count_append, List.count_cons_self, List.count_eq_zero.mpr hostColon,
              List.count_eq_zero.mpr portColon] at many
            omega
      simp only [display, fromStr, noV4, again, Option.map_some]

end SocketAddr

namespace IpOrHost

variable {v6}

/-- A dotted IPv4 address and a port with a plus sign. -/
def HasSignedPort (s : String) : Prop :=
  ∃ host ip digits port, parseWith readIpv4Addr host = some ip ∧
    parseWith (readNumber none true 65536) digits = some port ∧
    s.toList = host ++ ':' :: '+' :: digits

theorem fromStr_of_socketAddr {s : String} {address : SocketAddr v6}
    (read : SocketAddr.fromStr s.toList = some address) : fromStr s = .ok (.ip address) := by
  unfold fromStr
  rw [read]

theorem socketAddr_of_fromStr {s : String} {address : SocketAddr v6}
    (read : (fromStr s : Except NetworkTypeError (IpOrHost v6)) = .ok (.ip address)) :
    SocketAddr.fromStr s.toList = some address := by
  cases found : (SocketAddr.fromStr s.toList : Option (SocketAddr v6)) with
  | some other =>
      rw [fromStr_of_socketAddr found] at read
      cases Except.ok.inj read
      rfl
  | none =>
      unfold fromStr at read
      rw [found] at read
      obtain ⟨parts, _, read⟩ := bind_eq_ok.mp read
      obtain ⟨port, _, built⟩ := bind_eq_ok.mp read
      cases Except.ok.inj built

/-- What is read as a DNS name was no socket address, and is a name and a port around the first
colon. -/
theorem fromStr_eq_dns_iff {s host : String} {port : Fin 65536} :
    (fromStr s : Except NetworkTypeError (IpOrHost v6)) = .ok (.dns host port) ↔
      (SocketAddr.fromStr s.toList : Option (SocketAddr v6)) = none ∧
        ∃ portStr, ':' ∉ host.toList ∧ s.toList = host.toList ++ ':' :: portStr ∧
          u16FromStr portStr = some port := by
  unfold fromStr
  cases SocketAddr.fromStr s.toList with
  | some address => simp
  | none =>
      constructor
      · intro read
        obtain ⟨⟨front, portStr⟩, split, read⟩ := bind_eq_ok.mp read
        obtain ⟨parsed, number, built⟩ := bind_eq_ok.mp read
        cases Except.ok.inj built
        obtain ⟨noColon, whole⟩ := of_splitOnce (okOr_eq_ok.mp split)
        rw [String.toList_ofList]
        exact ⟨rfl, portStr, noColon, whole, okOr_eq_ok.mp number⟩
      · intro parts
        obtain ⟨_, portStr, noColon, whole, number⟩ := parts
        rw [whole]
        simp only [splitOnce_append noColon, okOr, ok_bind, number, String.ofList_toList]

theorem toList_display_dns (host : String) (port : Fin 65536) :
    (display (.dns host port : IpOrHost v6)).toList = host.toList ++ ':' :: decimal port :=
  String.toList_ofList

theorem notMem_decimal {bound : Nat} (value : Fin bound) : ':' ∉ decimal value :=
  notMem_of_isDigits (isDigits_toDigits value.val) (by decide)

/-- A DNS name with a port is written in a text that is read as this name, unless the name is a
dotted IPv4 address. -/
theorem fromStr_display_dns_iff {host : String} (noColon : ':' ∉ host.toList) (port : Fin 65536) :
    fromStr (display (.dns host port : IpOrHost v6)) = .ok (.dns host port : IpOrHost v6) ↔
      parseWith readIpv4Addr host.toList = none := by
  rw [fromStr_eq_dns_iff, toList_display_dns,
    SocketAddr.fromStr_append noColon (notMem_decimal port), parseWith_decimal_port]
  constructor
  · intro again
    cases address : parseWith readIpv4Addr host.toList with
    | none => rfl
    | some ip =>
        rw [address] at again
        cases again.1
  · intro name
    rw [name]
    exact ⟨rfl, decimal port, noColon, rfl, u16FromStr_decimal port⟩

theorem of_u16FromStr {portStr : List Char} {port : Fin 65536}
    (read : u16FromStr portStr = some port) :
    parseWith (readNumber none true 65536) portStr = some port ∨
      ∃ digits, portStr = '+' :: digits ∧
        parseWith (readNumber none true 65536) digits = some port := by
  unfold u16FromStr at read
  split at read
  · rename_i digits
    exact Or.inr ⟨digits, rfl, read⟩
  · exact Or.inl read

theorem fromStr_signedPort {s : String} {host digits : List Char} {ip : Ipv4Addr} {port : Fin 65536}
    (address : parseWith readIpv4Addr host = some ip)
    (number : parseWith (readNumber none true 65536) digits = some port)
    (whole : s.toList = host ++ ':' :: '+' :: digits) :
    (fromStr s : Except NetworkTypeError (IpOrHost v6)) = .ok (.dns (String.ofList host) port) := by
  have noColon : ':' ∉ host := notMem_of_readIpv4Addr address
  have digitsOnly : ':' ∉ digits :=
    notMem_of_isDigits (of_parseWith_readNumber number).1 (by decide)
  have portColon : ':' ∉ '+' :: digits := by
    simp [digitsOnly]
  rw [fromStr_eq_dns_iff, whole, SocketAddr.fromStr_append noColon portColon,
    String.toList_ofList]
  refine ⟨?_, '+' :: digits, noColon, rfl, number⟩
  have signedNumber : parseWith (readNumber none true 65536) ('+' :: digits) = none := rfl
  rw [address, signedNumber]
  rfl

/-- What is read from a text is read again from its own text, exactly if the text is not a
dotted IPv4 address with a signed port. -/
theorem fromStr_display_iff (s : String) :
    (∀ x : IpOrHost v6, fromStr s = .ok x → fromStr x.display = .ok x) ↔ ¬HasSignedPort s := by
  constructor
  · intro canonical signed
    obtain ⟨host, ip, digits, port, address, number, whole⟩ := signed
    have noColon : ':' ∉ (String.ofList host).toList := by
      rw [String.toList_ofList]
      exact notMem_of_readIpv4Addr address
    have again := canonical _ (fromStr_signedPort address number whole)
    rw [fromStr_display_dns_iff noColon, String.toList_ofList, address] at again
    cases again
  · intro unsigned x read
    cases x with
    | ip address =>
        apply fromStr_of_socketAddr
        rw [display, String.toList_ofList]
        exact SocketAddr.fromStr_of_display (socketAddr_of_fromStr read)
    | dns host port =>
        obtain ⟨noAddress, portStr, noColon, whole, number⟩ := fromStr_eq_dns_iff.mp read
        rw [fromStr_display_dns_iff noColon]
        cases address : parseWith readIpv4Addr host.toList with
        | none => rfl
        | some ip =>
            rcases of_u16FromStr number with plain | ⟨digits, signed, plain⟩
            · have portColon : ':' ∉ portStr :=
                notMem_of_isDigits (of_parseWith_readNumber plain).1 (by decide)
              rw [whole, SocketAddr.fromStr_append noColon portColon, address, plain] at noAddress
              cases noAddress
            · rw [signed] at whole
              exact absurd ⟨host.toList, ip, digits, port, address, plain, whole⟩ unsigned

end IpOrHost

/-- Without addresses of version 6. -/
def v4Only : SocketAddrV6Text where
  Addr := Empty
  decidableEq := inferInstance
  fromStr _ := none
  display address := address.elim
  fromStr_display read := by cases read
  colons read := by cases read

/-- The text is read as a DNS name, which is written as the text of an IP address. -/
theorem IpOrHost.not_fromStr_display :
    ¬∀ (s : String) (x : IpOrHost v4Only), IpOrHost.fromStr s = .ok x →
      IpOrHost.fromStr x.display = .ok x := by
  intro canonical
  have again := canonical "1.2.3.4:+80" (.dns "1.2.3.4" 80) (by decide +kernel)
  have address : IpOrHost.fromStr (IpOrHost.display (.dns "1.2.3.4" 80 : IpOrHost v4Only)) =
      .ok (.ip (.v4 ⟨⟨1, 2, 3, 4⟩, 80⟩) : IpOrHost v4Only) := by decide +kernel
  rw [address] at again
  cases again

end HoprTypes.Network
