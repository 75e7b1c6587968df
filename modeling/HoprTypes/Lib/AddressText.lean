import HoprTypes.Lib.Decimal

/-!
# Texts of socket addresses

A reader takes a value off the front of a text.  The readers of decimal numbers and of dotted
IPv4 addresses stop at a delimiter that is neither a digit nor a point, whatever follows it.
-/

set_option autoImplicit false

namespace AddressText

open Decimal

abbrev Reader := StateT (List Char) Option

def parseWith {α : Type} (reader : Reader α) (text : List Char) : Option α :=
  match reader.run text with
  | some (value, []) => some value
  | _ => none

/-- A decimal number below a bound, in as many digits as there are. -/
def readNumber (maxDigits : Option Nat) (allowZeroPrefix : Bool) (bound : Nat) :
    Reader (Fin bound) := fun text =>
  let digits := text.takeWhile Char.isDigit
  if digits = [] ∨ (∃ limit ∈ maxDigits, limit < digits.length) ∨
      (allowZeroPrefix = false ∧ digits.head? = some '0' ∧ 1 < digits.length) then none
  else if fits : Nat.ofDigitChars 10 digits 0 < bound then
    some (⟨Nat.ofDigitChars 10 digits 0, fits⟩, text.dropWhile Char.isDigit)
  else none

def readGivenChar (given : Char) : Reader Unit := fun text =>
  match text with
  | first :: rest => if first = given then some ((), rest) else none
  | [] => none

def splitOnce (delimiter : Char) : List Char → Option (List Char × List Char)
  | [] => none
  | first :: rest =>
      if first = delimiter then some ([], rest)
      else (splitOnce delimiter rest).map fun parts => (first :: parts.1, parts.2)

/-! ## IPv4 socket addresses -/

structure Ipv4Addr where
  a : Fin 256
  b : Fin 256
  c : Fin 256
  d : Fin 256
deriving DecidableEq

structure SocketAddrV4 where
  ip : Ipv4Addr
  port : Fin 65536
deriving DecidableEq

def decimal {bound : Nat} (value : Fin bound) : List Char := Nat.toDigits 10 value.val

/-- A number of at most three digits, of which the first is no superfluous zero. -/
def readOctet : Reader (Fin 256) := readNumber (some 3) false 256

def readIpv4Addr : Reader Ipv4Addr := do
  let a ← readOctet
  readGivenChar '.'
  let b ← readOctet
  readGivenChar '.'
  let c ← readOctet
  readGivenChar '.'
  let d ← readOctet
  return ⟨a, b, c, d⟩

def readSocketAddrV4 : Reader SocketAddrV4 := do
  let ip ← readIpv4Addr
  readGivenChar ':'
  let port ← readNumber none true 65536
  return ⟨ip, port⟩

def Ipv4Addr.display (ip : Ipv4Addr) : List Char :=
  decimal ip.a ++ '.' :: (decimal ip.b ++ '.' :: (decimal ip.c ++ '.' :: decimal ip.d))

def SocketAddrV4.display (address : SocketAddrV4) : List Char :=
  address.ip.display ++ ':' :: decimal address.port

/-- A number of 16 bits, behind an optional plus sign. -/
def u16FromStr (text : List Char) : Option (Fin 65536) :=
  match text with
  | '+' :: digits => parseWith (readNumber none true 65536) digits
  | digits => parseWith (readNumber none true 65536) digits

/-! ## Delimiters -/

theorem splitOnce_append {delimiter : Char} {before : List Char} (absent : delimiter ∉ before)
    (after : List Char) :
    splitOnce delimiter (before ++ delimiter :: after) = some (before, after) := by
  induction before with
  | nil => exact if_pos rfl
  | cons first before ih =>
      rw [List.mem_cons, not_or] at absent
      rw [List.cons_append, splitOnce, if_neg (Ne.symm absent.1), ih absent.2]
      rfl

theorem of_splitOnce {delimiter : Char} {text before after : List Char}
    (split : splitOnce delimiter text = some (before, after)) :
    delimiter ∉ before ∧ text = before ++ delimiter :: after := by
  induction text generalizing before with
  | nil => cases split
  | cons first rest ih =>
      by_cases found : first = delimiter
      · rw [splitOnce, if_pos found] at split
        cases split
        exact ⟨List.not_mem_nil, by rw [found]; rfl⟩
      · rw [splitOnce, if_neg found] at split
        obtain ⟨⟨front, back⟩, inner, same⟩ := Option.map_eq_some_iff.mp split
        cases same
        obtain ⟨absent, whole⟩ := ih inner
        refine ⟨?_, by rw [whole]; rfl⟩
        rw [List.mem_cons, not_or]
        exact ⟨Ne.symm found, absent⟩

/-! ## Readers that stop at a delimiter -/

/-- The reader leaves a suffix of its text, and what stands behind a delimiter does not change
what it reads before it. -/
structure StopsAt {α : Type} (delimiter : Char) (reader : Reader α) : Prop where
  suffix : ∀ {text value rest}, reader.run text = some (value, rest) → rest <:+ text
  append : ∀ text after, reader.run (text ++ delimiter :: after) =
    (reader.run text).map fun read => (read.1, read.2 ++ delimiter :: after)

namespace StopsAt

variable {α β : Type} {delimiter : Char}

theorem pure (value : α) : StopsAt delimiter (Pure.pure value : Reader α) where
  suffix read := by
    cases read
    exact List.suffix_refl _
  append _ _ := rfl

theorem bind {reader : Reader α} {next : α → Reader β} (first : StopsAt delimiter reader)
    (second : ∀ value, StopsAt delimiter (next value)) :
    StopsAt delimiter (reader >>= next) where
  suffix {text value rest} read := by
    rw [StateT.run_bind] at read
    obtain ⟨⟨between, remaining⟩, firstRead, secondRead⟩ := Option.bind_eq_some_iff.mp read
    exact ((second between).suffix secondRead).trans (first.suffix firstRead)
  append text after := by
    rw [StateT.run_bind, StateT.run_bind, first.append]
    cases reader.run text with
    | none => rfl
    | some read => exact (second read.1).append read.2 after

theorem readGivenChar {given : Char} (other : delimiter ≠ given) :
    StopsAt delimiter (readGivenChar given) where
  suffix {text value rest} read := by
    cases text with
    | nil => cases read
    | cons first text =>
        simp only [AddressText.readGivenChar, StateT.run] at read
        by_cases same : first = given
        · rw [if_pos same] at read
          cases read
          exact List.suffix_cons _ _
        · rw [if_neg same] at read
          cases read
  append text after := by
    cases text with
    | nil => exact if_neg other
    | cons first text =>
        simp only [AddressText.readGivenChar, StateT.run, List.cons_append]
        by_cases same : first = given
        · rw [if_pos same, if_pos same]
          rfl
        · rw [if_neg same, if_neg same]
          rfl

theorem readNumber (noDigit : delimiter.isDigit = false) (maxDigits : Option Nat)
    (allowZeroPrefix : Bool) (bound : Nat) :
    StopsAt delimiter (readNumber maxDigits allowZeroPrefix bound) where
  suffix {text value rest} read := by
    simp only [AddressText.readNumber, StateT.run] at read
    split at read
    · cases read
    · split at read
      · cases read
        exact List.dropWhile_suffix _
      · cases read
  append text after := by
    have digits : (text ++ delimiter :: after).takeWhile Char.isDigit =
        text.takeWhile Char.isDigit := by
      rw [List.takeWhile_append, List.takeWhile_cons_of_neg (by simp [noDigit]), List.append_nil]
      split
      · rename_i all
        exact (List.takeWhile_prefix _).eq_of_length all |>.symm
      · rfl
    have rest : (text ++ delimiter :: after).dropWhile Char.isDigit =
        text.dropWhile Char.isDigit ++ delimiter :: after := by
      rw [List.dropWhile_append, List.dropWhile_cons_of_neg (by simp [noDigit])]
      split
      · rename_i all
        rw [List.isEmpty_iff.mp all]
        rfl
      · rfl
    simp only [AddressText.readNumber, StateT.run, digits, rest]
    split
    · rfl
    · split <;> rfl

theorem readIpv4Addr (noDigit : delimiter.isDigit = false) (noPoint : delimiter ≠ '.') :
    StopsAt delimiter readIpv4Addr := by
  have octet : StopsAt delimiter readOctet := readNumber noDigit _ _ _
  have point : StopsAt delimiter (AddressText.readGivenChar '.') := readGivenChar noPoint
  unfold AddressText.readIpv4Addr
  refine octet.bind fun a => point.bind fun _ => octet.bind fun b => point.bind fun _ =>
    octet.bind fun c => point.bind fun _ => octet.bind fun d => ?_
  exact StopsAt.pure _

end StopsAt

/-! ## What is read -/

theorem parseWith_eq_some_iff {α : Type} {reader : Reader α} {text : List Char} {value : α} :
    parseWith reader text = some value ↔ reader.run text = some (value, []) := by
  unfold parseWith
  split
  · rename_i found read
    simp [read]
  · rename_i other
    constructor
    · intro impossible
      cases impossible
    · intro read
      exact absurd read (other value)

/-- A text that is read as a whole does not contain a delimiter the reader stops at. -/
theorem StopsAt.notMem {α : Type} {delimiter : Char} {reader : Reader α}
    (stops : StopsAt delimiter reader) {text : List Char} {value : α}
    (parsed : parseWith reader text = some value) : delimiter ∉ text := by
  intro member
  obtain ⟨front, back, split, _⟩ := List.eq_append_cons_of_mem member
  rw [parseWith_eq_some_iff, split, stops.append] at parsed
  obtain ⟨⟨read, rest⟩, _, same⟩ := Option.map_eq_some_iff.mp parsed
  exact List.append_ne_nil_of_right_ne_nil rest (List.cons_ne_nil delimiter back)
    (Prod.mk.inj same).2

theorem notMem_of_readIpv4Addr {text : List Char} {ip : Ipv4Addr}
    (parsed : parseWith readIpv4Addr text = some ip) : ':' ∉ text :=
  (StopsAt.readIpv4Addr (by decide) (by decide)).notMem parsed

theorem parseWith_readNumber {text : List Char} (digits : IsDigits text) (nonEmpty : text ≠ [])
    {bound : Nat} (fits : Nat.ofDigitChars 10 text 0 < bound) :
    parseWith (readNumber none true bound) text = some ⟨Nat.ofDigitChars 10 text 0, fits⟩ := by
  have all : text.takeWhile Char.isDigit = text := List.takeWhile_eq_self_iff.mpr digits
  have nothing : text.dropWhile Char.isDigit = [] := List.dropWhile_eq_nil_iff.mpr digits
  rw [parseWith_eq_some_iff]
  simp [readNumber, StateT.run, all, nothing, nonEmpty, fits]

theorem of_parseWith_readNumber {bound : Nat} {text : List Char} {value : Fin bound}
    (parsed : parseWith (readNumber none true bound) text = some value) :
    IsDigits text ∧ text ≠ [] ∧ Nat.ofDigitChars 10 text 0 = value.val := by
  rw [parseWith_eq_some_iff] at parsed
  simp only [readNumber, StateT.run] at parsed
  split at parsed
  · cases parsed
  · rename_i allowed
    split at parsed
    · rename_i fits
      have nothing : text.dropWhile Char.isDigit = [] := (Prod.mk.inj (Option.some.inj parsed)).2
      have digits : IsDigits text := List.dropWhile_eq_nil_iff.mp nothing
      have all : text.takeWhile Char.isDigit = text := List.takeWhile_eq_self_iff.mpr digits
      have read := (Prod.mk.inj (Option.some.inj parsed)).1
      refine ⟨digits, ?_, ?_⟩
      · intro empty
        exact allowed (Or.inl (by rw [empty]; rfl))
      · rw [← read]
        simp only [all]
    · cases parsed

/-- The text of a socket address is a dotted address and a port, around its only colon. -/
theorem parseWith_readSocketAddrV4 {host : List Char} (noColon : ':' ∉ host) (port : List Char) :
    parseWith readSocketAddrV4 (host ++ ':' :: port) =
      (parseWith readIpv4Addr host).bind fun ip =>
        (parseWith (readNumber none true 65536) port).map fun port => ⟨ip, port⟩ := by
  have stops := StopsAt.readIpv4Addr (by decide : ':'.isDigit = false) (by decide)
  have whole : readSocketAddrV4.run (host ++ ':' :: port) =
      (readIpv4Addr.run host).bind fun read =>
        ((readGivenChar ':').run (read.2 ++ ':' :: port)).bind fun colon =>
          ((readNumber none true 65536).run colon.2).bind fun number =>
            some (⟨read.1, number.1⟩, number.2) := by
    unfold readSocketAddrV4
    rw [StateT.run_bind, stops.append]
    cases readIpv4Addr.run host with
    | none => rfl
    | some read => rfl
  unfold parseWith
  rw [whole]
  cases address : readIpv4Addr.run host with
  | none => rfl
  | some read =>
      obtain ⟨ip, rest⟩ := read
      have suffix : rest <:+ host := stops.suffix address
      cases rest with
      | nil =>
          have colon : (readGivenChar ':').run ([] ++ ':' :: port) = some ((), port) := rfl
          simp only [Option.bind_some, colon]
          cases (readNumber none true 65536).run port with
          | none => rfl
          | some number =>
              obtain ⟨number, remaining⟩ := number
              cases remaining <;> rfl
      | cons first rest =>
          have other : first ≠ ':' := by
            intro same
            exact noColon (suffix.subset (by simp [same]))
          have colon : (readGivenChar ':').run (first :: rest ++ ':' :: port) = none := if_neg other
          simp only [Option.bind_some, colon, Option.bind_none]

/-- A text that is read as a socket address has one colon, behind the dotted address. -/
theorem of_parseWith_readSocketAddrV4 {text : List Char} {address : SocketAddrV4}
    (parsed : parseWith readSocketAddrV4 text = some address) :
    ∃ host port, text = host ++ ':' :: port ∧ ':' ∉ host ∧ ':' ∉ port := by
  by_cases colon : ':' ∈ text
  · obtain ⟨host, port, split, noColon⟩ := List.eq_append_cons_of_mem colon
    subst split
    rw [parseWith_readSocketAddrV4 noColon] at parsed
    obtain ⟨ip, _, parsed⟩ := Option.bind_eq_some_iff.mp parsed
    obtain ⟨number, read, _⟩ := Option.map_eq_some_iff.mp parsed
    refine ⟨host, port, rfl, noColon, ?_⟩
    exact notMem_of_isDigits (of_parseWith_readNumber read).1 (by decide)
  · rw [parseWith_eq_some_iff] at parsed
    unfold readSocketAddrV4 at parsed
    rw [StateT.run_bind] at parsed
    obtain ⟨⟨ip, rest⟩, read, parsed⟩ := Option.bind_eq_some_iff.mp parsed
    have stops := StopsAt.readIpv4Addr (by decide : ':'.isDigit = false) (by decide)
    have absent : ':' ∉ rest := by
      intro member
      exact colon ((stops.suffix read).subset member)
    rw [StateT.run_bind] at parsed
    obtain ⟨_, given, _⟩ := Option.bind_eq_some_iff.mp parsed
    cases rest with
    | nil => cases given
    | cons first rest =>
        have other : first ≠ ':' := by
          intro same
          exact absent (by simp [same])
        simp only [readGivenChar, StateT.run, if_neg other] at given
        cases given

/-! ## Texts that are written -/

/-- A number below 256 has at most three digits, and no zero in front of another digit. -/
theorem decimal_octet (octet : Fin 256) :
    (decimal octet).length ≤ 3 ∧
      ((decimal octet).head? = some '0' → (decimal octet).length ≤ 1) := by
  revert octet
  decide +kernel

theorem readOctet_decimal (octet : Fin 256) : readOctet.run (decimal octet) = some (octet, []) := by
  have digits : IsDigits (decimal octet) := isDigits_toDigits octet.val
  have all : (decimal octet).takeWhile Char.isDigit = decimal octet :=
    List.takeWhile_eq_self_iff.mpr digits
  have nothing : (decimal octet).dropWhile Char.isDigit = [] := List.dropWhile_eq_nil_iff.mpr digits
  have nonEmpty : decimal octet ≠ [] := Nat.toDigits_ne_nil
  have value : Nat.ofDigitChars 10 (decimal octet) 0 = octet.val := Nat.ofDigitChars_ten_toDigits
  obtain ⟨short, noZero⟩ := decimal_octet octet
  simp only [readOctet, readNumber, StateT.run, all, nothing]
  rw [if_neg]
  · simp [value]
  · intro refused
    rcases refused with empty | ⟨limit, isLimit, long⟩ | ⟨_, zero, long⟩
    · exact nonEmpty empty
    · cases isLimit
      omega
    · have := noZero zero
      omega

theorem readOctet_append (octet : Fin 256) (after : List Char) :
    readOctet.run (decimal octet ++ '.' :: after) = some (octet, '.' :: after) := by
  have stops : StopsAt '.' readOctet := StopsAt.readNumber (by decide) _ _ _
  rw [stops.append, readOctet_decimal]
  rfl

theorem parseWith_display (ip : Ipv4Addr) : parseWith readIpv4Addr ip.display = some ip := by
  have point (rest : List Char) : (readGivenChar '.').run ('.' :: rest) = some ((), rest) := rfl
  rw [parseWith_eq_some_iff]
  unfold readIpv4Addr Ipv4Addr.display
  simp only [StateT.run_bind, readOctet_append, point, readOctet_decimal, Option.bind_eq_bind,
    Option.bind_some]
  rfl

theorem notMem_display (ip : Ipv4Addr) : ':' ∉ ip.display := by
  have digits (octet : Fin 256) : ':' ∉ decimal octet :=
    notMem_of_isDigits (isDigits_toDigits octet.val) (by decide)
  simp [Ipv4Addr.display, digits]

theorem parseWith_decimal_port (port : Fin 65536) :
    parseWith (readNumber none true 65536) (decimal port) = some port := by
  have value : Nat.ofDigitChars 10 (decimal port) 0 = port.val := Nat.ofDigitChars_ten_toDigits
  have digits : IsDigits (decimal port) := isDigits_toDigits port.val
  rw [parseWith_readNumber digits Nat.toDigits_ne_nil (value.symm ▸ port.isLt)]
  simp only [value]

theorem u16FromStr_decimal (port : Fin 65536) : u16FromStr (decimal port) = some port := by
  unfold u16FromStr
  split
  · rename_i digits signed
    have noSign : '+' ∉ decimal port :=
      notMem_of_isDigits (isDigits_toDigits port.val) (by decide)
    rw [signed] at noSign
    exact absurd List.mem_cons_self noSign
  · exact parseWith_decimal_port port

theorem SocketAddrV4.parseWith_display (address : SocketAddrV4) :
    parseWith readSocketAddrV4 address.display = some address := by
  unfold SocketAddrV4.display
  rw [parseWith_readSocketAddrV4 (notMem_display address.ip), AddressText.parseWith_display,
    parseWith_decimal_port]
  rfl

end AddressText
