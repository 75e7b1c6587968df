import HoprTypes.Crypto.Types
import HoprTypes.Primitive.HexText

/-!
# Keystore files

The JSON form of an encrypted keystore and of the private keys inside it.  The written texts
are given by the pieces between their quotes; texts are read by the JSON crate.
-/

set_option autoImplicit false

namespace HoprTypes.Keypair

open BigEndian HoprTypes.Primitive HoprTypes.Crypto

inductive KeyPairError where
  | fileSystemError (cause : String)
  | cryptographyError (cause : CryptoError)
  | jsonError (cause : String)
  | hexParsingError (message : String)
  | keyDerivationError (message : String)
  | macMismatch
  | invalidEncryptedKeyLength (actual expected : Nat)
  | invalidPrivateKeySize (actual expected : Nat)
  | generalError (message : String)
deriving DecidableEq, Repr

def KeyPairError.display : KeyPairError → String
  | .fileSystemError cause => "file system error: " ++ cause
  | .cryptographyError cause => "cryptography error: " ++ cause.display
  | .jsonError cause => "JSON error: " ++ cause
  | .hexParsingError message => "hex parsing error: " ++ message
  | .keyDerivationError message => "key derivation error " ++ message
  | .macMismatch => "crypto error: macs do not match. Key store may have been altered."
  | .invalidEncryptedKeyLength actual expected =>
      "decoding error: invalid encrypted key length " ++ actual.repr ++ " but expected " ++
        expected.repr
  | .invalidPrivateKeySize actual expected =>
      "Invalid private key size " ++ actual.repr ++ " but expected " ++ expected.repr
  | .generalError message => message

/-! ## Contents -/

abbrev Uuid := FixedBytes 16

def Uuid.text (id : Uuid) : String :=
  "-".intercalate ([(0, 4), (4, 2), (6, 2), (8, 2), (10, 6)].map fun part =>
    hexEncode (slice id.toList part.1 part.2))

structure PrivateKeys where
  version : UInt32
  chainKey : Bytes
  packetKey : Bytes
  babyjubjubKey : Bytes
deriving DecidableEq

inductive KdfType where
  | pbkdf2
  | scrypt
deriving DecidableEq, Repr

inductive KdfparamsType where
  | pbkdf2 (c : UInt32) (dklen : UInt8) (prf : String) (salt : Bytes)
  | scrypt (dklen : UInt8) (n p r : UInt32) (salt : Bytes)
deriving DecidableEq

structure CryptoJson where
  cipher : String
  /-- The only cipher parameter. -/
  iv : Bytes
  ciphertext : Bytes
  kdf : KdfType
  kdfparams : KdfparamsType
  mac : Bytes
deriving DecidableEq

structure EthKeystore where
  crypto : CryptoJson
  id : Uuid
  version : UInt8
deriving DecidableEq

/-! ## Written texts -/

def quoteSeparated (pieces : List String) : String := "\"".intercalate pieces

/-- `{"version":…,"chain_key":…,"packet_key":…,"babyjubjub_key":…}`, without an empty last key. -/
def PrivateKeys.pieces (keys : PrivateKeys) : List String :=
  ["\x7b", "version", ":" ++ keys.version.toNat.repr ++ ",",
    "chain_key", ":", hexEncode keys.chainKey, ",", "packet_key", ":", hexEncode keys.packetKey] ++
  (if keys.babyjubjubKey = [] then []
    else [",", "babyjubjub_key", ":", hexEncode keys.babyjubjubKey]) ++
  ["\x7d"]

def PrivateKeys.toVec (keys : PrivateKeys) : Bytes := utf8 (quoteSeparated keys.pieces)

def KdfType.text : KdfType → String
  | .pbkdf2 => "pbkdf2"
  | .scrypt => "scrypt"

/-- The JSON crate: the escapes of a string, and the values read from a text. -/
structure SerdeJson where
  escape : String → String
  fromSlice : Bytes → Except String PrivateKeys
  fromStr : String → Except String EthKeystore

def KdfparamsType.pieces (json : SerdeJson) : KdfparamsType → List String
  | .pbkdf2 c dklen prf salt =>
      ["c", ":" ++ c.toNat.repr ++ ",", "dklen", ":" ++ dklen.toNat.repr ++ ",",
        "prf", ":", json.escape prf, ",", "salt", ":", hexEncode salt]
  | .scrypt dklen n p r salt =>
      ["dklen", ":" ++ dklen.toNat.repr ++ ",", "n", ":" ++ n.toNat.repr ++ ",",
        "p", ":" ++ p.toNat.repr ++ ",", "r", ":" ++ r.toNat.repr ++ ",",
        "salt", ":", hexEncode salt]

def EthKeystore.pieces (json : SerdeJson) (keystore : EthKeystore) : List String :=
  ["\x7b", "crypto", ":\x7b", "cipher", ":", json.escape keystore.crypto.cipher,
    ",", "cipherparams", ":\x7b", "iv", ":", hexEncode keystore.crypto.iv,
    "\x7d,", "ciphertext", ":", hexEncode keystore.crypto.ciphertext,
    ",", "kdf", ":", keystore.crypto.kdf.text, ",", "kdfparams", ":\x7b"] ++
  keystore.crypto.kdfparams.pieces json ++
  ["\x7d,", "mac", ":", hexEncode keystore.crypto.mac,
    "\x7d,", "id", ":", Uuid.text keystore.id,
    ",", "version", ":" ++ keystore.version.toNat.repr ++ "\x7d"]

def EthKeystore.toJson (json : SerdeJson) (keystore : EthKeystore) : String :=
  quoteSeparated (keystore.pieces json)

/-- The written texts are read back. -/
structure SerdeJson.Lawful (json : SerdeJson) : Prop where
  restoresKeys : ∀ keys : PrivateKeys, json.fromSlice keys.toVec = .ok keys
  restoresKeystore : ∀ keystore : EthKeystore, json.fromStr (keystore.toJson json) = .ok keystore

/-! ## An executable crate -/

/-- Reads the texts that are written, and no others.  Quotes and backslashes are escaped by
their code points, so that every quote separates two pieces. -/
def quoteFree (text : List Char) : List Char :=
  text.flatMap fun c =>
    if c = '"' ∨ c = '\\' then
      ['\\', 'u', '0', '0', hexDigit (c.toNat / 16), hexDigit (c.toNat % 16)]
    else [c]

def unescape : List Char → List Char
  | '\\' :: 'u' :: '0' :: '0' :: high :: low :: rest =>
      Char.ofNat (16 * (hexDigitValue high).getD 0 + (hexDigitValue low).getD 0) :: unescape rest
  | c :: rest => c :: unescape rest
  | [] => []

def segments (text : String) : List String :=
  (text.split '"').toList.map String.Slice.copy

/-- The number in a piece, without the character before and after it. -/
def numberOf (piece : String) : Option Nat := (String.ofList (piece.toList.drop 1).dropLast).toNat?

def bytesOf (piece : String) : Option Bytes := decodePairs piece.toList

def uuidOf (piece : String) : Option Uuid := do
  let bytes ← decodePairs (piece.toList.filter (· != '-'))
  if exact : bytes.length = 16 then some ⟨bytes, exact⟩ else none

def privateKeysOf : List String → Option PrivateKeys
  | _ :: _ :: version :: _ :: _ :: chain :: _ :: _ :: _ :: packet :: rest => do
      let bjj ← match rest with
        | [_, _, _, bjj, _] => bytesOf bjj
        | _ => some []
      some ⟨UInt32.ofNat (← numberOf version), ← bytesOf chain, ← bytesOf packet, bjj⟩
  | _ => none

def kdfparamsOf : List String → Option KdfparamsType
  | [name, first, _, second, _, third, prf, fourth, _, _, salt] =>
      if name = "c" then do
        some (.pbkdf2 (UInt32.ofNat (← numberOf first)) (UInt8.ofNat (← numberOf second))
          (String.ofList (unescape prf.toList)) (← bytesOf salt))
      else do
        some (.scrypt (UInt8.ofNat (← numberOf first)) (UInt32.ofNat (← numberOf second))
          (UInt32.ofNat (← numberOf third)) (UInt32.ofNat (← numberOf fourth)) (← bytesOf salt))
  | _ => none

def ethKeystoreOf : List String → Option EthKeystore
  | _ :: _ :: _ :: _ :: _ :: cipher :: _ :: _ :: _ :: _ :: _ :: iv :: _ :: _ :: _ ::
      ciphertext :: _ :: _ :: _ :: kdf :: _ :: _ :: _ :: rest => do
      let kdfparams ← kdfparamsOf (rest.take 11)
      match rest.drop 11 with
      | [_, _, _, mac, _, _, _, id, _, _, version] => do
          let crypto : CryptoJson :=
            { cipher := String.ofList (unescape cipher.toList)
              iv := ← bytesOf iv
              ciphertext := ← bytesOf ciphertext
              kdf := if kdf = "scrypt" then .scrypt else .pbkdf2
              kdfparams := kdfparams
              mac := ← bytesOf mac }
          some ⟨crypto, ← uuidOf id, UInt8.ofNat (← numberOf version)⟩
      | _ => none
  | _ => none

def strictJson : SerdeJson where
  escape text := String.ofList (quoteFree text.toList)
  fromSlice bytes :=
    okOr "invalid keys" do
      let text ← String.fromUTF8? ⟨bytes.toArray⟩
      privateKeysOf (segments text)
  fromStr text := okOr "invalid keystore" (ethKeystoreOf (segments text))

@[simp] theorem escape_strictJson (text : String) :
    strictJson.escape text = String.ofList (quoteFree text.toList) := rfl

theorem segments_quoteSeparated {pieces : List String} (filled : pieces ≠ [])
    (free : ∀ piece ∈ pieces, '"' ∉ piece.toList) : segments (quoteSeparated pieces) = pieces := by
  have split := String.toList_split_intercalate free
  rw [if_neg filled] at split
  exact split

theorem numberOf_repr (before after : String) (first : before.toList.length = 1)
    (last : after.toList.length = 1) (value : Nat) :
    numberOf (before ++ value.repr ++ after) = some value := by
  obtain ⟨opening, isOpening⟩ := List.length_eq_one_iff.mp first
  obtain ⟨closing, isClosing⟩ := List.length_eq_one_iff.mp last
  have digits : (String.ofList (Nat.toDigits 10 value)).toNat? = some value :=
    Nat.toNat?_repr value
  unfold numberOf
  rw [String.toList_append, String.toList_append, isOpening, isClosing]
  simp [digits]

theorem isHex_hexEncode (bytes : Bytes) :
    ∀ digit ∈ (hexEncode bytes).toList, (hexDigitValue digit).isSome :=
  (hexDigits_of_decodePairs (decodePairs_hexEncode bytes)).2

theorem notMem_hexEncode {c : Char} (noDigit : hexDigitValue c = none) (bytes : Bytes) :
    c ∉ (hexEncode bytes).toList := by
  intro member
  have digit := isHex_hexEncode bytes c member
  rw [noDigit] at digit
  cases digit

theorem unescape_quoteFree (text : List Char) : unescape (quoteFree text) = text := by
  induction text with
  | nil => rfl
  | cons c text ih =>
      have step : quoteFree (c :: text) =
          (if c = '"' ∨ c = '\\' then
            ['\\', 'u', '0', '0', hexDigit (c.toNat / 16), hexDigit (c.toNat % 16)]
          else [c]) ++ quoteFree text := List.flatMap_cons
      rw [step]
      by_cases special : c = '"' ∨ c = '\\'
      · rw [if_pos special]
        rcases special with rfl | rfl
        · exact congrArg (List.cons '"') ih
        · exact congrArg (List.cons '\\') ih
      · rw [if_neg special, List.cons_append, List.nil_append]
        rw [not_or] at special
        rw [unescape, ih]
        rintro high low rest rfl
        exact absurd rfl special.2

theorem quote_notMem_quoteFree (text : List Char) : '"' ∉ quoteFree text := by
  intro member
  obtain ⟨c, _, escaped⟩ := List.mem_flatMap.mp member
  split_ifs at escaped with special
  · rcases special with rfl | rfl
    · exact absurd escaped (by decide)
    · exact absurd escaped (by decide)
  · rw [List.mem_singleton] at escaped
    exact special (Or.inl escaped.symm)

theorem quote_notMem_toDigits (value : Nat) : '"' ∉ Nat.toDigits 10 value := by
  intro member
  have digit := Nat.isDigit_of_mem_toDigits (by decide) (by decide) member
  cases digit

theorem uuidOf_text (id : Uuid) : uuidOf (Uuid.text id) = some id := by
  have kept : ∀ bytes : Bytes, (hexEncode bytes).toList.filter (· != '-') =
      (hexEncode bytes).toList := by
    intro bytes
    apply List.filter_eq_self.mpr
    intro c member
    rw [bne_iff_ne]
    rintro rfl
    exact notMem_hexEncode (by decide) bytes member
  have joined : (Uuid.text id).toList.filter (· != '-') = (hexEncode id.toList).toList := by
    have length := id.length_toList
    have parts : id.toList = slice id.toList 0 4 ++ (slice id.toList 4 2 ++ (slice id.toList 6 2 ++
        (slice id.toList 8 2 ++ slice id.toList 10 6))) := by
      have last : slice id.toList 10 6 = id.toList.drop 10 :=
        List.take_of_length_le (by rw [List.length_drop]; omega)
      rw [last, slice_append_drop _ 8 2, slice_append_drop _ 6 2, slice_append_drop _ 4 2,
        slice_append_drop _ 0 4]
      rfl
    have hyphen : "-".toList.filter (· != '-') = [] := rfl
    conv_rhs => rw [parts]
    simp only [Uuid.text, List.map_cons, List.map_nil, String.intercalate_cons_cons,
      String.intercalate_singleton, String.toList_append, List.filter_append, kept,
      hexEncode_append, hyphen, List.append_nil]
  unfold uuidOf
  rw [joined, decodePairs_hexEncode]
  exact dif_pos id.length_toList

theorem privateKeysOf_pieces (keys : PrivateKeys) : privateKeysOf keys.pieces = some keys := by
  have version := numberOf_repr ":" "," rfl rfl keys.version.toNat
  unfold PrivateKeys.pieces
  by_cases empty : keys.babyjubjubKey = []
  · rw [if_pos empty]
    simp only [List.cons_append, List.nil_append, privateKeysOf, version, bytesOf,
      decodePairs_hexEncode, Option.bind_eq_bind, Option.bind_some, UInt32.ofNat_toNat, ← empty]
  · rw [if_neg empty]
    simp only [List.cons_append, List.nil_append, privateKeysOf, version, bytesOf,
      decodePairs_hexEncode, Option.bind_eq_bind, Option.bind_some, UInt32.ofNat_toNat]

theorem kdfparamsOf_pieces (params : KdfparamsType) :
    kdfparamsOf (params.pieces strictJson) = some params := by
  have number := fun value => numberOf_repr ":" "," rfl rfl value
  cases params with
  | pbkdf2 c dklen prf salt =>
      simp only [KdfparamsType.pieces, kdfparamsOf, number, bytesOf, decodePairs_hexEncode,
        escape_strictJson, String.toList_ofList, unescape_quoteFree]
      simp
  | scrypt dklen n p r salt =>
      simp only [KdfparamsType.pieces, kdfparamsOf, number, bytesOf, decodePairs_hexEncode]
      simp

theorem kdfOf_text (kdf : KdfType) :
    (if kdf.text = "scrypt" then KdfType.scrypt else .pbkdf2) = kdf := by
  cases kdf
  · rfl
  · rfl

theorem ethKeystoreOf_pieces (keystore : EthKeystore) :
    ethKeystoreOf (keystore.pieces strictJson) = some keystore := by
  have version := numberOf_repr ":" "\x7d" rfl rfl keystore.version.toNat
  have size : (keystore.crypto.kdfparams.pieces strictJson).length = 11 := by
    cases keystore.crypto.kdfparams
    · rfl
    · rfl
  unfold EthKeystore.pieces
  simp only [List.cons_append, List.nil_append, ethKeystoreOf, List.take_left' size,
    List.drop_left' size, kdfparamsOf_pieces]
  simp only [version, bytesOf, decodePairs_hexEncode, uuidOf_text, kdfOf_text,
    escape_strictJson, String.toList_ofList, unescape_quoteFree, String.ofList_toList,
    Option.bind_eq_bind, Option.bind_some, UInt8.ofNat_toNat]

/-! No piece of a written text holds a quote. -/

theorem quoteFree_privateKeys (keys : PrivateKeys) : ∀ piece ∈ keys.pieces, '"' ∉ piece.toList := by
  have digits := fun bytes => notMem_hexEncode (c := '"') rfl bytes
  have number := quote_notMem_toDigits
  unfold PrivateKeys.pieces
  split_ifs
  · simp [digits, number]
  · simp [digits, number]

theorem quoteFree_kdfparams (params : KdfparamsType) :
    ∀ piece ∈ params.pieces strictJson, '"' ∉ piece.toList := by
  have digits := fun bytes => notMem_hexEncode (c := '"') rfl bytes
  have number := quote_notMem_toDigits
  have escaped := quote_notMem_quoteFree
  cases params with
  | pbkdf2 c dklen prf salt => simp [KdfparamsType.pieces, digits, number, escaped]
  | scrypt dklen n p r salt => simp [KdfparamsType.pieces, digits, number]

theorem quoteFree_keystore (keystore : EthKeystore) :
    ∀ piece ∈ keystore.pieces strictJson, '"' ∉ piece.toList := by
  have digits := fun bytes => notMem_hexEncode (c := '"') rfl bytes
  have number := quote_notMem_toDigits
  have escaped := quote_notMem_quoteFree
  have params := quoteFree_kdfparams keystore.crypto.kdfparams
  have kdf : '"' ∉ keystore.crypto.kdf.text.toList := by
    cases keystore.crypto.kdf
    · decide
    · decide
  have id : '"' ∉ (Uuid.text keystore.id).toList := by
    simp [Uuid.text, String.intercalate_cons_cons, digits]
  unfold EthKeystore.pieces
  simp only [List.forall_mem_append]
  refine ⟨⟨?_, params⟩, ?_⟩
  · simp [digits, escaped, kdf]
  · simp [digits, number, id]

theorem fromUTF8_utf8 (text : String) : String.fromUTF8? ⟨(utf8 text).toArray⟩ = some text := by
  have bytes : (⟨(utf8 text).toArray⟩ : ByteArray) = text.toByteArray := by
    rw [utf8, Array.toArray_toList]
    rfl
  rw [bytes, String.fromUTF8?, dif_pos text.isValidUTF8]
  rfl

theorem strictJson_lawful : strictJson.Lawful where
  restoresKeys := by
    intro keys
    have filled : keys.pieces ≠ [] := by simp [PrivateKeys.pieces]
    have read : (String.fromUTF8? ⟨keys.toVec.toArray⟩).bind
        (fun text => privateKeysOf (segments text)) = some keys := by
      rw [PrivateKeys.toVec, fromUTF8_utf8, Option.bind_some,
        segments_quoteSeparated filled (quoteFree_privateKeys keys), privateKeysOf_pieces]
    exact okOr_eq_ok.mpr read
  restoresKeystore := by
    intro keystore
    have filled : keystore.pieces strictJson ≠ [] := by simp [EthKeystore.pieces]
    have read : ethKeystoreOf (segments (keystore.toJson strictJson)) = some keystore := by
      rw [EthKeystore.toJson, segments_quoteSeparated filled (quoteFree_keystore keystore),
        ethKeystoreOf_pieces]
    exact okOr_eq_ok.mpr read

end HoprTypes.Keypair
