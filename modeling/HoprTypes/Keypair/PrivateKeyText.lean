import HoprTypes.Keypair.Migration

/-!
# Keys as one private-key text

The text holds the digits of the packet, chain and Baby Jubjub secrets, after at most one
lower-case prefix.  The hex crate strips a prefix of its own, but then the digits are too few.
-/

set_option autoImplicit false

namespace HoprTypes.Keypair

open BigEndian HoprTypes.Primitive HoprTypes.Crypto

def withoutLowerMark (text : List Char) : List Char := (text.dropPrefix? lowerMark).getD text

theorem withoutLowerMark_of_hex {size : Nat} {digits : List Char}
    (digitsOf : HexDigits size digits) : withoutLowerMark digits = digits := by
  rw [withoutLowerMark, lowerMark, dropPrefix_of_hex digitsOf.2 (by decide)]
  rfl

theorem withoutLowerMark_marked (digits : List Char) :
    withoutLowerMark (lowerMark ++ digits) = digits := by
  rw [withoutLowerMark, dropPrefix_append]
  rfl

namespace HoprKeys

variable {crates : Crates}

/-- The three secrets one after the other. -/
def secrets (keys : HoprKeys crates) : Bytes :=
  keys.packetKey.secret.toList ++ (keys.chainKey.secret.toList ++ keys.bjjKey.secret.toList)

theorem length_secrets (keys : HoprKeys crates) : keys.secrets.length = 96 := by
  simp [secrets, FixedBytes.length_toList]

theorem fromSecret_eq_ok {Public : Type} {fromPrivkey : FixedBytes 32 → Except CryptoError Public}
    {bytes : FixedBytes 32} {keypair : DerivedKeypair fromPrivkey} :
    DerivedKeypair.fromSecret fromPrivkey bytes = .ok keypair ↔ keypair.secret = bytes := by
  constructor
  · exact DerivedKeypair.secret_of_fromSecret
  · intro same
    rw [← same]
    exact DerivedKeypair.fromSecret_secret keypair

theorem chainFromSecret_eq_ok {bytes : FixedBytes 32} {keypair : ChainKeypair crates.curve} :
    ChainKeypair.fromSecret crates.curve bytes = .ok keypair ↔ keypair.secret = bytes := by
  constructor
  · exact ChainKeypair.secret_of_fromSecret
  · intro same
    rw [← same]
    exact ChainKeypair.fromSecret_secret keypair

theorem slices_of_secrets {value : FixedBytes 96} {packet chain bjj : FixedBytes 32} :
    value.toList = packet.toList ++ (chain.toList ++ bjj.toList) ↔
      packet.toList = slice value.toList 0 32 ∧ chain.toList = slice value.toList 32 32 ∧
        bjj.toList = slice value.toList 64 32 := by
  have packetLength := packet.length_toList
  have chainLength := chain.length_toList
  have bjjLength := bjj.length_toList
  have valueLength := value.length_toList
  unfold slice
  constructor
  · intro joined
    rw [joined, List.drop_zero, List.take_left' packetLength, List.drop_left' packetLength,
      List.take_left' chainLength]
    refine ⟨rfl, rfl, ?_⟩
    rw [show 64 = packet.toList.length + chain.toList.length by omega, ← List.append_assoc,
      ← List.length_append, List.drop_left]
    exact (List.take_of_length_le (by omega)).symm
  · intro cut
    obtain ⟨isPacket, isChain, isBjj⟩ := cut
    have last : (value.toList.drop 64).take 32 = value.toList.drop 64 :=
      List.take_of_length_le (by rw [List.length_drop]; omega)
    rw [isPacket, isChain, isBjj, last, List.drop_zero]
    have rest : (value.toList.drop 32).take 32 ++ value.toList.drop 64 = value.toList.drop 32 := by
      rw [show value.toList.drop 64 = (value.toList.drop 32).drop 32 by rw [List.drop_drop]]
      exact List.take_append_drop 32 _
    rw [rest]
    exact (List.take_append_drop 32 _).symm

theorem tryFrom_eq_ok {draws : Draws crates} {value : FixedBytes 96} {keys : HoprKeys crates} :
    tryFrom draws value = .ok keys ↔ keys.id = draws.id ∧ value.toList = keys.secrets := by
  unfold tryFrom secrets
  simp only [bind_eq_ok, exceptMapErr_eq_ok, fromSecret_eq_ok, chainFromSecret_eq_ok]
  rw [slices_of_secrets]
  constructor
  · intro built
    obtain ⟨packetKey, isPacket, chainKey, isChain, bjjKey, isBjj, made⟩ := built
    obtain rfl := Except.ok.inj made
    exact ⟨rfl, congrArg FixedBytes.toList isPacket, congrArg FixedBytes.toList isChain,
      congrArg FixedBytes.toList isBjj⟩
  · intro held
    obtain ⟨sameId, isPacket, isChain, isBjj⟩ := held
    refine ⟨keys.packetKey, FixedBytes.ext isPacket, keys.chainKey, FixedBytes.ext isChain,
      keys.bjjKey, FixedBytes.ext isBjj, ?_⟩
    rw [← sameId]

/-- A text is accepted exactly as the digits of three valid secrets after at most one lower-case
prefix, and gives the keys with these secrets; all keys can be written so. -/
theorem private_key_text (lawful : crates.hex.Lawful) (draws : Draws crates) :
    (∀ s keys, fromStr draws s = .ok keys ↔
      keys.id = draws.id ∧ decodePairs (withoutLowerMark s.toList) = some keys.secrets) ∧
    ∀ keys : HoprKeys crates, ∀ mark ∈ ["", "0x"],
      fromStr draws (mark ++ hexEncode keys.secrets) = .ok { keys with id := draws.id } := by
  have accepted : ∀ s keys, fromStr draws s = .ok keys ↔
      keys.id = draws.id ∧ decodePairs (withoutLowerMark s.toList) = some keys.secrets := by
    intro s keys
    unfold fromStr
    rw [← withoutLowerMark]
    constructor
    · intro read
      dsimp only at read
      split_ifs at read with wrongSize
      simp only [bind_eq_ok, exceptMapErr_eq_ok, lawful.decodesToSlice] at read
      obtain ⟨bytes, ⟨decoded, length⟩, value, isValue, built⟩ := read
      rw [tryFromSlice_eq_ok] at isValue
      obtain ⟨sameId, holds⟩ := tryFrom_eq_ok.mp built
      refine ⟨sameId, ?_⟩
      rw [← holds, isValue]
      rcases withoutMark_cases (withoutLowerMark s.toList) with same | ⟨mark, isMark, marked⟩
      · rw [same] at decoded
        exact decoded
      · -- A second prefix takes the place of two digits.
        have digitsOf := hexDigits_of_decodePairs decoded
        have total := congrArg utf8Len marked
        rw [utf8Len_append, utf8Len_hexDigits digitsOf, length, utf8Len_mark isMark] at total
        omega
    · intro held
      obtain ⟨sameId, decoded⟩ := held
      have digitsOf := hexDigits_of_decodePairs decoded
      have length := utf8Len_hexDigits digitsOf
      rw [length_secrets] at length
      dsimp only
      rw [if_neg (not_not.mpr length)]
      simp only [bind_eq_ok, exceptMapErr_eq_ok, lawful.decodesToSlice]
      rw [withoutMark_of_hex digitsOf]
      refine ⟨_, ⟨decoded, length_secrets keys⟩, ⟨keys.secrets, length_secrets keys⟩,
        tryFromSlice_eq_ok.mpr rfl, tryFrom_eq_ok.mpr ⟨sameId, rfl⟩⟩
  refine ⟨accepted, ?_⟩
  intro keys mark isMark
  have decoded := decodePairs_hexEncode keys.secrets
  have digitsOf := hexDigits_of_decodePairs decoded
  refine (accepted _ _).mpr ⟨rfl, ?_⟩
  have chars : withoutLowerMark (mark ++ hexEncode keys.secrets).toList =
      (hexEncode keys.secrets).toList := by
    rw [String.toList_append]
    rcases List.mem_pair.mp isMark with rfl | rfl
    · exact withoutLowerMark_of_hex digitsOf
    · exact withoutLowerMark_marked _
  rw [chars, decoded]
  rfl

def localKeys : HoprKeys localCrates :=
  ⟨⟨localPacketSecret, localPacketKey, rfl⟩, oneKeyPair, localDraws.bjjKey, localDraws.id⟩

theorem private_key_text_local :
    fromStr localDraws ("0x" ++ hexEncode localKeys.secrets) = .ok localKeys :=
  (@private_key_text localCrates constHex_lawful localDraws).2 localKeys "0x" (by simp)

end HoprKeys

end HoprTypes.Keypair
