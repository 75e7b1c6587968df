import HoprTypes.Keypair.Migration
import HoprTypes.Lib.Returning

/-!
# Keystores that cannot be read

The lengths in a keystore come from the file.  The derived key and the initialization vector
are cut at fixed offsets, before and after the MAC is compared.
-/

set_option autoImplicit false

namespace HoprTypes.Keypair

open BigEndian Keccak Outcome HoprTypes.Primitive HoprTypes.Crypto

/-- The MAC is the one of the ciphertext under the derived key. -/
def CryptoJson.MacMatches (crypto : CryptoJson) (key : Bytes) : Prop :=
  (keccak256 (slice key 16 16 ++ crypto.ciphertext)).toList = crypto.mac

/-- The key derivation is scrypt.  If a key is derived, it has at least 32 bytes, and if it gives
the MAC of the file, the initialization vector has at least 16. -/
def Tolerated (crates : Crates) (crypto : CryptoJson) (password : String) : Prop :=
  match crypto.kdfparams with
  | .pbkdf2 .. => False
  | .scrypt dklen n p r salt =>
      crates.scryptParams (crates.log2 n) r p dklen.toNat = .ok () →
        ∀ key, crates.scrypt (utf8 password) salt (crates.log2 n) r p dklen.toNat = .ok key →
          32 ≤ dklen.toNat ∧ (crypto.MacMatches key.toList → 16 ≤ crypto.iv.length)

variable {crates : Crates}

theorem sliceOrPanic_returns_iff {ε : Type} {bytes : Bytes} {offset size : Nat} :
    Returns (sliceOrPanic bytes offset size : Outcome ε (FixedBytes size)) ↔
      offset + size ≤ bytes.length := by
  by_cases fits : offset + size ≤ bytes.length
  · rw [sliceOrPanic_ok fits]
    exact iff_of_true (returns_ok _) fits
  · rw [sliceOrPanic, dif_neg fits]
    exact iff_of_false (not_returns_panicked _) fits

theorem deriveKey_scrypt_eq_ok {password : String} {dklen : UInt8} {n p r : UInt32}
    {salt key : Bytes} :
    deriveKey crates password (.scrypt dklen n p r salt) = .ok key ↔
      crates.scryptParams (crates.log2 n) r p dklen.toNat = .ok () ∧
        ∃ derived, crates.scrypt (utf8 password) salt (crates.log2 n) r p dklen.toNat =
          .ok derived ∧ derived.toList = key := by
  unfold deriveKey
  simp only [bind_eq_ok, lift_eq_ok, exceptMapErr_eq_ok, Except.ok.injEq]
  constructor
  · intro computed
    obtain ⟨_, accepted, derived⟩ := computed
    exact ⟨accepted, derived⟩
  · intro computed
    exact ⟨(), computed⟩

theorem deriveKey_scrypt_returns (password : String) (dklen : UInt8) (n p r : UInt32)
    (salt : Bytes) : Returns (deriveKey crates password (.scrypt dklen n p r salt)) := by
  unfold deriveKey
  rw [returns_bind_iff]
  refine ⟨returns_lift _, ?_⟩
  intro _ _
  rw [returns_bind_iff]
  refine ⟨returns_lift _, ?_⟩
  intro key _
  exact returns_ok key.toList

/-- What follows the key derivation returns if the key has 32 bytes and, where the MAC does
not stop it before, the initialization vector has 16. -/
theorem decryptWith_returns_iff (crypto : CryptoJson) (key : Bytes) :
    Returns (do
      let macKey ← sliceOrPanic key 16 16
      if (keccak256 (macKey.toList ++ crypto.ciphertext)).toList ≠ crypto.mac then
        Outcome.fail .macMismatch
      else do
        let cipherKey ← sliceOrPanic key 0 16
        let iv ← sliceOrPanic crypto.iv 0 16
        .ok (applyKeystream crates.aes128Ctr cipherKey iv crypto.ciphertext) :
          Outcome KeyPairError Bytes) ↔
      32 ≤ key.length ∧ (crypto.MacMatches key → 16 ≤ crypto.iv.length) := by
  by_cases fits : 16 + 16 ≤ key.length
  · rw [sliceOrPanic_ok fits, ok_bind]
    dsimp only
    by_cases mac : (keccak256 (slice key 16 16 ++ crypto.ciphertext)).toList = crypto.mac
    · rw [if_neg (not_not.mpr mac), sliceOrPanic_ok (by omega), ok_bind, returns_bind_iff,
        sliceOrPanic_returns_iff]
      constructor
      · intro returns
        refine ⟨fits, ?_⟩
        intro _
        have size := returns.1
        omega
      · intro long
        have size := long.2 mac
        refine ⟨by omega, ?_⟩
        intro iv _
        exact returns_ok _
    · rw [if_pos mac]
      exact iff_of_true (returns_fail _) ⟨fits, fun same => absurd same mac⟩
  · rw [returns_bind_iff, sliceOrPanic_returns_iff]
    exact iff_of_false (fun returns => fits returns.1) (fun long => fits long.1)

theorem decryptKeystore_returns_iff (keystore : EthKeystore) (password : String) :
    Returns (decryptKeystore crates keystore password) ↔
      Tolerated crates keystore.crypto password := by
  unfold decryptKeystore Tolerated
  rw [returns_bind_iff]
  simp only [decryptWith_returns_iff]
  cases keystore.crypto.kdfparams with
  | pbkdf2 c dklen prf salt =>
      have panics : deriveKey crates password (.pbkdf2 c dklen prf salt) =
          .panicked "HOPR only supports scrypt" := rfl
      rw [panics]
      exact iff_of_false (fun returns => not_returns_panicked _ returns.1) not_false
  | scrypt dklen n p r salt =>
      constructor
      · intro returns accepted key derived
        have sizes := returns.2 key.toList
          (deriveKey_scrypt_eq_ok.mpr ⟨accepted, key, derived, rfl⟩)
        rw [key.length_toList] at sizes
        exact sizes
      · intro tolerated
        refine ⟨deriveKey_scrypt_returns password dklen n p r salt, ?_⟩
        intro key computed
        obtain ⟨accepted, derived, known, same⟩ := deriveKey_scrypt_eq_ok.mp computed
        rw [← same, derived.length_toList]
        exact tolerated accepted derived known

theorem readEthKeystore_returns_iff_decrypt (files : FileSystem) (path password : String)
    (draws : Draws crates) {text : String} {keystore : EthKeystore}
    (found : files.readToString path = .ok text)
    (parsed : crates.json.fromStr text = .ok keystore) :
    Returns (HoprKeys.readEthKeystore crates files path password draws) ↔
      Returns (decryptKeystore crates keystore password) := by
  rw [HoprKeys.readEthKeystore, found, Except.mapErr, Outcome.lift, ok_bind, parsed,
    Except.mapErr, Outcome.lift, ok_bind, returns_bind_iff]
  constructor
  · intro returns
    exact returns.1
  · intro returns
    refine ⟨returns, ?_⟩
    intro pk _
    exact returns_lift _

/-- A file that holds a keystore is read with a result or an error exactly if the key derivation
is scrypt and the lengths that the code reaches suffice. -/
theorem readEthKeystore_returns_iff (files : FileSystem) (path password : String)
    (draws : Draws crates) {text : String} {keystore : EthKeystore}
    (found : files.readToString path = .ok text)
    (parsed : crates.json.fromStr text = .ok keystore) :
    Returns (HoprKeys.readEthKeystore crates files path password draws) ↔
      Tolerated crates keystore.crypto password := by
  rw [readEthKeystore_returns_iff_decrypt files path password draws found parsed]
  exact decryptKeystore_returns_iff keystore password

/-! ## Three files -/

open HoprKeys

def filesOf (keystore : EthKeystore) : FileSystem where
  entries _ := some (.ok (keystore.toJson strictJson))
  refusal _ := none

/-- The keystore of the chain key 1 under the password `local`. -/
def localKeystore : EthKeystore :=
  encryptKeystore localCrates localKey localDraws.salt localDraws.iv localDraws.id
    oneKeyPair.secret.toList

def pbkdf2Keystore : EthKeystore where
  crypto :=
    { cipher := "aes-128-ctr"
      iv := toBE 16 0x6087dab2f9fdbbfaddc31a909735c1e6
      ciphertext := toBE 32 0x5318b4d5bcd28de64ee5559e671353e16f075ecae9f99c7a79a38af5f869aa46
      kdf := .pbkdf2
      kdfparams := .pbkdf2 262144 32 "hmac-sha256"
        (toBE 32 0xae3cd4e7013836a3df6bd7241b12db061dbe2c6785853cce422d148a624ce0bd)
      mac := toBE 32 0x517ead924a9d0dc3124507e3393d175ce3ff7c1e96529c6c555ce9e51205e9b2 }
  id := beBytes 16 0x3198bc9c66725ab3d9954942343ae5b6
  version := 3

def shortKeyKeystore : EthKeystore :=
  { localKeystore with
    crypto := { localKeystore.crypto with
      kdfparams := .scrypt 16 8192 1 8 localDraws.salt.toList } }

def shortIvKeystore : EthKeystore :=
  { localKeystore with
    crypto := { localKeystore.crypto with iv := List.replicate 8 0 } }

theorem readEthKeystore_returns_iff_local :
    Returns (readEthKeystore localCrates (filesOf localKeystore) "identity" "local"
        localDraws) ↔
      Tolerated localCrates localKeystore.crypto "local" :=
  readEthKeystore_returns_iff (filesOf localKeystore) "identity" "local" localDraws rfl
    (strictJson_lawful.restoresKeystore localKeystore)

theorem not_tolerated_shortKey : ¬Tolerated localCrates shortKeyKeystore.crypto "local" := by
  intro tolerated
  have accepted : localCrates.scryptParams (localCrates.log2 8192) 8 1 16 = .ok () := by
    decide +kernel
  have sizes := tolerated accepted _ rfl
  exact absurd sizes.1 (by decide)

theorem encryptKeystore_macMatches (key salt : FixedBytes 32) (iv : FixedBytes 16) (id : Uuid)
    (plaintext : Bytes) :
    (encryptKeystore crates key salt iv id plaintext).crypto.MacMatches key.toList := rfl

theorem not_tolerated_shortIv : ¬Tolerated localCrates shortIvKeystore.crypto "local" := by
  intro tolerated
  have accepted : localCrates.scryptParams (localCrates.log2 8192) 8 1 32 = .ok () := by
    decide +kernel
  have derived : localCrates.scrypt (utf8 "local") localDraws.salt.toList (localCrates.log2 8192)
      8 1 32 = .ok localKey := by
    have own : (localKey.toList ++ List.replicate 32 0).take 32 = localKey.toList :=
      List.take_left' localKey.length_toList
    exact congrArg Except.ok (FixedBytes.ext own)
  have sizes := tolerated accepted localKey derived
  have mac : localKeystore.crypto.MacMatches localKey.toList := encryptKeystore_macMatches ..
  have long : 16 ≤ (List.replicate 8 (0 : UInt8)).length := sizes.2 mac
  rw [List.length_replicate] at long
  omega

theorem not_tolerated_pbkdf2 : ¬Tolerated localCrates pbkdf2Keystore.crypto "local" := not_false

def ReaderPanics (keystore : EthKeystore) : Prop :=
  strictJson.fromStr (keystore.toJson strictJson) = .ok keystore ∧
    ¬Returns (readEthKeystore localCrates (filesOf keystore) "identity" "local" localDraws)

theorem readerPanics_of_not_tolerated {keystore : EthKeystore}
    (notTolerated : ¬Tolerated localCrates keystore.crypto "local") : ReaderPanics keystore := by
  have parsed := strictJson_lawful.restoresKeystore keystore
  refine ⟨parsed, ?_⟩
  rw [readEthKeystore_returns_iff_decrypt (filesOf keystore) "identity" "local" localDraws rfl
    parsed, decryptKeystore_returns_iff]
  exact notTolerated

theorem not_readEthKeystore_returns :
    ReaderPanics pbkdf2Keystore ∧ ReaderPanics shortKeyKeystore ∧ ReaderPanics shortIvKeystore :=
  ⟨readerPanics_of_not_tolerated not_tolerated_pbkdf2,
    readerPanics_of_not_tolerated not_tolerated_shortKey,
    readerPanics_of_not_tolerated not_tolerated_shortIv⟩

end HoprTypes.Keypair
