import HoprTypes.Crypto.Lioness
import HoprTypes.Keypair.Keystore

/-!
# The keys of a node and their identity file

The keys are written encrypted under a password.  Files of older versions hold only the chain
key, or no Baby Jubjub key; what they lack is drawn at random and written back on start.
-/

set_option autoImplicit false

namespace HoprTypes.Keypair

open BigEndian Keccak HoprTypes.Primitive HoprTypes.Crypto

/-! ## Crates, files and randomness -/

abbrev BjjPublicKey := FixedBytes 32

structure Crates where
  curve : Secp256k1
  /-- The Ed25519 public key of a secret, which must be a curve point. -/
  offchainFromPrivkey : FixedBytes 32 → Except CryptoError OffchainPublicKey
  bjjFromPrivkey : FixedBytes 32 → Except CryptoError BjjPublicKey
  /-- The conversion `(n as f32).log2() as u8`. -/
  log2 : UInt32 → UInt8
  /-- Checks the scrypt parameters `log_n`, `r` and `p` for an output length. -/
  scryptParams : UInt8 → UInt32 → UInt32 → (dklen : Nat) → Except String Unit
  /-- The key of a password and a salt, under checked parameters. -/
  scrypt : (password salt : Bytes) → UInt8 → UInt32 → UInt32 → (dklen : Nat) →
    Except String (FixedBytes dklen)
  aes128Ctr : StreamCipher 16 16
  json : SerdeJson
  hex : ConstHex

/-- The files of the system: a path may hold a text or something that cannot be read as one,
and may refuse to be written. -/
structure FileSystem where
  entries : String → Option (Except String String)
  refusal : String → Option String

namespace FileSystem

def metadataIsOk (files : FileSystem) (path : String) : Bool := (files.entries path).isSome

def readToString (files : FileSystem) (path : String) : Except String String :=
  (files.entries path).getD (.error "No such file or directory (os error 2)")

def write (files : FileSystem) (path content : String) : Except String FileSystem :=
  match files.refusal path with
  | some cause => .error cause
  | none => .ok { files with entries := Function.update files.entries path (some (.ok content)) }

end FileSystem

/-! ## Key pairs -/

/-- A key pair with a 32-byte secret, from which its public key is derived. -/
structure DerivedKeypair {Public : Type} (fromPrivkey : FixedBytes 32 → Except CryptoError Public)
    where
  secret : FixedBytes 32
  publicKey : Public
  derived : fromPrivkey secret = .ok publicKey

namespace DerivedKeypair

variable {Public : Type} {fromPrivkey : FixedBytes 32 → Except CryptoError Public}

def fromSecret (fromPrivkey : FixedBytes 32 → Except CryptoError Public) (bytes : FixedBytes 32) :
    Except CryptoError (DerivedKeypair fromPrivkey) :=
  match derived : fromPrivkey bytes with
  | .ok publicKey => .ok ⟨bytes, publicKey, derived⟩
  | .error cause => .error cause

end DerivedKeypair

variable (crates : Crates)

abbrev OffchainKeypair := DerivedKeypair crates.offchainFromPrivkey

abbrev BjjKeypair := DerivedKeypair crates.bjjFromPrivkey

/-- What one call may draw at random. -/
structure Draws where
  salt : FixedBytes 32
  iv : FixedBytes 16
  packetSecret : FixedBytes 32
  chainKey : ChainKeypair crates.curve
  bjjKey : BjjKeypair crates
  id : Uuid

/-- A random Ed25519 key pair.  It panics if the drawn secret has no public key. -/
def OffchainKeypair.random {ε : Type} (draws : Draws crates) :
    Outcome ε (OffchainKeypair crates) :=
  Outcome.expect "called `Result::unwrap()` on an `Err` value"
    (DerivedKeypair.fromSecret crates.offchainFromPrivkey draws.packetSecret)

structure HoprKeys where
  packetKey : OffchainKeypair crates
  chainKey : ChainKeypair crates.curve
  bjjKey : BjjKeypair crates
  id : Uuid

inductive IdentityRetrievalModes where
  | fromFile (password idPath : String)
  | fromPrivateKey (privateKey : String)
  | fromIdIntoFile (id : Uuid) (password idPath : String)

/-! ## Keys from a text -/

namespace HoprKeys

variable {crates}

def tryFrom (draws : Draws crates) (value : FixedBytes 96) :
    Except KeyPairError (HoprKeys crates) := do
  let packetKey ← (DerivedKeypair.fromSecret crates.offchainFromPrivkey
    ⟨slice value.toList 0 32, length_slice (by rw [value.length_toList]; omega)⟩).mapErr
      KeyPairError.cryptographyError
  let chainKey ← (ChainKeypair.fromSecret crates.curve
    ⟨slice value.toList 32 32, length_slice (by rw [value.length_toList]; omega)⟩).mapErr
      KeyPairError.cryptographyError
  let bjjKey ← (DerivedKeypair.fromSecret crates.bjjFromPrivkey
    ⟨slice value.toList 64 32, length_slice (by rw [value.length_toList])⟩).mapErr
      KeyPairError.cryptographyError
  .ok ⟨packetKey, chainKey, bjjKey, draws.id⟩

def fromStr (draws : Draws crates) (s : String) : Except KeyPairError (HoprKeys crates) :=
  let maybePrivKey := (s.toList.dropPrefix? lowerMark).getD s.toList
  if utf8Len maybePrivKey ≠ 2 * 96 then
    .error (.invalidPrivateKeySize (utf8Len maybePrivKey) (2 * 96))
  else do
    let decoded ← (crates.hex.decodeToSlice maybePrivKey 96).mapErr KeyPairError.hexParsingError
    let privKeyRaw ← (tryFromSlice 96 "priv_key_raw" decoded).mapErr fun cause =>
      .cryptographyError (.other cause)
    tryFrom draws privKeyRaw

def random {ε : Type} (draws : Draws crates) : Outcome ε (HoprKeys crates) := do
  let packetKey ← OffchainKeypair.random crates draws
  .ok ⟨packetKey, draws.chainKey, draws.bjjKey, draws.id⟩

end HoprKeys

/-! ## Reading and writing the identity file -/

def sliceOrPanic {ε : Type} (bytes : Bytes) (offset size : Nat) : Outcome ε (FixedBytes size) :=
  if fits : offset + size ≤ bytes.length then
    .ok ⟨slice bytes offset size, length_slice fits⟩
  else Outcome.panicked "range end index out of range for slice"

def applyKeystream {keySize ivSize : Nat} (cipher : StreamCipher keySize ivSize)
    (key : FixedBytes keySize) (iv : FixedBytes ivSize) (data : Bytes) : Bytes :=
  (cipher.applyKeystream key iv ⟨data, rfl⟩).toList

def deriveKey (password : String) : KdfparamsType → Outcome KeyPairError Bytes
  | .scrypt dklen n p r salt => do
      Outcome.lift ((crates.scryptParams (crates.log2 n) r p dklen.toNat).mapErr
        KeyPairError.keyDerivationError)
      let key ← Outcome.lift ((crates.scrypt (utf8 password) salt (crates.log2 n) r p
        dklen.toNat).mapErr KeyPairError.keyDerivationError)
      .ok key.toList
  | .pbkdf2 .. => Outcome.panicked "HOPR only supports scrypt"

def decryptKeystore (keystore : EthKeystore) (password : String) : Outcome KeyPairError Bytes := do
  let key ← deriveKey crates password keystore.crypto.kdfparams
  let macKey ← sliceOrPanic key 16 16
  if (keccak256 (macKey.toList ++ keystore.crypto.ciphertext)).toList ≠ keystore.crypto.mac then
    Outcome.fail .macMismatch
  else do
    let cipherKey ← sliceOrPanic key 0 16
    let iv ← sliceOrPanic keystore.crypto.iv 0 16
    .ok (applyKeystream crates.aes128Ctr cipherKey iv keystore.crypto.ciphertext)

namespace HoprKeys

def copyKey (key : Bytes) : Except KeyPairError (FixedBytes 32) :=
  if exact : key.length = 32 then .ok ⟨key, exact⟩
  else .error (.invalidEncryptedKeyLength key.length 32)

/-- The Baby Jubjub key of a keystore, drawn at random if the keystore has none. -/
def bjjSecret (draws : Draws crates) (stored : Bytes) :
    Except KeyPairError (FixedBytes 32 × Bool) :=
  if exact : stored.length = 32 then .ok (⟨stored, exact⟩, false)
  else if stored = [] then .ok (draws.bjjKey.secret, true)
  else .error (.invalidEncryptedKeyLength stored.length 32)

/-- The keys in the decrypted content of a keystore, and whether it is of an older version. -/
def fromPlaintext (id : Uuid) (draws : Draws crates) (pk : Bytes) :
    Except KeyPairError (HoprKeys crates × Bool) :=
  if exact : pk.length = 32 then do
    let packetKey ← (DerivedKeypair.fromSecret crates.offchainFromPrivkey
      draws.packetSecret).mapErr KeyPairError.cryptographyError
    let chainKey ← (ChainKeypair.fromSecret crates.curve ⟨pk, exact⟩).mapErr
      KeyPairError.cryptographyError
    .ok (⟨packetKey, chainKey, draws.bjjKey, draws.id⟩, true)
  else do
    let privateKeys ← (crates.json.fromSlice pk).mapErr KeyPairError.jsonError
    let packetSecret ← copyKey privateKeys.packetKey
    let chainSecret ← copyKey privateKeys.chainKey
    let (bjjSecret, needsMigration) ← bjjSecret crates draws privateKeys.babyjubjubKey
    let packetKey ← (DerivedKeypair.fromSecret crates.offchainFromPrivkey packetSecret).mapErr
      KeyPairError.cryptographyError
    let chainKey ← (ChainKeypair.fromSecret crates.curve chainSecret).mapErr
      KeyPairError.cryptographyError
    let bjjKey ← (DerivedKeypair.fromSecret crates.bjjFromPrivkey bjjSecret).mapErr
      KeyPairError.cryptographyError
    .ok (⟨packetKey, chainKey, bjjKey, id⟩, needsMigration)

def readEthKeystore (files : FileSystem) (path password : String) (draws : Draws crates) :
    Outcome KeyPairError (HoprKeys crates × Bool) := do
  let jsonString ← Outcome.lift ((files.readToString path).mapErr KeyPairError.fileSystemError)
  let keystore ← Outcome.lift ((crates.json.fromStr jsonString).mapErr KeyPairError.jsonError)
  let pk ← decryptKeystore crates keystore password
  Outcome.lift (fromPlaintext crates keystore.id draws pk)

def version : UInt32 := 3

def hoprCipher : String := "aes-128-ctr"

def hoprKdfParamsDklen : UInt8 := 32

def hoprKdfParamsLogN : UInt8 := 13

def hoprKdfParamsR : UInt32 := 8

def hoprKdfParamsP : UInt32 := 1

variable {crates}

def privateKeys (keys : HoprKeys crates) : PrivateKeys where
  version := version
  chainKey := keys.chainKey.secret.toList
  packetKey := keys.packetKey.secret.toList
  babyjubjubKey := keys.bjjKey.secret.toList

variable (crates) in
def encryptKeystore (key : FixedBytes 32) (salt : FixedBytes 32) (iv : FixedBytes 16) (id : Uuid)
    (plaintext : Bytes) : EthKeystore :=
  let cipherKey : FixedBytes 16 :=
    ⟨slice key.toList 0 16, length_slice (by rw [key.length_toList]; omega)⟩
  let ciphertext := applyKeystream crates.aes128Ctr cipherKey iv plaintext
  let mac := keccak256 (slice key.toList 16 16 ++ ciphertext)
  { id := id
    version := 3
    crypto :=
      { cipher := hoprCipher
        iv := iv.toList
        ciphertext := ciphertext
        kdf := .scrypt
        kdfparams := .scrypt hoprKdfParamsDklen (2 ^ hoprKdfParamsLogN.toNat) hoprKdfParamsP
          hoprKdfParamsR salt.toList
        mac := mac.toList } }

def writeEthKeystore (keys : HoprKeys crates) (files : FileSystem) (path password : String)
    (draws : Draws crates) : Except KeyPairError FileSystem := do
  (crates.scryptParams hoprKdfParamsLogN hoprKdfParamsR hoprKdfParamsP 32).mapErr
    KeyPairError.keyDerivationError
  let key ← (crates.scrypt (utf8 password) draws.salt.toList hoprKdfParamsLogN hoprKdfParamsR
    hoprKdfParamsP 32).mapErr KeyPairError.keyDerivationError
  let keystore := encryptKeystore crates key draws.salt draws.iv keys.id keys.privateKeys.toVec
  (files.write path (keystore.toJson crates.json)).mapErr KeyPairError.fileSystemError

/-! ## Starting a node -/

def notSufficient (idPath : String) (cause : KeyPairError) : KeyPairError :=
  .generalError ("An identity file is present at " ++ idPath ++
    " but the provided password <REDACTED> is not sufficient to decrypt it " ++ cause.display)

variable (crates) in
def init (files : FileSystem) (draws : Draws crates) :
    IdentityRetrievalModes → Outcome KeyPairError (HoprKeys crates × FileSystem)
  | .fromFile password idPath =>
      if files.metadataIsOk idPath then do
        let (keys, needsMigration) ← (readEthKeystore crates files idPath password draws).mapErr
          (notSufficient idPath)
        if needsMigration then
          let files ← Outcome.lift (keys.writeEthKeystore files idPath password draws)
          .ok (keys, files)
        else .ok (keys, files)
      else do
        let keys ← random draws
        let files ← Outcome.lift (keys.writeEthKeystore files idPath password draws)
        .ok (keys, files)
  | .fromPrivateKey privateKey => do
      let keys ← Outcome.lift (fromStr draws privateKey)
      .ok (keys, files)
  | .fromIdIntoFile id password idPath =>
      if files.metadataIsOk idPath then
        Outcome.fail (.generalError ("Cannot create identity file at " ++ idPath ++
          " because the file already exists."))
      else do
        let packetKey ← OffchainKeypair.random crates draws
        let keys : HoprKeys crates := ⟨packetKey, draws.chainKey, draws.bjjKey, id⟩
        let files ← Outcome.lift (keys.writeEthKeystore files idPath password draws)
        .ok (keys, files)

end HoprKeys

end HoprTypes.Keypair
