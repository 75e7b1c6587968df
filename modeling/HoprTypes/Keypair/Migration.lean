import HoprTypes.Crypto.Instance
import HoprTypes.Keypair.KeyPair

/-!
# Identity files lose no key

What a file stores under a password does not depend on its version.  Keys that are written
are read back, and a start that migrates a file leaves one that holds the keys it returned.
-/

set_option autoImplicit false

namespace HoprTypes.Keypair

open BigEndian Keccak HoprTypes.Primitive HoprTypes.Crypto

/-! ## Stored secrets -/

/-- The secrets that a file holds; older files hold no packet or no Baby Jubjub key. -/
structure StoredKeys where
  packetKey : Option Bytes
  chainKey : Bytes
  bjjKey : Option Bytes

def StoredKeys.ofPlaintext (json : SerdeJson) (pk : Bytes) : Option StoredKeys :=
  if pk.length = 32 then some ⟨none, pk, none⟩
  else do
    let keys ← (json.fromSlice pk).toOption
    some ⟨some keys.packetKey, keys.chainKey,
      if keys.babyjubjubKey = [] then none else some keys.babyjubjubKey⟩

def storedKeys (crates : Crates) (files : FileSystem) (path password : String) :
    Option StoredKeys := do
  let jsonString ← (files.readToString path).toOption
  let keystore ← (crates.json.fromStr jsonString).toOption
  let pk ← (decryptKeystore crates keystore password).toOption
  StoredKeys.ofPlaintext crates.json pk

def StoredKeys.ContainedIn {crates : Crates} (stored : StoredKeys) (keys : HoprKeys crates) :
    Prop :=
  (∀ secret ∈ stored.packetKey, keys.packetKey.secret.toList = secret) ∧
    keys.chainKey.secret.toList = stored.chainKey ∧
      ∀ secret ∈ stored.bjjKey, keys.bjjKey.secret.toList = secret

/-- The curves and the key derivation accept what the code itself uses, and the JSON texts that
the code writes are read back. -/
structure Crates.Lawful (crates : Crates) : Prop where
  offchainTotal : ∀ secret, ∃ publicKey, crates.offchainFromPrivkey secret = .ok publicKey
  log2 : crates.log2 8192 = 13
  scryptParams : crates.scryptParams 13 8 1 32 = .ok ()
  scrypt : ∀ password salt, ∃ key, crates.scrypt password salt 13 8 1 32 = .ok key
  json : crates.json.Lawful

/-! ## Bytes -/

theorem length_le_quoteSeparated {piece : String} {pieces : List String} (member : piece ∈ pieces) :
    piece.toList.length ≤ (quoteSeparated pieces).toList.length := by
  unfold quoteSeparated
  induction pieces with
  | nil => cases member
  | cons head rest ih =>
      cases rest with
      | nil =>
          rw [List.mem_singleton.mp member, String.intercalate_singleton]
      | cons next rest =>
          rw [String.intercalate_cons_cons]
          simp only [String.toList_append, List.length_append]
          rcases List.mem_cons.mp member with rfl | later
          · omega
          · have shorter := ih later
            omega

theorem length_toVec {crates : Crates} (keys : HoprKeys crates) :
    32 < keys.privateKeys.toVec.length := by
  have member : hexEncode keys.chainKey.secret.toList ∈ keys.privateKeys.pieces := by
    simp [PrivateKeys.pieces, HoprKeys.privateKeys]
  have digits := (hexDigits_of_decodePairs (decodePairs_hexEncode keys.chainKey.secret.toList)).1
  have inText := length_le_quoteSeparated member
  have inBytes := length_le_length_utf8 (quoteSeparated keys.privateKeys.pieces)
  rw [keys.chainKey.secret.length_toList] at digits
  unfold PrivateKeys.toVec
  omega

theorem applyKeystream_toList {keySize ivSize size : Nat} (cipher : StreamCipher keySize ivSize)
    (key : FixedBytes keySize) (iv : FixedBytes ivSize) (data : FixedBytes size) :
    applyKeystream cipher key iv data.toList = (cipher.applyKeystream key iv data).toList := by
  obtain ⟨bytes, rfl⟩ := data
  rfl

theorem applyKeystream_applyKeystream {keySize ivSize : Nat} (cipher : StreamCipher keySize ivSize)
    (key : FixedBytes keySize) (iv : FixedBytes ivSize) (data : Bytes) :
    applyKeystream cipher key iv (applyKeystream cipher key iv data) = data := by
  have once : applyKeystream cipher key iv data =
      (cipher.applyKeystream key iv ⟨data, rfl⟩).toList := rfl
  rw [once, applyKeystream_toList]
  exact congrArg FixedBytes.toList (FixedBytes.xor_involutive (cipher.keystream key iv data.length)
    ⟨data, rfl⟩)

theorem sliceOrPanic_ok {ε : Type} {bytes : Bytes} {offset size : Nat}
    (fits : offset + size ≤ bytes.length) :
    (sliceOrPanic bytes offset size : Outcome ε (FixedBytes size)) =
      .ok ⟨slice bytes offset size, length_slice fits⟩ := dif_pos fits

/-! ## Written files are read back -/

theorem decryptKeystore_encryptKeystore {crates : Crates} (lawful : crates.Lawful)
    {password : String} {salt key : FixedBytes 32}
    (derived : crates.scrypt (utf8 password) salt.toList 13 8 1 32 = .ok key)
    (iv : FixedBytes 16) (id : Uuid) (plaintext : Bytes) :
    decryptKeystore crates (HoprKeys.encryptKeystore crates key salt iv id plaintext) password =
      .ok plaintext := by
  have keyOf : deriveKey crates password
      (.scrypt HoprKeys.hoprKdfParamsDklen (2 ^ HoprKeys.hoprKdfParamsLogN.toNat)
        HoprKeys.hoprKdfParamsP HoprKeys.hoprKdfParamsR salt.toList) = .ok key.toList := by
    have exponent : (2 : UInt32) ^ HoprKeys.hoprKdfParamsLogN.toNat = 8192 := by decide
    have size : HoprKeys.hoprKdfParamsDklen.toNat = 32 := by decide
    rw [deriveKey, exponent, lawful.log2, size]
    rw [HoprKeys.hoprKdfParamsP, HoprKeys.hoprKdfParamsR, lawful.scryptParams, derived]
    rfl
  have keyLength := key.length_toList
  have ivLength := iv.length_toList
  unfold decryptKeystore HoprKeys.encryptKeystore
  dsimp only
  rw [keyOf, ok_bind, sliceOrPanic_ok (by omega), ok_bind, if_neg (not_not.mpr rfl),
    sliceOrPanic_ok (by omega), ok_bind, sliceOrPanic_ok (by omega), ok_bind]
  have whole : (⟨slice iv.toList 0 16, length_slice (by omega)⟩ : FixedBytes 16) = iv := by
    ext1
    exact List.take_of_length_le (by rw [List.drop_zero, ivLength])
  rw [whole, applyKeystream_applyKeystream]

namespace FileSystem

theorem write_ok {files : FileSystem} {path : String} (accepts : files.refusal path = none)
    (content : String) : ∃ written, files.write path content = .ok written ∧
      written.readToString path = .ok content ∧ written.metadataIsOk path = true := by
  unfold write
  rw [accepts]
  exact ⟨_, rfl, by simp [readToString], by simp [metadataIsOk]⟩

end FileSystem

theorem DerivedKeypair.fromSecret_secret {Public : Type}
    {fromPrivkey : FixedBytes 32 → Except CryptoError Public}
    (keypair : DerivedKeypair fromPrivkey) :
    fromSecret fromPrivkey keypair.secret = .ok keypair := by
  obtain ⟨secret, publicKey, derived⟩ := keypair
  unfold fromSecret
  split
  · rename_i found foundDerived
    obtain rfl := Except.ok.inj (derived.symm.trans foundDerived)
    rfl
  · rename_i cause failed
    rw [derived] at failed
    cases failed

theorem DerivedKeypair.secret_of_fromSecret {Public : Type}
    {fromPrivkey : FixedBytes 32 → Except CryptoError Public} {bytes : FixedBytes 32}
    {keypair : DerivedKeypair fromPrivkey} (built : fromSecret fromPrivkey bytes = .ok keypair) :
    keypair.secret = bytes := by
  unfold fromSecret at built
  split at built
  · obtain rfl := Except.ok.inj built
    rfl
  · cases built

theorem OffchainKeypair.fromSecret_ok {crates : Crates} (lawful : crates.Lawful)
    (secret : FixedBytes 32) :
    ∃ keypair, DerivedKeypair.fromSecret crates.offchainFromPrivkey secret = .ok keypair := by
  obtain ⟨publicKey, derived⟩ := lawful.offchainTotal secret
  exact ⟨⟨secret, publicKey, derived⟩,
    DerivedKeypair.fromSecret_secret ⟨secret, publicKey, derived⟩⟩

namespace HoprKeys

variable {crates : Crates}

theorem copyKey_toList (key : FixedBytes 32) : copyKey key.toList = .ok key :=
  dif_pos key.length_toList

theorem fromPlaintext_privateKeys (lawful : crates.Lawful) (keys : HoprKeys crates)
    (draws : Draws crates) :
    fromPlaintext crates keys.id draws keys.privateKeys.toVec = .ok (keys, false) := by
  have longer := length_toVec keys
  have notBare : ¬ keys.privateKeys.toVec.length = 32 := by omega
  have bjjLength := keys.bjjKey.secret.length_toList
  have bjj : bjjSecret crates draws keys.privateKeys.babyjubjubKey =
      .ok (keys.bjjKey.secret, false) := dif_pos bjjLength
  have packet : copyKey keys.privateKeys.packetKey = .ok keys.packetKey.secret := copyKey_toList _
  have chain : copyKey keys.privateKeys.chainKey = .ok keys.chainKey.secret := copyKey_toList _
  unfold fromPlaintext
  rw [dif_neg notBare, lawful.json.restoresKeys]
  simp only [Except.mapErr, ok_bind]
  rw [packet, ok_bind, chain, ok_bind, bjj, ok_bind]
  simp only [DerivedKeypair.fromSecret_secret, ChainKeypair.fromSecret_secret, ok_bind]

theorem readEthKeystore_of_text {files : FileSystem} {path password text : String}
    {keystore : EthKeystore} {pk : Bytes} (found : files.readToString path = .ok text)
    (parsed : crates.json.fromStr text = .ok keystore)
    (decrypted : decryptKeystore crates keystore password = .ok pk) (draws : Draws crates) :
    readEthKeystore crates files path password draws =
      Outcome.lift (fromPlaintext crates keystore.id draws pk) := by
  rw [readEthKeystore, found, Except.mapErr, Outcome.lift, ok_bind, parsed, Except.mapErr,
    Outcome.lift, ok_bind, decrypted, ok_bind]

theorem read_writeEthKeystore (lawful : crates.Lawful) (keys : HoprKeys crates)
    {files : FileSystem} {path : String} (accepts : files.refusal path = none)
    (password : String) (draws : Draws crates) :
    ∃ written, keys.writeEthKeystore files path password draws = .ok written ∧
      written.metadataIsOk path = true ∧
      ∀ later, readEthKeystore crates written path password later = .ok (keys, false) := by
  obtain ⟨key, derived⟩ := lawful.scrypt (utf8 password) draws.salt.toList
  obtain ⟨written, stored, text, present⟩ := FileSystem.write_ok accepts
    ((encryptKeystore crates key draws.salt draws.iv keys.id keys.privateKeys.toVec).toJson
      crates.json)
  refine ⟨written, ?_, present, ?_⟩
  · unfold writeEthKeystore
    rw [hoprKdfParamsLogN, hoprKdfParamsR, hoprKdfParamsP, lawful.scryptParams, derived]
    simp only [Except.mapErr, ok_bind, stored]
  · intro later
    rw [readEthKeystore_of_text text (lawful.json.restoresKeystore _)
      (decryptKeystore_encryptKeystore lawful derived _ _ _)]
    exact lift_eq_ok.mpr (fromPlaintext_privateKeys lawful keys later)

/-! ## Reading again -/

theorem copyKey_eq_ok {key : Bytes} {secret : FixedBytes 32} (copied : copyKey key = .ok secret) :
    secret.toList = key := by
  unfold copyKey at copied
  split_ifs at copied
  obtain rfl := Except.ok.inj copied
  rfl

theorem bjjSecret_cases {draws : Draws crates} {stored : Bytes} {secret : FixedBytes 32}
    {migrate : Bool} (found : bjjSecret crates draws stored = .ok (secret, migrate)) :
    (migrate = false ∧ secret.toList = stored ∧ stored ≠ [] ∧
        ∀ later, bjjSecret crates later stored = .ok (secret, false)) ∨
      (migrate = true ∧ stored = [] ∧
        ∀ later : Draws crates,
          bjjSecret crates later stored = .ok (later.bjjKey.secret, true)) := by
  unfold bjjSecret at found
  by_cases exact : stored.length = 32
  · rw [dif_pos exact, Except.ok.injEq, Prod.mk.injEq] at found
    obtain ⟨rfl, rfl⟩ := found
    refine Or.inl ⟨rfl, rfl, ?_, fun later => dif_pos exact⟩
    rintro rfl
    cases exact
  · rw [dif_neg exact] at found
    by_cases empty : stored = []
    · rw [if_pos empty, Except.ok.injEq, Prod.mk.injEq] at found
      refine Or.inr ⟨found.2.symm, empty, ?_⟩
      intro later
      unfold bjjSecret
      rw [dif_neg exact, if_pos empty]
    · rw [if_neg empty] at found
      cases found

/-- A bare chain key is read without randomness; the other keys are drawn. -/
theorem fromPlaintext_cases_bare (lawful : crates.Lawful) {id : Uuid} {draws : Draws crates}
    {pk : Bytes} (bare : pk.length = 32) {keys : HoprKeys crates} {migrate : Bool}
    (read : fromPlaintext crates id draws pk = .ok (keys, migrate)) :
    ∃ stored, StoredKeys.ofPlaintext crates.json pk = some stored ∧
      ∀ later, ∃ again, fromPlaintext crates id later pk = .ok (again, migrate) ∧
        stored.ContainedIn again ∧ (migrate = false → again = keys) := by
  unfold fromPlaintext at read
  rw [dif_pos bare] at read
  obtain ⟨packetKey, _, read⟩ := bind_eq_ok.mp read
  obtain ⟨chainKey, chain, read⟩ := bind_eq_ok.mp read
  rw [Except.ok.injEq, Prod.mk.injEq] at read
  obtain ⟨rfl, rfl⟩ := read
  rw [exceptMapErr_eq_ok] at chain
  refine ⟨⟨none, pk, none⟩, if_pos bare, ?_⟩
  intro later
  obtain ⟨drawn, packet⟩ := OffchainKeypair.fromSecret_ok lawful later.packetSecret
  refine ⟨⟨drawn, chainKey, later.bjjKey, later.id⟩, ?_, ⟨?_, ?_, ?_⟩, ?_⟩
  · unfold fromPlaintext
    rw [dif_pos bare, packet, chain]
    rfl
  · intro secret absent
    cases absent
  · rw [ChainKeypair.secret_of_fromSecret chain]
  · intro secret absent
    cases absent
  · intro impossible
    cases impossible

/-- A stored record is read without randomness but for a Baby Jubjub key it does not hold. -/
theorem fromPlaintext_cases_stored {id : Uuid} {draws : Draws crates} {pk : Bytes}
    (bare : ¬ pk.length = 32) {keys : HoprKeys crates} {migrate : Bool}
    (read : fromPlaintext crates id draws pk = .ok (keys, migrate)) :
    ∃ stored, StoredKeys.ofPlaintext crates.json pk = some stored ∧
      ∀ later, ∃ again, fromPlaintext crates id later pk = .ok (again, migrate) ∧
        stored.ContainedIn again ∧ (migrate = false → again = keys) := by
  unfold fromPlaintext at read
  rw [dif_neg bare] at read
  obtain ⟨stored, parsed, read⟩ := bind_eq_ok.mp read
  obtain ⟨packetSecret, packetCopied, read⟩ := bind_eq_ok.mp read
  obtain ⟨chainSecret, chainCopied, read⟩ := bind_eq_ok.mp read
  obtain ⟨⟨secret, migrated⟩, found, read⟩ := bind_eq_ok.mp read
  obtain ⟨packetKey, packet, read⟩ := bind_eq_ok.mp read
  obtain ⟨chainKey, chain, read⟩ := bind_eq_ok.mp read
  obtain ⟨bjjKey, bjj, read⟩ := bind_eq_ok.mp read
  rw [Except.ok.injEq, Prod.mk.injEq] at read
  obtain ⟨rfl, rfl⟩ := read
  rw [exceptMapErr_eq_ok] at parsed packet chain bjj
  have packetHeld := copyKey_eq_ok packetCopied
  have chainHeld := copyKey_eq_ok chainCopied
  -- Everything but the Baby Jubjub key is read without randomness.
  have again : ∀ (later : Draws crates) (other : FixedBytes 32) (key : BjjKeypair crates),
      bjjSecret crates later stored.babyjubjubKey = .ok (other, migrated) →
      DerivedKeypair.fromSecret crates.bjjFromPrivkey other = .ok key →
      fromPlaintext crates id later pk = .ok (⟨packetKey, chainKey, key, id⟩, migrated) := by
    intro later other key otherFound otherKey
    unfold fromPlaintext
    rw [dif_neg bare, parsed]
    simp only [Except.mapErr, ok_bind]
    rw [packetCopied, ok_bind, chainCopied, ok_bind, otherFound, ok_bind]
    simp only [packet, chain, otherKey, ok_bind]
  have packetSame : packetKey.secret.toList = stored.packetKey := by
    rw [DerivedKeypair.secret_of_fromSecret packet, packetHeld]
  have chainSame : chainKey.secret.toList = stored.chainKey := by
    rw [ChainKeypair.secret_of_fromSecret chain, chainHeld]
  refine ⟨_, (if_neg bare).trans (by rw [parsed]; rfl), ?_⟩
  intro later
  rcases bjjSecret_cases found with ⟨rfl, held, filled, same⟩ | ⟨rfl, empty, drawn⟩
  · refine ⟨_, again later secret bjjKey (same later) bjj, ⟨?_, chainSame, ?_⟩, fun _ => rfl⟩
    · intro key member
      rw [packetSame, Option.mem_some_iff.mp member]
    · intro key member
      rw [if_neg filled] at member
      rw [DerivedKeypair.secret_of_fromSecret bjj, held, Option.mem_some_iff.mp member]
  · refine ⟨_, again later later.bjjKey.secret later.bjjKey (drawn later)
      (DerivedKeypair.fromSecret_secret _), ⟨?_, chainSame, ?_⟩, ?_⟩
    · intro key member
      rw [packetSame, Option.mem_some_iff.mp member]
    · intro key member
      rw [if_pos empty] at member
      cases member
    · intro impossible
      cases impossible

/-- What a plaintext that gives keys stores: the keys hold it, whatever is drawn, and nothing
is drawn if no migration is needed. -/
theorem fromPlaintext_cases (lawful : crates.Lawful) {id : Uuid} {draws : Draws crates}
    {pk : Bytes} {keys : HoprKeys crates} {migrate : Bool}
    (read : fromPlaintext crates id draws pk = .ok (keys, migrate)) :
    ∃ stored, StoredKeys.ofPlaintext crates.json pk = some stored ∧
      ∀ later, ∃ again, fromPlaintext crates id later pk = .ok (again, migrate) ∧
        stored.ContainedIn again ∧ (migrate = false → again = keys) := by
  by_cases bare : pk.length = 32
  · exact fromPlaintext_cases_bare lawful bare read
  · exact fromPlaintext_cases_stored bare read

/-- What a file that is read stores: every other reading holds it, with the same need of a
migration, and gives the same keys if there is none. -/
theorem readEthKeystore_cases (lawful : crates.Lawful) {files : FileSystem}
    {path password : String} {draws : Draws crates} {keys : HoprKeys crates} {migrate : Bool}
    (read : readEthKeystore crates files path password draws = .ok (keys, migrate)) :
    files.metadataIsOk path = true ∧
    ∃ stored, storedKeys crates files path password = some stored ∧
      ∀ later, ∃ again, readEthKeystore crates files path password later = .ok (again, migrate) ∧
        stored.ContainedIn again ∧ (migrate = false → again = keys) := by
  unfold readEthKeystore at read
  obtain ⟨text, found, read⟩ := bind_eq_ok.mp read
  obtain ⟨keystore, parsed, read⟩ := bind_eq_ok.mp read
  obtain ⟨pk, decrypted, read⟩ := bind_eq_ok.mp read
  rw [lift_eq_ok, exceptMapErr_eq_ok] at found parsed
  obtain ⟨stored, holds, again⟩ := fromPlaintext_cases lawful (lift_eq_ok.mp read)
  have present : files.metadataIsOk path = true := by
    unfold FileSystem.readToString at found
    unfold FileSystem.metadataIsOk
    cases entry : files.entries path with
    | none =>
        rw [entry] at found
        cases found
    | some content => rfl
  refine ⟨present, stored, ?_, ?_⟩
  · unfold storedKeys
    simp only [found, parsed, decrypted, Except.toOption, Option.bind_eq_bind, Option.bind_some,
      holds]
  · intro later
    obtain ⟨keysAgain, readAgain, held, same⟩ := again later
    refine ⟨keysAgain, ?_, held, same⟩
    rw [readEthKeystore_of_text found parsed decrypted]
    exact lift_eq_ok.mpr readAgain

/-- A start from a file that needs no migration returns its keys and leaves it as it is. -/
theorem init_of_read {files : FileSystem} {path password : String} {draws : Draws crates}
    {keys : HoprKeys crates} (present : files.metadataIsOk path = true)
    (read : readEthKeystore crates files path password draws = .ok (keys, false)) :
    init crates files draws (.fromFile password path) = .ok (keys, files) := by
  rw [init, if_pos present, read]
  rfl

/-- A start from a file that can be read returns keys with all that it stores, and leaves a
file from which these keys are read. -/
theorem init_keeps (lawful : crates.Lawful) {files : FileSystem} {path password : String}
    {draws : Draws crates} {keys : HoprKeys crates} {migrate : Bool}
    (accepts : migrate = true → files.refusal path = none)
    (read : readEthKeystore crates files path password draws = .ok (keys, migrate)) :
    ∃ stored, storedKeys crates files path password = some stored ∧
      ∀ start, ∃ kept after, init crates files start (.fromFile password path) = .ok (kept, after) ∧
        stored.ContainedIn kept ∧ after.metadataIsOk path = true ∧
        ∀ later, readEthKeystore crates after path password later = .ok (kept, false) := by
  obtain ⟨present, stored, holds, again⟩ := readEthKeystore_cases lawful read
  refine ⟨stored, holds, ?_⟩
  intro start
  obtain ⟨kept, readStart, held, _⟩ := again start
  cases migrate with
  | false =>
      refine ⟨kept, files, init_of_read present readStart, held, present, ?_⟩
      intro later
      obtain ⟨_, _, _, unmigrated⟩ := readEthKeystore_cases lawful readStart
      obtain ⟨same, readLater, _, unchanged⟩ := unmigrated later
      rw [readLater, unchanged rfl]
  | true =>
      obtain ⟨written, stored, presentAfter, readBack⟩ :=
        read_writeEthKeystore lawful kept (accepts rfl) password start
      refine ⟨kept, written, ?_, held, presentAfter, readBack⟩
      rw [init, if_pos present, readStart]
      simp only [Outcome.mapErr, ok_bind, if_true, stored, Outcome.lift]

/-- Written keys are read back.  From every file that can be read, and written where it needs a
migration, a start returns keys with all that the file stores and leaves a file from which
these are read without a migration; a second start returns them and leaves that file as it is. -/
theorem keystore_loses_no_key (crates : Crates) (lawful : crates.Lawful) :
    (∀ (keys : HoprKeys crates) (files : FileSystem) (path password : String),
      files.refusal path = none → ∀ draws, ∃ written,
        keys.writeEthKeystore files path password draws = .ok written ∧
        ∀ later, readEthKeystore crates written path password later = .ok (keys, false)) ∧
    ∀ (files : FileSystem) (path password : String) (draws : Draws crates)
      (keys : HoprKeys crates) (migrate : Bool),
        readEthKeystore crates files path password draws = .ok (keys, migrate) →
        (migrate = true → files.refusal path = none) →
        ∃ stored, storedKeys crates files path password = some stored ∧
        ∀ start, ∃ kept after,
          init crates files start (.fromFile password path) = .ok (kept, after) ∧
          stored.ContainedIn kept ∧
          (∀ later, readEthKeystore crates after path password later = .ok (kept, false)) ∧
          ∀ again, init crates after again (.fromFile password path) = .ok (kept, after) := by
  constructor
  · intro keys files path password accepts draws
    obtain ⟨written, stored, _, readBack⟩ :=
      read_writeEthKeystore lawful keys accepts password draws
    exact ⟨written, stored, readBack⟩
  · intro files path password draws keys migrate read accepts
    obtain ⟨stored, holds, keeps⟩ := init_keeps lawful accepts read
    refine ⟨stored, holds, ?_⟩
    intro start
    obtain ⟨kept, after, started, held, present, readBack⟩ := keeps start
    refine ⟨kept, after, started, held, readBack, ?_⟩
    intro again
    exact init_of_read present (readBack again)

/-! ## A file with a bare chain key -/

/-- The scrypt key of the password `local` and a salt of zeros. -/
def localKey : FixedBytes 32 :=
  beBytes 32 0x3c9e815512d0191cb9d29900d923c44f4ec11c8ee2b38ff735bdc64e7fd0fdc6

/-- The keystream of that key and an iv of zeros. -/
def localKeystream : FixedBytes 32 :=
  beBytes 32 0xc78a7749a81712e44df696e21558720d306b0cb94a0fb2bd50ad046d81ab73f3

def localPacketKey : OffchainPublicKey :=
  beBytes 32 0xd75a980182b10ab7d54bfed3c964073a0ee172f3daa62325af021a68f707511a

def localPacketSecret : FixedBytes 32 :=
  beBytes 32 0x9d61b19deffd5a60ba844af492ec2cc44449c5697b326919703bac031cae7f60

/-- The generator of Baby Jubjub. -/
def localBjjKey : BjjPublicKey :=
  beBytes 32 0x8b7d2d877a253c4b7733e1b91f05e0fcedf96bd11c2e572549b2a0f703727925

/-- The crates, right at the secrets, the password, the salt and the iv of the file. -/
def localCrates : Crates where
  curve := oneKeyCurve
  offchainFromPrivkey _ := .ok localPacketKey
  bjjFromPrivkey _ := .ok localBjjKey
  log2 n := UInt8.ofNat n.toNat.log2
  scryptParams logN r p dklen :=
    if logN < 64 ∧ 0 < r ∧ 0 < p ∧ 10 ≤ dklen ∧ dklen ≤ 64 then .ok ()
    else .error "invalid scrypt parameters"
  scrypt _ _ _ _ _ dklen := .ok ⟨(localKey.toList ++ List.replicate dklen 0).take dklen, by simp⟩
  aes128Ctr := ⟨fun _ _ size =>
    ⟨(localKeystream.toList ++ List.replicate size 0).take size, by simp⟩⟩
  json := strictJson
  hex := constHex

theorem localCrates_lawful : localCrates.Lawful where
  offchainTotal _ := ⟨localPacketKey, rfl⟩
  log2 := by decide +kernel
  scryptParams := by decide
  scrypt _ _ := ⟨_, rfl⟩
  json := strictJson_lawful

def localDraws : Draws localCrates where
  salt := beBytes 32 0
  iv := beBytes 16 0
  packetSecret := localPacketSecret
  chainKey := oneKeyPair
  bjjKey := ⟨⟨1 :: List.replicate 31 0, by decide⟩, localBjjKey, rfl⟩
  id := beBytes 16 0x8e5fe1426ef94fbbaae85de32b680e31

/-- A file that stores the chain key 1 only. -/
def bareFiles : FileSystem where
  entries _ := some (.ok ((encryptKeystore localCrates localKey localDraws.salt localDraws.iv
    localDraws.id oneKeyPair.secret.toList).toJson strictJson))
  refusal _ := none

theorem read_bareFiles :
    readEthKeystore localCrates bareFiles "identity" "local" localDraws =
      .ok (⟨⟨localPacketSecret, localPacketKey, rfl⟩, oneKeyPair, localDraws.bjjKey,
        localDraws.id⟩, true) := by
  have derived : localCrates.scrypt (utf8 "local") localDraws.salt.toList 13 8 1 32 =
      .ok localKey := by
    have own : (localKey.toList ++ List.replicate 32 0).take 32 = localKey.toList :=
      List.take_left' localKey.length_toList
    exact congrArg Except.ok (FixedBytes.ext own)
  have chain : ChainKeypair.fromSecret localCrates.curve oneKeyPair.secret = .ok oneKeyPair :=
    ChainKeypair.fromSecret_secret oneKeyPair
  have packet : DerivedKeypair.fromSecret localCrates.offchainFromPrivkey localPacketSecret =
      .ok ⟨localPacketSecret, localPacketKey, rfl⟩ :=
    DerivedKeypair.fromSecret_secret ⟨localPacketSecret, localPacketKey, rfl⟩
  have decoded : fromPlaintext localCrates localDraws.id localDraws oneKeyPair.secret.toList =
      .ok (⟨⟨localPacketSecret, localPacketKey, rfl⟩, oneKeyPair, localDraws.bjjKey,
        localDraws.id⟩, true) := by
    unfold fromPlaintext
    rw [dif_pos oneKeyPair.secret.length_toList, chain]
    exact congrArg (fun result => (Except.mapErr KeyPairError.cryptographyError result) >>=
      fun packetKey => Except.ok (_, true)) packet
  rw [readEthKeystore_of_text rfl (strictJson_lawful.restoresKeystore _)
    (decryptKeystore_encryptKeystore localCrates_lawful derived _ _ _)]
  exact lift_eq_ok.mpr decoded

/-- From the bare chain key a start makes a file with three keys. -/
theorem keystore_loses_no_key_bareFiles :
    ∃ stored, storedKeys localCrates bareFiles "identity" "local" = some stored ∧
      ∀ start, ∃ kept after,
        init localCrates bareFiles start (.fromFile "local" "identity") = .ok (kept, after) ∧
        stored.ContainedIn kept ∧
        (∀ later, readEthKeystore localCrates after "identity" "local" later =
          .ok (kept, false)) ∧
        ∀ again, init localCrates after again (.fromFile "local" "identity") = .ok (kept, after) :=
  (keystore_loses_no_key localCrates localCrates_lawful).2 bareFiles "identity" "local" localDraws
    _ true read_bareFiles (fun _ => rfl)

end HoprKeys

end HoprTypes.Keypair
