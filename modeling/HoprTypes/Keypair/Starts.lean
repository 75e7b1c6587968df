import HoprTypes.Keypair.Migration

/-!
# Starting a node again and again

Nodes are started in any modes, with any paths and passwords, on one file system.  A start
writes at most the file it names, and an identity file that exists only to bring it to the
present version.
-/

set_option autoImplicit false

namespace HoprTypes.Keypair

open BigEndian HoprTypes.Primitive HoprTypes.Crypto

namespace IdentityRetrievalModes

def identityFile? : IdentityRetrievalModes → Option (String × String)
  | .fromFile password idPath | .fromIdIntoFile _ password idPath => some (idPath, password)
  | .fromPrivateKey _ => none

end IdentityRetrievalModes

namespace HoprKeys

variable {crates : Crates}

abbrev Start (crates : Crates) := IdentityRetrievalModes × Draws crates

/-- The files after a start: one that fails or panics writes nothing. -/
def filesAfter (crates : Crates) (files : FileSystem) (start : Start crates) : FileSystem :=
  match init crates files start.2 start.1 with
  | .ok (_, after) => after
  | .error _ => files

def runStarts (crates : Crates) (files : FileSystem) (starts : List (Start crates)) : FileSystem :=
  starts.foldl (filesAfter crates) files

/-! ## What a start writes -/

theorem writeEthKeystore_eq_ok {keys : HoprKeys crates} {files written : FileSystem}
    {path password : String} {draws : Draws crates}
    (stored : keys.writeEthKeystore files path password draws = .ok written) :
    files.refusal path = none ∧
      ∃ content, written.entries = Function.update files.entries path (some (.ok content)) := by
  unfold writeEthKeystore at stored
  obtain ⟨_, _, stored⟩ := bind_eq_ok.mp stored
  obtain ⟨key, _, stored⟩ := bind_eq_ok.mp stored
  rw [exceptMapErr_eq_ok, FileSystem.write] at stored
  cases refused : files.refusal path with
  | some cause => simp [refused] at stored
  | none =>
      simp only [refused, Except.ok.injEq] at stored
      exact ⟨rfl, _, by rw [← stored]⟩

/-- The file a start writes with the keys it returns: a new one, or one of an older version that
it has read with the same password. -/
structure Writes (crates : Crates) (files : FileSystem) (start : Start crates)
    (keys : HoprKeys crates) (after : FileSystem) (path password : String) : Prop where
  names : start.1.identityFile? = some (path, password)
  writes : keys.writeEthKeystore files path password start.2 = .ok after
  replaces : files.metadataIsOk path = false ∨ (start.1 = .fromFile password path ∧
    readEthKeystore crates files path password start.2 = .ok (keys, true))

theorem init_writes {files after : FileSystem} {start : Start crates} {keys : HoprKeys crates}
    (started : init crates files start.2 start.1 = .ok (keys, after)) :
    (after = files ∧ ∀ password path, start.1 = .fromFile password path →
        readEthKeystore crates files path password start.2 = .ok (keys, false)) ∨
      ∃ path password, Writes crates files start keys after path password := by
  obtain ⟨mode, draws⟩ := start
  cases mode with
  | fromFile password path =>
      cases present : files.metadataIsOk path with
      | true =>
          rw [init, if_pos present] at started
          obtain ⟨⟨read, migrate⟩, reading, started⟩ := bind_eq_ok.mp started
          rw [mapErr_eq_ok] at reading
          cases migrate with
          | false =>
              obtain ⟨rfl, rfl⟩ := Prod.mk.inj (Except.ok.inj started)
              left
              refine ⟨rfl, fun password' path' same => ?_⟩
              obtain ⟨rfl, rfl⟩ := IdentityRetrievalModes.fromFile.inj same
              exact reading
          | true =>
              dsimp only at started
              rw [if_pos rfl] at started
              obtain ⟨written, stored, started⟩ := bind_eq_ok.mp started
              obtain ⟨rfl, rfl⟩ := Prod.mk.inj (Except.ok.inj started)
              right
              exact ⟨path, password, rfl, lift_eq_ok.mp stored, Or.inr ⟨rfl, reading⟩⟩
      | false =>
          rw [init, present, if_neg Bool.false_ne_true] at started
          obtain ⟨drawn, _, started⟩ := bind_eq_ok.mp started
          obtain ⟨written, stored, started⟩ := bind_eq_ok.mp started
          obtain ⟨rfl, rfl⟩ := Prod.mk.inj (Except.ok.inj started)
          right
          exact ⟨path, password, rfl, lift_eq_ok.mp stored, Or.inl present⟩
  | fromPrivateKey privateKey =>
      rw [init] at started
      obtain ⟨parsed, _, started⟩ := bind_eq_ok.mp started
      obtain ⟨rfl, rfl⟩ := Prod.mk.inj (Except.ok.inj started)
      left
      exact ⟨rfl, fun _ _ impossible => by cases impossible⟩
  | fromIdIntoFile id password path =>
      cases present : files.metadataIsOk path with
      | true =>
          rw [init, if_pos present] at started
          cases started
      | false =>
          rw [init, present, if_neg Bool.false_ne_true] at started
          obtain ⟨packetKey, _, started⟩ := bind_eq_ok.mp started
          obtain ⟨written, stored, started⟩ := bind_eq_ok.mp started
          obtain ⟨rfl, rfl⟩ := Prod.mk.inj (Except.ok.inj started)
          right
          exact ⟨path, password, rfl, lift_eq_ok.mp stored, Or.inl present⟩

/-! ## What later starts leave -/

theorem readEthKeystore_congr {files files' : FileSystem} {path : String}
    (same : files'.entries path = files.entries path) (password : String) (draws : Draws crates) :
    readEthKeystore crates files' path password draws =
      readEthKeystore crates files path password draws := by
  unfold readEthKeystore FileSystem.readToString
  rw [same]

theorem filesAfter_entries {files : FileSystem} {path : String} {start : Start crates}
    (present : files.metadataIsOk path = true)
    (unmigrated : ∀ password, start.1 = .fromFile password path →
      ∀ keys, readEthKeystore crates files path password start.2 ≠ .ok (keys, true)) :
    (filesAfter crates files start).entries path = files.entries path := by
  unfold filesAfter
  cases started : init crates files start.2 start.1 with
  | error failure => rfl
  | ok result =>
      obtain ⟨keys, after⟩ := result
      rcases init_writes started with ⟨rfl, _⟩ | ⟨written, password, writes⟩
      · rfl
      · obtain ⟨_, content, entries⟩ := writeEthKeystore_eq_ok writes.writes
        dsimp only
        rw [entries]
        by_cases own : path = written
        · subst own
          rcases writes.replaces with absent | ⟨mode, read⟩
          · rw [present] at absent
            cases absent
          · exact absurd read (unmigrated password mode keys)
        · exact Function.update_of_ne own _ _

theorem runStarts_entries {files : FileSystem} {path : String}
    (present : files.metadataIsOk path = true) {starts : List (Start crates)}
    (unmigrated : ∀ start ∈ starts, ∀ password, start.1 = .fromFile password path →
      ∀ draws keys, readEthKeystore crates files path password draws ≠ .ok (keys, true)) :
    (runStarts crates files starts).entries path = files.entries path := by
  induction starts generalizing files with
  | nil => rfl
  | cons start starts ih =>
      have step : (filesAfter crates files start).entries path = files.entries path :=
        filesAfter_entries present fun password mode =>
          unmigrated start List.mem_cons_self password mode start.2
      have presentAfter : (filesAfter crates files start).metadataIsOk path = true := by
        rw [FileSystem.metadataIsOk, step]
        exact present
      have rest := ih presentAfter fun later member password mode draws keys => by
        rw [readEthKeystore_congr step]
        exact unmigrated later (List.mem_cons_of_mem _ member) password mode draws keys
      exact rest.trans step

/-- A successful start with an identity file leaves one that holds the keys it returned. -/
theorem init_holds (lawful : crates.Lawful) {files after : FileSystem} {start : Start crates}
    {keys : HoprKeys crates} {path password : String}
    (names : start.1.identityFile? = some (path, password))
    (started : init crates files start.2 start.1 = .ok (keys, after)) :
    after.metadataIsOk path = true ∧
      ∀ later, readEthKeystore crates after path password later = .ok (keys, false) := by
  rcases init_writes started with ⟨rfl, unwritten⟩ | ⟨written, password', writes⟩
  · obtain ⟨mode, draws⟩ := start
    cases mode with
    | fromPrivateKey privateKey => cases names
    | fromIdIntoFile id password' path' =>
        -- This mode returns keys only after writing them.
        rw [init] at started
        split_ifs at started with present
        · cases started
        · obtain ⟨packetKey, _, started⟩ := bind_eq_ok.mp started
          obtain ⟨written, stored, started⟩ := bind_eq_ok.mp started
          obtain ⟨rfl, rfl⟩ := Prod.mk.inj (Except.ok.inj started)
          obtain ⟨rfl, rfl⟩ := Prod.mk.inj (Option.some.inj names)
          rw [lift_eq_ok] at stored
          obtain ⟨accepts, _⟩ := writeEthKeystore_eq_ok stored
          obtain ⟨written', again, presentAfter, readBack⟩ :=
            read_writeEthKeystore lawful _ accepts password' draws
          obtain rfl := Except.ok.inj (stored.symm.trans again)
          exact ⟨presentAfter, readBack⟩
    | fromFile password' path' =>
        obtain ⟨rfl, rfl⟩ := Prod.mk.inj (Option.some.inj names)
        obtain ⟨present, _, _, unmigrated⟩ := readEthKeystore_cases lawful (unwritten _ _ rfl)
        refine ⟨present, fun later => ?_⟩
        obtain ⟨again, read, _, same⟩ := unmigrated later
        rw [read, same rfl]
  · obtain ⟨rfl, rfl⟩ := Prod.mk.inj (Option.some.inj (names.symm.trans writes.names))
    obtain ⟨accepts, _⟩ := writeEthKeystore_eq_ok writes.writes
    obtain ⟨written', again, presentAfter, readBack⟩ :=
      read_writeEthKeystore lawful keys accepts password start.2
    obtain rfl := Except.ok.inj (writes.writes.symm.trans again)
    exact ⟨presentAfter, readBack⟩

/-- After a successful start with an identity file, any later starts, in any modes and with any
paths and passwords, leave that file as it is, and starts from it return the same keys.  The one
condition is that no other password opens it as a file of an older version. -/
theorem starts_return_same_keys (lawful : crates.Lawful) {files after : FileSystem}
    {start : Start crates} {keys : HoprKeys crates} {path password : String}
    (names : start.1.identityFile? = some (path, password))
    (started : init crates files start.2 start.1 = .ok (keys, after))
    (later : List (Start crates))
    (others : ∀ other ∈ later, ∀ password', other.1 = .fromFile password' path →
      password' ≠ password →
      ∀ draws keys, readEthKeystore crates after path password' draws ≠ .ok (keys, true)) :
    (runStarts crates after later).readToString path = after.readToString path ∧
      ∀ draws, init crates (runStarts crates after later) draws (.fromFile password path) =
        .ok (keys, runStarts crates after later) := by
  obtain ⟨present, holds⟩ := init_holds lawful names started
  have same : (runStarts crates after later).entries path = after.entries path := by
    apply runStarts_entries present
    intro other member password' mode draws keys' read
    by_cases own : password' = password
    · rw [own, holds draws] at read
      cases read
    · exact others other member password' mode own draws keys' read
  constructor
  · unfold FileSystem.readToString
    rw [same]
  · intro draws
    apply init_of_read
    · rw [FileSystem.metadataIsOk, same]
      exact present
    · rw [readEthKeystore_congr same]
      exact holds draws

/-- A node whose identity file held a bare chain key, and two more starts with that file. -/
theorem starts_return_same_keys_bareFiles :
    ∃ keys after, init localCrates bareFiles localDraws (.fromFile "local" "identity") =
        .ok (keys, after) ∧
      ∀ draws, init localCrates (runStarts localCrates after
          [(.fromIdIntoFile localDraws.id "other" "identity", localDraws),
            (.fromFile "local" "identity", localDraws)]) draws (.fromFile "local" "identity") =
        .ok (keys, runStarts localCrates after
          [(.fromIdIntoFile localDraws.id "other" "identity", localDraws),
            (.fromFile "local" "identity", localDraws)]) := by
  obtain ⟨_, _, starts⟩ := init_keeps localCrates_lawful (fun _ => rfl) read_bareFiles
  obtain ⟨keys, after, started, _⟩ := starts localDraws
  refine ⟨keys, after, started, ?_⟩
  refine (@starts_return_same_keys localCrates localCrates_lawful bareFiles after
    (.fromFile "local" "identity", localDraws) keys "identity" "local" rfl started _ ?_).2
  intro other member password mode different
  simp only [List.mem_cons, List.not_mem_nil, or_false] at member
  rcases member with rfl | rfl
  · cases mode
  · cases mode
    exact absurd rfl different

end HoprKeys

end HoprTypes.Keypair
