import AccountSidecar.Proofs.StoreFaults

/-!
# Commands that fail

A command of the admin tool that is not carried out has changed neither the users file nor the
metadata file, whichever step of it broke off: both stores write beside their file, and moving the
new content into place is the last step that changes a file. What a failed write leaves behind are
directories and, at the temporary location, content that could not be moved. So the content of a
file is kept unless it stands where the other store leaves its own (`Deployment.DraftsApart`). The
report is printed after all that, so a run whose report is refused may have changed its file
(`failed_runs_change_files`). The list of users and recovery keys change neither file in any case
(`failed_run_keeps_files`).
-/

namespace AccountSidecar

open Storage AccountSidecar.Action CommandLine

namespace Storage.FileTree

variable {t u : FileTree} {file l : Location}

/-- The content of a file depends on its node. -/
theorem content?_congr (same : t.node? l = u.node? l) : t.content? l = u.content? l := by
  unfold content?
  rw [same]

/-- Making directories keeps what all files hold. -/
theorem makeDirectories?_content? {m : Location} (made : t.makeDirectories? m = some u)
    (l : Location) : u.content? l = t.content? l := by
  rcases makeBelow?_node? made l with kept | ⟨gone, new, -⟩
  · exact content?_congr kept
  · simp only [content?, gone, new]

end Storage.FileTree

namespace Users

variable {files t : FileTree} {file l : Location}

/-- A write of the users file that fails keeps what all files hold but the temporary one. -/
theorem content?_of_failed_commit {content : ByteArray} {e : StoreError}
    (other : l ≠ file.temporary) (failed : commit files file content = (.error e, t)) :
    t.content? l = files.content? l := by
  unfold commit at failed
  split at failed
  · rw [← (Prod.mk.inj failed).2]
  · split at failed
    · rw [← (Prod.mk.inj failed).2]
    · rename_i u made
      have kept := FileTree.makeDirectories?_content? made l
      split at failed
      · rw [← (Prod.mk.inj failed).2, kept]
      · rename_i v written
        obtain ⟨-, rfl⟩ := FileTree.write?_eq_some written
        split at failed
        · rw [← (Prod.mk.inj failed).2, ← kept]
          exact FileTree.content?_congr (FileTree.node?_set_of_ne _ other)
        · cases (Prod.mk.inj failed).1

/-- A change of credentials that fails keeps what all files hold but the temporary one. -/
theorem content?_of_failed_upsert {c : Credential} {e : StoreError}
    (other : l ≠ file.temporary) (failed : upsert files file c = (.error e, t)) :
    t.content? l = files.content? l := by
  unfold upsert at failed
  split at failed
  · rw [← (Prod.mk.inj failed).2]
  · split at failed
    · rw [← (Prod.mk.inj failed).2]
    · exact content?_of_failed_commit other failed

end Users

namespace Metadata

variable {files t : FileTree} {file l : Location}

/-- Opening the metadata keeps what all files hold. -/
theorem content?_openAt (calls : Nat) (files : FileTree) (file l : Location) :
    (openAt calls files file).2.content? l = files.content? l := by
  unfold openAt
  cases made : files.makeDirectories? file.parent with
  | none => rfl
  | some t => exact FileTree.makeDirectories?_content? made l

/-- A write of the metadata that fails keeps what all files hold but the temporary one. -/
theorem content?_of_failed_commit {entries : Keyed Entry} {e : StoreError}
    (other : l ≠ file.temporary) (failed : commit files file entries = (.error e, t)) :
    t.content? l = files.content? l := by
  rcases commit_cases files file entries with ⟨-, -, written⟩ | ⟨e', t', again, kept⟩
  · rw [written] at failed
    cases (Prod.mk.inj failed).1
  · rw [again] at failed
    rw [← (Prod.mk.inj failed).2]
    exact FileTree.content?_congr (FileTree.node?_congr (kept l other))

end Metadata

namespace CommandLine

variable {d : Deployment} {w : World} {l : Location} {α : Type}

/-- Whether an action keeps what a location holds. -/
def Keeps (l : Location) (a : Action α) (w : World) : Prop :=
  (a.runIn w).2.files.content? l = w.files.content? l

/-- Whether an action keeps what a location holds unless it ends with a report of success. -/
def KeepsUnlessDone (l : Location) (a : Action Report) (w : World) : Prop :=
  (∃ r, (a.runIn w).1 = .ok r ∧ r.IsDone) ∨ Keeps l a w

/-- An action that keeps what a location holds may come before one that keeps it unless it is
done. -/
theorem keepsUnlessDone_bind {a : Action α} {f : α → Action Report} (first : Keeps l a w)
    (second : ∀ x w', a.runIn w = (.ok x, w') → KeepsUnlessDone l (f x) w') :
    KeepsUnlessDone l (a >>= f) w := by
  unfold KeepsUnlessDone Keeps at *
  rw [runIn_bind]
  rcases run : a.runIn w with ⟨e | x, w'⟩ <;> rw [run] at first
  · exact .inr first
  · exact (second x w' run).imp_right fun kept => kept.trans first

/-- A step that keeps what a location holds where it fails, and is reported as done where not. -/
theorem keepsUnlessDone_done {a : Action Unit}
    (failed : ∀ e, (a.runIn w).1 = .error e → Keeps l a w) (line : String) :
    KeepsUnlessDone l (a >>= fun _ => pure (.done line)) w := by
  unfold KeepsUnlessDone Keeps at *
  rw [runIn_bind]
  rcases run : a.runIn w with ⟨e | _, w'⟩
  · rw [run] at failed
    exact .inr (failed e rfl)
  · exact .inl ⟨_, rfl, rfl⟩

/-- Reporting errors changes no file. -/
theorem keeps_reporting {a : Action Report} (keeps : Keeps l a w) : Keeps l (reporting a) w := by
  unfold Keeps at *
  rw [runIn_reporting, ← keeps]
  rcases a.runIn w with ⟨_ | _, _⟩ <;> rfl

/-- Reporting errors changes neither a file nor what is done. -/
theorem keepsUnlessDone_reporting {a : Action Report} (keeps : KeepsUnlessDone l a w) :
    KeepsUnlessDone l (reporting a) w := by
  rcases keeps with ⟨r, ended, done⟩ | kept
  · refine .inl ⟨r, ?_, done⟩
    rw [runIn_reporting]
    rcases run : a.runIn w with ⟨e | r', w'⟩ <;> rw [run] at ended
    · cases ended
    · exact ended
  · exact .inr (keeps_reporting kept)

/-- What is added to a report in the end changes nothing as long as its code stays. -/
theorem keepsUnlessDone_then_pure {a : Action Report} {g : Report → Report}
    (keeps : KeepsUnlessDone l a w) (codes : ∀ r, (g r).code = r.code) :
    KeepsUnlessDone l (a >>= fun r => pure (g r)) w := by
  unfold KeepsUnlessDone Keeps at *
  rw [runIn_bind]
  rcases run : a.runIn w with ⟨e | r, w'⟩ <;> rw [run] at keeps
  · exact keeps
  · refine keeps.imp_left fun ⟨r', same, done⟩ => ⟨g r, rfl, (codes r).trans ?_⟩
    obtain rfl := Except.ok.inj same
    exact done

/-- A report alone keeps everything. -/
theorem keepsUnlessDone_pure (r : Report) : KeepsUnlessDone l (pure r) w := .inr rfl

/-- Looking up a user keeps everything. -/
theorem keeps_findUser (username : String) : Keeps l (findUser d username) w := by
  unfold Keeps
  rw [runIn_findUser]

/-- Opening the metadata keeps what all files hold. -/
theorem keeps_openMetadata : Keeps l (openMetadata d) w := by
  have kept := Metadata.content?_openAt d.calls w.files d.metadataFile l
  unfold Keeps
  rw [runIn_openMetadata, ← kept]
  rcases Metadata.openAt d.calls w.files d.metadataFile with ⟨_ | _, files⟩ <;> rfl

/-- A change of credentials is reported as done, or keeps what all files hold but the temporary
one. -/
theorem keepsUnlessDone_upsertUser (other : l ≠ d.usersFile.temporary) (c : Users.Credential)
    (line : String) : KeepsUnlessDone l (upsertUser d c >>= fun _ => pure (.done line)) w := by
  refine keepsUnlessDone_done (fun e failed => ?_) line
  unfold Keeps
  rw [runIn_upsertUser] at failed ⊢
  rcases put : Users.upsert w.files d.usersFile c with ⟨s | _, files⟩ <;> rw [put] at failed
  · exact Users.content?_of_failed_upsert other put
  · cases failed

/-- A change of a phone is reported as done, or keeps what all files hold but the temporary one. -/
theorem keepsUnlessDone_setPhone (other : l ≠ d.metadataFile.temporary)
    (username phone line : String) :
    KeepsUnlessDone l (Action.setPhone d username phone >>= fun _ => pure (.done line)) w := by
  refine keepsUnlessDone_done (fun e failed => ?_) line
  have run := Metadata.Change.runIn_perform d (.setPhone username phone) w
  unfold Metadata.Change.perform at run
  unfold Keeps
  rw [run] at failed ⊢
  rcases put : Metadata.commit w.files d.metadataFile _ with ⟨s | _, files⟩ <;> rw [put] at failed
  · exact Metadata.content?_of_failed_commit other put
  · cases failed

/-- Giving credentials a password that is read is reported as done, or keeps what all files hold but
the temporary one. -/
theorem keepsUnlessDone_writePassword (other : l ≠ d.usersFile.temporary) (t : Terminal)
    (fromInput : Bool) (c : Users.Credential) (line : String) :
    KeepsUnlessDone l (writePassword d t fromInput c line) w := by
  have written (password : String) : KeepsUnlessDone l (reporting do
      let hash ← hashPassword d password
      upsertUser d { c with password := hash }
      pure (.done line)) w := by
    refine keepsUnlessDone_reporting (keepsUnlessDone_bind ?_ fun hash w' _ => ?_)
    · unfold Keeps
      rw [runIn_hashPassword]
    · exact keepsUnlessDone_upsertUser other _ line
  unfold writePassword
  dsimp only
  split
  · exact keepsUnlessDone_then_pure (keepsUnlessDone_pure _) fun _ => rfl
  · exact keepsUnlessDone_then_pure (written _) fun _ => rfl

/-- A command that looks up a user first keeps what a location holds, unless it is done, where it
does with whatever was found. -/
theorem keepsUnlessDone_user {username : String} {f : Option Users.Credential → Action Report}
    (keeps : ∀ found, KeepsUnlessDone l (f found) w) :
    KeepsUnlessDone l (reporting (findUser d username >>= f)) w := by
  refine keepsUnlessDone_reporting (keepsUnlessDone_bind (keeps_findUser username) ?_)
  intro found w' looked
  rw [runIn_findUser] at looked
  obtain rfl := (Prod.mk.inj looked).2
  exact keeps found

/-- Turning off two-factor login keeps what all files hold but the temporary one, unless it is
done. -/
theorem keepsUnlessDone_turnOffTotp (other : l ≠ d.usersFile.temporary) (c : Users.Credential) :
    KeepsUnlessDone l (turnOffTotp d c) w := by
  unfold turnOffTotp
  split
  · exact keepsUnlessDone_upsertUser other _ _
  · exact keepsUnlessDone_pure _

/-- The list of users keeps what all files hold. -/
theorem keeps_listUsers : Keeps l (listUsers d) w := by
  unfold listUsers Keeps
  rw [runIn_bind, runIn_credentials]
  cases Users.load w.files d.usersFile with
  | error e => rfl
  | ok users =>
    have opened : Keeps l (openMetadata d) w := keeps_openMetadata
    unfold Keeps at opened
    dsimp only [Except.mapError]
    rw [runIn_bind, ← opened]
    rcases (openMetadata d).runIn w with ⟨_ | _, w'⟩
    · rfl
    · dsimp only
      split <;> rfl

/-- A command keeps what all files hold but the temporary ones, unless it is done. -/
theorem Command.keepsUnlessDone (users : l ≠ d.usersFile.temporary)
    (metadata : l ≠ d.metadataFile.temporary) (t : Terminal) (c : Command) :
    KeepsUnlessDone l (c.perform d t) w := by
  cases c with
  | list => exact .inr (keeps_reporting keeps_listUsers)
  | add username fromInput =>
    refine keepsUnlessDone_user fun found => ?_
    cases found with
    | some c => exact keepsUnlessDone_pure _
    | none => exact keepsUnlessDone_writePassword users t fromInput _ _
  | setPassword username fromInput =>
    refine keepsUnlessDone_user fun found => ?_
    cases found with
    | some c => exact keepsUnlessDone_writePassword users t fromInput c _
    | none => exact keepsUnlessDone_pure _
  | setPhone username phone =>
    exact keepsUnlessDone_reporting (keepsUnlessDone_bind keeps_openMetadata fun _ _ _ =>
      keepsUnlessDone_setPhone metadata username phone _)
  | resetTotp username =>
    refine keepsUnlessDone_user fun found => ?_
    cases found with
    | some c => exact keepsUnlessDone_turnOffTotp users c
    | none => exact keepsUnlessDone_pure _
  | recoveryKey username => exact keepsUnlessDone_pure _

/-- Whether the command was carried out, be its report printed or not. -/
def Ending.IsDone : Ending → Prop
  | .reported r | .unprinted r => r.IsDone
  | .failed _ => False

/-- The end of a run that is done is one of a report of success. -/
theorem Outlets.isDone_ending (o : Outlets) (r : Report) : (o.ending r).IsDone ↔ r.IsDone := by
  unfold ending
  split <;> exact Iff.rfl

end CommandLine

/-- Whether both files of a deployment hold in one tree what they hold in another. -/
structure Deployment.SameContents (d : Deployment) (t u : FileTree) : Prop where
  users : u.content? d.usersFile = t.content? d.usersFile
  metadata : u.content? d.metadataFile = t.content? d.metadataFile

/-- Whether neither file of a deployment is the temporary file of the other. -/
structure Deployment.DraftsApart (d : Deployment) : Prop where
  users : d.usersFile ≠ d.metadataFile.temporary
  metadata : d.metadataFile ≠ d.usersFile.temporary

/-- A run of the tool whose command is not carried out, be it that it reports failure or breaks off,
has changed neither file; nor has any list of users or recovery key. A command line that cannot be
read changes nothing at all. -/
theorem failed_run_keeps_files (o : Outlets) (env : Keyed String) (sources : Sources) (t : Terminal)
    (args : List String) (w : World) :
    ∃ ending w', (runOn o env sources t args).runIn w = (.ok ending, w') ∧
      (∀ stop, Invocation.read env args = .error stop → w' = w) ∧
      ∀ i, Invocation.read env args = .ok i →
        let d := i.deployment sources
        (d.DraftsApart → ¬ ending.IsDone → d.SameContents w.files w'.files) ∧
        ((i.command = some .list ∨ ∃ username, i.command = some (.recoveryKey username)) →
          d.SameContents w.files w'.files) := by
  refine ⟨_, _, runIn_print o (run env sources t args) w, fun stop unread => ?_, fun i read => ?_⟩
  · simp only [run, unread]
    rfl
  · intro d
    simp only [run, read]
    constructor
    · intro apart failed
      have kept (l : Location) (users : l ≠ d.usersFile.temporary)
          (metadata : l ≠ d.metadataFile.temporary) : Keeps l (i.perform sources t) w := by
        have keeps : KeepsUnlessDone l (i.perform sources t) w := by
          unfold Invocation.perform
          split
          · exact Command.keepsUnlessDone users metadata t _
          · exact keepsUnlessDone_pure _
        refine keeps.resolve_left fun ⟨r, ended, done⟩ => failed ?_
        rw [ended]
        exact (o.isDone_ending r).mpr done
      have own (file : Location) : file ≠ file.temporary :=
        Location.ne_temporary_of_prefix List.prefix_rfl
      exact ⟨kept _ (own _) apart.users, kept _ apart.metadata (own _)⟩
    · intro reading
      have kept (l : Location) : Keeps l (i.perform sources t) w := by
        unfold Invocation.perform
        rcases reading with list | ⟨username, recovery⟩
        · rw [list]
          exact keeps_reporting keeps_listUsers
        · rw [recovery]
          rfl
      exact ⟨kept _, kept _⟩

/-- The theorem at a phone that cannot be set, since the temporary metadata file is refused. -/
theorem failed_run_keeps_files_phone :
    let args := ["-u", "users", "-m", "metadata", "phone", "alice", "+1"]
    let i : Invocation := ⟨"users", "metadata", some (.setPhone "alice" "+1")⟩
    let sources := (Deployment.sample false).sources
    let d := i.deployment sources
    let w : World := { files := { (World.sample [⟨"alice", "x", ""⟩]).files with
      refuses := fun l => l = ["metadata.tmp"] } }
    Invocation.read [] args = .ok i ∧ d.DraftsApart ∧
      ∃ w', (runOn {} [] sources {} args).runIn w =
          (.ok (.reported (.failed "write temp toml")), w') ∧
        d.SameContents w.files w'.files := by
  intro args i sources d w
  have read : Invocation.read [] args = .ok i := by decide +kernel
  have apart : d.DraftsApart := ⟨by decide +kernel, by decide +kernel⟩
  have failed : ((run [] sources {} args).runIn w).1 = .ok (.failed "write temp toml") := by
    decide +kernel
  obtain ⟨ending, w', ran, -, kept⟩ := failed_run_keeps_files {} [] sources {} args w
  obtain ⟨ended, left⟩ := Prod.mk.inj ((runIn_print _ _ _).symm.trans ran)
  rw [failed] at ended
  obtain rfl := Except.ok.inj ended
  exact ⟨read, apart, w', ran, (kept i read).1 apart Nat.one_ne_zero⟩

/-- Adding a user whose credentials are not taken reports why and leaves what the attempt leaves. -/
theorem CommandLine.runIn_add_of_refused {d : Deployment} {w : World} {t : Terminal}
    {username password hash : String} {e : Users.StoreError} {files : FileTree}
    (entry : readPassword t true = { password }) (fits : passwordFault? password = none)
    (nobody : w.find d username = .ok none)
    (hashed : Password.hash? (d.sources.salt w.drawn.salts) password = some hash)
    (shown : e.isReported = true)
    (put : Users.upsert w.files d.usersFile ⟨username, hash, ""⟩ = (.error e, files)) :
    ∃ w', ((Command.add username true).perform d t).runIn w = (.ok (.failed e.message), w') ∧
      w'.files = files := by
  obtain ⟨w₁, drawn, same⟩ : ∃ w₁, (hashPassword d password).runIn w = (.ok hash, w₁) ∧
      w₁.files = w.files := by
    rw [runIn_hashPassword, hashed]
    exact ⟨_, rfl, rfl⟩
  have refused : (upsertUser d ⟨username, hash, ""⟩).runIn w₁ =
      (.error (.users e), { w₁ with files }) := by
    rw [runIn_upsertUser, same, put]
    rfl
  have message : reportedMessage? (.users e) = some e.message := by simp [reportedMessage?, shown]
  refine ⟨{ w₁ with files }, ?_, rfl⟩
  simp only [Command.perform, addUser, writePassword, entry, fits]
  rw [runIn_reporting, runIn_bind, runIn_findUser, nobody]
  simp only [Except.mapError]
  rw [runIn_bind, runIn_reporting, runIn_bind_ok drawn, runIn_bind, refused]
  simp only [message, Report.failed, String.empty_append]
  rfl

/-- Where no directory stands yet, credentials cannot be moved to the name that leads back from it.
What was written for that stays beside it. -/
theorem Users.upsert_back {c : Users.Credential} (valid : isValidUsername c.username = true) :
    ∃ t, upsert .empty ["d", ".."] c = (.error .unwritable, t) ∧
      t.content? ["d", "...tmp"] = some (print [c]).toUTF8 := by
  have read : load .empty ["d", ".."] = .ok [] := by decide +kernel
  let t := (FileTree.empty.set ["d"] .directory).set ["d", "...tmp"] (.file (print [c]).toUTF8)
  refine ⟨t, ?_, rfl⟩
  simp only [upsert, valid, Bool.not_true, Bool.false_eq_true, if_false, read]
  rfl

/-- Runs that do not return zero and change a file. One reports a failure: the metadata file that it
is given is the temporary file of the users file, which cannot be put in place. The other has set a
phone when an output that takes ASCII alone refuses the report. -/
theorem failed_runs_change_files :
    let sources := (Deployment.sample false).sources
    (let args := ["-u", "d/..", "-m", "d/...tmp", "add", "bob", "--password-stdin"]
      let i : Invocation := ⟨"d/..", "d/...tmp", some (.add "bob" true)⟩
      let w : World := { files := .empty }
      Invocation.read [] args = .ok i ∧
        ∃ w', (runOn {} [] sources { input := "pw\n" } args).runIn w =
            (.ok (.reported (.failed "write users file")), w') ∧
          ¬ (i.deployment sources).SameContents w.files w'.files) ∧
    (let args := ["-u", "users", "-m", "metadata", "phone", "é", "+1"]
      let i : Invocation := ⟨"users", "metadata", some (.setPhone "é" "+1")⟩
      let w : World := { files := .empty }
      Invocation.read [] args = .ok i ∧
        ∃ w', (runOn { output := fun s => s.toList.all (·.toNat < 128) } [] sources {} args).runIn w
            = (.ok (.unprinted (.done "Phone for 'é' set to +1.")), w') ∧
          ¬ (i.deployment sources).SameContents w.files w'.files) := by
  intro sources
  constructor
  · intro args i w
    have read : Invocation.read [] args = .ok i := by decide +kernel
    have usersFile : (i.deployment sources).usersFile = ["d", ".."] := by decide +kernel
    have metadataFile : (i.deployment sources).metadataFile = ["d", "...tmp"] := by decide +kernel
    have nobody : w.find (i.deployment sources) "bob" = .ok none := by decide +kernel
    obtain ⟨hash, hashed⟩ := Password.exists_hash?
      (by decide +kernel : Password.isTooLong "pw" = false) (Deployment.sample_salt false 0)
    obtain ⟨t, put, left⟩ := Users.upsert_back (c := ⟨"bob", hash, ""⟩)
      (by decide : Users.isValidUsername "bob" = true)
    rw [← usersFile] at put
    have entry : readPassword { input := "pw\n" } true = { password := "pw" } := by decide +kernel
    obtain ⟨w', ran, files⟩ := runIn_add_of_refused (w := w) entry (by decide +kernel) nobody hashed
      rfl put
    have failed : (run [] sources { input := "pw\n" } args).runIn w =
        (.ok (.failed "write users file"), w') := by
      simp only [run, read]
      exact ran
    refine ⟨read, w', by rw [runOn, runIn_print, failed]; rfl, fun same => ?_⟩
    have gone := same.metadata
    rw [files, metadataFile] at gone
    cases left.symm.trans gone
  · intro args i w
    have read : Invocation.read [] args = .ok i := by decide +kernel
    have metadataFile : (i.deployment sources).metadataFile = ["metadata"] := by decide +kernel
    have done : ((run [] sources {} args).runIn w).1 =
        .ok (.done "Phone for 'é' set to +1.") := by decide +kernel
    have changed : (((run [] sources {} args).runIn w).2.files.content? ["metadata"]).isSome := by
      decide +kernel
    refine ⟨read, _, by rw [runOn, runIn_print, done]; rfl, fun same => ?_⟩
    have gone := same.metadata
    rw [metadataFile] at gone
    rw [gone] at changed
    cases changed

end AccountSidecar
