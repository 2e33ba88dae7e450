import AccountSidecar.Proofs.CommandLineAccounts
import AccountSidecar.Proofs.MetadataMirror
import AccountSidecar.Proofs.Outcomes

/-!
# Faults of what the files hold

The stores report as their own errors whatever goes wrong in reading, creating, writing and moving
their files, but not every fault of what the files hold. A file of which it is not even told whether
it is there, a users file that is not UTF-8 text, and a metadata file that is not, that nests deeper
than the interpreter goes or that has a number with too many digits cannot be read; these faults
come through as they are, in the stores and in the commands of the admin tool. Where none is met,
nothing but the stores' own errors comes out of a store, and every command returns one of its codes
once its report is printed (`store_errors_own_iff`).
-/

namespace AccountSidecar

open Storage AccountSidecar.Action CommandLine

variable {d : Deployment} {w : World}

/-- Whether an action fails in a world in one way only, if at all. -/
def Action.FailsAs {α : Type} (a : Action α) (w : World) (own : Failure → Prop) : Prop :=
  ∀ e, (a.runIn w).1 = .error e → own e

/-- Whether the users file holds text, if it is a file. -/
def World.UsersText (d : Deployment) (w : World) : Prop := w.files.IsText d.usersFile

/-- Whether the metadata file is legible, if its directory can be made. -/
def World.MetadataLegible (d : Deployment) (w : World) : Prop :=
  (w.files.makeDirectories? d.metadataFile.parent).isSome →
    Metadata.IsLegible d.calls w.files d.metadataFile

/-- Reading the credentials changes nothing. -/
theorem runIn_credentials (d : Deployment) (w : World) :
    (credentials d).runIn w = ((Users.load w.files d.usersFile).mapError .users, w) := by
  unfold credentials
  rw [runIn_bind_ok (runIn_get w)]
  cases Users.load w.files d.usersFile <;> rfl

/-- Whatever is made of the credentials of the users file comes with no other failure than an error
of the users file exactly where the file holds text. -/
theorem failsAs_users_iff {α : Type} {a : Action α} {g : List Users.Credential → α}
    (run : (a.runIn w).1 = ((Users.load w.files d.usersFile).map g).mapError .users) :
    a.FailsAs w Failure.IsOfUsers ↔ w.UsersText d := by
  constructor
  · intro own
    refine Classical.byContradiction fun broken => ?_
    obtain ⟨fault, unread, unreported⟩ := Users.load_of_not_text broken
    rw [unread] at run
    obtain ⟨s, same, reported⟩ := own _ run
    obtain rfl := Failure.users.inj same
    rw [unreported] at reported
    cases reported
  · intro text e failed
    rw [run] at failed
    cases read : Users.load w.files d.usersFile with
    | error s =>
      rw [read] at failed
      obtain rfl := Except.error.inj failed
      exact ⟨s, rfl, Users.load_reported text read⟩
    | ok all =>
      rw [read] at failed
      cases failed

/-- A change of credentials fails with an error of the users file alone exactly where the name is
invalid or the file holds text. -/
theorem upsertUser_failsAs_iff (rooted : w.files.isDirectory [] = true) (c : Users.Credential) :
    (upsertUser d c).FailsAs w Failure.IsOfUsers ↔
      (Users.isValidUsername c.username = true → w.UsersText d) := by
  have run := runIn_upsertUser d c w
  constructor
  · intro own valid
    refine Classical.byContradiction fun broken => ?_
    obtain ⟨fault, unread, unreported⟩ := Users.upsert_of_not_text valid broken
    rw [unread] at run
    obtain ⟨s, same, reported⟩ := own _ (congrArg Prod.fst run)
    obtain rfl := Failure.users.inj same
    rw [unreported] at reported
    cases reported
  · intro text e failed
    rw [run] at failed
    rcases put : Users.upsert w.files d.usersFile c with ⟨s | _, files⟩ <;> rw [put] at failed
    · obtain rfl := Except.error.inj failed
      exact ⟨s, rfl, Users.upsert_reported text (fun _ => rooted) put⟩
    · cases failed

/-- Opening the metadata reads its file into memory, or fails. -/
theorem runIn_openMetadata (d : Deployment) (w : World) :
    (openMetadata d).runIn w =
      match Metadata.openAt d.calls w.files d.metadataFile with
      | (.ok metadata, files) => (.ok (), { w with files, metadata })
      | (.error e, files) => (.error (.metadata e), { w with files }) := by
  unfold openMetadata
  rw [runIn_bind_ok (runIn_get w)]
  rcases Metadata.openAt d.calls w.files d.metadataFile with ⟨_ | _, _⟩ <;> rfl

/-- Opening the metadata fails with an error of the metadata store alone exactly where the file is
legible or its directory cannot be made. -/
theorem openMetadata_failsAs_iff :
    (openMetadata d).FailsAs w Failure.IsOfMetadata ↔ w.MetadataLegible d := by
  unfold World.MetadataLegible Action.FailsAs
  rw [← Metadata.openAt_reported_iff, runIn_openMetadata]
  rcases Metadata.openAt d.calls w.files d.metadataFile with ⟨e | _, files⟩
  · simp [Failure.IsOfMetadata]
  · simp

/-- A change of metadata whose file has a name fails with an error of the metadata store, if at
all. -/
theorem change_failsAs (named : d.metadataFile ≠ []) (c : Metadata.Change) :
    (c.perform d).FailsAs w Failure.IsOfMetadata := by
  intro e failed
  rw [Metadata.Change.runIn_perform] at failed
  rcases put : Metadata.commit w.files d.metadataFile (c.applied w.metadata) with ⟨s | _, files⟩ <;>
    rw [put] at failed
  · obtain rfl := Except.error.inj failed
    exact ⟨s, rfl, Metadata.commit_reported named put⟩
  · cases failed

/-- The metadata file has a name where it was opened in a tree with a working directory. -/
theorem named_of_openMetadata {w' : World} (rooted : w.files.isDirectory [] = true)
    (opened : (openMetadata d).runIn w = (.ok (), w')) : d.metadataFile ≠ [] := by
  rw [runIn_openMetadata] at opened
  rcases read : Metadata.openAt d.calls w.files d.metadataFile with ⟨e | entries, files⟩ <;>
    rw [read] at opened
  · cases (Prod.mk.inj opened).1
  · exact Metadata.named_of_openAt rooted read

namespace CommandLine

/-- Whether a command reported how it ended. -/
def HasCode (r : Report) : Prop := r.code = 0 ∨ r.code = 1

/-- Whether a failure is shown as an error message. -/
def IsShown (e : Failure) : Prop := (reportedMessage? e).isSome = true

/-- Errors of the users file are shown. -/
theorem isShown_of_users {e : Failure} (own : e.IsOfUsers) : IsShown e := by
  obtain ⟨s, rfl, reported⟩ := own
  simp [IsShown, reportedMessage?, reported]

/-- Faults of the users file are not shown. -/
theorem not_isShown_of_unreported {e : Users.StoreError} (fault : e.isReported = false) :
    ¬ IsShown (.users e) := by
  simp [IsShown, reportedMessage?, fault]

/-- Errors of the metadata store are shown. -/
theorem isShown_of_metadata {e : Failure} (own : e.IsOfMetadata) : IsShown e := by
  obtain ⟨s, rfl, reported⟩ := own
  simp [IsShown, reportedMessage?, reported]

/-- What opening the metadata fails with is an error of the metadata store if it is shown. -/
theorem isOfMetadata_of_isShown {e : Failure} {w' : World}
    (failed : (openMetadata d).runIn w = (.error e, w')) (shown : IsShown e) : e.IsOfMetadata := by
  rw [runIn_openMetadata] at failed
  split at failed
  · cases (Prod.mk.inj failed).1
  · rename_i s files _
    obtain rfl := Except.error.inj (Prod.mk.inj failed).1
    refine ⟨s, rfl, Classical.byContradiction fun fault => ?_⟩
    simp [IsShown, reportedMessage?, fault] at shown

/-- Whether a run ends with one of the codes for success and failure. -/
def Concludes (a : Action Report) (w : World) : Prop :=
  ∃ r, (a.runIn w).1 = .ok r ∧ HasCode r

/-- Whether a run prints its report and returns one of the codes for success and failure. -/
def Returns (o : Outlets) (a : Action Report) (w : World) : Prop :=
  ∃ r, ((o.print a).runIn w).1 = .ok (.reported r) ∧ HasCode r

/-- Whether the outlets take the report with which a run ends, if there is one. -/
def Prints (o : Outlets) (a : Action Report) (w : World) : Prop :=
  ∀ r, (a.runIn w).1 = .ok r → o.take r = true

/-- A run returns where it ends with a report that is printed. -/
theorem returns_iff (o : Outlets) (a : Action Report) (w : World) :
    Returns o a w ↔ Concludes a w ∧ Prints o a w := by
  unfold Returns Concludes Prints
  rw [runIn_print]
  cases (a.runIn w).1 with
  | error e => simp
  | ok r => by_cases taken : o.take r = true <;> simp [Outlets.ending, taken]

/-- With its errors reported an action concludes where its failure is one that is shown. -/
theorem concludes_reporting_iff (a : Action Report) (w : World) :
    Concludes (reporting a) w ↔ EndsIn HasCode IsShown (a.runIn w).1 := by
  unfold Concludes
  rw [runIn_reporting]
  rcases a.runIn w with ⟨e | r, w'⟩
  · unfold EndsIn IsShown
    dsimp only
    cases reportedMessage? e with
    | none => simp
    | some message => simp [HasCode, Report.failed, failedCode]
  · simp [EndsIn]

/-- Reporting the errors of an action leaves what it yields. -/
theorem yields_reporting {P : World → Prop} {a : Action Report}
    (yields : Yields P HasCode IsShown a) : Yields P HasCode IsShown (reporting a) := by
  refine yields_tryCatch yields fun e shown => ?_
  obtain ⟨message, told⟩ := Option.isSome_iff_exists.mp shown
  rw [told]
  exact yields_pure (.inr rfl)

/-- Where the users file holds text, giving credentials a password that is read ends with a
report. -/
theorem yields_writePassword (salts : ∀ n, (Password.Salt.parse? (d.sources.salt n)).isSome)
    {failing : List Collaborator} (t : Terminal) (fromInput : Bool) (c : Users.Credential)
    (line : String) :
    Yields (World.Sound d failing) HasCode IsShown (writePassword d t fromInput c line) := by
  have alike := passwordFault?_isSome (readPassword t fromInput).password
  unfold writePassword
  dsimp only
  cases fault : passwordFault? (readPassword t fromInput).password with
  | some message => exact yields_pure (.inr rfl)
  | none =>
    rw [fault] at alike
    have taken : Account.newPasswordFault? (readPassword t fromInput).password = none := by
      simpa using alike.symm
    have written : Yields (World.Sound d failing) HasCode IsShown (do
        let hash ← hashPassword d (readPassword t fromInput).password
        upsertUser d { c with password := hash }
        pure (.done line)) := by
      refine yields_bind (yields_hashPassword salts (Account.not_isTooLong_of_taken taken))
        fun hash _ => ?_
      refine yields_bind ((yields_upsertUser _).mono (fun _ _ => trivial)
        fun _ => isShown_of_users) fun _ _ => ?_
      exact yields_pure (.inl rfl)
    exact yields_bind (yields_reporting written) fun r code => yields_pure code

/-- A command that looks up a user first, and ends with a report where the users file holds text,
concludes exactly there. -/
theorem concludes_user_iff (rooted : w.files.isDirectory [] = true) (username : String)
    {f : Option Users.Credential → Action Report}
    (yields : ∀ found, Yields (World.Sound d w.failing) HasCode IsShown (f found)) :
    Concludes (reporting (findUser d username >>= f)) w ↔ w.UsersText d := by
  rw [concludes_reporting_iff]
  constructor
  · intro ended
    refine Classical.byContradiction fun broken => ?_
    obtain ⟨fault, unread, unreported⟩ := Users.load_of_not_text broken
    have failed : (findUser d username).runIn w = (.error (.users fault), w) := by
      rw [runIn_findUser, World.find, unread]
      rfl
    rw [runIn_bind, failed] at ended
    exact not_isShown_of_unreported unreported ended
  · intro text
    have found : Yields (World.Sound d w.failing) (fun _ => True) IsShown (findUser d username) :=
      (yields_findUser username).mono (fun _ _ => trivial) fun _ => isShown_of_users
    exact (yields_bind found (fun c _ => yields c) w ⟨text, fun _ => rooted, rfl⟩).2

/-- Turning off two-factor login ends with a report where the users file holds text. -/
theorem yields_turnOffTotp {failing : List Collaborator} (c : Users.Credential) :
    Yields (World.Sound d failing) HasCode IsShown (turnOffTotp d c) := by
  unfold turnOffTotp
  split
  · refine yields_bind ((yields_upsertUser _).mono (fun _ _ => trivial)
      fun _ => isShown_of_users) fun _ _ => ?_
    exact yields_pure (.inl rfl)
  · exact yields_pure (.inl rfl)

/-- Whether a command meets no fault in what the files that it reads hold. -/
def Command.ReadsWell (d : Deployment) (w : World) : Command → Prop
  | .list => w.UsersText d ∧
      ((∃ all, Users.load w.files d.usersFile = .ok all) → w.MetadataLegible d)
  | .add _ _ | .setPassword _ _ | .resetTotp _ => w.UsersText d
  | .setPhone _ _ => w.MetadataLegible d
  | .recoveryKey _ => True

/-- Opening the metadata, with something after it that ends with a report, ends with one exactly
where the metadata is legible. -/
theorem endsIn_openMetadata_iff {f : Action Report}
    (follows : ∀ w', (openMetadata d).runIn w = (.ok (), w') →
      EndsIn HasCode IsShown (f.runIn w').1) :
    EndsIn HasCode IsShown ((openMetadata d >>= fun _ => f).runIn w).1 ↔ w.MetadataLegible d := by
  rw [← openMetadata_failsAs_iff, runIn_bind]
  rcases run : (openMetadata d).runIn w with ⟨e | _, w'⟩
  · constructor
    · intro shown e' failed
      rw [run] at failed
      obtain rfl := Except.error.inj failed
      exact isOfMetadata_of_isShown run shown
    · exact fun own => isShown_of_metadata (own e (by rw [run]))
  · refine ⟨fun _ e' failed => ?_, fun _ => follows w' run⟩
    rw [run] at failed
    cases failed

/-- A list of all users ends with a report exactly where the users file holds text and, if it can be
read, the metadata is legible too. -/
theorem concludes_list_iff :
    Concludes (reporting (listUsers d)) w ↔ Command.list.ReadsWell d w := by
  rw [concludes_reporting_iff]
  unfold listUsers
  by_cases text : w.UsersText d
  · cases read : Users.load w.files d.usersFile with
    | error s =>
      have unread : (credentials d).runIn w = (.error (.users s), w) := by
        rw [runIn_credentials, read]
        rfl
      rw [runIn_bind, unread]
      refine iff_of_true (isShown_of_users ⟨s, rfl, Users.load_reported text read⟩) ⟨text, ?_⟩
      rintro ⟨all, held⟩
      rw [read] at held
      cases held
    | ok all =>
      have held : (credentials d).runIn w = (.ok all, w) := by
        rw [runIn_credentials, read]
        rfl
      rw [runIn_bind_ok held, endsIn_openMetadata_iff]
      · exact ⟨fun legible => ⟨text, fun _ => legible⟩, fun well => well.2 ⟨all, read⟩⟩
      · intro w' _
        split <;> exact .inl rfl
  · obtain ⟨fault, unread, unreported⟩ := Users.load_of_not_text text
    have failed : (credentials d).runIn w = (.error (.users fault), w) := by
      rw [runIn_credentials, unread]
      rfl
    rw [runIn_bind, failed]
    exact iff_of_false (not_isShown_of_unreported unreported) fun well => text well.1

/-- Setting a phone ends with a report exactly where the metadata is legible. -/
theorem concludes_setPhone_iff (rooted : w.files.isDirectory [] = true) (t : Terminal)
    (username phone : String) :
    Concludes ((Command.setPhone username phone).perform d t) w ↔ w.MetadataLegible d := by
  refine (concludes_reporting_iff _ w).trans (endsIn_openMetadata_iff fun w' opened => ?_)
  have own := change_failsAs (w := w') (named_of_openMetadata rooted opened)
    (.setPhone username phone)
  rw [runIn_bind]
  rcases run : (Action.setPhone d username phone).runIn w' with ⟨e | _, w''⟩
  · exact isShown_of_metadata (own e (congrArg Prod.fst run))
  · exact .inl rfl

/-- A command ends with a report exactly where it meets no fault in what the files hold. -/
theorem Command.concludes_iff (rooted : w.files.isDirectory [] = true)
    (salts : ∀ n, (Password.Salt.parse? (d.sources.salt n)).isSome) (t : Terminal) (c : Command) :
    Concludes (c.perform d t) w ↔ c.ReadsWell d w := by
  cases c with
  | list => exact concludes_list_iff
  | add username fromInput =>
    refine concludes_user_iff rooted username fun found => ?_
    cases found with
    | some c => exact yields_pure (.inr rfl)
    | none => exact yields_writePassword salts t fromInput _ _
  | setPassword username fromInput =>
    refine concludes_user_iff rooted username fun found => ?_
    cases found with
    | some c => exact yields_writePassword salts t fromInput c _
    | none => exact yields_pure (.inr rfl)
  | setPhone username phone => exact concludes_setPhone_iff rooted t username phone
  | resetTotp username =>
    refine concludes_user_iff rooted username fun found => ?_
    cases found with
    | some c => exact yields_turnOffTotp c
    | none => exact yields_pure (.inr rfl)
  | recoveryKey username => exact ⟨fun _ => trivial, fun _ => ⟨_, rfl, .inl rfl⟩⟩

end CommandLine

/-- What the stores fail with are their own errors exactly where no fault is met in what the files
hold: reading, creating, writing and moving the files, and every change of metadata that was opened,
fail in no other way. Every command returns one of its codes exactly where it meets no such fault
and its report can be printed. -/
theorem store_errors_own_iff (rooted : w.files.isDirectory [] = true)
    (salts : ∀ n, (Password.Salt.parse? (d.sources.salt n)).isSome) :
    ((credentials d).FailsAs w Failure.IsOfUsers ↔ w.UsersText d) ∧
    (∀ username, (findUser d username).FailsAs w Failure.IsOfUsers ↔ w.UsersText d) ∧
    (∀ username, (Option.isSome <$> findUser d username).FailsAs w Failure.IsOfUsers ↔
      w.UsersText d) ∧
    (∀ c, (upsertUser d c).FailsAs w Failure.IsOfUsers ↔
      (Users.isValidUsername c.username = true → w.UsersText d)) ∧
    ((openMetadata d).FailsAs w Failure.IsOfMetadata ↔ w.MetadataLegible d) ∧
    (∀ w', (openMetadata d).runIn w = (.ok (), w') →
      ∀ v (c : Metadata.Change), (c.perform d).FailsAs v Failure.IsOfMetadata) ∧
    ∀ (o : Outlets) t (c : Command),
      Returns o (c.perform d t) w ↔ c.ReadsWell d w ∧ Prints o (c.perform d t) w := by
  refine ⟨?_, fun username => ?_, fun username => ?_, upsertUser_failsAs_iff rooted,
    openMetadata_failsAs_iff, fun w' opened v c => ?_, fun o t c =>
      (returns_iff o _ w).trans (and_congr_left' (Command.concludes_iff rooted salts t c))⟩
  · refine failsAs_users_iff (g := id) ?_
    rw [runIn_credentials]
    cases Users.load w.files d.usersFile <;> rfl
  · refine failsAs_users_iff (g := Users.lookup? username) ?_
    rw [runIn_findUser, World.find]
  · refine failsAs_users_iff (g := fun all => (Users.lookup? username all).isSome) ?_
    rw [runIn_map, runIn_findUser, World.find]
    cases Users.load w.files d.usersFile <;> rfl
  · exact change_failsAs (named_of_openMetadata rooted opened) c

/-- The theorem at the sample, whose users file is text and which has no metadata file. -/
theorem store_errors_own_iff_text :
    let d := Deployment.sample false
    let w := World.sample []
    w.files.isDirectory [] = true ∧ (∀ n, (Password.Salt.parse? (d.sources.salt n)).isSome) ∧
      (∀ username, (findUser d username).FailsAs w Failure.IsOfUsers) ∧
      (openMetadata d).FailsAs w Failure.IsOfMetadata ∧
      ∀ t (c : Command), Returns {} (c.perform d t) w := by
  intro d w
  have text : w.UsersText d := FileTree.isText_of_look rfl
  have legible : w.MetadataLegible d := fun _ => ⟨rfl, nofun⟩
  have own := store_errors_own_iff (d := d) (w := w) rfl (Deployment.sample_salt false)
  obtain ⟨-, find, -, -, opening, -, commands⟩ := own
  refine ⟨rfl, Deployment.sample_salt false, fun username => (find username).mpr text,
    opening.mpr legible, fun t c => (commands {} t c).mpr ⟨?_, fun r _ => by simp [Outlets.take]⟩⟩
  cases c with
  | list => exact ⟨text, fun _ => legible⟩
  | add | setPassword | resetTotp => exact text
  | setPhone => exact legible
  | recoveryKey => trivial

/-- A users file that is not text: the fault comes through where a user is looked up and where the
users are listed. -/
theorem undecodable_users_come_through :
    let d := Deployment.sample false
    let w : World := { files := FileTree.empty.set ["users"] (.file ⟨#[0xFF]⟩) }
    (findUser d "alice").runIn w = (.error (.users .undecodable), w) ∧
      ¬ (findUser d "alice").FailsAs w Failure.IsOfUsers ∧
      (Command.list.perform d {}).runIn w = (.error (.users .undecodable), w) := by
  intro d w
  have unread : Users.load w.files d.usersFile = .error .undecodable := by decide
  have found : (findUser d "alice").runIn w = (.error (.users .undecodable), w) := by
    rw [runIn_findUser, World.find, unread]
    rfl
  refine ⟨found, fun own => ?_, ?_⟩
  · obtain ⟨s, same, reported⟩ := own _ (congrArg Prod.fst found)
    obtain rfl := Failure.users.inj same
    cases reported
  · have listed : (listUsers d).runIn w = (.error (.users .undecodable), w) := by
      unfold listUsers
      rw [runIn_bind, runIn_credentials, unread]
      rfl
    rw [Command.perform, runIn_reporting, listed]
    rfl

end AccountSidecar
