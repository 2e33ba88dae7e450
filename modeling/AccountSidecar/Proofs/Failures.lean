import AccountSidecar.Proofs.ResetTokens

/-!
# Failed operations leave no trace

An operation that writes one store looks first and writes then, and whatever follows the write fails
with no error that a store or the account service reports. So where such an error comes back the
write has not happened: both files, the metadata in memory, the tables and the calls on
collaborators are as before (`failed_operation_untouched`). A write that fails may leave its
temporary file and new directories on the way, which is all that must keep away from the two files
(`Deployment.FilesAside`).
-/

namespace AccountSidecar

open Storage

/-- Whether a failed write of one file leaves the other one alone. -/
structure Deployment.FilesAside (d : Deployment) : Prop where
  users : d.usersFile ≠ d.metadataFile.temporary
  metadata : d.metadataFile ≠ d.usersFile.temporary
  /-- The metadata file is no directory on the way to the users file. -/
  above : ¬ d.metadataFile <+: d.usersFile.parent

/-- The files of the sample are aside. -/
theorem Deployment.sample_filesAside (requireApproval : Bool) :
    (sample requireApproval).FilesAside where
  users := (by decide : ["users"] ≠ Location.temporary ["metadata"])
  metadata := (by decide : ["metadata"] ≠ Location.temporary ["users"])
  above := (by decide : ¬ ["metadata"] <+: Location.parent ["users"])

/-- Whether an account operation or a store reports the failure as its own error. -/
def Failure.isReported : Failure → Bool
  | .account _ => true
  | .users e => e.isReported
  | .metadata e => e.isReported
  | _ => false

/-- Whether two worlds agree on the stores and on the calls that were made. -/
structure World.Untouched (d : Deployment) (w w' : World) : Prop where
  usersFile : w'.files.place d.usersFile = w.files.place d.usersFile
  metadataFile : w'.files.place d.metadataFile = w.files.place d.metadataFile
  metadata : w'.metadata = w.metadata
  tables : w'.tables = w.tables
  effects : w'.effects = w.effects

/-- A world agrees with itself. -/
theorem World.Untouched.refl (d : Deployment) (w : World) : w.Untouched d w :=
  ⟨rfl, rfl, rfl, rfl, rfl⟩

/-- What is untouched twice is untouched. -/
theorem World.Untouched.trans {d : Deployment} {w w' w'' : World} (first : w.Untouched d w')
    (second : w'.Untouched d w'') : w.Untouched d w'' where
  usersFile := second.usersFile.trans first.usersFile
  metadataFile := second.metadataFile.trans first.metadataFile
  metadata := second.metadata.trans first.metadata
  tables := second.tables.trans first.tables
  effects := second.effects.trans first.effects

namespace Action

variable {α β : Type} {d : Deployment}

/-- Whether an action leaves everything untouched, whatever it comes to. -/
def Harmless (d : Deployment) (a : Action α) : Prop := ∀ w : World, w.Untouched d (a.runIn w).2

/-- Whether an action that fails with a reported error leaves everything untouched. -/
def Traceless (d : Deployment) (a : Action α) : Prop :=
  ∀ (w w' : World) (e : Failure), a.runIn w = (.error e, w') → e.isReported = true →
    w.Untouched d w'

/-- Whether an action never fails with a reported error. -/
def Unreporting (a : Action α) : Prop :=
  ∀ (w w' : World) (e : Failure), a.runIn w = (.error e, w') → e.isReported = false

/-- Of two actions that fail either the first one fails, or the second one after the first. -/
theorem bind_error_cases {a : Action α} {f : α → Action β} {w w' : World} {e : Failure}
    (failed : (a >>= f).runIn w = (.error e, w')) :
    a.runIn w = (.error e, w') ∨
      ∃ x w₁, a.runIn w = (.ok x, w₁) ∧ (f x).runIn w₁ = (.error e, w') := by
  rw [runIn_bind] at failed
  rcases first : a.runIn w with ⟨e' | x, w₁⟩
  · left
    rw [first] at failed
    obtain ⟨same, rfl⟩ := Prod.mk.inj failed
    rw [Except.error.inj same]
  · right
    rw [first] at failed
    exact ⟨x, w₁, rfl, failed⟩

/-- An action that keeps the world is harmless. -/
theorem harmless_of_unchanged {a : Action α} (unchanged : ∀ w, (a.runIn w).2 = w) :
    Harmless d a := by
  intro w
  rw [unchanged w]
  exact World.Untouched.refl d w

/-- Failing leaves everything untouched. -/
theorem harmless_throw (e : Failure) : Harmless d (throw e : Action α) :=
  harmless_of_unchanged fun _ => rfl

/-- Looking at the clock leaves everything untouched. -/
theorem harmless_now : Harmless d now := harmless_of_unchanged fun _ => rfl

/-- Looking up metadata leaves everything untouched. -/
theorem harmless_metadataOf (username : String) : Harmless d (metadataOf username) :=
  harmless_of_unchanged fun _ => rfl

/-- Looking for a user leaves everything untouched, also where the users file cannot be read. -/
theorem harmless_findUser (username : String) : Harmless d (findUser d username) :=
  harmless_of_unchanged fun w => by rw [runIn_findUser]

/-- Looking up a user who must exist leaves everything untouched, also where there is none. -/
theorem harmless_requireUser (username : String) : Harmless d (requireUser d username) :=
  harmless_of_unchanged fun w => by
    rcases requireUser_cases d username w with ⟨c, -, run⟩ | ⟨e, -, run⟩ <;> rw [run]

/-- Hashing draws a salt, which nobody sees. -/
theorem harmless_hashPassword (password : String) : Harmless d (hashPassword d password) := by
  intro w
  rw [runIn_hashPassword]
  exact ⟨rfl, rfl, rfl, rfl, rfl⟩

/-- A harmless action leaves no trace. -/
theorem Harmless.traceless {a : Action α} (harmless : Harmless d a) : Traceless d a := by
  intro w w' e failed _
  have untouched := harmless w
  rw [failed] at untouched
  exact untouched

/-- Looking first leaves no trace where what follows leaves none. -/
theorem traceless_look {a : Action α} {f : α → Action β} (look : Harmless d a)
    (next : ∀ x, Traceless d (f x)) : Traceless d (a >>= f) := by
  intro w w' e failed reported
  have seen := look w
  rcases bind_error_cases failed with first | ⟨x, w₁, first, second⟩
  · exact look.traceless w w' e first reported
  · rw [first] at seen
    exact seen.trans (next x w₁ w' e second reported)

/-- A write leaves no trace where what follows never fails with a reported error. -/
theorem traceless_write {a : Action α} {f : α → Action β} (write : Traceless d a)
    (next : ∀ x, Unreporting (f x)) : Traceless d (a >>= f) := by
  intro w w' e failed reported
  rcases bind_error_cases failed with first | ⟨x, w₁, -, second⟩
  · exact write w w' e first reported
  · have silent := next x w₁ w' e second
    rw [reported] at silent
    cases silent

/-- A function of the value leaves as little trace. -/
theorem Traceless.map {a : Action α} (inner : Traceless d a) (g : α → β) :
    Traceless d (g <$> a) := by
  intro w w' e failed
  rw [runIn_map] at failed
  obtain ⟨result, rfl⟩ := Prod.mk.inj failed
  rcases run : a.runIn w with ⟨e' | x, w₁⟩ <;> rw [run] at result
  · obtain rfl := Except.error.inj result
    exact inner w w₁ e' run
  · cases result

/-- An action that always works reports nothing. -/
theorem unreporting_of_ok {a : Action α} (works : ∀ w, ∃ x, (a.runIn w).1 = .ok x) :
    Unreporting a := by
  intro w w' e failed
  obtain ⟨x, worked⟩ := works w
  rw [failed] at worked
  cases worked

/-- A value reports nothing. -/
theorem unreporting_pure (x : α) : Unreporting (pure x : Action α) :=
  unreporting_of_ok fun _ => ⟨x, rfl⟩

/-- A change of the tables always works. -/
theorem unreporting_changeTables (f : State.Tables → State.Tables) :
    Unreporting (changeTables f) := unreporting_of_ok fun _ => ⟨(), rfl⟩

/-- Looking at the clock always works. -/
theorem unreporting_now : Unreporting now := unreporting_of_ok fun w => ⟨w.clock, rfl⟩

/-- Drawing an identifier always works. -/
theorem unreporting_drawIdentifier : Unreporting (drawIdentifier d) :=
  unreporting_of_ok fun w => ⟨d.sources.identifier w.drawn.identifiers, rfl⟩

/-- What a collaborator fails with is its own. -/
theorem unreporting_emit (effect : Effect) : Unreporting (emit effect) := by
  intro w w' e failed
  rw [runIn_emit] at failed
  split at failed
  · rw [← Except.error.inj (Prod.mk.inj failed).1]
    rfl
  · cases (Prod.mk.inj failed).1

/-- Actions one after another report nothing where neither does. -/
theorem unreporting_bind {a : Action α} {f : α → Action β} (first : Unreporting a)
    (second : ∀ x, Unreporting (f x)) : Unreporting (a >>= f) := by
  intro w w' e failed
  rcases bind_error_cases failed with here | ⟨x, w₁, -, there⟩
  · exact first w w' e here
  · exact second x w₁ w' e there

/-- A write of the users file that fails touches neither file. -/
theorem traceless_upsertUser (aside : d.FilesAside) (c : Users.Credential) :
    Traceless d (upsertUser d c) := by
  intro w w' e failed _
  rw [runIn_upsertUser] at failed
  obtain ⟨result, rfl⟩ := Prod.mk.inj failed
  rcases Users.upsert_cases w.files d.usersFile c with ⟨t, -, written, -⟩ | ⟨e', t, refused, kept⟩
  · rw [written] at result
    cases result
  · have beside := Users.place_beside_failed_upsert refused aside.metadata aside.above
    rw [refused]
    exact ⟨kept, beside, rfl, rfl, rfl⟩

/-- A write of the metadata that fails touches neither file, nor the metadata in memory. -/
theorem traceless_commitMetadata (aside : d.FilesAside) (username : String)
    (entry : Metadata.Entry) : Traceless d (commitMetadata d username entry) := by
  intro w w' e failed _
  rw [runIn_commitMetadata] at failed
  rcases Metadata.commit_cases w.files d.metadataFile (Keyed.put username entry w.metadata) with
    ⟨-, -, written⟩ | ⟨e', t, refused, kept⟩
  · rw [written] at failed
    cases (Prod.mk.inj failed).1
  · have own : d.metadataFile ≠ d.metadataFile.temporary :=
      Location.ne_temporary_of_prefix List.prefix_rfl
    rw [refused] at failed
    obtain ⟨-, rfl⟩ := Prod.mk.inj failed
    exact ⟨kept _ aside.users, kept _ own, rfl, rfl, rfl⟩

end Action

namespace Account

open AccountSidecar.Action

variable {d : Deployment}

/-- Checking a new password leaves everything untouched, whatever it says of the password. -/
theorem harmless_checkNewPassword (password : String) :
    Harmless d (checkNewPassword password) := by
  apply harmless_of_unchanged
  intro w
  rw [runIn_checkNewPassword]
  cases newPasswordFault? password <;> rfl

/-- Announcing a password fails with errors of collaborators alone, which are not reported ones. -/
theorem unreporting_announcePassword (username password hash : String) :
    Unreporting (announcePassword username password hash) :=
  unreporting_bind (unreporting_emit _) fun _ => unreporting_emit _

/-- Storing the phone of a signup passes over what the metadata store reports. -/
theorem unreporting_stashPhone (username phone : String) :
    Unreporting (stashPhone d username phone) := by
  intro w w' e failed
  rw [runIn_stashPhone] at failed
  split at failed
  · cases (Prod.mk.inj failed).1
  · split at failed
    · cases (Prod.mk.inj failed).1
    · rename_i m files _
      by_cases reported : m.isReported = true
      · rw [if_pos reported] at failed
        cases (Prod.mk.inj failed).1
      · rw [if_neg reported] at failed
        rw [← Except.error.inj (Prod.mk.inj failed).1]
        exact Bool.eq_false_iff.mpr reported

/-- Setting a password writes the users file last. -/
theorem traceless_setPassword (aside : d.FilesAside) (c : Users.Credential) (password : String) :
    Traceless d (setPassword d c password) := by
  refine traceless_look (harmless_checkNewPassword password) fun _ => ?_
  refine traceless_look (harmless_hashPassword password) fun hash => ?_
  apply traceless_write (traceless_upsertUser aside _)
  exact fun _ => unreporting_announcePassword c.username password hash

/-- Where the users file is not written that is what setting a password fails with. -/
theorem setPasswordOf_of_refused {w : World} {username password hash : String}
    {c : Users.Credential} {e : Users.StoreError} {t : FileTree}
    (found : w.find d username = .ok (some c)) (taken : newPasswordFault? password = none)
    (hashed : Password.hash? (d.sources.salt w.drawn.salts) password = some hash)
    (refused : Users.upsert w.files d.usersFile { c with password := hash } = (.error e, t)) :
    (setPasswordOf d username password).runIn w =
      (.error (.users e),
        { w with files := t, drawn := { w.drawn with salts := w.drawn.salts + 1 } }) := by
  unfold setPasswordOf
  rcases requireUser_cases d username w with ⟨c', seen, run⟩ | ⟨e', absent, -⟩
  · obtain rfl := Option.some.inj (Except.ok.inj (found.symm.trans seen))
    rw [runIn_bind, run]
    dsimp only
    unfold setPassword
    rw [runIn_bind, runIn_checkNewPassword, taken]
    dsimp only
    rw [runIn_bind, runIn_hashPassword, hashed]
    dsimp only [Option.elim]
    rw [runIn_bind, runIn_upsertUser, refused]
    rfl
  · exact absurd found (absent c)

/-- Setting the password of a user leaves no trace: the user is looked up before anything is
written. -/
theorem traceless_setPasswordOf (aside : d.FilesAside) (username password : String) :
    Traceless d (setPasswordOf d username password) :=
  traceless_look (harmless_requireUser username) fun c => traceless_setPassword aside c password

/-- A change of the password leaves no trace: the old password is verified before anything is
written. -/
theorem traceless_changePassword (aside : d.FilesAside)
    (username oldPassword newPassword : String) :
    Traceless d (changePassword d username oldPassword newPassword) := by
  refine traceless_look (harmless_requireUser username) fun c => ?_
  split
  · exact (harmless_throw _).traceless
  · exact traceless_setPassword aside c newPassword

/-- A reset that fails after its claim releases the token: the tables are those from before it. -/
theorem traceless_resetPassword (aside : d.FilesAside) (token password : String) :
    Traceless d (resetPassword d token password) := by
  intro w w' e failed reported
  rw [runIn_resetPassword] at failed
  split at failed
  · obtain ⟨-, rfl⟩ := Prod.mk.inj failed
    exact World.Untouched.refl d w
  · obtain ⟨-, rfl⟩ := Prod.mk.inj failed
    exact World.Untouched.refl d w
  · rename_i username t _ claimed
    split at failed
    · cases (Prod.mk.inj failed).1
    · rename_i e' w₁ run
      obtain ⟨same, rfl⟩ := Prod.mk.inj failed
      obtain rfl := Except.error.inj same
      have rest := traceless_setPasswordOf aside username password _ _ _ run reported
      exact ⟨rest.usersFile, rest.metadataFile, rest.metadata, rfl, rest.effects⟩

/-- Setting a phone writes the metadata alone, at the end. -/
theorem traceless_setPhone (aside : d.FilesAside) (username phone : String) :
    Traceless d (setPhone d username phone) :=
  traceless_look (harmless_metadataOf username) fun _ => traceless_commitMetadata aside username _

/-- Turning two-factor login on leaves no trace: code and user are looked at before the write, and
the restart reports nothing. -/
theorem traceless_enableTotp (aside : d.FilesAside) (username secret code : String) :
    Traceless d (enableTotp d username secret code) := by
  refine traceless_look harmless_now fun time => ?_
  split
  · exact (harmless_throw _).traceless
  · refine traceless_look (harmless_requireUser username) fun c => ?_
    exact traceless_write (traceless_upsertUser aside _) fun _ => unreporting_emit _

/-- Turning two-factor login off leaves no trace: the password is verified before the write. -/
theorem traceless_disableTotp (aside : d.FilesAside) (username password : String) :
    Traceless d (disableTotp d username password) := by
  refine traceless_look (harmless_requireUser username) fun c => ?_
  split
  · exact (harmless_throw _).traceless
  · exact traceless_write (traceless_upsertUser aside _) fun _ => unreporting_emit _

/-- Recovering two-factor login leaves no trace: the key is compared before it is turned on anew. -/
theorem traceless_recoverTotp (aside : d.FilesAside) (username key secret code : String) :
    Traceless d (recoverTotp d username key secret code) := by
  unfold recoverTotp
  split
  · exact (harmless_throw _).traceless
  · exact traceless_enableTotp aside username secret code

/-- Once its row is queued a signup reports nothing any more. -/
theorem unreporting_queueSignup (username email hash phone : String) :
    Unreporting (queueSignup d username email hash phone) := by
  refine unreporting_bind unreporting_drawIdentifier fun id => ?_
  refine unreporting_bind unreporting_now fun time => ?_
  refine unreporting_bind (unreporting_changeTables _) fun _ => ?_
  exact unreporting_bind (unreporting_stashPhone username phone) fun _ => unreporting_pure _

/-- Creating an account leaves no trace: the users file is written first, and neither the phone nor
the announcement reports anything after it. -/
theorem traceless_createAccount (aside : d.FilesAside) (username password hash phone : String) :
    Traceless d (createAccount d username password hash phone) := by
  apply traceless_write (traceless_upsertUser aside _)
  intro _
  refine unreporting_bind (unreporting_stashPhone username phone) fun _ => ?_
  refine unreporting_bind (unreporting_announcePassword username password hash) fun _ => ?_
  exact unreporting_pure _

/-- A signup leaves no trace: all its checks stand before the row is queued or the account is
created. -/
theorem traceless_signup (aside : d.FilesAside) (username email password phone : String) :
    Traceless d (signup d username email password phone) := by
  unfold signup
  split
  · exact (harmless_throw _).traceless
  · split
    · exact (harmless_throw _).traceless
    · refine traceless_look (harmless_checkNewPassword password) fun _ => ?_
      refine traceless_look (harmless_findUser username) fun found => ?_
      split
      · exact (harmless_throw _).traceless
      · refine traceless_look (harmless_hashPassword password) fun hash => ?_
        split
        · intro w w' e failed reported
          have silent := unreporting_queueSignup username email hash phone w w' e failed
          rw [reported] at silent
          cases silent
        · exact traceless_createAccount aside username password hash phone

end Account

namespace Operation

open AccountSidecar.Action Account

/-- The operations that happen as a whole or not at all, as far as accounts and stores go: they look
first, and report nothing once the first store was written. -/
def isAllOrNothing : Operation → Bool
  | .signup .. | .changePassword .. | .resetPassword .. | .setPhone .. | .enableTotp ..
  | .disableTotp .. | .recoverTotp .. => true
  | _ => false

/-- Such an operation leaves no trace where it fails with a reported error. -/
theorem perform_traceless {d : Deployment} (aside : d.FilesAside) {op : Operation}
    (whole : op.isAllOrNothing = true) : Traceless d (op.perform d) := by
  have reply {a : Action Unit} (inner : Traceless d a) :
      Traceless d (do a; pure Reply.done) := traceless_write inner fun _ => unreporting_pure _
  cases op with
  | signup u e p ph => exact (traceless_signup aside u e p ph).map _
  | changePassword u o n => exact reply (traceless_changePassword aside u o n)
  | resetPassword t p => exact reply (traceless_resetPassword aside t p)
  | setPhone u p => exact reply (traceless_setPhone aside u p)
  | enableTotp u s c => exact reply (traceless_enableTotp aside u s c)
  | disableTotp u p => exact reply (traceless_disableTotp aside u p)
  | recoverTotp u k s c => exact reply (traceless_recoverTotp aside u k s c)
  | _ => cases whole

end Operation

namespace World

/-- A world in which alice has asked for a reset and the users file cannot be moved into place. -/
def sampleStuck : World :=
  { sampleRequested with
    files := { sampleRequested.files with refuses := fun l => l = ["users"] } }

/-- There the users file is not replaced; the temporary file stays. -/
theorem upsert_sampleStuck {c : Users.Credential}
    (valid : Users.isValidUsername c.username = true) :
    ∃ t, Users.upsert sampleStuck.files ["users"] c = (.error .unwritable, t) := by
  have printed : sampleStuck.files.look ["users"] =
      .content (Users.print [⟨"alice", "x", ""⟩]).toUTF8 := rfl
  unfold Users.upsert
  rw [Users.load_of_printed printed, valid]
  exact ⟨_, rfl⟩

/-- There a reset claims the token, finds alice and fails on the users file. -/
theorem resetPassword_sampleStuck :
    ((Operation.resetPassword "" "pw1").step (.sample false) sampleStuck).result =
      .error (.users .unwritable) := by
  have taken : Account.newPasswordFault? "pw1" = none := by decide
  have claimed : sampleStuck.tables.claimResetToken "" sampleStuck.clock =
      .ok ("alice", { resetTokens := [("", ⟨"alice", 3600, true⟩)] }) := by decide
  have found : sampleStuck.find (.sample false) "alice" = .ok (some ⟨"alice", "x", ""⟩) := by
    rw [show sampleStuck.find (.sample false) "alice" =
        (World.sample [⟨"alice", "x", ""⟩]).find (.sample false) "alice" from
      World.find_of_kept rfl "alice", World.find_sample]
    exact congrArg Except.ok (by decide)
  obtain ⟨hash, hashed⟩ := Password.exists_hash? (Account.not_isTooLong_of_taken taken)
    (Deployment.sample_salt false sampleStuck.drawn.salts)
  obtain ⟨t, refused⟩ := upsert_sampleStuck (c := ⟨"alice", hash, ""⟩)
    (by decide : Users.isValidUsername "alice" = true)
  have failed := Account.setPasswordOf_of_refused
    (w := { sampleStuck with tables := { resetTokens := [("", ⟨"alice", 3600, true⟩)] } })
    found taken hashed refused
  have run := Account.runIn_resetPassword (.sample false) "" "pw1" sampleStuck
  rw [taken, claimed] at run
  dsimp only at run
  rw [failed] at run
  rw [Operation.step_of_reply rfl run]
  rfl

end World

/-- Failed operations leave no trace. Where an operation that is all or nothing fails with an error
that it or a store reports, both files, the metadata in memory and all tables are as before, and no
call on a collaborator was made. -/
theorem failed_operation_untouched {d : Deployment} (aside : d.FilesAside) {op : Operation}
    (whole : op.isAllOrNothing = true) {w : World} {e : Failure}
    (failed : (op.step d w).result = .error e) (reported : e.isReported = true) :
    w.Untouched d (op.step d w).after := by
  have traceless := Operation.perform_traceless aside whole
  have run : (op.perform d).runIn w = (.error e, (op.step d w).after) := Prod.ext failed rfl
  exact traceless w _ e run reported

/-- A reset whose new password does not reach the users file: the theorem where the file cannot be
replaced. The token is good as before. -/
theorem failed_operation_untouched_stuck :
    let s := (Operation.resetPassword "" "pw1").step (.sample false) World.sampleStuck
    s.result = .error (.users .unwritable) ∧ World.sampleStuck.Untouched (.sample false) s.after :=
  ⟨World.resetPassword_sampleStuck,
    failed_operation_untouched (Deployment.sample_filesAside false) rfl
      World.resetPassword_sampleStuck rfl⟩

end AccountSidecar
