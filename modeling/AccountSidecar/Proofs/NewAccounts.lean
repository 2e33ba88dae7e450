import AccountSidecar.Proofs.Provenance
import AccountSidecar.Proofs.WrittenNames

/-!
# New accounts

A signup without approval and the approval of a signup both write fresh credentials under the
username and leave the rest of the users file as it settles. The line of the new account is read
under its recorded name, so an account is added for that name and for nobody else
(`account_creation_adds_recorded`). The recorded name is the username where that is legible; it is
another one for usernames that begin with blanks or hold line boundaries.
-/

namespace AccountSidecar

open Storage

namespace Users

/-- A valid username has no separator. -/
theorem colon_not_mem_of_valid {username : String} (valid : isValidUsername username = true) :
    ':' ∉ username.toList := by
  simp only [isValidUsername, Bool.and_eq_true, Bool.not_eq_true', List.any_eq_false] at valid
  intro inside
  have allowed := valid.2 ':' inside
  simp at allowed

/-- Settling drops usernames and brings in none. -/
theorem names_settled (all : List Credential) :
    List.Sublist ((all.filterMap Credential.settled).map Credential.username)
      (all.map Credential.username) := by
  induction all with
  | nil => exact List.Sublist.refl []
  | cons c rest ih =>
    cases back : c.settled with
    | none =>
      rw [List.filterMap_cons_none back]
      exact ih.cons c.username
    | some d =>
      rw [List.filterMap_cons_some back, List.map_cons, List.map_cons,
        Credential.settled_username back]
      exact ih.cons_cons c.username

/-- A user has no credentials exactly where no credentials have the username. -/
theorem lookup?_eq_none_iff {username : String} {all : List Credential} :
    lookup? username all = none ↔ username ∉ all.map Credential.username := by
  simp [lookup?]

/-- Whoever has no credentials has none when they settle. -/
theorem lookup?_settled_of_none {username : String} {all : List Credential}
    (absent : lookup? username all = none) :
    lookup? username (all.filterMap Credential.settled) = none := by
  rw [lookup?_eq_none_iff] at absent ⊢
  exact mt (fun inside => (names_settled all).subset inside) absent

/-- Credentials that take the place of others of their user keep the usernames. -/
theorem names_replaceOrAppend {c d : Credential} {all : List Credential}
    (found : lookup? c.username all = some d) :
    (replaceOrAppend c all).map Credential.username = all.map Credential.username := by
  induction all with
  | nil => cases found
  | cons e rest ih =>
    rw [lookup?_cons] at found
    rw [replaceOrAppend]
    by_cases own : e.username = c.username
    · simp [own]
    · rw [if_neg own] at found
      rw [if_neg own, List.map_cons, ih found, List.map_cons]

/-- The credentials of a file after fresh ones were written: where their user had none they are
read behind the others under the recorded name. -/
theorem load_upsert_fresh {files t : FileTree} {file : Location} {all : List Credential}
    {username hash : String} (read : load files file = .ok all) (given : hash ≠ "")
    (solid : IsSolid hash)
    (done : upsert files file { username, password := hash } = (.ok (), t)) :
    load t file = .ok (
      if (lookup? username all).isSome then
        (replaceOrAppend { username, password := hash } all).filterMap Credential.settled
      else
        all.filterMap Credential.settled ++
          (recordedName? username).toList.map fun name => { username := name, password := hash })
    := by
  obtain ⟨valid, all', read', printed⟩ := rewritten_of_upsert done
  obtain rfl : all = all' := Except.ok.inj (read.symm.trans read')
  rw [load_of_printed printed]
  cases own : lookup? username all with
  | some d =>
    have writable : Credential.IsWritable { username, password := hash } :=
      ⟨solid.fitsField, given, by simp [FitsField]⟩
    rw [parse_print _ (replaceOrAppend_legible (load_legible read) writable own)]
    rfl
  | none =>
    rw [replaceOrAppend_of_absent own, parse_print_append all _ (load_legible read),
      parse_print_fresh (colon_not_mem_of_valid valid) given solid]
    rfl

/-- Whether a change of the credentials for a username added, among all other names, an account for
the recorded name alone: of the others nobody is found who was not there before, and no name stands
more often. -/
structure AddsRecorded (username hash : String) (before after : List Credential) : Prop where
  found : ∀ other, other ≠ username → lookup? other before = none →
    lookup? other after =
      if recordedName? username = some other then some { username := other, password := hash }
      else none
  counted : ∀ other, other ≠ username →
    (after.map Credential.username).count other ≤ (before.map Credential.username).count other +
      if recordedName? username = some other then 1 else 0

/-- Writing fresh credentials adds an account for the recorded name alone. -/
theorem addsRecorded_of_upsert {files t : FileTree} {file : Location} {all : List Credential}
    {username hash : String} (read : load files file = .ok all) (given : hash ≠ "")
    (solid : IsSolid hash)
    (done : upsert files file { username, password := hash } = (.ok (), t)) :
    ∃ after, load t file = .ok after ∧ AddsRecorded username hash all after := by
  refine ⟨_, load_upsert_fresh read given solid done, ?_⟩
  cases own : lookup? username all with
  | some d =>
    -- The username was read from the file, so it is legible and recorded as itself.
    obtain ⟨same, among⟩ := lookup?_eq_some own
    have legible : IsLegibleName username := same ▸ (load_legible read d among).name
    have recorded : recordedName? username = some username :=
      (recordedName?_eq_self_iff (Credential.colon_not_mem legible.fits)).mpr legible
    rw [Option.isSome_some, if_pos rfl]
    constructor
    · intro other apart absent
      have kept : lookup? other (replaceOrAppend { username, password := hash } all) = none := by
        rw [lookup?_replaceOrAppend_of_ne (Ne.symm apart), absent]
      rw [lookup?_settled_of_none kept, recorded, if_neg (by simp [Ne.symm apart])]
    · intro other apart
      have fewer := (names_settled (replaceOrAppend { username, password := hash } all)).count_le
        other
      rw [names_replaceOrAppend own] at fewer
      exact Nat.le_add_right_of_le fewer
  | none =>
    rw [Option.isSome_none, if_neg Bool.false_ne_true]
    constructor
    · intro other apart absent
      have gone := lookup?_settled_of_none absent
      unfold lookup? at gone ⊢
      rw [List.find?_append, gone, Option.none_or]
      cases recordedName? username with
      | none => rfl
      | some name => by_cases here : name = other <;> simp [here]
    · intro other apart
      have fewer := (names_settled all).count_le other
      rw [List.map_append, List.count_append]
      refine Nat.add_le_add fewer ?_
      cases recordedName? username with
      | none => exact Nat.le_refl 0
      | some name => by_cases here : name = other <;> simp [here]

end Users

open AccountSidecar.Action Account Users

variable {d : Deployment} {w w' : World}

/-- Whether an operation wrote fresh credentials with a hash and left the users file so. -/
structure Step.WritesAccount (d : Deployment) (s : Step) (username hash : String) : Prop where
  hashed : ∃ saltText password, Password.hash? saltText password = some hash
  written : ∃ files,
    upsert s.before.files d.usersFile { username, password := hash } = (.ok (), files) ∧
      s.after.files.place d.usersFile = files.place d.usersFile

/-- Whether an operation came to its end with the account of a user. -/
inductive Step.CreatesAccount (s : Step) (username : String) : Prop
  /-- A signup that needed no approval. -/
  | signup {email password phone : String}
      (asked : s.operation = .signup username email password phone)
      (ended : s.result = .ok (.signup .approved))
  /-- The approval of a signup that was queued. -/
  | approval {id : String} {row : State.PendingSignup} (asked : s.operation = .approveSignup id)
      (ended : s.result = .ok .done) (queued : s.before.tables.pendingSignup id = .ok row)
      (own : row.username = username)

/-- An account that was created was written into the users file. -/
theorem Account.createAccount_eq_ok {username password hash phone : String} {r : SignupResult}
    (apart : d.FilesApart)
    (done : (createAccount d username password hash phone).runIn w = (.ok r, w')) :
    ∃ files, upsert w.files d.usersFile { username, password := hash } = (.ok (), files) ∧
      w'.files.place d.usersFile = files.place d.usersFile := by
  unfold createAccount at done
  rw [runIn_bind, runIn_upsertUser] at done
  rcases written : upsert w.files d.usersFile { username, password := hash } with
    ⟨e | ⟨⟩, files⟩ <;> rw [written] at done
  · cases (Prod.mk.inj done).1
  · have rest : Within d [.metadata, .effects] (do
        stashPhone d username phone
        announcePassword username password hash
        pure SignupResult.approved) :=
      within_bind (within_stashPhone (fun _ => apart) username phone (by decide)) fun _ =>
        within_bind (within_announcePassword username password hash (by decide)) fun _ =>
          within_pure _
    have kept := rest { w with files } .usersFile (by decide)
    rw [show (do
        stashPhone d username phone
        announcePassword username password hash
        pure SignupResult.approved : Action SignupResult).runIn { w with files } = _ from done]
      at kept
    exact ⟨files, rfl, kept⟩

/-- A signup that ended with an account was accepted and written into the users file. -/
theorem Account.signup_eq_approved {username email password phone : String}
    (apart : d.FilesApart)
    (done : (signup d username email password phone).runIn w = (.ok .approved, w')) :
    ∃ hash files, Accepts d w username password hash ∧
      upsert w.files d.usersFile { username, password := hash } = (.ok (), files) ∧
      w'.files.place d.usersFile = files.place d.usersFile := by
  rcases signup_cases d username email password phone w with ⟨hash, accepts⟩ | ⟨e, n, refused⟩
  · rw [accepts.runIn_signup] at done
    by_cases approval : d.requireApproval = true
    · rw [if_pos approval, runIn_queueSignup] at done
      generalize (stashPhone d username phone).runIn _ = stashed at done
      rcases stashed with ⟨_ | _, _⟩ <;> cases done
    · rw [if_neg approval] at done
      obtain ⟨files, written, kept⟩ := createAccount_eq_ok apart done
      exact ⟨hash, files, accepts, written, kept⟩
  · rw [refused] at done
    cases done

/-- An approval that came to its end was written into the users file. -/
theorem Account.approveSignup_eq_ok {id : String} {row : State.PendingSignup}
    (apart : d.FilesApart) (queued : w.tables.pendingSignup id = .ok row)
    (done : (approveSignup d id).runIn w = (.ok (), w')) :
    ∃ files, upsert w.files d.usersFile row.credential = (.ok (), files) ∧
      w'.files.place d.usersFile = files.place d.usersFile := by
  rw [runIn_approveSignup queued] at done
  rcases written : upsert w.files d.usersFile row.credential with ⟨e | ⟨⟩, files⟩ <;>
    rw [written] at done
  · cases (Prod.mk.inj done).1
  · have noted : Within d [.metadata, .effects]
        (do setApproved d row.username true; emit .restart : Action Unit) :=
      within_noteApproval (fun _ => apart) row.username (by decide) (by decide)
    have kept := noted { w with files, tables := w.tables.approvePendingSignup id } .usersFile
      (by decide)
    dsimp only at done
    rw [done] at kept
    exact ⟨files, rfl, kept⟩

/-- In a run from empty tables, an operation that created an account wrote it with a hash. -/
theorem Step.CreatesAccount.writes {earlier : List Step} {op : Operation} {username : String}
    (apart : d.FilesApart) (origin : Provenance d earlier w)
    (creates : (op.step d w).CreatesAccount username) :
    ∃ hash, (op.step d w).WritesAccount d username hash := by
  cases creates with
  | signup asked ended =>
    rename_i email password phone
    obtain rfl : op = .signup username email password phone := asked
    rcases run : (Account.signup d username email password phone).runIn w with ⟨result, w'⟩
    rw [Operation.step_of_map rfl run] at ended ⊢
    obtain ⟨r, rfl, same⟩ := exists_of_map_eq_ok ended
    obtain rfl := Reply.signup.inj same
    obtain ⟨hash, files, accepts, written, kept⟩ := signup_eq_approved apart run
    exact ⟨hash, ⟨_, _, accepts.hashed⟩, files, written, kept⟩
  | approval asked ended queued own =>
    rename_i id row
    obtain rfl : op = .approveSignup id := asked
    rcases run : (Account.approveSignup d id).runIn w with ⟨result, w'⟩
    rw [Operation.step_of_reply rfl run] at ended queued ⊢
    obtain ⟨⟨⟩, rfl, -⟩ := exists_of_map_eq_ok ended
    obtain ⟨files, written, kept⟩ := approveSignup_eq_ok apart queued run
    obtain ⟨s, -, password, phone, step⟩ :=
      origin.signups _ (Keyed.mem_of_find? (State.Tables.pendingSignup_eq_ok queued))
    rw [State.PendingSignup.credential, own] at written
    exact ⟨row.passwordHash, ⟨_, _, step.hashed⟩, files, written, kept⟩

/-- Creating an account adds one account at most, that of the recorded name. After every run from
empty tables, a signup without approval and the approval of a signup leave a file that can be read;
apart from the username nobody is found in it who was not there before, and no name stands there
more often than before, but for the recorded name of the username. -/
theorem account_creation_adds_recorded (apart : d.FilesApart) {start : World}
    (empty : start.tables = {}) (events : List Event) {op : Operation} {username : String}
    (creates : (op.step d (start.after d events)).CreatesAccount username) :
    ∃ hash before after, load (start.after d events).files d.usersFile = .ok before ∧
      load (op.step d (start.after d events)).after.files d.usersFile = .ok after ∧
      AddsRecorded username hash before after := by
  have origin := World.provenance_after d empty events
  generalize start.after d events = w at *
  obtain ⟨hash, ⟨saltText, password, hashed⟩, files, written, kept⟩ := creates.writes apart origin
  obtain ⟨-, before, read, -⟩ := rewritten_of_upsert written
  obtain ⟨after, left, adds⟩ := addsRecorded_of_upsert read (Password.ne_empty_of_hash? hashed)
    (Password.isPlainText_of_hash? hashed).isSolid written
  exact ⟨hash, before, after, read, (load_congr kept).trans left, adds⟩

/-- A signup without a phone that needs no approval creates the account where the file can be
written and the collaborators work. -/
theorem Account.Accepts.runIn_signup_approved {username password hash : String} {files : FileTree}
    (accepts : Accepts d w username password hash) (direct : d.requireApproval = false)
    (written : upsert w.files d.usersFile { username, password := hash } = (.ok (), files))
    (working : w.failing = []) (email : String) :
    (signup d username email password "").runIn w = (.ok .approved, { w with
      files
      drawn := { w.drawn with salts := w.drawn.salts + 1 }
      effects := w.effects ++ [.restart, .sync username password hash] }) := by
  rw [accepts.runIn_signup, direct, if_neg Bool.false_ne_true]
  unfold createAccount
  rw [runIn_bind, runIn_upsertUser, written]
  dsimp only [Except.mapError]
  rw [runIn_bind, runIn_stashPhone, if_pos rfl]
  dsimp only
  rw [runIn_bind, announcePassword_of_working _ _ _ (by simp [working]) (by simp [working])]
  rfl

/-- In the sample, a signup under a valid name that nobody has creates the account. -/
theorem World.runIn_signup_sample (credentials : List Credential) (username password : String)
    (users : d.usersFile = ["users"]) (direct : d.requireApproval = false)
    (salted : (Password.Salt.parse? (d.sources.salt 0)).isSome)
    (valid : isValidUsername username = true) (taken : newPasswordFault? password = none)
    (absent : lookup? username (parse (print credentials)) = none) :
    ∃ hash files, Password.hash? (d.sources.salt 0) password = some hash ∧
      upsert (World.sample credentials).files ["users"] { username, password := hash } =
        (.ok (), files) ∧
      (signup d username "" password "").runIn (World.sample credentials) =
        (.ok .approved, { World.sample credentials with
          files
          drawn := { salts := 1 }
          effects := [.restart, .sync username password hash] }) := by
  obtain ⟨hash, hashed⟩ := Password.exists_hash? (not_isTooLong_of_taken taken) salted
  obtain ⟨files, written⟩ := World.upsert_sample credentials
    (c := { username, password := hash }) valid
  have unknown : (World.sample credentials).find d username = .ok none := by
    have printed : (World.sample credentials).files.look ["users"] =
        .content (print credentials).toUTF8 := rfl
    rw [World.find, users, load_of_printed printed, ← absent]
    rfl
  have accepts : Accepts d (World.sample credentials) username password hash :=
    ⟨valid, taken, unknown, hashed⟩
  exact ⟨hash, files, hashed, written,
    accepts.runIn_signup_approved direct (users.symm ▸ written) rfl ""⟩

/-- A signup under a username of two lines: the theorem at that signup. -/
theorem account_creation_adds_recorded_divided :
    let d := Deployment.sample false
    let start := World.sample []
    let s := Operation.step d (start.after d []) (.signup "eve\x0badmin" "" "pw" "")
    s.CreatesAccount "eve\x0badmin" ∧ ∃ hash before after,
      load s.before.files d.usersFile = .ok before ∧ load s.after.files d.usersFile = .ok after ∧
      AddsRecorded "eve\x0badmin" hash before after := by
  intro d start s
  obtain ⟨hash, files, -, -, run⟩ := World.runIn_signup_sample (d := d) []
    "eve\x0badmin" "pw" rfl rfl (Deployment.sample_salt false 0) (by decide) (by decide)
    (by decide)
  have creates : s.CreatesAccount "eve\x0badmin" := by
    refine .signup rfl ?_
    rw [show s = Operation.step d start (.signup "eve\x0badmin" "" "pw" "") from rfl,
      Operation.step_of_map rfl run]
    rfl
  exact ⟨creates,
    account_creation_adds_recorded (Deployment.sample_filesApart false) rfl [] creates⟩

/-- A signup under a username of two lines gives somebody else an account: that of its last line. -/
theorem account_planted :
    let d := Deployment.sample false
    let start := World.sample []
    ∃ hash w', (signup d "eve\x0badmin" "" "pw" "").runIn start = (.ok .approved, w') ∧
      start.find d "admin" = .ok none ∧
      w'.find d "admin" = .ok (some { username := "admin", password := hash }) := by
  intro d start
  obtain ⟨hash, files, hashed, written, run⟩ := World.runIn_signup_sample (d := d) []
    "eve\x0badmin" "pw" rfl rfl (Deployment.sample_salt false 0) (by decide) (by decide)
    (by decide)
  have printed : start.files.look ["users"] = .content (print []).toUTF8 := rfl
  have read : load start.files ["users"] = .ok [] := load_of_printed printed
  refine ⟨hash, _, run, World.find_sample false [] "admin", ?_⟩
  rw [World.find]
  dsimp only
  rw [show d.usersFile = ["users"] from rfl, load_upsert_fresh read
    (Password.ne_empty_of_hash? hashed) (Password.isPlainText_of_hash? hashed).isSolid written]
  have recorded : recordedName? "eve\x0badmin" = some "admin" := by decide
  rw [recorded]
  rfl

end AccountSidecar
