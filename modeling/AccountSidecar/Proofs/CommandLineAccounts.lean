import AccountSidecar.CommandLine.Run
import AccountSidecar.Proofs.CommandReading
import AccountSidecar.Proofs.FirstLogin
import AccountSidecar.Proofs.ResetTokens

/-!
# Accounts from the command line

The admin tool and the service each check a username and a password in their own order and at their
own layer. Both come to the same change of the users file: `createdIn` for a new account and
`rekeyedIn` for a new password say what it is, and the tool and the service each realize it
(`Action.Realizes`). So one does what it is asked for exactly where the other does, and both leave
the same files (`command_line_matches_service`), whatever the users file holds.
-/

namespace AccountSidecar

open Storage AccountSidecar.Action

namespace Users

/-- What giving credentials a new password does to the files: whether it is done, and the files
afterwards. -/
def withPassword (salt : String) (file : Location) (c : Credential) (password : String)
    (files : FileTree) : Bool × FileTree :=
  if (Account.newPasswordFault? password).isSome then (false, files)
  else
    match Password.hash? salt password with
    | none => (false, files)
    | some hash =>
      match upsert files file { c with password := hash } with
      | (.ok (), files) => (true, files)
      | (.error _, files) => (false, files)

/-- What giving a user who must exist a new password does to the files. -/
def rekeyedIn (salt : String) (file : Location) (username password : String) (files : FileTree) :
    Bool × FileTree :=
  match (load files file).map (lookup? username) with
  | .ok (some c) => withPassword salt file c password files
  | _ => (false, files)

/-- What creating the account of a user who must not exist does to the files. -/
def createdIn (salt : String) (file : Location) (username password : String) (files : FileTree) :
    Bool × FileTree :=
  match (load files file).map (lookup? username) with
  | .ok none => withPassword salt file { username, password := "" } password files
  | _ => (false, files)

/-- Credentials under an invalid name get no password. -/
theorem withPassword_of_invalid {salt : String} {file : Location} {c : Credential}
    {password : String} {files : FileTree} (invalid : isValidUsername c.username = false) :
    withPassword salt file c password files = (false, files) := by
  have refused (hash : String) : upsert files file { c with password := hash } =
      (.error (.invalidUsername c.username), files) := by simp [upsert, invalid]
  unfold withPassword
  split
  · rfl
  · split
    · rfl
    · rw [refused]

/-- No account is created under an invalid name or with a password that is at fault. -/
theorem createdIn_of_refused {salt : String} {file : Location} {username password : String}
    {files : FileTree}
    (refused : isValidUsername username = false ∨ (Account.newPasswordFault? password).isSome) :
    createdIn salt file username password files = (false, files) := by
  unfold createdIn
  split
  · rcases refused with invalid | fault
    · exact withPassword_of_invalid invalid
    · rw [withPassword, if_pos fault]
  · rfl

end Users

/-- Whether an action leaves the files of an outcome and, where nothing else keeps it from its end,
comes to a good end exactly where the outcome is that it is done. -/
structure Action.Realizes {α : Type} (a : Action α) (w : World) (good : α → Prop) (free : Prop)
    (outcome : Bool × FileTree) : Prop where
  files : (a.runIn w).2.files = outcome.2
  ended : free → ((∃ x, (a.runIn w).1 = .ok x ∧ good x) ↔ outcome.1 = true)

/-- Whether the collaborators work that a new password is announced to. -/
def World.Announces (w : World) : Prop := .restarter ∉ w.failing ∧ .passwordSync ∉ w.failing

variable {d : Deployment} {w : World} {c : Users.Credential} {username password : String}

namespace Action

variable {α β : Type} {a : Action α} {f : α → Action β} {good : α → Prop} {free : Prop}
  {w' : World} {outcome : Bool × FileTree}

/-- An action that fails realizes that nothing is done. -/
theorem realizes_of_error {e : Failure} {files : FileTree} (failed : a.runIn w = (.error e, w'))
    (left : w'.files = files) : a.Realizes w good free (false, files) := by
  constructor <;> simp [failed, left]

/-- An action whose first part fails realizes that nothing is done. -/
theorem realizes_bind_error {good : β → Prop} {e : Failure} {files : FileTree}
    (failed : a.runIn w = (.error e, w')) (left : w'.files = files) :
    (a >>= f).Realizes w good free (false, files) :=
  realizes_of_error (e := e) (by rw [runIn_bind, failed]) left

/-- An action whose first part works realizes what the second part does. -/
theorem realizes_bind {good : β → Prop} {x : α} (first : a.runIn w = (.ok x, w'))
    (second : (f x).Realizes w' good free outcome) : (a >>= f).Realizes w good free outcome := by
  constructor
  · rw [runIn_bind_ok first]
    exact second.files
  · rw [runIn_bind_ok first]
    exact second.ended

/-- What is made of the value of an action realizes the same, where it is as good. -/
theorem Realizes.then_pure {good' : β → Prop} (realizes : a.Realizes w good free outcome)
    (g : α → β) (same : ∀ x, good' (g x) ↔ good x) :
    (a >>= fun x => pure (g x)).Realizes w good' free outcome := by
  obtain ⟨files, ended⟩ := realizes
  have whole := runIn_bind a (fun x => pure (g x) : α → Action β) w
  constructor
  · rw [whole, ← files]
    rcases a.runIn w with ⟨_ | _, _⟩ <;> rfl
  · intro holds
    rw [whole, ← ended holds]
    rcases a.runIn w with ⟨_ | x, _⟩
    · simp
    · exact ⟨fun ⟨_, value, fine⟩ => ⟨x, rfl, (same x).mp (Except.ok.inj value ▸ fine)⟩,
        fun ⟨_, value, fine⟩ => ⟨g x, rfl, (same x).mpr (Except.ok.inj value ▸ fine)⟩⟩

/-- Hashing a password, writing credentials with the hash and then something that keeps the files
gives the credentials the password. -/
theorem realizes_withPassword {good : β → Prop} {rest : String → Action β}
    (taken : Account.newPasswordFault? password = none)
    (keeps : ∀ hash w', w'.failing = w.failing →
      (rest hash).Realizes w' good free (true, w'.files)) :
    (do
      let hash ← hashPassword d password
      upsertUser d { c with password := hash }
      rest hash : Action β).Realizes w good free
      (Users.withPassword (d.sources.salt w.drawn.salts) d.usersFile c password w.files) := by
  have drawn := runIn_hashPassword d password w
  unfold Users.withPassword
  rw [taken, Option.isSome_none, if_neg Bool.false_ne_true]
  generalize Password.hash? (d.sources.salt w.drawn.salts) password = hashed at drawn ⊢
  cases hashed with
  | none => exact realizes_bind_error drawn rfl
  | some hash =>
    refine realizes_bind drawn ?_
    have put := runIn_upsertUser d { c with password := hash }
      { w with drawn := { w.drawn with salts := w.drawn.salts + 1 } }
    dsimp only at put ⊢
    generalize Users.upsert w.files d.usersFile { c with password := hash } = written at put ⊢
    rcases written with ⟨e | ⟨⟩, files⟩
    · exact realizes_bind_error put rfl
    · exact realizes_bind put (keeps hash _ rfl)

end Action

namespace Account

/-- An announcement keeps the files, and comes to its end where its collaborators work. -/
theorem announcePassword_realizes (username password hash : String) {w' : World}
    (same : w'.failing = w.failing) :
    (announcePassword username password hash).Realizes w' (fun _ => True) w.Announces
      (true, w'.files) := by
  unfold World.Announces
  rw [← same]
  by_cases announces : .restarter ∉ w'.failing ∧ .passwordSync ∉ w'.failing
  · have run := announcePassword_of_working username password hash announces.1 announces.2
    constructor <;> simp [run]
  · obtain ⟨e, w₂, run, kept, -⟩ := announcePassword_of_failing username password hash announces
    exact ⟨by rw [run]; exact kept, fun free => absurd free announces⟩

/-- Setting a password gives credentials a new one. -/
theorem setPassword_realizes (d : Deployment) (c : Users.Credential) (password : String)
    (w : World) :
    (setPassword d c password).Realizes w (fun _ => True) w.Announces
      (Users.withPassword (d.sources.salt w.drawn.salts) d.usersFile c password w.files) := by
  have checked := runIn_checkNewPassword password w
  unfold setPassword
  cases taken : newPasswordFault? password with
  | some e =>
    rw [taken] at checked
    rw [Users.withPassword, taken]
    exact realizes_bind_error checked rfl
  | none =>
    rw [taken] at checked
    refine realizes_bind checked (realizes_withPassword taken fun hash w' same => ?_)
    exact announcePassword_realizes c.username password hash same

/-- Changing a password with the old one gives a user who must exist a new one. -/
theorem changePassword_realizes {oldPassword : String} (found : w.find d username = .ok (some c))
    (verified : Password.verify oldPassword c.password = true) (password : String) :
    (changePassword d username oldPassword password).Realizes w (fun _ => True) w.Announces
      (Users.rekeyedIn (d.sources.salt w.drawn.salts) d.usersFile username password w.files) := by
  have required : (requireUser d username).runIn w = (.ok c, w) := by
    unfold requireUser
    rw [runIn_bind, runIn_findUser, found]
    rfl
  unfold World.find at found
  unfold changePassword Users.rekeyedIn
  rw [found]
  refine realizes_bind required ?_
  rw [verified, if_neg (by decide)]
  exact setPassword_realizes d c password w

/-- Creating an account without a phone gives fresh credentials a password. -/
theorem realizes_createAccount (taken : newPasswordFault? password = none) :
    (do
      let hash ← hashPassword d password
      createAccount d username password hash "" : Action SignupResult).Realizes w
      (· = .approved) w.Announces
      (Users.withPassword (d.sources.salt w.drawn.salts) d.usersFile { username, password := "" }
        password w.files) := by
  have announced (hash : String) (w' : World) (same : w'.failing = w.failing) :
      (do
        stashPhone d username ""
        announcePassword username password hash
        pure SignupResult.approved : Action SignupResult).Realizes w' (· = .approved) w.Announces
        (true, w'.files) :=
    realizes_bind (a := stashPhone d username "") rfl
      ((announcePassword_realizes username password hash same).then_pure
        (fun _ => SignupResult.approved) fun _ => by simp)
  exact realizes_withPassword (c := { username, password := "" }) taken announced

/-- A signup without approval and without a phone creates the account of a user who must not
exist. -/
theorem signup_realizes (direct : d.requireApproval = false) (username email password : String)
    (w : World) :
    (signup d username email password "").Realizes w (· = .approved) w.Announces
      (Users.createdIn (d.sources.salt w.drawn.salts) d.usersFile username password w.files) := by
  have checked := runIn_checkNewPassword password w
  have looked := runIn_findUser d username w
  unfold signup
  split
  · rename_i empty
    rw [Users.createdIn_of_refused (by
      rcases (by simpa using empty : username = "" ∨ password = "") with rfl | rfl
      · exact .inl (by decide)
      · exact .inr rfl)]
    exact realizes_of_error rfl rfl
  split
  · rename_i invalid
    rw [Users.createdIn_of_refused (.inl (by simpa using invalid))]
    exact realizes_of_error rfl rfl
  cases taken : newPasswordFault? password with
  | some e =>
    rw [taken] at checked
    rw [Users.createdIn_of_refused (.inr (by rw [taken]; rfl))]
    exact realizes_bind_error checked rfl
  | none =>
    rw [taken] at checked
    refine realizes_bind checked ?_
    unfold World.find at looked
    unfold Users.createdIn
    generalize (Users.load w.files d.usersFile).map (Users.lookup? username) = seen at looked ⊢
    rcases seen with e | _ | c
    · exact realizes_bind_error looked rfl
    · refine realizes_bind looked ?_
      rw [Option.isSome_none, if_neg Bool.false_ne_true, direct]
      exact realizes_createAccount taken
    · exact realizes_bind looked (realizes_of_error (e := .account (.of .alreadyExists)) rfl rfl)

end Account

namespace CommandLine

open Text

/-- Whether a text has no line break. -/
def IsOneLine (s : String) : Prop := '\n' ∉ s.toList ∧ '\r' ∉ s.toList

instance (s : String) : Decidable (IsOneLine s) := inferInstanceAs (Decidable (_ ∧ _))

/-- Whether a text is at its end or at a line break. -/
def IsAtLineEnd (rest : List Char) : Prop :=
  rest = [] ∨ ∃ c more, (c = '\n' ∨ c = '\r') ∧ rest = c :: more

/-- Whether a terminal gives a password: as the first line of the input, or at both prompts. -/
def Terminal.Enters (t : Terminal) (password : String) (fromInput : Bool) : Prop :=
  if fromInput then ∃ rest, IsAtLineEnd rest ∧ t.input.toList = password.toList ++ rest
  else t.answers.take 2 = [password, password]

/-- A line break becomes a line feed. -/
theorem unifyNewlines_break {c : Char} (breaks : c = '\n' ∨ c = '\r') (rest : List Char) :
    ∃ more, unifyNewlines (c :: rest) = '\n' :: more := by
  rcases breaks with rfl | rfl
  · exact ⟨_, unifyNewlines_cons (by decide) rest⟩
  · unfold unifyNewlines
    split
    · rename_i impossible
      cases impossible
    · exact ⟨_, rfl⟩
    · rename_i same
      obtain ⟨rfl, -⟩ := List.cons.inj same
      exact ⟨_, rfl⟩

/-- A character in front of lines is at the front of the first one. -/
theorem headD_consFirst (c : Char) (lines : List (List Char)) :
    (consFirst c lines).headD [] = c :: lines.headD [] := by
  cases lines <;> rfl

/-- The first line of text reaches up to a line break. -/
theorem headD_recordLines {line rest : List Char} (unbroken : '\n' ∉ line ∧ '\r' ∉ line)
    (ends : IsAtLineEnd rest) : (recordLines (line ++ rest)).headD [] = line := by
  unfold recordLines
  induction line with
  | nil =>
    rcases ends with rfl | ⟨c, more, breaks, rfl⟩
    · rfl
    · obtain ⟨more, unified⟩ := unifyNewlines_break breaks more
      rw [List.nil_append, unified]
      rfl
  | cons c line ih =>
    simp only [List.mem_cons, not_or] at unbroken
    obtain ⟨⟨feed, feeds⟩, ret, rets⟩ := unbroken
    rw [List.cons_append, unifyNewlines_cons (Ne.symm ret), splitFeeds, if_neg (Ne.symm feed),
      headD_consFirst, ih ⟨feeds, rets⟩]

/-- A password that the terminal gives is read. -/
theorem readPassword_of_enters {t : Terminal} {password : String} {fromInput : Bool}
    (line : IsOneLine password) (entered : t.Enters password fromInput) :
    (readPassword t fromInput).password = password := by
  unfold readPassword
  cases fromInput with
  | true =>
    obtain ⟨rest, ends, input⟩ := entered
    rw [if_pos rfl, input, headD_recordLines line ends, String.ofList_toList]
  | false =>
    have answered : t.answers.take 2 = [password, password] := entered
    obtain ⟨rest, answers⟩ : ∃ rest, t.answers = password :: password :: rest :=
      ⟨t.answers.drop 2, by rw [← List.take_append_drop 2 t.answers, answered]; rfl⟩
    simp [answers]

/-- The tool finds fault with the passwords that the service finds fault with. -/
theorem passwordFault?_isSome (password : String) :
    (passwordFault? password).isSome = (Account.newPasswordFault? password).isSome := by
  unfold passwordFault? Account.newPasswordFault?
  split
  · rfl
  · split <;> rfl

/-- Whether a report is one of success. -/
def Report.IsDone (r : Report) : Prop := r.code = doneCode

/-- Printing the report of an action leaves what the action leaves, and ends with the report as the
outlets take it or with the failure. -/
theorem runIn_print (o : Outlets) (a : Action Report) (w : World) :
    (o.print a).runIn w =
      (.ok (match (a.runIn w).1 with
        | .ok r => o.ending r
        | .error e => .failed e), (a.runIn w).2) := by
  unfold Outlets.print
  rw [runIn_tryCatch, runIn_map]
  rcases a.runIn w with ⟨_ | _, _⟩ <;> rfl

/-- Reporting turns the own errors of the stores into reports and changes nothing else. -/
theorem runIn_reporting (a : Action Report) (w : World) :
    (reporting a).runIn w =
      match a.runIn w with
      | (.ok r, w') => (.ok r, w')
      | (.error e, w') =>
        ((reportedMessage? e).elim (.error e) fun message => .ok (.failed message), w') := by
  unfold reporting
  rw [runIn_tryCatch]
  rcases a.runIn w with ⟨e | _, _⟩
  · dsimp only
    cases reportedMessage? e <;> rfl
  · rfl

/-- Reporting errors changes neither the files nor what is done. -/
theorem realizes_reporting {a : Action Report} {outcome : Bool × FileTree}
    (realizes : a.Realizes w Report.IsDone True outcome) :
    (reporting a).Realizes w Report.IsDone True outcome := by
  have failed (message : String) : ¬ (Report.failed message).IsDone := Nat.one_ne_zero
  obtain ⟨files, ended⟩ := realizes
  have run := runIn_reporting a w
  constructor
  · rw [run, ← files]
    rcases a.runIn w with ⟨_ | _, _⟩ <;> rfl
  · intro holds
    rw [run, ← ended holds]
    rcases a.runIn w with ⟨e | _, _⟩
    · cases h : reportedMessage? e <;> simp [h, failed]
    · exact Iff.rfl

/-- A report of failure realizes that nothing is done. -/
theorem realizes_of_report {a : Action Report} {r : Report} (run : a.runIn w = (.ok r, w))
    (failed : ¬ r.IsDone) : a.Realizes w Report.IsDone True (false, w.files) := by
  constructor <;> simp [run, failed]

/-- The report that a command is done keeps the files. -/
theorem realizes_done (line : String) (w : World) :
    (pure (Report.done line) : Action Report).Realizes w Report.IsDone True (true, w.files) :=
  ⟨rfl, fun _ => ⟨fun _ => rfl, fun _ => ⟨_, rfl, rfl⟩⟩⟩

/-- The tool gives credentials a password that it reads. -/
theorem writePassword_realizes {t : Terminal} {fromInput : Bool}
    (entered : (readPassword t fromInput).password = password) (c : Users.Credential)
    (line : String) (w : World) :
    (writePassword d t fromInput c line).Realizes w Report.IsDone True
      (Users.withPassword (d.sources.salt w.drawn.salts) d.usersFile c password w.files) := by
  have alike := passwordFault?_isSome password
  unfold writePassword
  dsimp only
  rw [entered]
  cases fault : passwordFault? password with
  | some message =>
    rw [fault, Option.isSome_some] at alike
    rw [Users.withPassword, if_pos alike.symm]
    exact realizes_of_report rfl Nat.one_ne_zero
  | none =>
    rw [fault] at alike
    have taken : Account.newPasswordFault? password = none := by simpa using alike.symm
    have written := realizes_reporting (realizes_withPassword (d := d) (w := w) (c := c) taken
      fun _ w' _ => realizes_done line w')
    exact written.then_pure _ fun _ => Iff.rfl

/-- The tool adds a user who must not exist. -/
theorem addUser_realizes {t : Terminal} {fromInput : Bool}
    (entered : (readPassword t fromInput).password = password) (username : String) (w : World) :
    (addUser d t username fromInput).Realizes w Report.IsDone True
      (Users.createdIn (d.sources.salt w.drawn.salts) d.usersFile username password w.files) := by
  have looked := runIn_findUser d username w
  unfold World.find at looked
  unfold addUser Users.createdIn
  generalize (Users.load w.files d.usersFile).map (Users.lookup? username) = seen at looked ⊢
  rcases seen with e | _ | c
  · exact realizes_bind_error looked rfl
  · exact realizes_bind looked (writePassword_realizes entered _ _ w)
  · exact realizes_bind looked (realizes_of_report rfl Nat.one_ne_zero)

/-- The tool gives a user who must exist a new password. -/
theorem withUser_realizes {t : Terminal} {fromInput : Bool}
    (entered : (readPassword t fromInput).password = password) (username line : String)
    (w : World) :
    (withUser d username fun c => writePassword d t fromInput c line).Realizes w
      Report.IsDone True
      (Users.rekeyedIn (d.sources.salt w.drawn.salts) d.usersFile username password w.files) := by
  have looked := runIn_findUser d username w
  unfold World.find at looked
  unfold withUser Users.rekeyedIn
  generalize (Users.load w.files d.usersFile).map (Users.lookup? username) = seen at looked ⊢
  rcases seen with e | _ | c
  · exact realizes_bind_error looked rfl
  · exact realizes_bind looked (realizes_of_report rfl Nat.one_ne_zero)
  · exact realizes_bind looked (writePassword_realizes entered c line w)

/-- What a command line that gives a user a password realizes: an account for `add`, a new password
for `passwd`. -/
theorem run_realizes (env : Keyed String) (sources : Sources) {t : Terminal}
    {path? : Option String} {name : String} {fromInput : Bool}
    (gives : name = "add" ∨ name = "passwd")
    (chosen : ∀ path, path? = some path → IsPlainArgument path)
    (plain : IsPlainArgument username) (line : IsOneLine password)
    (entered : t.Enters password fromInput) (w : World) :
    (run env sources t (commandLine path? name username fromInput)).Realizes w Report.IsDone True
      ((if name = "add" then Users.createdIn else Users.rekeyedIn) (sources.salt w.drawn.salts)
        (Location.ofText (usersPathFor env path?)) username password w.files) := by
  have typed := readPassword_of_enters line entered
  obtain ⟨metadataPath, reading⟩ := read_commandLine env gives chosen plain fromInput
  unfold run
  rw [reading]
  rcases gives with rfl | rfl
  · exact realizes_reporting (addUser_realizes typed username w)
  · exact realizes_reporting (withUser_realizes typed username _ w)

/-- Actions that realize one outcome leave the same files, and come to a good end together. -/
theorem realizes_alike {α β : Type} {a : Action α} {b : Action β} {v : World} {good : α → Prop}
    {good' : β → Prop} {free : Prop} {outcome : Bool × FileTree}
    (one : a.Realizes v good True outcome) (other : b.Realizes w good' free outcome) :
    (free → ((∃ x, (a.runIn v).1 = .ok x ∧ good x) ↔ ∃ y, (b.runIn w).1 = .ok y ∧ good' y)) ∧
      (a.runIn v).2.files = (b.runIn w).2.files :=
  ⟨fun holds => (one.ended trivial).trans (other.ended holds).symm,
    one.files.trans other.files.symm⟩

end CommandLine

open CommandLine Account

/-- On the same files and with the same salt, `add` reports success exactly where a signup without
approval comes to its end, and `passwd` exactly where a change of the password with the old one
does; the files are the same afterwards, whether or not anything is done. -/
theorem command_line_matches_service {env : Keyed String} {sources : Sources} {t : Terminal}
    {path? : Option String} {fromInput : Bool} {v w : World}
    (file : d.usersFile = Location.ofText (usersPathFor env path?)) (files : v.files = w.files)
    (salt : sources.salt v.drawn.salts = d.sources.salt w.drawn.salts)
    (chosen : ∀ path, path? = some path → IsPlainArgument path)
    (plain : IsPlainArgument username) (line : IsOneLine password)
    (entered : t.Enters password fromInput) :
    (d.requireApproval = false →
      let added := (run env sources t (commandLine path? "add" username fromInput)).runIn v
      let signed := (signup d username "" password "").runIn w
      (w.Announces → ((∃ r, added.1 = .ok r ∧ r.code = 0) ↔ signed.1 = .ok .approved)) ∧
        added.2.files = signed.2.files) ∧
    ∀ old c, w.find d username = .ok (some c) → Password.verify old c.password = true →
      let set := (run env sources t (commandLine path? "passwd" username fromInput)).runIn v
      let changed := (changePassword d username old password).runIn w
      (w.Announces → ((∃ r, set.1 = .ok r ∧ r.code = 0) ↔ changed.1 = .ok ())) ∧
        set.2.files = changed.2.files := by
  have tool {name : String} (gives : name = "add" ∨ name = "passwd") :=
    run_realizes env sources gives chosen plain line entered v
  rw [files, salt, ← file] at tool
  constructor
  · intro direct added signed
    obtain ⟨ended, left⟩ :=
      realizes_alike (tool (.inl rfl)) (signup_realizes direct username "" password w)
    exact ⟨fun announces => (ended announces).trans (by simp [signed]), left⟩
  · intro old c found verified set changed
    obtain ⟨ended, left⟩ :=
      realizes_alike (tool (.inr rfl)) (changePassword_realizes found verified password)
    exact ⟨fun announces => (ended announces).trans
      ⟨fun ⟨_, ended, _⟩ => ended, fun ended => ⟨(), ended, trivial⟩⟩, left⟩

/-- Alice signs up and then gets a new password from the command line, or with the old one: the
theorem at that password. -/
theorem command_line_matches_service_alice :
    let d := Deployment.sample false
    let args := commandLine none "passwd" "alice" true
    ∃ w c, (signup d "alice" "" "pw" "").runIn (World.sample []) = (.ok .approved, w) ∧
      w.find d "alice" = .ok (some c) ∧ Password.verify "pw" c.password = true ∧
      let set := (run [("USERS_FILE_PATH", "users")] d.sources { input := "pw1\n" } args).runIn w
      let changed := (changePassword d "alice" "pw" "pw1").runIn w
      ((∃ r, set.1 = .ok r ∧ r.code = 0) ↔ changed.1 = .ok ()) ∧
        set.2.files = changed.2.files := by
  intro d args
  obtain ⟨_, files, -, -, signed⟩ := World.runIn_signup_sample (d := d) [] "alice" "pw" rfl rfl
    (Deployment.sample_salt false 0) (by decide) (by decide) (by decide)
  obtain ⟨saltText, hash, hashed, found, -⟩ :=
    Account.find_of_signup (Deployment.sample_filesApart false) signed
  have legible : Users.IsLegibleName "alice" :=
    (Users.recordedName?_eq_self_iff (by decide)).mp (by decide)
  have file : d.usersFile = Location.ofText (usersPathFor [("USERS_FILE_PATH", "users")] none) := by
    decide +kernel
  have plain : IsPlainArgument "alice" := by decide
  have line : IsOneLine "pw1" := by decide
  have entered : Terminal.Enters { input := "pw1\n" } "pw1" true :=
    ⟨['\n'], .inr ⟨'\n', [], .inl rfl, rfl⟩, by decide⟩
  have verified := Password.verify_of_hash? hashed
  refine ⟨_, _, signed, found legible, verified, ?_⟩
  obtain ⟨ended, left⟩ := (command_line_matches_service file rfl rfl (by simp) plain line
    entered).2 "pw" _ (found legible) verified
  exact ⟨ended ⟨List.not_mem_nil, List.not_mem_nil⟩, left⟩

end AccountSidecar
