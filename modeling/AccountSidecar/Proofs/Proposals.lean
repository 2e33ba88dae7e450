import AccountSidecar.Proofs.Footprints
import AccountSidecar.Proofs.Signups

/-!
# Changes of the users file

An operation changes the users file at most once, by putting credentials in place that it
`Proposes`: what they are made from and which checks came before is one case for each kind of
operation. That is all that an operation can do to the file (`Operation.perform_proposing`).
-/

namespace AccountSidecar

open Storage Users

/-- The credentials that an operation may put into the users file. -/
inductive Proposes (d : Deployment) (w : World) : Operation → Credential → Prop
  /-- A new password for the user of a reset token that can be claimed. -/
  | resetPassword {token password username hash : String} {t : State.Tables} {c : Credential}
      (claimed : w.tables.claimResetToken token w.clock = .ok (username, t))
      (found : w.find d username = .ok (some c))
      (hashed : Password.hash? (d.sources.salt w.drawn.salts) password = some hash) :
      Proposes d w (.resetPassword token password) { c with password := hash }
  /-- A new password for the owner of a phone whose code can be used. -/
  | resetPasswordSms {phone code password hash : String} {t : State.Tables} {c : Credential}
      (consumed : w.tables.consumeSmsCode (Metadata.ownerOfPhone phone w.metadata) code w.clock =
        .ok t)
      (found : w.find d (Metadata.ownerOfPhone phone w.metadata) = .ok (some c))
      (hashed : Password.hash? (d.sources.salt w.drawn.salts) password = some hash) :
      Proposes d w (.resetPasswordSms phone code password) { c with password := hash }
  /-- A new password for a user who gave the old one. -/
  | changePassword {username oldPassword newPassword hash : String} {c : Credential}
      (found : w.find d username = .ok (some c))
      (verified : Password.verify oldPassword c.password = true)
      (hashed : Password.hash? (d.sources.salt w.drawn.salts) newPassword = some hash) :
      Proposes d w (.changePassword username oldPassword newPassword) { c with password := hash }
  /-- A first password for a user who is not there. -/
  | signup {username email password phone hash : String}
      (absent : w.find d username = .ok none)
      (hashed : Password.hash? (d.sources.salt w.drawn.salts) password = some hash) :
      Proposes d w (.signup username email password phone) { username, password := hash }
  /-- The password of a queued signup, for whoever has its username. -/
  | approveSignup {id : String} {s : State.PendingSignup}
      (queued : w.tables.pendingSignup id = .ok s) :
      Proposes d w (.approveSignup id) { username := s.username, password := s.passwordHash }
  /-- A secret whose code was given. -/
  | enableTotp {username secret code : String} {c : Credential}
      (verified : Totp.verify secret code Account.codeWindow w.clock = true)
      (found : w.find d username = .ok (some c)) :
      Proposes d w (.enableTotp username secret code)
        { c with totpSecret := Totp.normalizeSecret secret }
  /-- No secret, for a user who gave the password. -/
  | disableTotp {username password : String} {c : Credential}
      (found : w.find d username = .ok (some c)) :
      Proposes d w (.disableTotp username password) { c with totpSecret := "" }
  /-- A secret whose code was given, for a user who gave the recovery key. -/
  | recoverTotp {username key secret code : String} {c : Credential}
      (verified : Totp.verify secret code Account.codeWindow w.clock = true)
      (found : w.find d username = .ok (some c)) :
      Proposes d w (.recoverTotp username key secret code)
        { c with totpSecret := Totp.normalizeSecret secret }

namespace Action

variable {α β : Type} {d : Deployment} {w : World} {proposed : Credential → Prop}

/-- Whether an action keeps the users file or puts proposed credentials into it. -/
def Proposing (d : Deployment) (w : World) (proposed : Credential → Prop) (a : Action α) : Prop :=
  Part.Same d w (a.runIn w).2 .usersFile ∨
    ∃ c, proposed c ∧ Rewritten w.files (a.runIn w).2.files d.usersFile c

/-- An action that does not touch the users file keeps it. -/
theorem Within.proposing {parts : List Part} {a : Action α} (inner : Within d parts a)
    (users : .usersFile ∉ parts) : Proposing d w proposed a := .inl (inner w .usersFile users)

/-- A change is what it was if the file before it is. -/
theorem rewritten_of_same {w' : World} {files : FileTree} {c : Credential}
    (same : Part.Same d w w' .usersFile) (changed : Rewritten w'.files files d.usersFile c) :
    Rewritten w.files files d.usersFile c := by
  obtain ⟨all, read, printed⟩ := changed
  exact ⟨all, (load_congr same).symm.trans read, printed⟩

/-- An action behind one that does not touch the users file. -/
theorem proposing_bind (parts : List Part) {a : Action α} {f : α → Action β}
    (first : Within d parts a) (users : .usersFile ∉ parts)
    (second : ∀ x w', a.runIn w = (.ok x, w') → Proposing d w' proposed (f x)) :
    Proposing d w proposed (a >>= f) := by
  have same := first w .usersFile users
  unfold Proposing
  rw [runIn_bind]
  rcases step : a.runIn w with ⟨_ | x, w'⟩ <;> rw [step] at same
  · exact .inl same
  · rcases second x w' step with kept | ⟨c, proposes, changed⟩
    · exact .inl (same.trans kept)
    · exact .inr ⟨c, proposes, rewritten_of_same same changed⟩

/-- An action in front of one that does not touch the users file. -/
theorem proposing_bind_within (parts : List Part) {a : Action α} {f : α → Action β}
    (first : Proposing d w proposed a) (second : ∀ x, Within d parts (f x))
    (users : .usersFile ∉ parts) : Proposing d w proposed (a >>= f) := by
  unfold Proposing at first ⊢
  rw [runIn_bind]
  rcases step : a.runIn w with ⟨_ | x, w'⟩ <;> rw [step] at first
  · exact first
  · have same := second x w' .usersFile users
    rcases first with kept | ⟨c, proposes, all, read, printed⟩
    · exact .inl (kept.trans same)
    · exact .inr ⟨c, proposes, all, read,
        (Storage.FileTree.look_congr same).trans printed⟩

/-- An action with a handler that does not touch the users file. -/
theorem proposing_tryCatch (parts : List Part) {a : Action α} {handler : Failure → Action α}
    (inner : Proposing d w proposed a) (outer : ∀ e, Within d parts (handler e))
    (users : .usersFile ∉ parts) : Proposing d w proposed (tryCatch a handler) := by
  unfold Proposing at inner ⊢
  rw [runIn_tryCatch]
  rcases step : a.runIn w with ⟨e | _, w'⟩ <;> rw [step] at inner
  · have same := outer e w' .usersFile users
    rcases inner with kept | ⟨c, proposes, all, read, printed⟩
    · exact .inl (kept.trans same)
    · exact .inr ⟨c, proposes, all, read,
        (Storage.FileTree.look_congr same).trans printed⟩
  · exact inner

/-- A function of the value changes nothing else. -/
theorem proposing_map {g : α → β} {a : Action α} (inner : Proposing d w proposed a) :
    Proposing d w proposed (g <$> a) := by
  unfold Proposing
  rw [runIn_map]
  exact inner

/-- Writing credentials that are proposed. -/
theorem proposing_upsertUser {c : Credential} (proposes : proposed c) :
    Proposing d w proposed (upsertUser d c) := by
  unfold Proposing
  rw [runIn_upsertUser]
  rcases upsert_cases w.files d.usersFile c with ⟨t, -, written, changed⟩ | ⟨e, t, failed, kept⟩
  · rw [written]
    exact .inr ⟨c, proposes, changed⟩
  · rw [failed]
    exact .inl kept

/-- Hashing that works gives the hash and keeps everything else but the salts. -/
theorem hashPassword_eq_ok {password hash : String} {w' : World}
    (hashed : (hashPassword d password).runIn w = (.ok hash, w')) :
    Password.hash? (d.sources.salt w.drawn.salts) password = some hash ∧
      w' = { w with drawn := { w.drawn with salts := w.drawn.salts + 1 } } := by
  rw [runIn_hashPassword] at hashed
  obtain ⟨result, rfl⟩ := Prod.mk.inj hashed
  cases given : Password.hash? (d.sources.salt w.drawn.salts) password with
  | none => rw [given] at result; cases result
  | some h =>
    rw [given] at result
    exact ⟨congrArg some (Except.ok.inj result), rfl⟩

/-- A user who was asked for was found, and nothing has changed. -/
theorem requireUser_eq_ok {username : String} {c : Credential} {w' : World}
    (asked : (requireUser d username).runIn w = (.ok c, w')) :
    w.find d username = .ok (some c) ∧ w' = w := by
  rcases requireUser_cases d username w with ⟨c', found, run⟩ | ⟨e, -, run⟩ <;> rw [run] at asked
  · obtain ⟨same, rfl⟩ := Prod.mk.inj asked
    exact ⟨by rw [found, Except.ok.inj same], rfl⟩
  · cases (Prod.mk.inj asked).1

end Action

namespace Account

open AccountSidecar.Action

variable {d : Deployment} {w w' : World} {proposed : Credential → Prop}

/-- A new password that was not refused leaves everything as it was. -/
theorem checkNewPassword_eq_ok {password : String} {done : Unit}
    (checked : (checkNewPassword password).runIn w = (.ok done, w')) : w' = w := by
  have kept : ((checkNewPassword password).runIn w).2 = w := by
    unfold checkNewPassword
    cases newPasswordFault? password <;> rfl
  rw [checked] at kept
  exact kept

/-- A claim changes the tables only, where it works. -/
theorem runIn_claimResetToken (token : String) (w : World) :
    (claimResetToken token).runIn w =
      match w.tables.claimResetToken token w.clock with
      | .ok (username, tables) => (.ok username, { w with tables })
      | .error e => (.error (.account e), w) := by
  simp only [claimResetToken, runIn_bind, runIn_get, runIn_now, runIn_ofCheck]
  cases w.tables.claimResetToken token w.clock <;> rfl

/-- The use of a code changes the tables only, where it works. -/
theorem runIn_consumeSmsCode (phone code : String) (w : World) :
    (consumeSmsCode phone code).runIn w =
      match w.tables.consumeSmsCode (Metadata.ownerOfPhone phone w.metadata) code w.clock with
      | .ok tables => (.ok (Metadata.ownerOfPhone phone w.metadata), { w with tables })
      | .error e => (.error (.account e), w) := by
  simp only [consumeSmsCode, runIn_bind, runIn_ownerOfPhone, runIn_get, runIn_now, runIn_ofCheck]
  cases w.tables.consumeSmsCode (Metadata.ownerOfPhone phone w.metadata) code w.clock <;> rfl

/-- Setting a password proposes the credentials with its hash. -/
theorem proposing_setPassword {c : Credential} {password : String}
    (proposes : ∀ hash, Password.hash? (d.sources.salt w.drawn.salts) password = some hash →
      proposed { c with password := hash }) :
    Proposing d w proposed (setPassword d c password) := by
  refine proposing_bind [] (within_checkNewPassword password) (by decide) ?_
  intro done w₁ checked
  obtain rfl := checkNewPassword_eq_ok checked
  refine proposing_bind [] (within_hashPassword password) (by decide) ?_
  intro hash w₂ run
  obtain ⟨hashed, rfl⟩ := hashPassword_eq_ok run
  exact proposing_bind_within [.effects] (proposing_upsertUser (proposes hash hashed))
    (fun _ => within_announcePassword c.username password hash (by decide)) (by decide)

/-- Setting the password of a user proposes the credentials of that user with its hash. -/
theorem proposing_setPasswordOf {username password : String}
    (proposes : ∀ c hash, w.find d username = .ok (some c) →
      Password.hash? (d.sources.salt w.drawn.salts) password = some hash →
      proposed { c with password := hash }) :
    Proposing d w proposed (setPasswordOf d username password) := by
  refine proposing_bind [] (within_requireUser username) (by decide) ?_
  intro c w₁ asked
  obtain ⟨found, rfl⟩ := requireUser_eq_ok asked
  exact proposing_setPassword fun hash hashed => proposes c hash found hashed

/-- Turning two-factor login on proposes the credentials of the user with the secret. -/
theorem proposing_enableTotp {username secret code : String}
    (proposes : ∀ c, w.find d username = .ok (some c) →
      Totp.verify secret code codeWindow w.clock = true →
      proposed { c with totpSecret := Totp.normalizeSecret secret }) :
    Proposing d w proposed (enableTotp d username secret code) := by
  refine proposing_bind [] within_now (by decide) ?_
  rintro time w₁ ⟨⟩
  by_cases verified : Totp.verify secret code codeWindow w.clock = true
  · simp only [verified, Bool.not_true, Bool.false_eq_true, if_false]
    refine proposing_bind [] (within_requireUser username) (by decide) ?_
    intro c w₂ asked
    obtain ⟨found, rfl⟩ := requireUser_eq_ok asked
    exact proposing_bind_within [.effects] (proposing_upsertUser (proposes c found verified))
      (fun _ => within_emit _ (by decide)) (by decide)
  · simp only [verified, Bool.not_false, if_true]
    exact (within_refuse _ : Within d [] _).proposing (by decide)

/-- Resetting a password with a token. -/
theorem proposing_resetPassword (token password : String) :
    Proposing d w (Proposes d w (.resetPassword token password))
      (resetPassword d token password) := by
  refine proposing_bind [] (within_checkNewPassword password) (by decide) ?_
  intro done w₁ checked
  obtain rfl := checkNewPassword_eq_ok checked
  refine proposing_bind [.resetTokens] (within_claimResetToken token (by decide)) (by decide) ?_
  intro username w₂ run
  rw [runIn_claimResetToken] at run
  cases claimed : w₁.tables.claimResetToken token w₁.clock with
  | error e => rw [claimed] at run; cases run
  | ok claim =>
    rw [claimed] at run
    cases run
    refine proposing_tryCatch [.resetTokens] (proposing_setPasswordOf ?_) ?_ (by decide)
    · exact fun c hash found hashed => .resetPassword claimed found hashed
    · intro e
      exact within_bind (within_changeTables
        (by simp [State.Tables.releaseResetToken, State.Tables.setResetTokenUsed])) fun _ =>
          within_throw e

/-- Resetting a password with a code. -/
theorem proposing_resetPasswordSms (phone code password : String) :
    Proposing d w (Proposes d w (.resetPasswordSms phone code password))
      (resetPasswordSms d phone code password) := by
  refine proposing_bind [] (within_checkNewPassword password) (by decide) ?_
  intro done w₁ checked
  obtain rfl := checkNewPassword_eq_ok checked
  refine proposing_bind [.smsCodes] (within_consumeSmsCode phone code (by decide)) (by decide) ?_
  intro username w₂ run
  rw [runIn_consumeSmsCode] at run
  cases consumed : w₁.tables.consumeSmsCode (Metadata.ownerOfPhone phone w₁.metadata) code
      w₁.clock with
  | error e => rw [consumed] at run; cases run
  | ok t =>
    rw [consumed] at run
    cases run
    exact proposing_setPasswordOf fun c hash found hashed => .resetPasswordSms consumed found hashed

/-- Changing a password with the old one. -/
theorem proposing_changePassword (username oldPassword newPassword : String) :
    Proposing d w (Proposes d w (.changePassword username oldPassword newPassword))
      (changePassword d username oldPassword newPassword) := by
  refine proposing_bind [] (within_requireUser username) (by decide) ?_
  intro c w₁ asked
  obtain ⟨found, rfl⟩ := requireUser_eq_ok asked
  split
  · exact (within_refuseSaying _ _ : Within d [] _).proposing (by decide)
  · rename_i verified
    exact proposing_setPassword fun hash hashed =>
      .changePassword found (by simpa using verified) hashed

/-- Queueing a signup proposes nothing; creating its account proposes the first credentials. -/
theorem proposing_signup (apart : d.FilesApart) (username email password phone : String) :
    Proposing d w (Proposes d w (.signup username email password phone))
      (signup d username email password phone) := by
  rcases signup_cases d username email password phone w with ⟨hash, accepts⟩ | ⟨e, n, run⟩
  · have rest : Proposing d { w with drawn := { w.drawn with salts := w.drawn.salts + 1 } }
        (Proposes d w (.signup username email password phone))
        (if d.requireApproval then queueSignup d username email hash phone
          else createAccount d username password hash phone) := by
      split
      · have queued : Within d [.signups, .identifiers, .metadata]
            (queueSignup d username email hash phone) :=
          within_queueSignup (fun _ => apart) username email hash phone (by decide) (by decide)
            (by decide)
        exact queued.proposing (by decide)
      · refine proposing_bind_within [.metadata, .effects]
          (proposing_upsertUser (.signup accepts.absent accepts.hashed)) (fun _ => ?_) (by decide)
        exact within_bind (within_stashPhone (fun _ => apart) username phone (by decide)) fun _ =>
          within_bind (within_announcePassword username password hash (by decide)) fun _ =>
            within_pure _
    unfold Proposing
    rw [accepts.runIn_signup]
    exact rest
  · unfold Proposing
    rw [run]
    exact .inl rfl

/-- Approving a signup proposes its credentials. -/
theorem proposing_approveSignup (apart : d.FilesApart) (id : String) :
    Proposing d w (Proposes d w (.approveSignup id)) (approveSignup d id) := by
  unfold Proposing
  cases queued : w.tables.pendingSignup id with
  | error e =>
    rw [runIn_approveSignup_of_missing queued]
    exact .inl rfl
  | ok s =>
    rw [runIn_approveSignup queued]
    rcases upsert_cases w.files d.usersFile s.credential with
      ⟨t, -, written, all, read, printed⟩ | ⟨e, t, failed, kept⟩
    · have noted : Within d [.metadata, .effects] (do
          setApproved d s.username true
          emit .restart) :=
        within_noteApproval (fun _ => apart) s.username (by decide) (by decide)
      rw [written]
      exact .inr ⟨s.credential, .approveSignup queued, all, read,
        (Storage.FileTree.look_congr (noted _ .usersFile (by decide))).trans printed⟩
    · rw [failed]
      exact .inl kept

/-- Turning two-factor login off. -/
theorem proposing_disableTotp (username password : String) :
    Proposing d w (Proposes d w (.disableTotp username password))
      (disableTotp d username password) := by
  refine proposing_bind [] (within_requireUser username) (by decide) ?_
  intro c w₁ asked
  obtain ⟨found, rfl⟩ := requireUser_eq_ok asked
  split
  · exact (within_refuse _ : Within d [] _).proposing (by decide)
  · exact proposing_bind_within [.effects] (proposing_upsertUser (.disableTotp found))
      (fun _ => within_emit _ (by decide)) (by decide)

/-- Turning two-factor login on anew. -/
theorem proposing_recoverTotp (username key secret code : String) :
    Proposing d w (Proposes d w (.recoverTotp username key secret code))
      (recoverTotp d username key secret code) := by
  unfold recoverTotp
  split
  · exact (within_refuse _ : Within d [] _).proposing (by decide)
  · exact proposing_enableTotp fun c found verified => .recoverTotp verified found

end Account

open AccountSidecar.Action Account in
/-- An operation keeps the users file or puts credentials into it that it proposes. -/
theorem Operation.perform_proposing {d : Deployment} (apart : d.FilesApart) (op : Operation)
    (w : World) : Proposing d w (Proposes d w op) (op.perform d) := by
  have done {a : Action Unit} (inner : Proposing d w (Proposes d w op) a) :
      Proposing d w (Proposes d w op) (do a; pure Reply.done) :=
    proposing_bind_within [] inner (fun _ => within_pure _) (by decide)
  cases op with
  | resetPassword t p => exact done (proposing_resetPassword t p)
  | signup u e p ph => exact proposing_map (proposing_signup apart u e p ph)
  | approveSignup id => exact done (proposing_approveSignup apart id)
  | changePassword u o n => exact done (proposing_changePassword u o n)
  | enableTotp u s c =>
    exact done (proposing_enableTotp fun c found verified => .enableTotp verified found)
  | disableTotp u p => exact done (proposing_disableTotp u p)
  | recoverTotp u k s c => exact done (proposing_recoverTotp u k s c)
  | resetPasswordSms p c n => exact done (proposing_resetPasswordSms p c n)
  | _ => exact (perform_within apart _).proposing (by simp [footprint])

end AccountSidecar
