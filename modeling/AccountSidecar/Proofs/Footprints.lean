import AccountSidecar.Account.Operation
import AccountSidecar.Proofs.Running
import AccountSidecar.Proofs.Tables

/-!
# Footprints

Which parts of the world an operation may change. An action works `Within` a list of parts if
whatever it comes to, failure included, all other parts are as before; the rules for the ways to
join actions reduce that to the elementary ones. `Operation.footprint` lists the parts for each
operation, and `Operation.perform_within` is the frame rule: no operation reads the clock into
anything else, repairs a collaborator or touches a table that is not its own.
-/

namespace AccountSidecar

/-- Whether writing the metadata leaves the users file alone. -/
structure Deployment.FilesApart (d : Deployment) : Prop where
  distinct : d.usersFile ≠ d.metadataFile
  /-- The users file is neither the temporary metadata file nor below it. -/
  beside : ¬ d.metadataFile.temporary <+: d.usersFile

/-- The files of the sample are apart. -/
theorem Deployment.sample_filesApart (requireApproval : Bool) :
    (sample requireApproval).FilesApart where
  distinct := (by decide : ["users"] ≠ ["metadata"])
  beside := (by decide : ¬ Storage.Location.temporary ["metadata"] <+: ["users"])

/-- The parts of the world that operations share. -/
inductive Part where
  | usersFile
  | metadata
  | sessions
  | resetTokens
  | signups
  | smsCodes
  | identifiers
  | effects
  | clock
  | failing
  deriving DecidableEq

/-- Whether a part is the same in two worlds. -/
def Part.Same (d : Deployment) (w w' : World) : Part → Prop
  | .usersFile => w'.files.place d.usersFile = w.files.place d.usersFile
  | .metadata => w'.metadata = w.metadata
  | .sessions => w'.tables.sessions = w.tables.sessions
  | .resetTokens => w'.tables.resetTokens = w.tables.resetTokens
  | .signups => w'.tables.signups = w.tables.signups
  | .smsCodes => w'.tables.smsCodes = w.tables.smsCodes
  | .identifiers => w'.drawn.identifiers = w.drawn.identifiers
  | .effects => w'.effects = w.effects
  | .clock => w'.clock = w.clock
  | .failing => w'.failing = w.failing

/-- A part is the same as itself. -/
theorem Part.Same.refl (d : Deployment) (w : World) (p : Part) : p.Same d w w := by
  cases p <;> exact rfl

/-- What stays the same twice stays the same. -/
theorem Part.Same.trans {d : Deployment} {w w' w'' : World} {p : Part} (first : p.Same d w w')
    (second : p.Same d w' w'') : p.Same d w w'' := by
  cases p <;> exact Eq.trans second first

namespace Action

variable {α β : Type} {d : Deployment} {parts : List Part}

/-- Whether an action leaves all parts outside a list as they are. -/
def Within (d : Deployment) (parts : List Part) (a : Action α) : Prop :=
  ∀ w, ∀ p ∉ parts, p.Same d w (a.runIn w).2

/-- An action that works outside the tables keeps them. -/
theorem Within.tables {a : Action α} (inner : Within d parts a)
    (outside : ∀ p ∈ [Part.sessions, .resetTokens, .signups, .smsCodes], p ∉ parts) (w : World) :
    (a.runIn w).2.tables = w.tables := by
  have sessions := inner w .sessions (outside _ (by decide))
  have resetTokens := inner w .resetTokens (outside _ (by decide))
  have signups := inner w .signups (outside _ (by decide))
  have smsCodes := inner w .smsCodes (outside _ (by decide))
  exact State.Tables.eq_of_parts sessions resetTokens signups smsCodes

/-- An action that changes nothing works within any parts. -/
theorem within_of_unchanged {a : Action α} (unchanged : ∀ w, (a.runIn w).2 = w) :
    Within d parts a := by
  intro w p _
  rw [unchanged w]
  exact Part.Same.refl d w p

/-- A value leaves all parts as they are. -/
theorem within_pure (x : α) : Within d parts (pure x) := within_of_unchanged fun _ => rfl

/-- Failing leaves all parts as they are. -/
theorem within_throw (e : Failure) : Within d parts (throw e : Action α) :=
  within_of_unchanged fun _ => rfl

/-- Looking at the world leaves all parts as they are. -/
theorem within_get : Within d parts (get : Action World) := within_of_unchanged fun _ => rfl

/-- Looking at the clock leaves all parts as they are. -/
theorem within_now : Within d parts now := within_of_unchanged fun _ => rfl

/-- Refusing with the usual message leaves all parts as they are. -/
theorem within_refuse (kind : AccountErrorKind) : Within d parts (refuse kind : Action α) :=
  within_throw _

/-- Refusing with a message leaves all parts as they are. -/
theorem within_refuseSaying (kind : AccountErrorKind) (message : String) :
    Within d parts (refuseSaying kind message : Action α) := within_throw _

/-- Actions one after another work within the parts of both. -/
theorem within_bind {a : Action α} {f : α → Action β} (first : Within d parts a)
    (second : ∀ x, Within d parts (f x)) : Within d parts (a >>= f) := by
  intro w p outside
  exact related_bind (R := fun w w' => p.Same d w w') Part.Same.trans (first w p outside)
    fun x w' => second x w' p outside

/-- A function of the value works within the same parts. -/
theorem within_map {g : α → β} {a : Action α} (inner : Within d parts a) :
    Within d parts (g <$> a) := by
  intro w p outside
  rw [runIn_map]
  exact inner w p outside

/-- An action and its handler work within the parts of both. -/
theorem within_tryCatch {a : Action α} {handler : Failure → Action α} (inner : Within d parts a)
    (outer : ∀ e, Within d parts (handler e)) : Within d parts (tryCatch a handler) := by
  intro w p outside
  exact related_tryCatch (R := fun w w' => p.Same d w w') Part.Same.trans (inner w p outside)
    fun e w' => outer e w' p outside

/-- A check leaves all parts as they are, whether it passes or not. -/
theorem within_ofCheck (check : Except AccountError α) : Within d parts (ofCheck check) :=
  within_of_unchanged fun w => by rw [runIn_ofCheck]

/-- Looking for a user leaves all parts as they are. -/
theorem within_findUser (username : String) : Within d parts (findUser d username) :=
  within_of_unchanged fun w => by rw [runIn_findUser]

/-- Looking up a user who must exist leaves all parts as they are. -/
theorem within_requireUser (username : String) : Within d parts (requireUser d username) :=
  within_of_unchanged fun w => by
    rcases requireUser_cases d username w with ⟨c, -, run⟩ | ⟨e, -, run⟩ <;> rw [run]

/-- Looking up metadata leaves all parts as they are. -/
theorem within_metadataOf (username : String) : Within d parts (metadataOf username) :=
  within_of_unchanged fun _ => rfl

/-- Looking for the owner of a phone leaves all parts as they are. -/
theorem within_ownerOfPhone (phone : String) : Within d parts (ownerOfPhone phone) :=
  within_of_unchanged fun _ => rfl

/-- A change of the tables works within the tables that it changes. -/
theorem within_changeTables {f : State.Tables → State.Tables}
    (kept : ∀ t, (.sessions ∉ parts → (f t).sessions = t.sessions) ∧
      (.resetTokens ∉ parts → (f t).resetTokens = t.resetTokens) ∧
      (.signups ∉ parts → (f t).signups = t.signups) ∧
      (.smsCodes ∉ parts → (f t).smsCodes = t.smsCodes)) :
    Within d parts (changeTables f) := by
  intro w p outside
  obtain ⟨sessions, resetTokens, signups, smsCodes⟩ := kept w.tables
  cases p with
  | sessions => exact sessions outside
  | resetTokens => exact resetTokens outside
  | signups => exact signups outside
  | smsCodes => exact smsCodes outside
  | _ => exact rfl

/-- Writing credentials works within the users file. -/
theorem within_upsertUser (c : Users.Credential) (users : .usersFile ∈ parts) :
    Within d parts (upsertUser d c) := by
  intro w p outside
  rw [runIn_upsertUser]
  cases p with
  | usersFile => exact absurd users outside
  | _ => exact rfl

/-- Writing metadata works within the metadata, as far as the users file is apart from it. -/
theorem within_commitMetadata (apart : .usersFile ∉ parts → d.FilesApart) (username : String)
    (e : Metadata.Entry) (metadata : .metadata ∈ parts) :
    Within d parts (commitMetadata d username e) := by
  intro w p outside
  have beside (users : .usersFile ∉ parts) := Metadata.commit_kept w.files
    (Keyed.put username e w.metadata) (apart users).distinct (apart users).beside
  rw [runIn_commitMetadata]
  rcases step : Metadata.commit w.files d.metadataFile (Keyed.put username e w.metadata) with
    ⟨_ | ⟨⟩, files⟩ <;> rw [step] at beside <;>
    cases p with
    | usersFile => exact beside outside
    | metadata => exact absurd metadata outside
    | _ => exact rfl

/-- Drawing an identifier works within the identifiers. -/
theorem within_drawIdentifier (identifiers : .identifiers ∈ parts) :
    Within d parts (drawIdentifier d) := by
  intro w p outside
  cases p with
  | identifiers => exact absurd identifiers outside
  | _ => exact rfl

/-- Drawing a session token leaves all parts as they are: the count of drawn values belongs to none.
-/
theorem within_drawSessionToken : Within d parts (drawSessionToken d) := by
  intro w p _
  cases p <;> exact rfl

/-- Drawing a secret leaves all parts as they are. -/
theorem within_drawTotpSecret : Within d parts (drawTotpSecret d) := by
  intro w p _
  cases p <;> exact rfl

/-- Drawing a code leaves all parts as they are. -/
theorem within_drawCode (length : Nat) : Within d parts (drawCode d length) := by
  intro w p _
  cases p <;> exact rfl

/-- Hashing a password leaves all parts as they are, also where it fails. -/
theorem within_hashPassword (password : String) : Within d parts (hashPassword d password) := by
  intro w p _
  rw [runIn_hashPassword]
  cases p <;> exact rfl

/-- A call on a collaborator works within the effects. -/
theorem within_emit (e : Effect) (effects : .effects ∈ parts) : Within d parts (emit e) := by
  intro w p outside
  rw [runIn_emit]
  split
  · exact Part.Same.refl d w p
  · cases p with
    | effects => exact absurd effects outside
    | _ => exact rfl

/-- A housekeeping run works within the tables whose records expire. -/
theorem within_purgeExpired (sessions : .sessions ∈ parts) (resetTokens : .resetTokens ∈ parts)
    (smsCodes : .smsCodes ∈ parts) : Within d parts purgeExpired := by
  intro w p outside
  cases p with
  | sessions => exact absurd sessions outside
  | resetTokens => exact absurd resetTokens outside
  | smsCodes => exact absurd smsCodes outside
  | _ => exact rfl

end Action

namespace Account

open AccountSidecar.Action

variable {d : Deployment} {parts : List Part}

/-- Checking a new password changes nothing. -/
theorem within_checkNewPassword (password : String) :
    Within d parts (checkNewPassword password) := by
  unfold checkNewPassword
  split
  · exact within_throw _
  · exact within_pure ()

/-- Announcing a password works within the effects. -/
theorem within_announcePassword (username password hash : String) (effects : .effects ∈ parts) :
    Within d parts (announcePassword username password hash) :=
  within_bind (within_emit _ effects) fun _ => within_emit _ effects

/-- Setting a password works within the users file and the effects. -/
theorem within_setPassword (c : Users.Credential) (password : String)
    (users : .usersFile ∈ parts) (effects : .effects ∈ parts) :
    Within d parts (setPassword d c password) :=
  within_bind (within_checkNewPassword password) fun _ =>
    within_bind (within_hashPassword password) fun hash =>
      within_bind (within_upsertUser _ users) fun _ => within_announcePassword _ _ hash effects

/-- Setting the password of a user works within the users file and the effects. -/
theorem within_setPasswordOf (username password : String) (users : .usersFile ∈ parts)
    (effects : .effects ∈ parts) : Within d parts (setPasswordOf d username password) :=
  within_bind (within_requireUser username) fun c => within_setPassword c password users effects

/-- Setting a phone works within the metadata. -/
theorem within_setPhone (apart : .usersFile ∉ parts → d.FilesApart) (username phone : String)
    (metadata : .metadata ∈ parts) : Within d parts (setPhone d username phone) :=
  within_bind (within_metadataOf username) fun _ => within_commitMetadata apart _ _ metadata

/-- Setting the approval works within the metadata. -/
theorem within_setApproved (apart : .usersFile ∉ parts → d.FilesApart) (username : String)
    (approved : Bool) (metadata : .metadata ∈ parts) :
    Within d parts (setApproved d username approved) :=
  within_bind (within_metadataOf username) fun _ => within_commitMetadata apart _ _ metadata

/-- Storing the phone of a signup works within the metadata. -/
theorem within_stashPhone (apart : .usersFile ∉ parts → d.FilesApart) (username phone : String)
    (metadata : .metadata ∈ parts) : Within d parts (stashPhone d username phone) := by
  unfold stashPhone
  split
  · exact within_pure ()
  · refine within_tryCatch (within_setPhone apart username phone metadata) fun e => ?_
    split
    · split
      · exact within_pure ()
      · exact within_throw _
    · exact within_throw _

/-- Turning two-factor login on works within the users file and the effects. -/
theorem within_enableTotp (username secret code : String) (users : .usersFile ∈ parts)
    (effects : .effects ∈ parts) : Within d parts (enableTotp d username secret code) := by
  refine within_bind within_now fun time => ?_
  split
  · exact within_refuse _
  · exact within_bind (within_requireUser username) fun _ =>
      within_bind (within_upsertUser _ users) fun _ => within_emit _ effects

/-- Asking for a reset works within the reset tokens, the identifiers and the effects. -/
theorem within_requestPasswordReset (username : String) (resetTokens : .resetTokens ∈ parts)
    (identifiers : .identifiers ∈ parts) (effects : .effects ∈ parts) :
    Within d parts (requestPasswordReset d username) := by
  refine within_bind (within_findUser username) fun c => ?_
  split
  · exact within_pure ()
  · refine within_bind (within_drawIdentifier identifiers) fun token => ?_
    refine within_bind within_now fun time => ?_
    refine within_bind ?_ fun _ => within_emit _ effects
    exact within_changeTables (by simp [State.Tables.createResetToken, resetTokens])

/-- Claiming a token works within the reset tokens. -/
theorem within_claimResetToken (token : String) (resetTokens : .resetTokens ∈ parts) :
    Within d parts (claimResetToken token) := by
  intro w p outside
  simp only [claimResetToken, runIn_bind, runIn_get, runIn_now, runIn_ofCheck]
  cases claimed : w.tables.claimResetToken token w.clock with
  | error e => exact Part.Same.refl d w p
  | ok claim =>
    obtain ⟨username, t⟩ := claim
    obtain ⟨r, -, -, -, -, rfl⟩ := State.Tables.claimResetToken_eq_ok claimed
    cases p with
    | resetTokens => exact absurd resetTokens outside
    | _ => exact rfl

/-- Resetting a password works within the users file, the reset tokens and the effects. -/
theorem within_resetPassword (token password : String) (users : .usersFile ∈ parts)
    (resetTokens : .resetTokens ∈ parts) (effects : .effects ∈ parts) :
    Within d parts (resetPassword d token password) := by
  refine within_bind (within_checkNewPassword password) fun _ => ?_
  refine within_bind (within_claimResetToken token resetTokens) fun username => ?_
  refine within_tryCatch (within_setPasswordOf username password users effects) fun e => ?_
  refine within_bind ?_ fun _ => within_throw e
  exact within_changeTables
    (by simp [State.Tables.releaseResetToken, State.Tables.setResetTokenUsed, resetTokens])

/-- Changing a password works within the users file and the effects. -/
theorem within_changePassword (username oldPassword newPassword : String)
    (users : .usersFile ∈ parts) (effects : .effects ∈ parts) :
    Within d parts (changePassword d username oldPassword newPassword) := by
  refine within_bind (within_requireUser username) fun c => ?_
  split
  · exact within_refuseSaying _ _
  · exact within_setPassword c newPassword users effects

/-- Queueing a signup works within the signups, the identifiers and the metadata. -/
theorem within_queueSignup (apart : .usersFile ∉ parts → d.FilesApart)
    (username email hash phone : String) (signups : .signups ∈ parts)
    (identifiers : .identifiers ∈ parts) (metadata : .metadata ∈ parts) :
    Within d parts (queueSignup d username email hash phone) := by
  refine within_bind (within_drawIdentifier identifiers) fun id => ?_
  refine within_bind within_now fun time => ?_
  refine within_bind ?_ fun _ =>
    within_bind (within_stashPhone apart username phone metadata) fun _ => within_pure _
  exact within_changeTables (by simp [State.Tables.createPendingSignup, signups])

/-- Creating an account works within the users file, the metadata and the effects. -/
theorem within_createAccount (username password hash phone : String)
    (users : .usersFile ∈ parts) (metadata : .metadata ∈ parts) (effects : .effects ∈ parts) :
    Within d parts (createAccount d username password hash phone) :=
  within_bind (within_upsertUser _ users) fun _ =>
    within_bind (within_stashPhone (absurd users) username phone metadata) fun _ =>
      within_bind (within_announcePassword username password hash effects) fun _ => within_pure _

/-- A signup works within the parts of creating an account and of queueing. -/
theorem within_signup (username email password phone : String)
    (users : .usersFile ∈ parts) (metadata : .metadata ∈ parts) (signups : .signups ∈ parts)
    (identifiers : .identifiers ∈ parts) (effects : .effects ∈ parts) :
    Within d parts (signup d username email password phone) := by
  unfold signup
  split
  · exact within_refuse _
  · split
    · exact within_refuseSaying _ _
    · refine within_bind (within_checkNewPassword password) fun _ => ?_
      refine within_bind (within_findUser username) fun found => ?_
      split
      · exact within_refuse _
      · refine within_bind (within_hashPassword password) fun hash => ?_
        split
        · exact within_queueSignup (absurd users) username email hash phone signups identifiers
            metadata
        · exact within_createAccount username password hash phone users metadata effects

/-- Noting an approval and restarting works within the metadata and the effects. -/
theorem within_noteApproval (apart : .usersFile ∉ parts → d.FilesApart) (username : String)
    (metadata : .metadata ∈ parts) (effects : .effects ∈ parts) :
    Within d parts (do setApproved d username true; emit .restart) :=
  within_bind (within_setApproved apart username true metadata) fun _ => within_emit _ effects

/-- Approving a signup works within the users file, the signups, the metadata and the effects. -/
theorem within_approveSignup (id : String) (users : .usersFile ∈ parts)
    (metadata : .metadata ∈ parts) (signups : .signups ∈ parts) (effects : .effects ∈ parts) :
    Within d parts (approveSignup d id) := by
  refine within_bind within_get fun w => within_bind (within_ofCheck _) fun s => ?_
  refine within_bind (within_upsertUser _ users) fun _ => ?_
  refine within_bind ?_ fun _ => within_noteApproval (absurd users) s.username metadata effects
  exact within_changeTables (by simp [State.Tables.approvePendingSignup, signups])

/-- Turning two-factor login off works within the users file and the effects. -/
theorem within_disableTotp (username password : String) (users : .usersFile ∈ parts)
    (effects : .effects ∈ parts) : Within d parts (disableTotp d username password) := by
  refine within_bind (within_requireUser username) fun c => ?_
  split
  · exact within_refuse _
  · exact within_bind (within_upsertUser _ users) fun _ => within_emit _ effects

/-- Turning two-factor login on anew works within the users file and the effects. -/
theorem within_recoverTotp (username key secret code : String) (users : .usersFile ∈ parts)
    (effects : .effects ∈ parts) : Within d parts (recoverTotp d username key secret code) := by
  unfold recoverTotp
  split
  · exact within_refuse _
  · exact within_enableTotp username secret code users effects

/-- Preparing two-factor login changes no shared part. -/
theorem within_setupTotp (username : String) : Within d parts (setupTotp d username) := by
  refine within_bind within_drawTotpSecret fun secret => ?_
  split
  · exact within_pure _
  · exact within_throw _
  · exact within_throw _
  · exact within_throw _

/-- Asking for a code works within the codes, the identifiers and the effects. -/
theorem within_requestSmsReset (phone : String) (smsCodes : .smsCodes ∈ parts)
    (identifiers : .identifiers ∈ parts) (effects : .effects ∈ parts) :
    Within d parts (requestSmsReset d phone) := by
  unfold requestSmsReset
  split
  · exact within_refuse _
  · refine within_bind (within_ownerOfPhone phone) fun username => ?_
    split
    · exact within_pure ()
    · refine within_bind (within_drawCode smsCodeLength) fun code => ?_
      refine within_bind within_now fun time => ?_
      refine within_bind (within_drawIdentifier identifiers) fun id => ?_
      refine within_bind ?_ fun _ =>
        within_tryCatch (within_emit _ effects) fun _ => within_refuse _
      exact within_changeTables (by simp [State.Tables.storeSmsCode, smsCodes])

/-- Using up a code works within the codes. -/
theorem within_consumeSmsCode (phone code : String) (smsCodes : .smsCodes ∈ parts) :
    Within d parts (consumeSmsCode phone code) := by
  intro w p outside
  simp only [consumeSmsCode, runIn_bind, runIn_ownerOfPhone, runIn_get, runIn_now, runIn_ofCheck]
  cases consumed : w.tables.consumeSmsCode (Metadata.ownerOfPhone phone w.metadata) code
      w.clock with
  | error e => exact Part.Same.refl d w p
  | ok t =>
    obtain ⟨id, c, -, -, -, -, -, rfl⟩ := State.Tables.consumeSmsCode_eq_ok consumed
    cases p with
    | smsCodes => exact absurd smsCodes outside
    | _ => exact rfl

/-- Resetting a password with a code works within the users file, the codes and the effects. -/
theorem within_resetPasswordSms (phone code password : String) (users : .usersFile ∈ parts)
    (smsCodes : .smsCodes ∈ parts) (effects : .effects ∈ parts) :
    Within d parts (resetPasswordSms d phone code password) :=
  within_bind (within_checkNewPassword password) fun _ =>
    within_bind (within_consumeSmsCode phone code smsCodes) fun username =>
      within_setPasswordOf username password users effects

/-- Seeing the profile changes nothing. -/
theorem within_profile (username : String) : Within d parts (profile d username) :=
  within_bind (within_requireUser username) fun _ =>
    within_bind (within_metadataOf username) fun _ => within_pure _

end Account

namespace Session

open AccountSidecar.Action

variable {d : Deployment} {parts : List Part}

/-- A login works within the sessions. -/
theorem within_login (username password : String) (sessions : .sessions ∈ parts) :
    Within d parts (login d username password) := by
  refine within_bind (within_findUser username) fun c => ?_
  split
  · exact within_refuse _
  · split
    · exact within_refuse _
    · refine within_bind within_drawSessionToken fun token => ?_
      refine within_bind within_now fun time => ?_
      refine within_bind ?_ fun _ => within_pure _
      exact within_changeTables (by simp [State.Tables.createSession, sessions])

/-- A logout works within the sessions. -/
theorem within_logout (token : String) (sessions : .sessions ∈ parts) :
    Within d parts (logout token) :=
  within_changeTables (by simp [State.Tables.deleteSession, sessions])

/-- Resolving a session works within the sessions. -/
theorem within_username (token : Option String) (sessions : .sessions ∈ parts) :
    Within d parts (Session.username token) := by
  unfold Session.username
  split
  · exact within_refuse _
  · exact within_refuse _
  · refine within_bind within_get fun w => ?_
    split
    · exact within_refuse _
    · refine within_bind within_now fun time => ?_
      split
      · exact within_bind (within_logout _ sessions) fun _ => within_refuse _
      · exact within_pure _

end Session

/-- The parts that an operation may change. -/
def Operation.footprint : Operation → List Part
  | .login .. | .logout .. | .sessionUsername .. => [.sessions]
  | .requestPasswordReset .. => [.resetTokens, .identifiers, .effects]
  | .resetPassword .. => [.usersFile, .resetTokens, .effects]
  | .signup .. => [.usersFile, .metadata, .signups, .identifiers, .effects]
  | .approveSignup .. => [.usersFile, .metadata, .signups, .effects]
  | .profile .. | .setupTotp .. | .smsEnabled => []
  | .changePassword .. | .enableTotp .. | .disableTotp .. | .recoverTotp .. =>
    [.usersFile, .effects]
  | .setPhone .. => [.metadata]
  | .requestSmsReset .. => [.smsCodes, .identifiers, .effects]
  | .resetPasswordSms .. => [.usersFile, .smsCodes, .effects]
  | .purgeExpired => [.sessions, .resetTokens, .smsCodes]

namespace Operation

open AccountSidecar.Action Account

/-- An operation works within any parts that cover its footprint, as far as the users file is
either among them or apart from the metadata. -/
theorem perform_within_of_covers {d : Deployment} {parts : List Part} {op : Operation}
    (covers : op.footprint ⊆ parts) (apart : .usersFile ∉ parts → d.FilesApart) :
    Within d parts (op.perform d) := by
  have done {a : Action Unit} (inner : Within d parts a) :
      Within d parts (do a; pure Reply.done) := within_bind inner fun _ => within_pure _
  have within {p : Part} (inside : p ∈ op.footprint) : p ∈ parts := covers inside
  cases op <;> simp only [footprint] at within <;> simp only [perform]
  case login u p => exact within_map (Session.within_login u p (within (by decide)))
  case logout t => exact done (Session.within_logout t (within (by decide)))
  case sessionUsername t => exact within_map (Session.within_username t (within (by decide)))
  case requestPasswordReset u =>
    exact done (within_requestPasswordReset u (within (by decide)) (within (by decide))
      (within (by decide)))
  case resetPassword t p =>
    exact done (within_resetPassword t p (within (by decide)) (within (by decide))
      (within (by decide)))
  case signup u e p ph =>
    exact within_map (within_signup u e p ph (within (by decide)) (within (by decide))
      (within (by decide)) (within (by decide)) (within (by decide)))
  case approveSignup id =>
    exact done (within_approveSignup id (within (by decide)) (within (by decide))
      (within (by decide)) (within (by decide)))
  case profile u => exact within_map (within_profile u)
  case changePassword u o n =>
    exact done (within_changePassword u o n (within (by decide)) (within (by decide)))
  case setPhone u p => exact done (within_setPhone apart u p (within (by decide)))
  case setupTotp u => exact within_map (within_setupTotp u)
  case enableTotp u s c =>
    exact done (within_enableTotp u s c (within (by decide)) (within (by decide)))
  case disableTotp u p =>
    exact done (within_disableTotp u p (within (by decide)) (within (by decide)))
  case recoverTotp u k s c =>
    exact done (within_recoverTotp u k s c (within (by decide)) (within (by decide)))
  case smsEnabled => exact within_pure _
  case requestSmsReset p =>
    exact done (within_requestSmsReset p (within (by decide)) (within (by decide))
      (within (by decide)))
  case resetPasswordSms p c n =>
    exact done (within_resetPasswordSms p c n (within (by decide)) (within (by decide))
      (within (by decide)))
  case purgeExpired =>
    exact within_map (within_purgeExpired (within (by decide)) (within (by decide))
      (within (by decide)))

/-- An operation works within its footprint. -/
theorem perform_within {d : Deployment} (apart : d.FilesApart) (op : Operation) :
    Within d op.footprint (op.perform d) :=
  perform_within_of_covers (List.Subset.refl _) fun _ => apart

/-- A part outside the footprint of an operation stays the same. -/
theorem same_of_not_mem {d : Deployment} (apart : d.FilesApart) {op : Operation} {p : Part}
    (outside : p ∉ op.footprint) (w : World) : p.Same d w ((op.perform d).runIn w).2 :=
  perform_within apart op w p outside

/-- Every part but the users file stays the same outside the footprint, however the files lie. -/
theorem same_of_not_mem_of_ne {d : Deployment} {op : Operation} {p : Part}
    (outside : p ∉ op.footprint) (other : p ≠ .usersFile) (w : World) :
    p.Same d w ((op.perform d).runIn w).2 :=
  perform_within_of_covers (List.subset_cons_self .usersFile op.footprint)
    (absurd List.mem_cons_self) w p fun inside => (List.mem_cons.mp inside).elim other outside

end Operation

end AccountSidecar
