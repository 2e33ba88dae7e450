import AccountSidecar.Proofs.Signups

/-!
# Actions that ignore the tables

An action ignores the tables if it comes to the same with any others in their place, and leaves
those as they are. Every elementary action but `get` and `changeTables` does, and so does what is
put together from such: all work on the two files and on the collaborators. Two runs whose tables
differ part only where something else is done.
-/

namespace AccountSidecar

namespace Action

variable {α β : Type} {d : Deployment}

/-- Whether an action neither looks at the tables nor changes them, nor the clock. -/
structure IgnoresTables (a : Action α) : Prop where
  run : ∀ (w : World) (t : State.Tables),
    a.runIn { w with tables := t } = ((a.runIn w).1, { (a.runIn w).2 with tables := t })
  clock : ∀ w : World, (a.runIn w).2.clock = w.clock

/-- An action that ignores the tables keeps them. -/
theorem IgnoresTables.kept {a : Action α} (ignores : IgnoresTables a) (w : World) :
    (a.runIn w).2.tables = w.tables := by
  have again := congrArg (fun r => r.2.tables) (ignores.run w w.tables)
  exact again

/-- A value ignores the tables. -/
theorem ignoresTables_pure (x : α) : IgnoresTables (pure x) := ⟨fun _ _ => rfl, fun _ => rfl⟩

/-- Failing ignores the tables. -/
theorem ignoresTables_throw (e : Failure) : IgnoresTables (throw e : Action α) :=
  ⟨fun _ _ => rfl, fun _ => rfl⟩

/-- Looking at the clock ignores the tables. -/
theorem ignoresTables_now : IgnoresTables now := ⟨fun _ _ => rfl, fun _ => rfl⟩

/-- Looking up metadata ignores the tables. -/
theorem ignoresTables_metadataOf (username : String) : IgnoresTables (metadataOf username) :=
  ⟨fun _ _ => rfl, fun _ => rfl⟩

/-- Looking for the owner of a phone ignores the tables. -/
theorem ignoresTables_ownerOfPhone (phone : String) : IgnoresTables (ownerOfPhone phone) :=
  ⟨fun _ _ => rfl, fun _ => rfl⟩

/-- Drawing a session token ignores the tables. -/
theorem ignoresTables_drawSessionToken : IgnoresTables (drawSessionToken d) :=
  ⟨fun _ _ => rfl, fun _ => rfl⟩

/-- Drawing an identifier ignores the tables. -/
theorem ignoresTables_drawIdentifier : IgnoresTables (drawIdentifier d) :=
  ⟨fun _ _ => rfl, fun _ => rfl⟩

/-- Drawing a salt ignores the tables. -/
theorem ignoresTables_drawSalt : IgnoresTables (drawSalt d) := ⟨fun _ _ => rfl, fun _ => rfl⟩

/-- Drawing a secret ignores the tables. -/
theorem ignoresTables_drawTotpSecret : IgnoresTables (drawTotpSecret d) :=
  ⟨fun _ _ => rfl, fun _ => rfl⟩

/-- Drawing a code ignores the tables. -/
theorem ignoresTables_drawCode (length : Nat) : IgnoresTables (drawCode d length) :=
  ⟨fun _ _ => rfl, fun _ => rfl⟩

/-- Actions one after another ignore the tables if each of them does. -/
theorem ignoresTables_bind {a : Action α} {f : α → Action β} (first : IgnoresTables a)
    (second : ∀ x, IgnoresTables (f x)) : IgnoresTables (a >>= f) := by
  constructor
  · intro w t
    rw [runIn_bind, runIn_bind, first.run w t]
    rcases a.runIn w with ⟨e | x, w₁⟩
    · rfl
    · exact (second x).run w₁ t
  · intro w
    exact related_bind (R := fun w w' => w'.clock = w.clock) (fun h h' => h'.trans h)
      (first.clock w) fun x => (second x).clock

/-- A function of the value looks at the tables no more than the action does. -/
theorem IgnoresTables.map {a : Action α} (inner : IgnoresTables a) (g : α → β) :
    IgnoresTables (g <$> a) := ignoresTables_bind inner fun x => ignoresTables_pure (g x)

/-- An action and its handler ignore the tables if both do. -/
theorem ignoresTables_tryCatch {a : Action α} {handler : Failure → Action α}
    (inner : IgnoresTables a) (outer : ∀ e, IgnoresTables (handler e)) :
    IgnoresTables (tryCatch a handler) := by
  constructor
  · intro w t
    rw [runIn_tryCatch, runIn_tryCatch, inner.run w t]
    rcases a.runIn w with ⟨e | x, w₁⟩
    · exact (outer e).run w₁ t
    · rfl
  · intro w
    exact related_tryCatch (R := fun w w' => w'.clock = w.clock) (fun h h' => h'.trans h)
      (inner.clock w) fun e => (outer e).clock

/-- Looking for a user reads the users file, not the tables. -/
theorem ignoresTables_findUser (username : String) : IgnoresTables (findUser d username) := by
  constructor
  · intro w t
    rw [runIn_findUser, runIn_findUser]
    rfl
  · intro w
    rw [runIn_findUser]

/-- Looking up a user who must exist reads the users file, not the tables. -/
theorem ignoresTables_requireUser (username : String) :
    IgnoresTables (requireUser d username) := by
  refine ignoresTables_bind (ignoresTables_findUser username) fun found => ?_
  split
  · exact ignoresTables_pure _
  · exact ignoresTables_throw _

/-- Writing credentials ignores the tables. -/
theorem ignoresTables_upsertUser (c : Users.Credential) : IgnoresTables (upsertUser d c) := by
  constructor
  · intro w t
    rw [runIn_upsertUser, runIn_upsertUser]
  · intro w
    rw [runIn_upsertUser]

/-- Writing metadata ignores the tables. -/
theorem ignoresTables_commitMetadata (username : String) (entry : Metadata.Entry) :
    IgnoresTables (commitMetadata d username entry) := by
  constructor
  · intro w t
    rw [runIn_commitMetadata, runIn_commitMetadata]
    dsimp only
    rcases Metadata.commit w.files d.metadataFile (Keyed.put username entry w.metadata) with
      ⟨_ | ⟨⟩, _⟩ <;> rfl
  · intro w
    rw [runIn_commitMetadata]
    split <;> rfl

/-- Hashing a password ignores the tables. -/
theorem ignoresTables_hashPassword (password : String) :
    IgnoresTables (hashPassword d password) := by
  refine ignoresTables_bind ignoresTables_drawSalt fun salt => ?_
  split
  · exact ignoresTables_pure _
  · exact ignoresTables_throw _

/-- Calling a collaborator ignores the tables, whether it works or fails. -/
theorem ignoresTables_emit (effect : Effect) : IgnoresTables (emit effect) := by
  constructor
  · intro w t
    rw [runIn_emit, runIn_emit]
    dsimp only
    split <;> rfl
  · intro w
    rw [runIn_emit]
    split <;> rfl

end Action

namespace Account

open AccountSidecar.Action

variable {d : Deployment}

/-- Checking a new password ignores the tables. -/
theorem ignoresTables_checkNewPassword (password : String) :
    IgnoresTables (checkNewPassword password) := by
  unfold checkNewPassword
  split
  · exact ignoresTables_throw _
  · exact ignoresTables_pure _

/-- Announcing a password calls collaborators alone. -/
theorem ignoresTables_announcePassword (username password hash : String) :
    IgnoresTables (announcePassword username password hash) :=
  ignoresTables_bind (ignoresTables_emit _) fun _ => ignoresTables_emit _

/-- Setting a password works on the users file and the collaborators. -/
theorem ignoresTables_setPassword (c : Users.Credential) (password : String) :
    IgnoresTables (setPassword d c password) := by
  refine ignoresTables_bind (ignoresTables_checkNewPassword password) fun _ => ?_
  refine ignoresTables_bind (ignoresTables_hashPassword password) fun hash => ?_
  refine ignoresTables_bind (ignoresTables_upsertUser _) fun _ => ?_
  exact ignoresTables_announcePassword c.username password hash

/-- Setting the password of a user works on the users file and the collaborators. -/
theorem ignoresTables_setPasswordOf (username password : String) :
    IgnoresTables (setPasswordOf d username password) :=
  ignoresTables_bind (ignoresTables_requireUser username) fun c =>
    ignoresTables_setPassword c password

/-- A change of the password works on the users file and the collaborators. -/
theorem ignoresTables_changePassword (username oldPassword newPassword : String) :
    IgnoresTables (changePassword d username oldPassword newPassword) := by
  refine ignoresTables_bind (ignoresTables_requireUser username) fun c => ?_
  split
  · exact ignoresTables_throw _
  · exact ignoresTables_setPassword c newPassword

/-- Setting a phone works on the metadata. -/
theorem ignoresTables_setPhone (username phone : String) :
    IgnoresTables (setPhone d username phone) :=
  ignoresTables_bind (ignoresTables_metadataOf username) fun _ => ignoresTables_commitMetadata _ _

/-- Marking a user approved works on the metadata. -/
theorem ignoresTables_setApproved (username : String) (approved : Bool) :
    IgnoresTables (setApproved d username approved) :=
  ignoresTables_bind (ignoresTables_metadataOf username) fun _ => ignoresTables_commitMetadata _ _

/-- Noting an approval and restarting ignores the tables. -/
theorem ignoresTables_noteApproval (username : String) :
    IgnoresTables (do setApproved d username true; emit .restart) :=
  ignoresTables_bind (ignoresTables_setApproved username true) fun _ => ignoresTables_emit _

/-- Storing the phone of a signup works on the metadata, also where it fails. -/
theorem ignoresTables_stashPhone (username phone : String) :
    IgnoresTables (stashPhone d username phone) := by
  unfold stashPhone
  split
  · exact ignoresTables_pure _
  · refine ignoresTables_tryCatch (ignoresTables_setPhone username phone) fun e => ?_
    split
    · split
      · exact ignoresTables_pure _
      · exact ignoresTables_throw _
    · exact ignoresTables_throw _

/-- Creating an account works on both files and the collaborators. -/
theorem ignoresTables_createAccount (username password hash phone : String) :
    IgnoresTables (createAccount d username password hash phone) := by
  refine ignoresTables_bind (ignoresTables_upsertUser _) fun _ => ?_
  refine ignoresTables_bind (ignoresTables_stashPhone username phone) fun _ => ?_
  refine ignoresTables_bind (ignoresTables_announcePassword username password hash) fun _ => ?_
  exact ignoresTables_pure _

/-- Turning two-factor login on works on the users file and the restart. -/
theorem ignoresTables_enableTotp (username secret code : String) :
    IgnoresTables (enableTotp d username secret code) := by
  refine ignoresTables_bind ignoresTables_now fun time => ?_
  split
  · exact ignoresTables_throw _
  · refine ignoresTables_bind (ignoresTables_requireUser username) fun c => ?_
    exact ignoresTables_bind (ignoresTables_upsertUser _) fun _ => ignoresTables_emit _

/-- Turning two-factor login off works on the users file and the restart. -/
theorem ignoresTables_disableTotp (username password : String) :
    IgnoresTables (disableTotp d username password) := by
  refine ignoresTables_bind (ignoresTables_requireUser username) fun c => ?_
  split
  · exact ignoresTables_throw _
  · exact ignoresTables_bind (ignoresTables_upsertUser _) fun _ => ignoresTables_emit _

/-- Recovering two-factor login works on the users file and the restart. -/
theorem ignoresTables_recoverTotp (username key secret code : String) :
    IgnoresTables (recoverTotp d username key secret code) := by
  unfold recoverTotp
  split
  · exact ignoresTables_throw _
  · exact ignoresTables_enableTotp username secret code

/-- Preparing two-factor login draws a secret and stores nothing. -/
theorem ignoresTables_setupTotp (username : String) : IgnoresTables (setupTotp d username) := by
  refine ignoresTables_bind ignoresTables_drawTotpSecret fun secret => ?_
  split
  · exact ignoresTables_pure _
  · exact ignoresTables_throw _
  · exact ignoresTables_throw _
  · exact ignoresTables_throw _

/-- A profile is put together from the users file and the metadata. -/
theorem ignoresTables_profile (username : String) : IgnoresTables (profile d username) := by
  refine ignoresTables_bind (ignoresTables_requireUser username) fun c => ?_
  exact ignoresTables_bind (ignoresTables_metadataOf username) fun _ => ignoresTables_pure _

/-- Sending a text message calls a collaborator alone. -/
theorem ignoresTables_sendTextMessage (phone message : String) :
    IgnoresTables (sendTextMessage phone message) :=
  ignoresTables_tryCatch (ignoresTables_emit _) fun _ => ignoresTables_throw _

end Account

namespace Operation

open AccountSidecar.Action Account

/-- Whether an operation works on the tables. -/
def worksOnTables : Operation → Bool
  | .profile .. | .changePassword .. | .setPhone .. | .setupTotp .. | .enableTotp ..
  | .disableTotp .. | .recoverTotp .. | .smsEnabled => false
  | _ => true

/-- An operation that does not work on the tables ignores them. -/
theorem perform_ignoresTables {d : Deployment} {op : Operation}
    (outside : op.worksOnTables = false) : IgnoresTables (op.perform d) := by
  have reply {a : Action Unit} (inner : IgnoresTables a) :
      IgnoresTables (do a; pure Reply.done) :=
    ignoresTables_bind inner fun _ => ignoresTables_pure _
  cases op with
  | profile u => exact (ignoresTables_profile u).map _
  | changePassword u o n => exact reply (ignoresTables_changePassword u o n)
  | setPhone u p => exact reply (ignoresTables_setPhone u p)
  | setupTotp u => exact (ignoresTables_setupTotp u).map _
  | enableTotp u s c => exact reply (ignoresTables_enableTotp u s c)
  | disableTotp u p => exact reply (ignoresTables_disableTotp u p)
  | recoverTotp u k s c => exact reply (ignoresTables_recoverTotp u k s c)
  | smsEnabled => exact ignoresTables_pure _
  | _ => cases outside

end Operation

end AccountSidecar
