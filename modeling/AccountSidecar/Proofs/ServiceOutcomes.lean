import AccountSidecar.Account.Signup
import AccountSidecar.Account.SmsReset
import AccountSidecar.Account.TwoFactor
import AccountSidecar.Proofs.Outcomes
import AccountSidecar.Proofs.SymbolCapacity

/-!
# Outcomes of the service

Where the users file holds text, the metadata file has a name, salts are ones and every collaborator
works, an operation of the service ends in its value or in an error that a store or the account
service reports (`Action.Reports`). Preparing two-factor login alone may fail otherwise, for the
length of the address that it shows (`Account.runIn_setupTotp`).
-/

namespace AccountSidecar

open AccountSidecar.Action

variable {α β : Type} {good : α → Prop} {d : Deployment}

/-- Whether an action ends in a good value or in a reported failure, where the users file holds text
and every collaborator works. -/
def Action.Reports (d : Deployment) (good : α → Prop) (a : Action α) : Prop :=
  Yields (World.Sound d []) good (fun e => e.isReported = true) a

namespace Action.Reports

/-- A good value is reported on. -/
theorem pure {x : α} (holds : good x) : Reports d good (pure x) := yields_pure holds

/-- A reported failure is reported. -/
theorem throw {e : Failure} (reported : e.isReported = true) :
    Reports d good (throw e : Action α) := yields_throw reported

/-- Actions one after another report what goes wrong in both. -/
theorem bind {a : Action α} {f : α → Action β} {good' : β → Prop} (first : Reports d good a)
    (second : ∀ x, good x → Reports d good' (f x)) : Reports d good' (a >>= f) :=
  yields_bind first second

/-- An action that fails with nothing but errors of the users file reports them. -/
theorem of_users {a : Action α}
    (own : Yields (World.Sound d []) good Failure.IsOfUsers a) : Reports d good a :=
  own.mono (fun _ => id) fun _ => Failure.IsOfUsers.isReported

/-- An action that fails with nothing but errors of the metadata store reports them. -/
theorem of_metadata {a : Action α}
    (own : Yields (World.Sound d []) good Failure.IsOfMetadata a) : Reports d good a :=
  own.mono (fun _ => id) fun _ => Failure.IsOfMetadata.isReported

/-- An action for its changes alone is followed by a value. -/
theorem replied {a : Action Unit} (acts : Reports d (fun _ => True) a) {x : α} (holds : good x) :
    Reports d good (do a; Pure.pure x) :=
  acts.bind fun _ _ => .pure holds

end Action.Reports

namespace Account

/-- A password that passes the check is not too long, and one that does not is reported. -/
theorem reports_checkNewPassword (password : String) :
    Reports d (fun _ => Password.isTooLong password = false) (checkNewPassword password) := by
  unfold checkNewPassword
  cases fault : newPasswordFault? password with
  | some e => exact .throw rfl
  | none => exact .pure (not_isTooLong_of_taken fault)

/-- A password is announced where both collaborators work. -/
theorem reports_announcePassword (username password hash : String) :
    Reports d (fun _ => True) (announcePassword username password hash) :=
  yields_bind (yields_emit _) fun _ _ => yields_emit _

/-- The request of a reset reports what goes wrong with the users file. -/
theorem reports_requestPasswordReset (username : String) :
    Reports d (fun _ => True) (requestPasswordReset d username) := by
  refine (Reports.of_users (yields_findUser username)).bind fun found _ => ?_
  cases found with
  | none => exact .pure trivial
  | some c =>
    refine yields_bind yields_drawIdentifier fun token _ => yields_bind yields_now fun time _ => ?_
    exact yields_bind (yields_changeTables _) fun _ _ => yields_emit _

/-- The claim of a token that is no good is reported. -/
theorem reports_claimResetToken (token : String) :
    Reports d (fun _ => True) (claimResetToken token) := by
  refine yields_bind yields_get fun w _ => yields_bind yields_now fun time _ => ?_
  refine yields_bind (yields_ofCheck _) fun claimed _ => ?_
  exact yields_bind (yields_changeTables _) fun _ _ => yields_pure trivial

section Passwords

variable (salts : ∀ n, (Password.Salt.parse? (d.sources.salt n)).isSome)
include salts

/-- Setting a password hashes one that is not too long. -/
theorem reports_setPassword (c : Users.Credential) (password : String) :
    Reports d (fun _ => True) (setPassword d c password) := by
  refine (reports_checkNewPassword password).bind fun _ fits => ?_
  refine yields_bind (yields_hashPassword salts fits) fun hash _ => ?_
  refine (Reports.of_users (yields_upsertUser _)).bind fun _ _ => ?_
  exact reports_announcePassword c.username password hash

/-- Setting the password of a user reports that there is no such user. -/
theorem reports_setPasswordOf (username password : String) :
    Reports d (fun _ => True) (setPasswordOf d username password) :=
  yields_bind (yields_requireUser username) fun c _ => reports_setPassword salts c password

/-- A reset that fails after its claim fails with the same error. -/
theorem reports_resetPassword (token password : String) :
    Reports d (fun _ => True) (resetPassword d token password) := by
  refine (reports_checkNewPassword password).bind fun _ _ => ?_
  refine (reports_claimResetToken token).bind fun username _ => ?_
  refine yields_tryCatch (reports_setPasswordOf salts username password) fun e reported => ?_
  exact yields_bind (yields_changeTables _) fun _ _ => yields_throw reported

/-- A change of the password reports that the old one is wrong. -/
theorem reports_changePassword (username oldPassword newPassword : String) :
    Reports d (fun _ => True) (changePassword d username oldPassword newPassword) := by
  refine yields_bind (yields_requireUser username) fun c _ => ?_
  split
  · exact yields_throw rfl
  · exact reports_setPassword salts c newPassword

/-- A reset with a code reports that the code is no good. -/
theorem reports_resetPasswordSms (phone code password : String) :
    Reports d (fun _ => True) (resetPasswordSms d phone code password) := by
  refine (reports_checkNewPassword password).bind fun _ _ => ?_
  have consumed : Reports d (fun _ => True) (consumeSmsCode phone code) := by
    refine yields_bind (yields_ownerOfPhone phone) fun username _ => ?_
    refine yields_bind yields_get fun w _ => yields_bind yields_now fun time _ => ?_
    refine yields_bind (yields_ofCheck _) fun tables _ => ?_
    exact yields_bind (yields_changeTables _) fun _ _ => yields_pure trivial
  exact consumed.bind fun username _ => reports_setPasswordOf salts username password

end Passwords

/-- The request of a code reports that text messages are off or that none could be sent. -/
theorem reports_requestSmsReset (phone : String) :
    Reports d (fun _ => True) (requestSmsReset d phone) := by
  unfold requestSmsReset
  split
  · exact .throw rfl
  · refine yields_bind (yields_ownerOfPhone phone) fun username _ => ?_
    split
    · exact yields_pure trivial
    · refine yields_bind (yields_drawCode smsCodeLength) fun code _ => ?_
      refine yields_bind yields_now fun time _ => yields_bind yields_drawIdentifier fun id _ => ?_
      refine yields_bind (yields_changeTables _) fun _ _ => ?_
      have sent : Reports d (fun _ => True) (emit (.textMessage phone (smsCodeMessage code))) :=
        yields_emit _
      exact yields_tryCatch sent fun _ _ => yields_throw rfl

section Metadata

variable (named : d.metadataFile ≠ [])
include named

/-- Setting a phone reports what goes wrong with the metadata. -/
theorem reports_setPhone (username phone : String) :
    Reports d (fun _ => True) (Action.setPhone d username phone) :=
  yields_bind (yields_metadataOf username) fun _ _ =>
    Reports.of_metadata (yields_commitMetadata named username _)

/-- Marking a user approved reports what goes wrong with the metadata. -/
theorem reports_setApproved (username : String) (approved : Bool) :
    Reports d (fun _ => True) (Action.setApproved d username approved) :=
  yields_bind (yields_metadataOf username) fun _ _ =>
    Reports.of_metadata (yields_commitMetadata named username _)

/-- Storing the phone of a signup passes reported faults over or hands them on. -/
theorem reports_stashPhone (username phone : String) :
    Reports d (fun _ => True) (stashPhone d username phone) := by
  unfold stashPhone
  split
  · exact .pure trivial
  · refine yields_tryCatch (reports_setPhone named username phone) fun e reported => ?_
    cases e with
    | metadata m =>
      dsimp only
      split
      · exact yields_pure trivial
      · exact yields_throw reported
    | _ => exact yields_throw reported

/-- Queueing a signup reports what goes wrong with its phone. -/
theorem reports_queueSignup (username email hash phone : String) :
    Reports d (fun _ => True) (queueSignup d username email hash phone) := by
  refine yields_bind yields_drawIdentifier fun id _ => yields_bind yields_now fun time _ => ?_
  refine yields_bind (yields_changeTables _) fun _ _ => ?_
  exact (reports_stashPhone named username phone).replied trivial

/-- Creating an account reports what goes wrong with the users file. -/
theorem reports_createAccount (username password hash phone : String) :
    Reports d (fun _ => True) (createAccount d username password hash phone) := by
  refine (Reports.of_users (yields_upsertUser _)).bind fun _ _ => ?_
  refine (reports_stashPhone named username phone).bind fun _ _ => ?_
  exact (reports_announcePassword username password hash).replied trivial

/-- A signup reports what is wrong with its fields, and that the user exists. -/
theorem reports_signup (salts : ∀ n, (Password.Salt.parse? (d.sources.salt n)).isSome)
    (username email password phone : String) :
    Reports d (fun _ => True) (signup d username email password phone) := by
  unfold signup
  split
  · exact .throw rfl
  split
  · exact .throw rfl
  refine (reports_checkNewPassword password).bind fun _ fits => ?_
  refine (Reports.of_users (yields_findUser username)).bind fun found _ => ?_
  split
  · exact .throw rfl
  refine yields_bind (yields_hashPassword salts fits) fun hash _ => ?_
  split
  · exact reports_queueSignup named username email hash phone
  · exact reports_createAccount named username password hash phone

/-- An approval reports that nothing is queued, and what goes wrong with both files. -/
theorem reports_approveSignup (id : String) :
    Reports d (fun _ => True) (approveSignup d id) := by
  refine yields_bind yields_get fun w _ => yields_bind (yields_ofCheck _) fun s _ => ?_
  refine (Reports.of_users (yields_upsertUser _)).bind fun _ _ => ?_
  refine yields_bind (yields_changeTables _) fun _ _ => ?_
  exact (reports_setApproved named s.username true).bind fun _ _ => yields_emit _

end Metadata

/-- A profile reports that there is no such user. -/
theorem reports_profile (username : String) :
    Reports d (fun _ => True) (profile d username) :=
  yields_bind (yields_requireUser username) fun _ _ =>
    yields_bind (yields_metadataOf username) fun _ _ => yields_pure trivial

/-- Turning two-factor login on reports that the code is wrong. -/
theorem reports_enableTotp (username secret code : String) :
    Reports d (fun _ => True) (enableTotp d username secret code) := by
  refine yields_bind yields_now fun time _ => ?_
  split
  · exact yields_throw rfl
  · refine yields_bind (yields_requireUser username) fun c _ => ?_
    exact (Reports.of_users (yields_upsertUser _)).bind fun _ _ => yields_emit _

/-- Turning two-factor login off reports that the password is wrong. -/
theorem reports_disableTotp (username password : String) :
    Reports d (fun _ => True) (disableTotp d username password) := by
  refine yields_bind (yields_requireUser username) fun c _ => ?_
  split
  · exact yields_throw rfl
  · exact (Reports.of_users (yields_upsertUser _)).bind fun _ _ => yields_emit _

/-- Recovering two-factor login reports that the key is wrong. -/
theorem reports_recoverTotp (username key secret code : String) :
    Reports d (fun _ => True) (recoverTotp d username key secret code) := by
  unfold recoverTotp
  split
  · exact .throw rfl
  · exact reports_enableTotp username secret code

/-- With secrets that codes can be computed from, preparing two-factor login draws one, and fails
for the length of the address if at all. -/
theorem runIn_setupTotp (keys : ∀ n, ∃ key, Totp.keyOf (d.sources.totpSecret n) = .ok key)
    (username : String) (w : World) :
    (setupTotp d username).runIn w =
      ((Totp.setupWith (d.sources.totpSecret w.drawn.totpSecrets) username d.issuer).mapError
          fun _ => .tooLongForQr,
        { w with drawn := { w.drawn with totpSecrets := w.drawn.totpSecrets + 1 } }) := by
  obtain ⟨key, keyed⟩ := keys w.drawn.totpSecrets
  unfold setupTotp
  have drawn : (drawTotpSecret d).runIn w = (.ok (d.sources.totpSecret w.drawn.totpSecrets),
      { w with drawn := { w.drawn with totpSecrets := w.drawn.totpSecrets + 1 } }) := rfl
  rw [runIn_bind_ok drawn]
  rcases Totp.setupWith_cases keyed username d.issuer with ⟨s, prepared⟩ | tooLong
  · rw [prepared]
    rfl
  · rw [tooLong]
    rfl

end Account

end AccountSidecar
