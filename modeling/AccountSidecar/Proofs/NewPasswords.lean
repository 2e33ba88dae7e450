import AccountSidecar.Proofs.PasswordCheck
import AccountSidecar.Proofs.ResetTokens
import AccountSidecar.Proofs.Sessions

/-!
# Setting a new password

A password is set with the old one, with a reset token or with a code. The three ways check
different things and write in the same way (`setPassword_eq_ok`), so a call that comes to its end
means the same in all of them (`password_set_of_ended`): the hash in the users file after it was
printed and read again, the hash that a login checks against and the hash that the other systems are
told are one. This holds for every content of the users file that can be read.
-/

namespace AccountSidecar

open AccountSidecar.Action Account Users

variable {d : Deployment} {w w' : World}

/-- The new password that an operation is to set. -/
def Operation.newPassword? : Operation → Option String
  | .changePassword _ _ password | .resetPassword _ password | .resetPasswordSms _ _ password =>
    some password
  | _ => none

/-- The user whose password an operation is to set: the one who is named, the one that the token was
made for or the one that the phone belongs to. -/
def Operation.passwordUser? (w : World) : Operation → Option String
  | .changePassword username _ _ => some username
  | .resetPassword token _ => (w.tables.resetToken? token).map (·.username)
  | .resetPasswordSms phone _ _ => some (Metadata.ownerOfPhone phone w.metadata)
  | _ => none

/-- What setting a password comes to. -/
structure PasswordSet (d : Deployment) (w w' : World) (username password hash : String) : Prop where
  given : password ≠ ""
  fits : password.utf8ByteSize ≤ 72
  hashed : Password.hash? (d.sources.salt w.drawn.salts) password = some hash
  /-- The hash is in the users file, and two-factor login stays as it was. -/
  stored : ∃ c c', w.find d username = .ok (some c) ∧ w'.find d username = .ok (some c') ∧
    c'.password = hash ∧ c'.totpEnabled = c.totpEnabled
  login : ∃ token, ((Session.login d username password).runIn w').1 = .ok token
  /-- The outside world was told once, and nothing else. -/
  told : w'.effects = w.effects ++ [.restart, .sync username password hash]

/-- A new password that is taken is not empty and not too long. -/
theorem Account.bounds_of_taken {password : String} (taken : newPasswordFault? password = none) :
    password ≠ "" ∧ password.utf8ByteSize ≤ 72 := by
  constructor
  · rintro rfl
    cases taken
  · have fits := not_isTooLong_of_taken taken
    exact Nat.le_of_not_lt (of_decide_eq_false fits)

namespace Account

/-- A password that was set has reached the users file and was announced. -/
theorem setPassword_eq_ok {c : Credential} {password : String}
    (run : (setPassword d c password).runIn w = (.ok (), w')) :
    ∃ hash files, Writes d w c password hash files ∧ w'.files = files ∧
      w'.effects = w.effects ++ [.restart, .sync c.username password hash] := by
  rcases setPassword_cases d c password w with ⟨hash, files, writes⟩ | ⟨e, w₁, failed, -⟩
  · refine ⟨hash, files, writes, ?_⟩
    rw [writes.runIn_setPassword] at run
    generalize reached : ({ w with files := files, drawn := _ } : World) = w₁ at run
    by_cases working : .restarter ∉ w₁.failing ∧ .passwordSync ∉ w₁.failing
    · rw [announcePassword_of_working _ _ _ working.1 working.2] at run
      obtain rfl := (Prod.mk.inj run).2
      rw [← reached]
      exact ⟨rfl, rfl⟩
    · obtain ⟨e, w₂, failed, -⟩ := announcePassword_of_failing c.username password hash working
      rw [failed] at run
      cases run
  · rw [failed] at run
    cases run

/-- Setting the password of a user who is found means all that it should. -/
theorem passwordSet_of_setPassword {username password : String} {c : Credential}
    (found : w.find d username = .ok (some c))
    (run : (setPassword d c password).runIn w = (.ok (), w')) :
    ∃ hash, PasswordSet d w w' username password hash := by
  obtain ⟨hash, files, writes, written, told⟩ := setPassword_eq_ok run
  obtain ⟨secret, after, same⟩ := writes.find_after found written
  obtain ⟨given, fits⟩ := bounds_of_taken writes.taken
  refine ⟨hash, given, fits, writes.hashed, ⟨c, _, found, after, rfl, same⟩, ?_, ?_⟩
  · rw [Session.runIn_login, after]
    dsimp only
    rw [if_pos (Password.verify_of_hash? writes.hashed)]
    exact ⟨_, rfl⟩
  · rw [told, (World.legible_of_find found).1]

/-- Setting the password of a user who must exist means all that it should, whatever was noted in
the tables before. -/
theorem passwordSet_of_setPasswordOf {username password : String} {tables : State.Tables}
    (run : (setPasswordOf d username password).runIn { w with tables } = (.ok (), w')) :
    ∃ hash, PasswordSet d w w' username password hash := by
  unfold setPasswordOf at run
  rcases requireUser_cases d username { w with tables } with ⟨c, found, asked⟩ | ⟨e, -, asked⟩
  · rw [runIn_bind_ok asked] at run
    obtain ⟨hash, set⟩ := passwordSet_of_setPassword found run
    exact ⟨hash, set.given, set.fits, set.hashed, set.stored, set.login, set.told⟩
  · rw [runIn_bind, asked] at run
    cases run

/-- A password that was changed with the old one is set. -/
theorem passwordSet_of_changePassword {username oldPassword password : String}
    (run : (changePassword d username oldPassword password).runIn w = (.ok (), w')) :
    ∃ hash, PasswordSet d w w' username password hash := by
  unfold changePassword at run
  rcases requireUser_cases d username w with ⟨c, found, asked⟩ | ⟨e, -, asked⟩
  · rw [runIn_bind_ok asked] at run
    split at run
    · cases run
    · exact passwordSet_of_setPassword found run
  · rw [runIn_bind, asked] at run
    cases run

/-- A password that was reset with a token is set for the user whom the token was made for. -/
theorem passwordSet_of_resetPassword {token password : String}
    (run : (resetPassword d token password).runIn w = (.ok (), w')) :
    ∃ r hash, w.tables.resetToken? token = some r ∧
      PasswordSet d w w' r.username password hash := by
  rw [runIn_resetPassword] at run
  split at run
  · cases run
  · cases run
  · rename_i username t _ claimed
    obtain ⟨r, found, -, -, rfl, -⟩ := State.Tables.claimResetToken_eq_ok claimed
    split at run
    · rename_i w₁ ended
      obtain rfl := (Prod.mk.inj run).2
      obtain ⟨hash, set⟩ := passwordSet_of_setPasswordOf ended
      exact ⟨r, hash, found, set⟩
    · cases run

/-- A password that was reset with a code is set for the owner of the phone. -/
theorem passwordSet_of_resetPasswordSms {phone code password : String}
    (run : (resetPasswordSms d phone code password).runIn w = (.ok (), w')) :
    ∃ hash, PasswordSet d w w' (Metadata.ownerOfPhone phone w.metadata) password hash := by
  rw [runIn_resetPasswordSms] at run
  split at run
  · cases run
  · cases run
  · exact passwordSet_of_setPasswordOf run

end Account

/-- An operation that is to set a new password and comes to its end has set it, for one user. -/
theorem password_set_of_ended {op : Operation} {password : String} {reply : Reply}
    (sets : op.newPassword? = some password) (ended : (op.step d w).result = .ok reply) :
    ∃ username hash, op.passwordUser? w = some username ∧
      PasswordSet d w (op.step d w).after username password hash := by
  cases op with
  | changePassword username oldPassword newPassword =>
    obtain rfl := Option.some.inj sets
    obtain ⟨hash, set⟩ := passwordSet_of_changePassword (Operation.eq_ok_of_reply rfl ended)
    exact ⟨username, hash, rfl, set⟩
  | resetPassword token newPassword =>
    obtain rfl := Option.some.inj sets
    obtain ⟨r, hash, issued, set⟩ :=
      passwordSet_of_resetPassword (Operation.eq_ok_of_reply rfl ended)
    exact ⟨r.username, hash, congrArg (Option.map State.ResetToken.username) issued, set⟩
  | resetPasswordSms phone code newPassword =>
    obtain rfl := Option.some.inj sets
    obtain ⟨hash, set⟩ := passwordSet_of_resetPasswordSms (Operation.eq_ok_of_reply rfl ended)
    exact ⟨_, hash, rfl, set⟩
  | _ => cases sets

/-- A reset with a token that was asked for sets the password of alice. -/
theorem password_set_of_ended_requested :
    let op := Operation.resetPassword "" "pw1"
    op.newPassword? = some "pw1" ∧
      (op.step (.sample false) World.sampleRequested).result = .ok .done ∧
      ∃ hash, PasswordSet (.sample false) World.sampleRequested
        (op.step (.sample false) World.sampleRequested).after "alice" "pw1" hash := by
  intro op
  obtain ⟨t, hash, files, resets⟩ :=
    resets_sampleRequested World.sampleRequested "pw1" (by decide) rfl rfl rfl
  obtain ⟨w', run, -⟩ := resets.ended_of_working (by decide) (by decide)
  have ended : (op.step (.sample false) World.sampleRequested).result = .ok .done := by
    rw [show op.step (.sample false) World.sampleRequested = _ from Operation.step_of_reply rfl run]
    rfl
  obtain ⟨username, hash', user, set⟩ := password_set_of_ended (rfl : op.newPassword? = _) ended
  obtain rfl : "alice" = username := Option.some.inj user
  exact ⟨rfl, ended, hash', set⟩

end AccountSidecar
