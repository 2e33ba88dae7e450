import AccountSidecar.Action

/-!
# Setting and resetting passwords

A new password is hashed and written to the users file; then the auth proxy restarts and the other
systems are told. A reset token is claimed before the change and released again if the change
fails.
-/

namespace AccountSidecar.Account

open AccountSidecar.Action

/-- Why a new password cannot be taken, if it cannot. -/
def newPasswordFault? (password : String) : Option AccountError :=
  if password = "" then some ⟨.invalidInput, "new password required"⟩
  else if Password.isTooLong password then some ⟨.invalidInput, "password too long"⟩
  else none

/-- Refuses a new password that is empty or too long. -/
def checkNewPassword (password : String) : Action Unit := do
  match newPasswordFault? password with
  | some e => throw (.account e)
  | none => pure ()

/-- Tells the outside world that a password has changed. -/
def announcePassword (username password hash : String) : Action Unit := do
  emit .restart
  emit (.sync username password hash)

/-- Gives a user a new password. -/
def setPassword (d : Deployment) (c : Users.Credential) (password : String) : Action Unit := do
  checkNewPassword password
  let hash ← hashPassword d password
  upsertUser d { c with password := hash }
  announcePassword c.username password hash

/-- Mails a reset link to a user; does nothing for an unknown one. -/
def requestPasswordReset (d : Deployment) (username : String) : Action Unit := do
  match ← findUser d username with
  | none => pure ()
  | some c =>
    let token ← drawIdentifier d
    let time ← now
    changeTables (·.createResetToken token c.username (time + d.resetTtl))
    emit (.mail c.username token)

/-- Claims a reset token for now: the user it was made for. -/
def claimResetToken (token : String) : Action String := do
  let (username, tables) ← ofCheck ((← get).tables.claimResetToken token (← now))
  changeTables fun _ => tables
  pure username

/-- Sets the new password of a user who must exist. -/
def setPasswordOf (d : Deployment) (username password : String) : Action Unit := do
  setPassword d (← requireUser d username) password

/-- Sets a new password with a reset token, which is released if the change fails. -/
def resetPassword (d : Deployment) (token password : String) : Action Unit := do
  checkNewPassword password
  let username ← claimResetToken token
  tryCatch (setPasswordOf d username password) fun e => do
    changeTables (·.releaseResetToken token)
    throw e

/-- Sets a new password with the old one. -/
def changePassword (d : Deployment) (username oldPassword newPassword : String) :
    Action Unit := do
  let c ← requireUser d username
  if !Password.verify oldPassword c.password then
    refuseSaying .invalidCredentials "old password invalid"
  else setPassword d c newPassword

end AccountSidecar.Account
