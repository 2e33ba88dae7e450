import AccountSidecar.Account.Password

/-!
# Password reset by text message

A code is sent to a phone that belongs to a user; it lets the user set a new password within ten
minutes.
-/

namespace AccountSidecar.Account

open AccountSidecar.Action

/-- The digits of a code. -/
def smsCodeLength : Nat := 6

/-- The seconds that a code is good. -/
def smsCodeTtl : Int := 600

/-- The message that carries a code. -/
def smsCodeMessage (code : String) : String :=
  "Your password reset code is: " ++ code ++ " (valid for 10 minutes)"

/-- Sends a text message; whatever goes wrong is reported as one error. -/
def sendTextMessage (phone message : String) : Action Unit :=
  tryCatch (emit (.textMessage phone message)) fun _ => refuse .smsSendFailed

/-- Sends a code to a phone that belongs to a user; does nothing for an unknown one. -/
def requestSmsReset (d : Deployment) (phone : String) : Action Unit := do
  if !d.smsEnabled then refuse .smsNotConfigured
  else
    let username ← ownerOfPhone phone
    if username = "" then pure ()
    else
      let code ← drawCode d smsCodeLength
      let time ← now
      let id ← drawIdentifier d
      changeTables (·.storeSmsCode id username code (time + smsCodeTtl))
      sendTextMessage phone (smsCodeMessage code)

/-- Uses up a code of the user whom a phone belongs to: that user. -/
def consumeSmsCode (phone code : String) : Action String := do
  let username ← ownerOfPhone phone
  let tables ← ofCheck ((← get).tables.consumeSmsCode username code (← now))
  changeTables fun _ => tables
  pure username

/-- Sets a new password with a code. -/
def resetPasswordSms (d : Deployment) (phone code password : String) : Action Unit := do
  checkNewPassword password
  let username ← consumeSmsCode phone code
  setPasswordOf d username password

end AccountSidecar.Account
