import AccountSidecar.Action
import AccountSidecar.Totp.Setup

/-!
# Profile and two-factor login

What a user sees about the own account; preparing, turning on, turning off and recovering two-factor
login. A secret is stored only after a code computed from it was shown.
-/

namespace AccountSidecar.Account

open AccountSidecar.Action

/-- What a user sees about the own account. -/
structure Profile where
  username : String
  totpEnabled : Bool
  phone : String
  deriving DecidableEq, Repr

/-- The profile of a user. -/
def profile (d : Deployment) (username : String) : Action Profile := do
  let c ← requireUser d username
  let phone := (← metadataOf username).phone
  pure ⟨c.username, c.totpEnabled, phone⟩

/-- The key that lets a user recover two-factor login. It follows from the username. -/
def recoveryKey (username : String) : String := "RECOVERY-" ++ username

/-- The steps around the time of use in which a code is good. -/
def codeWindow : Int := 1

/-- A fresh secret with its address and QR code. Nothing is stored. -/
def setupTotp (d : Deployment) (username : String) : Action Totp.Setup := do
  match Totp.setupWith (← drawTotpSecret d) username d.issuer with
  | .ok s => pure s
  | .error (.code .malformedSecret) => throw .malformedSecret
  | .error (.code .outOfRange) => throw .unusableSecret
  | .error .tooLong => throw .tooLongForQr

/-- Turns two-factor login on. -/
def enableTotp (d : Deployment) (username secret code : String) : Action Unit := do
  if !Totp.verify secret code codeWindow (← now) then refuse .invalidCode
  else
    let c ← requireUser d username
    upsertUser d { c with totpSecret := Totp.normalizeSecret secret }
    emit .restart

/-- Turns two-factor login off. -/
def disableTotp (d : Deployment) (username password : String) : Action Unit := do
  let c ← requireUser d username
  if !Password.verify password c.password then refuse .invalidPassword
  else
    upsertUser d { c with totpSecret := "" }
    emit .restart

/-- Turns two-factor login on anew with the recovery key. -/
def recoverTotp (d : Deployment) (username key secret code : String) : Action Unit := do
  if key ≠ recoveryKey username then refuse .invalidRecoveryKey
  else enableTotp d username secret code

end AccountSidecar.Account
