import AccountSidecar.Qr.Size
import AccountSidecar.Text.Percent
import AccountSidecar.Totp.Code

/-!
# Enrolment

What an authenticator app needs: a secret, its provisioning address and the QR code of the address.
The address names the issuer and the account, and carries the secret as it was given.
-/

namespace AccountSidecar.Totp

open Text

/-- The account shown where none is given. -/
def defaultAccount : String := "Secret"

/-- The issuer and the account of an address, encoded. -/
def label (account issuer : String) : String :=
  let account := percentEncode ['/'] (if account = "" then defaultAccount else account)
  if issuer = "" then account else percentEncode ['/'] issuer ++ ":" ++ account

/-- The address of a secret that codes can be computed from. -/
def provisioningUri (secret account issuer : String) : Except CodeError String :=
  match keyOf secret with
  | .error e => .error e
  | .ok _ =>
    let query := "secret=" ++ percentEncode [] secret
    let query := if issuer = "" then query else query ++ "&issuer=" ++ percentEncode [] issuer
    .ok ("otpauth://totp/" ++ label account issuer ++ "?" ++ query)

/-- Why no enrolment could be prepared. -/
inductive SetupError where
  | code (e : CodeError)
  | tooLong
  deriving DecidableEq, Repr

/-- A prepared enrolment, of which nothing is stored. -/
structure Setup where
  secret : String
  uri : String
  qr : Qr.Size
  deriving DecidableEq, Repr

/-- Prepares the enrolment of a user with a secret. -/
def setupWith (secret username issuer : String) : Except SetupError Setup :=
  match provisioningUri secret username issuer with
  | .error e => .error (.code e)
  | .ok uri =>
    match Qr.size? uri with
    | none => .error .tooLong
    | some qr => .ok ⟨secret, uri, qr⟩

end AccountSidecar.Totp
