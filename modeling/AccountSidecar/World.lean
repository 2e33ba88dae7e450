import AccountSidecar.Metadata.Store
import AccountSidecar.State.Tables
import AccountSidecar.Users.Store

/-!
# The world of the service

What the account service works on: the files, the metadata and tables in memory, the clock, the
sources of fresh values and the collaborators that it tells about changes. A `Deployment` is fixed
when the service starts; a `World` changes with every operation.
-/

namespace AccountSidecar

open Storage

/-- Sources of fresh values; each gives its `n`-th value, counted from zero. -/
structure Sources where
  sessionToken : Nat → String
  identifier : Nat → String
  /-- Salts for password hashes, with version and cost. -/
  salt : Nat → String
  /-- Decimal digits for codes. -/
  codeDigit : Nat → Nat
  totpSecret : Nat → String
  deriving Inhabited

/-- How many values each source has given. -/
structure Drawn where
  sessionTokens : Nat := 0
  identifiers : Nat := 0
  salts : Nat := 0
  codeDigits : Nat := 0
  totpSecrets : Nat := 0
  deriving DecidableEq, Repr, Inhabited

/-- What is fixed when the service starts. -/
structure Deployment where
  sources : Sources
  usersFile : Location
  metadataFile : Location
  /-- Seconds that a session lasts. -/
  sessionTtl : Int := 86400
  /-- Seconds that a reset token lasts. -/
  resetTtl : Int := 3600
  /-- Whether a signup waits for approval. -/
  requireApproval : Bool := false
  /-- Whether text messages can be sent. -/
  smsEnabled : Bool := false
  /-- The issuer shown in authenticator apps. -/
  issuer : String := "tinyauth"
  /-- The calls that the interpreter's limit leaves to the reader of the metadata. -/
  calls : Nat := Metadata.usualCalls
  deriving Inhabited

/-- The parties that the service calls on. -/
inductive Collaborator where
  | mailer
  | sms
  | restarter
  | passwordSync
  deriving DecidableEq, Repr

/-- A call on a collaborator. -/
inductive Effect where
  /-- Mail a reset link. -/
  | mail (username token : String)
  /-- Send a text message. -/
  | textMessage (phone message : String)
  /-- Restart the auth proxy. -/
  | restart
  /-- Push a changed password to the other systems. -/
  | sync (username password hash : String)
  deriving DecidableEq, Repr

/-- The collaborator that an effect calls on. -/
def Effect.collaborator : Effect → Collaborator
  | .mail .. => .mailer
  | .textMessage .. => .sms
  | .restart => .restarter
  | .sync .. => .passwordSync

/-- All that an operation may read or change. -/
structure World where
  files : FileTree
  /-- The metadata in memory. -/
  metadata : Keyed Metadata.Entry := []
  tables : State.Tables := {}
  drawn : Drawn := {}
  /-- The current time in seconds. -/
  clock : Int := 0
  /-- The collaborators that fail when called. -/
  failing : List Collaborator := []
  /-- The calls made so far, oldest first. -/
  effects : List Effect := []
  deriving Inhabited

/-- Why an operation did not come to its end. -/
inductive Failure where
  | account (e : AccountError)
  | users (e : Users.StoreError)
  | metadata (e : Metadata.StoreError)
  /-- A collaborator failed. -/
  | collaborator (c : Collaborator)
  /-- The password or the salt cannot be hashed. -/
  | unhashable
  /-- A secret is not base-32 text. -/
  | malformedSecret
  /-- A secret is too short. -/
  | unusableSecret
  /-- A text is too long for a QR code. -/
  | tooLongForQr
  deriving DecidableEq, Repr

end AccountSidecar
