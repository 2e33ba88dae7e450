import AccountSidecar.Password.Bcrypt
import AccountSidecar.World

/-!
# Actions

An action changes the world and either returns a value or fails. What it changed before it failed
stays changed. This module has the elementary actions: reading and changing the stores, drawing
fresh values and calling on collaborators.
-/

namespace AccountSidecar

/-- A change of the world that may fail. -/
abbrev Action (α : Type) := ExceptT Failure (StateM World) α

namespace Action

/-- The outcome of an action in a world, and the world after it. -/
def runIn {α : Type} (a : Action α) (w : World) : Except Failure α × World := a.run w

/-- Turns the caller away. -/
def refuse {α : Type} (kind : AccountErrorKind) : Action α := throw (.account (.of kind))

/-- Turns the caller away with a message. -/
def refuseSaying {α : Type} (kind : AccountErrorKind) (message : String) : Action α :=
  throw (.account (.saying kind message))

/-- The value of a check of the tables. -/
def ofCheck {α : Type} : Except AccountError α → Action α
  | .ok a => pure a
  | .error e => throw (.account e)

/-- The current time. -/
def now : Action Int := return (← get).clock

/-- Changes the tables. -/
def changeTables (f : State.Tables → State.Tables) : Action Unit :=
  modify fun w => { w with tables := f w.tables }

/-- Drops what the tables need no longer: the number of dropped records. -/
def purgeExpired : Action Nat := do
  let (tables, count) := (← get).tables.purgeExpired (← now)
  changeTables fun _ => tables
  pure count

/-- All credentials of the users file. -/
def credentials (d : Deployment) : Action (List Users.Credential) := do
  match Users.load (← get).files d.usersFile with
  | .ok all => pure all
  | .error e => throw (.users e)

/-- The credentials of a user, read from the file. -/
def findUser (d : Deployment) (username : String) : Action (Option Users.Credential) :=
  return Users.lookup? username (← credentials d)

/-- The credentials of a user who must exist. -/
def requireUser (d : Deployment) (username : String) : Action Users.Credential := do
  match ← findUser d username with
  | some c => pure c
  | none => refuse .notFound

/-- Writes the credentials of a user into the file. -/
def upsertUser (d : Deployment) (c : Users.Credential) : Action Unit := do
  let (result, files) := Users.upsert (← get).files d.usersFile c
  modify fun w => { w with files }
  match result with
  | .ok () => pure ()
  | .error e => throw (.users e)

/-- Reads the metadata file into memory, and makes its directory. What is in memory stays if that
fails. -/
def openMetadata (d : Deployment) : Action Unit := do
  let (result, files) := Metadata.openAt d.calls (← get).files d.metadataFile
  modify fun w => { w with files }
  match result with
  | .ok metadata => modify fun w => { w with metadata }
  | .error e => throw (.metadata e)

/-- The metadata of a user; that of an unknown user is empty. -/
def metadataOf (username : String) : Action Metadata.Entry :=
  return (Keyed.find? username (← get).metadata).getD {}

/-- Writes the metadata of a user into the file and, when that is done, into memory. -/
def commitMetadata (d : Deployment) (username : String) (e : Metadata.Entry) : Action Unit := do
  let w ← get
  let entries := Keyed.put username e w.metadata
  let (result, files) := Metadata.commit w.files d.metadataFile entries
  set { w with files }
  match result with
  | .ok () => modify fun w => { w with metadata := entries }
  | .error e => throw (.metadata e)

/-- Sets the phone of a user. -/
def setPhone (d : Deployment) (username phone : String) : Action Unit := do
  commitMetadata d username { ← metadataOf username with phone }

/-- Sets whether a user is approved. -/
def setApproved (d : Deployment) (username : String) (approved : Bool) : Action Unit := do
  commitMetadata d username { ← metadataOf username with approved }

/-- The user whom a phone belongs to; empty where there is none. -/
def ownerOfPhone (phone : String) : Action String :=
  return Metadata.ownerOfPhone phone (← get).metadata

/-- Draws a session token. -/
def drawSessionToken (d : Deployment) : Action String := do
  let w ← get
  set { w with drawn := { w.drawn with sessionTokens := w.drawn.sessionTokens + 1 } }
  pure (d.sources.sessionToken w.drawn.sessionTokens)

/-- Draws an identifier. -/
def drawIdentifier (d : Deployment) : Action String := do
  let w ← get
  set { w with drawn := { w.drawn with identifiers := w.drawn.identifiers + 1 } }
  pure (d.sources.identifier w.drawn.identifiers)

/-- Draws a salt. -/
def drawSalt (d : Deployment) : Action String := do
  let w ← get
  set { w with drawn := { w.drawn with salts := w.drawn.salts + 1 } }
  pure (d.sources.salt w.drawn.salts)

/-- Draws a secret for one-time codes. -/
def drawTotpSecret (d : Deployment) : Action String := do
  let w ← get
  set { w with drawn := { w.drawn with totpSecrets := w.drawn.totpSecrets + 1 } }
  pure (d.sources.totpSecret w.drawn.totpSecrets)

/-- Draws a code of decimal digits. -/
def drawCode (d : Deployment) (length : Nat) : Action String := do
  let w ← get
  let first := w.drawn.codeDigits
  set { w with drawn := { w.drawn with codeDigits := first + length } }
  pure (String.join ((List.range length).map fun i => toString (d.sources.codeDigit (first + i))))

/-- Hashes a password under a fresh salt. -/
def hashPassword (d : Deployment) (password : String) : Action String := do
  match Password.hash? (← drawSalt d) password with
  | some hash => pure hash
  | none => throw .unhashable

/-- Calls on a collaborator. -/
def emit (e : Effect) : Action Unit := do
  let w ← get
  if w.failing.contains e.collaborator then throw (.collaborator e.collaborator)
  else set { w with effects := w.effects ++ [e] }

end Action

end AccountSidecar
