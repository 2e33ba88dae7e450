import AccountSidecar.Account.Password

/-!
# Signup

An account is created at once, or its signup is queued until somebody approves it. A phone given
with the signup goes into the metadata; where that fails the signup goes on without it.
-/

namespace AccountSidecar.Account

open AccountSidecar.Action

/-- How a signup ended. -/
inductive SignupResult where
  | approved
  | pending (id : String)
  deriving DecidableEq, Repr

/-- The word for the result. -/
def SignupResult.status : SignupResult → String
  | .approved => "approved"
  | .pending _ => "pending"

/-- The id of a queued signup. -/
def SignupResult.id? : SignupResult → Option String
  | .approved => none
  | .pending id => some id

/-- Runs an action and passes over a failure that the metadata store reports. -/
def despiteMetadata (a : Action Unit) : Action Unit :=
  tryCatch a fun e =>
    match e with
    | .metadata m => if m.isReported then pure () else throw e
    | _ => throw e

/-- Stores the phone of a signup, if it has one. -/
def stashPhone (d : Deployment) (username phone : String) : Action Unit :=
  if phone = "" then pure () else despiteMetadata (setPhone d username phone)

/-- Queues a signup. -/
def queueSignup (d : Deployment) (username email hash phone : String) : Action SignupResult := do
  let id ← drawIdentifier d
  let time ← now
  changeTables (·.createPendingSignup id username email hash time)
  stashPhone d username phone
  pure (.pending id)

/-- Creates the account of a signup. -/
def createAccount (d : Deployment) (username password hash phone : String) :
    Action SignupResult := do
  upsertUser d { username, password := hash }
  stashPhone d username phone
  announcePassword username password hash
  pure .approved

/-- Creates an account or queues its signup. -/
def signup (d : Deployment) (username email password phone : String) : Action SignupResult := do
  if username = "" || password = "" then refuse .invalidInput
  else if !Users.isValidUsername username then refuseSaying .invalidInput "invalid username"
  else
    checkNewPassword password
    if (← findUser d username).isSome then refuse .alreadyExists
    else
      let hash ← hashPassword d password
      if d.requireApproval then queueSignup d username email hash phone
      else createAccount d username password hash phone

/-- Turns a queued signup into an account. The signup stays, so that approving it again creates
the account again. -/
def approveSignup (d : Deployment) (id : String) : Action Unit := do
  let s ← ofCheck ((← get).tables.pendingSignup id)
  upsertUser d { username := s.username, password := s.passwordHash }
  changeTables (·.approvePendingSignup id)
  setApproved d s.username true
  emit .restart

end AccountSidecar.Account
