import AccountSidecar.Action

/-!
# Login sessions

Opening, closing and resolving sessions. Expiry is decided when a session is resolved; one found
expired is closed before the caller is turned away.
-/

namespace AccountSidecar.Session

open AccountSidecar.Action

/-- Checks a username and a password and opens a session: its token. An unknown user and a wrong
password look alike. -/
def login (d : Deployment) (username password : String) : Action String := do
  match ← findUser d username with
  | none => refuse .invalidCredentials
  | some c =>
    if !Password.verify password c.password then refuse .invalidCredentials
    else
      let token ← drawSessionToken d
      let time ← now
      changeTables (·.createSession token c.username time (time + d.sessionTtl))
      pure token

/-- Closes the session of a token. -/
def logout (token : String) : Action Unit := changeTables (·.deleteSession token)

/-- The user of a session. -/
def username (token : Option String) : Action String := do
  match token with
  | none | some "" => refuse .unauthorized
  | some token =>
    match (← get).tables.session? token with
    | none => refuse .unauthorized
    | some s =>
      if s.isExpired (← now) then
        logout token
        refuse .unauthorized
      else pure s.username

end AccountSidecar.Session
