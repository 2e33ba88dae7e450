import AccountSidecar.Account.Operation
import AccountSidecar.Http.Cookie
import AccountSidecar.Http.Route

/-!
# Handlers

What each endpoint does with a request. A handler is an action that gives a response; failures of
the account operations become error responses afterwards.
-/

namespace AccountSidecar.Http

/-- What a site may vary. -/
structure Site where
  cookieName : String := "tinyauth_um_session"
  secureCookie : Bool := false
  /-- The origins whose pages may read responses; an asterisk stands for all. -/
  origins : List String := ["http://localhost:5173", "http://localhost:8080"]
  /-- How deep the arrays and objects of a body may stand inside one another: what the calls that
  are open while a handler runs leave of the limit of 1000. -/
  nesting : Nat := 900

/-- The cookie that opens a session with a client. -/
def Site.sessionCookie (site : Site) (d : Deployment) (token : String) : SetCookie :=
  { name := site.cookieName, value := token, maxAge := d.sessionTtl, httpOnly := true
    secure := site.secureCookie, sameSite := some "Lax" }

/-- The cookie that ends a session with a client. -/
def Site.clearedCookie (site : Site) : SetCookie :=
  { name := site.cookieName, value := "", maxAge := 0, httpOnly := false, secure := false
    sameSite := none }

/-- Runs an action for its changes alone; its failure concerns nobody. -/
def inBackground (a : Action Unit) : Action Unit := tryCatch a fun _ => pure ()

/-- Opens a session. The cookie says when it expires, as a date; where the calendar has none the
response has no content, though the session is open. -/
def handleLogin (site : Site) (d : Deployment) (r : Request) : Action Response := do
  let username := r.strippedText "username"
  let password := r.text "password"
  if username = "" || password = "" then pure (.error 400 "username and password required")
  else
    let attempt : Action Response := do
      let token ← Session.login d username password
      if isDated ((← Action.now) + d.sessionTtl) then
        pure { Response.ok with cookie := some (site.sessionCookie d token) }
      else pure { status := 500 }
    tryCatch attempt fun e =>
      match e with
      | .account a => pure (.error 401 a.message)
      | e => throw e

/-- Closes a session. -/
def handleLogout (site : Site) (r : Request) : Action Response := do
  match r.cookie? site.cookieName with
  | some token => if token = "" then pure () else Session.logout token
  | none => pure ()
  pure { Response.ok with cookie := some site.clearedCookie }

/-- Has a reset link mailed. The answer tells nothing. -/
def handleRequestReset (d : Deployment) (r : Request) : Action Response := do
  let username := r.strippedText "username"
  if username = "" then pure () else inBackground (Account.requestPasswordReset d username)
  pure (.okWith [("message", .text "If user exists, reset email sent")])

/-- Creates an account or queues its signup. -/
def handleSignup (d : Deployment) (r : Request) : Action Response := do
  let result ← Account.signup d (r.strippedText "username") (r.strippedText "email")
    (r.text "password") (r.strippedText "phone")
  let id := match result.id? with
    | some id => if id = "" then [] else [("id", .text id)]
    | none => []
  pure (.okWith (("status", .text result.status) :: id))

/-- Has a code sent to a phone. The answer tells nothing. -/
def handleRequestSmsReset (d : Deployment) (r : Request) : Action Response := do
  let phone := r.strippedText "phone"
  if phone = "" then pure (.error 400 "phone required")
  else
    inBackground (Account.requestSmsReset d phone)
    pure (.okWith [("message", .text "If a user is associated with this phone, a code was sent")])

/-- Sets a new password with a code. -/
def handleConfirmSmsReset (d : Deployment) (r : Request) : Action Response := do
  let phone := r.strippedText "phone"
  let code := r.strippedText "code"
  let password := r.text "newPassword"
  if phone = "" || code = "" || password = "" then
    pure (.error 400 "phone, code, and newPassword required")
  else
    Account.resetPasswordSms d phone code password
    pure .ok

/-- What the endpoints that are open to all do. -/
def handleOpen (site : Site) (d : Deployment) (r : Request) : Endpoint → Action Response
  | .login => handleLogin site d r
  | .logout => handleLogout site r
  | .health => pure .ok
  | .features => pure (.json 200 [("smsEnabled", .bool d.smsEnabled)])
  | .requestReset => handleRequestReset d r
  | .confirmReset => do
    Account.resetPassword d (r.text "token") (r.text "newPassword")
    pure .ok
  | .signup => handleSignup d r
  | .approveSignup => do
    Account.approveSignup d (r.text "id")
    pure .ok
  | .requestSmsReset => handleRequestSmsReset d r
  | .confirmSmsReset => handleConfirmSmsReset d r
  | _ => pure { status := 404 }

/-- The entries of a profile. -/
def profileFields (p : Account.Profile) : Keyed Value :=
  [("username", .text p.username), ("totpEnabled", .bool p.totpEnabled), ("phone", .text p.phone)]

/-- What the endpoints of an account do for its user. -/
def handleFor (d : Deployment) (r : Request) (username : String) : Endpoint → Action Response
  | .session => pure (.json 200 [("username", .text username)])
  | .profile => return .json 200 (profileFields (← Account.profile d username))
  | .changePassword => do
    Account.changePassword d username (r.text "oldPassword") (r.text "newPassword")
    pure .ok
  | .setPhone => do
    Action.setPhone d username (r.strippedText "phone")
    pure .ok
  | .setupTotp => return { status := 200, body := .enrolment (← Account.setupTotp d username) }
  | .enableTotp => do
    Account.enableTotp d username (r.text "secret") (r.text "code")
    pure .ok
  | .disableTotp => do
    Account.disableTotp d username (r.text "password")
    pure .ok
  | .recoverTotp => do
    Account.recoverTotp d username (r.text "recoveryKey") (r.text "secret") (r.text "code")
    pure .ok
  | _ => pure { status := 404 }

/-- Whether an endpoint reads the body of a request. -/
def Endpoint.readsBody : Endpoint → Bool
  | .logout | .session | .health | .features | .profile | .setupTotp | .staticFile => false
  | _ => true

/-- Whether the body of a request to an endpoint is read and nests too deep for the reader. -/
def Site.stopsAtBody (site : Site) (r : Request) (e : Endpoint) : Bool :=
  e.readsBody && r.nestsBeyond site.nesting

/-- Reads the body of a request before a handler does anything. A body that nests too deep is
nobody's error: the response has no content. -/
def afterBody (site : Site) (r : Request) (e : Endpoint) (handler : Action Response) :
    Action Response :=
  if site.stopsAtBody r e then pure { status := 500 } else handler

/-- What an endpoint does with a request. -/
def handle (site : Site) (d : Deployment) (r : Request) (e : Endpoint) : Action Response := do
  if e.needsSession then
    let username ← Session.username (r.cookie? site.cookieName)
    afterBody site r e (handleFor d r username e)
  else afterBody site r e (handleOpen site d r e)

end AccountSidecar.Http
