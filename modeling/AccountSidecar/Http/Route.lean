import AccountSidecar.Http.Message
import AccountSidecar.Text.Lossy
import AccountSidecar.Text.Percent
import AccountSidecar.Text.Split

/-!
# Routes

The endpoints of the service and how a path and a method lead to one. A path must match exactly; a
path with doubled slashes that would match without them is redirected.
-/

namespace AccountSidecar.Http

open Text

/-- What a request may ask for. -/
inductive Endpoint where
  | login
  | logout
  | session
  | health
  | features
  | requestReset
  | confirmReset
  | signup
  | approveSignup
  | requestSmsReset
  | confirmSmsReset
  | profile
  | changePassword
  | setPhone
  | setupTotp
  | enableTotp
  | disableTotp
  | recoverTotp
  /-- A file that is served as it stands; there are none. -/
  | staticFile
  deriving DecidableEq, Repr

/-- The endpoints that only the user of a session may reach. -/
def Endpoint.needsSession : Endpoint → Bool
  | .session | .profile | .changePassword | .setPhone | .setupTotp | .enableTotp | .disableTotp
  | .recoverTotp => true
  | _ => false

/-- The endpoint of a path. -/
def endpointOf? (path : List String) : Option Endpoint :=
  match path with
  | ["api", "auth", "login"] => some .login
  | ["api", "auth", "logout"] => some .logout
  | ["api", "auth", "session"] => some .session
  | ["api", "health"] => some .health
  | ["api", "features"] => some .features
  | ["api", "password-reset", "request"] => some .requestReset
  | ["api", "password-reset", "confirm"] => some .confirmReset
  | ["api", "signup"] => some .signup
  | ["api", "signup", "approve"] => some .approveSignup
  | ["api", "auth", "forgot-password-sms"] => some .requestSmsReset
  | ["api", "auth", "reset-password-sms"] => some .confirmSmsReset
  | ["api", "account", "profile"] => some .profile
  | ["api", "account", "change-password"] => some .changePassword
  | ["api", "account", "phone"] => some .setPhone
  | ["api", "account", "totp", "setup"] => some .setupTotp
  | ["api", "account", "totp", "enable"] => some .enableTotp
  | ["api", "account", "totp", "disable"] => some .disableTotp
  | ["api", "account", "totp", "recover"] => some .recoverTotp
  | "static" :: name :: _ => if name = "" then none else some .staticFile
  | _ => none

/-- Whether the endpoint only reads. -/
def Endpoint.isRead : Endpoint → Bool
  | .session | .health | .features | .profile | .staticFile => true
  | _ => false

/-- The methods that an endpoint knows, in alphabetical order. -/
def Endpoint.methods (e : Endpoint) : List String :=
  if e.isRead then ["GET", "HEAD", "OPTIONS"] else ["OPTIONS", "POST"]

/-- The path of a request without query and fragment, decoded, without slashes at its start. -/
def Request.plainPath (r : Request) : List Char :=
  let path := (r.path.toList.takeWhile (· != '#')).takeWhile (· != '?')
  let decoded := decodeLossy (percentDecode (String.ofList path).toUTF8.toList)
  decoded.toList.dropWhile (· == '/')

/-- The names of a path. -/
def pathNames (path : List Char) : List String := (pieces '/' path).map String.ofList

/-- Turns each pair of slashes into one, from left to right. -/
def mergeSlashes : List Char → List Char
  | '/' :: '/' :: rest => '/' :: mergeSlashes rest
  | c :: rest => c :: mergeSlashes rest
  | [] => []

/-- Where a request leads. -/
inductive Destination where
  | endpoint (e : Endpoint)
  /-- The path is known and answers only the question which methods it knows. -/
  | methodsOf (e : Endpoint)
  | wrongMethod (e : Endpoint)
  | redirect
  | unknown
  deriving DecidableEq, Repr

/-- Where a request leads. -/
def Request.destination (r : Request) : Destination :=
  let path := r.plainPath
  match endpointOf? (pathNames path) with
  | some e =>
    if r.method = "OPTIONS" then .methodsOf e
    else if e.methods.contains r.method then .endpoint e
    else .wrongMethod e
  | none =>
    match endpointOf? (pathNames (mergeSlashes path)) with
    | some e => if e.methods.contains r.method then .redirect else .wrongMethod e
    | none => .unknown

end AccountSidecar.Http
