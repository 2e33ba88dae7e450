import AccountSidecar.Json.Reader
import AccountSidecar.Text.Case
import AccountSidecar.Text.Encoding
import AccountSidecar.Totp.Setup

/-!
# Requests and responses

What a client sends and what it gets back. A body is read as a JSON object if its content type says
so; any other body counts as an empty object.
-/

namespace AccountSidecar.Http

open Text

/-- A request. -/
structure Request where
  method : String
  /-- The path as sent, with its query. -/
  path : String
  headers : Keyed String := []
  contentType : String := ""
  body : List UInt8 := []

/-- A cookie that a response sets. -/
structure SetCookie where
  name : String
  value : String
  maxAge : Int
  httpOnly : Bool
  secure : Bool
  /-- The rule for requests from other sites, if one is given. -/
  sameSite : Option String
  deriving DecidableEq, Repr

/-- The attributes that are written after the value of a cookie; every path gets the cookie. -/
def SetCookie.attributes (c : SetCookie) : List String :=
  (if c.secure then ["Secure"] else []) ++ (if c.httpOnly then ["HttpOnly"] else []) ++
    ["Max-Age=" ++ toString c.maxAge, "Path=/"] ++
    c.sameSite.toList.map fun rule => "SameSite=" ++ rule

/-- The content of a response. -/
inductive Body where
  | none
  | fields (entries : Keyed Value)
  /-- A prepared enrolment, with the picture of its QR code. -/
  | enrolment (setup : Totp.Setup)

/-- A response. -/
structure Response where
  status : Nat
  body : Body := .none
  headers : Keyed String := []
  /-- The methods that the path knows, where the response names them. -/
  allow : List String := []
  cookie : Option SetCookie := none

/-- The value of a header; its name may be in either case. -/
def Request.header? (r : Request) (name : String) : Option String :=
  (List.find? (fun h => lower h.1 = lower name) r.headers).map (·.2)

/-- The type of the content without its parameters, in lower case. -/
def Request.mediaType (r : Request) : String :=
  lower (strip (String.ofList (r.contentType.toList.takeWhile (· != ';'))))

/-- Whether the content is JSON by its type. -/
def Request.isJson (r : Request) : Bool :=
  r.mediaType = "application/json" ||
    (r.mediaType.startsWith "application/" && r.mediaType.endsWith "+json")

/-- The text of the body, if the content is JSON by its type. -/
def Request.jsonText? (r : Request) : Option String :=
  if r.isJson then decodeBody? r.body else Option.none

/-- The entries of the JSON object in the body; none where there is no such object. -/
def Request.fields (r : Request) : Keyed Value :=
  match r.jsonText? with
  | Option.none => []
  | some text =>
    match Json.read text with
    | .ok (.table entries) => entries
    | _ => []

/-- Whether the body is JSON that nests deeper than a reader with the limit goes. -/
def Request.nestsBeyond (r : Request) (limit : Nat) : Bool :=
  r.jsonText?.any (Json.nestsBeyond limit)

/-- The text of a field of the body; empty where the field is missing. -/
def Request.text (r : Request) (field : String) : String :=
  ((Keyed.find? field r.fields).map Value.plain).getD ""

/-- The text of a field of the body without blanks at its ends. -/
def Request.strippedText (r : Request) (field : String) : String := strip (r.text field)

/-- A response with a JSON object. -/
def Response.json (status : Nat) (entries : Keyed Value) : Response :=
  { status, body := .fields entries }

/-- The response that says all is well, with more entries. -/
def Response.okWith (entries : Keyed Value) : Response := .json 200 (("ok", .bool true) :: entries)

/-- The response that says all is well. -/
def Response.ok : Response := .okWith []

/-- A response with an error message. -/
def Response.error (status : Nat) (message : String) : Response :=
  .json status [("error", .text message)]

end AccountSidecar.Http
