import AccountSidecar.Text.Class
import AccountSidecar.Text.Split

/-!
# Credentials

The credentials of a user and the text of a users file. A line holds a username, a password hash
and, if two-factor login is on, a secret, with colons between them. Blank lines, lines that start
with `#` and malformed lines are passed over.
-/

namespace AccountSidecar.Users

open Text

/-- The credentials of a user. A blank secret means that two-factor login is off. -/
structure Credential where
  username : String
  password : String
  totpSecret : String := ""
  deriving DecidableEq, Repr, Inhabited

namespace Credential

/-- Whether two-factor login is on. -/
def totpEnabled (c : Credential) : Bool := !isBlankText c.totpSecret

/-- The line of the credentials. -/
def line (c : Credential) : String :=
  if c.totpEnabled then c.username ++ ":" ++ c.password ++ ":" ++ c.totpSecret
  else c.username ++ ":" ++ c.password

/-- The credentials of the fields of a line. Fields past the third are dropped. -/
def ofFields? : List (List Char) → Option Credential
  | username :: password :: rest =>
    if username.isEmpty || password.isEmpty then none
    else
      some {
        username := String.ofList username
        password := String.ofList password
        totpSecret := String.ofList (rest.head?.getD []) }
  | _ => none

/-- The credentials that a line holds. -/
def ofLine? (line : List Char) : Option Credential := ofFields? (pieces ':' (trimBoth isBlank line))

end Credential

/-- Whether a line of a users file is blank or a comment. -/
def isPassedOver (line : List Char) : Bool :=
  match trimStart isBlank line with
  | [] => true
  | c :: _ => c == '#'

/-- The credentials in the text of a users file. -/
def parse (text : String) : List Credential :=
  (splitLines text.toList).filterMap fun line =>
    if isPassedOver line then none else Credential.ofLine? line

/-- The text of a users file. -/
def print (credentials : List Credential) : String :=
  String.ofList (credentials.flatMap fun c => c.line.toList ++ ['\n'])

/-- The first credentials of a user. -/
def lookup? (username : String) (credentials : List Credential) : Option Credential :=
  credentials.find? fun c => c.username = username

/-- Puts credentials in the place of the first ones of the same user, or at the end. -/
def replaceOrAppend (c : Credential) : List Credential → List Credential
  | [] => [c]
  | d :: rest => if d.username = c.username then c :: rest else d :: replaceOrAppend c rest

/-- Whether a username can be written: it is not empty and holds no colon, line feed or carriage
return. -/
def isValidUsername (username : String) : Bool :=
  username != "" && !username.toList.any fun c => c == ':' || c == '\n' || c == '\r'

end AccountSidecar.Users
