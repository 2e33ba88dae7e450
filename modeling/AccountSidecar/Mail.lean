import AccountSidecar.Text.Class
import AccountSidecar.Text.Percent
import AccountSidecar.Text.Split

/-!
# Reset mails

A reset link goes to the user by mail. Where no mail host is set, the link is logged instead.
-/

namespace AccountSidecar.Mail

/-- Who sends mails, and through which host. -/
structure Mailer where
  host : String := ""
  port : Int := 587
  username : String := ""
  password : String := ""
  sender : String := "noreply@example.local"
  /-- The address of the site that the links lead to. -/
  baseUrl : String := "http://localhost:8080"
  deriving DecidableEq, Repr

/-- The link that resets a password with a token. -/
def Mailer.resetLink (mailer : Mailer) (token : String) : String :=
  Text.stripEndChar '/' mailer.baseUrl ++ "/reset-password?token=" ++ Text.percentEncode ['/'] token

/-- One alternative of the content of a mail. -/
structure Part where
  contentType : String
  charset : String
  content : String
  deriving DecidableEq, Repr

/-- A mail. -/
structure Message where
  subject : String
  sender : String
  recipient : String
  /-- The alternatives, from the plainest to the richest. -/
  parts : List Part
  deriving DecidableEq, Repr

/-- The type of a mail with alternatives. -/
def alternativeType : String := "multipart/alternative"

/-- A part in the narrowest character set that has its characters. Content in ASCII is sent line by
line, so its line ends become line feeds. -/
def Part.of (contentType content : String) : Part :=
  if content.toList.all fun c => c.toNat < 0x80 then
    ⟨contentType, "us-ascii", String.ofList (Text.unifyNewlines content.toList)⟩
  else ⟨contentType, "utf-8", content⟩

/-- The plain text of a reset mail. -/
def plainContent (username link : String) : String :=
  "\nHello " ++ username ++ ",\n\nA password reset was requested for your account.\n\n" ++
    "Reset your password here: " ++ link ++ "\n\n" ++
    "If you didn't request this, you can safely ignore this email.\n"

/-- The page of a reset mail. -/
def htmlContent (username link : String) : String :=
  "\n<!DOCTYPE html>\n<html>\n<body style=\"font-family: sans-serif;\">\n" ++
    "    <p>Hello " ++ username ++ ",</p>\n" ++
    "    <p>A password reset was requested for your account.</p>\n" ++
    "    <p><a href=\"" ++ link ++ "\">Reset your password</a></p>\n" ++
    "    <p style=\"color: #888; font-size: 0.9em;\">\n" ++
    "        If you didn't request this, you can safely ignore this email.\n" ++
    "    </p>\n</body>\n</html>\n"

/-- The mail that brings a user the link. -/
def Mailer.resetMessage (mailer : Mailer) (username token : String) : Message :=
  let link := mailer.resetLink token
  { subject := "Password reset", sender := mailer.sender, recipient := username
    parts := [Part.of "text/plain" (plainContent username link),
      Part.of "text/html" (htmlContent username link)] }

/-- A step of a conversation with a mail host. -/
inductive Step where
  | connect (host : String) (port timeout : Int)
  | startTls
  | login (username password : String)
  | send (sender recipient : String) (message : Message)
  deriving DecidableEq, Repr

/-- A mail host as the function from steps to the names of the errors that they end with. -/
abbrev Host := Step → Option String

/-- Seconds to wait for a mail host. -/
def hostTimeout : Int := 30

/-- The steps that deliver a message. A user who has a name and a password logs in over an encrypted
connection. -/
def Mailer.steps (mailer : Mailer) (message : Message) : List Step :=
  let login :=
    if mailer.username != "" && mailer.password != "" then
      [.startTls, .login mailer.username mailer.password]
    else []
  [.connect mailer.host mailer.port hostTimeout] ++ login ++
    [.send mailer.sender message.recipient message]

/-- Takes steps until one fails: the steps done and the error of the one that failed. -/
def runSteps (host : Host) : List Step → List Step × Option String
  | [] => ([], none)
  | step :: rest =>
    match host step with
    | some error => ([], some error)
    | none =>
      let (done, error) := runSteps host rest
      (step :: done, error)

/-- How an attempt to send a reset mail ends. -/
inductive Outcome where
  | sent (done : List Step)
  /-- The error is known by its name alone, since its text may tell an address. -/
  | failed (done : List Step) (error : String)
  /-- No host is set, so the link is logged. -/
  | logged (line : String)
  deriving DecidableEq, Repr

/-- Sends a user the link that resets the password with a token. -/
def Mailer.sendReset (mailer : Mailer) (host : Host) (username token : String) : Outcome :=
  if mailer.host = "" then
    .logged ("SMTP_HOST not set; reset link for " ++ username ++ ": " ++ mailer.resetLink token)
  else
    match runSteps host (mailer.steps (mailer.resetMessage username token)) with
    | (done, none) => .sent done
    | (done, some error) => .failed done error

/-- What a failed attempt reports. -/
def failureMessage (error : String) : String := "send reset email: " ++ error

/-- What a failed attempt logs. -/
def failureLine (error : String) : String := "Failed to send reset email: " ++ error

end AccountSidecar.Mail
