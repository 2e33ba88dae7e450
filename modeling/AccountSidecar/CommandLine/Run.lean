import AccountSidecar.Account.TwoFactor
import AccountSidecar.CommandLine.Command
import AccountSidecar.Text.Split

/-!
# Running commands

What each command does to the files and what it reports. A password comes from the first line of
the input, or from two prompts that must agree. A store's own errors are reported; other failures
come through. The report is printed in the end, when all files are written, and an outlet may not
take it (`Outlets`).
-/

namespace AccountSidecar.CommandLine

open Text Storage AccountSidecar.Action

/-- What a user types. -/
structure Terminal where
  /-- The text of the input. -/
  input : String := ""
  /-- The answers to prompts, in order; one that is missing is empty. -/
  answers : List String := []
  deriving DecidableEq, Repr

/-- What a run reports. -/
structure Report where
  code : Nat
  output : String := ""
  errors : String := ""
  /-- The prompts that were shown. -/
  asked : List String := []
  deriving DecidableEq, Repr

/-- The code of a run that did what it was asked for. -/
def doneCode : Nat := 0

/-- The code of a run that failed, or that named no command. -/
def failedCode : Nat := 1

/-- The code of a run whose command line is refused. -/
def refusedCode : Nat := 2

/-- An error as it is shown. -/
def errorLine (message : String) : String := "Error: " ++ message ++ "\n"

/-- The report of a command that is done. -/
def Report.done (line : String) : Report := { code := doneCode, output := line ++ "\n" }

/-- The report of a command that failed. -/
def Report.failed (message : String) : Report := { code := failedCode, errors := errorLine message }

/-- The prompts for a new password. -/
def passwordPrompts : List String := ["Password: ", "Confirm password: "]

/-- A password that was read, the prompts shown for it and the errors on the way. -/
structure PasswordEntry where
  password : String
  asked : List String := []
  errors : String := ""
  deriving DecidableEq, Repr

/-- Reads a password. Answers that differ give none. -/
def readPassword (t : Terminal) (fromInput : Bool) : PasswordEntry :=
  if fromInput then
    { password := String.ofList ((recordLines t.input.toList).headD []) }
  else
    let answer (i : Nat) : String := t.answers.getD i ""
    if answer 0 = answer 1 then { password := answer 0, asked := passwordPrompts }
    else
      { password := "", asked := passwordPrompts, errors := errorLine "Passwords do not match" }

/-- Why a password cannot be taken, if it cannot. -/
def passwordFault? (password : String) : Option String :=
  if password = "" then some "Password is required"
  else if Password.isTooLong password then
    some ("Password is longer than " ++ toString Password.maxBytes ++ " bytes")
  else none

/-- The message of a failure that a store reports as its own error. -/
def reportedMessage? : Failure → Option String
  | .users e => if e.isReported then some e.message else none
  | .metadata e => if e.isReported then some e.message else none
  | _ => none

/-- Turns the own errors of the stores into reports. -/
def reporting (a : Action Report) : Action Report :=
  tryCatch a fun e =>
    match reportedMessage? e with
    | some message => pure (.failed message)
    | none => throw e

/-- A row of the table of users. -/
def userRow (username totp phone : String) : String :=
  padEnd 32 username ++ " " ++ padEnd 6 totp ++ " " ++ phone ++ "\n"

/-- The table of users. -/
def userTable (metadata : Keyed Metadata.Entry) (users : List Users.Credential) : String :=
  let row (c : Users.Credential) : String :=
    let phone := ((metadata.find? c.username).getD {}).phone
    userRow c.username (if c.totpEnabled then "Yes" else "No") (if phone = "" then "-" else phone)
  userRow "Username" "TOTP" "Phone" ++ String.ofList (List.replicate 60 '-') ++ "\n" ++
    String.join (users.map row) ++ "\nTotal: " ++ toString users.length ++ " user(s)\n"

/-- Lists all users. -/
def listUsers (d : Deployment) : Action Report := do
  let users ← credentials d
  openMetadata d
  if users.isEmpty then pure (.done "No users found.")
  else
    pure { code := doneCode, output := userTable (← get).metadata users }

/-- Writes credentials with a new password that is read first. -/
def writePassword (d : Deployment) (t : Terminal) (fromInput : Bool) (c : Users.Credential)
    (line : String) : Action Report := do
  let entry := readPassword t fromInput
  let report ←
    match passwordFault? entry.password with
    | some message => pure (.failed message)
    | none =>
      reporting do
        let hash ← hashPassword d entry.password
        upsertUser d { c with password := hash }
        pure (.done line)
  pure { report with asked := entry.asked, errors := entry.errors ++ report.errors }

/-- Adds a user who must not exist. -/
def addUser (d : Deployment) (t : Terminal) (username : String) (fromInput : Bool) :
    Action Report := do
  match ← findUser d username with
  | some _ => pure (.failed ("Username '" ++ username ++ "' already exists"))
  | none =>
    writePassword d t fromInput { username, password := "" } ("User '" ++ username ++ "' created.")

/-- Does something with the credentials of a user who must exist. -/
def withUser (d : Deployment) (username : String) (f : Users.Credential → Action Report) :
    Action Report := do
  match ← findUser d username with
  | some c => f c
  | none => pure (.failed ("User '" ++ username ++ "' not found"))

/-- Turns off two-factor login. -/
def turnOffTotp (d : Deployment) (c : Users.Credential) : Action Report := do
  if c.totpEnabled then
    upsertUser d { c with totpSecret := "" }
    pure (.done ("TOTP disabled for '" ++ c.username ++ "'."))
  else pure (.done ("User '" ++ c.username ++ "' has no TOTP configured."))

/-- Carries out a command. -/
def Command.perform (d : Deployment) (t : Terminal) : Command → Action Report
  | .list => reporting (listUsers d)
  | .add username fromInput => reporting (addUser d t username fromInput)
  | .setPassword username fromInput =>
    reporting (withUser d username fun c =>
      writePassword d t fromInput c ("Password updated for '" ++ username ++ "'."))
  | .setPhone username phone =>
    reporting do
      openMetadata d
      Action.setPhone d username phone
      let shown := if phone = "" then "(none)" else phone
      pure (.done ("Phone for '" ++ username ++ "' set to " ++ shown ++ "."))
  | .resetTotp username => reporting (withUser d username (turnOffTotp d))
  | .recoveryKey username => pure (.done (Account.recoveryKey username))

/-- The files that an invocation works on, and the sources of fresh values. -/
def Invocation.deployment (i : Invocation) (sources : Sources) : Deployment :=
  { sources
    usersFile := Location.ofText i.usersPath
    metadataFile := Location.ofText i.metadataPath }

/-- Does what an invocation asks for; without a command it shows the help. -/
def Invocation.perform (i : Invocation) (sources : Sources) (t : Terminal) : Action Report :=
  match i.command with
  | some c => c.perform (i.deployment sources) t
  | none => pure { code := failedCode, output := programGrammar.help }

/-- What is reported where reading the command line ends early. -/
def Stop.report : Stop → Report
  | .help text => { code := doneCode, output := text }
  | .refused g message =>
    { code := refusedCode, errors := g.usage ++ g.program ++ ": error: " ++ message ++ "\n" }

/-- Runs a command line in an environment. -/
def run (env : Keyed String) (sources : Sources) (t : Terminal) (args : List String) :
    Action Report :=
  match Invocation.read env args with
  | .ok i => i.perform sources t
  | .error stop => pure stop.report

/-- Where a run prints. An outlet need not take every text: its encoding may lack a character, or
what stands behind it may be full or closed. -/
structure Outlets where
  /-- Whether the output takes a text. -/
  output : String → Bool := fun _ => true
  /-- Whether the errors take a text. -/
  errors : String → Bool := fun _ => true

/-- Whether the outlets take all that a report prints. -/
def Outlets.take (o : Outlets) (r : Report) : Bool :=
  (r.output = "" || o.output r.output) && (r.errors = "" || o.errors r.errors)

/-- How a run ends. -/
inductive Ending where
  /-- The report is printed and the run returns its code. -/
  | reported (r : Report)
  /-- A failure comes through before there is a report. -/
  | failed (e : Failure)
  /-- There is a report that the outlets do not take, and the failure to print it comes through. -/
  | unprinted (r : Report)

/-- The end of a run with this report. -/
def Outlets.ending (o : Outlets) (r : Report) : Ending :=
  if o.take r then .reported r else .unprinted r

/-- Does something and prints the report of it. -/
def Outlets.print (o : Outlets) (a : Action Report) : Action Ending :=
  tryCatch (o.ending <$> a) fun e => pure (.failed e)

/-- Runs a command line in an environment and prints its report. -/
def runOn (o : Outlets) (env : Keyed String) (sources : Sources) (t : Terminal)
    (args : List String) : Action Ending :=
  o.print (run env sources t args)

end AccountSidecar.CommandLine
