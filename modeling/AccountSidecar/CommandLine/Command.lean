import AccountSidecar.CommandLine.Arguments

/-!
# The commands of the admin tool

What the admin tool takes on its command line, and the commands that it understands.
-/

namespace AccountSidecar.CommandLine

/-- A command. -/
inductive Command where
  | list
  | add (username : String) (fromInput : Bool)
  | setPassword (username : String) (fromInput : Bool)
  | setPhone (username phone : String)
  | resetTotp (username : String)
  | recoveryKey (username : String)
  deriving DecidableEq, Repr

/-- What a command line asks for: a command, if it names one, on two files. -/
structure Invocation where
  usersPath : String
  metadataPath : String
  command : Option Command
  deriving DecidableEq, Repr

/-- The name of the program. -/
def programName : String := "tinyauth-user"

/-- The option that names the users file. -/
def usersFileOption : OptionSpec :=
  ⟨"users_file", ["--users-file", "-u"], .value "USERS_FILE",
    "Path to tinyauth users file (default: $USERS_FILE_PATH or /data/users.txt)"⟩

/-- The option that names the metadata file. -/
def usersTomlOption : OptionSpec :=
  ⟨"users_toml", ["--users-toml", "-m"], .value "USERS_TOML",
    "Path to metadata file (default: $USERS_TOML or /users/users.toml)"⟩

/-- The option that has the password read from the input. -/
def fromInputOption : OptionSpec :=
  ⟨"password_stdin", ["--password-stdin"], .flag, "Read password from stdin"⟩

/-- The argument that names a user. -/
def usernameArgument (help : String) : Positional := ⟨"username", help⟩

/-- The argument that gives a phone. -/
def phoneArgument : Positional := ⟨"phone", "Phone number (empty string to clear)"⟩

/-- The commands and what is said about each. -/
def commandNames : List (String × String) :=
  [("list", "List all users"), ("add", "Add a new user"), ("passwd", "Set a user's password"),
    ("phone", "Set a user's recovery phone"), ("totp-reset", "Disable TOTP for a user"),
    ("recovery-key", "Show TOTP recovery key")]

/-- What the program takes. -/
def programGrammar : Grammar :=
  { program := programName
    description := "Manage tinyauth users and their account metadata"
    options := [helpOption, usersFileOption, usersTomlOption]
    commands := commandNames }

/-- What a command takes. -/
def commandGrammar (name : String) : Grammar :=
  let takesPassword := name = "add" || name = "passwd"
  let username :=
    usernameArgument (if name = "add" then "Username (usually an email address)" else "Username")
  { program := programName ++ " " ++ name
    options := helpOption :: (if takesPassword then [fromInputOption] else [])
    positionals :=
      if name = "list" then []
      else if name = "phone" then [username, phoneArgument]
      else [username] }

/-- The command that a name and what follows it ask for. -/
def Reading.command? (r : Reading) (name : String) : Option Command :=
  let argument (p : String) : String := (r.values.find? p).getD ""
  let username := argument "username"
  let fromInput := r.flags.contains fromInputOption.key
  if name = "list" then some .list
  else if name = "add" then some (.add username fromInput)
  else if name = "passwd" then some (.setPassword username fromInput)
  else if name = "phone" then some (.setPhone username (argument phoneArgument.key))
  else if name = "totp-reset" then some (.resetTotp username)
  else if name = "recovery-key" then some (.recoveryKey username)
  else none

/-- The users file where neither the command line nor the environment names one. -/
def defaultUsersPath : String := "/data/users.txt"

/-- The metadata file where neither the command line nor the environment names one. -/
def defaultMetadataPath : String := "/users/users.toml"

/-- Refuses what nothing took. -/
def refuseExtras (extras : List String) : Except Stop Unit :=
  if extras.isEmpty then .ok ()
  else
    .error (.refused programGrammar ("unrecognized arguments: " ++ Text.joinWith " " extras))

/-- The metadata file that a path names; an empty path leaves the choice to the environment. -/
def metadataPathFor (env : Keyed String) (path : String) : String :=
  if path != "" then path
  else ((env.find? "USERS_TOML").filter (· != "")).getD defaultMetadataPath

/-- Reads a command line in an environment. -/
def Invocation.read (env : Keyed String) (args : List String) : Except Stop Invocation := do
  let top ← programGrammar.read args
  let usersPath := (top.values.find? usersFileOption.key).getD
    ((env.find? "USERS_FILE_PATH").getD defaultUsersPath)
  let metadataPath := metadataPathFor env
    ((top.values.find? usersTomlOption.key).getD
      ((env.find? "USERS_TOML").getD defaultMetadataPath))
  match top.command with
  | none =>
    refuseExtras top.extras
    return ⟨usersPath, metadataPath, none⟩
  | some (name, rest) =>
    let inner ← (commandGrammar name).read rest
    refuseExtras (top.extras ++ inner.extras)
    return ⟨usersPath, metadataPath, inner.command? name⟩

end AccountSidecar.CommandLine
