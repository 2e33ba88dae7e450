import AccountSidecar.Config.Settings
import AccountSidecar.Metadata.Store

/-!
# Starting the server

What happens between the start of the server and its first request: the log level is checked, the
settings are resolved, the metadata is opened, and the server begins to listen.
-/

namespace AccountSidecar.Server

open Config Storage

/-- How much is logged. -/
inductive LogLevel where
  | all
  | debug
  | info
  | warning
  | error
  | critical
  deriving DecidableEq, Repr

/-- The level with a name. -/
def LogLevel.named? (name : String) : Option LogLevel :=
  if name = "NOTSET" then some .all
  else if name = "DEBUG" then some .debug
  else if name = "INFO" then some .info
  else if name = "WARNING" || name = "WARN" then some .warning
  else if name = "ERROR" then some .error
  else if name = "CRITICAL" || name = "FATAL" then some .critical
  else none

/-- The name of a level. -/
def LogLevel.label : LogLevel → String
  | .all => "NOTSET"
  | .debug => "DEBUG"
  | .info => "INFO"
  | .warning => "WARNING"
  | .error => "ERROR"
  | .critical => "CRITICAL"

/-- How the server listens. -/
inductive Listener where
  | production (port : Int) (threads : Nat)
  | development (port : Int) (debug : Bool)
  deriving DecidableEq, Repr

/-- The address at which the server listens: every interface. -/
def listenAddress : String := "0.0.0.0"

/-- How many requests a production server handles at once. -/
def productionThreads : Nat := 8

/-- Why the server does not come up. -/
inductive StartFault where
  | unknownLevel
  | settings (fault : SettingsFault)
  /-- The metadata holds what its store does not report as an error of its own. -/
  | metadata (fault : Metadata.StoreError)
  deriving DecidableEq, Repr

/-- A server that listens, or one that exits because its metadata cannot be opened. -/
structure Startup where
  level : LogLevel
  /-- Nothing where the metadata cannot be opened. -/
  listener : Option Listener
  deriving DecidableEq, Repr

/-- The code with which the server exits where its metadata cannot be opened. -/
def failureCode : Nat := 1

/-- The metadata file where neither the settings nor the environment name one. -/
def defaultMetadataPath : String := "/users/users.toml"

/-- The path of the metadata file. -/
def metadataPath (source : Source) (settings : Settings) : String :=
  if settings.usersTomlPath != "" then settings.usersTomlPath
  else ((Keyed.find? "USERS_TOML" source.env).filter (· != "")).getD defaultMetadataPath

/-- Whether a variable of the environment says yes; blanks around the word are not dropped. -/
def saysYes (source : Source) (key default : String) : Bool :=
  trueWords.contains (Text.lower ((Keyed.find? key source.env).getD default))

/-- The way in which the server listens. -/
def listenerOf (source : Source) (settings : Settings) : Listener :=
  if saysYes source "USE_WAITRESS" "true" then .production settings.port productionThreads
  else .development settings.port (saysYes source "FLASK_DEBUG" "false")

/-- Starts the server on the files there are. -/
def start (files : FileTree) (source : Source) : Except StartFault Startup :=
  match LogLevel.named? (Text.upper ((Keyed.find? "LOG_LEVEL" source.env).getD "INFO")) with
  | none => .error .unknownLevel
  | some level =>
    match Settings.load source with
    | .error e => .error (.settings e)
    | .ok settings =>
      let file := Location.ofText (metadataPath source settings)
      match (Metadata.openAt Metadata.usualCalls files file).1 with
      | .ok _ => .ok ⟨level, some (listenerOf source settings)⟩
      | .error e => if e.isReported then .ok ⟨level, none⟩ else .error (.metadata e)

end AccountSidecar.Server
