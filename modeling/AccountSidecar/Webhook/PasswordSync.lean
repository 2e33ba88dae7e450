import AccountSidecar.Json.Reader
import AccountSidecar.Text.Class
import AccountSidecar.Webhook.Delivery

/-!
# Pushing changed passwords

A changed password is delivered to every target, each on its own. The errors are those of the
targets that failed; whoever changed the password never waits for them.
-/

namespace AccountSidecar.Webhook

/-- A password that has been set. -/
structure PasswordChanged where
  username : String
  password : String
  hashedPassword : String
  deriving DecidableEq, Repr

/-- The values that a changed password gives to names. -/
def PasswordChanged.variables (event : PasswordChanged) : Keyed String :=
  [("Username", event.username), ("Password", event.password),
    ("HashedPassword", event.hashedPassword)]

/-- Why a list of targets cannot be taken. -/
inductive TargetsFault where
  | numberTooLong
  | target (fault : TargetFault)
  deriving DecidableEq, Repr

/-- The records among the items of a list. -/
def recordsIn (items : List Value) : List (Keyed Value) :=
  items.filterMap fun
    | .table entries => some entries
    | _ => none

/-- The targets of what was read; what is no list of records gives none. -/
def targetsOf : Except Json.ReadError Value → Except TargetsFault (List Target)
  | .error .numberTooLong => .error .numberTooLong
  | .ok (.list items) =>
    match (recordsIn items).mapM Target.ofRecord with
    | .ok targets => .ok targets
    | .error e => .error (.target e)
  | .ok _ | .error _ => .ok []

/-- Reads a list of targets with a reader that goes no deeper than the limit. Nothing comes of one
that nests deeper: whoever asked for it gets the interpreter's own exception. -/
def parseTargetsWithin? (limit : Nat) (raw : Option String) :
    Option (Except TargetsFault (List Target)) :=
  match raw with
  | none => some (.ok [])
  | some text =>
    if Text.isBlankText text then some (.ok [])
    else
      match Json.readWithin limit text with
      | .error .tooDeep => none
      | result => some (targetsOf result)

/-- Reads a list of targets, however deep. -/
def parseTargets (raw : Option String) : Except TargetsFault (List Target) :=
  match raw with
  | none => .ok []
  | some text => if Text.isBlankText text then .ok [] else targetsOf (Json.read text)

/-- What became of the delivery to one target. -/
structure TargetOutcome where
  target : String
  delivery : Delivery

/-- An error of one target. -/
structure TargetError where
  target : String
  failure : DeliveryFailure
  deriving DecidableEq, Repr

/-- The text of an error. -/
def TargetError.message (e : TargetError) : String := e.target ++ ": " ++ e.failure.reason

/-- The error of a target whose delivery failed. -/
def TargetOutcome.error? (outcome : TargetOutcome) : Option TargetError :=
  match outcome.delivery.result with
  | .ok _ => none
  | .error failure => some ⟨outcome.target, failure⟩

/-- Delivers a changed password to every target. -/
def syncPassword (network : Network) (targets : List Target) (event : PasswordChanged)
    (timeout : Int) : List TargetOutcome :=
  targets.map fun target => ⟨target.name, deliver network target event.variables timeout⟩

/-- The errors among outcomes. -/
def syncErrors (outcomes : List TargetOutcome) : List TargetError :=
  outcomes.filterMap TargetOutcome.error?

/-- The calls that outcomes made. -/
def syncRequests (outcomes : List TargetOutcome) : List Request :=
  outcomes.flatMap fun outcome => outcome.delivery.requests

/-- A notification about a changed password: the name of the thread that delivers it, if there is
anything to deliver, and what becomes of the deliveries. -/
structure Notification where
  thread : Option String
  outcomes : List TargetOutcome

/-- Starts the delivery of a changed password; without targets there is nothing to start. -/
def notify (network : Network) (targets : List Target) (event : PasswordChanged) (timeout : Int) :
    Notification :=
  if targets.isEmpty then ⟨none, []⟩
  else
    ⟨some ("password-sync-" ++ event.username), syncPassword network targets event timeout⟩

/-- The log line of an error. -/
def TargetError.logLine (e : TargetError) : String := "Password sync error: " ++ e.message

end AccountSidecar.Webhook
