import AccountSidecar.Account.Signup
import AccountSidecar.Account.SmsReset
import AccountSidecar.Account.TwoFactor
import AccountSidecar.Session

/-!
# Operations and runs

Every operation of the service as a value, what else may happen between operations, and runs of
both. A run starts from a world and goes through a list of events; whatever an operation changed
before it failed stays changed.
-/

namespace AccountSidecar

open Storage

/-- An operation of the service with its arguments. -/
inductive Operation where
  | login (username password : String)
  | logout (token : String)
  | sessionUsername (token : Option String)
  | requestPasswordReset (username : String)
  | resetPassword (token password : String)
  | signup (username email password phone : String)
  | approveSignup (id : String)
  | profile (username : String)
  | changePassword (username oldPassword newPassword : String)
  | setPhone (username phone : String)
  | setupTotp (username : String)
  | enableTotp (username secret code : String)
  | disableTotp (username password : String)
  | recoverTotp (username key secret code : String)
  | smsEnabled
  | requestSmsReset (phone : String)
  | resetPasswordSms (phone code password : String)
  | purgeExpired
  deriving DecidableEq, Repr

/-- What an operation returns. -/
inductive Reply where
  | done
  | text (s : String)
  | flag (b : Bool)
  | count (n : Nat)
  | signup (r : Account.SignupResult)
  | profile (p : Account.Profile)
  | setup (s : Totp.Setup)
  deriving DecidableEq, Repr

/-- Carries out an operation. -/
def Operation.perform (d : Deployment) : Operation → Action Reply
  | .login u p => .text <$> Session.login d u p
  | .logout t => do Session.logout t; pure .done
  | .sessionUsername t => .text <$> Session.username t
  | .requestPasswordReset u => do Account.requestPasswordReset d u; pure .done
  | .resetPassword t p => do Account.resetPassword d t p; pure .done
  | .signup u e p ph => .signup <$> Account.signup d u e p ph
  | .approveSignup id => do Account.approveSignup d id; pure .done
  | .profile u => .profile <$> Account.profile d u
  | .changePassword u o n => do Account.changePassword d u o n; pure .done
  | .setPhone u p => do Action.setPhone d u p; pure .done
  | .setupTotp u => .setup <$> Account.setupTotp d u
  | .enableTotp u s c => do Account.enableTotp d u s c; pure .done
  | .disableTotp u p => do Account.disableTotp d u p; pure .done
  | .recoverTotp u k s c => do Account.recoverTotp d u k s c; pure .done
  | .smsEnabled => pure (.flag d.smsEnabled)
  | .requestSmsReset p => do Account.requestSmsReset d p; pure .done
  | .resetPasswordSms p c n => do Account.resetPasswordSms d p c n; pure .done
  | .purgeExpired => .count <$> Action.purgeExpired

/-- What happens from one moment to the next: an operation, or a change of the surroundings. -/
inductive Event where
  | operation (op : Operation)
  /-- The clock reads another time. -/
  | clock (seconds : Int)
  /-- A collaborator starts or stops failing. -/
  | failing (c : Collaborator) (on : Bool)
  /-- Others change the files. -/
  | files (f : FileTree → FileTree)

/-- Starts or stops the failing of a collaborator. -/
def World.setFailing (w : World) (c : Collaborator) (on : Bool) : World :=
  let others := w.failing.filter (· ≠ c)
  { w with failing := if on then c :: others else others }

/-- What an event returns, and the world after it. -/
def Event.run (d : Deployment) (w : World) : Event → Except Failure Reply × World
  | .operation op => (op.perform d).runIn w
  | .clock seconds => (.ok .done, { w with clock := seconds })
  | .failing c on => (.ok .done, w.setFailing c on)
  | .files f => (.ok .done, { w with files := f w.files })

/-- The world after a run. -/
def World.after (d : Deployment) (w : World) (events : List Event) : World :=
  events.foldl (fun w e => (e.run d w).2) w

/-- Opens the metadata of a deployment and starts with empty tables. -/
def World.start (d : Deployment) (files : FileTree) (clock : Int) :
    Except Failure World × FileTree :=
  match Metadata.openAt d.calls files d.metadataFile with
  | (.error e, files) => (.error (.metadata e), files)
  | (.ok metadata, files) => (.ok { files, metadata, clock }, files)

end AccountSidecar
