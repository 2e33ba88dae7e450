import AccountSidecar.Text.Case
import AccountSidecar.Value

/-!
# Webhook targets

A target describes one outgoing call. Its address, its body and the values of its headers are
templates; its environment gives values to their names.
-/

namespace AccountSidecar.Webhook

/-- The content type of a call where a target names none. -/
def jsonContentType : String := "application/json"

/-- One outgoing call. -/
structure Target where
  name : String := ""
  url : String := ""
  method : String := "POST"
  contentType : String := jsonContentType
  body : String := ""
  headers : Keyed String := []
  skipTlsVerify : Bool := false
  env : Keyed String := []
  deriving DecidableEq, Repr, Inhabited

/-- Why a record does not describe a target. -/
inductive TargetFault where
  /-- Headers or an environment that hold no entries. -/
  | notATable
  deriving DecidableEq, Repr

namespace Target

/-- The first of the fields that counts as true. -/
def firstTrue? (record : Keyed Value) (keys : List String) : Option Value :=
  keys.findSome? fun key =>
    match Keyed.find? key record with
    | some v => if v.isTrue then some v else none
    | none => none

/-- The text of the first of the fields that counts as true, or the default. -/
def textField (record : Keyed Value) (keys : List String) (default : String) : String :=
  match firstTrue? record keys with
  | some v => v.plain
  | none => default

/-- The entries of a field as texts; a field that counts as false has none. -/
def textTable (record : Keyed Value) (key : String) : Except TargetFault (Keyed String) :=
  match firstTrue? record [key] with
  | none => .ok []
  | some (.table entries) => .ok (Keyed.mapValues Value.plain entries)
  | some _ => .error .notATable

/-- The target that a record describes. -/
def ofRecord (record : Keyed Value) : Except TargetFault Target :=
  match textTable record "headers", textTable record "env" with
  | .ok headers, .ok env =>
    .ok {
      name := textField record ["name"] ""
      url := textField record ["url"] ""
      method := Text.upper (textField record ["method"] "POST")
      contentType := textField record ["content_type", "contentType"] jsonContentType
      body := textField record ["body"] ""
      headers
      skipTlsVerify := (firstTrue? record ["skip_tls_verify", "skipTLSVerify"]).isSome
      env }
  | .error e, _ => .error e
  | _, .error e => .error e

end Target

end AccountSidecar.Webhook
