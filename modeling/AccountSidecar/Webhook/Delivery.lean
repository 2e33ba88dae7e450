import AccountSidecar.Template.Rendering
import AccountSidecar.Text.Lossy
import AccountSidecar.Webhook.Target

/-!
# Delivery of webhooks

A delivery renders every template of a target and only then makes the one call. It succeeds with
the status of the reply when that is below 400. The template engine and what makes the call are
parameters (`Engine`, `Transport`): both may let exceptions out that a delivery does not report.
`deliver` is the delivery with the engine of `Template.Rendering` on a network that always answers.
-/

namespace AccountSidecar.Webhook

/-- An outgoing call, ready to be made, over the texts that an engine makes. -/
structure Call (τ : Type) where
  method : String
  url : τ
  body : τ
  headers : Keyed τ
  /-- Seconds to wait for a reply. -/
  timeout : Int
  /-- Whether the certificate of the other side is verified. -/
  verify : Bool
  deriving DecidableEq, Repr

/-- A call over plain texts. -/
abbrev Request := Call String

/-- What comes of a call. -/
inductive Reply where
  | response (status : Int) (body : List UInt8)
  | failure (reason : String)
  deriving DecidableEq, Repr

/-- The outside world as a function from calls to what comes of them. -/
abbrev Network := Request → Reply

/-- What becomes of a call that is handed over to be made. -/
inductive Sending where
  /-- It goes out, or fails as calls do. -/
  | answered (reply : Reply)
  /-- An exception of another kind comes out, as where a header or the method cannot be encoded,
  before anything was sent or after. -/
  | escaped (sent : Bool) (kind reason : String)
  deriving DecidableEq, Repr

/-- What makes calls, as a function from calls to what becomes of them. -/
abbrev Transport (τ : Type) := Call τ → Sending

/-- A template engine. Its texts need not be plain ones: half a character may stand in them, which
no encoding has. -/
structure Engine (τ : Type) where
  /-- The text of the engine for a plain text. -/
  ofText : String → τ
  /-- The output of a template, all of whose placeholders are in plain form, with texts for its
  names. -/
  render : List Char → Keyed String → Except Template.Fault τ
  /-- Whether a text can be encoded. -/
  encodes : τ → Bool

/-- The engine for plain texts. -/
def Engine.standard : Engine String where
  ofText := id
  render := Template.outputOf
  encodes _ := true

/-- The output of a template whose placeholders may be dotted. -/
def Engine.output {τ : Type} (engine : Engine τ) (source : String) (data : Keyed String) :
    Except Template.Fault τ :=
  engine.render (Template.undotted source.toList) data

/-- A part of a target that is a template. -/
inductive TemplateField where
  | url
  | body
  | header (key : String)
  deriving DecidableEq, Repr

/-- How errors name a part of a target. -/
def TemplateField.label : TemplateField → String
  | .url => "url"
  | .body => "body"
  | .header key => "header " ++ key

/-- Why a delivery fails. -/
inductive DeliveryFailure where
  /-- A template is at fault. -/
  | template (field : TemplateField) (fault : Template.Fault)
  /-- An operation in a template cannot be done. -/
  | operation (kind : Template.OperationFault) (reason : String)
  /-- The call cannot be made, for a reason that calls do not fail for. -/
  | escaped (kind reason : String)
  /-- No reply came. -/
  | transport (reason : String)
  /-- The reply refuses the call. -/
  | refused (status : Int) (excerpt : String)
  deriving DecidableEq, Repr

/-- Whether the failure is one that a delivery reports about its target; the others come from the
values in its templates, or from texts that cannot be sent. -/
def DeliveryFailure.isReported : DeliveryFailure → Bool
  | .operation _ _ | .escaped _ _ => false
  | _ => true

/-- The reason for a failure in words. -/
def DeliveryFailure.reason : DeliveryFailure → String
  | .template field _ => "template " ++ field.label
  | .operation kind reason => kind.label ++ ": " ++ reason
  | .escaped kind reason => kind ++ ": " ++ reason
  | .transport reason => "http request: " ++ reason
  | .refused status excerpt => "HTTP " ++ toString status ++ ": " ++ excerpt

/-- Seconds to wait for a reply where nothing else is asked for. -/
def defaultTimeout : Int := 15

/-- How many bytes of a refusing reply are kept. -/
def maxExcerpt : Nat := 1024

/-- The values of the names in the templates of a target: those of the call, over which its
environment wins. -/
def templateData (env vars : Keyed String) : Keyed String := vars.merge env

section

variable {τ : Type} (engine : Engine τ)

/-- Renders one template of a target. -/
def renderField (field : TemplateField) (source : String) (data : Keyed String) :
    Except DeliveryFailure τ :=
  match engine.output source data with
  | .ok s => .ok s
  | .error (.operation kind reason) => .error (.operation kind reason)
  | .error fault => .error (.template field fault)

/-- Renders headers one by one and sets them among those there already. -/
def renderHeaders (data : Keyed String) :
    Keyed String → Keyed τ → Except DeliveryFailure (Keyed τ)
  | [], done => .ok done
  | (key, source) :: rest, done =>
    match renderField engine (.header key) source data with
    | .error e => .error e
    | .ok s => renderHeaders data rest (done.put key s)

/-- The call that a target asks for, with every template rendered. -/
def Target.rendered (target : Target) (vars : Keyed String) (timeout : Int) :
    Except DeliveryFailure (Call τ) := do
  let data := templateData target.env vars
  let url ← renderField engine .url target.url data
  let body ← renderField engine .body target.body data
  let headers ← renderHeaders engine data target.headers
    [("Content-Type", engine.ofText target.contentType)]
  return {
    method := target.method, url, body, headers, timeout, verify := !target.skipTlsVerify }

/-- The call of a target as it is handed over to be made: its body must have an encoding. -/
def Target.callWith (target : Target) (vars : Keyed String) (timeout : Int) :
    Except DeliveryFailure (Call τ) := do
  let call ← target.rendered engine vars timeout
  if engine.encodes call.body then return call
  else throw (.escaped "UnicodeEncodeError" "surrogates not allowed")

/-- The call of a target over plain texts. -/
def Target.request (target : Target) (vars : Keyed String) (timeout : Int) :
    Except DeliveryFailure Request :=
  target.callWith .standard vars timeout

/-- What a reply means for a delivery. -/
def Reply.result : Reply → Except DeliveryFailure Int
  | .failure reason => .error (.transport reason)
  | .response status body =>
    if status < 400 then .ok status
    else .error (.refused status (Text.decodeLossy (body.take maxExcerpt)))

/-- The calls that went out and how the delivery ended. -/
structure Outcome (τ : Type) where
  requests : List (Call τ)
  result : Except DeliveryFailure Int

/-- The outcome of a delivery over plain texts. -/
abbrev Delivery := Outcome String

/-- What becomes of a call decides how its delivery ends. -/
def Sending.outcome (call : Call τ) : Sending → Outcome τ
  | .answered reply => ⟨[call], reply.result⟩
  | .escaped sent kind reason => ⟨if sent then [call] else [], .error (.escaped kind reason)⟩

/-- Delivers one webhook. -/
def deliverWith (transport : Transport τ) (target : Target) (vars : Keyed String) (timeout : Int) :
    Outcome τ :=
  match target.callWith engine vars timeout with
  | .error e => ⟨[], .error e⟩
  | .ok call => (transport call).outcome call

/-- Delivers one webhook over plain texts, on a network that always answers. -/
def deliver (network : Network) (target : Target) (vars : Keyed String) (timeout : Int) :
    Delivery :=
  deliverWith .standard (fun call => .answered (network call)) target vars timeout

end

end AccountSidecar.Webhook
