import AccountSidecar.Config.Lookup
import AccountSidecar.Webhook.Delivery

/-!
# Text messages

A text message goes out as one call of a target, which finds the number and the message under the
names `To` and `Message`. The settings say which target that is; without one no text messages are
sent.
-/

namespace AccountSidecar

/-- The target for text messages. There is none unless text messages are enabled and both the
address and the body are set. -/
def Config.readSmsTarget (source : Source) : Except ValueFault (Option Webhook.Target) :=
  if source.flag "SMS_ENABLED" false then
    match source.nonempty? "SMS_WEBHOOK_URL", source.nonempty? "SMS_WEBHOOK_BODY" with
    | some url, some body =>
      match source.table "SMS_WEBHOOK_HEADERS", source.table "SMS_WEBHOOK_ENV" with
      | .ok headers, .ok env =>
        .ok (some {
          name := "sms", url, body, headers, env
          method := Text.upper (source.text "SMS_WEBHOOK_METHOD" "POST")
          contentType := source.text "SMS_WEBHOOK_CONTENT_TYPE" Webhook.jsonContentType
          skipTlsVerify := source.flag "SMS_WEBHOOK_SKIP_TLS_VERIFY" false })
      | .error e, _ => .error e
      | _, .error e => .error e
    | _, _ => .ok none
  else .ok none

namespace Webhook

/-- The target under the name by which errors tell it; one without a name is called after its
purpose. -/
def Target.forSms (target : Target) : Target :=
  if target.name = "" then { target with name := "sms" } else target

/-- Sends a text message. -/
def sendSms (network : Network) (target : Target) (phone message : String) (timeout : Int) :
    Delivery :=
  deliver network target.forSms [("To", phone), ("Message", message)] timeout

end Webhook

end AccountSidecar
