import AccountSidecar.Webhook.PasswordSync
import AccountSidecar.Webhook.Sms

/-!
# Settings

Everything that the service needs to know when it starts.
-/

namespace AccountSidecar.Config

open Webhook (Target TargetsFault)

/-- The settings of the service. -/
structure Settings where
  port : Int := 8080
  usersFilePath : String := "/data/users.txt"
  usersTomlPath : String := "/users/users.toml"
  sessionCookieName : String := "tinyauth_um_session"
  sessionTtlSeconds : Int := 86400
  resetTokenTtlSeconds : Int := 3600
  signupRequireApproval : Bool := false
  smtpHost : String := ""
  smtpPort : Int := 587
  smtpUsername : String := ""
  smtpPassword : String := ""
  smtpFrom : String := "noreply@example.local"
  mailBaseUrl : String := "http://localhost:8080"
  totpIssuer : String := "tinyauth"
  containerName : String := "tinyauth"
  secureCookie : Bool := false
  corsOrigins : List String := ["http://localhost:5173", "http://localhost:8080"]
  passwordTargets : List Target := []
  smsTarget : Option Target := none
  deriving DecidableEq, Repr, Inhabited

/-- Why settings cannot be resolved. -/
inductive SettingsFault where
  | targets (fault : TargetsFault)
  | value (fault : ValueFault)
  deriving DecidableEq, Repr

/-- Resolves the settings. -/
def Settings.load (source : Source) : Except SettingsFault Settings :=
  let default : Settings := {}
  match Webhook.parseTargets (source.text? "PASSWORD_TARGETS") with
  | .error e => .error (.targets e)
  | .ok passwordTargets =>
    match readSmsTarget source with
    | .error e => .error (.value e)
    | .ok smsTarget =>
      .ok {
        port := source.integer "PORT" default.port
        usersFilePath := source.text "USERS_FILE_PATH" default.usersFilePath
        usersTomlPath := source.text "USERS_TOML" default.usersTomlPath
        sessionCookieName := source.text "SESSION_COOKIE_NAME" default.sessionCookieName
        sessionTtlSeconds := source.integer "SESSION_TTL_SECONDS" default.sessionTtlSeconds
        resetTokenTtlSeconds :=
          source.integer "RESET_TOKEN_TTL_SECONDS" default.resetTokenTtlSeconds
        signupRequireApproval := source.flag "SIGNUP_REQUIRE_APPROVAL" false
        smtpHost := source.text "SMTP_HOST" default.smtpHost
        smtpPort := source.integer "SMTP_PORT" default.smtpPort
        smtpUsername := source.text "SMTP_USERNAME" default.smtpUsername
        smtpPassword := source.text "SMTP_PASSWORD" default.smtpPassword
        smtpFrom := source.text "SMTP_FROM" default.smtpFrom
        mailBaseUrl := source.text "MAIL_BASE_URL" default.mailBaseUrl
        totpIssuer := source.text "TOTP_ISSUER" default.totpIssuer
        containerName := source.text "TINYAUTH_CONTAINER_NAME" default.containerName
        secureCookie := source.flag "SECURE_COOKIE" false
        corsOrigins :=
          match source.text? "CORS_ORIGINS" with
          | some value => commaList value
          | none => default.corsOrigins
        passwordTargets
        smsTarget }

/-- The line of forty equals signs around the printed settings. -/
def ruler : String := String.ofList (List.replicate 40 '=')

/-- One printed setting. -/
def settingLine (key value : String) : String := Text.padEnd 25 (key ++ ":") ++ value

/-- The settings as lines for a person to read. -/
def Settings.print (s : Settings) : String :=
  let flag := if s.signupRequireApproval then "True" else "False"
  let lines := ["tinyauth User Management Configuration", ruler,
    settingLine "PORT" (toString s.port),
    settingLine "USERS_FILE_PATH" s.usersFilePath,
    settingLine "USERS_TOML" s.usersTomlPath,
    settingLine "SESSION_TTL_SECONDS" (toString s.sessionTtlSeconds),
    settingLine "RESET_TOKEN_TTL_SECONDS" (toString s.resetTokenTtlSeconds),
    settingLine "SIGNUP_REQUIRE_APPROVAL" flag,
    settingLine "TOTP_ISSUER" s.totpIssuer,
    settingLine "PASSWORD_TARGETS" (toString s.passwordTargets.length),
    settingLine "SMS" (if s.smsTarget.isSome then "enabled" else "disabled"),
    ruler]
  String.join (lines.map fun line => line ++ "\n")

end AccountSidecar.Config
