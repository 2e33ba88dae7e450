/-!
# Account errors

The reasons for which an account operation turns a caller away. Each kind has a message of its own
and a status; a message given with the error takes the place of that of the kind.
-/

namespace AccountSidecar

/-- The kinds of account error. -/
inductive AccountErrorKind where
  | requestFailed
  | invalidInput
  | invalidCredentials
  | invalidPassword
  | invalidCode
  | invalidRecoveryKey
  | notFound
  | alreadyExists
  | invalidToken
  | tokenExpired
  | noSuchPhone
  | codeUsed
  | codeExpired
  | unauthorized
  | smsNotConfigured
  | smsSendFailed
  deriving DecidableEq, Repr

namespace AccountErrorKind

/-- The message of an error of the kind that brings none. -/
def defaultMessage : AccountErrorKind → String
  | .requestFailed => "request failed"
  | .invalidInput => "username and password required"
  | .invalidCredentials => "invalid credentials"
  | .invalidPassword => "invalid password"
  | .invalidCode => "invalid code"
  | .invalidRecoveryKey => "invalid recovery key"
  | .notFound => "not found"
  | .alreadyExists => "user already exists"
  | .invalidToken => "invalid token"
  | .tokenExpired => "token expired"
  | .noSuchPhone => "no user with that phone"
  | .codeUsed => "code already used"
  | .codeExpired => "code expired"
  | .unauthorized => "unauthorized"
  | .smsNotConfigured => "SMS not configured"
  | .smsSendFailed => "failed to send SMS"

/-- The status that a client sees. -/
def status : AccountErrorKind → Nat
  | .notFound => 404
  | .alreadyExists => 409
  | .unauthorized => 401
  | .smsNotConfigured => 503
  | .smsSendFailed => 502
  | _ => 400

end AccountErrorKind

/-- A reason to turn a caller away. -/
structure AccountError where
  kind : AccountErrorKind
  message : String
  deriving DecidableEq, Repr

namespace AccountError

/-- The error of a kind with the message of the kind. -/
def of (kind : AccountErrorKind) : AccountError := ⟨kind, kind.defaultMessage⟩

/-- The error of a kind with a message; the empty message gives way to that of the kind. -/
def saying (kind : AccountErrorKind) (message : String) : AccountError :=
  ⟨kind, if message = "" then kind.defaultMessage else message⟩

/-- The status that a client sees. -/
def status (e : AccountError) : Nat := e.kind.status

end AccountError

end AccountSidecar
