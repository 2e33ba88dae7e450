/-!
# Records of the ephemeral state

Sessions, reset tokens, signups that await approval and codes sent by text message. Times are whole
seconds. A record is still good at its expiry time and expired after it.
-/

namespace AccountSidecar.State

/-- An open login session. -/
structure Session where
  username : String
  createdAt : Int
  expiresAt : Int
  deriving DecidableEq, Repr, Inhabited

/-- A token that allows one password reset. -/
structure ResetToken where
  username : String
  expiresAt : Int
  used : Bool := false
  deriving DecidableEq, Repr, Inhabited

/-- A signup that awaits approval; it stays as a trace once approved. -/
structure PendingSignup where
  username : String
  email : String
  passwordHash : String
  createdAt : Int
  approved : Bool := false
  deriving DecidableEq, Repr, Inhabited

/-- A code sent by text message that allows one password reset. -/
structure SmsCode where
  username : String
  code : String
  expiresAt : Int
  used : Bool := false
  deriving DecidableEq, Repr, Inhabited

/-- Whether the session is past its time. -/
def Session.isExpired (s : Session) (now : Int) : Bool := s.expiresAt < now

/-- Whether the token is past its time. -/
def ResetToken.isExpired (t : ResetToken) (now : Int) : Bool := t.expiresAt < now

/-- Whether the code is past its time. -/
def SmsCode.isExpired (c : SmsCode) (now : Int) : Bool := c.expiresAt < now

end AccountSidecar.State
