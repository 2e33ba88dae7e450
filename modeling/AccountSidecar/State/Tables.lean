import AccountSidecar.Account.Error
import AccountSidecar.Keyed
import AccountSidecar.State.Records

/-!
# Tables of the ephemeral state

The four tables and the operations on them that check and change in one step. Expiry is decided
where a record is read; `purgeExpired` only keeps the tables small.
-/

namespace AccountSidecar.State

/-- The ephemeral state. -/
structure Tables where
  sessions : Keyed Session := []
  resetTokens : Keyed ResetToken := []
  signups : Keyed PendingSignup := []
  smsCodes : Keyed SmsCode := []
  deriving DecidableEq, Repr, Inhabited

namespace Tables

/-- Opens a session under its token. -/
def createSession (t : Tables) (token username : String) (createdAt expiresAt : Int) : Tables :=
  { t with sessions := Keyed.put token { username, createdAt, expiresAt } t.sessions }

/-- The session of a token, expired or not. -/
def session? (t : Tables) (token : String) : Option Session := Keyed.find? token t.sessions

/-- Closes the session of a token, if there is one. -/
def deleteSession (t : Tables) (token : String) : Tables :=
  { t with sessions := Keyed.erase token t.sessions }

/-- Stores a fresh reset token. -/
def createResetToken (t : Tables) (token username : String) (expiresAt : Int) : Tables :=
  { t with resetTokens := Keyed.put token { username, expiresAt } t.resetTokens }

/-- The record of a reset token. -/
def resetToken? (t : Tables) (token : String) : Option ResetToken := Keyed.find? token t.resetTokens

/-- Sets whether a reset token counts as used, if it is there. -/
def setResetTokenUsed (t : Tables) (token : String) (used : Bool) : Tables :=
  { t with resetTokens := Keyed.update token ({ · with used }) t.resetTokens }

/-- Checks a reset token and marks it used: the username it was made for and the new tables. -/
def claimResetToken (t : Tables) (token : String) (now : Int) :
    Except AccountError (String × Tables) :=
  match t.resetToken? token with
  | none => .error (.of .invalidToken)
  | some r =>
    if r.used || r.isExpired now then .error (.of .tokenExpired)
    else
      .ok (r.username,
        { t with resetTokens := Keyed.put token { r with used := true } t.resetTokens })

/-- Undoes a claim whose password change failed. -/
def releaseResetToken (t : Tables) (token : String) : Tables := t.setResetTokenUsed token false

/-- Queues a signup for approval. -/
def createPendingSignup (t : Tables) (id username email passwordHash : String) (createdAt : Int) :
    Tables :=
  { t with signups := Keyed.put id { username, email, passwordHash, createdAt } t.signups }

/-- The signup of an id. -/
def pendingSignup (t : Tables) (id : String) : Except AccountError PendingSignup :=
  match Keyed.find? id t.signups with
  | some s => .ok s
  | none => .error ⟨.notFound, "signup not found"⟩

/-- Marks a signup approved, if it is there. -/
def approvePendingSignup (t : Tables) (id : String) : Tables :=
  { t with signups := Keyed.update id ({ · with approved := true }) t.signups }

/-- Stores a fresh code. -/
def storeSmsCode (t : Tables) (id username code : String) (expiresAt : Int) : Tables :=
  { t with smsCodes := Keyed.put id { username, code, expiresAt } t.smsCodes }

/-- Whether the first code is taken before the second: it expires later, or at the same time and
has the smaller id. -/
def takenBefore (a b : String × SmsCode) : Bool :=
  b.2.expiresAt < a.2.expiresAt || (a.2.expiresAt = b.2.expiresAt && a.1 < b.1)

/-- The code that is taken before all others. -/
def preferred? : Keyed SmsCode → Option (String × SmsCode)
  | [] => none
  | c :: rest =>
    match preferred? rest with
    | none => some c
    | some best => some (if takenBefore best c then best else c)

/-- The codes of a user that read as given. -/
def matchingCodes (t : Tables) (username code : String) : Keyed SmsCode :=
  t.smsCodes.filter fun c => c.2.username = username && c.2.code = code

/-- Checks a code of a user and marks it used. Of several unused ones the preferred one counts. -/
def consumeSmsCode (t : Tables) (username code : String) (now : Int) : Except AccountError Tables :=
  if username = "" then .error (.of .noSuchPhone)
  else
    let candidates := t.matchingCodes username code
    if candidates.isEmpty then .error (.of .invalidCode)
    else
      match preferred? (candidates.filter fun c => !c.2.used) with
      | none => .error (.of .codeUsed)
      | some (id, c) =>
        if c.isExpired now then .error (.of .codeExpired)
        else .ok { t with smsCodes := Keyed.put id { c with used := true } t.smsCodes }

/-- Drops expired sessions and expired or used tokens and codes. -/
def purged (t : Tables) (now : Int) : Tables :=
  { t with
    sessions := t.sessions.filter fun s => !s.2.isExpired now
    resetTokens := t.resetTokens.filter fun r => !(r.2.used || r.2.isExpired now)
    smsCodes := t.smsCodes.filter fun c => !(c.2.used || c.2.isExpired now) }

/-- The number of records that may expire. -/
def size (t : Tables) : Nat := t.sessions.length + t.resetTokens.length + t.smsCodes.length

/-- Drops what is expired or used and counts it. -/
def purgeExpired (t : Tables) (now : Int) : Tables × Nat :=
  let kept := t.purged now
  (kept, t.size - kept.size)

end Tables

end AccountSidecar.State
