import AccountSidecar.Proofs.Running
import AccountSidecar.Proofs.Tables

/-!
# Sessions

What the session operations come to, and which session stands under a token after the tables have
changed. A query that finds a session past its time closes it and is turned away like one that
finds none.
-/

namespace AccountSidecar

namespace State.Tables

/-- A session is there once it was opened. -/
theorem session?_createSession (t : Tables) (token username : String) (createdAt expiresAt : Int) :
    (t.createSession token username createdAt expiresAt).session? token =
      some { username, createdAt, expiresAt } := Keyed.find?_put_self _ _ _

/-- Opening a session keeps those of other tokens. -/
theorem session?_createSession_of_ne {token other : String} (distinct : other ≠ token) (t : Tables)
    (username : String) (createdAt expiresAt : Int) :
    (t.createSession token username createdAt expiresAt).session? other = t.session? other :=
  Keyed.find?_put_of_ne distinct _ _

/-- Closing a session keeps those of other tokens. -/
theorem session?_deleteSession (token other : String) (t : Tables) :
    (t.deleteSession token).session? other = if other = token then none else t.session? other :=
  Keyed.find?_erase _ _ _

/-- Housekeeping closes the sessions that are past their time. -/
theorem session?_purged {t : Tables} (distinct : t.sessions.Distinct) (now : Int) (token : String) :
    (t.purged now).session? token = (t.session? token).filter fun s => !s.isExpired now :=
  Keyed.find?_filter distinct (fun s : Session => !s.isExpired now) token

end State.Tables

namespace Session

open AccountSidecar.Action

/-- A login finds the user, checks the password and opens a session under a fresh token. -/
theorem runIn_login (d : Deployment) (username password : String) (w : World) :
    (login d username password).runIn w =
      match w.find d username with
      | .error e => (.error (.users e), w)
      | .ok none => (.error (.account (.of .invalidCredentials)), w)
      | .ok (some c) =>
        if Password.verify password c.password then
          (.ok (d.sources.sessionToken w.drawn.sessionTokens), { w with
            drawn := { w.drawn with sessionTokens := w.drawn.sessionTokens + 1 }
            tables := w.tables.createSession (d.sources.sessionToken w.drawn.sessionTokens)
              c.username w.clock (w.clock + d.sessionTtl) })
        else (.error (.account (.of .invalidCredentials)), w) := by
  unfold login
  rw [runIn_bind, runIn_findUser]
  rcases w.find d username with e | _ | c
  · rfl
  · rfl
  · dsimp only [Except.mapError]
    cases Password.verify password c.password <;> rfl

/-- A token is missing or blank, or it is one that a session may stand under. -/
theorem missing_or_given (token : Option String) :
    (token = none ∨ token = some "") ∨ ∃ key, token = some key ∧ key ≠ "" := by
  cases token with
  | none => exact .inl (.inl rfl)
  | some key =>
    by_cases blank : key = ""
    · exact .inl (.inr (congrArg some blank))
    · exact .inr ⟨key, rfl, blank⟩

/-- Whoever shows no token is turned away. -/
theorem runIn_username_of_missing {token : Option String} (missing : token = none ∨ token = some "")
    (w : World) : (username token).runIn w = (.error (.account (.of .unauthorized)), w) := by
  rcases missing with rfl | rfl <;> rfl

/-- A session stands for its user until its time is over; then it is closed. -/
theorem runIn_username {token : String} (given : token ≠ "") (w : World) :
    (username (some token)).runIn w =
      match w.tables.session? token with
      | none => (.error (.account (.of .unauthorized)), w)
      | some s =>
        if s.isExpired w.clock then
          (.error (.account (.of .unauthorized)),
            { w with tables := w.tables.deleteSession token })
        else (.ok s.username, w) := by
  unfold username
  split
  · contradiction
  · rename_i empty
    exact absurd (Option.some.inj empty) given
  · rename_i other _ same
    obtain rfl := Option.some.inj same
    rw [runIn_bind_ok (runIn_get w)]
    rcases w.tables.session? token with _ | s
    · rfl
    · dsimp only
      rw [runIn_bind_ok (runIn_now w)]
      cases s.isExpired w.clock <;> rfl

end Session

end AccountSidecar
