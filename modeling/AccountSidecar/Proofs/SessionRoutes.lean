import AccountSidecar.Proofs.Serving
import Mathlib.Logic.Relation

/-!
# Routes behind a session

The routes to the session and to the own account ask for a live session before anything else.
Without one they turn the client away and change nothing, but that a session found past its time is
closed. With one they act for its user alone (`session_routes_act_for_user`): every change that a
request makes is one for that user (`ActsFor`), whatever stands in the request. The rules for
`OnBehalf` reduce that to the elementary actions; the credentials that an action writes are found
under the name of that user, so they are those of that user (`onBehalf_requireUser_bind`).
-/

namespace AccountSidecar

open AccountSidecar.Action Account Http

variable {α β : Type} {d : Deployment} {username : String} {w w' w'' : World}

/-- Whether the token that a client shows is that of a session of a user which is still good. -/
def World.LiveSession (w : World) (token : Option String) (username : String) : Prop :=
  ∃ key s, token = some key ∧ key ≠ "" ∧ w.tables.session? key = some s ∧
    s.isExpired w.clock = false ∧ s.username = username

/-- A single change on behalf of a user: that user's credentials or metadata are written, the auth
proxy restarts, that user's password is pushed to the other systems, or fresh values are drawn. -/
inductive ActsFor (d : Deployment) (username : String) (w : World) : World → Prop
  | credentials {c : Users.Credential} (own : c.username = username) :
      ActsFor d username w ((upsertUser d c).runIn w).2
  | metadata (e : Metadata.Entry) : ActsFor d username w ((commitMetadata d username e).runIn w).2
  | restart : ActsFor d username w ((emit .restart).runIn w).2
  | sync (password hash : String) :
      ActsFor d username w ((emit (.sync username password hash)).runIn w).2
  | draw (drawn : Drawn) : ActsFor d username w { w with drawn }

/-- Whether a change leaves the tables and the metadata of other users alone, and calls on nobody
but to restart the auth proxy and to push the password of one user. -/
structure ConfinedTo (username : String) (w w' : World) : Prop where
  tables : w'.tables = w.tables
  metadata : ∀ other, other ≠ username →
    Keyed.find? other w'.metadata = Keyed.find? other w.metadata
  effects : ∃ calls, w'.effects = w.effects ++ calls ∧
    ∀ e ∈ calls, e = .restart ∨ ∃ password hash, e = .sync username password hash

namespace ConfinedTo

/-- No change is confined. -/
theorem refl (username : String) (w : World) : ConfinedTo username w w where
  tables := rfl
  metadata _ _ := rfl
  effects := ⟨[], (List.append_nil _).symm, fun _ among => absurd among List.not_mem_nil⟩

/-- Confined changes one after another are confined. -/
theorem trans (first : ConfinedTo username w w') (second : ConfinedTo username w' w'') :
    ConfinedTo username w w'' where
  tables := second.tables.trans first.tables
  metadata other apart := (second.metadata other apart).trans (first.metadata other apart)
  effects := by
    obtain ⟨calls, called, each⟩ := first.effects
    obtain ⟨more, calledMore, eachMore⟩ := second.effects
    refine ⟨calls ++ more, by rw [calledMore, called, List.append_assoc], fun e among => ?_⟩
    exact (List.mem_append.mp among).elim (each e) (eachMore e)

/-- A call of one of the two kinds is confined. -/
theorem of_emit {e : Effect}
    (kind : e = .restart ∨ ∃ password hash, e = .sync username password hash) (w : World) :
    ConfinedTo username w ((emit e).runIn w).2 := by
  rw [runIn_emit]
  split
  · exact refl username w
  · refine ⟨rfl, fun _ _ => rfl, [e], rfl, fun e' among => ?_⟩
    rw [List.mem_singleton.mp among]
    exact kind

end ConfinedTo

/-- A single change on behalf of a user is confined to that user. -/
theorem ActsFor.confined (acts : ActsFor d username w w') : ConfinedTo username w w' := by
  cases acts with
  | @credentials c own =>
    rw [runIn_upsertUser]
    exact ⟨rfl, fun _ _ => rfl, (ConfinedTo.refl username w).effects⟩
  | metadata e =>
    rw [runIn_commitMetadata]
    split
    · exact ⟨rfl, fun _ apart => Keyed.find?_put_of_ne apart e w.metadata,
        (ConfinedTo.refl username w).effects⟩
    · exact ⟨rfl, fun _ _ => rfl, (ConfinedTo.refl username w).effects⟩
  | restart => exact .of_emit (.inl rfl) w
  | sync password hash => exact .of_emit (.inr ⟨password, hash, rfl⟩) w
  | draw drawn => exact ⟨rfl, fun _ _ => rfl, (ConfinedTo.refl username w).effects⟩

/-- Changes on behalf of a user are confined to that user. -/
theorem confined_of_acts (acts : Relation.ReflTransGen (ActsFor d username) w w') :
    ConfinedTo username w w' := by
  induction acts with
  | refl => exact .refl username w
  | tail _ last ih => exact ih.trans last.confined

namespace Action

/-- Whether whatever an action changes, also before it fails, is changed on behalf of a user. -/
def OnBehalf (d : Deployment) (username : String) (a : Action α) : Prop :=
  ∀ w, Relation.ReflTransGen (ActsFor d username) w (a.runIn w).2

/-- An action that keeps the world acts on behalf of anybody. -/
theorem onBehalf_of_unchanged {a : Action α} (unchanged : ∀ w, (a.runIn w).2 = w) :
    OnBehalf d username a := by
  intro w
  rw [unchanged w]

/-- A value changes nothing. -/
theorem onBehalf_pure (x : α) : OnBehalf d username (pure x) := onBehalf_of_unchanged fun _ => rfl

/-- Failing changes nothing. -/
theorem onBehalf_throw (e : Failure) : OnBehalf d username (throw e : Action α) :=
  onBehalf_of_unchanged fun _ => rfl

/-- Actions one after another act on behalf of whom both of them act for. -/
theorem onBehalf_bind {a : Action α} {f : α → Action β} (first : OnBehalf d username a)
    (second : ∀ x, OnBehalf d username (f x)) : OnBehalf d username (a >>= f) := by
  intro w
  exact related_bind Relation.ReflTransGen.trans (first w) second

/-- What follows on the lookup of a user who must exist works with the credentials of that user. -/
theorem onBehalf_requireUser_bind {f : Users.Credential → Action α}
    (next : ∀ c, c.username = username → OnBehalf d username (f c)) :
    OnBehalf d username (requireUser d username >>= f) := by
  intro w
  rcases requireUser_cases d username w with ⟨c, found, run⟩ | ⟨e, -, run⟩
  · rw [runIn_bind_ok run]
    exact next c (World.legible_of_find found).1 w
  · rw [runIn_bind, run]

/-- Writing the credentials of a user acts on behalf of that user. -/
theorem onBehalf_upsertUser {c : Users.Credential} (own : c.username = username) :
    OnBehalf d username (upsertUser d c) := fun _ => .single (.credentials own)

/-- A restart may be asked for on behalf of anybody. -/
theorem onBehalf_restart : OnBehalf d username (emit .restart) := fun _ => .single .restart

end Action

namespace Account

/-- Setting a password acts for the user of the credentials. -/
theorem onBehalf_setPassword {c : Users.Credential} (own : c.username = username)
    (password : String) : OnBehalf d username (setPassword d c password) := by
  have checked : OnBehalf d username (checkNewPassword password) :=
    onBehalf_of_unchanged fun w => by rw [runIn_checkNewPassword]; split <;> rfl
  have hashed : OnBehalf d username (hashPassword d password) := fun w => by
    rw [runIn_hashPassword]
    exact .single (.draw _)
  refine onBehalf_bind checked fun _ => onBehalf_bind hashed fun hash =>
    onBehalf_bind (onBehalf_upsertUser own) fun _ => onBehalf_bind onBehalf_restart fun _ w => ?_
  rw [own]
  exact .single (.sync password hash)

/-- Changing a password acts for its user. -/
theorem onBehalf_changePassword (oldPassword newPassword : String) :
    OnBehalf d username (changePassword d username oldPassword newPassword) := by
  refine onBehalf_requireUser_bind fun c own => ?_
  split
  · exact onBehalf_throw _
  · exact onBehalf_setPassword own newPassword

/-- Preparing two-factor login draws a secret and no more. -/
theorem onBehalf_setupTotp : OnBehalf d username (setupTotp d username) := by
  refine onBehalf_bind (fun w => .single (.draw _)) fun secret => ?_
  split
  · exact onBehalf_pure _
  · exact onBehalf_throw _
  · exact onBehalf_throw _
  · exact onBehalf_throw _

/-- Turning two-factor login on acts for its user. -/
theorem onBehalf_enableTotp (secret code : String) :
    OnBehalf d username (enableTotp d username secret code) := by
  refine onBehalf_bind (onBehalf_of_unchanged fun _ => rfl) fun time => ?_
  split
  · exact onBehalf_throw _
  · exact onBehalf_requireUser_bind fun c own =>
      onBehalf_bind (onBehalf_upsertUser own) fun _ => onBehalf_restart

/-- Turning two-factor login off acts for its user. -/
theorem onBehalf_disableTotp (password : String) :
    OnBehalf d username (disableTotp d username password) := by
  refine onBehalf_requireUser_bind fun c own => ?_
  split
  · exact onBehalf_throw _
  · exact onBehalf_bind (onBehalf_upsertUser own) fun _ => onBehalf_restart

/-- Recovering two-factor login acts for its user. -/
theorem onBehalf_recoverTotp (key secret code : String) :
    OnBehalf d username (recoverTotp d username key secret code) := by
  unfold recoverTotp
  split
  · exact onBehalf_throw _
  · exact onBehalf_enableTotp secret code

end Account

namespace Http

/-- Whatever an endpoint of an account does, it does on behalf of the user whom it is given. -/
theorem onBehalf_handleFor (r : Request) (e : Endpoint) :
    OnBehalf d username (handleFor d r username e) := by
  have replied {a : Action Unit} (acts : OnBehalf d username a) (response : Response) :
      OnBehalf d username (do a; pure response) :=
    onBehalf_bind acts fun _ => onBehalf_pure response
  cases e with
  | profile =>
    refine onBehalf_bind (onBehalf_requireUser_bind fun c _ => ?_) fun _ => onBehalf_pure _
    exact onBehalf_of_unchanged fun _ => rfl
  | changePassword => exact replied (onBehalf_changePassword _ _) _
  | setPhone =>
    refine replied ?_ _
    exact onBehalf_bind (onBehalf_of_unchanged fun _ => rfl) fun e _ => .single (.metadata _)
  | setupTotp => exact onBehalf_bind onBehalf_setupTotp fun _ => onBehalf_pure _
  | enableTotp => exact replied (onBehalf_enableTotp _ _) _
  | disableTotp => exact replied (onBehalf_disableTotp _) _
  | recoverTotp => exact replied (onBehalf_recoverTotp _ _ _) _
  | _ => exact onBehalf_pure _

/-- So it does when the body is read first. -/
theorem onBehalf_afterBody (site : Site) (r : Request) (e : Endpoint) :
    OnBehalf d username (afterBody site r e (handleFor d r username e)) := by
  unfold afterBody
  split
  · exact onBehalf_pure _
  · exact onBehalf_handleFor r e

/-- Whether a path is that of the session or one of the own account. -/
def IsGuardedPath (names : List String) : Prop :=
  names = ["api", "auth", "session"] ∨ ["api", "account"] <+: names

/-- The endpoints of guarded paths need a session. -/
theorem needsSession_of_guarded {names : List String} {e : Endpoint}
    (there : endpointOf? names = some e) (guarded : IsGuardedPath names) :
    e.needsSession = true := by
  rcases guarded with rfl | ⟨rest, rfl⟩
  · obtain rfl := Option.some.inj there
    rfl
  · unfold endpointOf? at there
    split at there <;> first
      | (cases there; rfl)
      | simp_all

end Http

namespace Session

/-- A live session gives its user and changes nothing. -/
theorem runIn_username_of_live {token : Option String} (live : w.LiveSession token username) :
    (Session.username token).runIn w = (.ok username, w) := by
  obtain ⟨key, s, rfl, given, found, inTime, rfl⟩ := live
  rw [runIn_username given, found]
  dsimp only
  rw [if_neg (Bool.eq_false_iff.mp inTime)]

/-- Whoever shows no live session is turned away, and at most the session shown is closed as
expired. -/
theorem runIn_username_of_not_live {token : Option String}
    (dead : ∀ username, ¬ w.LiveSession token username) :
    ∃ w', (Session.username token).runIn w = (.error (.account (.of .unauthorized)), w') ∧
      (w' = w ∨ ∃ key s, token = some key ∧ w.tables.session? key = some s ∧
        s.isExpired w.clock = true ∧ w' = { w with tables := w.tables.deleteSession key }) := by
  rcases missing_or_given token with missing | ⟨key, rfl, given⟩
  · exact ⟨w, runIn_username_of_missing missing w, .inl rfl⟩
  · rw [runIn_username given]
    cases found : w.tables.session? key with
    | none => exact ⟨w, rfl, .inl rfl⟩
    | some s =>
      dsimp only
      by_cases expired : s.isExpired w.clock = true
      · rw [if_pos expired]
        exact ⟨_, rfl, .inr ⟨key, s, rfl, found, expired, rfl⟩⟩
      · exact absurd ⟨key, s, rfl, given, found, Bool.eq_false_iff.mpr expired, rfl⟩
          (dead s.username)

end Session

/-- Requests to the session and to the own account. Without a live session the answer is that the
client is not authorized, and nothing changes but that the session shown may be closed as expired.
With one of a user every change is on behalf of that user. -/
theorem session_routes_act_for_user {site : Site} {r : Request} {e : Endpoint}
    (route : r.destination = .endpoint e) (guarded : IsGuardedPath (pathNames r.plainPath))
    (w : World) :
    let token := r.cookie? site.cookieName
    let served := serve site d r w
    ((∀ username, ¬ w.LiveSession token username) →
      served.1 = {
        status := 401
        body := if r.method = "HEAD" then .none else .fields [("error", .text "unauthorized")]
        headers := site.originHeaders r } ∧
      (served.2 = w ∨ ∃ key s, token = some key ∧ w.tables.session? key = some s ∧
        s.isExpired w.clock = true ∧
        served.2 = { w with tables := w.tables.deleteSession key })) ∧
    ∀ username, w.LiveSession token username →
      Relation.ReflTransGen (ActsFor d username) w served.2 ∧
        ConfinedTo username w served.2 := by
  have needs := needsSession_of_guarded (Request.endpoint_of_destination route).1 guarded
  intro token served
  have answer : served = (site.delivered r (settle (handle site d r e) w).1,
      (settle (handle site d r e) w).2) := serve_of_endpoint route w
  rw [answer, handle_of_guarded needs]
  constructor
  · intro dead
    obtain ⟨w', run, closed⟩ := Session.runIn_username_of_not_live dead
    unfold settle
    rw [runIn_bind, run]
    exact ⟨rfl, closed⟩
  · intro username live
    have acts : Relation.ReflTransGen (ActsFor d username) w (settle
        (Session.username token >>= fun username =>
          afterBody site r e (handleFor d r username e)) w).2 := by
      rw [settle_world, runIn_bind_ok (Session.runIn_username_of_live live)]
      exact onBehalf_afterBody site r e w
    exact ⟨acts, confined_of_acts acts⟩

/-- A client with the session of alice who names bob in the request leaves bob alone, and is turned
away once the session is past its time. -/
theorem session_routes_act_for_user_other_named :
    let r : Request := {
      method := "POST"
      path := "/api/account/phone"
      headers := [("Cookie", "tinyauth_um_session=t")]
      contentType := "application/json"
      body := "\x7b\"username\": \"bob\", \"phone\": \"+2\"\x7d".toUTF8.toList }
    let w : World := {
      files := .empty
      metadata := [("bob", { phone := "+1" })]
      tables := ({} : State.Tables).createSession "t" "alice" 0 60 }
    let late : World := { w with clock := 61 }
    r.destination = .endpoint .setPhone ∧ IsGuardedPath (pathNames r.plainPath) ∧
      Relation.ReflTransGen (ActsFor (.sample false) "alice") w (serve {} (.sample false) r w).2 ∧
      Keyed.find? "bob" (serve {} (.sample false) r w).2.metadata = some { phone := "+1" } ∧
      (serve {} (.sample false) r late).1.status = 401 := by
  intro r w late
  have route : r.destination = .endpoint .setPhone := by decide +kernel
  have names : pathNames r.plainPath = ["api", "account", "phone"] := by decide +kernel
  have guarded : IsGuardedPath (pathNames r.plainPath) := .inr (by rw [names]; exact ⟨_, rfl⟩)
  have token : r.cookie? ({} : Site).cookieName = some "t" := by decide +kernel
  have live : w.LiveSession (r.cookie? ({} : Site).cookieName) "alice" :=
    ⟨"t", ⟨"alice", 0, 60⟩, token, by decide, by decide, by decide, rfl⟩
  have dead : ∀ username, ¬ late.LiveSession (r.cookie? ({} : Site).cookieName) username := by
    rintro username ⟨key, s, shown, -, found, inTime, -⟩
    obtain rfl := Option.some.inj (token.symm.trans shown)
    obtain rfl : ⟨"alice", 0, 60⟩ = s := Option.some.inj found
    exact absurd inTime (by decide)
  obtain ⟨acts, confined⟩ := (session_routes_act_for_user route guarded w).2 "alice" live
  have answer := ((session_routes_act_for_user (d := .sample false) route guarded late).1 dead).1
  exact ⟨route, guarded, acts, confined.metadata "bob" (by decide),
    congrArg Response.status answer⟩

end AccountSidecar
