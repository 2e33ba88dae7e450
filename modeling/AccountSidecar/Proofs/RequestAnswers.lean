import AccountSidecar.Proofs.MetadataMirror
import AccountSidecar.Proofs.PostedTexts
import AccountSidecar.Proofs.ServiceOutcomes
import AccountSidecar.Proofs.SessionRoutes

/-!
# Answers to requests

Where the stores were readable at the start and every collaborator works, a request to an endpoint
is answered with JSON: either with what its handler returns, or with the message and the status of
an error that is reported (`Http.Response.IsAnswer`). There are three gaps, failures that are
nobody's error and leave the client with a bare 500: a body that nests deeper than the reader goes;
the address that prepares two-factor login, which holds the username, where it fits into no QR code;
and a session that lasts beyond the calendar, so that its cookie has no date
(`requests_answered_iff`).
-/

namespace AccountSidecar

open Storage AccountSidecar.Action Http

variable {site : Site} {d : Deployment} {r : Request} {e : Endpoint} {w : World}

namespace Http

/-- Whether a response is JSON that tells of success, or the message and the status of an error. -/
inductive Response.IsAnswer : Response → Prop
  | success {response : Response} (status : response.status = 200)
      (told : response.body ≠ .none) : IsAnswer response
  | refused (e : AccountError) : IsAnswer (.error e.status e.message)
  | unsaved : IsAnswer responseToFailure.storageFailure

/-- A response with a JSON object and the status of success is an answer. -/
theorem Response.isAnswer_json (entries : Keyed Value) : (json 200 entries).IsAnswer :=
  .success rfl nofun

/-- An answer has content. -/
theorem Response.IsAnswer.body_ne {response : Response} (answer : response.IsAnswer) :
    response.body ≠ .none := by
  cases answer with
  | success _ told => exact told
  | refused e => nofun
  | unsaved => nofun

/-- No path of the API leads to a file. -/
theorem endpointOf?_api {names : List String} (api : ["api"] <+: names) :
    endpointOf? names ≠ some .staticFile := by
  obtain ⟨rest, rfl⟩ := api
  unfold endpointOf?
  split <;> simp_all

/-- A reported failure is answered. -/
theorem isAnswer_responseToFailure {f : Failure} (reported : f.isReported = true) :
    (responseToFailure f).IsAnswer := by
  cases f with
  | account a => exact .refused a
  | users s =>
    change s.isReported = true at reported
    rw [responseToFailure, if_pos reported]
    exact .unsaved
  | metadata s =>
    change s.isReported = true at reported
    rw [responseToFailure, if_pos reported]
    exact .unsaved
  | _ => cases reported

/-- What runs in the background has no failure. -/
theorem reports_inBackground {a : Action Unit} (acts : Reports d (fun _ => True) a) :
    Reports d (fun _ => True) (inBackground a) :=
  yields_tryCatch acts fun _ _ => yields_pure trivial

/-- A logout is answered, with a session or without one. -/
theorem reports_handleLogout : Reports d Response.IsAnswer (handleLogout site r) := by
  have answered : Reports d Response.IsAnswer
      (pure { Response.ok with cookie := some site.clearedCookie }) := .pure (.success rfl nofun)
  unfold handleLogout
  split
  · split
    · exact answered
    · exact yields_bind (yields_changeTables _) fun _ _ => answered
  · exact answered

/-- The request of a reset is answered: what fails in it stays in the background. -/
theorem reports_handleRequestReset : Reports d Response.IsAnswer (handleRequestReset d r) := by
  unfold handleRequestReset
  dsimp only
  split
  · exact .pure (Response.isAnswer_json _)
  · exact (reports_inBackground (Account.reports_requestPasswordReset _)).replied
      (Response.isAnswer_json _)

/-- The request of a code is answered: what fails in it stays in the background. -/
theorem reports_handleRequestSmsReset :
    Reports d Response.IsAnswer (handleRequestSmsReset d r) := by
  unfold handleRequestSmsReset
  dsimp only
  split
  · exact .pure (.refused ⟨.invalidInput, "phone required"⟩)
  · exact (reports_inBackground (Account.reports_requestSmsReset _)).replied
      (Response.isAnswer_json _)

/-- A reset with a code is answered where the salts are good. -/
theorem reports_handleConfirmSmsReset
    (salts : ∀ n, (Password.Salt.parse? (d.sources.salt n)).isSome) :
    Reports d Response.IsAnswer (handleConfirmSmsReset d r) := by
  unfold handleConfirmSmsReset
  dsimp only
  split
  · exact .pure (.refused ⟨.invalidInput, "phone, code, and newPassword required"⟩)
  · exact (Account.reports_resetPasswordSms salts _ _ _).replied (Response.isAnswer_json _)

section Handlers

variable (salts : ∀ n, (Password.Salt.parse? (d.sources.salt n)).isSome)
  (named : d.metadataFile ≠ [])
include salts named

/-- An endpoint that is open to all, other than the login, answers or reports. -/
theorem reports_handleOpen (served : e ≠ .staticFile) (other : e ≠ .login)
    (unguarded : e.needsSession = false) : Reports d Response.IsAnswer (handleOpen site d r e) := by
  unfold handleOpen
  cases e with
  | login => exact absurd rfl other
  | logout => exact reports_handleLogout
  | health => exact .pure (Response.isAnswer_json _)
  | features => exact .pure (Response.isAnswer_json _)
  | requestReset => exact reports_handleRequestReset
  | confirmReset =>
    exact (Account.reports_resetPassword salts _ _).replied (Response.isAnswer_json _)
  | signup =>
    exact (Account.reports_signup named salts _ _ _ _).bind fun _ _ =>
      .pure (Response.isAnswer_json _)
  | approveSignup =>
    exact (Account.reports_approveSignup named _).replied (Response.isAnswer_json _)
  | requestSmsReset => exact reports_handleRequestSmsReset
  | confirmSmsReset => exact reports_handleConfirmSmsReset salts
  | staticFile => exact absurd rfl served
  | _ => cases unguarded

/-- An endpoint of an account other than the one that prepares two-factor login answers or
reports. -/
theorem reports_handleFor (other : e ≠ .setupTotp) (guarded : e.needsSession = true)
    (username : String) : Reports d Response.IsAnswer (handleFor d r username e) := by
  cases e with
  | session => exact .pure (Response.isAnswer_json _)
  | profile =>
    exact (Account.reports_profile username).bind fun _ _ => .pure (Response.isAnswer_json _)
  | changePassword =>
    exact (Account.reports_changePassword salts _ _ _).replied (Response.isAnswer_json _)
  | setPhone => exact (Account.reports_setPhone named _ _).replied (Response.isAnswer_json _)
  | setupTotp => exact absurd rfl other
  | enableTotp => exact (Account.reports_enableTotp _ _ _).replied (Response.isAnswer_json _)
  | disableTotp => exact (Account.reports_disableTotp _ _).replied (Response.isAnswer_json _)
  | recoverTotp => exact (Account.reports_recoverTotp _ _ _ _).replied (Response.isAnswer_json _)
  | _ => cases guarded

end Handlers

/-- Whether the body of a request is asked for, and nests deeper than the reader goes. -/
def Request.Stops (site : Site) (w : World) (r : Request) (e : Endpoint) : Prop :=
  site.stopsAtBody r e = true ∧
    (e.needsSession = true → ∃ username, w.LiveSession (r.cookie? site.cookieName) username)

/-- Whether a request prepares two-factor login for the user of a live session, with an address that
fits into no QR code. -/
def Request.Overflows (site : Site) (d : Deployment) (w : World) (r : Request) (e : Endpoint) :
    Prop :=
  e = .setupTotp ∧ ∃ username, w.LiveSession (r.cookie? site.cookieName) username ∧
    Totp.setupWith (d.sources.totpSecret w.drawn.totpSecrets) username d.issuer = .error .tooLong

/-- Whether a request logs somebody in, and the session lasts beyond the calendar. -/
structure Request.OutlastsCalendar (site : Site) (d : Deployment) (w : World) (r : Request)
    (e : Endpoint) : Prop where
  endpoint : e = .login
  read : site.stopsAtBody r e = false
  given : ¬ (r.strippedText "username" = "" ∨ r.text "password" = "")
  account : ∃ c, w.find d (r.strippedText "username") = .ok (some c) ∧
    Password.verify (r.text "password") c.password = true
  undated : isDated (w.clock + d.sessionTtl) = false

/-- Whether a request falls into one of the gaps. -/
def Request.FallsThrough (site : Site) (d : Deployment) (w : World) (r : Request) (e : Endpoint) :
    Prop :=
  r.Stops site w e ∨ r.Overflows site d w e ∨ r.OutlastsCalendar site d w e

/-- Whether a handler leaves a users file of text and what comes of it is an answer, unless
something else is the case. -/
def AnswersUnless (d : Deployment) (except : Prop) (a : Action Response) (w : World) : Prop :=
  (settle a w).2.Sound d [] ∧ ((settle a w).1.IsAnswer ∨ except)

/-- An action that answers or reports leaves nothing unanswered. -/
theorem answersUnless_of_reports {a : Action Response} (reports : Reports d Response.IsAnswer a)
    (sound : w.Sound d []) (except : Prop) : AnswersUnless d except a w := by
  obtain ⟨kept, ended⟩ := reports w sound
  unfold AnswersUnless settle
  rcases run : a.runIn w with ⟨f | response, w'⟩ <;> rw [run] at kept ended
  · exact ⟨kept, .inl (isAnswer_responseToFailure ended)⟩
  · exact ⟨kept, .inl ended⟩

/-- A login that is accepted opens a session, and hands out its token where its cookie has a date.
-/
theorem settle_handleLogin {token : String} {w' : World}
    (given : ¬ (r.strippedText "username" = "" ∨ r.text "password" = ""))
    (opened : (Session.login d (r.strippedText "username") (r.text "password")).runIn w =
      (.ok token, w')) :
    settle (handleLogin site d r) w = (if isDated (w'.clock + d.sessionTtl) then
      { Response.ok with cookie := some (site.sessionCookie d token) } else { status := 500 },
        w') := by
  unfold handleLogin settle
  dsimp only
  rw [if_neg (by simpa using given), runIn_tryCatch, runIn_bind_ok opened,
    runIn_bind_ok (runIn_now w')]
  cases isDated (w'.clock + d.sessionTtl) <;> rfl

/-- The response to a login that fails: one without authorization where the account is at fault. -/
def responseToFailedLogin : Failure → Response
  | .account a => .error 401 a.message
  | f => responseToFailure f

/-- A login that fails says so. -/
theorem settle_handleLogin_refused {f : Failure} {w' : World}
    (given : ¬ (r.strippedText "username" = "" ∨ r.text "password" = ""))
    (failed : (Session.login d (r.strippedText "username") (r.text "password")).runIn w =
      (.error f, w')) :
    settle (handleLogin site d r) w = (responseToFailedLogin f, w') := by
  unfold handleLogin settle
  dsimp only
  rw [if_neg (by simpa using given), runIn_tryCatch, runIn_bind, failed]
  cases f <;> rfl

/-- A login is answered unless the session lasts beyond the calendar. -/
theorem answersUnless_handleLogin (sound : w.Sound d [])
    (read : site.stopsAtBody r .login = false) :
    AnswersUnless d (r.OutlastsCalendar site d w .login) (handleLogin site d r) w := by
  by_cases missing : r.strippedText "username" = "" ∨ r.text "password" = ""
  · unfold AnswersUnless handleLogin
    dsimp only
    rw [if_pos (by simpa using missing)]
    exact ⟨sound, .inl (.refused ⟨.invalidInput, "username and password required"⟩)⟩
  have run := Session.runIn_login d (r.strippedText "username") (r.text "password") w
  have sought := (yields_findUser (r.strippedText "username") w sound).2
  rw [runIn_findUser] at sought
  unfold AnswersUnless
  rcases found : w.find d (r.strippedText "username") with e | _ | c
  · rw [found] at run sought
    rw [settle_handleLogin_refused missing run]
    exact ⟨sound, .inl (isAnswer_responseToFailure sought.isReported)⟩
  · rw [found] at run
    rw [settle_handleLogin_refused missing run]
    exact ⟨sound, .inl (.refused ⟨.unauthorized, _⟩)⟩
  · rw [found] at run
    dsimp only at run
    by_cases verified : Password.verify (r.text "password") c.password = true
    · rw [if_pos verified] at run
      rw [settle_handleLogin missing run]
      refine ⟨sound.of_same rfl rfl, ?_⟩
      by_cases dated : isDated (w.clock + d.sessionTtl) = true
      · rw [if_pos dated]
        exact .inl (.success rfl nofun)
      · exact .inr ⟨rfl, read, missing, ⟨c, found, verified⟩, Bool.eq_false_iff.mpr dated⟩
    · rw [if_neg verified] at run
      rw [settle_handleLogin_refused missing run]
      exact ⟨sound, .inl (.refused ⟨.unauthorized, _⟩)⟩

section Keys

variable (keys : ∀ n, ∃ key, Totp.keyOf (d.sources.totpSecret n) = .ok key)
include keys

/-- Preparing two-factor login is answered unless the address is too long. -/
theorem answersUnless_setupTotp (sound : w.Sound d []) (username : String) :
    AnswersUnless d (Totp.setupWith (d.sources.totpSecret w.drawn.totpSecrets) username d.issuer =
      .error .tooLong) (handleFor d r username .setupTotp) w := by
  obtain ⟨key, keyed⟩ := keys w.drawn.totpSecrets
  have run := Account.runIn_setupTotp keys username w
  unfold handleFor AnswersUnless
  rcases Totp.setupWith_cases keyed username d.issuer with ⟨s, prepared⟩ | tooLong
  · rw [prepared] at run
    rw [settle_bind_ok run]
    exact ⟨sound.of_same rfl rfl, .inl (.success rfl nofun)⟩
  · rw [tooLong] at run
    rw [settle_bind_error run]
    exact ⟨sound.of_same rfl rfl, .inr tooLong⟩

/-- A request to an endpoint is answered, unless it falls into a gap or asks for a file. -/
theorem answersUnless_handle (salts : ∀ n, (Password.Salt.parse? (d.sources.salt n)).isSome)
    (named : d.metadataFile ≠ []) (sound : w.Sound d []) (site : Site) (r : Request)
    (e : Endpoint) :
    AnswersUnless d (r.FallsThrough site d w e ∨ e = .staticFile) (handle site d r e) w := by
  by_cases guarded : e.needsSession = true
  · rw [handle_of_guarded guarded]
    by_cases live : ∃ username, w.LiveSession (r.cookie? site.cookieName) username
    · obtain ⟨username, live⟩ := live
      have inside : AnswersUnless d (r.FallsThrough site d w e ∨ e = .staticFile)
          (afterBody site r e (handleFor d r username e)) w := by
        by_cases stopped : site.stopsAtBody r e = true
        · rw [afterBody_of_stopped stopped]
          exact ⟨sound, .inr (.inl (.inl ⟨stopped, fun _ => ⟨username, live⟩⟩))⟩
        rw [afterBody_of_read (Bool.eq_false_iff.mpr stopped)]
        by_cases setup : e = .setupTotp
        · subst setup
          obtain ⟨kept, answer | tooLong⟩ := answersUnless_setupTotp (r := r) keys sound username
          · exact ⟨kept, .inl answer⟩
          · exact ⟨kept, .inr (.inl (.inr (.inl ⟨rfl, username, live, tooLong⟩)))⟩
        · exact answersUnless_of_reports (reports_handleFor salts named setup guarded username)
            sound _
      unfold AnswersUnless
      rw [settle_bind_ok (Session.runIn_username_of_live live)]
      exact inside
    · obtain ⟨w', run, closed⟩ :=
        Session.runIn_username_of_not_live fun username live' => live ⟨username, live'⟩
      unfold AnswersUnless
      rw [settle_bind_error run]
      refine ⟨?_, .inl (.refused (.of .unauthorized))⟩
      rcases closed with rfl | ⟨key, s, -, -, -, rfl⟩
      · exact sound
      · exact sound.of_same rfl rfl
  · have unguarded : e.needsSession = false := Bool.eq_false_iff.mpr guarded
    rw [handle_of_open unguarded]
    by_cases stopped : site.stopsAtBody r e = true
    · rw [afterBody_of_stopped stopped]
      exact ⟨sound, .inr (.inl (.inl ⟨stopped, fun needs => absurd needs guarded⟩))⟩
    have read : site.stopsAtBody r e = false := Bool.eq_false_iff.mpr stopped
    rw [afterBody_of_read read]
    by_cases file : e = .staticFile
    · subst file
      exact ⟨sound, .inr (.inr rfl)⟩
    by_cases login : e = .login
    · subst login
      obtain ⟨kept, answer⟩ := answersUnless_handleLogin sound read
      exact ⟨kept, answer.imp_right fun undated => .inl (.inr (.inr undated))⟩
    · exact answersUnless_of_reports (reports_handleOpen salts named file login unguarded) sound _

/-- A request that falls into a gap gets a response without content. -/
theorem serve_of_fallsThrough (route : r.destination = .endpoint e)
    (falls : r.FallsThrough site d w e) :
    (serve site d r w).1 = site.delivered r { status := 500 } := by
  rw [serve_of_endpoint route]
  rcases falls with ⟨stopped, shown⟩ | ⟨rfl, username, live, tooLong⟩ |
    ⟨rfl, read, given, ⟨c, found, verified⟩, undated⟩
  · by_cases guarded : e.needsSession = true
    · obtain ⟨username, live⟩ := shown guarded
      rw [handle_of_guarded guarded, settle_bind_ok (Session.runIn_username_of_live live),
        afterBody_of_stopped stopped]
      rfl
    · rw [handle_of_open (Bool.eq_false_iff.mpr guarded), afterBody_of_stopped stopped]
      rfl
  · have run := Account.runIn_setupTotp keys username w
    rw [tooLong] at run
    rw [handle_of_guarded rfl, settle_bind_ok (Session.runIn_username_of_live live),
      afterBody_of_read rfl, handleFor, settle_bind_error run]
    rfl
  · have run := Session.runIn_login d (r.strippedText "username") (r.text "password") w
    rw [found] at run
    dsimp only at run
    rw [if_pos verified] at run
    rw [handle_of_open rfl, afterBody_of_read read, handleOpen, settle_handleLogin given run,
      if_neg (Bool.eq_false_iff.mp undated)]

omit keys in
/-- The gaps are in endpoints that do more than read. -/
theorem isRead_of_fallsThrough (falls : r.FallsThrough site d w e) : e.isRead = false := by
  rcases falls with ⟨stopped, -⟩ | ⟨rfl, -⟩ | undated
  · have reads : e.readsBody = true := by
      rw [Site.stopsAtBody, Bool.and_eq_true] at stopped
      exact stopped.1
    cases e <;> first | rfl | cases reads
  · rfl
  · rw [undated.endpoint]
    rfl

/-- A response without content is no answer, so a request that falls into a gap gets none. -/
theorem not_answered_of_fallsThrough (route : r.destination = .endpoint e)
    (falls : r.FallsThrough site d w e) :
    ¬ ∃ response, response.IsAnswer ∧ (serve site d r w).1 = site.delivered r response := by
  rintro ⟨response, told, same⟩
  have bare := serve_of_fallsThrough keys route falls
  have posted := (Request.endpoint_of_destination route).2.2
  rw [Endpoint.methods, isRead_of_fallsThrough falls] at posted
  have content : r.method ≠ "HEAD" := by
    intro head
    rw [head] at posted
    exact absurd posted (by decide)
  have untold : response.body = .none := by
    have bodies := congrArg Response.body (same.symm.trans bare)
    simpa [Site.delivered, content] using bodies
  exact told.body_ne untold

/-- Whatever a request sets off, the users file goes on to hold text. -/
theorem sound_serve (salts : ∀ n, (Password.Salt.parse? (d.sources.salt n)).isSome)
    (named : d.metadataFile ≠ []) (sound : w.Sound d []) (site : Site) (r : Request) :
    (serve site d r w).2.Sound d [] := by
  unfold serve dispatch
  cases r.destination with
  | endpoint e => exact (answersUnless_handle keys salts named sound site r e).1
  | _ => exact sound

end Keys

end Http

/-- What comes to a running service: a request, or the time to drop what has expired. -/
inductive Visit where
  | request (clock : Int) (r : Request)
  | purge (clock : Int)

/-- The world after a visit. -/
def World.visit (site : Site) (d : Deployment) (w : World) : Visit → World
  | .request clock r => (serve site d r { w with clock }).2
  | .purge clock => (purgeExpired.runIn { w with clock }).2

/-- A request leaves the world that serving it leaves. -/
theorem World.visit_request (site : Site) (d : Deployment) (w : World) (clock : Int) (r : Request) :
    w.visit site d (.request clock r) = (serve site d r { w with clock }).2 := rfl

/-- The world after a run of visits. -/
def World.visited (site : Site) (d : Deployment) (w : World) (visits : List Visit) : World :=
  visits.foldl (World.visit site d) w

section Visits

variable (salts : ∀ n, (Password.Salt.parse? (d.sources.salt n)).isSome)
  (keys : ∀ n, ∃ key, Totp.keyOf (d.sources.totpSecret n) = .ok key)
include salts keys

/-- Through every run of visits the users file goes on to hold text. -/
theorem World.sound_visited (named : d.metadataFile ≠ []) (sound : w.Sound d []) (site : Site)
    (visits : List Visit) : (w.visited site d visits).Sound d [] := by
  induction visits generalizing w with
  | nil => exact sound
  | cons visit rest ih =>
    refine ih ?_
    cases visit with
    | request clock r =>
      have timed : World.Sound d [] { w with clock } := sound.of_same rfl rfl
      exact sound_serve keys salts named timed site r
    | purge clock => exact sound.of_same rfl rfl

end Visits

/-- A service that has started in a tree with a working directory, on a users file of text, has a
metadata file with a name and goes on from there. -/
theorem World.sound_of_start {files opened : FileTree} {clock : Int} {start : World}
    (rooted : files.isDirectory [] = true) (text : files.IsText d.usersFile)
    (started : World.start d files clock = (.ok start, opened)) :
    d.metadataFile ≠ [] ∧ start.Sound d [] := by
  unfold World.start at started
  split at started
  · cases (Prod.mk.inj started).1
  · rename_i entries t read
    obtain rfl := Except.ok.inj (Prod.mk.inj started).1
    refine ⟨Metadata.named_of_openAt rooted read, ?_⟩
    unfold Metadata.openAt at read
    split at read
    · cases (Prod.mk.inj read).1
    · rename_i t' made
      obtain rfl := (Prod.mk.inj read).2
      refine ⟨text.makeDirectories? made, fun _ => ?_, rfl⟩
      rcases FileTree.makeBelow?_node? made [] with kept | ⟨gone, -, -⟩
      · exact (FileTree.isDirectory_congr kept).trans rooted
      · rw [FileTree.node?_of_isDirectory rooted] at gone
        cases gone

/-- Answers of a service that has started on a users file of text and has opened its metadata, after
any run of visits and at any reading of the clock. A request to the API is answered with JSON
exactly where it falls into none of three gaps: its body is asked for and nests deeper than the
reader goes, it prepares two-factor login for the user of a live session with an address that fits
into no QR code, or it opens a session that lasts beyond the calendar. In these the response has no
content. -/
theorem requests_answered_iff {files opened : FileTree} {clock : Int} {start : World}
    (salts : ∀ n, (Password.Salt.parse? (d.sources.salt n)).isSome)
    (keys : ∀ n, ∃ key, Totp.keyOf (d.sources.totpSecret n) = .ok key)
    (rooted : files.isDirectory [] = true) (text : files.IsText d.usersFile)
    (started : World.start d files clock = (.ok start, opened)) (visits : List Visit) (time : Int)
    (route : r.destination = .endpoint e) (api : ["api"] <+: pathNames r.plainPath) :
    let w : World := { start.visited site d visits with clock := time }
    ((∃ response, response.IsAnswer ∧ (serve site d r w).1 = site.delivered r response) ↔
      ¬ r.FallsThrough site d w e) ∧
    (r.FallsThrough site d w e → (serve site d r w).1 = site.delivered r { status := 500 }) := by
  intro w
  obtain ⟨named, initial⟩ := World.sound_of_start rooted text started
  have sound : w.Sound d [] :=
    (World.sound_visited salts keys named initial site visits).of_same rfl rfl
  have answer : (serve site d r w).1 = site.delivered r (settle (handle site d r e) w).1 :=
    congrArg Prod.fst (serve_of_endpoint route w)
  refine ⟨⟨fun answered falls => not_answered_of_fallsThrough keys route falls answered,
    fun whole => ?_⟩, serve_of_fallsThrough keys route⟩
  rcases (answersUnless_handle keys salts named sound site r e).2 with
    told | falls | file
  · exact ⟨_, told, answer⟩
  · exact absurd falls whole
  · rw [file] at route
    exact absurd (Request.endpoint_of_destination route).1 (endpointOf?_api api)

/-- The sample with session tokens that are not empty and a secret that codes can be computed
from. -/
def Deployment.sampleEnrolling : Deployment :=
  { sampleTokens with
    sources := { sampleTokens.sources with
      totpSecret := fun _ => "JBSWY3DPEHPK3PXPJBSWY3DPEHPK3PXP" } }

/-- The salts of the sample are ones. -/
theorem Deployment.sampleEnrolling_salt (n : Nat) :
    (Password.Salt.parse? (sampleEnrolling.sources.salt n)).isSome := sample_salt false n

/-- Codes can be computed from the secret of the sample. -/
theorem Deployment.sampleEnrolling_keys (n : Nat) :
    ∃ key, Totp.keyOf (sampleEnrolling.sources.totpSecret n) = .ok key := by
  have keyed : (Totp.keyOf "JBSWY3DPEHPK3PXPJBSWY3DPEHPK3PXP").toOption.isSome = true := by
    decide +kernel
  change ∃ key, Totp.keyOf "JBSWY3DPEHPK3PXPJBSWY3DPEHPK3PXP" = .ok key
  cases found : Totp.keyOf "JBSWY3DPEHPK3PXPJBSWY3DPEHPK3PXP" with
  | ok key => exact ⟨key, rfl⟩
  | error e =>
    rw [found] at keyed
    cases keyed

namespace Http

/-- A request that posts a username and a password. -/
def Request.sampleCredentials (path username password : String) : Request :=
  posting path (Json.write (.table (Json.textEntries
    [("username", username), ("password", password)])))

/-- Posted credentials are plain texts. -/
theorem Request.plain_sampleCredentials {username password : String}
    (name : Json.IsPlain username) (word : Json.IsPlain password) :
    ∀ e ∈ [("username", username), ("password", password)],
      Json.IsPlain e.1 ∧ Json.IsPlain e.2 := by
  intro e among
  rcases List.mem_pair.mp among with rfl | rfl
  · exact ⟨(by decide +kernel : Json.IsPlain "username"), name⟩
  · exact ⟨(by decide +kernel : Json.IsPlain "password"), word⟩

/-- Posted credentials are read. -/
theorem Request.read_sampleCredentials {username password : String}
    (name : Json.IsPlain username) (word : Json.IsPlain password) (path : String) (e : Endpoint) :
    ({} : Site).stopsAtBody (sampleCredentials path username password) e = false := by
  rw [Site.stopsAtBody, sampleCredentials, show ({} : Site).nesting = 899 + 1 from rfl,
    not_nestsBeyond_posting_texts path 899 (plain_sampleCredentials name word), Bool.and_false]

/-- The texts of posted credentials are those that were written. -/
theorem Request.text_sampleCredentials {username password : String}
    (name : Json.IsPlain username) (word : Json.IsPlain password) (path field : String) :
    (sampleCredentials path username password).text field =
      if field = "username" then username else if field = "password" then password else "" := by
  unfold text sampleCredentials
  rw [fields_posting_texts path (plain_sampleCredentials name word)]
  simp only [Keyed.merge, Json.textEntries, Keyed.mapValues, List.map_cons, List.map_nil,
    List.foldl_cons, List.foldl_nil, Keyed.put]
  by_cases first : field = "username"
  · subst first
    simp [Keyed.find?, Value.plain]
  · by_cases second : field = "password"
    · subst second
      simp [Keyed.find?, Value.plain]
    · simp [Keyed.find?, Ne.symm first, Ne.symm second, first, second]

end Http

/-- A login of bob after his signup and a purge is answered. -/
theorem requests_answered_iff_login :
    let d := Deployment.sampleEnrolling
    let r := Request.sampleCredentials "/api/auth/login" "bob" "pw"
    let visits := [.request 0 (Request.sampleCredentials "/api/signup" "bob" "pw"), .purge 5]
    ∃ start, World.start d .empty 0 = (.ok start, .empty) ∧
      r.destination = .endpoint .login ∧ ["api"] <+: pathNames r.plainPath ∧
      let w : World := { start.visited {} d visits with clock := 7 }
      ∃ response, response.IsAnswer ∧
        (serve {} d r w).1 = ({} : Site).delivered r response := by
  intro d r visits
  have route : r.destination = .endpoint .login := by decide +kernel
  have names : pathNames r.plainPath = ["api", "auth", "login"] := by decide +kernel
  have api : ["api"] <+: pathNames r.plainPath := by
    rw [names]
    exact ⟨_, rfl⟩
  have text : FileTree.empty.IsText d.usersFile := ⟨rfl, nofun⟩
  have word : Json.IsPlain "bob" ∧ Json.IsPlain "pw" := by decide +kernel
  have read : ({} : Site).stopsAtBody r .login = false :=
    Request.read_sampleCredentials word.1 word.2 _ _
  refine ⟨_, rfl, route, api, (requests_answered_iff Deployment.sampleEnrolling_salt
    Deployment.sampleEnrolling_keys rfl text rfl visits 7 route api).1.mpr ?_⟩
  rintro (⟨stopped, -⟩ | ⟨other, -⟩ | undated)
  · rw [read] at stopped
    cases stopped
  · cases other
  · exact absurd undated.undated (by decide)

/-- A request that prepares two-factor login, with the session of a token. -/
def Http.Request.sampleSetup : Request where
  method := "POST"
  path := "/api/account/totp/setup"
  headers := [("Cookie", "tinyauth_um_session=t")]

/-- Posted credentials lead to the endpoint of their path. -/
theorem destination_sampleCredentials {path : String} (username password : String)
    (there : endpointOf? (pathNames (Request.plainPath { method := "POST", path })) = some e)
    (writes : e.isRead = false) :
    (Request.sampleCredentials path username password).destination = .endpoint e :=
  Request.destination_of_posted there rfl writes

section SampleUser

variable {name : String} (plain : Json.IsPlain name) (bare : Text.strip name = name)
include plain bare

/-- The values of posted credentials, as the handlers read them. -/
theorem Http.Request.values_sampleCredentials (path : String) :
    let r := sampleCredentials path name "pw"
    r.strippedText "username" = name ∧ r.text "password" = "pw" ∧
      r.strippedText "email" = "" ∧ r.strippedText "phone" = "" := by
  intro r
  have texts := text_sampleCredentials plain (by decide +kernel : Json.IsPlain "pw") path
  unfold strippedText
  rw [texts, texts, texts, texts]
  have blank : Text.strip "" = "" := by decide
  exact ⟨bare, rfl, blank, blank⟩

/-- A posted signup creates the account. -/
theorem World.visit_signup_sample (valid : Users.isValidUsername name = true)
    (legible : Users.IsLegibleName name) :
    let d := Deployment.sampleEnrolling
    ∃ saltText hash w, (World.sample []).visit {} d
        (.request 0 (.sampleCredentials "/api/signup" name "pw")) = w ∧
      Password.hash? saltText "pw" = some hash ∧
      w.find d name = .ok (some { username := name, password := hash }) ∧
      w.tables = {} ∧ w.drawn.sessionTokens = 0 := by
  intro d
  have route : (Request.sampleCredentials "/api/signup" name "pw").destination =
      .endpoint .signup := destination_sampleCredentials name "pw" (by decide +kernel) rfl
  obtain ⟨username, password, email, phone⟩ :=
    Request.values_sampleCredentials plain bare "/api/signup"
  obtain ⟨hash₀, files, -, -, run⟩ := World.runIn_signup_sample (d := d) [] name "pw" rfl rfl
    (Deployment.sampleEnrolling_salt 0) valid (by decide) rfl
  have apart : d.FilesApart := ⟨(Deployment.sample_filesApart false).1,
    (Deployment.sample_filesApart false).2⟩
  obtain ⟨saltText, hash, hashed, found, -⟩ := Account.find_of_signup apart run
  refine ⟨saltText, hash, _, ?_, hashed, found legible, rfl, rfl⟩
  have read := Request.read_sampleCredentials plain (by decide +kernel : Json.IsPlain "pw")
    "/api/signup" .signup
  rw [visit_request, serve_of_endpoint route, handle_of_open rfl, afterBody_of_read read,
    handleOpen, handleSignup, username, password, email, phone]
  exact congrArg Prod.snd (settle_bind_ok run)

/-- A posted login opens a session. -/
theorem World.visit_login_sample (valid : Users.isValidUsername name = true) {w : World}
    {saltText hash : String} (hashed : Password.hash? saltText "pw" = some hash)
    (first : w.drawn.sessionTokens = 0)
    (found : w.find .sampleEnrolling name = .ok (some { username := name, password := hash })) :
    w.visit {} .sampleEnrolling (.request 0 (.sampleCredentials "/api/auth/login" name "pw")) =
      { w with
        clock := 0
        drawn := { w.drawn with sessionTokens := 1 }
        tables := w.tables.createSession "t" name 0 86400 } := by
  have route : (Request.sampleCredentials "/api/auth/login" name "pw").destination =
      .endpoint .login := destination_sampleCredentials name "pw" (by decide +kernel) rfl
  obtain ⟨username, password, -, -⟩ :=
    Request.values_sampleCredentials plain bare "/api/auth/login"
  have run := Session.runIn_login .sampleEnrolling name "pw" { w with clock := 0 }
  rw [show World.find .sampleEnrolling { w with clock := 0 } name = _ from found] at run
  dsimp only at run
  rw [if_pos (Password.verify_of_hash? hashed), first] at run
  have given : name ≠ "" := by
    rintro rfl
    cases valid
  have read := Request.read_sampleCredentials plain (by decide +kernel : Json.IsPlain "pw")
    "/api/auth/login" .login
  rw [visit_request, serve_of_endpoint route, handle_of_open rfl, afterBody_of_read read,
    handleOpen, settle_handleLogin (by simp [username, password, given])
      (by rw [username, password]; exact run)]
  rfl

end SampleUser

/-- The user of a long name who signs up, logs in and then prepares two-factor login overflows. -/
theorem overflows_of_long_name {name : String} (plain : Json.IsPlain name)
    (valid : Users.isValidUsername name = true) (legible : Users.IsLegibleName name)
    (bare : Text.strip name = name) (long : 5601 < name.utf8ByteSize) :
    Request.sampleSetup.Overflows {} .sampleEnrolling
      ((World.sample []).visited {} .sampleEnrolling [
        .request 0 (.sampleCredentials "/api/signup" name "pw"),
        .request 0 (.sampleCredentials "/api/auth/login" name "pw")]) .setupTotp := by
  obtain ⟨saltText, hash, w, signedUp, hashed, found, empty, first⟩ :=
    World.visit_signup_sample plain bare valid legible
  have loggedIn := World.visit_login_sample plain bare valid hashed first found
  have token : Request.sampleSetup.cookie? ({} : Site).cookieName = some "t" := by decide +kernel
  obtain ⟨key, keyed⟩ := Deployment.sampleEnrolling_keys 0
  rw [World.visited, List.foldl_cons, signedUp, List.foldl_cons, loggedIn, List.foldl_nil]
  refine ⟨rfl, name, ⟨"t", ⟨name, 0, 86400⟩, token, by decide, ?_, rfl, rfl⟩,
    Totp.setupWith_of_long keyed long "tinyauth"⟩
  exact State.Tables.session?_createSession w.tables "t" name 0 86400

/-- A name of letters. -/
def sampleName (more : Nat) : String := String.ofList (List.replicate (more + 1) 'a')

namespace sampleName

variable {more : Nat}

/-- Its characters are that many letters and one more. -/
theorem toList : (sampleName more).toList = 'a' :: List.replicate more 'a' := by
  rw [sampleName, String.toList_ofList, List.replicate_succ]

/-- Nothing but one letter stands in it. -/
theorem letter {c : Char} (among : c ∈ (sampleName more).toList) : c = 'a' := by
  rw [sampleName, String.toList_ofList] at among
  exact List.eq_of_mem_replicate among

/-- It is posted as it stands. -/
theorem isPlain : Json.IsPlain (sampleName more) := by
  intro c among
  rw [letter among]
  decide

/-- It may be signed up with. -/
theorem isValid : Users.isValidUsername (sampleName more) = true := by
  have given : sampleName more ≠ "" := by
    rw [Ne, ← String.toList_eq_nil_iff, toList]
    exact List.cons_ne_nil _ _
  have clean : (sampleName more).toList.any (fun c => c == ':' || c == '\n' || c == '\r') =
      false := by
    rw [List.any_eq_false]
    intro c among
    rw [letter among]
    decide
  unfold Users.isValidUsername
  rw [clean]
  simpa using given

/-- The users file gives it back. -/
theorem isLegible : Users.IsLegibleName (sampleName more) := by
  refine ⟨⟨'a', _, toList, by decide, by decide⟩, fun c among => ?_⟩
  rw [letter among]
  decide

/-- No blanks stand at its ends. -/
theorem strip : Text.strip (sampleName more) = sampleName more := by
  have solid : Text.trimEnd Text.isBlank (sampleName more).toList = (sampleName more).toList :=
    Text.trimEnd_of_none fun c among => by
      rw [letter among]
      decide
  unfold Text.strip Text.trimBoth
  rw [show Text.trimStart Text.isBlank (sampleName more).toList = (sampleName more).toList by
    rw [toList]
    exact Text.trimStart_cons_of_not _ (by decide), solid, String.ofList_toList]

/-- It has more bytes than the given number. -/
theorem length_lt : more < (sampleName more).utf8ByteSize := by
  have letters := Text.length_le_utf8ByteSize (sampleName more)
  rw [← String.length_toList, toList, List.length_cons, List.length_replicate] at letters
  exact letters

end sampleName

/-- A user with a name of six thousand letters who signs up and logs in gets a response without
content to the request that prepares two-factor login. -/
theorem long_name_unanswered :
    let d := Deployment.sampleEnrolling
    let visits := [
      .request 0 (Request.sampleCredentials "/api/signup" (sampleName 5999) "pw"),
      .request 0 (Request.sampleCredentials "/api/auth/login" (sampleName 5999) "pw")]
    let w := (World.sample []).visited {} d visits
    World.start d (World.sample []).files 0 = (.ok (World.sample []), (World.sample []).files) ∧
      Request.sampleSetup.destination = .endpoint .setupTotp ∧
      (serve {} d .sampleSetup w).1 = ({} : Site).delivered .sampleSetup { status := 500 } ∧
      ¬ ∃ response, response.IsAnswer ∧
        (serve {} d .sampleSetup w).1 = ({} : Site).delivered .sampleSetup response := by
  intro d visits w
  have route : Request.sampleSetup.destination = .endpoint .setupTotp := by decide +kernel
  have overflows := overflows_of_long_name sampleName.isPlain sampleName.isValid
    sampleName.isLegible sampleName.strip
    (Nat.lt_trans (by decide) (sampleName.length_lt : 5999 < (sampleName 5999).utf8ByteSize))
  have falls : Request.sampleSetup.FallsThrough {} d w .setupTotp := .inr (.inl overflows)
  exact ⟨rfl, route, serve_of_fallsThrough Deployment.sampleEnrolling_keys route falls,
    not_answered_of_fallsThrough Deployment.sampleEnrolling_keys route falls⟩

end AccountSidecar
