import AccountSidecar.Proofs.FirstLogin
import AccountSidecar.Proofs.SessionRoutes
import AccountSidecar.Proofs.TableSteps

/-!
# Requests without a value that they must bring

Each endpoint that takes a password must be told some values. A request in which one of them is
absent or empty is refused and changes nothing, but that a session found past its time is closed
(`Http.refused_of_lacking`). The check looks at the text of the values, and the text of a null is
`"None"`, so a null is no missing value: it counts as if `"None"` had been written
(`lacking_requests_refused`).
-/

namespace AccountSidecar

open AccountSidecar.Action Account Http

variable {d : Deployment} {w : World}

namespace State.Tables

/-- A reset token that is not there cannot be claimed. -/
theorem claimResetToken_of_missing {t : Tables} {token : String}
    (missing : t.resetToken? token = none) (now : Int) :
    t.claimResetToken token now = .error (.of .invalidToken) := by
  unfold claimResetToken
  rw [missing]

end State.Tables

/-- In a run from empty tables every reset token is a drawn identifier. -/
theorem World.resetTokens_drawn (d : Deployment) {start : World} (empty : start.tables = {})
    (events : List Event) :
    ∀ e ∈ (start.after d events).tables.resetTokens, ∃ n, e.1 = d.sources.identifier n := by
  refine invariant_after
    (fun w => ∀ e ∈ w.tables.resetTokens, ∃ n, e.1 = d.sources.identifier n)
    (fun w op holds => ?_) (fun _ _ _ _ holds => holds) events (by rw [empty]; simp)
  have change : TokensStep d w (op.step d w).after op := op.perform_tokens w
  intro e inside
  generalize (op.step d w).after = w' at change inside
  cases change with
  | kept same => exact holds e (same ▸ inside)
  | issued found drawn put =>
    rw [put] at inside
    rcases Keyed.mem_put inside with rfl | inside
    · exact ⟨_, rfl⟩
    · exact holds e inside
  | claimed claimed marked =>
    obtain ⟨r, found, -, -, -, rfl⟩ := State.Tables.claimResetToken_eq_ok claimed
    rw [marked] at inside
    rcases Keyed.mem_put inside with rfl | inside
    · exact holds (_, r) (Keyed.mem_of_find? found)
    · exact holds e inside
  | purged dropped =>
    rw [dropped] at inside
    exact holds e (List.mem_of_mem_filter inside)

/-- Where no identifier is empty there is no reset token under the empty text. -/
theorem World.resetToken?_empty (identifiers : ∀ n, d.sources.identifier n ≠ "") {start : World}
    (empty : start.tables = {}) (events : List Event) :
    (start.after d events).tables.resetToken? "" = none := by
  cases found : (start.after d events).tables.resetToken? "" with
  | none => rfl
  | some r =>
    obtain ⟨n, same⟩ := resetTokens_drawn d empty events _ (Keyed.mem_of_find? found)
    exact absurd same.symm (identifiers n)

namespace Http

variable {site : Site} {r r' : Request} {e : Endpoint} {field : String}

/-- The values that a request to an endpoint must bring. -/
def Endpoint.required : Endpoint → List String
  | .login | .signup => ["username", "password"]
  | .confirmReset => ["token", "newPassword"]
  | .confirmSmsReset => ["phone", "code", "newPassword"]
  | .changePassword => ["newPassword"]
  | _ => []

/-- Whether a value is absent from a request or the empty text. -/
def Request.Lacks (r : Request) (field : String) : Prop :=
  Keyed.find? field r.fields = none ∨ Keyed.find? field r.fields = some (.text "")

/-- The text of a lacking value is empty. -/
theorem Request.text_of_lacks (lacks : r.Lacks field) : r.text field = "" := by
  unfold text
  rcases lacks with absent | blank
  · rw [absent]
    rfl
  · rw [blank]
    rfl

/-- The text of a lacking value is empty without blanks at its ends. -/
theorem Request.strippedText_of_lacks (lacks : r.Lacks field) : r.strippedText field = "" := by
  unfold strippedText
  rw [r.text_of_lacks lacks]
  decide

/-- Whatever fails is answered with an error. -/
theorem status_responseToFailure (e : Failure) : 400 ≤ (responseToFailure e).status := by
  have server : 400 ≤ 500 := by decide
  have stored (reported : Bool) : 400 ≤ (if reported then responseToFailure.storageFailure
      else { status := 500 }).status := by
    cases reported <;> exact server
  cases e with
  | account a =>
    change 400 ≤ a.kind.status
    cases a.kind <;> decide
  | users e => exact stored e.isReported
  | metadata e => exact stored e.isReported
  | _ => exact server

/-- Whether a handler answers with an error and changes nothing. -/
structure Refuses (a : Action Response) (w : World) : Prop where
  status : 400 ≤ (settle a w).1.status
  kept : (settle a w).2 = w

/-- A handler that fails and changes nothing refuses. -/
theorem Refuses.of_error {a : Action Response} {e : Failure} (run : a.runIn w = (.error e, w)) :
    Refuses a w := by
  constructor
  · unfold settle
    rw [run]
    exact status_responseToFailure e
  · rw [settle_world, run]

/-- A handler whose first part fails and changes nothing refuses. -/
theorem Refuses.of_bind {α : Type} {a : Action α} {f : α → Action Response} {e : Failure}
    (run : a.runIn w = (.error e, w)) : Refuses (a >>= f) w :=
  .of_error (e := e) (by rw [runIn_bind, run])

/-- A handler that answers with an error at once refuses. -/
theorem Refuses.of_response (status : Nat) (message : String) (error : 400 ≤ status) :
    Refuses (pure (.error status message)) w := ⟨error, rfl⟩

/-- A handler that refuses does so too when the body is read first. -/
theorem Refuses.afterBody {a : Action Response} (refuses : Refuses a w) (site : Site) (r : Request)
    (e : Endpoint) : Refuses (afterBody site r e a) w := by
  unfold Http.afterBody
  split
  · exact ⟨(by decide : 400 ≤ 500), rfl⟩
  · exact refuses

/-- A login without a username or a password is refused. -/
theorem refuses_handleLogin
    (missing : r.strippedText "username" = "" ∨ r.text "password" = "") :
    Refuses (handleLogin site d r) w := by
  unfold handleLogin
  dsimp only
  rw [if_pos (by simpa using missing)]
  exact .of_response 400 _ (by decide)

/-- A signup without a username or a password is refused. -/
theorem refuses_handleSignup
    (missing : r.strippedText "username" = "" ∨ r.text "password" = "") :
    Refuses (handleSignup d r) w := by
  unfold handleSignup
  refine .of_bind (e := .account (.of .invalidInput)) ?_
  unfold signup
  rw [if_pos (by simpa using missing)]
  rfl

/-- A new password for a code is refused without the phone, the code or the password. -/
theorem refuses_handleConfirmSmsReset (missing : r.strippedText "phone" = "" ∨
      r.strippedText "code" = "" ∨ r.text "newPassword" = "") :
    Refuses (handleConfirmSmsReset d r) w := by
  unfold handleConfirmSmsReset
  dsimp only
  rw [if_pos (by simpa [or_assoc] using missing)]
  exact .of_response 400 _ (by decide)

/-- A new password for a reset token is refused without the token or the password. -/
theorem refuses_resetPassword {token password : String} (missing : token = "" ∨ password = "")
    (unissued : w.tables.resetToken? "" = none) (response : Response) :
    Refuses (do resetPassword d token password; pure response) w := by
  have run := runIn_resetPassword d token password w
  cases fault : newPasswordFault? password with
  | some e =>
    rw [fault] at run
    exact .of_bind run
  | none =>
    rcases missing with rfl | rfl
    · rw [fault, State.Tables.claimResetToken_of_missing unissued] at run
      exact .of_bind run
    · cases fault

/-- An empty new password is refused, whoever asks for it. -/
theorem refuses_changePassword (username oldPassword : String) (response : Response) :
    Refuses (do changePassword d username oldPassword ""; pure response) w := by
  have fails : ∃ e, (changePassword d username oldPassword "").runIn w = (.error e, w) := by
    unfold changePassword
    rcases requireUser_cases d username w with ⟨c, -, run⟩ | ⟨e, -, run⟩
    · rw [runIn_bind_ok run]
      split <;> exact ⟨_, rfl⟩
    · rw [runIn_bind, run]
      exact ⟨e, rfl⟩
  obtain ⟨e, run⟩ := fails
  exact .of_bind run

/-- An endpoint that is open to all refuses a request that lacks a required value. -/
theorem refuses_handleOpen (required : field ∈ e.required) (lacks : r.Lacks field)
    (unguarded : e.needsSession = false) (unissued : w.tables.resetToken? "" = none) :
    Refuses (handleOpen site d r e) w := by
  have text := r.text_of_lacks lacks
  have stripped := r.strippedText_of_lacks lacks
  cases e with
  | login =>
    change Refuses (handleLogin site d r) w
    rcases List.mem_pair.mp required with rfl | rfl
    · exact refuses_handleLogin (.inl stripped)
    · exact refuses_handleLogin (.inr text)
  | signup =>
    change Refuses (handleSignup d r) w
    rcases List.mem_pair.mp required with rfl | rfl
    · exact refuses_handleSignup (.inl stripped)
    · exact refuses_handleSignup (.inr text)
  | confirmReset =>
    change Refuses (do resetPassword d (r.text "token") (r.text "newPassword"); pure .ok) w
    rcases List.mem_pair.mp required with rfl | rfl
    · exact refuses_resetPassword (.inl text) unissued _
    · exact refuses_resetPassword (.inr text) unissued _
  | confirmSmsReset =>
    change Refuses (handleConfirmSmsReset d r) w
    rcases List.mem_cons.mp required with rfl | required
    · exact refuses_handleConfirmSmsReset (.inl stripped)
    · rcases List.mem_pair.mp required with rfl | rfl
      · exact refuses_handleConfirmSmsReset (.inr (.inl stripped))
      · exact refuses_handleConfirmSmsReset (.inr (.inr text))
  | changePassword => cases unguarded
  | _ => cases required

/-- An endpoint of an account refuses a request that lacks a required value. -/
theorem refuses_handleFor (required : field ∈ e.required) (lacks : r.Lacks field)
    (guarded : e.needsSession = true) (username : String) :
    Refuses (handleFor d r username e) w := by
  have text := r.text_of_lacks lacks
  cases e with
  | changePassword =>
    obtain rfl := List.mem_singleton.mp required
    unfold handleFor
    rw [text]
    exact refuses_changePassword username _ _
  | login | signup | confirmReset | confirmSmsReset => cases guarded
  | _ => cases required

/-- Whether a world is left as it was, but that the session of a token may be closed as expired. -/
def ClosesAtMost (token : Option String) (w w' : World) : Prop :=
  w' = w ∨ ∃ key s, token = some key ∧ w.tables.session? key = some s ∧
    s.isExpired w.clock = true ∧ w' = { w with tables := w.tables.deleteSession key }

/-- A request that lacks a required value is refused. -/
theorem refused_of_lacking (route : r.destination = .endpoint e) (required : field ∈ e.required)
    (lacks : r.Lacks field) (unissued : w.tables.resetToken? "" = none) :
    400 ≤ (serve site d r w).1.status ∧
      ClosesAtMost (r.cookie? site.cookieName) w (serve site d r w).2 := by
  have answer : serve site d r w = (site.delivered r (settle (handle site d r e) w).1,
      (settle (handle site d r e) w).2) := serve_of_endpoint route w
  rw [answer]
  by_cases guarded : e.needsSession = true
  · rw [handle_of_guarded guarded]
    by_cases live : ∃ username, w.LiveSession (r.cookie? site.cookieName) username
    · obtain ⟨username, live⟩ := live
      have run := Session.runIn_username_of_live live
      obtain ⟨status, kept⟩ :=
        (refuses_handleFor (d := d) required lacks guarded username).afterBody site r e
      exact ⟨(settle_bind_ok run).symm ▸ status, .inl ((settle_bind_ok run).symm ▸ kept)⟩
    · obtain ⟨w', run, closed⟩ :=
        Session.runIn_username_of_not_live fun username live' => live ⟨username, live'⟩
      rw [settle_bind_error run]
      exact ⟨status_responseToFailure _, closed⟩
  · have unguarded : e.needsSession = false := Bool.eq_false_iff.mpr guarded
    rw [handle_of_open unguarded]
    obtain ⟨status, kept⟩ :=
      (refuses_handleOpen required lacks unguarded unissued).afterBody site r e
    exact ⟨status, .inl kept⟩

/-- A value with a null spelled out as the text that it has. -/
def spelledOut : Value → Value
  | .null => .text "None"
  | v => v

/-- A null that is spelled out has the same text. -/
theorem plain_spelledOut (v : Value) : (spelledOut v).plain = v.plain := by
  cases v <;> rfl

/-- Whether a request differs from another one in that its nulls are spelled out. -/
structure Request.SpellsOutNulls (r r' : Request) : Prop where
  method : r'.method = r.method
  path : r'.path = r.path
  headers : r'.headers = r.headers
  fields : r'.fields = Keyed.mapValues spelledOut r.fields
  /-- What stands around and inside the values nests alike. -/
  nesting : r'.nestsBeyond = r.nestsBeyond

/-- Spelling out nulls changes no text. -/
theorem Request.SpellsOutNulls.text (spells : r.SpellsOutNulls r') : r'.text = r.text := by
  funext field
  unfold Request.text
  rw [spells.fields, Keyed.find?_mapValues]
  cases Keyed.find? field r.fields with
  | none => rfl
  | some v => exact plain_spelledOut v

/-- A request is served by its method, its path, its headers, the texts of its values and how deep
they nest. -/
theorem serve_congr (method : r'.method = r.method) (path : r'.path = r.path)
    (headers : r'.headers = r.headers) (text : r'.text = r.text)
    (nesting : r'.nestsBeyond = r.nestsBeyond) : serve site d r' w = serve site d r w := by
  have destination : r'.destination = r.destination := by
    unfold Request.destination Request.plainPath
    rw [method, path]
  have stripped : r'.strippedText = r.strippedText := by
    funext field
    unfold Request.strippedText
    rw [text]
  have header : r'.header? = r.header? := by
    funext name
    unfold Request.header?
    rw [headers]
  have cookie : r'.cookie? = r.cookie? := by
    funext name
    unfold Request.cookie?
    rw [header]
  have handled (e : Endpoint) : handle site d r' e = handle site d r e := by
    unfold handle afterBody Site.stopsAtBody handleFor handleOpen handleLogin handleLogout
      handleRequestReset handleSignup handleRequestSmsReset handleConfirmSmsReset
    rw [text, stripped, cookie, nesting]
  unfold serve dispatch Site.originHeaders
  rw [destination, method, header]
  simp only [handled]

end Http

/-- Requests to an endpoint that must be told some values, in a run from empty tables. A request in
which one of them is absent or empty is refused with an error, and nothing changes but that the
session shown may be closed as expired. A null counts as the text `"None"`. -/
theorem lacking_requests_refused {site : Site} {r : Request} {e : Endpoint}
    (identifiers : ∀ n, d.sources.identifier n ≠ "") {start : World} (empty : start.tables = {})
    (events : List Event) (route : r.destination = .endpoint e) :
    let w := start.after d events
    (∀ field ∈ e.required, r.Lacks field → 400 ≤ (serve site d r w).1.status ∧
      ClosesAtMost (r.cookie? site.cookieName) w (serve site d r w).2) ∧
    ∀ r', r.SpellsOutNulls r' → serve site d r' w = serve site d r w := by
  intro w
  have unissued := World.resetToken?_empty identifiers empty events
  refine ⟨fun field required lacks => refused_of_lacking route required lacks unissued,
    fun r' spells => ?_⟩
  exact serve_congr spells.method spells.path spells.headers spells.text spells.nesting

/-- A request that posts a JSON object to a path. -/
def Http.Request.posting (path object : String) : Request where
  method := "POST"
  path
  contentType := "application/json"
  body := object.toUTF8.toList

/-- The sample with identifiers that are not empty. -/
def Deployment.sampleIdentifiers : Deployment :=
  { sample false with
    sources := { (sample false).sources with
      identifier := fun n => String.ofList (List.replicate (n + 1) 'i') } }

/-- A signup without a password is refused. -/
theorem lacking_requests_refused_absent :
    let d := Deployment.sampleIdentifiers
    let r := Request.posting "/api/signup" "\x7b\"username\": \"bob\"\x7d"
    r.destination = .endpoint .signup ∧ r.Lacks "password" ∧
      400 ≤ (serve {} d r ((World.sample []).after d [])).1.status := by
  intro d r
  have identifiers (n : Nat) : d.sources.identifier n ≠ "" := by
    simp [d, Deployment.sampleIdentifiers]
  have route : r.destination = .endpoint .signup := by decide +kernel
  have absent : (Keyed.find? "password" r.fields).isNone := by decide +kernel
  have lacks : r.Lacks "password" := .inl (Option.isNone_iff_eq_none.mp absent)
  obtain ⟨refused, -⟩ := lacking_requests_refused identifiers
    (rfl : (World.sample []).tables = {}) [] route
  exact ⟨route, lacks, (refused "password" (by decide) lacks).1⟩

/-- Whether there is a value and it is null. -/
def isNull : Option Value → Bool
  | some .null => true
  | _ => false

/-- What counts as null is null. -/
theorem eq_null {v : Option Value} (null : isNull v = true) : v = some .null := by
  unfold isNull at null
  split at null
  · rfl
  · cases null

/-- A signup whose password is a null creates an account. -/
theorem null_password_accepted :
    let d := Deployment.sampleIdentifiers
    let r := Request.posting "/api/signup" "\x7b\"username\": \"bob\", \"password\": null\x7d"
    let served := serve {} d r (World.sample [])
    Keyed.find? "password" r.fields = some .null ∧ served.1.status = 200 ∧
      (World.sample []).find d "bob" = .ok none ∧
      ∃ c, served.2.find d "bob" = .ok (some c) := by
  intro d r served
  have null : Keyed.find? "password" r.fields = some .null := eq_null (by decide +kernel)
  have route : r.destination = .endpoint .signup := by decide +kernel
  have username : r.strippedText "username" = "bob" := by decide +kernel
  have email : r.strippedText "email" = "" := by decide +kernel
  have phone : r.strippedText "phone" = "" := by decide +kernel
  have password : r.text "password" = "None" := by decide +kernel
  have read : ({} : Site).stopsAtBody r .signup = false := by decide +kernel
  obtain ⟨hash, files, -, -, run⟩ := World.runIn_signup_sample (d := d) [] "bob" "None" rfl rfl
    (Deployment.sample_salt false 0) (by decide) (by decide) (by decide)
  have apart : d.FilesApart := ⟨(Deployment.sample_filesApart false).1,
    (Deployment.sample_filesApart false).2⟩
  obtain ⟨_, _, -, found, -⟩ := Account.find_of_signup apart run
  have legible : Users.IsLegibleName "bob" :=
    (Users.recordedName?_eq_self_iff (by decide)).mp (by decide)
  have answer : served = _ := serve_of_endpoint route (World.sample [])
  rw [handle_of_open rfl, afterBody_of_read read,
    show handleOpen {} d r .signup = handleSignup d r from rfl, handleSignup, username,
    email, phone, password, settle_bind_ok run] at answer
  rw [answer]
  exact ⟨null, rfl, World.find_sample false [] "bob", _, found legible⟩

end AccountSidecar
