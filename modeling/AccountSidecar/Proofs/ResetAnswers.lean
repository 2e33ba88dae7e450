import AccountSidecar.Proofs.PostedTexts

/-!
# Answers to requests for a reset

Whoever asks for a reset by mail or by text message learns nothing about accounts. What the request
sets off runs in the background, and no failure comes back from there (`runIn_inBackground`):
neither of the lookup, nor of the store, nor of the delivery, nor of text messages that are not
configured. So the answer does not depend on the state of the service, and of the request on one
thing alone: a body that nests deeper than the reader goes is answered otherwise than all others
(`reset_answers_alike_iff`).
-/

namespace AccountSidecar.Http

open AccountSidecar.Action

variable {site : Site} {d d' : Deployment} {r r' : Request} {w w' : World}

/-- What runs in the background comes to its end and changes what it changes. -/
theorem runIn_inBackground (a : Action Unit) (w : World) :
    (inBackground a).runIn w = (.ok (), (a.runIn w).2) := by
  unfold inBackground
  rw [runIn_tryCatch]
  rcases a.runIn w with ⟨_ | ⟨⟩, _⟩ <;> rfl

/-- Whatever the body names, asking for a reset by mail is answered alike. -/
theorem runIn_handleRequestReset (d : Deployment) (r : Request) (w : World) :
    ((handleRequestReset d r).runIn w).1 =
      .ok (.okWith [("message", .text "If user exists, reset email sent")]) := by
  unfold handleRequestReset
  dsimp only
  split
  · rfl
  · rw [runIn_bind_ok (runIn_inBackground _ w)]
    rfl

/-- Whatever phone the body names, asking for a reset by text message is answered alike. -/
theorem runIn_handleRequestSmsReset (given : r.strippedText "phone" ≠ "") (d : Deployment)
    (w : World) :
    ((handleRequestSmsReset d r).runIn w).1 = .ok (.okWith
      [("message", .text "If a user is associated with this phone, a code was sent")]) := by
  unfold handleRequestSmsReset
  dsimp only
  rw [if_neg given, runIn_bind_ok (runIn_inBackground _ w)]
  rfl

/-- Whether a request asks for a reset by mail. -/
def Request.AsksByMail (r : Request) : Prop :=
  r.method = "POST" ∧ pathNames r.plainPath = ["api", "password-reset", "request"]

/-- Whether a request asks for a reset by text message, to a phone that is not blank. -/
def Request.AsksByText (r : Request) : Prop :=
  r.method = "POST" ∧ pathNames r.plainPath = ["api", "auth", "forgot-password-sms"] ∧
    r.strippedText "phone" ≠ ""

/-- The answer to a request for a reset by mail whose body is read. -/
theorem serve_of_asksByMail (asks : r.AsksByMail) (read : r.nestsBeyond site.nesting = false)
    (d : Deployment) (w : World) :
    (serve site d r w).1 = site.delivered r
      (.okWith [("message", .text "If user exists, reset email sent")]) := by
  obtain ⟨posted, path⟩ := asks
  have route : r.destination = .endpoint .requestReset :=
    r.destination_of_posted (by rw [path]; rfl) posted rfl
  exact serve_of_open route rfl ((stopsAtBody_eq rfl site r).trans read)
    (runIn_handleRequestReset d r w)

/-- The answer to a request for a reset by text message whose body is read. -/
theorem serve_of_asksByText (asks : r.AsksByText) (read : r.nestsBeyond site.nesting = false)
    (d : Deployment) (w : World) :
    (serve site d r w).1 = site.delivered r (.okWith
      [("message", .text "If a user is associated with this phone, a code was sent")]) := by
  obtain ⟨posted, path, given⟩ := asks
  have route : r.destination = .endpoint .requestSmsReset :=
    r.destination_of_posted (by rw [path]; rfl) posted rfl
  exact serve_of_open route rfl ((stopsAtBody_eq rfl site r).trans read)
    (runIn_handleRequestSmsReset given d w)

/-- Whether a request asks for a reset in one of the two ways. -/
def Request.AsksForReset (r : Request) : Prop := r.AsksByMail ∨ r.AsksByText

/-- Who asks for a reset posts. -/
theorem Request.AsksForReset.posted (asks : r.AsksForReset) : r.method = "POST" :=
  asks.elim And.left And.left

/-- The answer to a request for a reset whose body nests too deep has no content. -/
theorem serve_of_tooDeep (asks : r.AsksForReset) (deep : r.nestsBeyond site.nesting = true)
    (d : Deployment) (w : World) :
    serve site d r w = (site.delivered r { status := 500 }, w) := by
  rcases asks with ⟨posted, path⟩ | ⟨posted, path, -⟩
  · have route : r.destination = .endpoint .requestReset :=
      r.destination_of_posted (by rw [path]; rfl) posted rfl
    exact serve_of_stopped route rfl ((stopsAtBody_eq rfl site r).trans deep)
  · have route : r.destination = .endpoint .requestSmsReset :=
      r.destination_of_posted (by rw [path]; rfl) posted rfl
    exact serve_of_stopped route rfl ((stopsAtBody_eq rfl site r).trans deep)

/-- The status of the answer to a request for a reset. -/
theorem status_of_asksForReset (asks : r.AsksForReset) (site : Site) (d : Deployment) (w : World) :
    (serve site d r w).1.status = if r.nestsBeyond site.nesting then 500 else 200 := by
  cases deep : r.nestsBeyond site.nesting with
  | true =>
    rw [serve_of_tooDeep asks deep]
    rfl
  | false =>
    rcases asks with asks | asks
    · rw [serve_of_asksByMail asks deep]
      rfl
    · rw [serve_of_asksByText asks deep]
      rfl

/-- Two requests for a reset by mail, or two by text message to phones that are not blank, that
differ in their bodies alone, in any two states of the service: they get the same answer exactly
where the bodies of both nest too deep for the reader or neither does. -/
theorem reset_answers_alike_iff
    (asks : r.AsksByMail ∧ r'.AsksByMail ∨ r.AsksByText ∧ r'.AsksByText)
    (headers : r'.headers = r.headers) (site : Site) (d d' : Deployment) (w w' : World) :
    (serve site d r w).1 = (serve site d' r' w').1 ↔
      r.nestsBeyond site.nesting = r'.nestsBeyond site.nesting := by
  have each : r.AsksForReset ∧ r'.AsksForReset :=
    asks.elim (fun mail => ⟨.inl mail.1, .inl mail.2⟩) fun text => ⟨.inr text.1, .inr text.2⟩
  have delivered (response : Response) :
      site.delivered r response = site.delivered r' response := by
    unfold Site.delivered Site.originHeaders Request.header?
    rw [each.1.posted, each.2.posted, headers]
  have status := status_of_asksForReset each.1 site d w
  have status' := status_of_asksForReset each.2 site d' w'
  constructor
  · intro alike
    rw [alike, status'] at status
    cases deep : r.nestsBeyond site.nesting <;> cases deep' : r'.nestsBeyond site.nesting <;>
      simp_all
  · intro alike
    cases deep : r.nestsBeyond site.nesting with
    | true =>
      rw [serve_of_tooDeep each.1 deep, serve_of_tooDeep each.2 (alike ▸ deep)]
      exact delivered _
    | false =>
      rcases asks with ⟨mail, mail'⟩ | ⟨text, text'⟩
      · rw [serve_of_asksByMail mail deep, serve_of_asksByMail mail' (alike ▸ deep), delivered]
      · rw [serve_of_asksByText text deep, serve_of_asksByText text' (alike ▸ deep), delivered]

/-- A request for a reset by mail, for a user whose name stands in the body as it is given. -/
def Request.sampleByMail (username : String) : Request :=
  posting "/api/password-reset/request" ("\x7b\"username\": " ++ username ++ "\x7d")

/-- A request for a reset by text message. -/
def Request.sampleByText (phone : String) : Request :=
  posting "/api/auth/forgot-password-sms" ("\x7b\"phone\": \"" ++ phone ++ "\"\x7d")

/-- The sample request asks for a reset by mail, whatever the username. -/
theorem Request.sampleByMail_asks (username : String) : (sampleByMail username).AsksByMail :=
  ⟨rfl, (by decide +kernel : pathNames (posting "/api/password-reset/request" "").plainPath =
    ["api", "password-reset", "request"])⟩

/-- It says nothing beside its body. -/
theorem Request.sampleByMail_headers (username : String) : (sampleByMail username).headers = [] :=
  rfl

/-- An empty service without text messages and one that knows alice but cannot send anything answer
alike, to both kinds of requests. -/
theorem reset_answers_alike_iff_failing :
    let d := Deployment.sample false
    let d' := { Deployment.sample false with smsEnabled := true }
    let w : World := { files := .empty }
    let w' := { World.sample [⟨"alice", "x", ""⟩] with
      metadata := [("alice", { phone := "+1" })]
      failing := [.mailer, .sms] }
    (serve {} d (.sampleByMail "\"bob\"") w).1 = (serve {} d' (.sampleByMail "\"alice\"") w').1 ∧
      (serve {} d (.sampleByText "+2") w).1 = (serve {} d' (.sampleByText "+1") w').1 := by
  intro d d' w w'
  have text : (Request.sampleByText "+2").AsksByText ∧ (Request.sampleByText "+1").AsksByText :=
    ⟨⟨rfl, by decide +kernel, by decide +kernel⟩, ⟨rfl, by decide +kernel, by decide +kernel⟩⟩
  have mail : (Request.sampleByMail "\"bob\"").AsksByMail ∧
      (Request.sampleByMail "\"alice\"").AsksByMail :=
    ⟨Request.sampleByMail_asks _, Request.sampleByMail_asks _⟩
  exact ⟨(reset_answers_alike_iff (.inl mail) rfl {} d d' w w').mpr (by decide +kernel),
    (reset_answers_alike_iff (.inr text) rfl {} d d' w w').mpr (by decide +kernel)⟩

/-- Brackets that stand inside one another. -/
def nestedBrackets (depth : Nat) : String :=
  String.ofList (List.replicate depth '[' ++ List.replicate depth ']')

/-- A username of more brackets than the reader goes through nests too deep. -/
theorem Request.nestsBeyond_sampleByMail (limit more : Nat) :
    (sampleByMail (nestedBrackets (limit + 1 + more))).nestsBeyond (limit + 1) = true := by
  have object : ("\x7b\"username\": " ++ nestedBrackets (limit + 1 + more) ++ "\x7d").toList =
      '\x7b' :: '"' :: ("username".toList ++ '"' :: ':' :: ' ' :: (List.replicate (limit + 1) '[' ++
        (List.replicate more '[' ++ (List.replicate (limit + 1 + more) ']' ++ ['\x7d'])))) := by
    rw [← List.append_assoc (List.replicate (limit + 1) '['), List.replicate_append_replicate]
    simp [nestedBrackets]
  rw [sampleByMail, nestsBeyond, jsonText?_posting _ ⟨_, object.symm⟩, Option.any_some,
    ← String.ofList_toList (s := _ ++ _), object]
  exact Json.nestsBeyond_of_deep_entry (by decide) limit _

/-- A username that nests deeper than the reader goes is answered otherwise than that of alice. -/
theorem deep_username_answered_otherwise :
    let d := Deployment.sample false
    let w := World.sample [⟨"alice", "x", ""⟩]
    let deep := Request.sampleByMail (nestedBrackets 2000)
    let named := Request.sampleByMail "\"alice\""
    deep.AsksByMail ∧ named.AsksByMail ∧ named.headers = deep.headers ∧
      (serve {} d deep w).1.status = 500 ∧ (serve {} d named w).1.status = 200 ∧
      (serve {} d deep w).1 ≠ (serve {} d named w).1 := by
  intro d w deep named
  have tooDeep : deep.nestsBeyond 900 = true := Request.nestsBeyond_sampleByMail 899 1100
  have read : named.nestsBeyond 900 = false := by decide +kernel
  have asks : deep.AsksByMail ∧ named.AsksByMail :=
    ⟨Request.sampleByMail_asks _, Request.sampleByMail_asks _⟩
  have status := status_of_asksForReset (.inl asks.1) {} d w
  have status' := status_of_asksForReset (.inl asks.2) {} d w
  rw [show ({} : Site).nesting = 900 from rfl] at status status'
  rw [tooDeep, if_pos rfl] at status
  rw [read, if_neg Bool.false_ne_true] at status'
  have headers : named.headers = deep.headers :=
    (Request.sampleByMail_headers _).trans (Request.sampleByMail_headers _).symm
  refine ⟨asks.1, asks.2, headers, status, status', fun alike => ?_⟩
  rw [alike, status'] at status
  cases status

end AccountSidecar.Http
