import AccountSidecar.Proofs.DeliveryFaults
import Mathlib.Data.List.Forall2

/-!
# Deliveries in full

Every template of a target is rendered before a call is made, so a delivery makes one call or none.
It makes none where a template has no output or the body no encoding, and otherwise the call carries
what the templates render to, with the headers of the target over its content type, and what becomes
of it decides how the delivery ends (`delivery_rendered_whole`). The environment of a target counts
over the values of the call. All of this holds for every template engine, whatever makes the calls.
-/

namespace AccountSidecar.Keyed

variable {α : Type} {table : Keyed α}

/-- Whether a table has the values of another, overridden key by key: the last value that the
changes give to a key counts, and the value from before where they give none. -/
def Overrides (changes table result : Keyed α) : Prop :=
  ∀ key, find? key result = (find? key changes.reverse).or (find? key table)

/-- Setting the keys of one table in another overrides its values. -/
theorem overrides_merge (changes table : Keyed α) :
    Overrides changes table (merge table changes) := by
  intro key
  unfold merge
  induction changes generalizing table with
  | nil => rfl
  | cons e rest ih =>
    rw [List.foldl_cons, ih, List.reverse_cons, find?_append, Option.or_assoc]
    congr 1
    by_cases own : e.1 = key
    · rw [find?, if_pos own, ← own, find?_put_self, Option.some_or]
    · rw [find?, if_neg own, find?_put_of_ne (Ne.symm own), find?, Option.none_or]

/-- Setting the keys of one table in another keeps keys distinct. -/
theorem Distinct.merge (distinct : table.Distinct) (changes : Keyed α) :
    (Keyed.merge table changes).Distinct := by
  unfold Keyed.merge
  induction changes generalizing table with
  | nil => exact distinct
  | cons e rest ih => exact ih (distinct.put e.1 e.2)

end AccountSidecar.Keyed

namespace AccountSidecar.Webhook

open Template (Fault)

section

variable {τ : Type} (engine : Engine τ)

/-- Whether headers are those of a target with each value rendered. -/
def HeadersRender (data headers : Keyed String) (rendered : Keyed τ) : Prop :=
  List.Forall₂
    (fun header value => value.1 = header.1 ∧ engine.output header.2 data = .ok value.2)
    headers rendered

/-- Whether a call is the one that a target asks for, with every template rendered and its headers
over the content type. -/
structure Target.Renders (target : Target) (data : Keyed String) (timeout : Int) (call : Call τ) :
    Prop where
  method : call.method = target.method
  url : engine.output target.url data = .ok call.url
  body : engine.output target.body data = .ok call.body
  headers : ∃ rendered, HeadersRender engine data target.headers rendered ∧
    Keyed.Overrides rendered [("Content-Type", engine.ofText target.contentType)] call.headers
  /-- No header is sent twice. -/
  distinct : call.headers.Distinct
  timeout : call.timeout = timeout
  verify : call.verify = !target.skipTlsVerify

/-- Whether a delivery ends in an error that is reported with a reason under the name of the target.
-/
def Outcome.Reports (delivery : Outcome τ) (name reason : String) : Prop :=
  ∃ failure, delivery.result = .error failure ∧ failure.isReported = true ∧
    TargetError.message ⟨name, failure⟩ = name ++ ": " ++ reason

/-- Whether a delivery ends as the reply to its call says. -/
def Outcome.EndsAs (delivery : Outcome τ) (name : String) : Reply → Prop
  | .failure reason => delivery.Reports name ("http request: " ++ reason)
  | .response status body =>
    (∀ n, delivery.result = .ok n ↔ n = status ∧ status < 400) ∧
    (400 ≤ status → delivery.Reports name
      ("HTTP " ++ toString status ++ ": " ++ Text.decodeLossy (body.take 1024)))

end

variable {τ : Type} {engine : Engine τ} {data : Keyed String} {target : Target}
  {vars : Keyed String}

/-- A field that has output renders to it. -/
theorem renderField_of_ok {field : TemplateField} {source : String} {s : τ}
    (output : engine.output source data = .ok s) :
    renderField engine field source data = .ok s := by
  unfold renderField
  rw [output]

/-- Headers that all have output are set one after another. -/
theorem renderHeaders_of_render {headers : Keyed String} {rendered : Keyed τ}
    (render : HeadersRender engine data headers rendered) (done : Keyed τ) :
    renderHeaders engine data headers done = .ok (Keyed.merge done rendered) := by
  induction render generalizing done with
  | nil => rfl
  | cons header _ ih =>
    rw [renderHeaders, renderField_of_ok header.2]
    dsimp only
    rw [ih, ← header.1]
    rfl

/-- Headers that all have output render to some. -/
theorem exists_headersRender {headers : Keyed String}
    (output : ∀ header ∈ headers, ∃ s, engine.output header.2 data = .ok s) :
    ∃ rendered, HeadersRender engine data headers rendered := by
  induction headers with
  | nil => exact ⟨[], .nil⟩
  | cons header rest ih =>
    obtain ⟨⟨s, own⟩, others⟩ := List.forall_mem_cons.mp output
    obtain ⟨rendered, follow⟩ := ih others
    exact ⟨(header.1, s) :: rendered, .cons ⟨rfl, own⟩ follow⟩

/-- A target of which every template has output asks for the call that they render to. -/
theorem exists_rendered_of_output (timeout : Int)
    (output : ∀ template ∈ target.templates,
      ∃ s, engine.output template.2 (templateData target.env vars) = .ok s) :
    ∃ call, target.rendered engine vars timeout = .ok call ∧
      target.Renders engine (templateData target.env vars) timeout call := by
  let data := templateData target.env vars
  obtain ⟨⟨url, urlOutput : engine.output target.url data = .ok url⟩, output⟩ :=
    List.forall_mem_cons.mp output
  obtain ⟨⟨body, bodyOutput : engine.output target.body data = .ok body⟩, output⟩ :=
    List.forall_mem_cons.mp output
  obtain ⟨rendered, headers⟩ :
      ∃ rendered, HeadersRender engine data target.headers rendered :=
    exists_headersRender fun header inside =>
      output (.header header.1, header.2) (List.mem_map_of_mem inside)
  let content : Keyed τ := [("Content-Type", engine.ofText target.contentType)]
  have distinct : content.Distinct := List.nodup_singleton _
  refine ⟨{ method := target.method, url, body, headers := content.merge rendered, timeout,
            verify := !target.skipTlsVerify }, ?_, ?_⟩
  · have sent : renderHeaders engine data target.headers content = .ok (content.merge rendered) :=
      renderHeaders_of_render headers content
    simp only [Target.rendered, data, content] at sent ⊢
    rw [renderField_of_ok urlOutput, renderField_of_ok bodyOutput, sent]
    rfl
  · exact {
      method := rfl
      url := urlOutput
      body := bodyOutput
      headers := ⟨rendered, headers, Keyed.overrides_merge rendered content⟩
      distinct := distinct.merge rendered
      timeout := rfl
      verify := rfl }

/-- The first fault of a target is that of its first template without output. -/
theorem firstFault?_of_split {before after : List (TemplateField × String)} {field : TemplateField}
    {source : String} {fault : Fault}
    (split : target.templates = before ++ (field, source) :: after)
    (output : ∀ template ∈ before,
      ∃ s, engine.output template.2 (templateData target.env vars) = .ok s)
    (failed : engine.output source (templateData target.env vars) = .error fault) :
    target.firstFault? engine vars = some (field, fault) := by
  rw [Target.firstFault?, split, List.findSome?_append, List.findSome?_cons,
    List.findSome?_eq_none_iff.mpr fun template inside => ?_, Option.none_or]
  · simp only [faultOf?, failed]
  · obtain ⟨s, rendered⟩ := output template inside
    simp only [faultOf?, rendered]

/-- A delivery of one call ends as the reply says. -/
theorem endsAs_of_reply (name : String) (requests : List (Call τ)) (reply : Reply) :
    Outcome.EndsAs ⟨requests, reply.result⟩ name reply := by
  cases reply with
  | failure reason => exact ⟨_, rfl, rfl, rfl⟩
  | response status body =>
    unfold Outcome.EndsAs Reply.result
    by_cases fine : status < 400
    · simp only [fine, and_true]
      exact ⟨fun n => ⟨fun same => (Except.ok.inj same).symm, fun same => same ▸ rfl⟩,
        fun refused => absurd fine (Int.not_lt.mpr refused)⟩
    · simp only [fine, and_false, iff_false]
      exact ⟨nofun, fun _ => ⟨_, rfl, rfl, rfl⟩⟩

/-- Every template of a target is rendered before anything is sent, with the values of the call
overridden by the environment of the target. Where a template has no output no call is made, and the
first of them decides: a fault of the template is reported under the name of its field, and any
other exception comes out without a report. Otherwise there is one call, the one that the templates
render to. It is not made where its body has no encoding. Where it is answered it was made exactly
once, and the delivery ends as the reply says; where an exception of another kind comes out of
making it, that comes out of the delivery. -/
theorem delivery_rendered_whole {τ : Type} (engine : Engine τ) (transport : Transport τ)
    (target : Target) (vars : Keyed String) (timeout : Int) :
    let data := templateData target.env vars
    let delivery := deliverWith engine transport target vars timeout
    Keyed.Overrides target.env vars data ∧
    (∀ before field source after fault, target.templates = before ++ (field, source) :: after →
      (∀ template ∈ before, ∃ s, engine.output template.2 data = .ok s) →
      engine.output source data = .error fault →
      delivery.requests = [] ∧
      (fault.isOfTemplate = true →
        delivery.Reports target.name ("template " ++ TemplateField.label field)) ∧
      (fault.isOfTemplate = false → ¬ delivery.EndsReported)) ∧
    ((∀ template ∈ target.templates, ∃ s, engine.output template.2 data = .ok s) →
      ∃ call, target.Renders engine data timeout call ∧
        (engine.encodes call.body = false → delivery.requests = [] ∧ ¬ delivery.EndsReported) ∧
        (engine.encodes call.body = true →
          (∀ reply, transport call = .answered reply →
            delivery.requests = [call] ∧ delivery.EndsAs target.name reply) ∧
          (∀ sent kind reason, transport call = .escaped sent kind reason →
            delivery.requests = (if sent then [call] else []) ∧ ¬ delivery.EndsReported))) := by
  intro data delivery
  refine ⟨Keyed.overrides_merge target.env vars, ?_, fun output => ?_⟩
  · intro before field source after fault split output failed
    have run : delivery = ⟨[], .error (field.failure fault)⟩ :=
      deliver_of_fault transport timeout (firstFault?_of_split split output failed)
    refine ⟨by rw [run], fun own => ?_, fun other => ?_⟩
    · exact ⟨.template field fault, by rw [run, failure_of_template own], rfl, rfl⟩
    · exact not_endsReported (by rw [run]) ((isReported_failure field fault).trans other)
  · obtain ⟨call, rendered, renders⟩ := exists_rendered_of_output timeout output
    have run : delivery = _ := deliver_of_rendered transport rendered
    refine ⟨call, renders, fun bare => ?_, fun encoded => ⟨fun reply answered => ?_,
      fun sent kind reason escaped => ?_⟩⟩
    · rw [bare, if_neg Bool.false_ne_true] at run
      rw [run]
      exact ⟨rfl, not_endsReported rfl rfl⟩
    · rw [encoded, if_pos rfl, answered] at run
      rw [run]
      exact ⟨rfl, endsAs_of_reply target.name [call] reply⟩
    · rw [encoded, if_pos rfl, escaped] at run
      rw [run]
      exact ⟨rfl, not_endsReported rfl rfl⟩

/-- A target whose address divides by zero and whose body is cut off. -/
def Target.sampleCutOff : Target where
  name := "z"
  url := "\x7b\x7b 1/0 \x7d\x7d"
  body := "\x7b\x7b Username "

/-- The cut-off body is a fault of the template, and no error says so: the division in the address
comes out without a report. -/
theorem division_hides_body :
    (∃ fault, Engine.standard.output Target.sampleCutOff.body [] = .error fault ∧
        fault.isOfTemplate = true) ∧
      ¬ (deliver (fun _ => .response 200 []) .sampleCutOff [] defaultTimeout).EndsReported := by
  have cut : Engine.standard.output Target.sampleCutOff.body [] = .error .syntaxFault := by
    decide +kernel
  have divided : (deliver (fun _ => .response 200 []) .sampleCutOff [] defaultTimeout).result =
      .error (.operation .zeroDivision "division by zero") := by decide +kernel
  exact ⟨⟨_, cut, rfl⟩, not_endsReported divided rfl⟩

end AccountSidecar.Webhook
