import AccountSidecar.Proofs.TemplateFaults
import AccountSidecar.Webhook.PasswordSync

/-!
# Failures of deliveries

The templates of a target are rendered one after another, and the first that gives no output ends
the delivery before a call is made. It is reported as an error of the target that names the field,
but for one kind of fault: an operation on values that cannot be done, such as a division by zero,
comes out as it is. So does what keeps a rendered call from being made, such as a text without an
encoding. All other deliveries end in a status or in an error that is reported, for every template
engine and whatever makes the calls (`delivery_reported_iff`). Targets whose templates refuse no
value never fail unreported (`endsReported_of_undemanding`).
-/

namespace AccountSidecar.Webhook

open Template (Fault IsUndemanding Proceeds itselfName render)

/-- The failure of a delivery in which a template has a fault. -/
def TemplateField.failure (field : TemplateField) : Fault → DeliveryFailure
  | .operation kind reason => .operation kind reason
  | fault => .template field fault

section

variable {τ : Type} (engine : Engine τ)

/-- The fault of a template, if it gives no output. -/
def faultOf? (data : Keyed String) (template : TemplateField × String) :
    Option (TemplateField × Fault) :=
  match engine.output template.2 data with
  | .ok _ => none
  | .error fault => some (template.1, fault)

/-- The templates of a target, in the order in which they are rendered. -/
def Target.templates (target : Target) : List (TemplateField × String) :=
  (.url, target.url) :: (.body, target.body) ::
    target.headers.map fun header => (.header header.1, header.2)

/-- The first template of a target that gives no output, and its fault. -/
def Target.firstFault? (target : Target) (vars : Keyed String) : Option (TemplateField × Fault) :=
  target.templates.findSome? (faultOf? engine (templateData target.env vars))

end

/-- Whether a delivery ends in a status below 400 or in a failure that is reported. -/
def Outcome.EndsReported {τ : Type} (delivery : Outcome τ) : Prop :=
  match delivery.result with
  | .ok status => status < 400
  | .error failure => failure.isReported = true

/-- Whether rendering comes to the fault that was found first, or to its end if there is none. -/
def Meets {α : Type} (first : Option (TemplateField × Fault)) (result : Except DeliveryFailure α) :
    Prop :=
  match first with
  | none => ∃ a, result = .ok a
  | some (field, fault) => result = .error (field.failure fault)

variable {τ : Type} {engine : Engine τ} {data : Keyed String} {field : TemplateField}
  {fault : Fault} {source : String}

/-- A fault of a template itself is reported under its field. -/
theorem failure_of_template (own : fault.isOfTemplate = true) :
    field.failure fault = .template field fault := by
  cases fault with
  | operation kind reason => cases own
  | _ => rfl

/-- A failure is reported exactly where the template itself is at fault. -/
theorem isReported_failure (field : TemplateField) (fault : Fault) :
    (field.failure fault).isReported = fault.isOfTemplate := by
  cases fault <;> rfl

/-- What goes on after one template has been rendered comes to the first fault of that template and
the others. -/
theorem Meets.cons {α β : Type} {template : TemplateField × String}
    {templates : List (TemplateField × String)} {result : Except DeliveryFailure α}
    {next : α → Except DeliveryFailure β} (here : Meets (faultOf? engine data template) result)
    (later : ∀ a, Meets (templates.findSome? (faultOf? engine data)) (next a)) :
    Meets ((template :: templates).findSome? (faultOf? engine data)) (result >>= next) := by
  rw [List.findSome?_cons]
  cases found : faultOf? engine data template with
  | none =>
    rw [found] at here
    obtain ⟨a, rendered⟩ := here
    rw [rendered]
    exact later a
  | some first =>
    rw [found] at here
    rw [show result = .error (first.1.failure first.2) from here]
    rfl

/-- Rendering a field comes to the fault of its template, if that has one. -/
theorem renderField_meets (engine : Engine τ) (field : TemplateField) (source : String)
    (data : Keyed String) :
    Meets (faultOf? engine data (field, source)) (renderField engine field source data) := by
  unfold faultOf? renderField
  cases engine.output source data with
  | ok s => exact ⟨s, rfl⟩
  | error fault => cases fault <;> rfl

/-- Rendering headers comes to the first fault among their templates. -/
theorem renderHeaders_meets (engine : Engine τ) (data headers : Keyed String) (done : Keyed τ) :
    Meets ((headers.map fun header => (TemplateField.header header.1, header.2)).findSome?
      (faultOf? engine data)) (renderHeaders engine data headers done) := by
  induction headers generalizing done with
  | nil => exact ⟨done, rfl⟩
  | cons header rest ih =>
    obtain ⟨key, source⟩ := header
    have onward : renderHeaders engine data ((key, source) :: rest) done =
        renderField engine (.header key) source data >>= fun s =>
          renderHeaders engine data rest (done.put key s) := by
      rw [renderHeaders]
      cases renderField engine (.header key) source data <;> rfl
    rw [onward, List.map_cons]
    exact (renderField_meets engine (.header key) source data).cons fun s => ih (done.put key s)

/-- Rendering the call of a target comes to the first fault among its templates. -/
theorem rendered_meets (engine : Engine τ) (target : Target) (vars : Keyed String) (timeout : Int) :
    Meets (target.firstFault? engine vars) (target.rendered engine vars timeout) := by
  unfold Target.firstFault? Target.templates Target.rendered
  generalize templateData target.env vars = data
  refine (renderField_meets engine .url target.url data).cons fun url => ?_
  refine (renderField_meets engine .body target.body data).cons fun body => ?_
  generalize [("Content-Type", engine.ofText target.contentType)] = done
  have headers := renderHeaders_meets engine data target.headers done
  generalize renderHeaders engine data target.headers done = result at headers ⊢
  generalize List.findSome? _ _ = first at headers ⊢
  cases first with
  | none =>
    obtain ⟨rendered, rfl⟩ := headers
    exact ⟨_, rfl⟩
  | some found =>
    rw [show result = .error (found.1.failure found.2) from headers]
    rfl

/-- A delivery that fails without a report ends in none. -/
theorem not_endsReported {delivery : Outcome τ} {failure : DeliveryFailure}
    (failed : delivery.result = .error failure) (silent : failure.isReported = false) :
    ¬ delivery.EndsReported := by
  rw [Outcome.EndsReported, failed]
  exact Bool.eq_false_iff.mp silent

/-- A call that was answered comes to a status below 400 or to a failure that is reported. -/
theorem endsReported_of_reply (requests : List (Call τ)) (reply : Reply) :
    Outcome.EndsReported ⟨requests, reply.result⟩ := by
  unfold Outcome.EndsReported Reply.result
  cases reply with
  | failure reason => rfl
  | response status body =>
    by_cases fine : status < 400
    · simp [fine]
    · simp [fine, DeliveryFailure.isReported]

/-- A call comes to an end that is reported exactly where it is answered. -/
theorem endsReported_outcome (call : Call τ) (sending : Sending) :
    (sending.outcome call).EndsReported ↔ ∃ reply, sending = .answered reply := by
  cases sending with
  | answered reply => exact iff_of_true (endsReported_of_reply [call] reply) ⟨reply, rfl⟩
  | escaped sent kind reason => exact iff_of_false (not_endsReported rfl rfl) nofun

/-- A delivery in which a template gives no output makes no call, and fails as that template does.
-/
theorem deliver_of_fault {target : Target} {vars : Keyed String} (transport : Transport τ)
    (timeout : Int) (found : target.firstFault? engine vars = some (field, fault)) :
    deliverWith engine transport target vars timeout = ⟨[], .error (field.failure fault)⟩ := by
  have failed := rendered_meets engine target vars timeout
  rw [found] at failed
  rw [deliverWith, Target.callWith, show target.rendered engine vars timeout = _ from failed]
  rfl

/-- A delivery in which every template gives output hands a call over to be made where the body of
the call has an encoding. -/
theorem deliver_of_rendered {target : Target} {vars : Keyed String} {call : Call τ}
    (transport : Transport τ) {timeout : Int}
    (rendered : target.rendered engine vars timeout = .ok call) :
    deliverWith engine transport target vars timeout =
      if engine.encodes call.body then (transport call).outcome call
      else ⟨[], .error (.escaped "UnicodeEncodeError" "surrogates not allowed")⟩ := by
  rw [deliverWith, Target.callWith, rendered]
  dsimp only [Bind.bind, Except.bind]
  cases engine.encodes call.body <;> rfl

/-- The first fault of a target whose templates refuse no value is one of the template, unless the
name of the template itself is given a value. -/
theorem firstFault?_of_undemanding {target : Target} {vars : Keyed String}
    (undemanding : ∀ template ∈ target.templates, IsUndemanding template.2)
    (free : Keyed.find? itselfName (templateData target.env vars) = none)
    (found : target.firstFault? .standard vars = some (field, fault)) :
    fault.isOfTemplate = true := by
  obtain ⟨template, among, own⟩ := List.exists_of_findSome?_eq_some found
  have proceeds := Template.render_proceeds (undemanding template among) free
  unfold faultOf? at own
  split at own
  · cases own
  · rename_i failed
    obtain ⟨-, rfl⟩ := Prod.mk.inj (Option.some.inj own)
    rw [show Template.render template.2 _ = _ from failed] at proceeds
    exact proceeds

/-- A delivery ends in a status below 400, or in an error that is reported under the name of the
target, exactly where the first template without output is itself at fault, or where all have output
and the call that they render to has an encoding and is answered. Where a template is at fault the
error names its field, and no call was made. This holds for every template engine, whatever makes
the calls. -/
theorem delivery_reported_iff {τ : Type} (engine : Engine τ) (transport : Transport τ)
    (target : Target) (vars : Keyed String) (timeout : Int) :
    let delivery := deliverWith engine transport target vars timeout
    (delivery.EndsReported ↔
      (∀ field fault, target.firstFault? engine vars = some (field, fault) →
        fault.isOfTemplate = true) ∧
      (target.firstFault? engine vars = none →
        ∃ call, target.rendered engine vars timeout = .ok call ∧
          engine.encodes call.body = true ∧ ∃ reply, transport call = .answered reply)) ∧
    (∀ field fault, target.firstFault? engine vars = some (field, fault) →
      fault.isOfTemplate = true →
      delivery.requests = [] ∧ delivery.result = .error (.template field fault) ∧
        TargetError.message ⟨target.name, .template field fault⟩ =
          target.name ++ ": " ++ ("template " ++ field.label)) := by
  intro delivery
  constructor
  · cases found : target.firstFault? engine vars with
    | none =>
      have meets := rendered_meets engine target vars timeout
      rw [found] at meets
      obtain ⟨call, rendered⟩ := meets
      rw [show delivery = _ from deliver_of_rendered transport rendered]
      simp only [reduceCtorEq, IsEmpty.forall_iff, implies_true, true_and, forall_const, rendered,
        Except.ok.injEq, exists_eq_left']
      cases engine.encodes call.body with
      | false => exact iff_of_false (not_endsReported rfl rfl) nofun
      | true => simpa using endsReported_outcome call (transport call)
    | some first =>
      obtain ⟨field, fault⟩ := first
      rw [show delivery = _ from deliver_of_fault transport timeout found]
      change (field.failure fault).isReported = true ↔ _
      rw [isReported_failure]
      constructor
      · intro own
        refine ⟨fun field' fault' same => ?_, nofun⟩
        obtain ⟨rfl, rfl⟩ := Prod.mk.inj (Option.some.inj same)
        exact own
      · intro own
        exact own.1 field fault rfl
  · intro field fault found own
    rw [show delivery = _ from deliver_of_fault transport timeout found, failure_of_template own]
    exact ⟨rfl, rfl, rfl⟩

/-- Targets whose templates refuse no value always end in a status below 400 or in an error that is
reported. -/
theorem endsReported_of_undemanding (network : Network) {target : Target} {vars : Keyed String}
    (timeout : Int) (undemanding : ∀ template ∈ target.templates, IsUndemanding template.2)
    (free : Keyed.find? itselfName (templateData target.env vars) = none) :
    (deliver network target vars timeout).EndsReported := by
  unfold deliver
  cases found : target.firstFault? .standard vars with
  | none =>
    have meets := rendered_meets .standard target vars timeout
    rw [found] at meets
    obtain ⟨call, rendered⟩ := meets
    rw [deliver_of_rendered _ rendered]
    exact endsReported_of_reply [call] (network call)
  | some first =>
    rw [deliver_of_fault _ timeout found]
    exact (isReported_failure first.1 first.2).trans
      (firstFault?_of_undemanding undemanding free found)

/-- A target whose body divides by zero. -/
def Target.sampleDividing : Target where
  name := "z"
  url := "http://h/"
  body := "\x7b\x7b 1/0 \x7d\x7d"

/-- The division escapes: the delivery ends in no status and in no failure that is reported. -/
theorem division_escapes :
    ¬ (deliver (fun _ => .response 200 []) .sampleDividing [] defaultTimeout).EndsReported := by
  have divided : (deliver (fun _ => .response 200 []) .sampleDividing [] defaultTimeout).result =
      .error (.operation .zeroDivision "division by zero") := by decide +kernel
  exact not_endsReported divided rfl

end AccountSidecar.Webhook
