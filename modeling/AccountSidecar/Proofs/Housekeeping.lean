import AccountSidecar.Proofs.ResetTokens
import AccountSidecar.Proofs.Sessions
import AccountSidecar.Proofs.ThinnedTables

/-!
# Housekeeping is invisible

Two runs of the same operations, one of them with housekeeping put in anywhere, stay alike: they
differ in records only that are used or past their time (`World.Alike`). No such record comes back
to life, for the clock goes forward and a released token is one that was good when it was claimed.
So every operation comes to the same in both runs, up to the error with which a dead token or code
is turned away (`housekeeping_invisible`).
-/

namespace AccountSidecar

open AccountSidecar.Action

/-- Whether two results are the same, up to the error that a dead record is turned away with. -/
def SameOutcome {α : Type} (result result' : Except Failure α) : Prop :=
  result' = result ∨
    ∃ e e', e.Fades e' ∧ result = .error (.account e) ∧ result' = .error (.account e')

/-- Whether a world is another one without some records that are dead by now. -/
structure World.Alike (w w' : World) : Prop where
  tables : w.tables.Thinned w.clock w'.tables
  rest : w' = { w with tables := w'.tables }

/-- Thinner tables make an alike world. -/
theorem World.alike_of_thinned {w : World} {t : State.Tables}
    (thinned : w.tables.Thinned w.clock t) : w.Alike { w with tables := t } := ⟨thinned, rfl⟩

/-- Alike worlds differ in their tables. -/
theorem World.Alike.eq {w w' : World} (alike : w.Alike w') :
    ∃ t, w.tables.Thinned w.clock t ∧ w' = { w with tables := t } :=
  ⟨w'.tables, alike.tables, alike.rest⟩

/-- Alike worlds have the same files, metadata and calls on collaborators. -/
theorem World.Alike.same {w w' : World} (alike : w.Alike w') :
    w'.files = w.files ∧ w'.metadata = w.metadata ∧ w'.effects = w.effects := by
  obtain ⟨t, -, rfl⟩ := alike.eq
  exact ⟨rfl, rfl, rfl⟩

namespace Action

variable {α β γ : Type} {d : Deployment}

/-- Whether an action comes to the same in alike worlds and leaves them alike. It neither moves the
clock nor removes a queued signup. -/
structure Steady (a : Action α) : Prop where
  clock : ∀ w : World, (a.runIn w).2.clock = w.clock
  queued : ∀ w : World, w.tables.signups.keys ⊆ (a.runIn w).2.tables.signups.keys
  run : ∀ {w w' : World}, w.Alike w' →
    SameOutcome (a.runIn w).1 (a.runIn w').1 ∧ (a.runIn w).2.Alike (a.runIn w').2

/-- What ignores the tables is steady. -/
theorem IgnoresTables.steady {a : Action α} (ignores : IgnoresTables a) : Steady a := by
  refine ⟨ignores.clock, fun w => ?_, fun {w w'} alike => ?_⟩
  · rw [ignores.kept w]
    exact List.Subset.refl _
  · obtain ⟨t, thinned, rfl⟩ := alike.eq
    rw [ignores.run w t]
    refine ⟨.inl rfl, World.alike_of_thinned ?_⟩
    rw [ignores.kept w, ignores.clock w]
    exact thinned

/-- Steady actions one after another are steady. -/
theorem steady_bind {a : Action α} {f : α → Action β} (first : Steady a)
    (second : ∀ x, Steady (f x)) : Steady (a >>= f) := by
  constructor
  · intro w
    exact related_bind (R := fun w w' => w'.clock = w.clock) (fun h h' => h'.trans h)
      (first.clock w) fun x => (second x).clock
  · intro w
    exact related_bind (R := fun w w' => w.tables.signups.keys ⊆ w'.tables.signups.keys)
      List.Subset.trans (first.queued w) fun x => (second x).queued
  · intro w w' alike
    obtain ⟨outcome, after⟩ := first.run alike
    rw [runIn_bind, runIn_bind]
    rcases step : a.runIn w with ⟨e | x, w₁⟩ <;> rw [step] at outcome after <;>
      rcases step' : a.runIn w' with ⟨e' | x', w₁'⟩ <;> rw [step'] at outcome after
    · rcases outcome with same | ⟨k, k', fades, is, is'⟩
      · obtain rfl := Except.error.inj same
        exact ⟨.inl rfl, after⟩
      · obtain rfl := Except.error.inj is
        obtain rfl := Except.error.inj is'
        exact ⟨.inr ⟨k, k', fades, rfl, rfl⟩, after⟩
    · rcases outcome with same | ⟨k, k', -, -, is'⟩
      · cases same
      · cases is'
    · rcases outcome with same | ⟨k, k', -, is, -⟩
      · cases same
      · cases is
    · rcases outcome with same | ⟨k, k', -, is, -⟩
      · obtain rfl := Except.ok.inj same
        exact (second x').run after
      · cases is

/-- A function of the value is as steady as the action. -/
theorem Steady.map {a : Action α} (inner : Steady a) (g : α → β) : Steady (g <$> a) :=
  steady_bind inner fun x => (ignoresTables_pure (g x)).steady

/-- An action that first looks at what alike worlds have in common is steady. -/
theorem steady_get {g : World → γ} {f : γ → Action β}
    (same : ∀ {w w' : World}, w.Alike w' → g w' = g w) (next : ∀ x, Steady (f x)) :
    Steady (do f (g (← get))) := by
  refine ⟨fun w => (next (g w)).clock w, fun w => (next (g w)).queued w, fun {w w'} alike => ?_⟩
  rw [runIn_bind_ok (runIn_get w), runIn_bind_ok (runIn_get w'), same alike]
  exact (next (g w)).run alike

/-- A change of the tables is steady if it keeps tables thinned and removes no signup. -/
theorem steady_changeTables {f : State.Tables → State.Tables}
    (thins : ∀ {now : Int} {t t' : State.Tables}, t.Thinned now t' → (f t).Thinned now (f t'))
    (grows : ∀ t : State.Tables, t.signups.keys ⊆ (f t).signups.keys) :
    Steady (changeTables f) := by
  refine ⟨fun w => rfl, fun w => grows w.tables, fun {w w'} alike => ?_⟩
  obtain ⟨t, thinned, rfl⟩ := alike.eq
  exact ⟨.inl rfl, World.alike_of_thinned (w := { w with tables := f w.tables }) (thins thinned)⟩

end Action

namespace Session

variable {d : Deployment}

/-- A login looks at the users file alone and adds a session. -/
theorem steady_login (username password : String) : Steady (login d username password) := by
  refine steady_bind (ignoresTables_findUser username).steady fun found => ?_
  split
  · exact (ignoresTables_throw _).steady
  · split
    · exact (ignoresTables_throw _).steady
    · refine steady_bind ignoresTables_drawSessionToken.steady fun token => ?_
      refine steady_bind ignoresTables_now.steady fun time => ?_
      refine steady_bind ?_ fun _ => (ignoresTables_pure _).steady
      exact steady_changeTables (fun thinned => thinned.createSession token _ _ _)
        fun _ => List.Subset.refl _

/-- A logout removes a session, from alike tables as well. -/
theorem steady_logout (token : String) : Steady (logout token) :=
  steady_changeTables (fun thinned => thinned.deleteSession token) fun _ => List.Subset.refl _

/-- Whether a session is past its time or missing, the query is turned away. -/
theorem steady_username (token : Option String) : Steady (username token) := by
  rcases missing_or_given token with missing | ⟨key, rfl, given⟩
  · have run := runIn_username_of_missing missing
    refine ⟨fun w => by rw [run], fun w => ?_, fun {w w'} alike => ?_⟩
    · rw [run]
      exact List.Subset.refl _
    · rw [run, run]
      exact ⟨.inl rfl, alike⟩
  · have run := runIn_username given
    refine ⟨fun w => ?_, fun w => ?_, fun {w w'} alike => ?_⟩
    · rw [run]
      split
      · rfl
      · split <;> rfl
    · rw [run]
      split
      · exact List.Subset.refl _
      · split <;> exact List.Subset.refl _
    · obtain ⟨t, thinned, rfl⟩ := alike.eq
      rw [run, run]
      dsimp only
      rcases thinned.sessions.found key with same | ⟨gone, s, there, dead⟩
      · rw [show t.session? key = w.tables.session? key from same]
        cases w.tables.session? key with
        | none => exact ⟨.inl rfl, alike⟩
        | some s =>
          dsimp only
          by_cases expired : s.isExpired w.clock = true
          · rw [if_pos expired, if_pos expired]
            exact ⟨.inl rfl, World.alike_of_thinned (thinned.deleteSession key)⟩
          · rw [if_neg expired, if_neg expired]
            exact ⟨.inl rfl, alike⟩
      · rw [show t.session? key = none from gone, show w.tables.session? key = some s from there]
        dsimp only
        rw [if_pos dead]
        have unchanged : t.deleteSession key = t :=
          congrArg (fun sessions => { t with sessions }) (Keyed.erase_of_absent gone)
        have both := thinned.deleteSession key
        rw [unchanged] at both
        exact ⟨.inl rfl, World.alike_of_thinned both⟩

end Session

namespace Account

variable {d : Deployment}

/-- The request of a reset looks at the users file alone and adds a token. -/
theorem steady_requestPasswordReset (username : String) :
    Steady (requestPasswordReset d username) := by
  refine steady_bind (ignoresTables_findUser username).steady fun found => ?_
  split
  · exact (ignoresTables_pure _).steady
  · refine steady_bind ignoresTables_drawIdentifier.steady fun token => ?_
    refine steady_bind ignoresTables_now.steady fun time => ?_
    refine steady_bind ?_ fun _ => (ignoresTables_emit _).steady
    exact steady_changeTables (fun thinned => thinned.createResetToken token _ _)
      fun _ => List.Subset.refl _

/-- A reset claims the same tokens in alike worlds, and where it fails the tables are as before. -/
theorem steady_resetPassword (token password : String) :
    Steady (resetPassword d token password) := by
  have ignores (username : String) : IgnoresTables (setPasswordOf d username password) :=
    ignoresTables_setPasswordOf username password
  refine ⟨fun w => ?_, fun w => ?_, fun {w w'} alike => ?_⟩
  · rw [runIn_resetPassword]
    split
    · rfl
    · rfl
    · rename_i username t _ claimed
      have kept := (ignores username).clock { w with tables := t }
      split <;> rename_i run <;> rw [run] at kept <;> exact kept
  · rcases resetPassword_cases d token password w with
      ⟨username, t, w', claimed, run, marked⟩ | ⟨e, w', run, kept⟩
    · obtain ⟨r, -, -, -, -, rfl⟩ := State.Tables.claimResetToken_eq_ok claimed
      rw [run, marked]
      exact List.Subset.refl _
    · rw [run, kept]
      exact List.Subset.refl _
  · obtain ⟨t, thinned, rfl⟩ := alike.eq
    rw [runIn_resetPassword, runIn_resetPassword]
    cases newPasswordFault? password with
    | some e => exact ⟨.inl rfl, alike⟩
    | none =>
      dsimp only
      rcases thinned.claimResetToken token with
        ⟨username, u, u', claimed, claimed', both⟩ | ⟨e, e', refused, refused', same⟩
      · rw [claimed, claimed']
        dsimp only
        have run := (ignores username).run w u
        have run' := (ignores username).run w u'
        have clock := (ignores username).clock w
        rw [run, run']
        rcases ended : (setPasswordOf d username password).runIn w with ⟨e | ⟨⟩, w₁⟩ <;>
          rw [ended] at clock <;> dsimp only at clock <;> rw [← clock] at thinned both
        · exact ⟨.inl rfl, ⟨thinned, rfl⟩⟩
        · exact ⟨.inl rfl, ⟨both, rfl⟩⟩
      · rw [refused, refused']
        refine ⟨?_, alike⟩
        rcases same with rfl | fades
        · exact .inl rfl
        · exact .inr ⟨e, e', fades, rfl, rfl⟩

/-- Queueing a signup adds its row and looks at no other. -/
theorem steady_queueSignup (username email hash phone : String) :
    Steady (queueSignup d username email hash phone) := by
  refine steady_bind ignoresTables_drawIdentifier.steady fun id => ?_
  refine steady_bind ignoresTables_now.steady fun time => ?_
  refine steady_bind ?_ fun _ => steady_bind (ignoresTables_stashPhone username phone).steady
    fun _ => (ignoresTables_pure _).steady
  refine steady_changeTables (fun thinned => thinned.createPendingSignup id _ _ _ _) fun t => ?_
  unfold State.Tables.createPendingSignup
  dsimp only
  rw [Keyed.keys_put]
  split
  · exact List.Subset.refl _
  · exact List.subset_append_left _ _

/-- A signup looks at the users file alone, then adds a row or creates the account. -/
theorem steady_signup (username email password phone : String) :
    Steady (signup d username email password phone) := by
  unfold signup
  split
  · exact (ignoresTables_throw _).steady
  · split
    · exact (ignoresTables_throw _).steady
    · refine steady_bind (ignoresTables_checkNewPassword password).steady fun _ => ?_
      refine steady_bind (ignoresTables_findUser username).steady fun found => ?_
      split
      · exact (ignoresTables_throw _).steady
      · refine steady_bind (ignoresTables_hashPassword password).steady fun hash => ?_
        split
        · exact steady_queueSignup username email hash phone
        · exact (ignoresTables_createAccount username password hash phone).steady

/-- An approval looks up a queued signup, and alike tables hold the same ones. -/
theorem steady_approveSignup (id : String) : Steady (approveSignup d id) := by
  refine steady_get (g := fun w => w.tables.pendingSignup id)
    (f := fun check => do
      let s ← ofCheck check
      upsertUser d { username := s.username, password := s.passwordHash }
      changeTables (·.approvePendingSignup id)
      setApproved d s.username true
      emit .restart) (fun alike => ?_) fun check => ?_
  · unfold State.Tables.pendingSignup
    rw [alike.tables.signups]
  · refine steady_bind ?_ fun s => ?_
    · cases check with
      | ok s => exact (ignoresTables_pure s).steady
      | error e => exact (ignoresTables_throw _).steady
    · refine steady_bind (ignoresTables_upsertUser _).steady fun _ => ?_
      refine steady_bind ?_ fun _ => (ignoresTables_noteApproval s.username).steady
      refine steady_changeTables (fun thinned => thinned.approvePendingSignup id) fun t => ?_
      exact (Keyed.keys_update id _ t.signups).symm ▸ List.Subset.refl _

/-- The request of a code looks at the metadata alone and adds a code. -/
theorem steady_requestSmsReset (phone : String) : Steady (requestSmsReset d phone) := by
  unfold requestSmsReset
  split
  · exact (ignoresTables_throw _).steady
  · refine steady_bind (ignoresTables_ownerOfPhone phone).steady fun username => ?_
    split
    · exact (ignoresTables_pure _).steady
    · refine steady_bind (ignoresTables_drawCode smsCodeLength).steady fun code => ?_
      refine steady_bind ignoresTables_now.steady fun time => ?_
      refine steady_bind ignoresTables_drawIdentifier.steady fun id => ?_
      refine steady_bind ?_ fun _ => (ignoresTables_sendTextMessage phone _).steady
      exact steady_changeTables (fun thinned => thinned.storeSmsCode id _ _ _)
        fun _ => List.Subset.refl _

/-- The use of a code comes to the same in alike worlds. -/
theorem steady_consumeSmsCode (phone code : String) : Steady (consumeSmsCode phone code) := by
  refine ⟨fun w => ?_, fun w => ?_, fun {w w'} alike => ?_⟩
  · rw [runIn_consumeSmsCode]
    split <;> rfl
  · rw [runIn_consumeSmsCode]
    split
    · rename_i t consumed
      obtain ⟨id, c, -, -, -, -, -, rfl⟩ := State.Tables.consumeSmsCode_eq_ok consumed
      exact List.Subset.refl _
    · exact List.Subset.refl _
  · obtain ⟨t, thinned, rfl⟩ := alike.eq
    rw [runIn_consumeSmsCode, runIn_consumeSmsCode]
    dsimp only
    rcases thinned.consumeSmsCode (Metadata.ownerOfPhone phone w.metadata) code with
      ⟨u, u', consumed, consumed', both⟩ | ⟨e, e', refused, refused', same⟩
    · rw [consumed, consumed']
      exact ⟨.inl rfl, World.alike_of_thinned (w := { w with tables := u }) both⟩
    · rw [refused, refused']
      refine ⟨?_, alike⟩
      rcases same with rfl | fades
      · exact .inl rfl
      · exact .inr ⟨e, e', fades, rfl, rfl⟩

/-- A reset with a code comes to the same in alike worlds, as the use of its code does. -/
theorem steady_resetPasswordSms (phone code password : String) :
    Steady (resetPasswordSms d phone code password) := by
  refine steady_bind (ignoresTables_checkNewPassword password).steady fun _ => ?_
  refine steady_bind (steady_consumeSmsCode phone code) fun username => ?_
  exact (ignoresTables_setPasswordOf username password).steady

end Account

open Account

/-- Every operation but housekeeping itself is steady. -/
theorem Operation.perform_steady {d : Deployment} {op : Operation} (other : op ≠ .purgeExpired) :
    Steady (op.perform d) := by
  have reply {a : Action Unit} (inner : Steady a) : Steady (do a; pure Reply.done) :=
    steady_bind inner fun _ => (ignoresTables_pure _).steady
  cases op with
  | login u p => exact (Session.steady_login u p).map _
  | logout t => exact reply (Session.steady_logout t)
  | sessionUsername t => exact (Session.steady_username t).map _
  | requestPasswordReset u => exact reply (steady_requestPasswordReset u)
  | resetPassword t p => exact reply (steady_resetPassword t p)
  | signup u e p ph => exact (steady_signup u e p ph).map _
  | approveSignup id => exact reply (steady_approveSignup id)
  | requestSmsReset p => exact reply (steady_requestSmsReset p)
  | resetPasswordSms p c n => exact reply (steady_resetPasswordSms p c n)
  | purgeExpired => exact absurd rfl other
  | _ => exact (perform_ignoresTables rfl).steady

/-- Whether an event is housekeeping. -/
def Event.isHousekeeping : Event → Bool
  | .operation .purgeExpired => true
  | _ => false

/-- Whether events are others with housekeeping put in anywhere. -/
inductive Interspersed : List Event → List Event → Prop
  | nil : Interspersed [] []
  | event {e : Event} {events padded : List Event} (other : e.isHousekeeping = false)
      (rest : Interspersed events padded) : Interspersed (e :: events) (e :: padded)
  | housekeeping {events padded : List Event} (rest : Interspersed events padded) :
      Interspersed events (.operation .purgeExpired :: padded)

/-- Whether the clock never goes back in a run that starts at a time. -/
def ClockAscends : Int → List Event → Prop
  | _, [] => True
  | now, .clock seconds :: rest => now ≤ seconds ∧ ClockAscends seconds rest
  | now, _ :: rest => ClockAscends now rest

/-- Whether two steps are the same operation and come to the same, up to dead records. -/
structure Step.Agrees (s s' : Step) : Prop where
  operation : s'.operation = s.operation
  outcome : SameOutcome s.result s'.result
  files : s'.after.files = s.after.files
  metadata : s'.after.metadata = s.after.metadata
  effects : s'.after.effects = s.after.effects
  signups : s'.after.tables.signups = s.after.tables.signups

/-- Whether a step is no housekeeping. -/
def Step.isOperational (s : Step) : Bool := s.operation ≠ .purgeExpired

variable {d : Deployment}

/-- An operation in alike worlds agrees and leaves them alike. -/
theorem Operation.step_agrees {op : Operation} (other : op ≠ .purgeExpired) {w w' : World}
    (alike : w.Alike w') :
    (op.step d w).Agrees (op.step d w') ∧ (op.step d w).after.Alike (op.step d w').after := by
  obtain ⟨outcome, after⟩ := (perform_steady (d := d) other).run alike
  obtain ⟨files, metadata, effects⟩ := after.same
  exact ⟨⟨rfl, outcome, files, metadata, effects, after.tables.signups⟩, after⟩

/-- Housekeeping keeps worlds alike. -/
theorem World.Alike.purged {w w' : World} (alike : w.Alike w') :
    w.Alike ((Operation.purgeExpired.step d w').after) := by
  obtain ⟨t, thinned, rfl⟩ := alike.eq
  exact World.alike_of_thinned thinned.purged

/-- Runs from alike worlds agree, however often housekeeping is put into one of them. -/
theorem World.steps_agree {events padded : List Event} (interspersed : Interspersed events padded)
    {w w' : World} (ascends : ClockAscends w.clock events) (alike : w.Alike w') :
    List.Forall₂ Step.Agrees (w.steps d events)
      ((w'.steps d padded).filter Step.isOperational) := by
  induction interspersed generalizing w w' with
  | nil => exact .nil
  | housekeeping rest ih => exact ih ascends (alike.purged (d := d))
  | @event e events padded other rest ih =>
    cases e with
    | operation op =>
      have operational : op ≠ .purgeExpired := by
        rintro rfl
        cases other
      obtain ⟨agrees, after⟩ := Operation.step_agrees (d := d) operational alike
      have clock : (op.step d w).after.clock = w.clock :=
        (Operation.perform_steady operational).clock w
      have first : (w'.steps d (.operation op :: padded)).filter Step.isOperational =
          op.step d w' :: ((op.step d w').after.steps d padded).filter Step.isOperational :=
        List.filter_cons_of_pos (decide_eq_true operational)
      rw [first]
      exact .cons agrees (ih (clock.symm ▸ ascends) after)
    | clock seconds =>
      obtain ⟨t, thinned, rfl⟩ := alike.eq
      exact ih ascends.2 ⟨thinned.mono ascends.1, rfl⟩
    | failing c on =>
      obtain ⟨t, thinned, rfl⟩ := alike.eq
      exact ih ascends ⟨thinned, rfl⟩
    | files f =>
      obtain ⟨t, thinned, rfl⟩ := alike.eq
      exact ih ascends ⟨thinned, rfl⟩

/-- No operation removes a queued signup. -/
theorem Operation.queued_step (d : Deployment) (w : World) (op : Operation) :
    w.tables.signups.keys ⊆ (op.step d w).after.tables.signups.keys := by
  by_cases housekeeping : op = .purgeExpired
  · rw [housekeeping]
    exact List.Subset.refl _
  · exact (perform_steady housekeeping).queued w

/-- Housekeeping is invisible. In a run from empty tables whose clock never goes back, housekeeping
put in anywhere changes nothing but the error with which a dead token or code is turned away, and no
operation of either run removes a queued signup. -/
theorem housekeeping_invisible {start : World} (empty : start.tables = {})
    {events padded : List Event} (interspersed : Interspersed events padded)
    (ascends : ClockAscends start.clock events) :
    List.Forall₂ Step.Agrees (start.steps d events)
        ((start.steps d padded).filter Step.isOperational) ∧
      ∀ s ∈ start.steps d padded, s.before.tables.signups.keys ⊆ s.after.tables.signups.keys := by
  have alike : start.Alike start := by
    refine ⟨?_, rfl⟩
    rw [empty]
    exact .empty start.clock
  constructor
  · exact World.steps_agree interspersed ascends alike
  · intro s among
    rw [World.eq_step_of_mem among]
    exact s.operation.queued_step d s.before

/-- A reset token that is past its time, in a run without housekeeping and in one with it: the
theorem at these events, where the reset is turned away with different errors. -/
theorem housekeeping_invisible_expired :
    let d := Deployment.sample false
    let start := World.sample [⟨"alice", "x", ""⟩]
    let request : Event := .operation (.requestPasswordReset "alice")
    let reset := Operation.resetPassword "" "pw1"
    let events := [request, .clock 4000, .operation reset]
    let padded := [request, .clock 4000, .operation .purgeExpired, .operation reset]
    (reset.step d (start.after d [request, .clock 4000])).result =
        .error (.account (.of .tokenExpired)) ∧
      (reset.step d (start.after d [request, .clock 4000, .operation .purgeExpired])).result =
        .error (.account (.of .invalidToken)) ∧
      List.Forall₂ Step.Agrees (start.steps d events)
        ((start.steps d padded).filter Step.isOperational) ∧
      ∀ s ∈ start.steps d padded, s.before.tables.signups.keys ⊆ s.after.tables.signups.keys := by
  intro d start request reset events padded
  have taken : newPasswordFault? "pw1" = none := by decide
  have reached : start.after d [request, .clock 4000] =
      { World.sampleRequested with clock := 4000 } := by
    rw [← World.after_request]
    rfl
  have purged : start.after d [request, .clock 4000, .operation .purgeExpired] =
      { World.sampleRequested with clock := 4000, tables := {} } := by
    rw [show start.after d [request, .clock 4000, .operation .purgeExpired] =
      (Operation.purgeExpired.step d (start.after d [request, .clock 4000])).after from rfl,
      reached]
    rfl
  have interspersed : Interspersed events padded :=
    .event rfl (.event rfl (.housekeeping (.event rfl .nil)))
  have ascends : ClockAscends start.clock events := ⟨by decide, trivial⟩
  refine ⟨?_, ?_, housekeeping_invisible rfl interspersed ascends⟩
  · have refused := runIn_resetPassword d "" "pw1" { World.sampleRequested with clock := 4000 }
    rw [taken] at refused
    rw [reached, Operation.step_of_reply rfl refused]
    rfl
  · have refused := runIn_resetPassword d "" "pw1"
      { World.sampleRequested with clock := 4000, tables := {} }
    rw [taken] at refused
    rw [purged, Operation.step_of_reply rfl refused]
    rfl

end AccountSidecar
