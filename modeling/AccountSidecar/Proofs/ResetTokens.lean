import AccountSidecar.Proofs.Resets
import AccountSidecar.Proofs.SingleUse

/-!
# Redeeming reset tokens

A reset that comes to its end spends its token for the rest of the run. A reset that fails releases
the token, also where the users file was written already and only the outside world was not told:
then a later reset with the same token changes the password again. So a token that changed the file
is used up exactly where neither the restart nor the push to the other systems failed
(`token_single_use_iff`).
-/

namespace AccountSidecar

open Storage AccountSidecar.Action Users

namespace Account

variable {d : Deployment}

/-- A reset with a spent token fails and changes nothing. -/
theorem resetPassword_of_spent {count : Nat}
    (spent : Keyed.Spent d.sources.identifier State.ResetToken.used count w.tables.resetTokens
      token) (password : String) :
    ∃ e, (Account.resetPassword d token password).runIn w = (.error e, w) := by
  obtain ⟨e, refused⟩ := State.Tables.claimResetToken_of_used
    (fun r found => spent.marked r (Keyed.mem_of_find? found)) w.clock
  rw [runIn_resetPassword, refused]
  cases newPasswordFault? password <;> exact ⟨_, rfl⟩

end Account

open Account

variable {d : Deployment} {token password : String}

/-- Whether every reset with a token fails and leaves the users file alone. -/
def RefusesToken (d : Deployment) (w : World) (token : String) : Prop :=
  ∀ password, let s := (Operation.resetPassword token password).step d w
    (∃ e, s.result = .error e) ∧ Part.Same d w s.after .usersFile

/-- Spent tokens are refused. -/
theorem refusesToken_of_spent {w : World} {count : Nat}
    (spent : Keyed.Spent d.sources.identifier State.ResetToken.used count w.tables.resetTokens
      token) : RefusesToken d w token := by
  intro password
  obtain ⟨e, run⟩ := resetPassword_of_spent spent password
  rw [Operation.step_of_reply rfl run]
  exact ⟨⟨e, rfl⟩, rfl⟩

/-- Both collaborators that a reset calls on work again. -/
def repairs : List Event := [.failing .restarter false, .failing .passwordSync false]

/-- After the repairs neither of the two collaborators fails. -/
theorem World.working_after_repairs (d : Deployment) (w : World) :
    .restarter ∉ (w.after d repairs).failing ∧ .passwordSync ∉ (w.after d repairs).failing := by
  simp [repairs, World.after, Event.run, World.setFailing]

/-- A reset that failed on one of the two collaborators comes to its end after the repairs, with the
same token and any password that is taken. -/
theorem Account.Resets.redone {w w' : World} {username hash newPassword : String} {t : State.Tables}
    {c : Credential} {files : FileTree} {result : Except Failure Unit}
    (resets : Resets d w token password username t c hash files)
    (failing : ¬ (.restarter ∉ w.failing ∧ .passwordSync ∉ w.failing))
    (run : (Account.resetPassword d token password).runIn w = (result, w'))
    (taken : newPasswordFault? newPassword = none)
    (salts : ∀ n, (Password.Salt.parse? (d.sources.salt n)).isSome) :
    ((Operation.resetPassword token newPassword).step d (w'.after d repairs)).result =
      .ok .done := by
  obtain ⟨e, w₁, failed, written, released, clock⟩ := resets.failed_of_failing failing
  obtain rfl : w₁ = w' := (Prod.mk.inj (failed.symm.trans run)).2
  obtain ⟨c', hash', files', again⟩ : ∃ c hash files,
      Resets d (w₁.after d repairs) token newPassword username t c hash files :=
    resets.again taken salts written released clock
  obtain ⟨restarter, passwordSync⟩ := World.working_after_repairs d w₁
  obtain ⟨w₂, ended, -⟩ := again.ended_of_working restarter passwordSync
  rw [Operation.step_of_reply rfl ended]
  rfl

/-- A token is refused forever after a reset with it changed the users file, exactly where neither
the restart nor the push to the other systems failed in that reset. -/
theorem token_single_use_iff (apart : d.FilesApart)
    (distinct : Function.Injective d.sources.identifier)
    (salts : ∀ n, (Password.Salt.parse? (d.sources.salt n)).isSome) {start : World}
    (empty : start.tables = {}) (events : List Event)
    (changed : ¬ Part.Same d (start.after d events)
      ((Operation.resetPassword token password).step d (start.after d events)).after .usersFile) :
    (∀ later, RefusesToken d (World.after d
        ((Operation.resetPassword token password).step d (start.after d events)).after later)
          token) ↔
      .restarter ∉ (start.after d events).failing ∧
        .passwordSync ∉ (start.after d events).failing := by
  have spending := World.spending_after apart distinct empty events
  generalize start.after d events = w at *
  generalize start.steps d events = earlier at *
  rcases run : (Account.resetPassword d token password).runIn w with ⟨result, w'⟩
  rw [Operation.step_of_reply rfl run] at changed ⊢
  dsimp only at changed ⊢
  obtain ⟨username, t, c, hash, files, resets⟩ :=
    resets_of_changed (d := d) (w := w) token password (by rwa [run])
  constructor
  · intro refused
    refine Classical.byContradiction fun failing => ?_
    have redone := resets.redone failing run resets.writes.taken salts
    obtain ⟨e, error⟩ := (refused repairs password).1
    rw [redone] at error
    cases error
  · rintro ⟨restarter, passwordSync⟩ later
    obtain ⟨w₁, ended, -⟩ := resets.ended_of_working restarter passwordSync
    obtain ⟨rfl, rfl⟩ := Prod.mk.inj (run.symm.trans ended)
    have redeems : ((Operation.resetPassword token password).step d w).Redeems token := by
      rw [Operation.step_of_reply rfl run]
      exact ⟨password, .done, rfl, rfl⟩
    have spent := (spending.step apart distinct (.resetPassword token password)).redeemed _
      (List.mem_append_right _ (List.mem_singleton_self _)) token redeems
    rw [Operation.step_of_reply rfl run] at spent
    exact refusesToken_of_spent (World.spent_after apart distinct spent later)

/-- A token whose reset went through is refused forever: the theorem where everybody works. -/
theorem token_single_use_iff_requested :
    let d := Deployment.sample false
    let start := World.sample [⟨"alice", "x", ""⟩]
    let events := [.operation (.requestPasswordReset "alice")]
    let first := (Operation.resetPassword "" "pw1").step d (start.after d events)
    ¬ Part.Same d first.before first.after .usersFile ∧
      ∀ later, RefusesToken d (first.after.after d later) "" := by
  intro d start events first
  have reached : start.after d events = World.sampleRequested := World.after_request
  have working : .restarter ∉ (start.after d events).failing ∧
      .passwordSync ∉ (start.after d events).failing := by
    rw [reached]
    decide
  obtain ⟨t, hash, files, resets⟩ := Account.resets_sampleRequested
    (start.after d events) "pw1" (by decide) (by rw [reached]) (by rw [reached])
    (by rw [reached]; rfl)
  obtain ⟨w', run, written⟩ := resets.ended_of_working working.1 working.2
  have changed : ¬ Part.Same d (start.after d events) first.after .usersFile := by
    rw [show first = _ from Operation.step_of_reply rfl run]
    exact resets.changed written (by decide)
  exact ⟨changed, (token_single_use_iff (Deployment.sample_filesApart false)
    (Deployment.sample_identifiers false) (Deployment.sample_salt false) rfl events
    changed).mpr working⟩

/-- A token is used twice: the restart fails after the users file was written, so the first reset
fails and releases the token, and the second one comes to its end. -/
theorem token_reused_after_failed_restart :
    let d := Deployment.sample false
    let start := World.sample [⟨"alice", "x", ""⟩]
    let events := [.operation (.requestPasswordReset "alice"), .failing .restarter true]
    let first := (Operation.resetPassword "" "pw1").step d (start.after d events)
    let second := (Operation.resetPassword "" "pw2").step d (first.after.after d repairs)
    ¬ Part.Same d first.before first.after .usersFile ∧ (∃ e, first.result = .error e) ∧
      second.result = .ok .done := by
  intro d start events first second
  have reached : start.after d events =
      { World.sampleRequested with failing := [.restarter] } := by
    rw [show start.after d events = World.setFailing (start.after d
        [.operation (.requestPasswordReset "alice")]) .restarter true from rfl,
      World.after_request]
    rfl
  obtain ⟨t, hash, files, resets⟩ := Account.resets_sampleRequested
    (start.after d events) "pw1" (by decide) (by rw [reached]) (by rw [reached])
    (by rw [reached]; rfl)
  have failing : ¬ (.restarter ∉ (start.after d events).failing ∧
      .passwordSync ∉ (start.after d events).failing) := by
    rw [reached]
    decide
  obtain ⟨e, w', run, written, -⟩ := resets.failed_of_failing failing
  have step : first = _ := Operation.step_of_reply rfl run
  refine ⟨?_, ?_, ?_⟩
  · rw [step]
    exact resets.changed written (by decide)
  · rw [step]
    exact ⟨e, rfl⟩
  · rw [show second = (Operation.resetPassword "" "pw2").step d (first.after.after d repairs)
      from rfl, step]
    exact resets.redone failing run (by decide) (Deployment.sample_salt false)

end AccountSidecar
