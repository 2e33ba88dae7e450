import AccountSidecar.Proofs.Provenance
import AccountSidecar.Proofs.Resets
import AccountSidecar.Proofs.SingleUse

/-!
# Who may change a password

Writing the users file for one user never disturbs the line of another one, and credentials that an
operation proposes for a user rest on a check that somebody passed. So through every run a stored
password changes only for who knew it, held a fresh token or code of the user, or signed up as the
user (`password_change_authorized`).
-/

namespace AccountSidecar

open Account Users

/-- The grounds on which an operation may put a hash in the place of a stored password. -/
inductive MayChangePassword (d : Deployment) (earlier : List Step) (w : World)
    (username stored hash : String) : Operation → Prop
  /-- The old password was given. -/
  | withPassword {oldPassword newPassword : String}
      (verified : Password.verify oldPassword stored = true)
      (hashed : Password.hash? (d.sources.salt w.drawn.salts) newPassword = some hash) :
      MayChangePassword d earlier w username stored hash
        (.changePassword username oldPassword newPassword)
  /-- A token was given that was issued to the user, is within its time and was not redeemed. -/
  | withToken {token password : String} {s : Step} (among : s ∈ earlier)
      (issued : s.IssuesToken d token username) (inTime : w.clock ≤ s.before.clock + d.resetTtl)
      (unredeemed : ∀ s' ∈ earlier, ¬ s'.Redeems token)
      (hashed : Password.hash? (d.sources.salt w.drawn.salts) password = some hash) :
      MayChangePassword d earlier w username stored hash (.resetPassword token password)
  /-- A code was given that was stored for the user, whom the phone belongs to, is within its time
  and was not consumed. -/
  | withCode {phone code password id requested : String} {s : Step}
      (owner : Metadata.ownerOfPhone phone w.metadata = username) (among : s ∈ earlier)
      (issued : s.StoresCode id requested username code)
      (inTime : w.clock ≤ s.before.clock + smsCodeTtl)
      (unconsumed : ∀ s' ∈ earlier, ¬ s'.ConsumesCode id)
      (hashed : Password.hash? (d.sources.salt w.drawn.salts) password = some hash) :
      MayChangePassword d earlier w username stored hash (.resetPasswordSms phone code password)
  /-- A signup for the username is approved that was queued with the hash. -/
  | withSignup {id email password phone : String} {s : Step} (among : s ∈ earlier)
      (queued : s.QueuesSignup d id username email password phone hash) :
      MayChangePassword d earlier w username stored hash (.approveSignup id)

variable {d : Deployment} {earlier : List Step} {w : World} {op : Operation}

namespace Proposes

/-- Proposed credentials can be written. -/
theorem writable {c : Credential} (origin : Provenance d earlier w) (proposes : Proposes d w op c) :
    c.IsWritable := by
  cases proposes with
  | resetPassword proven found hashed | resetPasswordSms proven found hashed
  | changePassword found proven hashed =>
    exact (World.legible_of_find found).2.fields.withHash hashed
  | signup absent hashed => exact Credential.isWritable_of_hash? hashed
  | approveSignup queued =>
    obtain ⟨s, -, password, phone, step⟩ :=
      origin.signups _ (Keyed.mem_of_find? (State.Tables.pendingSignup_eq_ok queued))
    exact Credential.isWritable_of_hash? step.hashed
  | enableTotp verified found | recoverTotp verified found =>
    obtain ⟨password, present, -⟩ := (World.legible_of_find found).2.fields
    exact ⟨password, present, fitsField_of_plain (Totp.isPlainText_of_verify verified)⟩
  | disableTotp found =>
    obtain ⟨password, present, -⟩ := (World.legible_of_find found).2.fields
    exact ⟨password, present, by simp [FitsField]⟩

end Proposes

/-- A token that can be claimed was issued to its user, is within its time and was not redeemed. -/
theorem mayChangePassword_of_claim {token password username stored hash : String}
    {t : State.Tables} (origin : Provenance d earlier w) (spending : Spending d earlier w)
    (claimed : w.tables.claimResetToken token w.clock = .ok (username, t))
    (hashed : Password.hash? (d.sources.salt w.drawn.salts) password = some hash) :
    MayChangePassword d earlier w username stored hash (.resetPassword token password) := by
  obtain ⟨r, found, unused, inTime, rfl, -⟩ := State.Tables.claimResetToken_eq_ok claimed
  have inside := Keyed.mem_of_find? found
  obtain ⟨s, among, issued, expiry⟩ := origin.tokens _ inside
  refine .withToken among issued ?_ (fun s' among' redeems => ?_) hashed
  · rw [← expiry]
    simpa [State.ResetToken.isExpired] using inTime
  · have used := (spending.redeemed s' among' token redeems).marked r inside
    rw [unused] at used
    cases used

/-- A code that can be used was stored for its user, is within its time and was not consumed. -/
theorem mayChangePassword_of_code {phone code password stored hash : String} {t : State.Tables}
    (origin : Provenance d earlier w) (spending : Spending d earlier w)
    (consumed : w.tables.consumeSmsCode (Metadata.ownerOfPhone phone w.metadata) code w.clock =
      .ok t)
    (hashed : Password.hash? (d.sources.salt w.drawn.salts) password = some hash) :
    MayChangePassword d earlier w (Metadata.ownerOfPhone phone w.metadata) stored hash
      (.resetPasswordSms phone code password) := by
  obtain ⟨id, c, inside, own, rfl, unused, inTime, -⟩ :=
    State.Tables.consumeSmsCode_eq_ok consumed
  obtain ⟨s, among, requested, stored, expiry⟩ := origin.codes _ inside
  rw [own] at stored
  refine .withCode rfl among stored ?_ (fun s' among' consumes => ?_) hashed
  · rw [← expiry]
    simpa [State.SmsCode.isExpired] using inTime
  · have used := (spending.consumed s' among' id consumes).marked c inside
    rw [unused] at used
    cases used

/-- Proposed credentials have a solid password: that of their user, or one that an operation may put
in its place. -/
theorem Proposes.grounds {c c' : Credential} (origin : Provenance d earlier w)
    (spending : Spending d earlier w) (proposes : Proposes d w op c')
    (found : w.find d c'.username = .ok (some c)) (solid : c.HasSolidPassword) :
    c'.HasSolidPassword ∧ (c'.password ≠ c.password →
      MayChangePassword d earlier w c'.username c.password c'.password op) := by
  have known {username} {c₀ : Credential} (seen : w.find d username = .ok (some c₀))
      (own : c₀.username = username) (found : w.find d c₀.username = .ok (some c)) : c₀ = c := by
    rw [own, seen] at found
    exact Option.some.inj (Except.ok.inj found)
  cases proposes with
  | resetPassword claimed seen hashed =>
    have own := (World.legible_of_find seen).1
    refine ⟨Credential.hasSolidPassword_of_hash? hashed, fun _ => ?_⟩
    dsimp only
    rw [own]
    exact mayChangePassword_of_claim origin spending claimed hashed
  | resetPasswordSms consumed seen hashed =>
    have own := (World.legible_of_find seen).1
    refine ⟨Credential.hasSolidPassword_of_hash? hashed, fun _ => ?_⟩
    dsimp only
    rw [own]
    exact mayChangePassword_of_code origin spending consumed hashed
  | changePassword seen verified hashed =>
    have own := (World.legible_of_find seen).1
    refine ⟨Credential.hasSolidPassword_of_hash? hashed, fun _ => ?_⟩
    obtain rfl := known seen own found
    dsimp only
    rw [own]
    exact .withPassword verified hashed
  | signup absent hashed =>
    rw [absent] at found
    cases found
  | approveSignup queued =>
    obtain ⟨s, among, password, phone, step⟩ :=
      origin.signups _ (Keyed.mem_of_find? (State.Tables.pendingSignup_eq_ok queued))
    exact ⟨Credential.hasSolidPassword_of_hash? step.hashed, fun _ => .withSignup among step⟩
  | enableTotp verified seen | recoverTotp verified seen =>
    obtain rfl := known seen (World.legible_of_find seen).1 found
    exact ⟨fun a inside => solid a inside, fun changed => absurd rfl changed⟩
  | disableTotp seen =>
    obtain rfl := known seen (World.legible_of_find seen).1 found
    exact ⟨fun a inside => solid a inside, fun changed => absurd rfl changed⟩

/-- No unauthorised password change. In every run from empty tables, with any clock, any failing
collaborators and any edits of the files, an operation leaves a user with a solid password in the
users file, and it changes that password only on one of the four grounds. -/
theorem password_change_authorized (apart : d.FilesApart)
    (distinct : Function.Injective d.sources.identifier) {start : World}
    (empty : start.tables = {}) (events : List Event) (op : Operation) {username : String}
    {c : Credential} (found : (start.after d events).find d username = .ok (some c))
    (solid : c.HasSolidPassword) :
    ∃ c', (op.step d (start.after d events)).after.find d username = .ok (some c') ∧
      (c'.password ≠ c.password →
        MayChangePassword d (start.steps d events) (start.after d events) username c.password
          c'.password op) := by
  have origin := World.provenance_after d empty events
  have spending := World.spending_after apart distinct empty events
  generalize start.after d events = w at *
  generalize start.steps d events = earlier at *
  obtain ⟨own, legible⟩ := World.legible_of_find found
  have change : Part.Same d w (op.step d w).after .usersFile ∨ ∃ p, Proposes d w op p ∧
      Rewritten w.files (op.step d w).after.files d.usersFile p := op.perform_proposing apart w
  generalize (op.step d w).after = w' at change ⊢
  rcases change with kept | ⟨p, proposes, changed⟩
  · refine ⟨c, ?_, fun other => absurd rfl other⟩
    rw [← found]
    exact World.find_of_kept kept username
  · have writable := proposes.writable origin
    by_cases same : p.username = username
    · subst same
      obtain ⟨solid', grounds⟩ := proposes.grounds origin spending found solid
      obtain ⟨secret, back⟩ := Credential.settled_of_solid writable.present solid'
      exact ⟨_, World.find_of_rewritten_self changed writable found back, grounds⟩
    · obtain ⟨secret, back⟩ := Credential.settled_of_solid legible.fields.present solid
      exact ⟨_, World.find_of_rewritten_of_ne changed writable same found back,
        fun other => absurd rfl other⟩

/-- The token that alice asked for changes her password: the theorem at a reset with it, whose
ground is the request. -/
theorem password_change_authorized_requested :
    let d := Deployment.sample false
    let start := World.sample [⟨"alice", "x", ""⟩]
    let events := [.operation (.requestPasswordReset "alice")]
    let op := Operation.resetPassword "" "new"
    (start.after d events).find d "alice" = .ok (some ⟨"alice", "x", ""⟩) ∧
      ∃ c', (op.step d (start.after d events)).after.find d "alice" = .ok (some c') ∧
        c'.password ≠ "x" ∧
        MayChangePassword d (start.steps d events) (start.after d events) "alice" "x" c'.password
          op := by
  intro d start events op
  have reached : start.after d events = World.sampleRequested := World.after_request
  obtain ⟨t, hash, files, resets⟩ := Account.resets_sampleRequested
    (start.after d events) "new" (by decide) (by rw [reached]) (by rw [reached])
    (by rw [reached]; rfl)
  have solid : Credential.HasSolidPassword ⟨"alice", "x", ""⟩ := by
    intro a inside
    obtain rfl := List.mem_singleton.mp inside
    decide
  obtain ⟨c', after, grounds⟩ := password_change_authorized (Deployment.sample_filesApart false)
    (Deployment.sample_identifiers false) rfl events op resets.found solid
  obtain ⟨w', run, written⟩ := resets.ended_of_working (by rw [reached]; decide)
    (by rw [reached]; decide)
  have changed : c'.password ≠ "x" := by
    obtain ⟨secret, hashed, -⟩ := resets.writes.find_after resets.found written
    rw [Operation.step_of_reply rfl run] at after
    obtain rfl := Option.some.inj (Except.ok.inj (after.symm.trans hashed))
    intro same
    have head := Password.head?_of_hash? resets.writes.hashed
    rw [show hash = "x" from same] at head
    exact absurd head (by decide)
  exact ⟨resets.found, c', after, changed, grounds changed⟩

end AccountSidecar
