import AccountSidecar.Proofs.Reprinting
import AccountSidecar.Proofs.TableSteps

/-!
# How far a reset gets

A new password that is taken and hashed reaches the users file or the write fails. From there a
reset with a token comes to its end exactly where the restart and the push to the other systems
work, and otherwise it gives the token back with the file as it was written.
-/

namespace AccountSidecar

open Storage AccountSidecar.Action Users

namespace Users.Credential

/-- Writable credentials stay so with a hash as their password. -/
theorem IsWritable.withHash {c : Credential} {saltText password hash : String}
    (writable : c.IsWritable) (hashed : Password.hash? saltText password = some hash) :
    IsWritable { c with password := hash } where
  password := fitsField_of_plain (Password.isPlainText_of_hash? hashed)
  present := Password.ne_empty_of_hash? hashed
  secret := writable.secret

/-- Credentials whose password is a hash have a solid one. -/
theorem hasSolidPassword_of_hash? {c : Credential} {saltText password : String}
    (hashed : Password.hash? saltText password = some c.password) : c.HasSolidPassword :=
  fun a inside => Text.isBlank_of_plain (Password.isPlainText_of_hash? hashed a inside)

/-- Fresh credentials with a hash can be written. -/
theorem isWritable_of_hash? {username saltText password hash : String}
    (hashed : Password.hash? saltText password = some hash) :
    IsWritable { username, password := hash } where
  password := fitsField_of_plain (Password.isPlainText_of_hash? hashed)
  present := Password.ne_empty_of_hash? hashed
  secret := by simp [FitsField]

end Users.Credential

namespace Account

variable {d : Deployment} {w w' : World}

/-- What has to go well for a new password to reach the users file. -/
structure Writes (d : Deployment) (w : World) (c : Credential) (password hash : String)
    (files : FileTree) : Prop where
  taken : newPasswordFault? password = none
  hashed : Password.hash? (d.sources.salt w.drawn.salts) password = some hash
  written : upsert w.files d.usersFile { c with password := hash } = (.ok (), files)

/-- A password that reaches the users file is announced. -/
theorem Writes.runIn_setPassword {c : Credential} {password hash : String} {files : FileTree}
    (writes : Writes d w c password hash files) :
    (setPassword d c password).runIn w =
      (announcePassword c.username password hash).runIn
        { w with files, drawn := { w.drawn with salts := w.drawn.salts + 1 } } := by
  unfold setPassword
  rw [runIn_bind, runIn_checkNewPassword, writes.taken]
  dsimp only
  rw [runIn_bind, runIn_hashPassword, writes.hashed]
  dsimp only [Option.elim]
  rw [runIn_bind, runIn_upsertUser]
  dsimp only
  rw [writes.written]
  rfl

/-- A user whose new password reaches the users file is found with it, and with two-factor login as
before. -/
theorem Writes.find_after {username : String} {c : Credential} {password hash : String}
    {files : FileTree} (writes : Writes d w c password hash files)
    (found : w.find d username = .ok (some c)) (written : w'.files = files) :
    ∃ secret, w'.find d username =
        .ok (some { c with password := hash, totpSecret := secret }) ∧
      Credential.totpEnabled { c with password := hash, totpSecret := secret } = c.totpEnabled := by
  obtain ⟨own, legible⟩ := World.legible_of_find found
  have writable := legible.fields.withHash writes.hashed
  obtain ⟨secret, back⟩ := Credential.settled_of_solid writable.present
    (Credential.hasSolidPassword_of_hash? (c := { c with password := hash }) writes.hashed)
  have changed := (rewritten_of_upsert writes.written).2
  have found : w.find d ({ c with password := hash } : Credential).username = .ok (some c) := by
    rw [← found, ← own]
  rw [← written] at changed
  have after := World.find_of_rewritten_self changed writable found back
  have same := Credential.settled_totpEnabled back
  rw [← own]
  exact ⟨secret, after, same⟩

/-- A password reaches the users file, or setting it fails and keeps the file. -/
theorem setPassword_cases (d : Deployment) (c : Credential) (password : String) (w : World) :
    (∃ hash files, Writes d w c password hash files) ∨
      ∃ e w', (setPassword d c password).runIn w = (.error e, w') ∧
        Part.Same d w w' .usersFile := by
  unfold setPassword
  rw [runIn_bind, runIn_checkNewPassword]
  cases taken : newPasswordFault? password with
  | some e => exact .inr ⟨_, _, rfl, rfl⟩
  | none =>
    dsimp only
    rw [runIn_bind, runIn_hashPassword]
    cases hashed : Password.hash? (d.sources.salt w.drawn.salts) password with
    | none => exact .inr ⟨_, _, rfl, rfl⟩
    | some hash =>
      dsimp only [Option.elim]
      rw [runIn_bind, runIn_upsertUser]
      dsimp only
      rcases upsert_cases w.files d.usersFile { c with password := hash } with
        ⟨t, -, written, -⟩ | ⟨e, t, failed, kept⟩
      · exact .inl ⟨hash, t, taken, hashed, written⟩
      · rw [failed]
        exact .inr ⟨_, _, rfl, kept⟩

/-- What has to go well for a reset to reach the users file. -/
structure Resets (d : Deployment) (w : World) (token password username : String)
    (t : State.Tables) (c : Credential) (hash : String) (files : FileTree) : Prop where
  claimed : w.tables.claimResetToken token w.clock = .ok (username, t)
  found : w.find d username = .ok (some c)
  writes : Writes d w c password hash files

variable {token password username hash : String} {t : State.Tables} {c : Credential}
  {files : FileTree}

/-- A reset that changes the users file has got past all its checks. -/
theorem resets_of_changed (token password : String) (changed : ¬ Part.Same d w
    ((Account.resetPassword d token password).runIn w).2 .usersFile) :
    ∃ username t c hash files, Resets d w token password username t c hash files := by
  rw [runIn_resetPassword] at changed
  split at changed
  · exact absurd rfl changed
  · exact absurd rfl changed
  · rename_i username t _ claimed
    unfold setPasswordOf at changed
    rcases requireUser_cases d username { w with tables := t } with
      ⟨c, found, run⟩ | ⟨e, -, run⟩
    · rw [runIn_bind, run] at changed
      dsimp only at changed
      rcases setPassword_cases d c password { w with tables := t } with
        ⟨hash, files, writes⟩ | ⟨e, w', run, kept⟩
      · exact ⟨username, t, c, hash, files, claimed, found,
          writes.taken, writes.hashed, writes.written⟩
      · rw [run] at changed
        exact absurd kept changed
    · rw [runIn_bind, run] at changed
      exact absurd rfl changed

namespace Resets

/-- A reset that gets past its checks comes down to its announcement. -/
theorem runIn_setPasswordOf (resets : Resets d w token password username t c hash files) :
    (setPasswordOf d username password).runIn { w with tables := t } =
      (announcePassword c.username password hash).runIn { w with
        files, tables := t, drawn := { w.drawn with salts := w.drawn.salts + 1 } } := by
  have writes : Writes d { w with tables := t } c password hash files :=
    ⟨resets.writes.taken, resets.writes.hashed, resets.writes.written⟩
  unfold setPasswordOf
  rcases requireUser_cases d username { w with tables := t } with ⟨c', found, run⟩ | ⟨e, absent, -⟩
  · have same : w.find d username = .ok (some c') := found
    rw [resets.found] at same
    obtain rfl := Option.some.inj (Except.ok.inj same)
    rw [runIn_bind, run]
    exact writes.runIn_setPassword
  · exact absurd resets.found (absent c)

/-- A reset that gets past its checks comes to its end where both collaborators work. -/
theorem ended_of_working (resets : Resets d w token password username t c hash files)
    (restarter : .restarter ∉ w.failing) (passwordSync : .passwordSync ∉ w.failing) :
    ∃ w', (Account.resetPassword d token password).runIn w = (.ok (), w') ∧ w'.files = files := by
  rw [runIn_resetPassword, resets.writes.taken, resets.claimed]
  dsimp only
  rw [resets.runIn_setPasswordOf]
  generalize reached : ({ w with files := files, tables := t, drawn := _ } : World) = w₁
  have restarter' : .restarter ∉ w₁.failing := reached ▸ restarter
  have passwordSync' : .passwordSync ∉ w₁.failing := reached ▸ passwordSync
  rw [announcePassword_of_working _ _ _ restarter' passwordSync']
  exact ⟨_, rfl, by rw [← reached]⟩

/-- A reset that gets past its checks fails with the file written and the tables as they were where
one of the two collaborators does. -/
theorem failed_of_failing (resets : Resets d w token password username t c hash files)
    (failing : ¬ (.restarter ∉ w.failing ∧ .passwordSync ∉ w.failing)) :
    ∃ e w', (Account.resetPassword d token password).runIn w = (.error e, w') ∧
      w'.files = files ∧ w'.tables = w.tables ∧ w'.clock = w.clock := by
  rw [runIn_resetPassword, resets.writes.taken, resets.claimed]
  dsimp only
  rw [resets.runIn_setPasswordOf]
  generalize reached : ({ w with files := files, tables := t, drawn := _ } : World) = w₁
  have failing' : ¬ (.restarter ∉ w₁.failing ∧ .passwordSync ∉ w₁.failing) := reached ▸ failing
  obtain ⟨e, w', run, kept, clock⟩ := announcePassword_of_failing c.username password hash failing'
  rw [run]
  exact ⟨e, _, rfl, by rw [kept, ← reached], rfl, by rw [clock, ← reached]⟩

/-- Where the token is back and salts are good, a reset to any password that is taken gets past its
checks. -/
theorem again (resets : Resets d w token password username t c hash files) {newPassword : String}
    (taken : newPasswordFault? newPassword = none)
    (salts : ∀ n, (Password.Salt.parse? (d.sources.salt n)).isSome)
    (written : w'.files = files) (released : w'.tables = w.tables) (clock : w'.clock = w.clock) :
    ∃ c hash files, Resets d w' token newPassword username t c hash files := by
  obtain ⟨secret, found, -⟩ := resets.writes.find_after resets.found written
  obtain ⟨hash', hashed⟩ :=
    Password.exists_hash? (not_isTooLong_of_taken taken) (salts w'.drawn.salts)
  have valid : isValidUsername c.username = true := (rewritten_of_upsert resets.writes.written).1
  obtain ⟨files', again⟩ := upsert_after_upsert
    (d := { c with password := hash', totpSecret := secret }) resets.writes.written valid
  refine ⟨_, hash', files', ?_, found, taken, hashed, ?_⟩
  · rw [released, clock]
    exact resets.claimed
  · rw [written]
    exact again

/-- A password that is no hash does not survive a reset. -/
theorem changed (resets : Resets d w token password username t c hash files)
    (written : w'.files = files) (unlike : c.password.toList.head? ≠ some '$') :
    ¬ Part.Same d w w' .usersFile := by
  intro kept
  obtain ⟨secret, after, -⟩ := resets.writes.find_after resets.found written
  rw [World.find_of_kept kept, resets.found] at after
  have same : c.password = hash :=
    congrArg Credential.password (Option.some.inj (Except.ok.inj after))
  exact unlike (same ▸ Password.head?_of_hash? resets.writes.hashed)

end Resets

end Account

/-- A world with the sample files in which alice has asked for a reset. -/
def World.sampleRequested : World where
  files := (World.sample [⟨"alice", "x", ""⟩]).files
  tables := ({} : State.Tables).createResetToken "" "alice" 3600
  drawn := { identifiers := 1 }
  effects := [.mail "alice" ""]

/-- It is reached by the request. -/
theorem World.after_request : (World.sample [⟨"alice", "x", ""⟩]).after (.sample false)
    [.operation (.requestPasswordReset "alice")] = sampleRequested := by
  have found : (World.sample [⟨"alice", "x", ""⟩]).find (.sample false) "alice" =
      .ok (some ⟨"alice", "x", ""⟩) := by
    rw [World.find_sample]
    exact congrArg Except.ok (by decide)
  simp only [World.after, List.foldl, Event.run, Operation.perform, Operation.runIn_reply]
  unfold Account.requestPasswordReset
  rw [Action.runIn_bind, Action.runIn_findUser, found]
  rfl

/-- There alice's token is good for any password that is taken. -/
theorem Account.resets_sampleRequested (w : World) (password : String)
    (taken : newPasswordFault? password = none) (files : w.files = World.sampleRequested.files)
    (tables : w.tables = World.sampleRequested.tables) (clock : w.clock = 0) :
    ∃ t hash files,
      Resets (.sample false) w "" password "alice" t ⟨"alice", "x", ""⟩ hash files := by
  obtain ⟨hash, hashed⟩ := Password.exists_hash? (not_isTooLong_of_taken taken)
    (Deployment.sample_salt false w.drawn.salts)
  obtain ⟨files', written⟩ := World.upsert_sample [⟨"alice", "x", ""⟩]
    (c := ⟨"alice", hash, ""⟩) (by decide : Users.isValidUsername "alice" = true)
  have claimed : w.tables.claimResetToken "" w.clock =
      .ok ("alice", { resetTokens := [("", ⟨"alice", 3600, true⟩)] }) := by
    rw [tables, clock]
    decide
  refine ⟨_, hash, files', claimed, ?_, taken, hashed, ?_⟩
  · rw [show w.find (.sample false) "alice" =
        (World.sample [⟨"alice", "x", ""⟩]).find (.sample false) "alice" from
      World.find_of_kept (by rw [files]; rfl) "alice", World.find_sample]
    exact congrArg Except.ok (by decide)
  · rw [files]
    exact written

end AccountSidecar
