import AccountSidecar.Proofs.CodeWindow
import AccountSidecar.Proofs.History
import AccountSidecar.Proofs.PasswordCheck
import AccountSidecar.Proofs.Reprinting

/-!
# Secrets in the users file

Two-factor login is turned on with whatever text the client calls a secret, and only a good code
speaks for it. That is enough: the stored form consists of capital letters and digits
(`Totp.mem_normalizeSecret_of_verify`), so its line comes back as it was written, with the password
kept and codes that go on to be good (`stored_secret_intact`). Turning it off again needs the
password, whose hash is plain for the same reason, and leaves no secret.
-/

namespace AccountSidecar

open Storage AccountSidecar.Action

namespace Password

/-- A stored hash that some password belongs to is plain. -/
theorem isPlainText_of_belonging {password stored : String}
    (belongs : verify password stored = true) : Users.IsPlainText stored :=
  isPlainText_of_hash? (beq_iff_eq.mp belongs)

end Password

namespace Totp

open Codec

variable {secret code : String} {window second : Int}

/-- A second at which some code is good is one of the calendar, and the secret has a key. -/
theorem exists_key_of_verify (accepted : verify secret code window second = true) :
    0 ≤ second ∧ second < endOfTime ∧ ∃ key, keyOf (normalizeSecret secret) = .ok key := by
  unfold verify at accepted
  dsimp only at accepted
  split at accepted
  · cases accepted
  · split at accepted
    · cases accepted
    · split at accepted
      · rename_i key step given counted
        unfold stepOf? at counted
        split at counted
        · cases counted
        · rename_i inRange
          rw [Bool.or_eq_true, decide_eq_true_eq, decide_eq_true_eq] at inRange
          exact ⟨by omega, by omega, key, given⟩
      · cases accepted

/-- A secret for which some code is good has a stored form of capital letters and of digits from two
to seven. -/
theorem mem_normalizeSecret_of_verify (accepted : verify secret code window second = true) :
    normalizeSecret secret ≠ "" ∧ ∀ c ∈ (normalizeSecret secret).toList, c ∈ alphabet32 := by
  obtain ⟨-, -, key, given⟩ := exists_key_of_verify accepted
  exact ⟨normalizeSecret_ne_empty given, mem_alphabet32_of_keyOf given⟩

/-- Where some code is good for a secret, the code that its stored form has at the same time is good
for the stored form. -/
theorem verify_codeAt_of_verify (wide : 0 ≤ window)
    (accepted : verify secret code window second = true) :
    ∃ current, codeAt (normalizeSecret secret) second = .ok current ∧
      verify (normalizeSecret secret) current window second = true := by
  obtain ⟨since, before, key, given⟩ := exists_key_of_verify accepted
  have own : normalizeSecret (normalizeSecret secret) = normalizeSecret secret :=
    normalizeSecret_of_alphabet32 (mem_alphabet32_of_keyOf given)
  obtain ⟨-, -, fits, -⟩ := (verify_iff wide since before).mp accepted
  rw [← own] at given
  exact ⟨_, codeAt_of_key given since before,
    verify_codeOfStep wide since before given fits (by omega) (by omega)⟩

end Totp

namespace Users.Credential

variable {c : Credential}

/-- Credentials that get a solid secret have two-factor login on, if it is not empty. -/
theorem totpEnabled_of_solid {secret : String} (given : secret ≠ "") (solid : IsSolid secret) :
    totpEnabled { c with totpSecret := secret } = true := by
  cases letters : secret.toList with
  | nil => exact absurd (String.toList_eq_nil_iff.mp letters) given
  | cons a rest =>
    have first : a ∈ secret.toList := by rw [letters]; exact List.mem_cons_self
    simp [totpEnabled, Text.isBlankText, letters, (solid a first).1]

/-- Credentials that get a solid secret are tidy whatever their password, if it is not empty. -/
theorem tidy_of_solid_secret {secret : String} (given : secret ≠ "") (solid : IsSolid secret) :
    IsTidy { c with totpSecret := secret } := by
  rw [IsTidy, if_pos (totpEnabled_of_solid given solid)]
  exact solid.not_endsBlank

end Users.Credential

namespace Account

open Users

variable {d : Deployment} {w w' : World} {username password secret code : String} {c : Credential}

/-- What an operation has done that ends with writing credentials and restarting the auth proxy. -/
structure Stores (d : Deployment) (w : World) (c : Credential) (w' : World) : Prop where
  working : .restarter ∉ w.failing
  written : upsert w.files d.usersFile c = (.ok (), w'.files)
  rest : w' = { w with files := w'.files, effects := w.effects ++ [.restart] }

/-- Credentials are written and the auth proxy restarts where both of it works. -/
theorem runIn_upsert_restart_iff :
    (do upsertUser d c; emit .restart : Action Unit).runIn w = (.ok (), w') ↔ Stores d w c w' := by
  rw [runIn_bind, runIn_upsertUser]
  rcases written : upsert w.files d.usersFile c with ⟨e | ⟨⟩, files⟩
  · refine iff_of_false (fun run => by cases run) fun stores => ?_
    rw [stores.written] at written
    cases written
  · dsimp only [Except.mapError]
    rw [runIn_emit]
    by_cases failing : .restarter ∈ w.failing
    · rw [if_pos (by simpa [Effect.collaborator] using failing)]
      exact iff_of_false (fun run => by cases run) fun stores => stores.working failing
    · rw [if_neg (by simpa [Effect.collaborator] using failing)]
      constructor
      · intro run
        obtain rfl := (Prod.mk.inj run).2
        exact ⟨failing, written, rfl⟩
      · rintro ⟨-, written', rest⟩
        obtain rfl := (Prod.mk.inj (written.symm.trans written')).2
        rw [rest]

/-- Two-factor login is turned on exactly where the code is good and a known user gets the stored
form of the secret. -/
theorem enableTotp_iff : (enableTotp d username secret code).runIn w = (.ok (), w') ↔
    Totp.verify secret code codeWindow w.clock = true ∧ ∃ c, w.find d username = .ok (some c) ∧
      Stores d w { c with totpSecret := Totp.normalizeSecret secret } w' := by
  unfold enableTotp
  rw [runIn_bind_ok (runIn_now w)]
  by_cases accepted : Totp.verify secret code codeWindow w.clock = true
  · simp only [accepted, Bool.not_true, Bool.false_eq_true, if_false, true_and]
    rcases requireUser_cases d username w with ⟨c, found, run⟩ | ⟨e, absent, run⟩
    · rw [runIn_bind_ok run, runIn_upsert_restart_iff]
      simp [found]
    · rw [runIn_bind, run]
      simp [absent]
  · simp [accepted, refuse, runIn_throw]

/-- Two-factor login is turned off exactly where the password of a known user is right, who gets an
empty secret. -/
theorem disableTotp_iff : (disableTotp d username password).runIn w = (.ok (), w') ↔
    ∃ c, w.find d username = .ok (some c) ∧ Password.verify password c.password = true ∧
      Stores d w { c with totpSecret := "" } w' := by
  unfold disableTotp
  rcases requireUser_cases d username w with ⟨c, found, run⟩ | ⟨e, absent, run⟩
  · rw [runIn_bind_ok run]
    by_cases belongs : Password.verify password c.password = true
    · simp only [belongs, Bool.not_true, Bool.false_eq_true, if_false]
      rw [runIn_upsert_restart_iff]
      simp [found, belongs]
    · simp [belongs, found, refuse, runIn_throw]
  · rw [runIn_bind, run]
    simp [absent]

/-- A known user who gets a solid secret is found with it, if the line is tidy then. -/
theorem Stores.find_after (stores : Stores d w { c with totpSecret := secret } w')
    (found : w.find d username = .ok (some c)) (solid : IsSolid secret)
    (tidy : Credential.IsTidy { c with totpSecret := secret }) :
    w'.find d username = .ok (some { c with totpSecret := secret }) := by
  obtain ⟨rfl, legible⟩ := World.legible_of_find found
  have writable : Credential.IsWritable { c with totpSecret := secret } :=
    ⟨legible.fields.password, legible.fields.present, solid.fitsField⟩
  exact World.find_of_rewritten_self (c := { c with totpSecret := secret })
    (rewritten_of_upsert stores.written).2 writable found
    ((Credential.settled_eq_self_iff writable.present).mpr tidy)

/-- A known user who gets a solid secret that is not empty is found with it. -/
theorem Stores.find_enabled (stores : Stores d w { c with totpSecret := secret } w')
    (found : w.find d username = .ok (some c)) (given : secret ≠ "") (solid : IsSolid secret) :
    w'.find d username = .ok (some { c with totpSecret := secret }) :=
  stores.find_after found solid (Credential.tidy_of_solid_secret given solid)

/-- A user who turned two-factor login off is found without a secret, and with the password as
before. -/
theorem find_of_disableTotp (run : (disableTotp d username password).runIn w = (.ok (), w')) :
    ∃ c, w.find d username = .ok (some c) ∧
      w'.find d username = .ok (some { c with totpSecret := "" }) := by
  obtain ⟨c, found, belongs, stores⟩ := disableTotp_iff.mp run
  have solid := (Password.isPlainText_of_belonging belongs).isSolid
  have none : IsSolid "" := by decide
  exact ⟨c, found, stores.find_after found none (Credential.tidy_of_solid solid none)⟩

/-- The profile of a known user. -/
theorem runIn_profile (found : w.find d username = .ok (some c)) :
    (profile d username).runIn w =
      (.ok ⟨c.username, c.totpEnabled, ((Keyed.find? username w.metadata).getD {}).phone⟩, w) := by
  unfold profile
  rcases requireUser_cases d username w with ⟨c', found', run⟩ | ⟨e, absent, -⟩
  · rw [found] at found'
    obtain rfl := Option.some.inj (Except.ok.inj found')
    rw [runIn_bind_ok run]
    rfl
  · exact absurd found (absent c)

end Account

open Account

variable {d : Deployment} {w : World} {op : Operation} {username secret code : String}
  {reply : Reply}

/-- The operations that turn two-factor login on for a user, given a secret and a code of it. -/
inductive Operation.Enrols (username secret code : String) : Operation → Prop
  | enable : Enrols username secret code (.enableTotp username secret code)
  | recover (key : String) : Enrols username secret code (.recoverTotp username key secret code)

/-- An enrolment that comes to its end has turned two-factor login on. -/
theorem Operation.Enrols.enabled (enrols : op.Enrols username secret code)
    (ended : (op.step d w).result = .ok reply) :
    (Account.enableTotp d username secret code).runIn w = (.ok (), (op.step d w).after) := by
  cases enrols with
  | enable => exact Operation.eq_ok_of_reply rfl ended
  | recover key =>
    have run : (Account.recoverTotp d username key secret code).runIn w = (.ok (), _) :=
      Operation.eq_ok_of_reply rfl ended
    by_cases right : key = recoveryKey username
    · rwa [Account.recoverTotp, if_neg (not_not_intro right)] at run
    · rw [Account.recoverTotp, if_pos right] at run
      cases run

/-- No secret corrupts the users file. Where two-factor login was turned on for a user, the stored
form of the secret is not empty and has capital letters and digits from two to seven alone; the user
is found with it and with the password as before; the profile shows two-factor login; and the code
that the stored form has at this time is good for it. If two-factor login is turned off whenever
later, the user is found without a secret and otherwise as before. -/
theorem stored_secret_intact {c : Users.Credential} (found : w.find d username = .ok (some c))
    (enrols : op.Enrols username secret code) (ended : (op.step d w).result = .ok reply) :
    let stored := Totp.normalizeSecret secret
    let enrolled := (op.step d w).after
    stored ≠ "" ∧ (∀ a ∈ stored.toList, 'A' ≤ a ∧ a ≤ 'Z' ∨ '2' ≤ a ∧ a ≤ '7') ∧
    enrolled.find d username = .ok (some ⟨username, c.password, stored⟩) ∧
    ((Operation.profile username).step d enrolled).result =
      .ok (.profile ⟨username, true, ((Keyed.find? username w.metadata).getD {}).phone⟩) ∧
    (∃ current, Totp.codeAt stored w.clock = .ok current ∧
      Totp.verify stored current codeWindow w.clock = true) ∧
    ∀ events password reply', let before := enrolled.after d events
      let disabling := (Operation.disableTotp username password).step d before
      disabling.result = .ok reply' → ∃ c', before.find d username = .ok (some c') ∧
        disabling.after.find d username = .ok (some { c' with totpSecret := "" }) := by
  intro stored enrolled
  have run := enrols.enabled ended
  obtain ⟨accepted, c', found', stores⟩ := enableTotp_iff.mp run
  rw [found] at found'
  obtain rfl := Option.some.inj (Except.ok.inj found')
  obtain ⟨own, -⟩ := World.legible_of_find found
  obtain ⟨given, letters⟩ := Totp.mem_normalizeSecret_of_verify accepted
  have solid := (Totp.isPlainText_of_verify accepted).isSolid
  have after : enrolled.find d username = .ok (some ⟨username, c.password, stored⟩) := by
    rw [stores.find_enabled found given solid, own]
  refine ⟨given, ?_, after, ?_, Totp.verify_codeAt_of_verify (by decide) accepted, ?_⟩
  · have each : Codec.alphabet32.all
        (fun a => decide ('A' ≤ a ∧ a ≤ 'Z' ∨ '2' ≤ a ∧ a ≤ '7')) = true := by decide
    exact fun a inside => of_decide_eq_true (List.all_eq_true.mp each a (letters a inside))
  · have metadata : enrolled.metadata = w.metadata :=
      (congrArg World.metadata stores.rest).trans rfl
    have enabled : Users.Credential.totpEnabled ⟨username, c.password, stored⟩ = true :=
      Users.Credential.totpEnabled_of_solid (c := ⟨username, c.password, ""⟩) given solid
    rw [Operation.step_of_map rfl (runIn_profile after), metadata, enabled]
    rfl
  · intro events password reply' before disabling ended'
    exact find_of_disableTotp (Operation.eq_ok_of_reply rfl ended')

/-- A user whose well-formed credentials are alone in the sample is found. -/
theorem World.find_sample_formed {c : Users.Credential} (formed : c.IsWellFormed) :
    (World.sample [c]).find (.sample false) c.username = .ok (some c) := by
  have settles : [c].filterMap Users.Credential.settled = [c] := by
    rw [List.filterMap_cons, (Users.Credential.settled_eq_self_iff formed.given).mpr formed.tidy]
    rfl
  have legible : ∀ x ∈ [c], x.Legible := by
    intro x inside
    rw [List.mem_singleton.mp inside]
    exact formed.legible
  rw [World.find_sample, Users.parse_print _ legible, settles, Users.lookup?_cons, if_pos rfl]

/-- Alice, whose password has some hash, turns two-factor login on with a secret typed in groups,
and off again. -/
theorem stored_secret_intact_alice : ∃ hash,
    let d := Deployment.sample false
    let w : World := { World.sample [⟨"alice", hash, ""⟩] with clock := 59 }
    let secret := "gezd gnbv gy3t qojq gezd gnbv gy3t qojq"
    let enrolling := (Operation.enableTotp "alice" secret "287 082").step d w
    let disabling := (Operation.disableTotp "alice" "pw").step d enrolling.after
    w.find d "alice" = .ok (some ⟨"alice", hash, ""⟩) ∧ enrolling.result = .ok .done ∧
      enrolling.after.find d "alice" =
        .ok (some ⟨"alice", hash, "GEZDGNBVGY3TQOJQGEZDGNBVGY3TQOJQ"⟩) ∧
      disabling.result = .ok .done ∧
      disabling.after.find d "alice" = .ok (some ⟨"alice", hash, ""⟩) := by
  obtain ⟨hash, hashed⟩ := Password.exists_hash? (by decide : Password.isTooLong "pw" = false)
    (Deployment.sample_salt false 0)
  refine ⟨hash, ?_⟩
  intro d w secret enrolling disabling
  have solid : Users.IsSolid hash := (Password.isPlainText_of_hash? hashed).isSolid
  have formed : Users.Credential.IsWellFormed ⟨"alice", hash, ""⟩ :=
    ⟨(by decide : "alice" ≠ ""), (by decide : Users.IsSolid "alice"),
      (by decide : '#' ∉ "alice".toList), Password.ne_empty_of_hash? hashed, solid,
      (by decide : Users.IsSolid "")⟩
  have found : w.find d "alice" = .ok (some ⟨"alice", hash, ""⟩) :=
    (World.find_of_kept (w := World.sample [⟨"alice", hash, ""⟩]) rfl "alice").trans
      (World.find_sample_formed formed)
  have stored : Totp.normalizeSecret secret = "GEZDGNBVGY3TQOJQGEZDGNBVGY3TQOJQ" := by
    decide +kernel
  have accepted : Totp.verify secret "287 082" codeWindow 59 = true := by decide +kernel
  have valid : Users.isValidUsername "alice" = true := by decide
  obtain ⟨files, written⟩ := World.upsert_sample [⟨"alice", hash, ""⟩]
    (c := ⟨"alice", hash, "GEZDGNBVGY3TQOJQGEZDGNBVGY3TQOJQ"⟩) valid
  have enrolled : (enableTotp d "alice" secret "287 082").runIn w =
      (.ok (), { w with files, effects := [.restart] }) :=
    enableTotp_iff.mpr ⟨accepted, _, found, List.not_mem_nil, stored ▸ written, rfl⟩
  have ended : enrolling = ⟨w, _, .ok .done, { w with files, effects := [.restart] }⟩ :=
    Operation.step_of_reply rfl enrolled
  have whole := stored_secret_intact found .enable
    (show enrolling.result = .ok .done by rw [ended])
  obtain ⟨-, -, after, -, -, later⟩ := whole
  obtain ⟨files', rewritten⟩ :=
    Users.upsert_after_upsert (d := ⟨"alice", hash, ""⟩) written valid
  have disabled : (disableTotp d "alice" "pw").runIn enrolling.after =
      (.ok (), { enrolling.after with files := files', effects := [.restart, .restart] }) := by
    refine disableTotp_iff.mpr ⟨_, after, Password.verify_of_hash? hashed, ?_⟩
    rw [ended]
    exact ⟨List.not_mem_nil, rewritten, rfl⟩
  have ended' : disabling.result = .ok .done := by
    rw [show disabling = _ from Operation.step_of_reply rfl disabled]
    rfl
  obtain ⟨c', before, cleared⟩ := later [] "pw" .done ended'
  obtain rfl := Option.some.inj (Except.ok.inj (after.symm.trans before))
  exact ⟨found, by rw [ended], stored ▸ after, ended', cleared⟩

end AccountSidecar
