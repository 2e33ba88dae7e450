import AccountSidecar.Proofs.IgnoringTables
import AccountSidecar.Proofs.Proposals

/-!
# Changes of the tables

What an operation may do to the reset tokens, to the queued signups and to the codes: nothing, put
in a fresh record under a newly drawn identifier, mark one record, or drop records that are used up.
Each table has its own few operations; the footprints settle the others.
-/

namespace AccountSidecar

open AccountSidecar.Action Account

variable {d : Deployment} {w w' : World}

/-- How an operation may change the reset tokens. -/
inductive TokensStep (d : Deployment) (w w' : World) : Operation → Prop
  | kept {op : Operation} (same : w'.tables.resetTokens = w.tables.resetTokens) :
      TokensStep d w w' op
  /-- A token was issued to a user who was found. -/
  | issued {username : String} {c : Users.Credential} (found : w.find d username = .ok (some c))
      (drawn : w'.drawn.identifiers = w.drawn.identifiers + 1)
      (put : w'.tables = w.tables.createResetToken (d.sources.identifier w.drawn.identifiers)
        username (w.clock + d.resetTtl)) :
      TokensStep d w w' (.requestPasswordReset username)
  /-- A token was claimed. -/
  | claimed {token password username : String} {t : State.Tables}
      (claimed : w.tables.claimResetToken token w.clock = .ok (username, t))
      (marked : w'.tables = t) :
      TokensStep d w w' (.resetPassword token password)
  /-- Used and expired tokens were dropped. -/
  | purged (dropped : w'.tables = w.tables.purged w.clock) : TokensStep d w w' .purgeExpired

/-- How an operation may change the queued signups. -/
inductive SignupsStep (d : Deployment) (w w' : World) : Operation → Prop
  | kept {op : Operation} (same : w'.tables.signups = w.tables.signups) : SignupsStep d w w' op
  /-- A signup was queued with the hash of its password. -/
  | queued {username email password phone hash : String}
      (hashed : Password.hash? (d.sources.salt w.drawn.salts) password = some hash)
      (drawn : w'.drawn.identifiers = w.drawn.identifiers + 1)
      (put : w'.tables = w.tables.createPendingSignup (d.sources.identifier w.drawn.identifiers)
        username email hash w.clock) :
      SignupsStep d w w' (.signup username email password phone)
  /-- A signup was marked approved. -/
  | approved {id : String} (marked : w'.tables = w.tables.approvePendingSignup id) :
      SignupsStep d w w' (.approveSignup id)

/-- How an operation may change the codes. -/
inductive CodesStep (d : Deployment) (w w' : World) : Operation → Prop
  | kept {op : Operation} (same : w'.tables.smsCodes = w.tables.smsCodes) : CodesStep d w w' op
  /-- A freshly drawn code was stored for the owner of a phone. -/
  | stored {phone : String} (known : Metadata.ownerOfPhone phone w.metadata ≠ "")
      (drawn : w'.drawn.identifiers = w.drawn.identifiers + 1)
      (put : w'.tables = w.tables.storeSmsCode (d.sources.identifier w.drawn.identifiers)
        (Metadata.ownerOfPhone phone w.metadata) (nextCode d smsCodeLength w.drawn.codeDigits)
        (w.clock + smsCodeTtl)) :
      CodesStep d w w' (.requestSmsReset phone)
  /-- A code was used up. -/
  | consumed {phone code password : String} {t : State.Tables}
      (used : w.tables.consumeSmsCode (Metadata.ownerOfPhone phone w.metadata) code w.clock = .ok t)
      (marked : w'.tables = t) :
      CodesStep d w w' (.resetPasswordSms phone code password)
  /-- Used and expired codes were dropped. -/
  | purged (dropped : w'.tables = w.tables.purged w.clock) : CodesStep d w w' .purgeExpired

namespace Account

/-- A request for a reset issues a token to a user who is found. -/
theorem requestPasswordReset_of_found {username : String} {c : Users.Credential}
    (found : w.find d username = .ok (some c)) :
    let w' := ((requestPasswordReset d username).runIn w).2
    w'.drawn.identifiers = w.drawn.identifiers + 1 ∧
      w'.tables = w.tables.createResetToken (d.sources.identifier w.drawn.identifiers)
        username (w.clock + d.resetTtl) := by
  unfold requestPasswordReset
  rw [runIn_bind, runIn_findUser, found]
  have own := (World.legible_of_find found).1
  simp only [Except.mapError, runIn_bind, runIn_drawIdentifier, runIn_now, runIn_changeTables,
    runIn_emit, own]
  split <;> exact ⟨rfl, rfl⟩

/-- A request for a reset issues a token to a user who is found, or changes nothing. -/
theorem requestPasswordReset_cases (d : Deployment) (username : String) (w : World) :
    ((requestPasswordReset d username).runIn w).2 = w ∨
      ∃ c, w.find d username = .ok (some c) ∧
        let w' := ((requestPasswordReset d username).runIn w).2
        w'.drawn.identifiers = w.drawn.identifiers + 1 ∧
          w'.tables = w.tables.createResetToken (d.sources.identifier w.drawn.identifiers)
            username (w.clock + d.resetTtl) := by
  cases seen : w.find d username with
  | error e =>
    unfold requestPasswordReset
    rw [runIn_bind, runIn_findUser, seen]
    exact .inl rfl
  | ok found =>
    cases found with
    | none =>
      unfold requestPasswordReset
      rw [runIn_bind, runIn_findUser, seen]
      exact .inl rfl
    | some c => exact .inr ⟨c, rfl, requestPasswordReset_of_found seen⟩

/-- Setting a password keeps the tables. -/
theorem tables_of_setPasswordOf (d : Deployment) (username password : String) (w : World) :
    ((setPasswordOf d username password).runIn w).2.tables = w.tables :=
  (ignoresTables_setPasswordOf username password).kept w

/-- A reset checks the password, claims the token and sets the password, and where that fails it
leaves the tables as they were. -/
theorem runIn_resetPassword (d : Deployment) (token password : String) (w : World) :
    (resetPassword d token password).runIn w =
      match newPasswordFault? password, w.tables.claimResetToken token w.clock with
      | some e, _ => (.error (.account e), w)
      | none, .error e => (.error (.account e), w)
      | none, .ok (username, tables) =>
        match (setPasswordOf d username password).runIn { w with tables } with
        | (.ok (), w') => (.ok (), w')
        | (.error e, w') => (.error e, { w' with tables := w.tables }) := by
  unfold resetPassword
  rw [runIn_bind, runIn_checkNewPassword]
  cases newPasswordFault? password with
  | some e => rfl
  | none =>
    dsimp only
    rw [runIn_bind, runIn_claimResetToken]
    cases claimed : w.tables.claimResetToken token w.clock with
    | error e => rfl
    | ok claim =>
      obtain ⟨username, t⟩ := claim
      have kept := tables_of_setPasswordOf d username password { w with tables := t }
      dsimp only
      rw [runIn_tryCatch]
      rcases run : (setPasswordOf d username password).runIn { w with tables := t } with
        ⟨e | _, w'⟩
      · rw [run] at kept
        have released : w'.tables.releaseResetToken token = w.tables := by
          rw [show w'.tables = t from kept, State.Tables.release_claim claimed]
        simp only [runIn_bind, runIn_changeTables, runIn_throw, released]
      · rfl

/-- A reset works on a token that can be claimed, or leaves the tables as they were. -/
theorem resetPassword_cases (d : Deployment) (token password : String) (w : World) :
    (∃ username t w', w.tables.claimResetToken token w.clock = .ok (username, t) ∧
      (resetPassword d token password).runIn w = (.ok (), w') ∧ w'.tables = t) ∨
    ∃ e w', (resetPassword d token password).runIn w = (.error e, w') ∧ w'.tables = w.tables := by
  rw [runIn_resetPassword]
  split
  · exact .inr ⟨_, _, rfl, rfl⟩
  · exact .inr ⟨_, _, rfl, rfl⟩
  · rename_i username t _ claimed
    have kept := tables_of_setPasswordOf d username password { w with tables := t }
    split
    · rename_i w' run
      rw [run] at kept
      exact .inl ⟨username, t, w', claimed, rfl, kept⟩
    · exact .inr ⟨_, _, rfl, rfl⟩

/-- Queueing a signup puts it under a fresh identifier. -/
theorem queueSignup_tables (username email hash phone : String) (w : World) :
    let w' := ((queueSignup d username email hash phone).runIn w).2
    w'.drawn.identifiers = w.drawn.identifiers + 1 ∧
      w'.tables = w.tables.createPendingSignup (d.sources.identifier w.drawn.identifiers)
        username email hash w.clock := by
  rw [runIn_queueSignup]
  generalize reached : ({ w with drawn := _, tables := _ } : World) = w₁
  have kept : Part.Same d w₁ ((stashPhone d username phone).runIn w₁).2 .identifiers ∧
      ((stashPhone d username phone).runIn w₁).2.tables = w₁.tables := by
    rw [runIn_stashPhone]
    split
    · exact ⟨rfl, rfl⟩
    · split <;> exact ⟨rfl, rfl⟩
  rcases run : (stashPhone d username phone).runIn w₁ with ⟨_ | _, w₂⟩ <;> rw [run] at kept <;>
    rw [← reached] at kept <;> exact kept

/-- A signup is queued with the hash of its password, or draws no identifier. -/
theorem signup_tables (username email password phone : String) (w : World) :
    let w' := ((signup d username email password phone).runIn w).2
    w'.drawn.identifiers = w.drawn.identifiers ∧ w'.tables.signups = w.tables.signups ∨
      ∃ hash, Password.hash? (d.sources.salt w.drawn.salts) password = some hash ∧
        w'.drawn.identifiers = w.drawn.identifiers + 1 ∧
          w'.tables = w.tables.createPendingSignup (d.sources.identifier w.drawn.identifiers)
            username email hash w.clock := by
  rcases signup_cases d username email password phone w with ⟨hash, accepts⟩ | ⟨e, n, run⟩
  · rw [accepts.runIn_signup]
    split
    · exact .inr ⟨hash, accepts.hashed, queueSignup_tables username email hash phone _⟩
    · have created : Within d [.usersFile, .metadata, .effects]
          (createAccount d username password hash phone) :=
        within_createAccount username password hash phone (by decide) (by decide) (by decide)
      exact .inl ⟨created _ .identifiers (by decide), created _ .signups (by decide)⟩
  · rw [run]
    exact .inl ⟨rfl, rfl⟩

/-- Approving marks the signup, or keeps the tables. -/
theorem approveSignup_tables (id : String) (w : World) :
    ((approveSignup d id).runIn w).2.tables = w.tables ∨
      ((approveSignup d id).runIn w).2.tables = w.tables.approvePendingSignup id := by
  cases queued : w.tables.pendingSignup id with
  | error e =>
    rw [runIn_approveSignup_of_missing queued]
    exact .inl rfl
  | ok s =>
    rw [runIn_approveSignup queued]
    split
    · exact .inl rfl
    · have noted : Within d [.usersFile, .metadata, .effects] (do
          setApproved d s.username true
          emit .restart) :=
        within_noteApproval (absurd List.mem_cons_self) s.username (by decide) (by decide)
      exact .inr (noted.tables (by decide) _)

/-- A request for a phone that belongs to nobody changes nothing. -/
theorem requestSmsReset_of_unknown {phone : String}
    (unknown : Metadata.ownerOfPhone phone w.metadata = "") :
    ((requestSmsReset d phone).runIn w).2 = w := by
  unfold requestSmsReset
  split
  · rfl
  · rw [runIn_bind, runIn_ownerOfPhone, unknown]
    rfl

/-- A request for a phone that belongs to a user stores a code for that user, where text messages
can be sent. -/
theorem requestSmsReset_of_known {phone : String} (enabled : d.smsEnabled = true)
    (known : Metadata.ownerOfPhone phone w.metadata ≠ "") :
    let w' := ((requestSmsReset d phone).runIn w).2
    w'.drawn.identifiers = w.drawn.identifiers + 1 ∧
      w'.tables = w.tables.storeSmsCode (d.sources.identifier w.drawn.identifiers)
        (Metadata.ownerOfPhone phone w.metadata)
        (nextCode d smsCodeLength w.drawn.codeDigits) (w.clock + smsCodeTtl) := by
  have rest : Within d [.effects] (sendTextMessage phone
      (smsCodeMessage (nextCode d smsCodeLength w.drawn.codeDigits))) :=
    within_tryCatch (within_emit _ (by decide)) fun _ => within_refuse _
  unfold requestSmsReset
  rw [if_neg (by simp [enabled]), runIn_bind, runIn_ownerOfPhone]
  dsimp only
  rw [if_neg known, runIn_bind_ok (runIn_drawCode d _ w), runIn_bind_ok (runIn_now _),
    runIn_bind_ok (runIn_drawIdentifier d _), runIn_bind_ok (runIn_changeTables _ _)]
  exact ⟨rest _ .identifiers (by decide), rest.tables (by decide) _⟩

/-- A request for a code stores one for the owner of the phone, or changes nothing. -/
theorem requestSmsReset_cases (d : Deployment) (phone : String) (w : World) :
    ((requestSmsReset d phone).runIn w).2 = w ∨
      Metadata.ownerOfPhone phone w.metadata ≠ "" ∧
        let w' := ((requestSmsReset d phone).runIn w).2
        w'.drawn.identifiers = w.drawn.identifiers + 1 ∧
          w'.tables = w.tables.storeSmsCode (d.sources.identifier w.drawn.identifiers)
            (Metadata.ownerOfPhone phone w.metadata)
            (nextCode d smsCodeLength w.drawn.codeDigits) (w.clock + smsCodeTtl) := by
  by_cases known : Metadata.ownerOfPhone phone w.metadata = ""
  · exact .inl (requestSmsReset_of_unknown known)
  · cases enabled : d.smsEnabled with
    | true => exact .inr ⟨known, requestSmsReset_of_known enabled known⟩
    | false =>
      unfold requestSmsReset
      rw [enabled]
      exact .inl rfl

/-- A reset with a code checks the password, uses the code up and sets the password. -/
theorem runIn_resetPasswordSms (d : Deployment) (phone code password : String) (w : World) :
    (resetPasswordSms d phone code password).runIn w =
      match newPasswordFault? password,
        w.tables.consumeSmsCode (Metadata.ownerOfPhone phone w.metadata) code w.clock with
      | some e, _ => (.error (.account e), w)
      | none, .error e => (.error (.account e), w)
      | none, .ok tables =>
        (setPasswordOf d (Metadata.ownerOfPhone phone w.metadata) password).runIn
          { w with tables } := by
  unfold resetPasswordSms
  rw [runIn_bind, runIn_checkNewPassword]
  cases newPasswordFault? password with
  | some e => rfl
  | none =>
    dsimp only
    rw [runIn_bind, runIn_consumeSmsCode]
    cases w.tables.consumeSmsCode (Metadata.ownerOfPhone phone w.metadata) code w.clock <;> rfl

/-- A reset with a code uses the code up, or keeps the tables. -/
theorem resetPasswordSms_cases (d : Deployment) (phone code password : String) (w : World) :
    ((resetPasswordSms d phone code password).runIn w).2.tables = w.tables ∨
      ∃ t, w.tables.consumeSmsCode (Metadata.ownerOfPhone phone w.metadata) code w.clock = .ok t ∧
        ((resetPasswordSms d phone code password).runIn w).2.tables = t := by
  rw [runIn_resetPasswordSms]
  split
  · exact .inl rfl
  · exact .inl rfl
  · rename_i t _ used
    exact .inr ⟨t, used, tables_of_setPasswordOf d _ password { w with tables := t }⟩

end Account

namespace Operation

/-- What an operation may do to the reset tokens. -/
theorem perform_tokens (op : Operation) (w : World) :
    TokensStep d w ((op.perform d).runIn w).2 op := by
  cases op with
  | requestPasswordReset u =>
    simp only [perform, runIn_reply]
    rcases requestPasswordReset_cases d u w with kept | ⟨c, found, drawn, put⟩
    · exact .kept (by rw [kept])
    · exact .issued found drawn put
  | resetPassword t p =>
    simp only [perform, runIn_reply]
    rcases resetPassword_cases d t p w with ⟨u, tables, w', claimed, run, marked⟩ |
      ⟨e, w', run, kept⟩ <;> rw [run]
    · exact .claimed claimed marked
    · exact .kept (by rw [kept])
  | purgeExpired => exact .purged rfl
  | _ => exact .kept (same_of_not_mem_of_ne (p := .resetTokens) (by simp [footprint]) (by decide) w)

/-- What an operation may do to the queued signups. -/
theorem perform_signups (op : Operation) (w : World) :
    SignupsStep d w ((op.perform d).runIn w).2 op := by
  cases op with
  | signup u e p ph =>
    simp only [perform, runIn_map]
    rcases signup_tables u e p ph w with ⟨-, kept⟩ | ⟨hash, hashed, drawn, put⟩
    · exact .kept kept
    · exact .queued hashed drawn put
  | approveSignup id =>
    simp only [perform, runIn_reply]
    rcases approveSignup_tables id w with kept | marked
    · exact .kept (by rw [kept])
    · exact .approved marked
  | _ => exact .kept (same_of_not_mem_of_ne (p := .signups) (by simp [footprint]) (by decide) w)

/-- What an operation may do to the codes. -/
theorem perform_codes (op : Operation) (w : World) :
    CodesStep d w ((op.perform d).runIn w).2 op := by
  cases op with
  | requestSmsReset p =>
    simp only [perform, runIn_reply]
    rcases requestSmsReset_cases d p w with kept | ⟨known, drawn, put⟩
    · exact .kept (by rw [kept])
    · exact .stored known drawn put
  | resetPasswordSms p c n =>
    simp only [perform, runIn_reply]
    rcases resetPasswordSms_cases d p c n w with kept | ⟨t, used, marked⟩
    · exact .kept (by rw [kept])
    · exact .consumed used marked
  | purgeExpired => exact .purged rfl
  | _ => exact .kept (same_of_not_mem_of_ne (p := .smsCodes) (by simp [footprint]) (by decide) w)

/-- No operation takes back an identifier. -/
theorem identifiers_le (apart : d.FilesApart) (op : Operation) (w : World) :
    w.drawn.identifiers ≤ ((op.perform d).runIn w).2.drawn.identifiers := by
  cases op with
  | requestPasswordReset u =>
    simp only [perform, runIn_reply]
    rcases requestPasswordReset_cases d u w with kept | ⟨-, -, drawn, -⟩
    · exact Nat.le_of_eq (by rw [kept])
    · rw [drawn]
      exact Nat.le_succ _
  | signup u e p ph =>
    simp only [perform, runIn_map]
    rcases signup_tables u e p ph w with ⟨kept, -⟩ | ⟨-, -, drawn, -⟩
    · exact Nat.le_of_eq kept.symm
    · rw [drawn]
      exact Nat.le_succ _
  | requestSmsReset p =>
    simp only [perform, runIn_reply]
    rcases requestSmsReset_cases d p w with kept | ⟨-, drawn, -⟩
    · exact Nat.le_of_eq (by rw [kept])
    · rw [drawn]
      exact Nat.le_succ _
  | _ =>
    refine Nat.le_of_eq (Eq.symm ?_)
    exact same_of_not_mem apart (p := .identifiers) (by simp [footprint]) w

end Operation

end AccountSidecar
