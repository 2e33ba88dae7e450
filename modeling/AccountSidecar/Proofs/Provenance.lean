import AccountSidecar.Proofs.History
import AccountSidecar.Proofs.TableSteps

/-!
# Where records come from

In a run that starts with empty tables every reset token, queued signup and code goes back to an
earlier operation that put it there: whom it is for, what it holds and when it expires were settled
then (`provenance_after`). Marking a record used or approved changes none of that, and nothing else
changes records.
-/

namespace AccountSidecar

open Account

namespace Step

/-- Whether an operation issued a reset token to a user. -/
structure IssuesToken (d : Deployment) (s : Step) (token username : String) : Prop where
  operation : s.operation = .requestPasswordReset username
  issued : s.after.tables =
    s.before.tables.createResetToken token username (s.before.clock + d.resetTtl)

/-- Whether an operation queued a signup with the hash of a password. -/
structure QueuesSignup (d : Deployment) (s : Step)
    (id username email password phone hash : String) : Prop where
  operation : s.operation = .signup username email password phone
  hashed : Password.hash? (d.sources.salt s.before.drawn.salts) password = some hash
  queued : s.after.tables =
    s.before.tables.createPendingSignup id username email hash s.before.clock

/-- Whether an operation stored a code for the owner of a phone. -/
structure StoresCode (s : Step) (id phone username code : String) : Prop where
  operation : s.operation = .requestSmsReset phone
  owner : Metadata.ownerOfPhone phone s.before.metadata = username
  stored : s.after.tables =
    s.before.tables.storeSmsCode id username code (s.before.clock + smsCodeTtl)

end Step

/-- Whether every record of the tables goes back to an earlier operation. -/
structure Provenance (d : Deployment) (earlier : List Step) (w : World) : Prop where
  tokens : ∀ e ∈ w.tables.resetTokens, ∃ s ∈ earlier, s.IssuesToken d e.1 e.2.username ∧
    e.2.expiresAt = s.before.clock + d.resetTtl
  signups : ∀ e ∈ w.tables.signups, ∃ s ∈ earlier, ∃ password phone,
    s.QueuesSignup d e.1 e.2.username e.2.email password phone e.2.passwordHash
  codes : ∀ e ∈ w.tables.smsCodes, ∃ s ∈ earlier, ∃ phone,
    s.StoresCode e.1 phone e.2.username e.2.code ∧ e.2.expiresAt = s.before.clock + smsCodeTtl

namespace Provenance

variable {d : Deployment} {earlier : List Step} {w : World}

/-- Empty tables have no record to account for. -/
theorem of_empty (empty : w.tables = {}) : Provenance d [] w := by
  constructor <;> rw [empty] <;> intro e inside <;> cases inside

/-- An operation accounts for the tokens that it leaves. -/
theorem tokens_step (op : Operation) (holds : Provenance d earlier w) :
    ∀ e ∈ (op.step d w).after.tables.resetTokens, ∃ s ∈ earlier ++ [op.step d w],
      s.IssuesToken d e.1 e.2.username ∧ e.2.expiresAt = s.before.clock + d.resetTtl := by
  have old (e) (inside : e ∈ w.tables.resetTokens) :=
    Step.exists_later (op.step d w) (holds.tokens e inside)
  have change : TokensStep d w (op.step d w).after op := op.perform_tokens w
  intro e inside
  generalize reached : (op.step d w).after = w' at change inside
  cases change with
  | kept same => exact old e (same ▸ inside)
  | issued found drawn put =>
    rw [put] at inside
    rcases Keyed.mem_put inside with rfl | inside
    · exact ⟨_, List.mem_append_right _ List.mem_cons_self, ⟨rfl, reached ▸ put⟩, rfl⟩
    · exact old e inside
  | claimed claimed marked =>
    obtain ⟨r, found, -, -, -, rfl⟩ := State.Tables.claimResetToken_eq_ok claimed
    rw [marked] at inside
    rcases Keyed.mem_put inside with rfl | inside
    · exact old (_, r) (Keyed.mem_of_find? found)
    · exact old e inside
  | purged dropped =>
    rw [dropped] at inside
    exact old e (List.mem_of_mem_filter inside)

/-- An operation accounts for the signups that it leaves. -/
theorem signups_step (op : Operation) (holds : Provenance d earlier w) :
    ∀ e ∈ (op.step d w).after.tables.signups, ∃ s ∈ earlier ++ [op.step d w], ∃ password phone,
      s.QueuesSignup d e.1 e.2.username e.2.email password phone e.2.passwordHash := by
  have old (e) (inside : e ∈ w.tables.signups) :=
    Step.exists_later (op.step d w) (holds.signups e inside)
  have change : SignupsStep d w (op.step d w).after op := op.perform_signups w
  intro e inside
  generalize reached : (op.step d w).after = w' at change inside
  cases change with
  | kept same => exact old e (same ▸ inside)
  | queued hashed drawn put =>
    rw [put] at inside
    rcases Keyed.mem_put inside with rfl | inside
    · exact ⟨_, List.mem_append_right _ List.mem_cons_self, _, _, rfl, hashed, reached ▸ put⟩
    · exact old e inside
  | approved marked =>
    rw [marked] at inside
    rcases Keyed.mem_update inside with inside | ⟨s, found, rfl⟩
    · exact old e inside
    · exact old (_, s) found

/-- An operation accounts for the codes that it leaves. -/
theorem codes_step (op : Operation) (holds : Provenance d earlier w) :
    ∀ e ∈ (op.step d w).after.tables.smsCodes, ∃ s ∈ earlier ++ [op.step d w], ∃ phone,
      s.StoresCode e.1 phone e.2.username e.2.code ∧
        e.2.expiresAt = s.before.clock + smsCodeTtl := by
  have old (e) (inside : e ∈ w.tables.smsCodes) :=
    Step.exists_later (op.step d w) (holds.codes e inside)
  have change : CodesStep d w (op.step d w).after op := op.perform_codes w
  intro e inside
  generalize reached : (op.step d w).after = w' at change inside
  cases change with
  | kept same => exact old e (same ▸ inside)
  | stored known drawn put =>
    rw [put] at inside
    rcases Keyed.mem_put inside with rfl | inside
    · exact ⟨_, List.mem_append_right _ List.mem_cons_self, _, ⟨rfl, rfl, reached ▸ put⟩, rfl⟩
    · exact old e inside
  | consumed used marked =>
    obtain ⟨id, c, found, -, -, -, -, rfl⟩ := State.Tables.consumeSmsCode_eq_ok used
    rw [marked] at inside
    rcases Keyed.mem_put inside with rfl | inside
    · exact old (id, c) found
    · exact old e inside
  | purged dropped =>
    rw [dropped] at inside
    exact old e (List.mem_of_mem_filter inside)

end Provenance

/-- In a run from empty tables every record goes back to an earlier operation. -/
theorem World.provenance_after (d : Deployment) {start : World} (empty : start.tables = {})
    (events : List Event) :
    Provenance d (start.steps d events) (start.after d events) :=
  run_induction (.of_empty empty)
    (fun _ _ op holds =>
      ⟨holds.tokens_step op, holds.signups_step op, holds.codes_step op⟩)
    (fun _ _ _ _ _ holds => ⟨holds.tokens, holds.signups, holds.codes⟩) events

end AccountSidecar
