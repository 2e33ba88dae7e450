import AccountSidecar.Proofs.CodeRequests
import AccountSidecar.Proofs.Failures
import AccountSidecar.Proofs.Outcomes

/-!
# Codes of failed resets

A reset with a code marks its code before it looks for the user and writes the users file, and
nothing takes the mark back. So a reset that fails with a reported error always leaves the users
file alone, but it keeps the codes only where the failure does not come from the users file
(`failed_code_reset_iff`); otherwise the code is gone for good although nothing was set
(`code_spent_by_failed_reset`). A reset with a token keeps the tables wherever it fails.
-/

namespace AccountSidecar

open AccountSidecar.Action Account

variable {d : Deployment} {w w' : World} {e : Failure}

/-- Whether a failure comes from the users file: the user is not in it, or it cannot be read or
written. -/
def Failure.BlamesUsersFile (e : Failure) : Prop := e = .account (.of .notFound) ∨ e.IsOfUsers

/-- An account error of another kind does not come from the users file. -/
theorem Failure.not_blamesUsersFile {a : AccountError} (other : a.kind ≠ .notFound) :
    ¬ Failure.BlamesUsersFile (.account a) := by
  rintro (same | ⟨s, ofUsers, -⟩)
  · exact other (congrArg AccountError.kind (Failure.account.inj same))
  · cases ofUsers

namespace Account

variable {phone code username password : String}

/-- A new password that is not taken is at fault itself. -/
theorem newPasswordFault?_kind {a : AccountError} (fault : newPasswordFault? password = some a) :
    a.kind = .invalidInput := by
  unfold newPasswordFault? at fault
  split at fault
  · exact Option.some.inj fault ▸ rfl
  split at fault
  · exact Option.some.inj fault ▸ rfl
  · cases fault

/-- A code is refused for want of the owner of the phone or for the state that it is in, but never
for want of the user. -/
theorem consumeSmsCode_kind {t : State.Tables} {now : Int} {a : AccountError}
    (refused : t.consumeSmsCode username code now = .error a) :
    a.kind ∈ [.noSuchPhone, .invalidCode, .codeUsed, .codeExpired] := by
  unfold State.Tables.consumeSmsCode at refused
  dsimp only at refused
  split at refused
  · exact Except.error.inj refused ▸ by decide
  split at refused
  · exact Except.error.inj refused ▸ by decide
  split at refused
  · exact Except.error.inj refused ▸ by decide
  split at refused
  · exact Except.error.inj refused ▸ by decide
  · cases refused

/-- A user who must exist is missed for a reason that comes from the users file. -/
theorem blamesUsersFile_of_requireUser
    (failed : (requireUser d username).runIn w = (.error e, w')) (reported : e.isReported = true) :
    e.BlamesUsersFile := by
  unfold requireUser at failed
  rw [runIn_bind, runIn_findUser] at failed
  cases seen : w.find d username with
  | error s =>
    rw [seen] at failed
    obtain rfl := Except.error.inj (Prod.mk.inj failed).1
    exact .inr ⟨s, rfl, reported⟩
  | ok found =>
    rw [seen] at failed
    cases found with
    | none => exact .inl (Except.error.inj (Prod.mk.inj failed).1).symm
    | some c => cases (Prod.mk.inj failed).1

/-- Setting a password that is taken fails for a reason that comes from the users file, if the
reason is reported. -/
theorem blamesUsersFile_of_setPassword {c : Users.Credential}
    (taken : newPasswordFault? password = none)
    (failed : (setPassword d c password).runIn w = (.error e, w'))
    (reported : e.isReported = true) :
    e.BlamesUsersFile := by
  unfold setPassword at failed
  rw [runIn_bind, runIn_checkNewPassword, taken] at failed
  dsimp only at failed
  rcases bind_error_cases failed with hashing | ⟨hash, w₁, -, writing⟩
  · rw [runIn_hashPassword] at hashing
    cases hashed : Password.hash? (d.sources.salt w.drawn.salts) password with
    | none =>
      rw [hashed] at hashing
      obtain rfl := Except.error.inj (Prod.mk.inj hashing).1
      cases reported
    | some hash =>
      rw [hashed] at hashing
      cases (Prod.mk.inj hashing).1
  rcases bind_error_cases writing with upserting | ⟨⟨⟩, w₂, -, announcing⟩
  · rw [runIn_upsertUser] at upserting
    have refused := (Prod.mk.inj upserting).1
    cases written : (Users.upsert w₁.files d.usersFile { c with password := hash }).1 with
    | error s =>
      rw [written] at refused
      obtain rfl := Except.error.inj refused
      exact .inr ⟨s, rfl, reported⟩
    | ok done =>
      rw [written] at refused
      cases refused
  · have silent := unreporting_announcePassword c.username password hash w₂ w' e announcing
    rw [reported] at silent
    cases silent

/-- Setting the password of a user who must exist fails without a trace in the users file and the
tables, and for a reason that comes from the users file, if the reason is reported. -/
theorem setPasswordOf_failed (taken : newPasswordFault? password = none)
    (failed : (setPasswordOf d username password).runIn w = (.error e, w'))
    (reported : e.isReported = true) :
    Part.Same d w w' .usersFile ∧ w'.tables = w.tables ∧ e.BlamesUsersFile := by
  have tables := tables_of_setPasswordOf d username password w
  rw [failed] at tables
  rcases bind_error_cases failed with asking | ⟨c, w₁, asked, setting⟩
  · rcases requireUser_cases d username w with ⟨c, -, run⟩ | ⟨e', -, run⟩ <;> rw [run] at asking
    · cases (Prod.mk.inj asking).1
    · obtain ⟨same, rfl⟩ := Prod.mk.inj asking
      rw [Except.error.inj same] at run
      exact ⟨rfl, tables, blamesUsersFile_of_requireUser run reported⟩
  · have unchanged : w = w₁ := by
      rcases requireUser_cases d username w with ⟨c', -, run⟩ | ⟨e', -, run⟩ <;>
        rw [run] at asked <;> exact (Prod.mk.inj asked).2
    rw [← unchanged] at setting
    refine ⟨?_, tables, blamesUsersFile_of_setPassword taken setting reported⟩
    rcases setPassword_cases d c password w with ⟨hash, files, writes⟩ | ⟨e', w₂, run, kept⟩
    · rw [writes.runIn_setPassword] at setting
      have silent := unreporting_announcePassword c.username password hash _ w' e setting
      rw [reported] at silent
      cases silent
    · rw [run] at setting
      exact (Prod.mk.inj setting).2 ▸ kept

/-- A reset with a code that fails with a reported error has changed nothing, or has used up the
code before it failed on the users file. -/
theorem resetPasswordSms_failed
    (failed : (resetPasswordSms d phone code password).runIn w = (.error e, w'))
    (reported : e.isReported = true) :
    w' = w ∧ ¬ e.BlamesUsersFile ∨
      Part.Same d w w' .usersFile ∧ e.BlamesUsersFile ∧ ∃ t,
        w.tables.consumeSmsCode (Metadata.ownerOfPhone phone w.metadata) code w.clock = .ok t ∧
          w'.tables = t := by
  rw [runIn_resetPasswordSms] at failed
  split at failed
  · rename_i a _ fault
    obtain ⟨same, rfl⟩ := Prod.mk.inj failed
    obtain rfl := Except.error.inj same
    exact .inl ⟨rfl, Failure.not_blamesUsersFile (by simp [newPasswordFault?_kind fault])⟩
  · rename_i a _ refused
    obtain ⟨same, rfl⟩ := Prod.mk.inj failed
    obtain rfl := Except.error.inj same
    have kind := consumeSmsCode_kind refused
    refine .inl ⟨rfl, Failure.not_blamesUsersFile fun missing => ?_⟩
    rw [missing] at kind
    exact absurd kind (by decide)
  · rename_i t taken used
    obtain ⟨kept, tables, blames⟩ := setPasswordOf_failed taken failed reported
    exact .inr ⟨kept, blames, t, used, tables⟩

end Account

namespace Step

/-- Whether an operation marked one code as used and left all other codes as they were. -/
def ConsumesOnly (s : Step) (id : String) : Prop :=
  s.ConsumesCode id ∧ ∀ other, other ≠ id →
    Keyed.find? other s.after.tables.smsCodes = Keyed.find? other s.before.tables.smsCodes

/-- An operation that marks a code does not keep the codes. -/
theorem ConsumesCode.changed {s : Step} {id : String} (consumes : s.ConsumesCode id) :
    ¬ Part.Same d s.before s.after .smsCodes := by
  obtain ⟨_, _, _, c, -, there, unused, marked⟩ := consumes
  intro same
  rw [show s.after.tables.smsCodes = s.before.tables.smsCodes from same, there] at marked
  rw [Option.some.inj marked] at unused
  cases unused

end Step

/-- A reset that used up a code among distinct ones has marked that one only. -/
theorem Operation.consumesOnly_of_consumed {phone code password : String} {t : State.Tables}
    (distinct : w.tables.smsCodes.Distinct)
    (used : w.tables.consumeSmsCode (Metadata.ownerOfPhone phone w.metadata) code w.clock = .ok t)
    (marked : ((Operation.resetPasswordSms phone code password).step d w).after.tables = t) :
    ∃ id, ((Operation.resetPasswordSms phone code password).step d w).ConsumesOnly id := by
  obtain ⟨id, c, inside, -, -, unused, -, rfl⟩ := State.Tables.consumeSmsCode_eq_ok used
  refine ⟨id, ⟨phone, code, password, c, rfl, Keyed.find?_of_mem distinct inside, unused, ?_⟩,
    fun other apart => ?_⟩
  · rw [marked]
    exact Keyed.find?_put_self id _ _
  · rw [marked]
    exact Keyed.find?_put_of_ne apart _ _

/-- A reset with a code that fails with a reported error leaves the users file as it was. It keeps
the codes, and with them everything else, exactly where the failure does not come from the users
file; otherwise it has used up one code. A reset with a token that fails keeps the tables. -/
theorem failed_code_reset_iff {start : World} (empty : start.tables = {}) (events : List Event)
    {phone code password : String}
    (failed : ((Operation.resetPasswordSms phone code password).step d
      (start.after d events)).result = .error e) (reported : e.isReported = true) :
    let w := start.after d events
    let s := (Operation.resetPasswordSms phone code password).step d w
    Part.Same d w s.after .usersFile ∧
      (Part.Same d w s.after .smsCodes ↔ ¬ e.BlamesUsersFile) ∧
      (¬ e.BlamesUsersFile → s.after = w) ∧
      (e.BlamesUsersFile → ∃ id, s.ConsumesOnly id) ∧
      ∀ token newPassword e', ((Operation.resetPassword token newPassword).step d w).result =
        .error e' → ((Operation.resetPassword token newPassword).step d w).after.tables =
          w.tables := by
  intro w s
  have distinct : w.tables.smsCodes.Distinct := (World.codesIssued_after empty events).distinct
  have tokens (token newPassword : String) (e' : Failure)
      (refused : ((Operation.resetPassword token newPassword).step d w).result = .error e') :
      ((Operation.resetPassword token newPassword).step d w).after.tables = w.tables := by
    rcases resetPassword_cases d token newPassword w with ⟨-, -, w', -, run, -⟩ |
      ⟨e'', w', run, kept⟩ <;> rw [Operation.step_of_reply rfl run] at refused ⊢
    · cases refused
    · exact kept
  rcases run : (resetPasswordSms d phone code password).runIn w with ⟨result, w'⟩
  have step : s = ⟨w, _, result.map fun _ => .done, w'⟩ := Operation.step_of_reply rfl run
  cases result with
  | ok done =>
    rw [show s.result = _ from congrArg Step.result step] at failed
    cases failed
  | error e' =>
    obtain rfl : e' = e := Except.error.inj ((congrArg Step.result step).symm.trans failed)
    have after : s.after = w' := congrArg Step.after step
    rcases resetPasswordSms_failed run reported with
      ⟨unchanged, other⟩ | ⟨kept, blames, t, used, marked⟩
    · rw [unchanged] at after
      rw [after]
      exact ⟨rfl, iff_of_true rfl other, fun _ => rfl, fun blames => absurd blames other, tokens⟩
    · have spent : s.after.tables = t := after ▸ marked
      obtain ⟨id, consumes⟩ := Operation.consumesOnly_of_consumed distinct used spent
      refine ⟨after ▸ kept, iff_of_false consumes.1.changed (not_not_intro blames),
        fun other => absurd blames other, fun _ => ⟨id, consumes⟩, tokens⟩

/-- Tables with one code of alice, used or not. -/
def State.Tables.sampleCode (used : Bool) : State.Tables where
  smsCodes := [("", ⟨"alice", "000000", 600, used⟩)]

namespace World

/-- The world of `sampleStuck` with a phone of alice in place of her request for a link: she has
asked for a code, and the users file cannot be moved into place. -/
def sampleCoded : World where
  files := sampleStuck.files
  metadata := [("alice", { phone := "+1" })]
  tables := .sampleCode false
  drawn := { identifiers := 1, codeDigits := 6 }
  effects := [.textMessage "+1" (smsCodeMessage "000000")]

/-- The start of a run to that world. -/
def sampleWithPhone : World :=
  { World.sample [⟨"alice", "x", ""⟩] with metadata := [("alice", { phone := "+1" })] }

/-- It is reached by the request, after which the users file gets stuck. -/
theorem after_requestSmsReset : sampleWithPhone.after .sampleTexting
    [.operation (.requestSmsReset "+1"),
      .files fun t => { t with refuses := fun l => l = ["users"] }] = sampleCoded := rfl

/-- There a reset uses up the code, finds alice and fails on the users file. -/
theorem resetPasswordSms_sampleCoded :
    ∃ files drawn, (resetPasswordSms .sampleTexting "+1" "000000" "pw1").runIn sampleCoded =
      (.error (.users .unwritable),
        { sampleCoded with files, drawn, tables := .sampleCode true }) := by
  have taken : newPasswordFault? "pw1" = none := by decide
  have used : sampleCoded.tables.consumeSmsCode
      (Metadata.ownerOfPhone "+1" sampleCoded.metadata) "000000" sampleCoded.clock =
        .ok (.sampleCode true) := by decide
  have found : sampleCoded.find .sampleTexting "alice" = .ok (some ⟨"alice", "x", ""⟩) := by
    rw [show sampleCoded.find .sampleTexting "alice" =
        (World.sample [⟨"alice", "x", ""⟩]).find (.sample false) "alice" from
      find_of_kept rfl "alice", find_sample]
    exact congrArg Except.ok (by decide)
  obtain ⟨hash, hashed⟩ := Password.exists_hash? (not_isTooLong_of_taken taken)
    (Deployment.sample_salt false sampleCoded.drawn.salts)
  obtain ⟨t, refused⟩ := upsert_sampleStuck (c := ⟨"alice", hash, ""⟩)
    (by decide : Users.isValidUsername "alice" = true)
  have failed := setPasswordOf_of_refused (d := .sampleTexting)
    (w := { sampleCoded with tables := .sampleCode true })
    found taken hashed refused
  refine ⟨t, { sampleCoded.drawn with salts := sampleCoded.drawn.salts + 1 }, ?_⟩
  rw [runIn_resetPasswordSms, taken, used]
  exact failed

/-- Where the code of alice is marked it is turned away. -/
theorem resetPasswordSms_of_marked {w : World} (d : Deployment)
    (metadata : w.metadata = sampleCoded.metadata) (marked : w.tables = .sampleCode true) :
    (resetPasswordSms d "+1" "000000" "pw1").runIn w = (.error (.account (.of .codeUsed)), w) := by
  have taken : newPasswordFault? "pw1" = none := by decide
  have owner : Metadata.ownerOfPhone "+1" sampleCoded.metadata = "alice" := by decide
  have refused : (State.Tables.sampleCode true).consumeSmsCode "alice" "000000" w.clock =
      .error (.of .codeUsed) := rfl
  rw [runIn_resetPasswordSms, taken, metadata, owner, marked, refused]

end World

/-- The users file cannot be moved into place: the theorem where the code is used up. -/
theorem failed_code_reset_iff_stuck :
    let w := World.sampleWithPhone.after .sampleTexting [.operation (.requestSmsReset "+1"),
      .files fun t => { t with refuses := fun l => l = ["users"] }]
    let s := (Operation.resetPasswordSms "+1" "000000" "pw1").step .sampleTexting w
    s.result = .error (.users .unwritable) ∧ Part.Same .sampleTexting w s.after .usersFile ∧
      ∃ id, s.ConsumesOnly id := by
  intro w s
  obtain ⟨files, drawn, run⟩ := World.resetPasswordSms_sampleCoded
  have failed : s.result = .error (.users .unwritable) :=
    congrArg Step.result (Operation.step_of_reply rfl run)
  have blames : Failure.BlamesUsersFile (.users .unwritable) := .inr ⟨_, rfl, rfl⟩
  obtain ⟨kept, -, -, spent, -⟩ := failed_code_reset_iff (d := .sampleTexting)
    (rfl : World.sampleWithPhone.tables = {}) _ failed rfl
  exact ⟨failed, kept, spent blames⟩

/-- A code is used up by a reset that sets nothing: the users file cannot be moved into place, and
once it can, the same reset is turned away because the code was used. -/
theorem code_spent_by_failed_reset :
    let d := Deployment.sampleTexting
    let w := World.sampleWithPhone.after d [.operation (.requestSmsReset "+1"),
      .files fun t => { t with refuses := fun l => l = ["users"] }]
    let first := (Operation.resetPasswordSms "+1" "000000" "pw1").step d w
    let second := (Operation.resetPasswordSms "+1" "000000" "pw1").step d
      (first.after.after d [.files fun t => { t with refuses := fun _ => false }])
    first.result = .error (.users .unwritable) ∧ Part.Same d w first.after .usersFile ∧
      ¬ Part.Same d w first.after .smsCodes ∧
      second.result = .error (.account (.of .codeUsed)) := by
  intro d w first second
  obtain ⟨files, drawn, run⟩ := World.resetPasswordSms_sampleCoded
  have reached : w = World.sampleCoded := World.after_requestSmsReset
  have step : first = _ := (congrArg ((Operation.resetPasswordSms "+1" "000000" "pw1").step d)
    reached).trans (Operation.step_of_reply rfl run)
  have again := World.resetPasswordSms_of_marked d
    (w := first.after.after d [.files fun t => { t with refuses := fun _ => false }])
    (by rw [step]; rfl) (by rw [step]; rfl)
  rcases resetPasswordSms_failed run rfl with ⟨-, other⟩ | ⟨kept, -, -⟩
  · exact absurd (.inr ⟨_, rfl, rfl⟩) other
  · refine ⟨by rw [step]; rfl, by rw [step]; exact kept, fun same => ?_, ?_⟩
    · rw [step, reached] at same
      cases same
    · rw [show second = _ from Operation.step_of_reply rfl again]
      rfl

end AccountSidecar
