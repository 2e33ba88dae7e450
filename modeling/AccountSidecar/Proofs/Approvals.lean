import AccountSidecar.Proofs.PasswordChanges

/-!
# Approving over an existing account

Approving a signup writes its credentials whether or not its username has an account by then, be it
from an earlier approval, another signup or somebody else's change of the file. So the account gets
the password of the signup and loses its second factor, unless the users file cannot be written
(`approval_over_account`).
-/

namespace AccountSidecar

open AccountSidecar.Action Account Users

variable {d : Deployment} {w : World}

/-- Approving an approved signup changes no table. -/
theorem State.Tables.approvePendingSignup_of_approved {t : State.Tables} {id : String}
    {s : State.PendingSignup} (queued : t.pendingSignup id = .ok s) (approved : s.approved = true) :
    t.approvePendingSignup id = t := by
  have found := State.Tables.pendingSignup_eq_ok queued
  have same : ({ s with approved := true } : State.PendingSignup) = s := by rw [← approved]
  unfold approvePendingSignup Keyed.update
  rw [found]
  dsimp only
  rw [same, Keyed.put_found found]

/-- The two ways in which approving a signup may end where its username has an account. -/
inductive ApprovedOver (d : Deployment) (w : World) (id : String) (s : State.PendingSignup)
    (c : Credential) (a : Step) : Prop
  /-- The users file could not be written, and nothing has changed. -/
  | refused {e : Users.StoreError}
      (unwritable : (upsert w.files d.usersFile s.credential).1 = .error e)
      (result : a.result = .error (.users e)) (found : a.after.find d s.username = .ok (some c))
      (file : Part.Same d w a.after .usersFile) (tables : a.after.tables = w.tables)
      (metadata : a.after.metadata = w.metadata) (effects : a.after.effects = w.effects)
  /-- The account is that of the signup, and the auth proxy was restarted once, or not at all where
  the approval failed after that. The user is marked approved in the metadata and nothing else is
  changed there, or nothing at all where the metadata could not be written. -/
  | replaced (found : a.after.find d s.username = .ok (some s.credential))
      (tables : a.after.tables = w.tables.approvePendingSignup id)
      (notified : a.result = .ok .done ∧ a.after.effects = w.effects ++ [.restart] ∨
        (∃ e, a.result = .error e) ∧ a.after.effects = w.effects)
      (metadata : (∃ m, a.result = .error (.metadata m)) ∧ a.after.metadata = w.metadata ∨
        (∀ m, a.result ≠ .error (.metadata m)) ∧
          a.after.metadata = approvedEntries s.username w.metadata)

variable {id : String} {s : State.PendingSignup} {c : Credential}

/-- The credentials of a signup that waits with a hash come back as they are. -/
theorem State.PendingSignup.settled_credential {saltText password : String}
    (hashed : Password.hash? saltText password = some s.passwordHash) :
    s.credential.settled = some s.credential :=
  Credential.settled_of_disabled (Password.ne_empty_of_hash? hashed)
    (Credential.hasSolidPassword_of_hash? (c := s.credential) hashed) rfl

/-- Approving a signup that waits with a hash, where its username has an account. -/
theorem approvedOver_step (apart : d.FilesApart) (queued : w.tables.pendingSignup id = .ok s)
    {saltText password : String} (hashed : Password.hash? saltText password = some s.passwordHash)
    (found : w.find d s.username = .ok (some c)) :
    ApprovedOver d w id s c ((Operation.approveSignup id).step d w) := by
  rcases upsert_cases w.files d.usersFile s.credential with
    ⟨t, -, written, changed⟩ | ⟨e, t, failed, kept⟩
  · have rest : (approveSignup d id).runIn w =
        (do setApproved d s.username true; emit .restart : Action Unit).runIn
          { w with files := t, tables := w.tables.approvePendingSignup id } := by
      rw [runIn_approveSignup queued, written]
    generalize reached : ({ w with files := t, tables := _ } : World) = w₁ at rest
    have noted : Within d [.metadata, .effects]
        (do setApproved d s.username true; emit .restart : Action Unit) :=
      within_noteApproval (fun _ => apart) s.username (by decide) (by decide)
    have file : Part.Same d w₁ ((approveSignup d id).runIn w).2 .usersFile :=
      rest ▸ noted w₁ .usersFile (by decide)
    have tables : ((approveSignup d id).runIn w).2.tables = w₁.tables :=
      rest ▸ noted.tables (by decide) w₁
    have account : w₁.find d s.username = .ok (some s.credential) :=
      World.find_of_rewritten_self (w := w) (c := s.credential) (by rw [← reached]; exact changed)
        (Credential.isWritable_of_hash? hashed) found (s.settled_credential hashed)
    have effects : w₁.effects = w.effects := by rw [← reached]
    have entries : w₁.metadata = w.metadata := by rw [← reached]
    rcases noteApproval_cases d s.username w₁ with
        ⟨files, run⟩ | ⟨e, files, metadata, run, marked⟩ <;>
      rw [run] at rest <;> rw [rest] at file tables <;>
      rw [Operation.step_of_reply rfl rest] <;>
      refine .replaced ((World.find_of_kept file s.username).trans account)
        (tables.trans (by rw [← reached])) ?_ ?_
    · exact .inl ⟨rfl, by rw [← effects]⟩
    · exact .inr ⟨nofun, congrArg (approvedEntries s.username) entries⟩
    · exact .inr ⟨⟨e, rfl⟩, effects⟩
    · rcases marked with ⟨⟨m, rfl⟩, rfl⟩ | ⟨rfl, rfl⟩
      · exact .inl ⟨⟨m, rfl⟩, entries⟩
      · exact .inr ⟨nofun, congrArg (approvedEntries s.username) entries⟩
  · have run : (approveSignup d id).runIn w = (.error (.users e), { w with files := t }) := by
      rw [runIn_approveSignup queued, failed]
    rw [Operation.step_of_reply rfl run]
    exact .refused (by rw [failed]) rfl (by rw [← found]; exact World.find_of_kept kept s.username)
      kept rfl rfl rfl

/-- An account that is as the signup left it stays so, and an approved signup keeps the tables. -/
theorem ApprovedOver.idempotent {a : Step} (ended : ApprovedOver d w id s c a)
    (queued : w.tables.pendingSignup id = .ok s) :
    (c = s.credential → a.after.find d s.username = .ok (some c)) ∧
      (s.approved = true → a.after.tables = w.tables) := by
  cases ended with
  | refused unwritable result found file tables metadata effects =>
    exact ⟨fun _ => found, fun _ => tables⟩
  | replaced found tables notified metadata =>
    refine ⟨fun same => by rw [same]; exact found, fun approved => ?_⟩
    rw [tables, State.Tables.approvePendingSignup_of_approved queued approved]

/-- Approving a signup whose username has an account either changes nothing, because the users file
cannot be written, or gives the account the password of the signup and no second factor. So an
account that is as the signup left it stays so, and approving an approved signup again keeps the
tables. -/
theorem approval_over_account (apart : d.FilesApart) {start : World} (empty : start.tables = {})
    (events : List Event) (queued : (start.after d events).tables.pendingSignup id = .ok s)
    (found : (start.after d events).find d s.username = .ok (some c)) :
    let w := start.after d events
    let a := (Operation.approveSignup id).step d w
    ApprovedOver d w id s c a ∧ (c = s.credential → a.after.find d s.username = .ok (some c)) ∧
      (s.approved = true → a.after.tables = w.tables) := by
  intro w a
  obtain ⟨q, -, password, phone, origin⟩ := (World.provenance_after d empty events).signups _
    (Keyed.mem_of_find? (State.Tables.pendingSignup_eq_ok queued))
  have ended : ApprovedOver d w id s c a := approvedOver_step apart queued origin.hashed found
  exact ⟨ended, ended.idempotent queued⟩

/-- The events of a signup for dave and a change of the users file that gives dave an account. -/
def signupThenAccount : List Event :=
  [.operation (.signup "dave" "" "pw1" "1"),
    .files fun _ => (World.sample [⟨"dave", "x", ""⟩]).files]

/-- After these events the signup waits with a hash and dave has the other account. -/
theorem World.after_signupThenAccount :
    let w := (World.sample []).after (.sample true) signupThenAccount
    w.files = (World.sample [⟨"dave", "x", ""⟩]).files ∧
      w.find (.sample true) "dave" = .ok (some ⟨"dave", "x", ""⟩) ∧
      ∃ saltText hash, Password.hash? saltText "pw1" = some hash ∧
        w.tables.pendingSignup "" = .ok ⟨"dave", "", hash, 0, false⟩ := by
  intro w
  obtain ⟨hash, w₁, hashed, run, -, -, tables, -, -⟩ :=
    World.sample_isOpen.runIn_signup "dave" "pw1" "1" (by decide) (by decide) (by decide)
  have reached : w = { w₁ with files := (World.sample [⟨"dave", "x", ""⟩]).files } := by
    rw [show w = _ from World.after_operation _ _ _ _, Operation.step_of_map rfl run]
    rfl
  refine ⟨by rw [reached], ?_, _, hash, hashed, ?_⟩
  · rw [show w.find (.sample true) "dave" = (World.sample [⟨"dave", "x", ""⟩]).find (.sample true)
      "dave" from World.find_of_kept (by rw [reached]) "dave", World.find_sample]
    exact congrArg Except.ok (by decide)
  · rw [reached, tables]
    rfl

/-- Approving a signup over an account that came from elsewhere: the theorem at these events. -/
theorem approval_over_account_elsewhere : ∃ s c,
    let d := Deployment.sample true
    let w := (World.sample []).after d signupThenAccount
    let a := (Operation.approveSignup "").step d w
    w.tables.pendingSignup "" = .ok s ∧ w.find d s.username = .ok (some c) ∧
      ApprovedOver d w "" s c a ∧ (c = s.credential → a.after.find d s.username = .ok (some c)) ∧
      (s.approved = true → a.after.tables = w.tables) := by
  obtain ⟨-, found, _, hash, -, queued⟩ := World.after_signupThenAccount
  have empty : (World.sample []).tables = {} := rfl
  have ended := approval_over_account (s := ⟨"dave", "", hash, 0, false⟩)
    (Deployment.sample_filesApart true) empty signupThenAccount queued found
  exact ⟨_, _, queued, found, ended⟩

/-- The account of dave gets another password when the signup is approved. -/
theorem account_overwritten_by_approval : ∃ c c',
    let d := Deployment.sample true
    let w := (World.sample []).after d signupThenAccount
    let a := (Operation.approveSignup "").step d w
    w.find d "dave" = .ok (some c) ∧ a.after.find d "dave" = .ok (some c') ∧
      c'.password ≠ c.password := by
  obtain ⟨files, found, saltText, hash, hashed, queued⟩ := World.after_signupThenAccount
  have ended := approvedOver_step (s := ⟨"dave", "", hash, 0, false⟩)
    (Deployment.sample_filesApart true) queued hashed found
  obtain ⟨t, written⟩ := World.upsert_sample [⟨"dave", "x", ""⟩] (c := ⟨"dave", hash, ""⟩)
    (by decide : Users.isValidUsername "dave" = true)
  refine ⟨⟨"dave", "x", ""⟩, ⟨"dave", hash, ""⟩, found, ?_, fun same => ?_⟩
  · cases ended with
    | refused unwritable =>
      rw [files, show (Deployment.sample true).usersFile = ["users"] from rfl,
        show State.PendingSignup.credential _ = ⟨"dave", hash, ""⟩ from rfl, written] at unwritable
      cases unwritable
    | replaced after => exact after
  · have first := Password.head?_of_hash? hashed
    rw [show hash = "x" from same] at first
    cases first

end AccountSidecar
