import AccountSidecar.Proofs.Approvals
import AccountSidecar.Proofs.Failures
import AccountSidecar.Proofs.Outcomes
import AccountSidecar.Proofs.WrittenNames

/-!
# Approvals that stop half-way

Approving a signup writes the users file, marks the signup, writes the metadata and restarts the
auth proxy, in this order, and takes nothing back. So an approval is done as a whole or not at all
unless the users file takes the credentials and the metadata file refuses the approval
(`approval_whole_iff`). Then the account is in the users file, but the auth proxy is not told
(`account_without_restart`).
-/

namespace AccountSidecar

open Storage AccountSidecar.Action Account

/-- Whether a write of either file leaves the other one alone. -/
structure Deployment.FilesSeparate (d : Deployment) : Prop
    extends Deployment.FilesApart d, Deployment.FilesAside d where
  /-- The metadata file is neither the temporary users file nor below it. -/
  below : ¬ d.usersFile.temporary <+: d.metadataFile

/-- The files of the sample are separate. -/
theorem Deployment.sample_filesSeparate (requireApproval : Bool) :
    (sample requireApproval).FilesSeparate where
  toFilesApart := sample_filesApart requireApproval
  toFilesAside := sample_filesAside requireApproval
  below := (by decide : ¬ Location.temporary ["users"] <+: ["metadata"])

/-- A metadata file that is aside has a name. -/
theorem Deployment.FilesAside.metadata_named {d : Deployment} (aside : d.FilesAside) :
    d.metadataFile ≠ [] := by
  intro unnamed
  exact aside.above (unnamed ▸ List.nil_prefix)

/-- A change of credentials that was done keeps what has nothing to do with the users file. -/
theorem Users.place_beside_upsert {files t : FileTree} {file l : Location} {c : Credential}
    (done : upsert files file c = (.ok (), t)) (other : l ≠ file)
    (beside : ¬ file.temporary <+: l) (aside : ¬ l <+: file.parent) :
    t.place l = files.place l := by
  obtain ⟨valid, all, read, -⟩ := rewritten_of_upsert done
  have committed : commit files file (print (replaceOrAppend c all)).toUTF8 = (.ok (), t) := by
    simpa [upsert, valid, read] using done
  rcases commit_cases files file (print (replaceOrAppend c all)).toUTF8 with
    ⟨-, u, made, -, written⟩ | ⟨e, u, failed, -⟩
  · obtain rfl := (Prod.mk.inj (written.symm.trans committed)).2
    rw [FileTree.place_replaced_of_ne _ other beside]
    exact FileTree.makeBelow?_place made aside
  · cases (Prod.mk.inj (failed.symm.trans committed)).1

/-- Metadata is not written where the temporary file is refused. -/
theorem Metadata.commit_of_refused {files : FileTree} {file : Location} {entries : Keyed Entry}
    (named : file ≠ []) (refused : files.refuses file.temporary = true) :
    (commit files file entries).1 = .error .unwritable := by
  have blocked : files.isBlocked file.temporary = true := by
    simp [FileTree.isBlocked, refused]
  have unwritten : files.write? file.temporary (print entries).toUTF8 = none := by
    rw [FileTree.write?, blocked]
    rfl
  unfold commit
  simp only [List.isEmpty_iff, named, if_false, unwritten]

namespace State.Tables

variable {t : Tables} {id : String}

/-- A signup that is missing is not found. -/
theorem pendingSignup_eq_error {e : AccountError} (missing : t.pendingSignup id = .error e) :
    e = ⟨.notFound, "signup not found"⟩ := by
  unfold pendingSignup at missing
  split at missing
  · cases missing
  · exact (Except.error.inj missing).symm

/-- Marking a signup that is not approved changes the queued signups. -/
theorem approvePendingSignup_ne {s : PendingSignup} (queued : t.pendingSignup id = .ok s)
    (waiting : s.approved = false) : (t.approvePendingSignup id).signups ≠ t.signups := by
  intro same
  have found := pendingSignup_eq_ok queued
  have marked : Keyed.find? id (t.approvePendingSignup id).signups =
      some { s with approved := true } := by
    unfold approvePendingSignup Keyed.update
    rw [found]
    exact Keyed.find?_put_self id _ _
  rw [same, found] at marked
  rw [Option.some.inj marked] at waiting
  cases waiting

end State.Tables

variable {d : Deployment} {w : World} {id : String} {s : State.PendingSignup} {a : Step}

/-- What an approval comes to when all of it is done. -/
structure ApprovalDone (d : Deployment) (w : World) (id : String) (s : State.PendingSignup)
    (a : Step) : Prop where
  result : a.result = .ok .done
  users : Users.Rewritten w.files a.after.files d.usersFile s.credential
  tables : a.after.tables = w.tables.approvePendingSignup id
  metadata : a.after.metadata = approvedEntries s.username w.metadata
  metadataFile : a.after.files.node? d.metadataFile =
    some (.file (Metadata.print (approvedEntries s.username w.metadata)).toUTF8)
  effects : a.after.effects = w.effects ++ [.restart]

/-- Whether a failure is one with which an approval turns the caller away: there is no such signup,
or one of the stores reports an error. -/
def Failure.IsOfApproval (e : Failure) : Prop :=
  (∃ message, e = .account ⟨.notFound, message⟩) ∨ e.IsOfUsers ∨ e.IsOfMetadata

/-- What an approval comes to when nothing of it is done. -/
def ApprovalUndone (d : Deployment) (w : World) (a : Step) : Prop :=
  ∃ e, a.result = .error e ∧ e.IsOfApproval ∧ w.Untouched d a.after

/-- What an approval comes to that stops between the two files: the account is written and the
signup marked, but the metadata is as before and the auth proxy was not told. -/
structure ApprovalHalted (d : Deployment) (w : World) (id : String) (s : State.PendingSignup)
    (a : Step) : Prop where
  result : ∃ e, a.result = .error e ∧ e.IsOfMetadata
  users : Users.Rewritten w.files a.after.files d.usersFile s.credential
  tables : a.after.tables = w.tables.approvePendingSignup id
  metadata : a.after.metadata = w.metadata
  metadataFile : a.after.files.place d.metadataFile = w.files.place d.metadataFile
  effects : a.after.effects = w.effects

/-- Whether the users file takes the credentials of a signup and the metadata file then refuses the
approval. -/
def World.HaltsApproval (d : Deployment) (w : World) (s : State.PendingSignup) : Prop :=
  ∃ files e, Users.upsert w.files d.usersFile s.credential = (.ok (), files) ∧
    (Metadata.commit files d.metadataFile (approvedEntries s.username w.metadata)).1 = .error e

/-- An approval whose users file cannot be written has done nothing. -/
theorem approvalUndone_of_refused (aside : d.FilesAside)
    (queued : w.tables.pendingSignup id = .ok s) {e : Users.StoreError} {t : FileTree}
    (refused : Users.upsert w.files d.usersFile s.credential = (.error e, t))
    (reported : e.isReported = true) :
    ApprovalUndone d w ((Operation.approveSignup id).step d w) := by
  have run : (approveSignup d id).runIn w = (.error (.users e), { w with files := t }) := by
    rw [runIn_approveSignup queued, refused]
  have upserted : (upsertUser d s.credential).runIn w =
      (.error (.users e), { w with files := t }) := by
    rw [runIn_upsertUser, refused]
    rfl
  rw [Operation.step_of_reply rfl run]
  exact ⟨.users e, rfl, .inr (.inl ⟨e, rfl, reported⟩),
    traceless_upsertUser aside _ w _ _ upserted reported⟩

/-- An approval whose two files are written is done. -/
theorem approvalDone_of_written (apart : d.FilesApart) (working : .restarter ∉ w.failing)
    (queued : w.tables.pendingSignup id = .ok s) {t u : FileTree}
    (written : Users.upsert w.files d.usersFile s.credential = (.ok (), t))
    (noted : Metadata.commit t d.metadataFile (approvedEntries s.username w.metadata) =
      (.ok (), u)) :
    ApprovalDone d w id s ((Operation.approveSignup id).step d w) := by
  have run : (approveSignup d id).runIn w = (.ok (), { w with
      files := u
      tables := w.tables.approvePendingSignup id
      metadata := approvedEntries s.username w.metadata
      effects := w.effects ++ [.restart] }) := by
    rw [runIn_approveSignup queued, written]
    dsimp only
    rw [runIn_noteApproval]
    dsimp only
    rw [noted]
    dsimp only
    rw [runIn_emit, if_neg (by simpa [Effect.collaborator] using working)]
  obtain ⟨-, all, read, printed⟩ := Users.rewritten_of_upsert written
  have kept := Metadata.commit_kept t (approvedEntries s.username w.metadata) apart.distinct
    apart.beside
  rw [noted] at kept
  rw [Operation.step_of_reply rfl run]
  refine ⟨rfl, ⟨all, read, (FileTree.look_congr kept).trans printed⟩, rfl, rfl, ?_, rfl⟩
  rcases Metadata.commit_cases t d.metadataFile (approvedEntries s.username w.metadata) with
    ⟨-, -, committed⟩ | ⟨e, v, failed, -⟩
  · obtain rfl := (Prod.mk.inj (committed.symm.trans noted)).2
    exact if_pos rfl
  · cases (Prod.mk.inj (failed.symm.trans noted)).1

/-- An approval that the metadata file refuses has got half-way. -/
theorem approvalHalted_of_halts (separate : d.FilesSeparate)
    (queued : w.tables.pendingSignup id = .ok s) (halts : w.HaltsApproval d s) :
    ApprovalHalted d w id s ((Operation.approveSignup id).step d w) := by
  obtain ⟨t, e, written, refused⟩ := halts
  rcases Metadata.commit_cases t d.metadataFile (approvedEntries s.username w.metadata) with
    ⟨-, -, committed⟩ | ⟨e', u, failed, kept⟩
  · rw [committed] at refused
    cases refused
  · have run : (approveSignup d id).runIn w = (.error (.metadata e'), { w with
        files := u, tables := w.tables.approvePendingSignup id }) := by
      rw [runIn_approveSignup queued, written]
      dsimp only
      rw [runIn_noteApproval]
      dsimp only
      rw [failed]
    obtain ⟨-, all, read, printed⟩ := Users.rewritten_of_upsert written
    have beside := Users.place_beside_upsert written separate.distinct.symm separate.below
      separate.above
    have own : d.metadataFile ≠ d.metadataFile.temporary :=
      Location.ne_temporary_of_prefix List.prefix_rfl
    have reported := Metadata.commit_reported separate.metadata_named failed
    rw [Operation.step_of_reply rfl run]
    exact ⟨⟨_, rfl, e', rfl, reported⟩,
      ⟨all, read, (FileTree.look_congr (kept _ separate.users)).trans printed⟩, rfl, rfl,
      (kept _ own).trans beside, rfl⟩

/-- An approval is done, or nothing of it is, or it stops half-way, as long as the users file can be
read. -/
theorem approval_cases (separate : d.FilesSeparate) (rooted : w.files.isDirectory [] = true)
    (working : .restarter ∉ w.failing) (queued : w.tables.pendingSignup id = .ok s)
    (text : Users.isValidUsername s.username = true → w.files.IsText d.usersFile) :
    ApprovalDone d w id s ((Operation.approveSignup id).step d w) ∨
      ApprovalUndone d w ((Operation.approveSignup id).step d w) ∨ w.HaltsApproval d s := by
  rcases written : Users.upsert w.files d.usersFile s.credential with ⟨e | ⟨⟩, t⟩
  · have reported := Users.upsert_reported text (fun named => rooted) written
    exact .inr (.inl (approvalUndone_of_refused separate.toFilesAside queued written reported))
  · rcases noted : Metadata.commit t d.metadataFile (approvedEntries s.username w.metadata) with
      ⟨e | ⟨⟩, u⟩
    · exact .inr (.inr ⟨t, e, written, by rw [noted]⟩)
    · exact .inl (approvalDone_of_written separate.toFilesApart working queued written noted)

/-- An approval that stopped half-way is undone only where it had nothing to change. -/
theorem ApprovalHalted.undone_iff (halted : ApprovalHalted d w id s a)
    (queued : w.tables.pendingSignup id = .ok s) :
    ApprovalUndone d w a ↔ s.approved = true ∧ Part.Same d w a.after .usersFile := by
  constructor
  · rintro ⟨e, -, -, untouched⟩
    refine ⟨?_, untouched.usersFile⟩
    by_contra waiting
    refine State.Tables.approvePendingSignup_ne queued (Bool.eq_false_iff.mpr waiting) ?_
    rw [← halted.tables, untouched.tables]
  · rintro ⟨approved, same⟩
    obtain ⟨e, failed, ofMetadata⟩ := halted.result
    refine ⟨e, failed, .inr (.inr ofMetadata), same, halted.metadataFile, halted.metadata, ?_,
      halted.effects⟩
    rw [halted.tables, State.Tables.approvePendingSignup_of_approved queued approved]

/-- An approval does all that it has to or fails and does nothing of it, exactly where the users
file can be read and the metadata file does not refuse what comes behind a change of the users file
or of the signup. Where it does refuse, the account is written and the auth proxy is not told. -/
theorem approval_whole_iff (separate : d.FilesSeparate) (rooted : w.files.isDirectory [] = true)
    (working : .restarter ∉ w.failing) :
    let a := (Operation.approveSignup id).step d w
    ((∃ s, w.tables.pendingSignup id = .ok s ∧ ApprovalDone d w id s a) ∨ ApprovalUndone d w a ↔
      ∀ s, w.tables.pendingSignup id = .ok s →
        (Users.isValidUsername s.username = true → w.files.IsText d.usersFile) ∧
          (w.HaltsApproval d s → s.approved = true ∧ Part.Same d w a.after .usersFile)) ∧
      ∀ s, w.tables.pendingSignup id = .ok s → w.HaltsApproval d s →
        ApprovalHalted d w id s a := by
  intro a
  refine ⟨⟨fun whole s queued => ⟨fun valid => ?_, fun halts => ?_⟩, fun whole => ?_⟩,
    fun s queued halts => approvalHalted_of_halts separate queued halts⟩
  · by_contra broken
    obtain ⟨fault, unread, unreported⟩ :=
      Users.upsert_of_not_text (c := s.credential) valid broken
    have run : (approveSignup d id).runIn w = (.error (.users fault), w) := by
      rw [runIn_approveSignup queued, unread]
    have step : a = _ := Operation.step_of_reply rfl run
    rcases whole with ⟨s', -, done⟩ | ⟨e, failed, own, -⟩
    · have result := done.result
      rw [step] at result
      cases result
    · rw [step] at failed
      obtain rfl := Except.error.inj failed
      rcases own with ⟨message, same⟩ | ⟨e, same, reported⟩ | ⟨e, same, -⟩
      · cases same
      · obtain rfl := Failure.users.inj same
        rw [unreported] at reported
        cases reported
      · cases same
  · have halted : ApprovalHalted d w id s a := approvalHalted_of_halts separate queued halts
    refine (halted.undone_iff queued).mp (whole.resolve_left ?_)
    rintro ⟨s', -, done⟩
    obtain ⟨e, failed, -⟩ := halted.result
    rw [done.result] at failed
    cases failed
  · cases queued : w.tables.pendingSignup id with
    | error e =>
      have run := runIn_approveSignup_of_missing (d := d) queued
      obtain rfl := State.Tables.pendingSignup_eq_error queued
      rw [show a = _ from Operation.step_of_reply rfl run]
      exact .inr ⟨_, rfl, .inl ⟨_, rfl⟩, World.Untouched.refl d w⟩
    | ok s =>
      obtain ⟨text, halting⟩ := whole s queued
      rcases approval_cases separate rooted working queued text with done | undone | halts
      · exact .inl ⟨s, rfl, done⟩
      · exact .inr undone
      · have halted : ApprovalHalted d w id s a := approvalHalted_of_halts separate queued halts
        exact .inr ((halted.undone_iff queued).mpr (halting halts))

/-- The signup of dave. -/
def signupOfDave : List Event := [.operation (.signup "dave" "" "pw1" "1")]

/-- The files where the temporary metadata file cannot be written. -/
def Storage.FileTree.withoutMetadata (t : FileTree) : FileTree :=
  { t with refuses := fun l => l = ["metadata.tmp"] }

namespace World

/-- After the signup of dave both files can be written and the signup waits. -/
theorem after_signupOfDave :
    let w := (World.sample []).after (.sample true) signupOfDave
    w.IsOpen ∧ .restarter ∉ w.failing ∧
      ∃ saltText hash, Password.hash? saltText "pw1" = some hash ∧
        w.tables.pendingSignup "" = .ok ⟨"dave", "", hash, 0, false⟩ := by
  intro w
  obtain ⟨hash, w₁, hashed, run, opened, -, tables, -, failing⟩ :=
    sample_isOpen.runIn_signup "dave" "pw1" "1" (by decide) (by decide) (by decide)
  have reached : w = w₁ := by
    rw [show w = _ from World.after_operation _ _ _ _, Operation.step_of_map rfl run]
    rfl
  refine ⟨reached ▸ opened, ?_, _, hash, hashed, ?_⟩
  · rw [reached, failing]
    exact List.not_mem_nil
  · rw [reached, tables]
    rfl

/-- An open world has a working directory. -/
theorem IsOpen.rooted (holds : w.IsOpen) : w.files.isDirectory [] = true := holds.users.parent

/-- Credentials that were put into the users file of an open world are found. -/
theorem IsOpen.find_rewritten (holds : w.IsOpen) {w' : World} {c : Users.Credential}
    (changed : Users.Rewritten w.files w'.files ["users"] c) (legible : c.Legible)
    (back : c.settled = some c) : w'.find (.sample true) c.username = .ok (some c) := by
  obtain ⟨all, read, printed⟩ := changed
  obtain rfl : [] = all := Except.ok.inj ((Users.load_of_printed holds.empty).symm.trans read)
  rw [find, show (Deployment.sample true).usersFile = ["users"] from rfl,
    Users.load_of_printed printed, Users.replaceOrAppend,
    Users.parse_print [c] fun e among => List.mem_singleton.mp among ▸ legible]
  simp [Except.map, back, Users.lookup?]

/-- In an open world no approval of a signup under a valid name stops half-way. -/
theorem IsOpen.not_haltsApproval (holds : w.IsOpen)
    (valid : Users.isValidUsername s.username = true) : ¬ w.HaltsApproval (.sample true) s := by
  rintro ⟨t, e, written, refused⟩
  have able (content : ByteArray) : (w.files.replaced ["users"] content).Replaceable ["metadata"] :=
    holds.metadata.replaced_of_apart content (by decide)
  have upserted := Users.upsert_of_replaceable (c := s.credential) valid
    (Users.load_of_printed holds.empty) (by decide) rfl holds.users
  obtain rfl := (Prod.mk.inj (upserted.symm.trans written)).2
  rw [show (Deployment.sample true).metadataFile = ["metadata"] from rfl,
    Metadata.commit_of_replaceable (by decide) (able _)] at refused
  cases refused

/-- Without the temporary metadata file every approval of a signup under a valid name stops
half-way. -/
theorem IsOpen.haltsApproval (holds : w.IsOpen)
    (valid : Users.isValidUsername s.username = true) :
    HaltsApproval (.sample true) { w with files := w.files.withoutMetadata } s := by
  have free {l : Location} (blocked : w.files.isBlocked l = false) (other : l ≠ ["metadata.tmp"]) :
      w.files.withoutMetadata.isBlocked l = false := by
    obtain ⟨-, seen, forward⟩ := FileTree.seen_of_free blocked
    have stands : w.files.isDirectory l = false := by
      simp only [FileTree.isBlocked, Bool.or_eq_false_iff] at blocked
      exact blocked.1.1.1
    have allowed : w.files.withoutMetadata.refuses l = false := decide_eq_false other
    rw [FileTree.isBlocked, allowed, show w.files.withoutMetadata.isDirectory l = _ from stands,
      show w.files.withoutMetadata.hides l = _ from seen, forward]
    rfl
  have able : w.files.withoutMetadata.Replaceable ["users"] :=
    ⟨holds.users.parent, free holds.users.target (by decide),
      free holds.users.temporary (by decide)⟩
  exact ⟨_, .unwritable, Users.upsert_of_replaceable (c := s.credential) valid
    (Users.load_of_printed holds.empty) (by decide) rfl able,
    Metadata.commit_of_refused (by decide) rfl⟩

end World

/-- In an open world the approval of the signup of dave is done as a whole. -/
theorem approval_whole_iff_open :
    let w := (World.sample []).after (.sample true) signupOfDave
    let a := (Operation.approveSignup "").step (.sample true) w
    ∃ s, w.tables.pendingSignup "" = .ok s ∧ ApprovalDone (.sample true) w "" s a := by
  intro w a
  obtain ⟨opened, working, -, hash, -, queued⟩ := World.after_signupOfDave
  have whole : (∃ s, w.tables.pendingSignup "" = .ok s ∧ ApprovalDone (.sample true) w "" s a) ∨
      ApprovalUndone (.sample true) w a :=
    (approval_whole_iff (Deployment.sample_filesSeparate true)
      opened.rooted working).1.mpr fun s queued' => by
      obtain rfl := Except.ok.inj (queued.symm.trans queued')
      exact ⟨fun valid => FileTree.isText_of_look opened.empty, fun halts => absurd halts
        (opened.not_haltsApproval (by decide : Users.isValidUsername "dave" = true))⟩
  refine whole.resolve_right ?_
  rintro ⟨e, failed, -⟩
  obtain ⟨w', run, -⟩ := opened.runIn_approveSignup
    (by decide : Users.isValidUsername "dave" = true) queued working
  rw [show a = _ from Operation.step_of_reply rfl run] at failed
  cases failed

/-- An account is there and the auth proxy was not told: the temporary metadata file cannot be
written when the signup of dave is approved. -/
theorem account_without_restart : ∃ s : State.PendingSignup,
    let w := ((World.sample []).after (.sample true) signupOfDave).after (.sample true)
      [.files FileTree.withoutMetadata]
    let a := (Operation.approveSignup "").step (.sample true) w
    (∃ e, a.result = .error e ∧ e.IsOfMetadata) ∧ w.find (.sample true) "dave" = .ok none ∧
      a.after.find (.sample true) "dave" = .ok (some s.credential) ∧
      ¬ Part.Same (.sample true) w a.after .signups ∧ a.after.effects = w.effects := by
  obtain ⟨opened, -, _, hash, hashed, queued⟩ := World.after_signupOfDave
  refine ⟨⟨"dave", "", hash, 0, false⟩, ?_⟩
  generalize (World.sample []).after (.sample true) signupOfDave = w₁ at opened queued
  intro w a
  have halted : ApprovalHalted (.sample true) w "" ⟨"dave", "", hash, 0, false⟩ a :=
    approvalHalted_of_halts (Deployment.sample_filesSeparate true) queued
      (opened.haltsApproval (by decide : Users.isValidUsername "dave" = true))
  have name : Users.IsLegibleName "dave" :=
    (Users.recordedName?_eq_self_iff (by decide)).mp (by decide)
  refine ⟨halted.result, opened.absent "dave", ?_, fun same => ?_, halted.effects⟩
  · exact opened.find_rewritten halted.users
      ⟨name, Users.Credential.isWritable_of_hash? hashed⟩
      (State.PendingSignup.settled_credential (s := ⟨"dave", "", hash, 0, false⟩) hashed)
  · refine State.Tables.approvePendingSignup_ne (t := w.tables) queued rfl ?_
    rw [← halted.tables]
    exact same

end AccountSidecar
