import AccountSidecar.Proofs.PlainTexts
import AccountSidecar.Proofs.Running

/-!
# Signing up and being approved

What signups and approvals come to. A signup that passes its checks draws a salt and is queued or
creates the account (`signup_cases`). Queueing puts a row under a fresh identifier, and the phone
of the signup goes into the metadata at once (`runIn_queueSignup`, `runIn_stashPhone`); approving
writes the credentials of the row, whoever has its username by then (`runIn_approveSignup`).
-/

namespace AccountSidecar

/-- Whether metadata can be written. -/
def World.MetadataWritable (d : Deployment) (w : World) : Prop :=
  ∀ entries, (Metadata.commit w.files d.metadataFile entries).1 = .ok ()

/-- The credentials that a signup waits with. -/
def State.PendingSignup.credential (s : PendingSignup) : Users.Credential :=
  { username := s.username, password := s.passwordHash }

namespace Account

open AccountSidecar.Action

variable {d : Deployment} {w : World}

/-- What a signup needs to be accepted, and the hash of its password. -/
structure Accepts (d : Deployment) (w : World) (username password hash : String) : Prop where
  valid : Users.isValidUsername username = true
  taken : newPasswordFault? password = none
  absent : w.find d username = .ok none
  hashed : Password.hash? (d.sources.salt w.drawn.salts) password = some hash

/-- An accepted signup is queued or creates the account, once a salt is drawn. -/
theorem Accepts.runIn_signup {username password hash : String}
    (accepts : Accepts d w username password hash) (email phone : String) :
    (signup d username email password phone).runIn w =
      (if d.requireApproval then queueSignup d username email hash phone
        else createAccount d username password hash phone).runIn
          { w with drawn := { w.drawn with salts := w.drawn.salts + 1 } } := by
  have named : username ≠ "" := by
    rintro rfl
    exact absurd accepts.valid (by decide)
  have given : password ≠ "" := by
    rintro rfl
    cases accepts.taken
  unfold signup
  simp only [named, given, accepts.valid, decide_false, Bool.or_self, Bool.false_eq_true, if_false,
    Bool.not_true]
  rw [runIn_bind, runIn_checkNewPassword, accepts.taken]
  dsimp only
  rw [runIn_bind, runIn_findUser, accepts.absent]
  simp only [Except.mapError, Option.isSome_none, Bool.false_eq_true, if_false]
  rw [runIn_bind, runIn_hashPassword, accepts.hashed]
  rfl

/-- A signup is accepted, or turned away with nothing but salts drawn. -/
theorem signup_cases (d : Deployment) (username email password phone : String) (w : World) :
    (∃ hash, Accepts d w username password hash) ∨
      ∃ e n, (signup d username email password phone).runIn w =
        (.error e, { w with drawn := { w.drawn with salts := n } }) := by
  unfold signup
  split
  · exact .inr ⟨_, w.drawn.salts, rfl⟩
  · split
    · exact .inr ⟨_, w.drawn.salts, rfl⟩
    · rename_i valid
      rw [runIn_bind, runIn_checkNewPassword]
      cases taken : newPasswordFault? password with
      | some e => exact .inr ⟨_, w.drawn.salts, rfl⟩
      | none =>
        dsimp only
        rw [runIn_bind, runIn_findUser]
        cases absent : w.find d username with
        | error e => exact .inr ⟨_, w.drawn.salts, rfl⟩
        | ok found =>
          cases found with
          | some c => exact .inr ⟨_, w.drawn.salts, rfl⟩
          | none =>
            simp only [Except.mapError, Option.isSome_none, Bool.false_eq_true, if_false]
            rw [runIn_bind, runIn_hashPassword]
            cases hashed : Password.hash? (d.sources.salt w.drawn.salts) password with
            | none => exact .inr ⟨_, w.drawn.salts + 1, rfl⟩
            | some hash => exact .inl ⟨hash, by simpa using valid, taken, absent, hashed⟩

/-- The metadata of all users after one of them was given a phone. -/
def phonedEntries (username phone : String) (entries : Keyed Metadata.Entry) :
    Keyed Metadata.Entry :=
  Keyed.put username { (Keyed.find? username entries).getD {} with phone } entries

/-- Storing the phone of a signup does nothing where there is none. A fault that the metadata store
reports is passed over. -/
theorem runIn_stashPhone (d : Deployment) (username phone : String) (w : World) :
    (stashPhone d username phone).runIn w =
      if phone = "" then (.ok (), w)
      else
        match Metadata.commit w.files d.metadataFile (phonedEntries username phone w.metadata) with
        | (.ok (), files) =>
          (.ok (), { w with files, metadata := phonedEntries username phone w.metadata })
        | (.error e, files) =>
          (if e.isReported then .ok () else .error (.metadata e), { w with files }) := by
  unfold stashPhone
  by_cases none : phone = ""
  · rw [if_pos none, if_pos none]
    rfl
  · rw [if_neg none, if_neg none]
    unfold despiteMetadata setPhone phonedEntries
    rw [runIn_tryCatch, runIn_bind_ok (runIn_metadataOf username w), runIn_commitMetadata]
    rcases Metadata.commit w.files d.metadataFile _ with ⟨e | ⟨⟩, files⟩
    · dsimp only
      split <;> rfl
    · rfl

/-- A signup that is queued gets a row under a fresh identifier, and its phone is stored. -/
theorem runIn_queueSignup (d : Deployment) (username email hash phone : String) (w : World) :
    (queueSignup d username email hash phone).runIn w =
      match (stashPhone d username phone).runIn { w with
        drawn := { w.drawn with identifiers := w.drawn.identifiers + 1 }
        tables := w.tables.createPendingSignup (d.sources.identifier w.drawn.identifiers)
          username email hash w.clock } with
      | (.ok (), w') => (.ok (.pending (d.sources.identifier w.drawn.identifiers)), w')
      | (.error e, w') => (.error e, w') := by
  unfold queueSignup
  rw [runIn_bind_ok (runIn_drawIdentifier d w), runIn_bind_ok (runIn_now _),
    runIn_bind_ok (runIn_changeTables _ _), runIn_bind]
  generalize (stashPhone d username phone).runIn _ = stashed
  rcases stashed with ⟨_ | _, _⟩ <;> rfl

/-- Approving a queued signup writes its credentials, marks it, notes the approval in the metadata
and restarts the auth proxy. -/
theorem runIn_approveSignup {id : String} {s : State.PendingSignup}
    (queued : w.tables.pendingSignup id = .ok s) :
    (approveSignup d id).runIn w =
      match Users.upsert w.files d.usersFile s.credential with
      | (.error e, files) => (.error (.users e), { w with files })
      | (.ok (), files) => (do setApproved d s.username true; emit .restart : Action Unit).runIn
          { w with files, tables := w.tables.approvePendingSignup id } := by
  unfold approveSignup
  rw [runIn_bind_ok (runIn_get w), runIn_bind, runIn_ofCheck, queued]
  dsimp only [Except.mapError]
  rw [runIn_bind, runIn_upsertUser]
  rw [show ({ username := s.username, password := s.passwordHash } : Users.Credential) =
    s.credential from rfl]
  rcases Users.upsert w.files d.usersFile s.credential with ⟨_ | _, files⟩ <;> rfl

/-- A signup that is not there cannot be approved. -/
theorem runIn_approveSignup_of_missing {id : String} {e : AccountError}
    (missing : w.tables.pendingSignup id = .error e) :
    (approveSignup d id).runIn w = (.error (.account e), w) := by
  unfold approveSignup
  rw [runIn_bind_ok (runIn_get w), runIn_bind, runIn_ofCheck, missing]
  rfl

/-- The metadata of all users after one of them was approved. -/
def approvedEntries (username : String) (entries : Keyed Metadata.Entry) : Keyed Metadata.Entry :=
  Keyed.put username { (Keyed.find? username entries).getD {} with approved := true } entries

/-- An approval is noted and then the auth proxy restarts, unless one of the two fails. -/
theorem runIn_noteApproval (d : Deployment) (username : String) (w : World) :
    (do setApproved d username true; emit .restart : Action Unit).runIn w =
      match Metadata.commit w.files d.metadataFile (approvedEntries username w.metadata) with
      | (.error e, files) => (.error (.metadata e), { w with files })
      | (.ok (), files) =>
        (emit .restart).runIn
          { w with files, metadata := approvedEntries username w.metadata } := by
  have noted : (setApproved d username true).runIn w =
      (commitMetadata d username
        { (Keyed.find? username w.metadata).getD {} with approved := true }).runIn w :=
    runIn_bind_ok (runIn_metadataOf username w)
  rw [runIn_commitMetadata] at noted
  rw [runIn_bind, noted]
  unfold approvedEntries
  rcases Metadata.commit w.files d.metadataFile _ with ⟨e | ⟨⟩, files⟩ <;> rfl

/-- An approval that is noted comes to its end with a restart, or fails without one. The metadata is
as it was where it was the metadata that could not be written, and has the approval where not. -/
theorem noteApproval_cases (d : Deployment) (username : String) (w : World) :
    (∃ files, (do setApproved d username true; emit .restart : Action Unit).runIn w =
      (.ok (), { w with
        files
        metadata := approvedEntries username w.metadata
        effects := w.effects ++ [.restart] })) ∨
    ∃ e files metadata, (do setApproved d username true; emit .restart : Action Unit).runIn w =
      (.error e, { w with files, metadata }) ∧
        ((∃ m, e = .metadata m) ∧ metadata = w.metadata ∨
          e = .collaborator .restarter ∧ metadata = approvedEntries username w.metadata) := by
  rw [runIn_noteApproval]
  split
  · exact .inr ⟨_, _, _, rfl, .inl ⟨⟨_, rfl⟩, rfl⟩⟩
  · rw [runIn_emit]
    split
    · exact .inr ⟨_, _, _, rfl, .inr ⟨rfl, rfl⟩⟩
    · exact .inl ⟨_, rfl⟩

/-- A signup with a phone is queued and its phone stored where metadata can be written. -/
theorem Accepts.runIn_signup_pending {username password hash phone : String}
    {files : Storage.FileTree} (accepts : Accepts d w username password hash)
    (approval : d.requireApproval = true) (given : phone ≠ "")
    (written : Metadata.commit w.files d.metadataFile
      (phonedEntries username phone w.metadata) = (.ok (), files)) (email : String) :
    (signup d username email password phone).runIn w =
      (.ok (.pending (d.sources.identifier w.drawn.identifiers)), { w with
        files
        metadata := phonedEntries username phone w.metadata
        tables := w.tables.createPendingSignup (d.sources.identifier w.drawn.identifiers)
          username email hash w.clock
        drawn := { w.drawn with
          identifiers := w.drawn.identifiers + 1
          salts := w.drawn.salts + 1 } }) := by
  rw [accepts.runIn_signup, if_pos approval, runIn_queueSignup, runIn_stashPhone, if_neg given]
  dsimp only
  rw [written]

end Account

namespace World

open Storage Account

/-- Whether files look to the sample as if nobody had an account and both files could be written. -/
structure IsOpen (w : World) : Prop where
  empty : w.files.look ["users"] = .content (Users.print []).toUTF8
  users : w.files.Replaceable ["users"]
  metadata : w.files.Replaceable ["metadata"]

variable {w : World}

/-- In an open world nobody is found. -/
theorem IsOpen.absent (holds : w.IsOpen) (username : String) :
    w.find (.sample true) username = .ok none := by
  rw [find, show (Deployment.sample true).usersFile = ["users"] from rfl,
    Users.load_of_printed holds.empty]
  rfl

/-- The sample without credentials is open. -/
theorem sample_isOpen : (sample []).IsOpen := ⟨rfl, ⟨rfl, rfl, rfl⟩, ⟨rfl, rfl, rfl⟩⟩

/-- In an open world a signup with a phone is queued, and the world stays open. -/
theorem IsOpen.runIn_signup (holds : w.IsOpen) (username password phone : String)
    (valid : Users.isValidUsername username = true) (taken : newPasswordFault? password = none)
    (given : phone ≠ "") :
    let id := (Deployment.sample true).sources.identifier w.drawn.identifiers
    ∃ hash w', Password.hash? ((Deployment.sample true).sources.salt w.drawn.salts) password =
        some hash ∧
      (signup (.sample true) username "" password phone).runIn w = (.ok (.pending id), w') ∧
      w'.IsOpen ∧ w'.metadata = phonedEntries username phone w.metadata ∧
      w'.tables = w.tables.createPendingSignup id username "" hash w.clock ∧
      w'.drawn.identifiers = w.drawn.identifiers + 1 ∧ w'.failing = w.failing := by
  obtain ⟨hash, hashed⟩ := Password.exists_hash? (not_isTooLong_of_taken taken)
    (Deployment.sample_salt true w.drawn.salts)
  have written := Metadata.commit_of_replaceable (by decide) holds.metadata
    (phonedEntries username phone w.metadata)
  refine ⟨hash, _, hashed, Accepts.runIn_signup_pending
    ⟨valid, taken, holds.absent username, hashed⟩ rfl given written "", ⟨?_, ?_, ?_⟩,
    rfl, rfl, rfl, rfl⟩
  · exact (FileTree.look_congr (FileTree.place_replaced_of_ne _ (by decide) (by decide))).trans
      holds.empty
  · exact holds.users.replaced_of_apart _ (by decide)
  · exact FileTree.replaceable_replaced _ (by decide) holds.metadata

/-- In an open world the approval of a signup comes to its end. -/
theorem IsOpen.runIn_approveSignup (holds : w.IsOpen) {id : String} {s : State.PendingSignup}
    (valid : Users.isValidUsername s.username = true) (queued : w.tables.pendingSignup id = .ok s)
    (working : .restarter ∉ w.failing) :
    ∃ w', (approveSignup (.sample true) id).runIn w = (.ok (), w') ∧
      w'.metadata = approvedEntries s.username w.metadata := by
  have written := Users.upsert_of_replaceable (c := s.credential) valid
    (Users.load_of_printed holds.empty) (by decide) rfl holds.users
  have able (content : ByteArray) : (w.files.replaced ["users"] content).Replaceable ["metadata"] :=
    holds.metadata.replaced_of_apart content (by decide)
  rw [Account.runIn_approveSignup queued, show (Deployment.sample true).usersFile = ["users"]
    from rfl, written]
  dsimp only
  rw [runIn_noteApproval, show (Deployment.sample true).metadataFile = ["metadata"] from rfl]
  dsimp only
  rw [Metadata.commit_of_replaceable (by decide) (able _)]
  dsimp only
  rw [Action.runIn_emit, if_neg (by simpa [Effect.collaborator] using working)]
  exact ⟨_, rfl, rfl⟩

end World

end AccountSidecar
