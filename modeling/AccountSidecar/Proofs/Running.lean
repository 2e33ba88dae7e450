import AccountSidecar.Account.Operation
import AccountSidecar.Proofs.UsersFile

/-!
# Running actions

What each elementary action comes to in a world. An action after another one runs in the world that
the first one left, and not at all where the first one failed; what the first one changed stays.
-/

namespace AccountSidecar

/-- A result that is right after a function was right before. -/
theorem exists_of_map_eq_ok {ε α β : Type} {f : α → β} {result : Except ε α} {b : β}
    (mapped : result.map f = .ok b) : ∃ a, result = .ok a ∧ f a = b := by
  cases result with
  | error e => cases mapped
  | ok a => exact ⟨a, rfl, Except.ok.inj mapped⟩

namespace Action

variable {α β : Type} {d : Deployment} {w w' : World}

/-- Failing leaves the world as it is. -/
theorem runIn_throw (e : Failure) (w : World) : (throw e : Action α).runIn w = (.error e, w) := rfl

/-- Looking at the world gives it and leaves it. -/
@[simp] theorem runIn_get (w : World) : (get : Action World).runIn w = (.ok w, w) := rfl

/-- The time is that of the clock. -/
@[simp] theorem runIn_now (w : World) : now.runIn w = (.ok w.clock, w) := rfl

/-- A change of the tables leaves the rest of the world. -/
@[simp] theorem runIn_changeTables (f : State.Tables → State.Tables) (w : World) :
    (changeTables f).runIn w = (.ok (), { w with tables := f w.tables }) := rfl

/-- An action goes on in the world that the first one left. -/
theorem runIn_bind (a : Action α) (f : α → Action β) (w : World) :
    (a >>= f).runIn w =
      match a.runIn w with
      | (.ok x, w') => (f x).runIn w'
      | (.error e, w') => (.error e, w') := by
  change (ExceptT.bindCont f (a.run w).1).run (a.run w).2 = _
  unfold runIn
  rcases a.run w with ⟨_ | _, _⟩ <;> rfl

/-- An action whose first part works goes on with the second. -/
theorem runIn_bind_ok {a : Action α} {f : α → Action β} {x : α}
    (first : a.runIn w = (.ok x, w')) : (a >>= f).runIn w = (f x).runIn w' := by
  rw [runIn_bind, first]

/-- A function of the value of an action changes nothing else. -/
theorem runIn_map (g : α → β) (a : Action α) (w : World) :
    (g <$> a).runIn w = ((a.runIn w).1.map g, (a.runIn w).2) := by
  rw [show g <$> a = a >>= fun x => pure (g x) from rfl, runIn_bind]
  rcases a.runIn w with ⟨_ | _, _⟩ <;> rfl

/-- A handler goes on in the world that the failed action left. -/
theorem runIn_tryCatch (a : Action α) (handler : Failure → Action α) (w : World) :
    (tryCatch a handler).runIn w =
      match a.runIn w with
      | (.ok x, w') => (.ok x, w')
      | (.error e, w') => (handler e).runIn w' := by
  simp only [runIn, ExceptT.run, tryCatch, tryCatchThe, MonadExceptOf.tryCatch, ExceptT.tryCatch,
    ExceptT.mk, bind, StateT.bind]
  change (match a w with | (x, w') => _) = _
  rcases a w with ⟨_ | _, _⟩ <;> rfl

section Related

variable {R : World → World → Prop} (trans : ∀ {w₁ w₂ w₃}, R w₁ w₂ → R w₂ w₃ → R w₁ w₃)
include trans

/-- Whatever relates the world to the one after each of two actions, and composes, relates it to the
one after both. -/
theorem related_bind {a : Action α} {f : α → Action β} (first : R w (a.runIn w).2)
    (second : ∀ x w', R w' ((f x).runIn w').2) : R w ((a >>= f).runIn w).2 := by
  rw [runIn_bind]
  rcases step : a.runIn w with ⟨_ | x, w'⟩ <;> rw [step] at first
  · exact first
  · exact trans first (second x w')

/-- Whatever relates the world to the one after an action and the one after its handler, and
composes, relates it to the one after the whole. -/
theorem related_tryCatch {a : Action α} {handler : Failure → Action α}
    (inner : R w (a.runIn w).2) (outer : ∀ e w', R w' ((handler e).runIn w').2) :
    R w ((tryCatch a handler).runIn w).2 := by
  rw [runIn_tryCatch]
  rcases step : a.runIn w with ⟨e | _, w'⟩ <;> rw [step] at inner
  · exact trans inner (outer e w')
  · exact inner

end Related

/-- A check of the tables changes nothing. -/
@[simp] theorem runIn_ofCheck (check : Except AccountError α) (w : World) :
    (ofCheck check).runIn w = (check.mapError .account, w) := by
  cases check <;> rfl

/-- Looking up a user changes nothing. -/
@[simp] theorem runIn_findUser (d : Deployment) (username : String) (w : World) :
    (findUser d username).runIn w = ((w.find d username).mapError .users, w) := by
  simp only [findUser, credentials, runIn_bind, runIn_get, World.find]
  cases Users.load w.files d.usersFile <;> rfl

/-- A user who was asked for exists, and nothing has changed. -/
theorem requireUser_cases (d : Deployment) (username : String) (w : World) :
    (∃ c, w.find d username = .ok (some c) ∧ (requireUser d username).runIn w = (.ok c, w)) ∨
      ∃ e, (∀ c, w.find d username ≠ .ok (some c)) ∧
        (requireUser d username).runIn w = (.error e, w) := by
  unfold requireUser
  rw [runIn_bind, runIn_findUser]
  cases found : w.find d username with
  | error e => exact .inr ⟨.users e, by simp, rfl⟩
  | ok c =>
    cases c with
    | none => exact .inr ⟨.account (.of .notFound), by simp, rfl⟩
    | some c => exact .inl ⟨c, rfl, rfl⟩

/-- Writing credentials changes the files only. -/
theorem runIn_upsertUser (d : Deployment) (c : Users.Credential) (w : World) :
    (upsertUser d c).runIn w =
      ((Users.upsert w.files d.usersFile c).1.mapError .users,
        { w with files := (Users.upsert w.files d.usersFile c).2 }) := by
  unfold upsertUser
  rw [runIn_bind_ok (runIn_get w)]
  rcases Users.upsert w.files d.usersFile c with ⟨_ | _, _⟩ <;> rfl

/-- Writing metadata changes the files, and memory where that is done. -/
theorem runIn_commitMetadata (d : Deployment) (username : String) (e : Metadata.Entry) (w : World) :
    (commitMetadata d username e).runIn w =
      match Metadata.commit w.files d.metadataFile (Keyed.put username e w.metadata) with
      | (.ok (), files) =>
        (.ok (), { w with files, metadata := Keyed.put username e w.metadata })
      | (.error e, files) => (.error (.metadata e), { w with files }) := by
  unfold commitMetadata
  rw [runIn_bind_ok (runIn_get w)]
  dsimp only
  rcases Metadata.commit w.files d.metadataFile (Keyed.put username e w.metadata) with
    ⟨_ | ⟨⟩, _⟩ <;> rfl

/-- The metadata of a user are those in memory, or fresh ones. -/
@[simp] theorem runIn_metadataOf (username : String) (w : World) :
    (metadataOf username).runIn w = (.ok ((Keyed.find? username w.metadata).getD {}), w) := rfl

/-- The owner of a phone is the one that the metadata in memory give. -/
@[simp] theorem runIn_ownerOfPhone (phone : String) (w : World) :
    (ownerOfPhone phone).runIn w = (.ok (Metadata.ownerOfPhone phone w.metadata), w) := rfl

/-- Drawing an identifier gives the next one and counts it. -/
@[simp] theorem runIn_drawIdentifier (d : Deployment) (w : World) :
    (drawIdentifier d).runIn w =
      (.ok (d.sources.identifier w.drawn.identifiers),
        { w with drawn := { w.drawn with identifiers := w.drawn.identifiers + 1 } }) := rfl

/-- The code that is drawn next, after some digits were drawn. -/
def nextCode (d : Deployment) (length drawn : Nat) : String :=
  String.join ((List.range length).map fun i => toString (d.sources.codeDigit (drawn + i)))

/-- Drawing a code draws as many digits as it has. -/
@[simp] theorem runIn_drawCode (d : Deployment) (length : Nat) (w : World) :
    (drawCode d length).runIn w = (.ok (nextCode d length w.drawn.codeDigits),
      { w with drawn := { w.drawn with codeDigits := w.drawn.codeDigits + length } }) := rfl

/-- Drawing a salt gives the next one and counts it. -/
@[simp] theorem runIn_drawSalt (d : Deployment) (w : World) :
    (drawSalt d).runIn w =
      (.ok (d.sources.salt w.drawn.salts),
        { w with drawn := { w.drawn with salts := w.drawn.salts + 1 } }) := rfl

/-- Hashing a password draws a salt. -/
theorem runIn_hashPassword (d : Deployment) (password : String) (w : World) :
    (hashPassword d password).runIn w =
      ((Password.hash? (d.sources.salt w.drawn.salts) password).elim
          (.error Failure.unhashable) .ok,
        { w with drawn := { w.drawn with salts := w.drawn.salts + 1 } }) := by
  unfold hashPassword
  rw [runIn_bind_ok (runIn_drawSalt d w)]
  cases Password.hash? (d.sources.salt w.drawn.salts) password <;> rfl

/-- A call on a collaborator fails where the collaborator does, and is noted where it does not. -/
theorem runIn_emit (e : Effect) (w : World) :
    (emit e).runIn w =
      if w.failing.contains e.collaborator then
        (.error (.collaborator e.collaborator), w)
      else (.ok (), { w with effects := w.effects ++ [e] }) := by
  unfold emit
  rw [runIn_bind_ok (runIn_get w)]
  split <;> rfl

end Action

namespace Account

open AccountSidecar.Action

/-- A new password that is taken is not too long to be hashed. -/
theorem not_isTooLong_of_taken {password : String} (taken : newPasswordFault? password = none) :
    Password.isTooLong password = false := by
  unfold newPasswordFault? at taken
  split at taken
  · cases taken
  · split at taken
    · cases taken
    · rename_i fits
      exact Bool.eq_false_iff.mpr fits

/-- Checking a new password refuses what is at fault with it. -/
theorem runIn_checkNewPassword (password : String) (w : World) :
    (checkNewPassword password).runIn w =
      match newPasswordFault? password with
      | some e => (.error (.account e), w)
      | none => (.ok (), w) := by
  unfold checkNewPassword
  cases newPasswordFault? password <;> rfl

/-- An announcement comes to its end where both collaborators work. -/
theorem announcePassword_of_working (username password hash : String) {w : World}
    (restarter : .restarter ∉ w.failing) (passwordSync : .passwordSync ∉ w.failing) :
    (announcePassword username password hash).runIn w =
      (.ok (), { w with effects := w.effects ++ [.restart, .sync username password hash] }) := by
  unfold announcePassword
  rw [runIn_bind, runIn_emit, if_neg (by simpa [Effect.collaborator] using restarter)]
  dsimp only
  rw [runIn_emit, if_neg (by simpa [Effect.collaborator] using passwordSync)]
  simp

/-- An announcement fails where one of the collaborators does. -/
theorem announcePassword_of_failing (username password hash : String) {w : World}
    (failing : ¬ (.restarter ∉ w.failing ∧ .passwordSync ∉ w.failing)) :
    ∃ e w', (announcePassword username password hash).runIn w = (.error e, w') ∧
      w'.files = w.files ∧ w'.clock = w.clock := by
  unfold announcePassword
  rw [runIn_bind, runIn_emit]
  by_cases restarter : .restarter ∈ w.failing
  · rw [if_pos (by simpa [Effect.collaborator] using restarter)]
    exact ⟨_, _, rfl, rfl, rfl⟩
  · have passwordSync : .passwordSync ∈ w.failing :=
      Classical.byContradiction fun working => failing ⟨restarter, working⟩
    rw [if_neg (by simpa [Effect.collaborator] using restarter)]
    dsimp only
    rw [runIn_emit, if_pos (by simpa [Effect.collaborator] using passwordSync)]
    exact ⟨_, _, rfl, rfl, rfl⟩

end Account

/-- Giving a reply changes nothing. -/
theorem Operation.runIn_reply (a : Action Unit) (w : World) :
    (do a; pure Reply.done : Action Reply).runIn w =
      ((a.runIn w).1.map fun _ => .done, (a.runIn w).2) := by
  rw [Action.runIn_bind]
  rcases a.runIn w with ⟨_ | _, _⟩ <;> rfl

end AccountSidecar
