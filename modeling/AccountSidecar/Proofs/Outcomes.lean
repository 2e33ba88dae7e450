import AccountSidecar.Proofs.Failures
import AccountSidecar.Proofs.TextFiles

/-!
# Outcomes of actions

A kind of worlds that an action never leaves, and what its value or its failure is in such a world,
whether it comes to its end or not (`Action.Yields`). The rules say what the elementary actions
yield where the users file holds text (`World.Sound`); what follows one another, a handler or a
function of a value yields follows from its parts.
-/

namespace AccountSidecar

open Storage

/-- Whether a failure is an error of the users file. -/
def Failure.IsOfUsers (e : Failure) : Prop := ∃ s, e = .users s ∧ s.isReported = true

/-- Whether a failure is an error of the metadata store. -/
def Failure.IsOfMetadata (e : Failure) : Prop := ∃ s, e = .metadata s ∧ s.isReported = true

/-- An error of the users file is reported. -/
theorem Failure.IsOfUsers.isReported {e : Failure} (own : e.IsOfUsers) : e.isReported = true := by
  obtain ⟨s, rfl, reported⟩ := own
  exact reported

/-- An error of the metadata store is reported. -/
theorem Failure.IsOfMetadata.isReported {e : Failure} (own : e.IsOfMetadata) :
    e.isReported = true := by
  obtain ⟨s, rfl, reported⟩ := own
  exact reported

/-- Whether a world has a users file that is text or can be made, and certain collaborators that
fail. -/
structure World.Sound (d : Deployment) (failing : List Collaborator) (w : World) : Prop where
  text : w.files.IsText d.usersFile
  /-- A users file without a name is the working directory. -/
  rooted : d.usersFile = [] → w.files.isDirectory [] = true
  failing : w.failing = failing

/-- A world is as sound as another one with the same files and the same failing collaborators. -/
theorem World.Sound.of_same {d : Deployment} {failing : List Collaborator} {w w' : World}
    (sound : w.Sound d failing) (files : w'.files = w.files) (same : w'.failing = w.failing) :
    w'.Sound d failing where
  text := files ▸ sound.text
  rooted := files ▸ sound.rooted
  failing := same.trans sound.failing

namespace Action

variable {α β : Type} {P : World → Prop} {good : α → Prop} {good' : β → Prop}
  {fine fine' : Failure → Prop} {d : Deployment} {failing : List Collaborator}

/-- Whether a result is a good value or a failure that is fine. -/
def EndsIn (good : α → Prop) (fine : Failure → Prop) : Except Failure α → Prop
  | .ok x => good x
  | .error e => fine e

/-- Whether an action never leaves a kind of worlds and ends there in a good value or in a failure
that is fine. -/
def Yields (P : World → Prop) (good : α → Prop) (fine : Failure → Prop) (a : Action α) : Prop :=
  ∀ w, P w → P (a.runIn w).2 ∧ EndsIn good fine (a.runIn w).1

/-- A good value is yielded. -/
theorem yields_pure {x : α} (holds : good x) : Yields P good fine (pure x) :=
  fun _ kind => ⟨kind, holds⟩

/-- A failure that is fine is yielded. -/
theorem yields_throw {e : Failure} (holds : fine e) : Yields P good fine (throw e : Action α) :=
  fun _ kind => ⟨kind, holds⟩

/-- Actions one after another yield what the second one yields for the good values of the first. -/
theorem yields_bind {a : Action α} {f : α → Action β} (first : Yields P good fine a)
    (second : ∀ x, good x → Yields P good' fine (f x)) : Yields P good' fine (a >>= f) := by
  intro w kind
  obtain ⟨kept, ended⟩ := first w kind
  rw [runIn_bind]
  rcases run : a.runIn w with ⟨e | x, w'⟩ <;> rw [run] at kept ended
  · exact ⟨kept, ended⟩
  · exact second x ended w' kept

/-- An action with a handler yields what both yield. -/
theorem yields_tryCatch {a : Action α} {handler : Failure → Action α} (inner : Yields P good fine a)
    (outer : ∀ e, fine e → Yields P good fine' (handler e)) :
    Yields P good fine' (tryCatch a handler) := by
  intro w kind
  obtain ⟨kept, ended⟩ := inner w kind
  rw [runIn_tryCatch]
  rcases run : a.runIn w with ⟨e | x, w'⟩ <;> rw [run] at kept ended
  · exact outer e ended w' kept
  · exact ⟨kept, ended⟩

/-- What an action yields it yields in a weaker sense. -/
theorem Yields.mono {a : Action α} {better : α → Prop} {finer : Failure → Prop}
    (yields : Yields P better finer a) (values : ∀ x, better x → good x)
    (failures : ∀ e, finer e → fine e) : Yields P good fine a := by
  intro w kind
  obtain ⟨kept, ended⟩ := yields w kind
  refine ⟨kept, ?_⟩
  rcases run : (a.runIn w).1 with e | x <;> rw [run] at ended
  · exact failures e ended
  · exact values x ended

/-- An action that leaves files and collaborators alone and comes to its end yields its value. -/
theorem yields_of_run {a : Action α} {x : World → α} {w' : World → World}
    (run : ∀ w, a.runIn w = (.ok (x w), w' w)) (files : ∀ w, (w' w).files = w.files)
    (same : ∀ w, (w' w).failing = w.failing) :
    Yields (World.Sound d failing) (fun _ => True) fine a := by
  intro w sound
  rw [run]
  exact ⟨sound.of_same (files w) (same w), trivial⟩

/-- Looking at the world comes to its end. -/
theorem yields_get : Yields P (fun _ => True) fine (get : Action World) :=
  fun _ kind => ⟨kind, trivial⟩

/-- Looking at the clock comes to its end. -/
theorem yields_now : Yields P (fun _ => True) fine now := fun _ kind => ⟨kind, trivial⟩

/-- Looking up metadata comes to its end. -/
theorem yields_metadataOf (username : String) :
    Yields P (fun _ => True) fine (metadataOf username) := fun _ kind => ⟨kind, trivial⟩

/-- Looking for the owner of a phone comes to its end. -/
theorem yields_ownerOfPhone (phone : String) :
    Yields P (fun _ => True) fine (ownerOfPhone phone) := fun _ kind => ⟨kind, trivial⟩

/-- A change of the tables comes to its end and leaves files and collaborators alone. -/
theorem yields_changeTables (f : State.Tables → State.Tables) :
    Yields (World.Sound d failing) (fun _ => True) fine (changeTables f) :=
  yields_of_run (runIn_changeTables f) (fun _ => rfl) fun _ => rfl

/-- Drawing an identifier comes to its end and leaves files and collaborators alone. -/
theorem yields_drawIdentifier :
    Yields (World.Sound d failing) (fun _ => True) fine (drawIdentifier d) :=
  yields_of_run (runIn_drawIdentifier d) (fun _ => rfl) fun _ => rfl

/-- Drawing a code comes to its end and leaves files and collaborators alone. -/
theorem yields_drawCode (length : Nat) :
    Yields (World.Sound d failing) (fun _ => True) fine (drawCode d length) :=
  yields_of_run (runIn_drawCode d length) (fun _ => rfl) fun _ => rfl

/-- A check of the tables fails with an account error, if at all. -/
theorem yields_ofCheck (check : Except AccountError α) :
    Yields P (fun _ => True) (fun e => e.isReported = true) (ofCheck check) := by
  cases check with
  | ok x => exact yields_pure trivial
  | error e => exact yields_throw rfl

/-- A collaborator that works is called. -/
theorem yields_emit (e : Effect) : Yields (World.Sound d []) (fun _ => True) fine (emit e) := by
  intro w sound
  have works : w.failing.contains e.collaborator = false := by
    rw [sound.failing]
    rfl
  rw [runIn_emit, if_neg (Bool.eq_false_iff.mp works)]
  exact ⟨sound.of_same rfl rfl, trivial⟩

/-- Looking up a user fails with an error of the users file, if at all. -/
theorem yields_findUser (username : String) :
    Yields (World.Sound d failing) (fun _ => True) Failure.IsOfUsers (findUser d username) := by
  intro w sound
  rw [runIn_findUser]
  refine ⟨sound, ?_⟩
  unfold World.find
  cases read : Users.load w.files d.usersFile with
  | error e => exact ⟨e, rfl, Users.load_reported sound.text read⟩
  | ok all => trivial

/-- Writing credentials fails with an error of the users file, if at all. -/
theorem yields_upsertUser (c : Users.Credential) :
    Yields (World.Sound d failing) (fun _ => True) Failure.IsOfUsers (upsertUser d c) := by
  intro w sound
  rw [runIn_upsertUser]
  have text := Users.isText_upsert sound.text d.usersFile c
  have rooted : d.usersFile = [] →
      (Users.upsert w.files d.usersFile c).2.isDirectory [] = true := by
    intro nameless
    rw [nameless, Users.upsert_of_rooted (sound.rooted nameless) c]
    exact sound.rooted nameless
  refine ⟨⟨text, rooted, sound.failing⟩, ?_⟩
  rcases put : Users.upsert w.files d.usersFile c with ⟨e | _, files⟩
  · exact ⟨e, rfl, Users.upsert_reported (fun _ => sound.text) sound.rooted put⟩
  · trivial

/-- A user who must exist is found, or the failure is reported. -/
theorem yields_requireUser (username : String) :
    Yields (World.Sound d failing) (fun _ => True) (fun e => e.isReported = true)
      (requireUser d username) := by
  refine yields_bind ((yields_findUser username).mono (fun _ _ => trivial)
    fun _ => Failure.IsOfUsers.isReported) fun found _ => ?_
  cases found with
  | some c => exact yields_pure trivial
  | none => exact yields_throw rfl

/-- Writing metadata fails with an error of the metadata store, if at all. -/
theorem yields_commitMetadata (named : d.metadataFile ≠ []) (username : String)
    (e : Metadata.Entry) :
    Yields (World.Sound d failing) (fun _ => True) Failure.IsOfMetadata
      (commitMetadata d username e) := by
  intro w sound
  rw [runIn_commitMetadata]
  have text := Metadata.isText_commit sound.text d.metadataFile (Keyed.put username e w.metadata)
  have rooted : d.usersFile = [] → (Metadata.commit w.files d.metadataFile
      (Keyed.put username e w.metadata)).2.isDirectory [] = true := by
    intro nameless
    rw [FileTree.isDirectory_congr (FileTree.node?_congr (Metadata.commit_kept w.files _ named.symm
      (by simp [Location.temporary])))]
    exact sound.rooted nameless
  rcases put : Metadata.commit w.files d.metadataFile (Keyed.put username e w.metadata) with
    ⟨f | _, files⟩ <;> rw [put] at text rooted
  · exact ⟨⟨text, rooted, sound.failing⟩, f, rfl, Metadata.commit_reported named put⟩
  · exact ⟨⟨text, rooted, sound.failing⟩, trivial⟩

/-- A password that is not too long is hashed under salts that are ones. -/
theorem yields_hashPassword (salts : ∀ n, (Password.Salt.parse? (d.sources.salt n)).isSome)
    {password : String} (fits : Password.isTooLong password = false) :
    Yields (World.Sound d failing) (fun _ => True) fine (hashPassword d password) := by
  intro w sound
  rw [runIn_hashPassword]
  obtain ⟨hash, hashed⟩ := Password.exists_hash? fits (salts w.drawn.salts)
  rw [hashed]
  exact ⟨sound.of_same rfl rfl, trivial⟩

end Action

end AccountSidecar
