import AccountSidecar.Password.Bcrypt
import AccountSidecar.Proofs.Replacement
import AccountSidecar.Proofs.UsersText
import AccountSidecar.World

/-!
# The users file after a change

A change of the users file either fails and keeps the file or leaves the text of the changed
credentials (`upsert_cases`). What is found afterwards follows from what was found before: the
changed credentials for their own user, and what was there for everybody else, both as they settle.
-/

namespace AccountSidecar

open Storage

namespace Users

/-- Text that is written is read back. -/
theorem fromUTF8?_toUTF8 (s : String) : String.fromUTF8? s.toUTF8 = some s := by
  unfold String.fromUTF8?
  exact dif_pos s.isValidUTF8

/-- A printed file is read as the credentials that its text holds. -/
theorem load_of_printed {files : FileTree} {file : Location} {all : List Credential}
    (printed : files.look file = .content (print all).toUTF8) :
    load files file = .ok (parse (print all)) := by
  simp only [load, printed, fromUTF8?_toUTF8]

/-- What is read depends on the file alone. -/
theorem load_congr {files files' : FileTree} {file : Location}
    (kept : files'.place file = files.place file) : load files' file = load files file := by
  unfold load
  rw [FileTree.look_congr kept]

/-- All that is read from the file is legible. -/
theorem load_legible {files : FileTree} {file : Location} {all : List Credential}
    (read : load files file = .ok all) : ∀ c ∈ all, c.Legible := by
  unfold load at read
  split at read
  · cases read
  · obtain rfl := Except.ok.inj read
    simp
  · cases read
  · split at read
    · rename_i text decoded
      obtain rfl := Except.ok.inj read
      exact parse_legible text
    · cases read

/-- Whether the credentials of a file were put in place of others in the text of another. -/
def Rewritten (before after : FileTree) (file : Location) (c : Credential) : Prop :=
  ∃ all, load before file = .ok all ∧
    after.look file = .content (print (replaceOrAppend c all)).toUTF8

/-- A change of credentials rewrites the file, or fails and keeps it. -/
theorem upsert_cases (files : FileTree) (file : Location) (c : Credential) :
    (∃ t, isValidUsername c.username = true ∧ upsert files file c = (.ok (), t) ∧
      Rewritten files t file c) ∨
    ∃ e t, upsert files file c = (.error e, t) ∧ t.place file = files.place file := by
  unfold upsert
  by_cases valid : isValidUsername c.username = true
  · simp only [valid, Bool.not_true, Bool.false_eq_true, if_false]
    cases read : load files file with
    | error e => exact .inr ⟨e, files, rfl, rfl⟩
    | ok all =>
      cases written : commit files file (print (replaceOrAppend c all)).toUTF8 with
      | mk result t =>
        cases result with
        | error e => exact .inr ⟨e, t, written, place_of_failed_commit written⟩
        | ok done => exact .inl ⟨t, trivial, written, all, read, look_of_commit written⟩
  · exact .inr ⟨.invalidUsername c.username, files, by simp [valid], rfl⟩

/-- A change that fails keeps what is neither the temporary file nor on the way to the file. -/
theorem place_beside_failed_upsert {files t : FileTree} {file l : Location} {c : Credential}
    {e : StoreError} (failed : upsert files file c = (.error e, t)) (other : l ≠ file.temporary)
    (aside : ¬ l <+: file.parent) : t.place l = files.place l := by
  unfold upsert at failed
  split at failed
  · rw [← (Prod.mk.inj failed).2]
  · split at failed
    · rw [← (Prod.mk.inj failed).2]
    · exact place_beside_failed_commit failed other aside

/-- A change that was done was one under a valid name and rewrote the file. -/
theorem rewritten_of_upsert {files t : FileTree} {file : Location} {c : Credential}
    (done : upsert files file c = (.ok (), t)) :
    isValidUsername c.username = true ∧ Rewritten files t file c := by
  rcases upsert_cases files file c with ⟨t', valid, written, changed⟩ | ⟨e, t', failed, -⟩
  · obtain rfl := (Prod.mk.inj (written.symm.trans done)).2
    exact ⟨valid, changed⟩
  · cases (Prod.mk.inj (failed.symm.trans done)).1

/-- Credentials under a valid name are written where the file can be read and replaced. -/
theorem upsert_of_replaceable {files t : FileTree} {file : Location} {c : Credential}
    {all : List Credential} (valid : isValidUsername c.username = true)
    (read : load files file = .ok all) (named : file ≠ [])
    (made : files.makeDirectories? file.parent = some t) (able : t.Replaceable file) :
    upsert files file c =
      (.ok (), t.replaced file (print (replaceOrAppend c all)).toUTF8) := by
  simp [upsert, valid, read, commit_of_replaceable named made able]

/-- After a change of credentials any other change under a valid name works. -/
theorem upsert_after_upsert {files t : FileTree} {file : Location} {c d : Credential}
    (done : upsert files file c = (.ok (), t)) (valid : isValidUsername d.username = true) :
    ∃ u, upsert t file d = (.ok (), u) := by
  obtain ⟨named, all, read, -⟩ := rewritten_of_upsert done
  have committed : commit files file (print (replaceOrAppend c all)).toUTF8 = (.ok (), t) := by
    simpa [upsert, named, read] using done
  obtain ⟨u, again⟩ := commit_after_commit committed
    (print (replaceOrAppend d (parse (print (replaceOrAppend c all))))).toUTF8
  refine ⟨u, ?_⟩
  rw [upsert, load_of_printed (look_of_commit committed)]
  simpa [valid] using again

end Users

namespace World

variable {d : Deployment} {w w' : World} {username : String}

/-- What is found for a user in the users file. -/
def find (d : Deployment) (w : World) (username : String) :
    Except Users.StoreError (Option Users.Credential) :=
  (Users.load w.files d.usersFile).map (Users.lookup? username)

/-- What is found depends on the users file alone. -/
theorem find_of_kept (kept : w'.files.place d.usersFile = w.files.place d.usersFile)
    (username : String) : w'.find d username = w.find d username := by
  rw [find, find, Users.load_congr kept]

/-- Somebody who is found is looked up in the credentials of the file. -/
theorem lookup?_of_find {found : Option Users.Credential} (seen : w.find d username = .ok found) :
    ∃ all, Users.load w.files d.usersFile = .ok all ∧ Users.lookup? username all = found := by
  unfold find at seen
  cases read : Users.load w.files d.usersFile with
  | error e => rw [read] at seen; cases seen
  | ok all =>
    rw [read] at seen
    exact ⟨all, rfl, Except.ok.inj seen⟩

/-- Credentials that were found are those of the user, and legible. -/
theorem legible_of_find {c : Users.Credential} (seen : w.find d username = .ok (some c)) :
    c.username = username ∧ c.Legible := by
  obtain ⟨all, read, found⟩ := lookup?_of_find seen
  obtain ⟨own, among⟩ := Users.lookup?_eq_some found
  exact ⟨own, Users.load_legible read c among⟩

/-- Changed credentials are found as they settle. -/
theorem find_of_rewritten_self {c before after : Users.Credential}
    (changed : Users.Rewritten w.files w'.files d.usersFile c) (writable : c.IsWritable)
    (seen : w.find d c.username = .ok (some before)) (back : c.settled = some after) :
    w'.find d c.username = .ok (some after) := by
  obtain ⟨all, read, printed⟩ := changed
  obtain ⟨all', read', found⟩ := lookup?_of_find seen
  obtain rfl : all = all' := Except.ok.inj (read.symm.trans read')
  rw [find, Users.load_of_printed printed]
  exact congrArg Except.ok
    (Users.lookup?_replaced_self (Users.load_legible read) writable found back)

/-- A change of one user leaves what is found for another as it settles. -/
theorem find_of_rewritten_of_ne {c before after : Users.Credential}
    (changed : Users.Rewritten w.files w'.files d.usersFile c) (writable : c.IsWritable)
    (other : c.username ≠ username) (seen : w.find d username = .ok (some before))
    (back : before.settled = some after) : w'.find d username = .ok (some after) := by
  obtain ⟨all, read, printed⟩ := changed
  obtain ⟨all', read', found⟩ := lookup?_of_find seen
  obtain rfl : all = all' := Except.ok.inj (read.symm.trans read')
  rw [find, Users.load_of_printed printed]
  exact congrArg Except.ok
    (Users.lookup?_replaced_of_ne (Users.load_legible read) writable other found back)

end World

/-- A deployment with its two files in one directory, identifiers that count in letters and a single
salt. -/
def Deployment.sample (requireApproval : Bool) : Deployment where
  sources := {
    sessionToken := fun _ => ""
    identifier := fun n => String.ofList (List.replicate n 'a')
    salt := fun _ => "$2b$04$......................"
    codeDigit := fun _ => 0
    totpSecret := fun _ => "" }
  usersFile := ["users"]
  metadataFile := ["metadata"]
  requireApproval

/-- The identifiers of the sample are distinct. -/
theorem Deployment.sample_identifiers (requireApproval : Bool) :
    Function.Injective (sample requireApproval).sources.identifier := by
  intro m n same
  have letters := congrArg (fun s => s.toList.length) same
  simpa [sample] using letters

/-- The salt of the sample is one. -/
theorem Deployment.sample_salt (requireApproval : Bool) (n : Nat) :
    (Password.Salt.parse? ((sample requireApproval).sources.salt n)).isSome :=
  (by decide : (Password.Salt.parse? "$2b$04$......................").isSome = true)

/-- A world whose users file holds some credentials, with nothing else in it. -/
def World.sample (credentials : List Users.Credential) : World where
  files := FileTree.empty.set ["users"] (.file (Users.print credentials).toUTF8)

/-- What is found in the sample is what its text holds. -/
theorem World.find_sample (requireApproval : Bool) (credentials : List Users.Credential)
    (username : String) : (sample credentials).find (.sample requireApproval) username =
      .ok (Users.lookup? username (Users.parse (Users.print credentials))) := by
  have printed : (sample credentials).files.look ["users"] =
      .content (Users.print credentials).toUTF8 := rfl
  rw [find, show (Deployment.sample requireApproval).usersFile = ["users"] from rfl,
    Users.load_of_printed printed]
  rfl

/-- Credentials under a valid name are written into the sample. -/
theorem World.upsert_sample (credentials : List Users.Credential) {c : Users.Credential}
    (valid : Users.isValidUsername c.username = true) :
    ∃ t, Users.upsert (sample credentials).files ["users"] c = (.ok (), t) := by
  have printed : (sample credentials).files.look ["users"] =
      .content (Users.print credentials).toUTF8 := rfl
  exact ⟨_, Users.upsert_of_replaceable valid (Users.load_of_printed printed)
    (List.cons_ne_nil _ _) rfl ⟨rfl, rfl, rfl⟩⟩

end AccountSidecar
