import AccountSidecar.Storage.FileTree
import AccountSidecar.Text.Quoted
import AccountSidecar.Users.Credential

/-!
# The users file

Every lookup reads the file anew, since others may edit it. A change reads all credentials, puts
the new ones in place, writes everything to a temporary file and moves that over the users file, so
the users file always holds a complete state.
-/

namespace AccountSidecar.Users

open Storage

/-- Why the users file could not be read or changed. -/
inductive StoreError where
  /-- What stands there cannot be read as a file. -/
  | unreadable
  /-- The file is not UTF-8 text. -/
  | undecodable
  /-- Whether there is a file is not told. -/
  | unseen
  /-- The file has no name to write beside. -/
  | nameless
  /-- The new content could not be put in place. -/
  | unwritable
  /-- The username cannot be written. -/
  | invalidUsername (username : String)
  deriving DecidableEq, Repr

/-- What the error says. -/
def StoreError.message : StoreError → String
  | .unreadable => "read users file"
  | .undecodable => "users file is not UTF-8 text"
  | .unseen => "users file cannot be seen"
  | .nameless => "users file has no name"
  | .unwritable => "write users file"
  | .invalidUsername username => "invalid username: " ++ Text.quoted username

/-- Whether the store reports the error as its own; the others are faults of the data. -/
def StoreError.isReported : StoreError → Bool
  | .undecodable | .unseen | .nameless => false
  | _ => true

/-- All credentials of the file; none where there is no file. -/
def load (files : FileTree) (file : Location) : Except StoreError (List Credential) :=
  match files.look file with
  | .hidden => .error .unseen
  | .nothing => .ok []
  | .unreadable => .error .unreadable
  | .content content =>
    match String.fromUTF8? content with
    | some text => .ok (parse text)
    | none => .error .undecodable

/-- Writes content beside the file and moves it into place. Where the last step fails the
temporary file stays. -/
def commit (files : FileTree) (file : Location) (content : ByteArray) :
    Except StoreError Unit × FileTree :=
  if file.isEmpty then (.error .nameless, files)
  else
    match files.makeDirectories? file.parent with
    | none => (.error .unwritable, files)
    | some files =>
      match files.write? file.temporary content with
      | none => (.error .unwritable, files)
      | some files =>
        match files.rename? file.temporary file with
        | none => (.error .unwritable, files)
        | some files => (.ok (), files)

/-- Replaces the credentials of a user or appends them. -/
def upsert (files : FileTree) (file : Location) (c : Credential) :
    Except StoreError Unit × FileTree :=
  if !isValidUsername c.username then (.error (.invalidUsername c.username), files)
  else
    match load files file with
    | .error e => (.error e, files)
    | .ok credentials => commit files file (print (replaceOrAppend c credentials)).toUTF8

end AccountSidecar.Users
