import AccountSidecar.Metadata.Entry
import AccountSidecar.Storage.FileTree

/-!
# The metadata file

The metadata of all users is read once and kept in memory. A change writes the whole new state to
a temporary file and moves it over the metadata file; memory follows only when the move is done.
-/

namespace AccountSidecar.Metadata

open Storage

/-- Why the metadata file could not be opened or changed. -/
inductive StoreError where
  /-- The directory of the file cannot be made. -/
  | noDirectory
  /-- The file cannot be read or is malformed. -/
  | malformed (file : String)
  /-- The file is not UTF-8 text. -/
  | undecodable
  /-- A number in the file is too long to be a text. -/
  | numberTooLong
  /-- Values in the file stand inside one another deeper than the interpreter goes. -/
  | tooDeep
  /-- Whether there is a file is not told. -/
  | unseen
  /-- The file has no name to write beside. -/
  | nameless
  /-- The temporary file cannot be written. -/
  | unwritable
  /-- The temporary file cannot be moved into place. -/
  | unmovable
  deriving DecidableEq, Repr

/-- What the error says. -/
def StoreError.message : StoreError → String
  | .noDirectory => "mkdir toml dir"
  | .malformed file => "decode " ++ file
  | .undecodable => "metadata file is not UTF-8 text"
  | .numberTooLong => "number too long for a text field"
  | .tooDeep => "values nest too deep"
  | .unseen => "metadata file cannot be seen"
  | .nameless => "metadata file has no name"
  | .unwritable => "write temp toml"
  | .unmovable => "rename toml"

/-- Whether the store reports the error as its own; the others are faults of the data. -/
def StoreError.isReported : StoreError → Bool
  | .undecodable | .numberTooLong | .tooDeep | .unseen | .nameless => false
  | _ => true

/-- The calls that the interpreter's limit of 1000 leaves to a reader where nothing else is said. -/
def usualCalls : Nat := 950

/-- The entries that the content of the file gives, read with as many calls as `calls` says. -/
def decode (calls : Nat) (file : Location) (content : ByteArray) :
    Except StoreError (Keyed Entry) :=
  match String.fromUTF8? content with
  | none => .error .undecodable
  | some text =>
    match parse calls text with
    | .ok entries => .ok entries
    | .error .malformed => .error (.malformed file.name)
    | .error .numberTooLong => .error .numberTooLong
    | .error .tooDeep => .error .tooDeep

/-- The entries of the file; none where there is no file. -/
def load (calls : Nat) (files : FileTree) (file : Location) : Except StoreError (Keyed Entry) :=
  match files.look file with
  | .hidden => .error .unseen
  | .nothing => .ok []
  | .unreadable => .error (.malformed file.name)
  | .content content => decode calls file content

/-- Opens the file: makes its directory and reads its entries with as many calls as `calls` says. -/
def openAt (calls : Nat) (files : FileTree) (file : Location) :
    Except StoreError (Keyed Entry) × FileTree :=
  match files.makeDirectories? file.parent with
  | none => (.error .noDirectory, files)
  | some files => (load calls files file, files)

/-- Writes entries beside the file and moves them into place. Where the move fails the temporary
file stays. -/
def commit (files : FileTree) (file : Location) (entries : Keyed Entry) :
    Except StoreError Unit × FileTree :=
  if file.isEmpty then (.error .nameless, files)
  else
    match files.write? file.temporary (print entries).toUTF8 with
    | none => (.error .unwritable, files)
    | some files =>
      match files.rename? file.temporary file with
      | none => (.error .unmovable, files)
      | some files => (.ok (), files)

end AccountSidecar.Metadata
