import AccountSidecar.Keyed
import AccountSidecar.Toml.Reader
import AccountSidecar.Toml.Writer

/-!
# Metadata of users

What is kept about a user beside the credentials, and the document that holds it for all users: one
table a user, with empty fields left out.
-/

namespace AccountSidecar.Metadata

/-- What is kept about a user beside the credentials. -/
structure Entry where
  name : String := ""
  role : String := ""
  phone : String := ""
  approved : Bool := false
  deriving DecidableEq, Repr, Inhabited

/-- Why a document gave no metadata. -/
inductive DecodeError where
  | malformed
  | numberTooLong
  /-- Values stand inside one another deeper than they are read or made into texts. -/
  | tooDeep
  deriving DecidableEq, Repr

namespace Entry

/-- The text of a field of a table; empty where the field is missing. Every list and every table
around a part of the value takes one call. -/
def textField (calls : Nat) (fields : Keyed Value) (key : String) : Except DecodeError String :=
  match Keyed.find? key fields with
  | none => .ok ""
  | some v =>
    if calls < v.depth then .error .tooDeep
    else if v.isWritable then .ok v.plain
    else .error .numberTooLong

/-- The entry that a table holds, its texts made with as many calls as `calls` says. Fields of other
types give their text; other keys are ignored. -/
def ofTableWithin (calls : Nat) (fields : Keyed Value) : Except DecodeError Entry := do
  let name ← textField calls fields "name"
  let role ← textField calls fields "role"
  let phone ← textField calls fields "phone"
  let approved := ((Keyed.find? "approved" fields).map Value.isTrue).getD false
  .ok { name, role, phone, approved }

/-- The entry that a table holds, however deep its values. -/
def ofTable (fields : Keyed Value) : Except DecodeError Entry :=
  ofTableWithin (Value.entriesDepth fields) fields

/-- A text field to write, unless it is empty. -/
def writtenText (key value : String) : Keyed Toml.Field :=
  if value = "" then [] else [(key, .text value)]

/-- The fields to write: those that are not empty. -/
def written (e : Entry) : Keyed Toml.Field :=
  writtenText "name" e.name ++ writtenText "role" e.role ++ writtenText "phone" e.phone ++
    if e.approved then [("approved", .flag true)] else []

end Entry

/-- The entries of a document: those of its tables. -/
def ofDocument (calls : Nat) : Keyed Value → Except DecodeError (Keyed Entry)
  | [] => .ok []
  | (username, .table fields) :: rest => do
    let e ← Entry.ofTableWithin calls fields
    let more ← ofDocument calls rest
    .ok ((username, e) :: more)
  | _ :: rest => ofDocument calls rest

/-- The entries that a text holds, read with as many calls as `calls` says. -/
def parse (calls : Nat) (text : String) : Except DecodeError (Keyed Entry) :=
  match Toml.read calls text with
  | .error .malformed => .error .malformed
  | .error .numberTooLong => .error .numberTooLong
  | .error .tooDeep => .error .tooDeep
  | .ok document => ofDocument calls document

/-- The text that holds the entries. -/
def print (entries : Keyed Entry) : String := Toml.write (Keyed.mapValues Entry.written entries)

/-- The first user with a phone; empty where there is none, as for the empty phone. -/
def ownerOfPhone (phone : String) (entries : Keyed Entry) : String :=
  if phone = "" then ""
  else
    match List.find? (fun e => e.2.phone = phone) entries with
    | some e => e.1
    | none => ""

end AccountSidecar.Metadata
