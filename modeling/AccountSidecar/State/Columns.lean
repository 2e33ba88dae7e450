import AccountSidecar.State.Tables
import AccountSidecar.Value

/-!
# Columns of the ephemeral state

The fields of a record by name. A record can be shown as a table of its fields, and some of its
fields can be changed by name.
-/

namespace AccountSidecar.State

/-- A field of a record. -/
structure Column (α : Type) where
  name : String
  get : α → Value
  set : α → Value → α

/-- Records whose fields have names; some expire. -/
class Row (α : Type) where
  columns : List (Column α)
  /-- Whether a record is past its time, for records that have one. -/
  isExpired? : Option (α → Int → Bool)

/-- The integer that a value is, or zero. -/
def wholeOf : Value → Int
  | .integer n => n
  | _ => 0

/-- Sessions expire. -/
instance : Row Session where
  columns := [
    ⟨"username", fun s => .text s.username, fun s v => { s with username := v.plain }⟩,
    ⟨"created_at", fun s => .integer s.createdAt, fun s v => { s with createdAt := wholeOf v }⟩,
    ⟨"expires_at", fun s => .integer s.expiresAt, fun s v => { s with expiresAt := wholeOf v }⟩]
  isExpired? := some Session.isExpired

/-- Reset tokens expire. -/
instance : Row ResetToken where
  columns := [
    ⟨"username", fun t => .text t.username, fun t v => { t with username := v.plain }⟩,
    ⟨"expires_at", fun t => .integer t.expiresAt, fun t v => { t with expiresAt := wholeOf v }⟩,
    ⟨"used", fun t => .bool t.used, fun t v => { t with used := v.isTrue }⟩]
  isExpired? := some ResetToken.isExpired

/-- Queued signups do not expire. -/
instance : Row PendingSignup where
  columns := [
    ⟨"username", fun s => .text s.username, fun s v => { s with username := v.plain }⟩,
    ⟨"email", fun s => .text s.email, fun s v => { s with email := v.plain }⟩,
    ⟨"password_hash", fun s => .text s.passwordHash,
      fun s v => { s with passwordHash := v.plain }⟩,
    ⟨"created_at", fun s => .integer s.createdAt, fun s v => { s with createdAt := wholeOf v }⟩,
    ⟨"approved", fun s => .bool s.approved, fun s v => { s with approved := v.isTrue }⟩]
  isExpired? := none

/-- Codes sent by text message expire. -/
instance : Row SmsCode where
  columns := [
    ⟨"username", fun c => .text c.username, fun c v => { c with username := v.plain }⟩,
    ⟨"code", fun c => .text c.code, fun c v => { c with code := v.plain }⟩,
    ⟨"expires_at", fun c => .integer c.expiresAt, fun c v => { c with expiresAt := wholeOf v }⟩,
    ⟨"used", fun c => .bool c.used, fun c v => { c with used := v.isTrue }⟩]
  isExpired? := some SmsCode.isExpired

namespace Row

variable {α : Type} [Row α]

/-- The fields of a record. -/
def fields (row : α) : Keyed Value := columns.map fun (c : Column α) => (c.name, c.get row)

/-- Changes the field with a name, if there is one. -/
def set? (row : α) (change : String × Value) : Option α :=
  (columns.find? fun (c : Column α) => c.name = change.1).map fun c => c.set row change.2

/-- Changes fields of the record under a key: whether there is a record, and the table afterwards.
Nothing comes of changes to a field that there is not. -/
def update? (key : String) (changes : Keyed Value) (table : Keyed α) : Option (Bool × Keyed α) :=
  match Keyed.find? key table with
  | none => some (false, table)
  | some row => (changes.foldlM set? row).map fun row => (true, Keyed.put key row table)

end Row

/-- All records of all tables as values. -/
def Tables.toValue (t : Tables) : Value :=
  let shown {α : Type} [Row α] (table : Keyed α) : Value :=
    .table (Keyed.mapValues (fun row => .table (Row.fields row)) table)
  .table [("sessions", shown t.sessions), ("reset_tokens", shown t.resetTokens),
    ("signups", shown t.signups), ("sms_codes", shown t.smsCodes)]

end AccountSidecar.State
