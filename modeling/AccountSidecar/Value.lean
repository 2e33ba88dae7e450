import AccountSidecar.Calendar
import AccountSidecar.Keyed
import AccountSidecar.Number.Integer
import AccountSidecar.Number.Shortest

/-!
# Values of structured documents

The one value type for everything that a structured document can hold, whatever its syntax. A
table keeps its keys in the order of their first appearance. Each value has a plain text, which is
what a field that must be text takes, and a nested text, which is how it looks inside a list or a
table.
-/

namespace AccountSidecar

open Number (Binary64)

/-- A value of a structured document. -/
inductive Value where
  | null
  | bool (b : Bool)
  | integer (n : Int)
  | float (x : Binary64)
  | text (s : String)
  | moment (m : Moment)
  | list (items : List Value)
  | table (entries : List (String × Value))
  deriving Repr, Inhabited

namespace Value

/-- Whether the value counts as true: everything but null, false, zero and what is empty. -/
def isTrue : Value → Bool
  | .null => false
  | .bool b => b
  | .integer n => n != 0
  | .float x => !x.isZero
  | .text s => s != ""
  | .moment _ => true
  | .list items => !items.isEmpty
  | .table entries => !entries.isEmpty

/-- The text of a value without parts, where text itself is quoted. -/
def leafText : Value → String
  | .null => "None"
  | .bool b => if b then "True" else "False"
  | .integer n => toString n
  | .float x => x.text
  | .text s => Text.quoted s
  | .moment m => m.constructorForm
  | .list _ => "[]"
  | .table _ => "\x7b\x7d"

mutual

/-- The text of a value inside a list or a table. -/
def nested : Value → String
  | .list items => "[" ++ nestedItems items ++ "]"
  | .table entries => "\x7b" ++ nestedEntries entries ++ "\x7d"
  | .null => leafText .null
  | .bool b => leafText (.bool b)
  | .integer n => leafText (.integer n)
  | .float x => leafText (.float x)
  | .text s => leafText (.text s)
  | .moment m => leafText (.moment m)

/-- The texts of items with commas between them. -/
def nestedItems : List Value → String
  | [] => ""
  | [v] => nested v
  | v :: rest => nested v ++ ", " ++ nestedItems rest

/-- The texts of keys and values with commas between them. -/
def nestedEntries : List (String × Value) → String
  | [] => ""
  | [(k, v)] => Text.quoted k ++ ": " ++ nested v
  | (k, v) :: rest => Text.quoted k ++ ": " ++ nested v ++ ", " ++ nestedEntries rest

end

/-- The text that a value gives where text is wanted. -/
def plain : Value → String
  | .text s => s
  | .moment m => m.plain
  | v => nested v

mutual

/-- How many lists and tables stand inside one another at the deepest place of a value. -/
def depth : Value → Nat
  | .list items => itemsDepth items + 1
  | .table entries => entriesDepth entries + 1
  | .null | .bool _ | .integer _ | .float _ | .text _ | .moment _ => 0

/-- The depth of the deepest item. -/
def itemsDepth : List Value → Nat
  | [] => 0
  | v :: rest => max (depth v) (itemsDepth rest)

/-- The depth of the deepest entry. -/
def entriesDepth : List (String × Value) → Nat
  | [] => 0
  | (_, v) :: rest => max (depth v) (entriesDepth rest)

end

mutual

/-- Whether every integer of the value has few enough digits to be written. -/
def isWritable : Value → Bool
  | .integer n => Number.isWritable n
  | .list items => areWritable items
  | .table entries => entriesWritable entries
  | .null | .bool _ | .float _ | .text _ | .moment _ => true

/-- Whether every item can be written. -/
def areWritable : List Value → Bool
  | [] => true
  | v :: rest => isWritable v && areWritable rest

/-- Whether every value of the entries can be written. -/
def entriesWritable : List (String × Value) → Bool
  | [] => true
  | (_, v) :: rest => isWritable v && entriesWritable rest

end

end Value

end AccountSidecar
