import AccountSidecar.Number.Shortest
import AccountSidecar.Template.Fault
import AccountSidecar.Text.Quoted

/-!
# Values of expressions

The values that expressions of a template have. The undefined value stands for everything that is
not there: it prints as nothing, counts as false and holds no items, but no operation takes it.
Text that has been escaped for markup is told from plain text.
-/

namespace AccountSidecar.Template

open Number (Binary64)

/-- A value of an expression. A `cursor` is the position of a running loop among its items, a
`method` is a function that belongs to a value, `itself` is the template. -/
inductive Datum where
  | undefined
  | nothing
  | bool (b : Bool)
  | integer (n : Int)
  | float (x : Binary64)
  | text (s : String)
  | escaped (s : String)
  | list (items : List Datum)
  | tuple (items : List Datum)
  | backwards (items : List Datum)
  | table (entries : List (Datum × Datum))
  | cursor (items : List Datum) (position : Nat)
  | method (owner : Datum) (key : String)
  | itself
  deriving Repr, Inhabited

namespace Datum

/-- The name of the type of a value, as faults tell it. -/
def typeName : Datum → String
  | .undefined => "Undefined"
  | .nothing => "NoneType"
  | .bool _ => "bool"
  | .integer _ => "int"
  | .float _ => "float"
  | .text _ => "str"
  | .escaped _ => "Markup"
  | .list _ => "list"
  | .tuple _ => "tuple"
  | .backwards _ => "list_reverseiterator"
  | .table _ => "dict"
  | .cursor _ _ => "LoopContext"
  | .method _ _ => "builtin_function_or_method"
  | .itself => "TemplateReference"

/-- Whether the value counts as true. -/
def isTrue : Datum → Bool
  | .undefined | .nothing => false
  | .bool b => b
  | .integer n => n != 0
  | .float x => !x.isZero
  | .text s | .escaped s => s != ""
  | .list items | .tuple items => !items.isEmpty
  | .table entries => !entries.isEmpty
  | .backwards _ | .cursor _ _ | .method _ _ | .itself => true

/-- The integer that a value is, where truth values count as zero and one. -/
def integer? : Datum → Option Int
  | .integer n => some n
  | .bool b => some (if b then 1 else 0)
  | _ => none

/-- The characters of a text, escaped or not. -/
def text? : Datum → Option String
  | .text s | .escaped s => some s
  | _ => none

mutual

/-- The text of a value inside a list, a tuple or a table. -/
def nested : Datum → String
  | .undefined => "Undefined"
  | .nothing => "None"
  | .bool b => if b then "True" else "False"
  | .integer n => toString n
  | .float x => x.text
  | .text s => Text.quoted s
  | .escaped s => "Markup(" ++ Text.quoted s ++ ")"
  | .list items => "[" ++ nestedItems items ++ "]"
  | .tuple items =>
    match items with
    | [d] => "(" ++ nested d ++ ",)"
    | items => "(" ++ nestedItems items ++ ")"
  | .backwards _ => "<list_reverseiterator object>"
  | .table entries => "\x7b" ++ nestedEntries entries ++ "\x7d"
  | .cursor items position =>
    "<LoopContext " ++ toString (position + 1) ++ "/" ++ toString items.length ++ ">"
  | .method _ key => "<built-in method " ++ key ++ ">"
  | .itself => "<TemplateReference None>"

/-- The texts of items with commas between them. -/
def nestedItems : List Datum → String
  | [] => ""
  | [d] => nested d
  | d :: rest => nested d ++ ", " ++ nestedItems rest

/-- The texts of keys and values with commas between them. -/
def nestedEntries : List (Datum × Datum) → String
  | [] => ""
  | [(k, v)] => nested k ++ ": " ++ nested v
  | (k, v) :: rest => nested k ++ ": " ++ nested v ++ ", " ++ nestedEntries rest

end

mutual

/-- Whether every integer of the value has few enough digits to be written. -/
def isWritable : Datum → Bool
  | .integer n => Number.isWritable n
  | .list items | .tuple items => areWritable items
  | .table entries => entriesWritable entries
  | _ => true

/-- Whether every item can be written. -/
def areWritable : List Datum → Bool
  | [] => true
  | d :: rest => isWritable d && areWritable rest

/-- Whether every key and every value of the entries can be written. -/
def entriesWritable : List (Datum × Datum) → Bool
  | [] => true
  | (k, v) :: rest => isWritable k && isWritable v && entriesWritable rest

end

/-- The quoted form of a value. -/
def display (d : Datum) : Except Fault String :=
  if d.isWritable then .ok d.nested else .error .tooManyDigits

/-- The text that a value prints as. -/
def print (d : Datum) : Except Fault String :=
  match d with
  | .undefined => .ok ""
  | .text s | .escaped s => .ok s
  | d => d.display

/-- The items that a value gives one after another: the characters of a text, the keys of a
table. -/
def items (d : Datum) : Except Fault (List Datum) :=
  match d with
  | .undefined => .ok []
  | .text s | .escaped s => .ok (s.toList.map fun c => .text (String.singleton c))
  | .list items | .tuple items | .backwards items => .ok items
  | .table entries => .ok (entries.map (·.1))
  | d => .error (.wrongType ("'" ++ d.typeName ++ "' object is not iterable"))

/-- Takes exactly as many items as there are targets for them. -/
def unpack (count : Nat) (d : Datum) : Except Fault (List Datum) :=
  match d.items with
  | .error _ =>
    .error (.wrongType ("cannot unpack non-iterable " ++ d.typeName ++ " object"))
  | .ok items =>
    if items.length = count then .ok items
    else if count < items.length then
      .error (.wrongValue ("too many values to unpack (expected " ++ toString count ++ ")"))
    else
      .error (.wrongValue ("not enough values to unpack (expected " ++ toString count ++ ", got " ++
        toString items.length ++ ")"))

end Datum

end AccountSidecar.Template
