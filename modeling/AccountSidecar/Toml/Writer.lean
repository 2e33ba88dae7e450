import AccountSidecar.Text.Quoted
import AccountSidecar.Toml.Scalar

/-!
# Writing TOML

A writer for documents of named tables whose fields are texts and truth values: each table under
its header, one field a line, an empty line between tables. A key is written bare where its
characters allow it and as a string elsewhere.
-/

namespace AccountSidecar.Toml

/-- A field that the writer can write. -/
inductive Field where
  | text (s : String)
  | flag (b : Bool)
  deriving DecidableEq, Repr

/-- One character inside a written string. -/
def stringChar (c : Char) : List Char :=
  if c = '"' then ['\\', '"']
  else if c = '\\' then ['\\', '\\']
  else if c = '\x08' then ['\\', 'b']
  else if c = '\n' then ['\\', 'n']
  else if c = '\x0c' then ['\\', 'f']
  else if c = '\r' then ['\\', 'r']
  else if isControl c then '\\' :: 'u' :: Text.hexDigits 4 c.toNat
  else [c]

/-- A string in double quotes. -/
def stringText (s : String) : List Char := '"' :: s.toList.flatMap stringChar ++ ['"']

/-- A key, bare if it can be. -/
def keyText (key : String) : List Char :=
  if !key.isEmpty && key.toList.all isBareKeyChar then key.toList else stringText key

/-- The value of a field. -/
def Field.written : Field → List Char
  | .text s => stringText s
  | .flag b => if b then ['t', 'r', 'u', 'e'] else ['f', 'a', 'l', 's', 'e']

/-- One field on its line. -/
def fieldLine (field : String × Field) : List Char :=
  keyText field.1 ++ ' ' :: '=' :: ' ' :: field.2.written ++ ['\n']

/-- One table: its header and its fields. -/
def tableText (table : String × List (String × Field)) : List Char :=
  '[' :: keyText table.1 ++ ']' :: '\n' :: table.2.flatMap fieldLine

/-- All tables, with an empty line before each but the first. -/
def documentText : List (String × List (String × Field)) → List Char
  | [] => []
  | [table] => tableText table
  | table :: rest => tableText table ++ '\n' :: documentText rest

/-- Writes a document of named tables. -/
def write (tables : List (String × List (String × Field))) : String :=
  String.ofList (documentText tables)

end AccountSidecar.Toml
