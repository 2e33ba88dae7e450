import AccountSidecar.Text.Quoted
import AccountSidecar.Value

/-!
# Writing JSON

A writer of JSON text in ASCII. Characters outside ASCII are written as escapes of their 16-bit
units; a blank follows each comma and colon.
-/

namespace AccountSidecar.Json

/-- An escape of one 16-bit unit. -/
def unitEscape (n : Nat) : List Char := '\\' :: 'u' :: Text.hexDigits 4 n

/-- One character inside a written string. -/
def writtenChar (c : Char) : List Char :=
  let n := c.toNat
  if c = '"' then ['\\', '"']
  else if c = '\\' then ['\\', '\\']
  else if c = '\n' then ['\\', 'n']
  else if c = '\r' then ['\\', 'r']
  else if c = '\t' then ['\\', 't']
  else if c = '\x08' then ['\\', 'b']
  else if c = '\x0c' then ['\\', 'f']
  else if n < 0x20 || n = 0x7F then unitEscape n
  else if n < 0x80 then [c]
  else if n < 0x10000 then unitEscape n
  else unitEscape (0xD800 + (n - 0x10000) / 0x400) ++ unitEscape (0xDC00 + (n - 0x10000) % 0x400)

/-- A string in double quotes. -/
def writtenString (s : String) : String :=
  String.ofList ('"' :: s.toList.flatMap writtenChar ++ ['"'])

mutual

/-- The text of a value. -/
def write : Value → String
  | .null => "null"
  | .bool b => if b then "true" else "false"
  | .integer n => toString n
  | .float x => x.text
  | .text s => writtenString s
  | .moment m => writtenString m.plain
  | .list items => "[" ++ writeItems items ++ "]"
  | .table entries => "\x7b" ++ writeEntries entries ++ "\x7d"

/-- The texts of items with commas between them. -/
def writeItems : List Value → String
  | [] => ""
  | [v] => write v
  | v :: rest => write v ++ ", " ++ writeItems rest

/-- The texts of keys and values with commas between them. -/
def writeEntries : List (String × Value) → String
  | [] => ""
  | [(k, v)] => writtenString k ++ ": " ++ write v
  | (k, v) :: rest => writtenString k ++ ": " ++ write v ++ ", " ++ writeEntries rest

end

end AccountSidecar.Json
