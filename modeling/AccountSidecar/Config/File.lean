import AccountSidecar.Keyed
import AccountSidecar.Storage.FileTree
import AccountSidecar.Text.Class
import AccountSidecar.Text.Split

/-!
# Configuration files

A configuration file assigns values to keys, one a line. A value may be quoted, and the values of
the keys before it may be put into it by name.
-/

namespace AccountSidecar.Config

open Storage Text

/-- Why a configuration file gives no configuration. -/
inductive FileFault where
  /-- The file is not UTF-8 text. -/
  | undecodable
  /-- A directory stands where the file should. -/
  | directory
  deriving DecidableEq, Repr

/-- The name of the file that holds the configuration. -/
def fileName : String := "config.env"

/-- How a value refers to a key. -/
def reference (key : List Char) : List Char := ['$', '\x7b'] ++ key ++ ['\x7d']

/-- Puts the values of keys, one after another, in place of the references to them. -/
def substitute (table : Keyed String) (value : List Char) : List Char :=
  table.foldl (fun value e => replaceAll (reference e.1.toList) e.2.toList value) value

/-- Whether a line assigns a value: it is not a comment and has an equals sign. -/
def isAssignment (line : List Char) : Bool :=
  match line with
  | [] => false
  | c :: _ => c != '#' && line.contains '='

/-- A value without the blanks and the quotes around it. -/
def unquoted (value : List Char) : List Char :=
  trimBoth (· == '\'') (trimBoth (· == '"') (trimBoth isBlank value))

/-- The key and the value that a line assigns. -/
def assignment? (line : List Char) : Option (List Char × List Char) :=
  let line := trimBoth isBlank line
  if isAssignment line then
    (cutFirst '=' line).map fun (key, value) => (trimBoth isBlank key, unquoted value)
  else none

/-- Takes one line into the configuration. -/
def takeLine (table : Keyed String) (line : List Char) : Keyed String :=
  match assignment? line with
  | some (key, value) =>
    table.put (String.ofList key) (String.ofList (substitute table value))
  | none => table

/-- The configuration that a text assigns. -/
def parse (text : List Char) : Keyed String := (recordLines text).foldl takeLine []

/-- The configuration in the content of a file. -/
def decode (content : ByteArray) : Except FileFault (Keyed String) :=
  match String.fromUTF8? content with
  | some text => .ok (parse text.toList)
  | none => .error .undecodable

/-- The configuration in the file at a location; none where there is no file. -/
def load (files : FileTree) (l : Location) : Except FileFault (Keyed String) :=
  match files.node? l with
  | some (.file content) => decode content
  | some .directory => .error .directory
  | none => .ok []

/-- The directories that hold a location, the nearest first. -/
def ancestors : List String → List Location
  | [] => []
  | [_] => [[]]
  | name :: rest => (ancestors rest).map (name :: ·) ++ [[]]

/-- The configuration in the nearest file above a location. -/
def loadNearest (files : FileTree) (l : Location) : Except FileFault (Keyed String) :=
  match (ancestors l).find? fun directory => files.contains (directory ++ [fileName]) with
  | some directory => load files (directory ++ [fileName])
  | none => .ok []

end AccountSidecar.Config
