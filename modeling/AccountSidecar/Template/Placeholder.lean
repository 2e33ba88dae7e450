import AccountSidecar.Text.Class
import AccountSidecar.Text.Word

/-!
# Dotted placeholders

A placeholder may be written with a dot before its name. `undotted` brings each such placeholder
into its plain form before the template is read.
-/

namespace AccountSidecar.Template

open Text

/-- Reads a dotted placeholder: its name and the text after it. -/
def dottedPlaceholder? (s : List Char) : Option (List Char × List Char) :=
  match s with
  | '\x7b' :: '\x7b' :: rest =>
    match rest.dropWhile isBlank with
    | '.' :: rest =>
      let (name, rest) := rest.span isWord
      match rest.dropWhile isBlank with
      | '\x7d' :: '\x7d' :: rest => if name.isEmpty then none else some (name, rest)
      | _ => none
    | _ => none
  | _ => none

/-- The plain form of a placeholder. -/
def placeholder (name : List Char) : List Char :=
  '\x7b' :: '\x7b' :: ' ' :: name ++ [' ', '\x7d', '\x7d']

/-- Brings dotted placeholders into plain form; `skip` characters of the last one are still to be
left out. -/
def undottedFrom : Nat → List Char → List Char
  | _, [] => []
  | skip + 1, _ :: rest => undottedFrom skip rest
  | 0, c :: rest =>
    match dottedPlaceholder? (c :: rest) with
    | some (name, after) =>
      placeholder name ++ undottedFrom (rest.length - after.length) rest
    | none => c :: undottedFrom 0 rest

/-- The template with every dotted placeholder in plain form. -/
def undotted (s : List Char) : List Char := undottedFrom 0 s

end AccountSidecar.Template
