/-!
# Cutting and replacing

Splitting at a separator, substring search, replacement of every occurrence from left to right,
and padding to a width in characters.

There are two ways to cut text into lines. `splitLines` breaks at every Unicode line boundary, a
carriage return with its line feed counting once; `recordLines` first turns `\r\n` and `\r` into
`\n` and breaks there only. Neither keeps the boundary, and a boundary at the very end opens no
line.
-/

namespace AccountSidecar.Text

/-- The pieces between the separators; there is always at least one. -/
def pieces (sep : Char) : List Char → List (List Char)
  | [] => [[]]
  | c :: rest =>
    if c = sep then [] :: pieces sep rest
    else
      match pieces sep rest with
      | [] => [[c]]
      | first :: more => (c :: first) :: more

/-- Cuts at the first occurrence of the separator, if there is one. -/
def cutFirst (sep : Char) : List Char → Option (List Char × List Char)
  | [] => none
  | c :: rest =>
    if c = sep then some ([], rest)
    else (cutFirst sep rest).map fun cut => (c :: cut.1, cut.2)

/-- Whether the pattern occurs in the text; the empty pattern always does. -/
def occurs (pattern : List Char) : List Char → Bool
  | [] => pattern.isEmpty
  | c :: rest => pattern.isPrefixOf (c :: rest) || occurs pattern rest

/-- Replacement of a nonempty pattern; `skip` characters of an occurrence are still to be left
out. -/
def replaceFrom (pattern value : List Char) : Nat → List Char → List Char
  | _, [] => []
  | skip + 1, _ :: rest => replaceFrom pattern value skip rest
  | 0, c :: rest =>
    if pattern.isPrefixOf (c :: rest) then
      value ++ replaceFrom pattern value (pattern.length - 1) rest
    else c :: replaceFrom pattern value 0 rest

/-- Puts the value before every character and at the end. -/
def interleave (value : List Char) : List Char → List Char
  | [] => value
  | c :: rest => value ++ c :: interleave value rest

/-- Replaces every occurrence of the pattern, from left to right; the empty pattern occurs
before every character and at the end. -/
def replaceAll (pattern value text : List Char) : List Char :=
  if pattern.isEmpty then interleave value text else replaceFrom pattern value 0 text

/-- Replacement of a nonempty pattern at no more places than the limit; `skip` characters of an
occurrence are still to be left out. -/
def replaceUpToFrom (pattern value : List Char) : Nat → Nat → List Char → List Char
  | _, _, [] => []
  | limit, skip + 1, _ :: rest => replaceUpToFrom pattern value limit skip rest
  | 0, 0, s => s
  | limit + 1, 0, c :: rest =>
    if pattern.isPrefixOf (c :: rest) then
      value ++ replaceUpToFrom pattern value limit (pattern.length - 1) rest
    else c :: replaceUpToFrom pattern value (limit + 1) 0 rest

/-- Puts the value before the first characters, at no more places than the limit. -/
def interleaveUpTo (value : List Char) : Nat → List Char → List Char
  | 0, s => s
  | _ + 1, [] => value
  | limit + 1, c :: rest => value ++ c :: interleaveUpTo value limit rest

/-- Replaces the first occurrences of the pattern, no more than the limit. -/
def replaceUpTo (limit : Nat) (pattern value text : List Char) : List Char :=
  if pattern.isEmpty then interleaveUpTo value limit text
  else replaceUpToFrom pattern value limit 0 text

/-- Replaces every occurrence of one text by another. -/
def replaceText (pattern value text : String) : String :=
  String.ofList (replaceAll pattern.toList value.toList text.toList)

/-- Appends blanks until the text has the given number of characters. -/
def padEnd (width : Nat) (s : String) : String :=
  s ++ String.ofList (List.replicate (width - s.length) ' ')

/-- The texts one after another with a separator between them. -/
def joinWith (sep : String) : List String → String
  | [] => ""
  | [s] => s
  | s :: rest => s ++ sep ++ joinWith sep rest

/-- Whether the character is a line boundary. -/
def isLineBreak (c : Char) : Bool :=
  let n := c.toNat
  (0x0A ≤ n && n ≤ 0x0D) || (0x1C ≤ n && n ≤ 0x1E) || n == 0x85 || n == 0x2028 || n == 0x2029

/-- Puts a character in front of the first line. -/
def consFirst (c : Char) : List (List Char) → List (List Char)
  | [] => [[c]]
  | line :: rest => (c :: line) :: rest

/-- The lines of the text, broken at every line boundary. -/
def splitLines : List Char → List (List Char)
  | [] => []
  | '\r' :: '\n' :: rest => [] :: splitLines rest
  | c :: rest => if isLineBreak c then [] :: splitLines rest else consFirst c (splitLines rest)

/-- Turns every `\r\n` and every lone `\r` into `\n`. -/
def unifyNewlines : List Char → List Char
  | [] => []
  | '\r' :: '\n' :: rest => '\n' :: unifyNewlines rest
  | c :: rest => (if c = '\r' then '\n' else c) :: unifyNewlines rest

/-- The lines of the text, broken at `\n` only. -/
def splitFeeds : List Char → List (List Char)
  | [] => []
  | c :: rest => if c = '\n' then [] :: splitFeeds rest else consFirst c (splitFeeds rest)

/-- The lines of a text file: newlines of every convention end a line. -/
def recordLines (s : List Char) : List (List Char) := splitFeeds (unifyNewlines s)

end AccountSidecar.Text
