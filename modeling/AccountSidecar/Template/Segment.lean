import AccountSidecar.Template.Token
import AccountSidecar.Text.Class

/-!
# Segments of a template

A template is literal text with tags in it. An output tag stands between double braces, a statement
tag between braces with percent signs, a comment between braces with number signs. A sign at the
start of a tag or before its end may ask for the white space on that side to go. Between the two
tags of a raw section everything is literal.
-/

namespace AccountSidecar.Template

open Text

/-- A stretch of a template: literal text, or a tag as its tokens. -/
inductive Segment where
  | text (s : List Char)
  | output (tokens : List Token)
  | statement (tokens : List Token)
  deriving DecidableEq, Repr

/-- What a tag turns out to be once its opening is read. -/
inductive Opening where
  | output
  | statement
  | comment
  | raw
  deriving DecidableEq, Repr

/-- Reads the optional sign at the start of a tag: whether the white space before the tag goes, and
the text after the sign. -/
def openingSign : List Char → Bool × List Char
  | '-' :: rest => (true, rest)
  | '+' :: rest => (false, rest)
  | s => (false, s)

/-- Drops a word that stands at the front. -/
def dropWord? (word : String) (s : List Char) : Option (List Char) :=
  if word.toList.isPrefixOf s then some (s.drop word.length) else none

/-- Reads the rest of the tag that starts a raw section. -/
def rawStart? (s : List Char) : Option (List Char) :=
  (dropWord? "raw" (s.dropWhile isBlank)).bind fun rest =>
    match rest.dropWhile isBlank with
    | '-' :: '%' :: '\x7d' :: rest => some (rest.dropWhile isBlank)
    | '%' :: '\x7d' :: rest => some rest
    | _ => none

/-- Reads the start of a tag: whether the white space before it goes, what the tag is and the text
after its opening. -/
def opening? : List Char → Option (Bool × Opening × List Char)
  | '\x7b' :: '\x7b' :: rest => let (trims, rest) := openingSign rest; some (trims, .output, rest)
  | '\x7b' :: '#' :: rest => let (trims, rest) := openingSign rest; some (trims, .comment, rest)
  | '\x7b' :: '%' :: rest =>
    let (trims, rest) := openingSign rest
    match rawStart? rest with
    | some rest => some (trims, .raw, rest)
    | none => some (trims, .statement, rest)
  | _ => none

/-- Whether a tag starts here. -/
def startsTag : List Char → Bool
  | '\x7b' :: c :: _ => c == '\x7b' || c == '%' || c == '#'
  | _ => false

/-- The literal text before the first tag, and the text at that tag. -/
def beforeTag : List Char → List Char × List Char
  | [] => ([], [])
  | c :: rest =>
    if startsTag (c :: rest) then ([], c :: rest)
    else
      let r := beforeTag rest
      (c :: r.1, r.2)

/-- The text after the end of an output tag, if it ends here. -/
def outputEnd? : List Char → Option (List Char)
  | '-' :: '\x7d' :: '\x7d' :: rest => some (rest.dropWhile isBlank)
  | '\x7d' :: '\x7d' :: rest => some rest
  | _ => none

/-- The text after the end of a statement tag, if it ends here. -/
def statementEnd? : List Char → Option (List Char)
  | '-' :: '%' :: '\x7d' :: rest => some (rest.dropWhile isBlank)
  | '+' :: '%' :: '\x7d' :: rest => some rest
  | '%' :: '\x7d' :: rest => some rest
  | _ => none

/-- The text after the end of a comment, if it ends here. -/
def commentEnd? : List Char → Option (List Char)
  | '-' :: '#' :: '\x7d' :: rest => some (rest.dropWhile isBlank)
  | '+' :: '#' :: '\x7d' :: rest => some rest
  | '#' :: '\x7d' :: rest => some rest
  | _ => none

/-- The end of a raw section, if it stands here: whether the white space before it goes, and the
text after it. -/
def rawEnd? : List Char → Option (Bool × List Char)
  | '\x7b' :: '%' :: rest =>
    let (trims, rest) := openingSign rest
    (dropWord? "endraw" (rest.dropWhile isBlank)).bind fun rest =>
      (statementEnd? (rest.dropWhile isBlank)).map (trims, ·)
  | _ => none

/-- The text after a comment. -/
def afterComment? : List Char → Option (List Char)
  | [] => none
  | c :: rest =>
    match commentEnd? (c :: rest) with
    | some rest => some rest
    | none => afterComment? rest

/-- The content of a raw section, whether its trailing white space goes, and the text after it. -/
def rawBody? : List Char → Option (List Char × Bool × List Char)
  | [] => none
  | c :: rest =>
    match rawEnd? (c :: rest) with
    | some (trims, rest) => some ([], trims, rest)
    | none => (rawBody? rest).map fun (body, trims, rest) => (c :: body, trims, rest)

/-- The bracket that closes an opening one. -/
def closing? (s : String) : Option String :=
  if s = "(" then some ")"
  else if s = "[" then some "]"
  else if s = "\x7b" then some "\x7d"
  else none

/-- The closing brackets that are still to come after a token. -/
def balance? (awaited : List String) : Token → Option (List String)
  | .symbol s =>
    match closing? s with
    | some close => some (close :: awaited)
    | none =>
      if s = ")" || s = "]" || s = "\x7d" then
        match awaited with
        | close :: awaited => if close = s then some awaited else none
        | [] => none
      else some awaited
  | _ => some awaited

/-- The tokens up to the end of a tag, and the text after the tag. The tag ends only where no
bracket is open. The fuel bounds the characters. -/
def tagTokens (tagEnd? : List Char → Option (List Char)) : Nat → List String → Bool → List Char →
    Except ReadError (List Token × List Char)
  | 0, _, _, _ => .error .malformed
  | fuel + 1, awaited, afterDot, s =>
    match if awaited.isEmpty then tagEnd? s else none with
    | some rest => .ok ([], rest)
    | none =>
      match s with
      | [] => .error .malformed
      | c :: rest =>
        if isBlank c then tagTokens tagEnd? fuel awaited false rest
        else
          match token afterDot s with
          | .error e => .error e
          | .ok (t, rest) =>
            match balance? awaited t with
            | none => .error .malformed
            | some awaited =>
              match tagTokens tagEnd? fuel awaited (t == .symbol ".") rest with
              | .error e => .error e
              | .ok (more, rest) => .ok (t :: more, rest)

/-- Reads a tag after its opening: the segment that it gives, if any, and the text after it. A
comment or a raw section that opens at the very end of the template is empty. -/
def afterOpening (opening : Opening) (s : List Char) :
    Except ReadError (List Segment × List Char) :=
  match opening with
  | .output =>
    (tagTokens outputEnd? (s.length + 1) [] false s).map fun r => ([.output r.1], r.2)
  | .statement =>
    (tagTokens statementEnd? (s.length + 1) [] false s).map fun r => ([.statement r.1], r.2)
  | .comment =>
    if s.isEmpty then .ok ([], [])
    else
      match afterComment? s with
      | some rest => .ok ([], rest)
      | none => .error .malformed
  | .raw =>
    if s.isEmpty then .ok ([], [])
    else
      match rawBody? s with
      | some (body, trims, rest) =>
        .ok ([.text (if trims then trimEnd isBlank body else body)], rest)
      | none => .error .malformed

/-- The segments of a template. The fuel bounds the tags. -/
def segmentsFrom : Nat → List Char → Except ReadError (List Segment)
  | 0, s => .ok [.text s]
  | fuel + 1, s =>
    let (before, rest) := beforeTag s
    match opening? rest with
    | none => .ok [.text before]
    | some (trims, opening, rest) =>
      match afterOpening opening rest with
      | .error e => .error e
      | .ok (found, rest) =>
        match segmentsFrom fuel rest with
        | .error e => .error e
        | .ok more =>
          .ok (.text (if trims then trimEnd isBlank before else before) :: found ++ more)

/-- The segments of a template. -/
def segments (s : List Char) : Except ReadError (List Segment) := segmentsFrom (s.length + 1) s

end AccountSidecar.Template
