import AccountSidecar.Toml.Draft
import AccountSidecar.Toml.Scalar

/-!
# Reading TOML

A reader of TOML 1.0 documents. A document is a run of statements, one a line: a table header, a
list-of-tables header, or an assignment; each changes the draft of the document.

A value inside an array stands two calls of the reader deeper than the array, one inside an inline
table three. The interpreter limits the calls that are open to 1000, and how many of them are left
hangs on who reads; so the number of calls that values may take is an argument of the reader. The
calls in which a value without parts is read are not counted.
-/

namespace AccountSidecar.Toml

/-- The result of a reader that gives no reason for failure. -/
def orMalformed {α : Type} : Option α → Except ReadError α
  | some a => .ok a
  | none => .error .malformed

/-- Reads one part of a key. -/
def keyPart? (s : List Char) : Option (String × List Char) :=
  match s with
  | '"' :: rest => (basic? rest).map fun r => (String.ofList r.1, r.2)
  | '\'' :: rest => (literal? rest).map fun r => (String.ofList r.1, r.2)
  | s =>
    let (name, rest) := s.span isBareKeyChar
    if name.isEmpty then none else some (String.ofList name, rest)

/-- Reads the parts of a dotted key up to its end. The fuel bounds their number. -/
def keyFrom? : Nat → List Char → Option (List String × List Char)
  | 0, _ => none
  | fuel + 1, s =>
    (keyPart? s).bind fun (part, rest) =>
      match rest.dropWhile isSpace with
      | '.' :: rest =>
        (keyFrom? fuel (rest.dropWhile isSpace)).map fun r => (part :: r.1, r.2)
      | rest => some ([part], rest)

/-- Reads a key: the parts in front of the last one, the last one, and the text after it. -/
def key? (s : List Char) : Option (List String × String × List Char) :=
  (keyFrom? (s.length + 1) s).bind fun (parts, rest) =>
    parts.getLast?.map fun last => (parts.dropLast, last, rest)

/-- Skips a comment, if one starts here; a control inside it is refused. -/
def skipComment? (s : List Char) : Option (List Char) :=
  match s with
  | '#' :: rest =>
    let (comment, rest) := rest.span (· != '\n')
    if comment.any isControl then none else some rest
  | s => some s

/-- Skips space, line ends and comments inside an array. The fuel bounds the comments. -/
def skipInArray : Nat → List Char → Option (List Char)
  | 0, s => some s
  | fuel + 1, s =>
    match s.dropWhile isSpaceOrFeed with
    | '#' :: rest => (skipComment? ('#' :: rest)).bind (skipInArray fuel)
    | rest => some rest

/-- Skips what may stand between the items of an array. -/
def arrayGap (s : List Char) : Except ReadError (List Char) :=
  orMalformed (skipInArray (s.length + 1) s)

/-- Reads a key, its equals sign and the space after it. -/
def keyAndSign (s : List Char) : Except ReadError (List String × String × List Char) := do
  let (parent, last, rest) ← orMalformed (key? s)
  match rest with
  | '=' :: rest => .ok (parent, last, rest.dropWhile isSpace)
  | _ => .error .malformed

mutual

/-- Reads a value at the front of the text with as many more calls as `calls` says. -/
def value : Nat → Nat → List Char → Except ReadError (Value × List Char)
  | 0, _, _ => .error .malformed
  | fuel + 1, calls, s =>
    match s with
    | '"' :: _ | '\'' :: _ => do
      let (chars, rest) ← orMalformed (string? s)
      .ok (.text (String.ofList chars), rest)
    | '[' :: rest =>
      match calls with
      | calls + 2 => do
        let rest ← arrayGap rest
        match rest with
        | ']' :: rest => .ok (.list [], rest)
        | rest =>
          let (items, rest) ← items fuel calls rest
          .ok (.list items, rest)
      | _ => .error .tooDeep
    | '\x7b' :: rest =>
      match calls with
      | calls + 3 =>
        match rest.dropWhile isSpace with
        | '\x7d' :: rest => .ok (.table [], rest)
        | rest => do
          let (entries, rest) ← inlineEntries fuel calls {} rest
          .ok (.table entries, rest)
      | _ => .error .tooDeep
    | s => plainValue s

/-- Reads the items of an array up to its end. -/
def items : Nat → Nat → List Char → Except ReadError (List Value × List Char)
  | 0, _, _ => .error .malformed
  | fuel + 1, calls, s => do
    let (first, rest) ← value fuel calls s
    let rest ← arrayGap rest
    match rest with
    | ']' :: rest => .ok ([first], rest)
    | ',' :: rest =>
      let rest ← arrayGap rest
      match rest with
      | ']' :: rest => .ok ([first], rest)
      | rest =>
        let (more, rest) ← items fuel calls rest
        .ok (first :: more, rest)
    | _ => .error .malformed

/-- Reads the entries of an inline table up to its end, after those read so far. -/
def inlineEntries :
    Nat → Nat → Draft → List Char → Except ReadError (Keyed Value × List Char)
  | 0, _, _, _ => .error .malformed
  | fuel + 1, calls, draft, s => do
    let (parent, last, rest) ← keyAndSign s
    let (v, rest) ← value fuel calls rest
    let draft ← orMalformed (draft.assignInline? parent last v)
    match rest.dropWhile isSpace with
    | '\x7d' :: rest => .ok (draft.root, rest)
    | ',' :: rest => inlineEntries fuel calls draft (rest.dropWhile isSpace)
    | _ => .error .malformed

end

/-- Reads one statement, if the line has one, and puts it into the draft. The header is the path
of the table that assignments go to. -/
def statement (calls : Nat) (draft : Draft) (header : Path) (s : List Char) :
    Except ReadError (Draft × Path × List Char) :=
  match s with
  | '[' :: '[' :: rest => do
    let (parent, last, rest) ← orMalformed (key? (rest.dropWhile isSpace))
    let draft ← orMalformed (draft.openItem? parent last)
    match rest with
    | ']' :: ']' :: rest => .ok (draft, parent ++ [last], rest)
    | _ => .error .malformed
  | '[' :: rest => do
    let (parent, last, rest) ← orMalformed (key? (rest.dropWhile isSpace))
    let draft ← orMalformed (draft.openTable? (parent ++ [last]))
    match rest with
    | ']' :: rest => .ok (draft, parent ++ [last], rest)
    | _ => .error .malformed
  | '\n' :: _ | '#' :: _ | [] => .ok (draft, header, s)
  | s => do
    let (parent, last, rest) ← keyAndSign s
    let (v, rest) ← value (2 * rest.length + 2) calls rest
    let draft ← orMalformed (draft.assign? header parent last v)
    .ok (draft, header, rest)

/-- Reads the statements of a document, one a line. The fuel bounds the lines. -/
def statements (calls : Nat) : Nat → Draft → Path → List Char → Except ReadError Draft
  | 0, _, _, _ => .error .malformed
  | fuel + 1, draft, header, s => do
    let (draft, header, rest) ← statement calls draft header (s.dropWhile isSpace)
    let rest ← orMalformed (skipComment? (rest.dropWhile isSpace))
    match rest with
    | [] => .ok draft
    | '\n' :: rest => statements calls fuel draft header rest
    | _ => .error .malformed

/-- Turns every `\r\n` into `\n`. -/
def plainFeeds : List Char → List Char
  | [] => []
  | '\r' :: '\n' :: rest => '\n' :: plainFeeds rest
  | c :: rest => c :: plainFeeds rest

/-- Reads a whole document, the values in it with as many calls as `calls` says. -/
def read (calls : Nat) (text : String) : Except ReadError (Keyed Value) := do
  let s := plainFeeds text.toList
  let draft ← statements calls (s.length + 1) {} [] s
  .ok draft.root

end AccountSidecar.Toml
