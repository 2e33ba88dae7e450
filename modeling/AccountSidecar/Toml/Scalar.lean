import AccountSidecar.Number.Decimal
import AccountSidecar.Value

/-!
# Strings, numbers and moments of TOML

Readers of the values of a TOML document that have no parts. Each takes the text at which the value
starts and returns what it read and the text after it.
-/

namespace AccountSidecar.Toml

open Number

/-- Why a document could not be read. -/
inductive ReadError where
  | malformed
  | numberTooLong
  /-- Arrays and inline tables stand inside one another deeper than the reader goes. -/
  | tooDeep
  deriving DecidableEq, Repr

/-- Whether the character is space within a line. -/
def isSpace (c : Char) : Bool := c == ' ' || c == '\t'

/-- Whether the character is space or ends a line. -/
def isSpaceOrFeed (c : Char) : Bool := isSpace c || c == '\n'

/-- Whether the character is a control that no string on one line and no comment may hold. -/
def isControl (c : Char) : Bool := (c.toNat < 0x20 && c != '\t') || c.toNat == 0x7F

/-- Whether the character may stand in a key without quotes. -/
def isBareKeyChar (c : Char) : Bool := c.isAlphanum || c == '-' || c == '_'

/-- The value of a hexadecimal digit. -/
def hexValue? (c : Char) : Option Nat :=
  if '0' ≤ c && c ≤ '9' then some (c.toNat - 0x30)
  else if 'a' ≤ c && c ≤ 'f' then some (c.toNat - 0x57)
  else if 'A' ≤ c && c ≤ 'F' then some (c.toNat - 0x37)
  else none

/-- The number that the first `count` characters write in hexadecimal, and the text after them. -/
def hexNumber? : Nat → Nat → List Char → Option (Nat × List Char)
  | 0, n, s => some (n, s)
  | count + 1, n, c :: rest => (hexValue? c).bind fun d => hexNumber? count (16 * n + d) rest
  | _ + 1, _, [] => none

/-- The character that a hexadecimal escape of `count` digits names; halves of surrogate pairs and
numbers past the last code point name none. -/
def hexChar? (count : Nat) (s : List Char) : Option (Char × List Char) :=
  (hexNumber? count 0 s).bind fun (n, rest) =>
    if n < 0xD800 || (0xE000 ≤ n && n < 0x110000) then some (Char.ofNat n, rest) else none

/-- The character of a one-letter escape. -/
def escaped? (c : Char) : Option Char :=
  match c with
  | 'b' => some '\x08'
  | 't' => some '\t'
  | 'n' => some '\n'
  | 'f' => some '\x0c'
  | 'r' => some '\r'
  | '"' => some '"'
  | '\\' => some '\\'
  | _ => none

/-- Reads an escape after its backslash. -/
def escape? : List Char → Option (Char × List Char)
  | [] => none
  | c :: rest =>
    if c = 'u' then hexChar? 4 rest
    else if c = 'U' then hexChar? 8 rest
    else (escaped? c).map fun e => (e, rest)

/-- Reads the rest of a string in double quotes on one line. The fuel bounds its characters. -/
def basicFrom : Nat → List Char → Option (List Char × List Char)
  | 0, _ => none
  | _ + 1, [] => none
  | fuel + 1, c :: rest =>
    if c = '"' then some ([], rest)
    else if c = '\\' then
      (escape? rest).bind fun (e, rest) => (basicFrom fuel rest).map fun r => (e :: r.1, r.2)
    else if isControl c then none
    else (basicFrom fuel rest).map fun r => (c :: r.1, r.2)

/-- Reads a string in double quotes after its opening quote. -/
def basic? (s : List Char) : Option (List Char × List Char) := basicFrom (s.length + 1) s

/-- Reads the rest of a string in single quotes on one line. -/
def literal? : List Char → Option (List Char × List Char)
  | [] => none
  | c :: rest =>
    if c = '\'' then some ([], rest)
    else if isControl c then none
    else (literal? rest).map fun r => (c :: r.1, r.2)

/-- The text after a backslash that ends a line: the rest of the line, which must be blank, and all
space and line ends that follow. -/
def continuation? (s : List Char) : Option (List Char) :=
  match s.dropWhile isSpace with
  | [] => some []
  | '\n' :: rest => some (rest.dropWhile isSpaceOrFeed)
  | _ => none

/-- Reads the rest of a string in three double quotes. The fuel bounds its characters. -/
def multilineFrom : Nat → List Char → Option (List Char × List Char)
  | 0, _ => none
  | _ + 1, [] => none
  | _ + 1, '"' :: '"' :: '"' :: rest => some ([], rest)
  | fuel + 1, c :: rest =>
    if c = '\\' then
      match rest with
      | d :: _ =>
        if isSpaceOrFeed d then (continuation? rest).bind (multilineFrom fuel)
        else
          (escape? rest).bind fun (e, rest) =>
            (multilineFrom fuel rest).map fun r => (e :: r.1, r.2)
      | [] => none
    else if isControl c && c != '\n' then none
    else (multilineFrom fuel rest).map fun r => (c :: r.1, r.2)

/-- Reads the rest of a string in three single quotes. -/
def multilineLiteral? : List Char → Option (List Char × List Char)
  | [] => none
  | '\'' :: '\'' :: '\'' :: rest => some ([], rest)
  | c :: rest =>
    if isControl c && c != '\n' then none
    else (multilineLiteral? rest).map fun r => (c :: r.1, r.2)

/-- Takes up to two quotes that belong to the text of a string just closed. -/
def extraQuotes (quote : Char) (text rest : List Char) : List Char × List Char :=
  match rest with
  | c :: d :: more =>
    if c = quote then
      if d = quote then (text ++ [quote, quote], more) else (text ++ [quote], d :: more)
    else (text, rest)
  | [c] => if c = quote then (text ++ [quote], []) else (text, rest)
  | [] => (text, rest)

/-- Drops a line end that follows the opening quotes of a string of many lines. -/
def dropFeed (s : List Char) : List Char :=
  match s with
  | '\n' :: rest => rest
  | s => s

/-- Reads a string of either kind. -/
def string? (s : List Char) : Option (List Char × List Char) :=
  match s with
  | '"' :: '"' :: '"' :: rest =>
    (multilineFrom (rest.length + 1) (dropFeed rest)).map fun r => extraQuotes '"' r.1 r.2
  | '"' :: rest => basic? rest
  | '\'' :: '\'' :: '\'' :: rest =>
    (multilineLiteral? (dropFeed rest)).map fun r => extraQuotes '\'' r.1 r.2
  | '\'' :: rest => literal? rest
  | _ => none

/-- The number of two digits within bounds, and the text after them. -/
def pair? (low high : Nat) (s : List Char) : Option (Nat × List Char) :=
  match s with
  | a :: b :: rest =>
    let n := digitsValue [a, b]
    if a.isDigit && b.isDigit && low ≤ n && n ≤ high then some (n, rest) else none
  | _ => none

/-- Drops one given character. -/
def after? (c : Char) (s : List Char) : Option (List Char) :=
  match s with
  | d :: rest => if d = c then some rest else none
  | [] => none

/-- Reads the microseconds of a time, of which digits past the sixth are dropped. -/
def micros (s : List Char) : Nat × List Char :=
  match s with
  | '.' :: rest =>
    let (digits, after) := rest.span Char.isDigit
    if digits.isEmpty then (0, s)
    else
      let kept := digits.take 6
      (digitsValue (kept ++ List.replicate (6 - kept.length) '0'), after)
  | _ => (0, s)

/-- Reads a time of day. -/
def time? (s : List Char) : Option (TimeOfDay × List Char) := do
  let (hour, s) ← pair? 0 23 s
  let s ← after? ':' s
  let (minute, s) ← pair? 0 59 s
  let s ← after? ':' s
  let (second, s) ← pair? 0 59 s
  let (micro, s) := micros s
  some (⟨hour, minute, second, micro⟩, s)

/-- Reads the distance of a time from universal time. -/
def offset? (s : List Char) : Option (Int × List Char) :=
  match s with
  | c :: rest =>
    if c = 'Z' || c = 'z' then some (0, rest)
    else if c = '+' || c = '-' then do
      let (hours, s) ← pair? 0 23 rest
      let s ← after? ':' s
      let (minutes, s) ← pair? 0 59 s
      let total : Int := hours * 60 + minutes
      some (if c = '-' then -total else total, s)
    else none
  | [] => none

/-- Reads year, month and day; the day may still be past the end of its month. -/
def date? (s : List Char) : Option (Date × List Char) := do
  let (century, s) ← pair? 0 99 s
  let (year, s) ← pair? 0 99 s
  let s ← after? '-' s
  let (month, s) ← pair? 1 12 s
  let s ← after? '-' s
  let (day, s) ← pair? 1 31 s
  some (⟨century * 100 + year, month, day⟩, s)

/-- Reads a time that follows a date, with its mark. -/
def timeAfterDate? (s : List Char) : Option (TimeOfDay × Option Int × List Char) :=
  match s with
  | c :: rest =>
    if c = 'T' || c = 't' || c = ' ' then
      (time? rest).map fun (t, rest) =>
        match offset? rest with
        | some (o, rest) => (t, some o, rest)
        | none => (t, none, rest)
    else none
  | [] => none

/-- Reads a moment, if one starts here; a date that the calendar lacks is malformed. -/
def moment? (s : List Char) : Option (Except ReadError (Moment × List Char)) :=
  match date? s with
  | some (d, rest) =>
    if !d.isValid then some (.error .malformed)
    else
      match timeAfterDate? rest with
      | some (t, offset, rest) => some (.ok (.dateTime d t offset, rest))
      | none => some (.ok (.date d, rest))
  | none => (time? s).map fun (t, rest) => .ok (.time t, rest)

/-- The number that digits write in a base. -/
def inBase (base : Nat) (digits : List Char) : Nat :=
  digits.foldl (fun n c => base * n + (hexValue? c).getD 0) 0

/-- Reads an integer in base sixteen, eight or two. -/
def basedInteger? (s : List Char) : Option (Int × List Char) :=
  match s with
  | '0' :: 'x' :: rest =>
    (separatedDigits? (fun c => (hexValue? c).isSome) rest).map fun r => (inBase 16 r.1, r.2)
  | '0' :: 'b' :: rest =>
    (separatedDigits? (fun c => c == '0' || c == '1') rest).map fun r => (inBase 2 r.1, r.2)
  | '0' :: 'o' :: rest =>
    (separatedDigits? (fun c => '0' ≤ c && c ≤ '7') rest).map fun r => (inBase 8 r.1, r.2)
  | _ => none

/-- Reads the fraction of a float, if a whole one is there. -/
def fraction (s : List Char) : List Char × List Char :=
  match s with
  | '.' :: rest => (separatedDigits? Char.isDigit rest).getD ([], s)
  | _ => ([], s)

/-- Reads the exponent of a float, if a whole one is there. -/
def exponent (s : List Char) : Option Int × List Char :=
  match s with
  | mark :: rest =>
    if mark = 'e' || mark = 'E' then
      let (negative, digits) : Bool × List Char :=
        match rest with
        | '-' :: digits => (true, digits)
        | '+' :: digits => (false, digits)
        | digits => (false, digits)
      match separatedDigits? Char.isDigit digits with
      | some (digits, rest) =>
        let n : Int := digitsValue digits
        (some (if negative then -n else n), rest)
      | none => (none, s)
    else (none, s)
  | [] => (none, s)

/-- Reads the integer digits of a decimal number: a zero alone, or digits that start with
another. -/
def whole? (s : List Char) : Option (List Char × List Char) :=
  match s with
  | '0' :: rest => some (['0'], rest)
  | s => separatedDigits? Char.isDigit s

/-- Reads a decimal integer or a float after its sign. -/
def decimal? (negative : Bool) (s : List Char) : Option (Except ReadError (Value × List Char)) :=
  (whole? s).map fun (whole, rest) =>
    let (fraction, rest) := fraction rest
    let (exponent, rest) := exponent rest
    if fraction.isEmpty && exponent.isNone then
      if maxDigits < whole.length then .error .numberTooLong
      else
        let n : Int := digitsValue whole
        .ok (.integer (if negative then -n else n), rest)
    else .ok (.float (Binary64.ofNumeral negative whole fraction (exponent.getD 0)), rest)

/-- Reads a number of any kind, if one starts here. -/
def number? (s : List Char) : Option (Except ReadError (Value × List Char)) :=
  match basedInteger? s with
  | some (n, rest) => some (.ok (.integer n, rest))
  | none =>
    match s with
    | '+' :: rest => decimal? false rest
    | '-' :: rest => decimal? true rest
    | s => decimal? false s

/-- Reads a float that is not a finite number. -/
def special? : List Char → Option (Value × List Char)
  | 'i' :: 'n' :: 'f' :: rest => some (.float (.infinite false), rest)
  | 'n' :: 'a' :: 'n' :: rest => some (.float .nan, rest)
  | '+' :: 'i' :: 'n' :: 'f' :: rest => some (.float (.infinite false), rest)
  | '-' :: 'i' :: 'n' :: 'f' :: rest => some (.float (.infinite true), rest)
  | '+' :: 'n' :: 'a' :: 'n' :: rest => some (.float .nan, rest)
  | '-' :: 'n' :: 'a' :: 'n' :: rest => some (.float .nan, rest)
  | _ => none

/-- Reads a truth value. -/
def bool? : List Char → Option (Bool × List Char)
  | 't' :: 'r' :: 'u' :: 'e' :: rest => some (true, rest)
  | 'f' :: 'a' :: 'l' :: 's' :: 'e' :: rest => some (false, rest)
  | _ => none

/-- Reads a value that is neither a string nor has parts. -/
def plainValue (s : List Char) : Except ReadError (Value × List Char) :=
  match bool? s with
  | some (b, rest) => .ok (.bool b, rest)
  | none =>
    match moment? s with
    | some found => found.map fun (m, rest) => (.moment m, rest)
    | none =>
      match number? s with
      | some found => found
      | none =>
        match special? s with
        | some found => .ok found
        | none => .error .malformed

end AccountSidecar.Toml
