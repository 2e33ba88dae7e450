import AccountSidecar.Json.Writer
import AccountSidecar.Number.Decimal
import AccountSidecar.Number.Integer
import AccountSidecar.Text.Identifier

/-!
# Tokens of a template

What stands inside the tags of a template: names, numbers, strings and operators. Each reader takes
the text at which a token starts and returns it with the text after it.
-/

namespace AccountSidecar.Template

open Number Text

/-- A token inside a tag. -/
inductive Token where
  | name (s : String)
  | string (s : String)
  | integer (n : Nat)
  | float (x : Binary64)
  | symbol (s : String)
  deriving DecidableEq, Repr

/-- Why a template cannot be read. -/
inductive ReadError where
  | malformed
  | numberTooLong
  /-- It needs more of the template language than is read here. -/
  | unsupported
  deriving DecidableEq, Repr

/-- Whether the character may be part of a name. -/
def isNameChar (c : Char) : Bool := isWord c || continuesIdentifier c

/-- Whether the character is a decimal digit of any script. -/
def isDecimal (c : Char) : Bool := (decimalValue? c).isSome

/-- The value of a hexadecimal digit; decimal digits may be of any script. -/
def hexDigitValue? (c : Char) : Option Nat :=
  match decimalValue? c with
  | some n => some n
  | none =>
    if 'a' ≤ c && c ≤ 'f' then some (c.toNat - 0x57)
    else if 'A' ≤ c && c ≤ 'F' then some (c.toNat - 0x37)
    else none

/-- The number that digits write in a base. -/
def numberInBase (base : Nat) (digits : List Char) : Nat :=
  digits.foldl (fun n c => base * n + (hexDigitValue? c).getD 0) 0

/-- A nonempty run of digits, each perhaps with a low line before it. -/
def prefixedDigits? (isDigit : Char → Bool) (s : List Char) : Option (List Char × List Char) :=
  match s with
  | '_' :: rest => separatedDigits? isDigit rest
  | s => separatedDigits? isDigit s

/-- Reads an integer in base two, eight or sixteen. -/
def basedNumber? (s : List Char) : Option (Nat × List Char) :=
  match s with
  | '0' :: mark :: rest =>
    let (base, isDigit) : Nat × (Char → Bool) :=
      if mark = 'b' || mark = 'B' then (2, fun c => c == '0' || c == '1')
      else if mark = 'o' || mark = 'O' then (8, fun c => '0' ≤ c && c ≤ '7')
      else if mark = 'x' || mark = 'X' then (16, fun c => (hexDigitValue? c).isSome)
      else (10, fun _ => false)
    (prefixedDigits? isDigit rest).map fun r => (numberInBase base r.1, r.2)
  | _ => none

/-- Reads the digits of a decimal integer: zeros alone, or digits that do not start with zero. -/
def decimalDigits? (s : List Char) : Option (List Char × List Char) :=
  match s with
  | '0' :: _ => separatedDigits? (· == '0') s
  | c :: _ => if c.isDigit then separatedDigits? isDecimal s else none
  | [] => none

/-- Reads the fraction of a float. -/
def fraction? (s : List Char) : Option (List Char × List Char) :=
  match s with
  | '.' :: rest => separatedDigits? isDecimal rest
  | _ => none

/-- Reads the exponent of a float. -/
def exponent? (s : List Char) : Option (Int × List Char) :=
  match s with
  | mark :: rest =>
    if mark = 'e' || mark = 'E' then
      let (negative, digits) : Bool × List Char :=
        match rest with
        | '-' :: digits => (true, digits)
        | '+' :: digits => (false, digits)
        | digits => (false, digits)
      (separatedDigits? isDecimal digits).map fun (digits, rest) =>
        let n : Int := numberInBase 10 digits
        (if negative then -n else n, rest)
    else none
  | [] => none

/-- The float of its parts. -/
def floatOf (whole fraction : List Char) (exponent : Int) : Binary64 :=
  Binary64.ofDecimal false (numberInBase 10 (whole ++ fraction)) (exponent - fraction.length)

/-- Reads a float: one without a fraction needs an exponent. -/
def float? (s : List Char) : Option (Binary64 × List Char) :=
  (separatedDigits? isDecimal s).bind fun (whole, rest) =>
    match fraction? rest with
    | some (fraction, rest) =>
      match exponent? rest with
      | some (e, rest) => some (floatOf whole fraction e, rest)
      | none => some (floatOf whole fraction 0, rest)
    | none => (exponent? rest).map fun (e, rest) => (floatOf whole [] e, rest)

/-- Reads a number. After a dot only an integer can stand. -/
def numeral? (afterDot : Bool) (s : List Char) : Option (Except ReadError (Token × List Char)) :=
  match if afterDot then none else float? s with
  | some (x, rest) => some (.ok (.float x, rest))
  | none =>
    match basedNumber? s with
    | some (n, rest) => some (.ok (.integer n, rest))
    | none =>
      (decimalDigits? s).map fun (digits, rest) =>
        if maxDigits < digits.length then .error .numberTooLong
        else .ok (.integer (numberInBase 10 digits), rest)

/-- The raw content of a string after its opening quote, and the text after it. -/
def stringBody? (quote : Char) : List Char → Option (List Char × List Char)
  | [] => none
  | '\\' :: c :: rest => (stringBody? quote rest).map fun r => ('\\' :: c :: r.1, r.2)
  | c :: rest =>
    if c = quote then some ([], rest)
    else if c = '\\' then none
    else (stringBody? quote rest).map fun r => (c :: r.1, r.2)

/-- Writes characters outside ASCII as escapes. -/
def asciiEscapes (s : List Char) : List Char :=
  s.flatMap fun c =>
    let n := c.toNat
    if n < 0x80 then [c]
    else if n < 0x100 then '\\' :: 'x' :: hexDigits 2 n
    else if n < 0x10000 then '\\' :: 'u' :: hexDigits 4 n
    else '\\' :: 'U' :: hexDigits 8 n

/-- The value of up to `most` octal digits and the text after them. -/
def octal : Nat → Nat → List Char → Nat × List Char
  | 0, n, s => (n, s)
  | _ + 1, n, [] => (n, [])
  | most + 1, n, c :: rest =>
    if '0' ≤ c && c ≤ '7' then octal most (8 * n + (c.toNat - 0x30)) rest else (n, c :: rest)

/-- The value of exactly `count` hexadecimal digits and the text after them. -/
def hexExactly? : Nat → Nat → List Char → Option (Nat × List Char)
  | 0, n, s => some (n, s)
  | _ + 1, _, [] => none
  | count + 1, n, c :: rest =>
    if c.toNat < 0x80 then
      (hexDigitValue? c).bind fun d => hexExactly? count (16 * n + d) rest
    else none

/-- Resolves one escape after its backslash: the characters that it stands for and the text after
it. An escape that means nothing stands for itself. -/
def stringEscape? (s : List Char) : Option (List Char × List Char) :=
  let hex (count : Nat) (rest : List Char) : Option (List Char × List Char) :=
    (hexExactly? count 0 rest).bind fun (n, rest) =>
      if n < 0x110000 then some ([Char.ofNat n], rest) else none
  match s with
  | [] => none
  | '\n' :: rest => some ([], rest)
  | 'x' :: rest => hex 2 rest
  | 'u' :: rest => hex 4 rest
  | 'U' :: rest => hex 8 rest
  | 'N' :: _ => none
  | 'n' :: rest => some (['\n'], rest)
  | 't' :: rest => some (['\t'], rest)
  | 'r' :: rest => some (['\r'], rest)
  | 'a' :: rest => some (['\x07'], rest)
  | 'b' :: rest => some (['\x08'], rest)
  | 'f' :: rest => some (['\x0c'], rest)
  | 'v' :: rest => some (['\x0b'], rest)
  | '\\' :: rest => some (['\\'], rest)
  | '\'' :: rest => some (['\''], rest)
  | '"' :: rest => some (['"'], rest)
  | c :: rest =>
    if '0' ≤ c && c ≤ '7' then
      let (n, rest) := octal 3 0 (c :: rest)
      some ([Char.ofNat n], rest)
    else some (['\\', c], rest)

/-- Resolves the escapes of a string. The fuel bounds its characters. -/
def resolveEscapes : Nat → List Char → Option (List Char)
  | 0, _ => some []
  | _ + 1, [] => some []
  | fuel + 1, c :: rest =>
    if c = '\\' then
      (stringEscape? rest).bind fun (chars, rest) => (resolveEscapes fuel rest).map (chars ++ ·)
    else (resolveEscapes fuel rest).map (c :: ·)

/-- Whether the escapes of a string lead out of the fragment: one names a character by its title, or
stands for half a character. -/
def hasForeignEscape : List Char → Bool
  | '\\' :: 'N' :: _ => true
  | '\\' :: c :: rest =>
    let half (count : Nat) : Bool :=
      match hexExactly? count 0 rest with
      | some (n, _) => 0xd800 ≤ n && n < 0xe000
      | none => false
    (c == 'u' && half 4) || (c == 'U' && half 8) || hasForeignEscape rest
  | _ :: rest => hasForeignEscape rest
  | [] => false

/-- Reads a string. -/
def string? (s : List Char) : Option (Except ReadError (Token × List Char)) :=
  match s with
  | c :: rest =>
    if c = '\'' || c = '"' then
      (stringBody? c rest).map fun (body, rest) =>
        let escaped := asciiEscapes body
        if hasForeignEscape escaped then .error .unsupported
        else
          match resolveEscapes (escaped.length + 1) escaped with
          | some chars => .ok (.string (String.ofList chars), rest)
          | none => .error .malformed
    else none
  | [] => none

/-- Reads a name. -/
def name? (s : List Char) : Option (Except ReadError (Token × List Char)) :=
  let (chars, rest) := s.span isNameChar
  if chars.isEmpty then none
  else if isIdentifier chars then some (.ok (.name (String.ofList chars), rest))
  else some (.error .malformed)

/-- The operators of two characters. -/
def longSymbols : List String := ["//", "**", "==", "!=", ">=", "<="]

/-- The operators of one character. -/
def shortSymbols : List Char :=
  ['+', '-', '/', '*', '%', '~', '[', ']', '(', ')', '\x7b', '\x7d', '>', '<', '=', '.', ':', '|',
    ',', ';']

/-- Reads an operator, the longest that fits. -/
def symbol? (s : List Char) : Option (Token × List Char) :=
  match s with
  | a :: b :: rest =>
    if longSymbols.contains (String.ofList [a, b]) then
      some (.symbol (String.ofList [a, b]), rest)
    else if shortSymbols.contains a then some (.symbol (String.singleton a), b :: rest)
    else none
  | [a] => if shortSymbols.contains a then some (.symbol (String.singleton a), []) else none
  | [] => none

/-- Reads one token. -/
def token (afterDot : Bool) (s : List Char) : Except ReadError (Token × List Char) :=
  match numeral? afterDot s with
  | some found => found
  | none =>
    match name? s with
    | some found => found
    | none =>
      match string? s with
      | some found => found
      | none =>
        match symbol? s with
        | some found => .ok found
        | none => .error .malformed

end AccountSidecar.Template
