import AccountSidecar.Number.Decimal
import AccountSidecar.Value

/-!
# Reading JSON

A reader of JSON text. Beyond the standard it takes `NaN`, `Infinity` and `-Infinity`; a key that
stands twice in an object keeps its first place and its last value; an integer of more than 4300
digits is an error of its own, and so is an array or an object that stands too deep.

Every array and every object around a value takes one call of the interpreter, which has a limit of
1000 for all calls that are open. How many of them are left hangs on who reads, so the depth to
which text is read is an argument of the reader (`readWithin`); `read` goes as deep as the text
does.
-/

namespace AccountSidecar.Json

open Number

/-- Why a text could not be read. -/
inductive ReadError where
  | malformed
  | numberTooLong
  /-- An array or an object stands deeper than the reader goes. -/
  | tooDeep
  deriving DecidableEq, Repr

/-- Whether the character may stand between tokens. -/
def isSpace (c : Char) : Bool := c == ' ' || c == '\t' || c == '\n' || c == '\r'

/-- Skips the space before a token. -/
def skipSpace (s : List Char) : List Char := s.dropWhile isSpace

/-- The value of a hexadecimal digit. -/
def hexValue? (c : Char) : Option Nat :=
  if '0' ≤ c && c ≤ '9' then some (c.toNat - 0x30)
  else if 'a' ≤ c && c ≤ 'f' then some (c.toNat - 0x57)
  else if 'A' ≤ c && c ≤ 'F' then some (c.toNat - 0x37)
  else none

/-- The value of four hexadecimal digits. -/
def unit? (a b c d : Char) : Option Nat := do
  let a ← hexValue? a
  let b ← hexValue? b
  let c ← hexValue? c
  let d ← hexValue? d
  some (((a * 16 + b) * 16 + c) * 16 + d)

/-- The character of a one-letter escape. -/
def escaped? (c : Char) : Option Char :=
  match c with
  | '"' => some '"'
  | '\\' => some '\\'
  | '/' => some '/'
  | 'b' => some '\x08'
  | 'f' => some '\x0c'
  | 'n' => some '\n'
  | 'r' => some '\r'
  | 't' => some '\t'
  | _ => none

/-- Whether a unit is the first half of a pair. -/
def isHighUnit (n : Nat) : Bool := 0xD800 ≤ n && n < 0xDC00

/-- Whether a unit is the second half of a pair. -/
def isLowUnit (n : Nat) : Bool := 0xDC00 ≤ n && n < 0xE000

/-- The character of a unit on its own; half of a pair gives the replacement character. -/
def unitChar (n : Nat) : Char := if isHighUnit n || isLowUnit n then '\uFFFD' else Char.ofNat n

/-- The character that two halves of a pair make. -/
def pairChar (high low : Nat) : Char :=
  Char.ofNat (0x10000 + (high - 0xD800) * 0x400 + (low - 0xDC00))

/-- Reads the rest of a string after its opening quote. `pending` is the first half of a pair
whose second half may come next. -/
def stringFrom (pending : Option Nat) : List Char → Option (List Char × List Char)
  | [] => none
  | '"' :: rest => some ((pending.map unitChar).toList, rest)
  | '\\' :: 'u' :: a :: b :: c :: d :: rest =>
    match unit? a b c d with
    | none => none
    | some n =>
      match pending with
      | some high =>
        if isLowUnit n then
          (stringFrom none rest).map fun r => (pairChar high n :: r.1, r.2)
        else if isHighUnit n then
          (stringFrom (some n) rest).map fun r => (unitChar high :: r.1, r.2)
        else (stringFrom none rest).map fun r => (unitChar high :: unitChar n :: r.1, r.2)
      | none =>
        if isHighUnit n then stringFrom (some n) rest
        else (stringFrom none rest).map fun r => (unitChar n :: r.1, r.2)
  | '\\' :: e :: rest =>
    match escaped? e with
    | none => none
    | some c =>
      (stringFrom none rest).map fun r => ((pending.map unitChar).toList ++ c :: r.1, r.2)
  | c :: rest =>
    if c.toNat < 0x20 || c = '\\' then none
    else (stringFrom none rest).map fun r => ((pending.map unitChar).toList ++ c :: r.1, r.2)

/-- Splits off a leading run of ASCII digits. -/
def digitRun (s : List Char) : List Char × List Char := s.span Char.isDigit

/-- Reads a fraction, if a whole one is there. -/
def fractionPart (s : List Char) : List Char × List Char :=
  match s with
  | '.' :: rest =>
    let (digits, rest) := digitRun rest
    if digits.isEmpty then ([], s) else (digits, rest)
  | _ => ([], s)

/-- Reads an exponent, if a whole one is there. -/
def exponentPart (s : List Char) : Option Int × List Char :=
  match s with
  | mark :: rest =>
    if mark = 'e' || mark = 'E' then
      let (sign, rest) : List Char × List Char :=
        match rest with
        | '-' :: rest => (['-'], rest)
        | '+' :: rest => ([], rest)
        | rest => ([], rest)
      let (digits, rest) := digitRun rest
      if digits.isEmpty then (none, s) else (some (signedValue (sign ++ digits)), rest)
    else (none, s)
  | [] => (none, s)

/-- Reads the integer digits of a number: a zero alone or digits that start with another. -/
def wholePart (s : List Char) : Option (List Char × List Char) :=
  match s with
  | '0' :: rest => some (['0'], rest)
  | _ =>
    let (digits, rest) := digitRun s
    if digits.isEmpty then none else some (digits, rest)

/-- Reads a number after its sign. -/
def numberAfter (negative : Bool) (s : List Char) : Except ReadError (Value × List Char) :=
  match wholePart s with
  | none => .error .malformed
  | some (whole, rest) =>
    let (fraction, rest) := fractionPart rest
    let (exponent, rest) := exponentPart rest
    if fraction.isEmpty && exponent.isNone then
      if maxDigits < whole.length then .error .numberTooLong
      else
        let n : Int := digitsValue whole
        .ok (.integer (if negative then -n else n), rest)
    else .ok (.float (Binary64.ofNumeral negative whole fraction (exponent.getD 0)), rest)

/-- Reads a value that has no parts. -/
def scalar : List Char → Except ReadError (Value × List Char)
  | 'n' :: 'u' :: 'l' :: 'l' :: rest => .ok (.null, rest)
  | 't' :: 'r' :: 'u' :: 'e' :: rest => .ok (.bool true, rest)
  | 'f' :: 'a' :: 'l' :: 's' :: 'e' :: rest => .ok (.bool false, rest)
  | 'N' :: 'a' :: 'N' :: rest => .ok (.float .nan, rest)
  | 'I' :: 'n' :: 'f' :: 'i' :: 'n' :: 'i' :: 't' :: 'y' :: rest =>
    .ok (.float (.infinite false), rest)
  | '-' :: 'I' :: 'n' :: 'f' :: 'i' :: 'n' :: 'i' :: 't' :: 'y' :: rest =>
    .ok (.float (.infinite true), rest)
  | '-' :: rest => numberAfter true rest
  | s => numberAfter false s

/-- Reads a string after its opening quote. -/
def string (s : List Char) : Except ReadError (String × List Char) :=
  match stringFrom none s with
  | some (chars, rest) => .ok (String.ofList chars, rest)
  | none => .error .malformed

/-- Reads a key and the colon after it. -/
def key (s : List Char) : Except ReadError (String × List Char) := do
  match s with
  | '"' :: rest =>
    let (k, rest) ← string rest
    match skipSpace rest with
    | ':' :: rest => .ok (k, skipSpace rest)
    | _ => .error .malformed
  | _ => .error .malformed

mutual

/-- Reads a value at the front of the text, through as many arrays and objects as `depth` says. -/
def value : Nat → Nat → List Char → Except ReadError (Value × List Char)
  | 0, _, _ => .error .malformed
  | fuel + 1, depth, s =>
    match s with
    | '"' :: rest => do
      let (text, rest) ← string rest
      .ok (.text text, rest)
    | '[' :: rest =>
      match depth with
      | 0 => .error .tooDeep
      | depth + 1 =>
        match skipSpace rest with
        | ']' :: rest => .ok (.list [], rest)
        | rest => do
          let (items, rest) ← items fuel depth rest
          .ok (.list items, rest)
    | '\x7b' :: rest =>
      match depth with
      | 0 => .error .tooDeep
      | depth + 1 =>
        match skipSpace rest with
        | '\x7d' :: rest => .ok (.table [], rest)
        | rest => do
          let (entries, rest) ← entries fuel depth [] rest
          .ok (.table entries, rest)
    | s => scalar s

/-- Reads the items of an array up to its end. -/
def items : Nat → Nat → List Char → Except ReadError (List Value × List Char)
  | 0, _, _ => .error .malformed
  | fuel + 1, depth, s => do
    let (first, rest) ← value fuel depth s
    match skipSpace rest with
    | ']' :: rest => .ok ([first], rest)
    | ',' :: rest =>
      let (more, rest) ← items fuel depth (skipSpace rest)
      .ok (first :: more, rest)
    | _ => .error .malformed

/-- Reads the entries of an object up to its end, after those read so far. -/
def entries : Nat → Nat → Keyed Value → List Char → Except ReadError (Keyed Value × List Char)
  | 0, _, _, _ => .error .malformed
  | fuel + 1, depth, seen, s => do
    let (k, rest) ← key s
    let (v, rest) ← value fuel depth rest
    let seen := Keyed.put k v seen
    match skipSpace rest with
    | '\x7d' :: rest => .ok (seen, rest)
    | ',' :: rest => entries fuel depth seen (skipSpace rest)
    | _ => .error .malformed

end

/-- The fuel that a whole text takes. Two units for each character outlast any nesting. -/
def fuelFor (text : String) : Nat := 2 * text.toList.length + 2

/-- Reads a whole text in which arrays and objects stand inside one another no deeper than the
limit. -/
def readWithin (limit : Nat) (text : String) : Except ReadError Value := do
  let (v, rest) ← value (fuelFor text) limit (skipSpace text.toList)
  if (skipSpace rest).isEmpty then .ok v else .error .malformed

/-- Whether arrays and objects stand inside one another deeper than a reader with the limit goes. -/
def nestsBeyond (limit : Nat) (text : String) : Bool :=
  match readWithin limit text with
  | .error .tooDeep => true
  | _ => false

/-- Reads a whole text, however deep; no text goes deeper than the fuel for it lasts. -/
def read (text : String) : Except ReadError Value := readWithin (fuelFor text) text

end AccountSidecar.Json
