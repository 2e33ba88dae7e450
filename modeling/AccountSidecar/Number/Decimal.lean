import AccountSidecar.Number.Binary64

/-!
# Decimal numerals

The pieces of a numeral in a document: digits, perhaps with single low lines between them, an
optional fraction and an optional exponent, and the number that they write together.
-/

namespace AccountSidecar.Number

/-- The value of ASCII digits; other characters are skipped. -/
def digitsValue (digits : List Char) : Nat :=
  digits.foldl (fun n c => if c.isDigit then 10 * n + (c.toNat - 0x30) else n) 0

/-- The number written by a sign, integer digits, fraction digits and an exponent. -/
def Binary64.ofNumeral (negative : Bool) (whole fraction : List Char) (exponent : Int) : Binary64 :=
  let fraction := fraction.filter Char.isDigit
  Binary64.ofDecimal negative (digitsValue (whole ++ fraction)) (exponent - fraction.length)

/-- The integer written by an optional sign and digits. -/
def signedValue : List Char → Int
  | '-' :: digits => -(digitsValue digits : Int)
  | '+' :: digits => digitsValue digits
  | digits => digitsValue digits

/-- The digits after a first one, with single low lines between them left out. -/
def moreDigits (isDigit : Char → Bool) : List Char → List Char × List Char
  | [] => ([], [])
  | '_' :: d :: rest =>
    if isDigit d then
      let r := moreDigits isDigit rest
      (d :: r.1, r.2)
    else ([], '_' :: d :: rest)
  | c :: rest =>
    if isDigit c then
      let r := moreDigits isDigit rest
      (c :: r.1, r.2)
    else ([], c :: rest)

/-- A nonempty run of digits with single low lines between them. -/
def separatedDigits? (isDigit : Char → Bool) (s : List Char) : Option (List Char × List Char) :=
  match s with
  | c :: rest =>
    if isDigit c then
      let r := moreDigits isDigit rest
      some (c :: r.1, r.2)
    else none
  | [] => none

end AccountSidecar.Number
