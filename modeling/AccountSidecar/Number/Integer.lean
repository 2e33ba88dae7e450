import AccountSidecar.Text.Class
import AccountSidecar.Text.Digit

/-!
# Integers as text

Reading an integer that a person or a setting wrote: blanks around it, a sign, decimal digits of
any script, and single low lines between digits. A numeral of more than 4300 digits is refused, and
so is writing one.
-/

namespace AccountSidecar.Number

/-- The most digits that an integer may have where it is read from text or written as text. -/
def maxDigits : Nat := 4300

/-- Whether the character may stand around a numeral. -/
def isNumeralBlank (c : Char) : Bool := Text.isBlank c && !(0x1C ≤ c.toNat && c.toNat ≤ 0x1F)

/-- The digits of a numeral with single low lines between them; the flag tells whether a digit
stands just before. -/
def digitsFrom? : Bool → List Char → Option (List Nat)
  | afterDigit, [] => if afterDigit then some [] else none
  | afterDigit, c :: rest =>
    if c = '_' then (if afterDigit then digitsFrom? false rest else none)
    else (Text.decimalValue? c).bind fun d => (digitsFrom? true rest).map (d :: ·)

/-- The number that decimal digits write. -/
def ofDigits (digits : List Nat) : Nat := digits.foldl (fun n d => 10 * n + d) 0

/-- The number that a numeral without a sign writes. -/
def unsigned? (s : List Char) : Option Nat :=
  (digitsFrom? false s).bind fun digits =>
    if digits.length ≤ maxDigits then some (ofDigits digits) else none

/-- The integer that the text writes. -/
def integer? (s : String) : Option Int :=
  match Text.trimBoth isNumeralBlank s.toList with
  | '-' :: rest => (unsigned? rest).map fun n => -(n : Int)
  | '+' :: rest => (unsigned? rest).map Int.ofNat
  | s => (unsigned? s).map Int.ofNat

/-- Whether an integer has few enough digits to be written as text. -/
def isWritable (n : Int) : Bool := n.natAbs < Nat.pow 10 maxDigits

end AccountSidecar.Number
