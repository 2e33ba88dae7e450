import AccountSidecar.Number.Decimal
import AccountSidecar.Number.Integer

/-!
# Rounded numbers as text

Reading a number with a fraction or an exponent that a person wrote: blanks around it, a sign,
decimal digits of any script with single low lines between them, or a word for what is infinite or
not a number.
-/

namespace AccountSidecar.Number

/-- A decimal digit of any script as a plain one. -/
def withPlainDigit (c : Char) : Char :=
  match Text.decimalValue? c with
  | some n => Text.plainDigit n
  | none => c

/-- Digits at the front, which may be missing, and the text after them. -/
def digitsIfAny (s : List Char) : List Char × List Char :=
  (separatedDigits? Char.isDigit s).getD ([], s)

/-- The exponent that makes up the whole rest of a numeral; a missing one is zero. -/
def wholeExponent? (s : List Char) : Option Int :=
  match s with
  | [] => some 0
  | mark :: rest =>
    if mark = 'e' || mark = 'E' then
      let (negative, digits) : Bool × List Char :=
        match rest with
        | '-' :: digits => (true, digits)
        | '+' :: digits => (false, digits)
        | digits => (false, digits)
      match separatedDigits? Char.isDigit digits with
      | some (digits, []) =>
        let n : Int := digitsValue digits
        some (if negative then -n else n)
      | _ => none
    else none

/-- The number that a numeral without a sign writes. -/
def unsignedRounded? (negative : Bool) (s : List Char) : Option Binary64 :=
  let word := String.ofList (s.map Char.toLower)
  if word = "inf" || word = "infinity" then some (.infinite negative)
  else if word = "nan" then some .nan
  else
    let (whole, rest) := digitsIfAny s
    let (fraction, rest) : List Char × List Char :=
      match rest with
      | '.' :: rest => digitsIfAny rest
      | rest => ([], rest)
    if whole.isEmpty && fraction.isEmpty then none
    else (wholeExponent? rest).map (Binary64.ofNumeral negative whole fraction ·)

/-- The number that the text writes. -/
def rounded? (s : String) : Option Binary64 :=
  match (Text.trimBoth isNumeralBlank s.toList).map withPlainDigit with
  | '-' :: rest => unsignedRounded? true rest
  | '+' :: rest => unsignedRounded? false rest
  | s => unsignedRounded? false s

end AccountSidecar.Number
