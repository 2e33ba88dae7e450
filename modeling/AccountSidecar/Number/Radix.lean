import AccountSidecar.Number.Integer

/-!
# Integers in other bases

Reading an integer in a base from two to thirty-six, where letters follow the ten digits. The bases
two, eight and sixteen may be announced by `0b`, `0o` and `0x`; base zero takes the announced one,
or ten.
-/

namespace AccountSidecar.Number

/-- The value of a digit in a base. -/
def digitIn? (base : Nat) (c : Char) : Option Nat :=
  let value : Option Nat :=
    match Text.decimalValue? c with
    | some d => some d
    | none =>
      if c.isLower then some (c.toNat - 'a'.toNat + 10)
      else if c.isUpper then some (c.toNat - 'A'.toNat + 10)
      else none
  value.filter (· < base)

/-- The digits of a numeral in a base, with single low lines between them; the flag tells whether a
digit stands just before. -/
def digitsIn? (base : Nat) : Bool → List Char → Option (List Nat)
  | afterDigit, [] => if afterDigit then some [] else none
  | afterDigit, c :: rest =>
    if c = '_' then (if afterDigit then digitsIn? base false rest else none)
    else (digitIn? base c).bind fun d => (digitsIn? base true rest).map (d :: ·)

/-- The base that two characters announce. -/
def announcedBase? (zero letter : Char) : Option Nat :=
  if Text.decimalValue? zero != some 0 then none
  else if letter = 'x' || letter = 'X' then some 16
  else if letter = 'o' || letter = 'O' then some 8
  else if letter = 'b' || letter = 'B' then some 2
  else none

/-- Splits off the announcement of a base, with a low line after it: the base that it leaves and
the numeral. -/
def withoutAnnouncement (base : Nat) (s : List Char) : Nat × List Char :=
  match s with
  | zero :: letter :: rest =>
    match announcedBase? zero letter with
    | some announced =>
      if base = announced || base = 0 then
        (announced, match rest with
          | '_' :: rest => rest
          | rest => rest)
      else (base, s)
    | none => (base, s)
  | s => (base, s)

/-- Whether a numeral of many digits in the base is read at once, without a limit. -/
def isUnlimited (base : Nat) : Bool := [2, 4, 8, 16, 32].contains base

/-- The number that a numeral without a sign writes in a base. Without an announcement base zero
takes no zeros in front of another digit. -/
def unsignedIn? (base : Nat) (s : List Char) : Option Nat :=
  let (left, numeral) := withoutAnnouncement base s
  let effective := if left = 0 then 10 else left
  (digitsIn? effective false numeral).bind fun digits =>
    let n := digits.foldl (fun n d => effective * n + d) 0
    if left = 0 && digits.head? = some 0 && n != 0 then none
    else if isUnlimited effective || digits.length ≤ maxDigits then some n
    else none

/-- The integer that the text writes in a base. -/
def integerIn? (base : Nat) (s : String) : Option Int :=
  if base = 1 || 36 < base then none
  else
    match Text.trimBoth isNumeralBlank s.toList with
    | '-' :: rest => (unsignedIn? base rest).map fun n => -(n : Int)
    | '+' :: rest => (unsignedIn? base rest).map Int.ofNat
    | s => (unsignedIn? base s).map Int.ofNat

end AccountSidecar.Number
