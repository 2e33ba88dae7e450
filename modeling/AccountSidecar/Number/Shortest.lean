import AccountSidecar.Number.Binary64

/-!
# Shortest decimal text of a number

The decimal with the fewest digits among those that read back as a given number, and of these the
nearest to it; then its layout: positional from `0.0001` up to below `10 ^ 16`, with an exponent
of at least two digits elsewhere, and always with a fraction or an exponent.
-/

namespace AccountSidecar.Number

/-- Where the powers of ten stand around a positive quotient: the least `k` with
`num / den < 10 ^ k`, searched upward from an estimate that is not too high. -/
def magnitudeFrom (num den : Nat) : Nat → Int → Int
  | 0, k => k
  | fuel + 1, k =>
    let below :=
      if 0 ≤ k then num < den * Nat.pow 10 k.toNat else num * Nat.pow 10 (-k).toNat < den
    if below then k else magnitudeFrom num den fuel (k + 1)

/-- The least `k` with `num / den < 10 ^ k`. -/
def magnitude (num den : Nat) : Int :=
  let bits : Int := (num.log2 : Int) - den.log2
  magnitudeFrom num den 5 (Int.fdiv (bits * 30103) 100000 - 1)

/-- The bounds of the interval of reals that round to `mantissa * 2 ^ exponent`, in units of
`2 ^ (exponent - 2)`. -/
def roundingBounds (mantissa : Nat) (exponent : Int) : Nat × Nat :=
  let low :=
    if mantissa = Nat.pow 2 52 && exponent != -1074 then 4 * mantissa - 1 else 4 * mantissa - 2
  (low, 4 * mantissa + 2)

/-- A quotient of powers of two and ten: `2 ^ a / 10 ^ b` as numerator and denominator. -/
def scale (a b : Int) : Nat × Nat :=
  ((if 0 ≤ a then Nat.pow 2 a.toNat else 1) * (if b < 0 then Nat.pow 10 (-b).toNat else 1),
    (if a < 0 then Nat.pow 2 (-a).toNat else 1) * (if 0 ≤ b then Nat.pow 10 b.toNat else 1))

/-- The candidate of a grid with `count` digits, if the grid meets the rounding interval. -/
def candidate? (mantissa : Nat) (exponent k : Int) (count : Nat) : Option Nat :=
  let (num, den) := scale (exponent - 2) (k - count)
  let (low, high) := roundingBounds mantissa exponent
  let even := mantissa % 2 = 0
  let inside (n : Nat) : Bool :=
    if even then low * num ≤ n * den && n * den ≤ high * num
    else low * num < n * den && n * den < high * num
  let value := 4 * mantissa * num
  let floor := value / den
  let down := inside floor && floor != 0
  let up := inside (floor + 1)
  let rest := value - floor * den
  if down && up then
    some (if 2 * rest < den then floor
      else if den < 2 * rest then floor + 1
      else if floor % 2 = 0 then floor else floor + 1)
  else if down then some floor
  else if up then some (floor + 1)
  else none

/-- Tries grids of growing digit count. -/
def shortestFrom (mantissa : Nat) (exponent k : Int) : Nat → Nat → Nat × Nat
  | 0, count => (((candidate? mantissa exponent k count).getD 0), count)
  | fuel + 1, count =>
    match candidate? mantissa exponent k count with
    | some n => (n, count)
    | none => shortestFrom mantissa exponent k fuel (count + 1)

/-- The digits of the shortest decimal of a positive number and the place of its point: the value
is `0.d₁d₂… * 10 ^ point`. -/
def shortestDigits (mantissa : Nat) (exponent : Int) : List Char × Int :=
  let (num, den) := scale exponent 0
  let k := magnitude (mantissa * num) den
  let (n, count) := shortestFrom mantissa exponent k 16 1
  let digits := (toString n).toList
  let point := k + (digits.length - count : Int)
  let kept := (digits.reverse.dropWhile (· == '0')).reverse
  (kept, point)

/-- The exponent mark, sign and digits of a decimal exponent, two digits at least. -/
def exponentText (e : Int) : List Char :=
  let digits := (toString e.natAbs).toList
  'e' :: (if e < 0 then '-' else '+') :: (if digits.length < 2 then '0' :: digits else digits)

/-- Lays out digits with their point. -/
def layout (digits : List Char) (point : Int) : List Char :=
  if point ≤ -4 || 16 < point then
    match digits with
    | [] => ['0', '.', '0']
    | [d] => d :: exponentText (point - 1)
    | d :: rest => d :: '.' :: rest ++ exponentText (point - 1)
  else if point ≤ 0 then
    '0' :: '.' :: List.replicate (-point).toNat '0' ++ digits
  else if (digits.length : Int) ≤ point then
    digits ++ List.replicate (point.toNat - digits.length) '0' ++ ['.', '0']
  else digits.take point.toNat ++ '.' :: digits.drop point.toNat

/-- The text of a number. -/
def Binary64.text : Binary64 → String
  | .nan => "nan"
  | .infinite negative => if negative then "-inf" else "inf"
  | .finite negative mantissa exponent =>
    let body :=
      if mantissa = 0 then ['0', '.', '0']
      else
        let (digits, point) := shortestDigits mantissa exponent
        layout digits point
    String.ofList (if negative then '-' :: body else body)

end AccountSidecar.Number
