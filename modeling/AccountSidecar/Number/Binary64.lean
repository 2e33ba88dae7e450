/-!
# Binary floating-point numbers

The numbers of the 64-bit binary format, held as sign, integer mantissa and power of two, so that
every operation is exact integer arithmetic followed by one rounding to the nearest number, ties
to the even mantissa.
-/

namespace AccountSidecar.Number

/-- A number of the 64-bit binary format. A finite number is `mantissa * 2 ^ exponent`; its
mantissa is below `2 ^ 53`, and below `2 ^ 52` only with the least exponent, `-1074`. -/
inductive Binary64 where
  | nan
  | infinite (negative : Bool)
  | finite (negative : Bool) (mantissa : Nat) (exponent : Int)
  deriving DecidableEq, Repr, Inhabited

namespace Binary64

/-- Zero with a sign. -/
def signedZero (negative : Bool) : Binary64 := .finite negative 0 (-1074)

/-- The quotient rounded to the nearest integer, ties to the even one. -/
def roundHalfEven (num den : Nat) : Nat :=
  let q := num / den
  let r := num % den
  if 2 * r < den then q
  else if den < 2 * r then q + 1
  else if q % 2 = 0 then q else q + 1

/-- The number nearest to `num / den`. -/
def ofQuotient (negative : Bool) (num den : Nat) : Binary64 :=
  if num = 0 then signedZero negative
  else
    let estimate : Int := (num.log2 : Int) - den.log2
    let top : Int :=
      if 0 ≤ estimate then
        (if den * Nat.pow 2 estimate.toNat ≤ num then estimate else estimate - 1)
      else (if den ≤ num * Nat.pow 2 (-estimate).toNat then estimate else estimate - 1)
    let exponent : Int := max (top - 52) (-1074)
    let mantissa :=
      if 0 ≤ exponent then roundHalfEven num (den * Nat.pow 2 exponent.toNat)
      else roundHalfEven (num * Nat.pow 2 (-exponent).toNat) den
    let (mantissa, exponent) :=
      if mantissa = Nat.pow 2 53 then (Nat.pow 2 52, exponent + 1) else (mantissa, exponent)
    if 971 < exponent then .infinite negative else .finite negative mantissa exponent

/-- The number nearest to `digits * 10 ^ exponent`. Magnitudes far outside the format are decided
without computing the power. -/
def ofDecimal (negative : Bool) (digits : Nat) (exponent : Int) : Binary64 :=
  let size : Int := (Nat.log2 digits : Int) * 3 / 10 + exponent
  if digits = 0 then signedZero negative
  else if 320 < size then .infinite negative
  else if size < -360 then signedZero negative
  else if 0 ≤ exponent then ofQuotient negative (digits * Nat.pow 10 exponent.toNat) 1
  else ofQuotient negative digits (Nat.pow 10 (-exponent).toNat)

/-- The number nearest to an integer. -/
def ofInt (n : Int) : Binary64 := ofQuotient (n < 0) n.natAbs 1

/-- The value of a finite number as a signed numerator and a denominator. -/
def toQuotient? : Binary64 → Option (Int × Nat)
  | .finite negative mantissa exponent =>
    let signed : Int := if negative then -mantissa else mantissa
    if 0 ≤ exponent then some (signed * Nat.pow 2 exponent.toNat, 1)
    else some (signed, Nat.pow 2 (-exponent).toNat)
  | _ => none

/-- Whether the sign is negative; not a number counts as positive. -/
def isNegative : Binary64 → Bool
  | .nan => false
  | .infinite negative => negative
  | .finite negative _ _ => negative

/-- Whether the number is a zero of either sign. -/
def isZero : Binary64 → Bool
  | .finite _ mantissa _ => mantissa == 0
  | _ => false

/-- The number nearest to a signed quotient; an exact zero takes the given sign. -/
def ofSigned (zeroNegative : Bool) (num : Int) (den : Nat) : Binary64 :=
  if num = 0 then signedZero zeroNegative else ofQuotient (num < 0) num.natAbs den

/-- The number with the opposite sign. -/
def neg : Binary64 → Binary64
  | .nan => .nan
  | .infinite negative => .infinite !negative
  | .finite negative mantissa exponent => .finite (!negative) mantissa exponent

/-- The rounded sum. -/
def add (x y : Binary64) : Binary64 :=
  match x, y with
  | .nan, _ | _, .nan => .nan
  | .infinite a, .infinite b => if a = b then .infinite a else .nan
  | .infinite a, _ => .infinite a
  | _, .infinite b => .infinite b
  | x, y =>
    match x.toQuotient?, y.toQuotient? with
    | some (a, p), some (b, q) =>
      ofSigned (x.isNegative && y.isNegative) (a * q + b * p) (p * q)
    | _, _ => .nan

/-- The rounded difference. -/
def sub (x y : Binary64) : Binary64 := add x y.neg

/-- The rounded product. -/
def mul (x y : Binary64) : Binary64 :=
  let sign := x.isNegative != y.isNegative
  match x, y with
  | .nan, _ | _, .nan => .nan
  | .infinite _, other | other, .infinite _ =>
    if other.isZero then .nan else .infinite sign
  | x, y =>
    match x.toQuotient?, y.toQuotient? with
    | some (a, p), some (b, q) => ofSigned sign (a * b) (p * q)
    | _, _ => .nan

/-- The rounded quotient of a number by a number other than zero. -/
def div (x y : Binary64) : Binary64 :=
  let sign := x.isNegative != y.isNegative
  match x, y with
  | .nan, _ | _, .nan => .nan
  | .infinite _, .infinite _ => .nan
  | .infinite _, _ => .infinite sign
  | _, .infinite _ => signedZero sign
  | x, y =>
    match x.toQuotient?, y.toQuotient? with
    | some (a, p), some (b, q) =>
      if b = 0 then .nan
      else ofSigned sign (a * q * (if b < 0 then -1 else 1)) (p * b.natAbs)
    | _, _ => .nan

/-- The largest integer not above a finite number. -/
def floor? (x : Binary64) : Option Int := x.toQuotient?.map fun (a, p) => Int.fdiv a p

/-- The integer part of a finite number. -/
def truncate? (x : Binary64) : Option Int := x.toQuotient?.map fun (a, p) => Int.tdiv a p

/-- The floor of the quotient by a number other than zero, and the remainder with the sign of the
divisor. -/
def floorDiv (x y : Binary64) : Binary64 × Binary64 :=
  match x, y with
  | .nan, _ | _, .nan | .infinite _, _ => (.nan, .nan)
  | x, .infinite negative =>
    if x.isZero then (signedZero (x.isNegative != negative), signedZero negative)
    else if x.isNegative = negative then (signedZero false, x)
    else (.finite true (Nat.pow 2 52) (-52), .infinite negative)
  | x, y =>
    match x.toQuotient?, y.toQuotient? with
    | some (a, p), some (b, q) =>
      if b = 0 then (.nan, .nan)
      else
        let quotient := Int.fdiv (a * q) (b * p)
        (ofSigned (x.isNegative != y.isNegative) quotient 1,
          ofSigned y.isNegative (a * q - quotient * (b * p)) (p * q))
    | _, _ => (.nan, .nan)

/-- The order of two numbers; not a number is unordered. -/
def compare? (x y : Binary64) : Option Ordering :=
  match x, y with
  | .nan, _ | _, .nan => none
  | .infinite a, .infinite b => some (if a = b then .eq else if a then .lt else .gt)
  | .infinite a, _ => some (if a then .lt else .gt)
  | _, .infinite b => some (if b then .gt else .lt)
  | x, y =>
    match x.toQuotient?, y.toQuotient? with
    | some (a, p), some (b, q) => some (compare (a * q) (b * p))
    | _, _ => none

/-- The order of an integer and a number, decided without rounding the integer. -/
def compareInt? (n : Int) (y : Binary64) : Option Ordering :=
  match y with
  | .nan => none
  | .infinite b => some (if b then .gt else .lt)
  | y => y.toQuotient?.map fun (b, q) => compare (n * q) b

/-- The number of a machine word that holds its bits. -/
def ofBits (bits : UInt64) : Binary64 :=
  let n := bits.toNat
  let negative : Bool := decide (Nat.pow 2 63 ≤ n)
  let exponent : Nat := n / Nat.pow 2 52 % Nat.pow 2 11
  let fraction : Nat := n % Nat.pow 2 52
  if exponent = 2047 then (if fraction = 0 then .infinite negative else .nan)
  else if exponent = 0 then .finite negative fraction (-1074)
  else .finite negative (Nat.pow 2 52 + fraction) ((exponent : Int) - 1075)

/-- The bits of the number in a machine word. -/
def toBits : Binary64 → UInt64
  | .nan => 0x7FF8000000000000
  | .infinite negative =>
    UInt64.ofNat ((if negative then Nat.pow 2 63 else 0) + 2047 * Nat.pow 2 52)
  | .finite negative mantissa exponent =>
    let sign := if negative then Nat.pow 2 63 else 0
    if mantissa < Nat.pow 2 52 then UInt64.ofNat (sign + mantissa)
    else UInt64.ofNat (sign + (exponent + 1075).toNat * Nat.pow 2 52 + (mantissa - Nat.pow 2 52))

end Binary64

end AccountSidecar.Number
