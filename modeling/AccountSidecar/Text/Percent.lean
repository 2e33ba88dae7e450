/-!
# Percent-encoding

The UTF-8 bytes of a text with every byte outside the unreserved set, and outside a chosen set of
safe characters, written as `%` and two upper-case hexadecimal digits.
-/

namespace AccountSidecar.Text

/-- The upper-case hexadecimal digit of a value below sixteen. -/
def upperHexDigit (n : Nat) : Char :=
  if n < 10 then Char.ofNat (0x30 + n) else Char.ofNat (0x37 + n)

/-- Whether a byte never needs encoding: an ASCII letter or digit, or one of `_.-~`. -/
def isUnreserved (b : UInt8) : Bool :=
  let c := Char.ofNat b.toNat
  b < 0x80 && (c.isAlphanum || c == '_' || c == '.' || c == '-' || c == '~')

/-- One byte of percent-encoded text. -/
def percentByte (safe : List Char) (b : UInt8) : List Char :=
  if isUnreserved b || safe.contains (Char.ofNat b.toNat) then [Char.ofNat b.toNat]
  else ['%', upperHexDigit (b.toNat / 16), upperHexDigit (b.toNat % 16)]

/-- The text with all but unreserved and safe characters encoded. -/
def percentEncode (safe : List Char) (s : String) : String :=
  String.ofList (s.toUTF8.toList.flatMap (percentByte safe))

/-- The value of a hexadecimal digit given as a byte. -/
def hexByteValue? (b : UInt8) : Option Nat :=
  if 0x30 ≤ b && b ≤ 0x39 then some (b.toNat - 0x30)
  else if 0x41 ≤ b && b ≤ 0x46 then some (b.toNat - 0x37)
  else if 0x61 ≤ b && b ≤ 0x66 then some (b.toNat - 0x57)
  else none

/-- Turns every `%` with two hexadecimal digits into the byte that they write. -/
def percentDecode : List UInt8 → List UInt8
  | 0x25 :: a :: b :: rest =>
    match hexByteValue? a, hexByteValue? b with
    | some x, some y => UInt8.ofNat (16 * x + y) :: percentDecode rest
    | _, _ => 0x25 :: percentDecode (a :: b :: rest)
  | b :: rest => b :: percentDecode rest
  | [] => []

end AccountSidecar.Text
