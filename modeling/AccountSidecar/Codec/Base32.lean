/-!
# Base 32

Reading bytes from their base-32 text. Each character carries five bits; letters of either case and
the digits two to seven are characters. Padding completes the last group of eight characters.
-/

namespace AccountSidecar.Codec

/-- Why a text is no base-32 text. -/
inductive Base32Error where
  | notAscii
  | malformed
  deriving DecidableEq, Repr

/-- The five bits of a character. -/
def base32Value? (c : Char) : Option Nat :=
  let c := c.toUpper
  if 'A' ≤ c && c ≤ 'Z' then some (c.toNat - 0x41)
  else if '2' ≤ c && c ≤ '7' then some (c.toNat - 0x32 + 26)
  else none

/-- The number whose five-bit groups the characters carry. -/
def base32Number? (s : List Char) : Option Nat :=
  s.foldlM (fun n c => (base32Value? c).map (32 * n + ·)) 0

/-- The last `width` bytes of a number, highest first. -/
def bytesOf : Nat → Nat → List UInt8
  | 0, _ => []
  | width + 1, n => bytesOf width (n / 256) ++ [UInt8.ofNat n]

/-- The number of bytes that the characters of an incomplete last group carry, if a group may have
that many. -/
def partialBytes? : Nat → Option Nat
  | 0 => some 0
  | 2 => some 1
  | 4 => some 2
  | 5 => some 3
  | 7 => some 4
  | _ => none

/-- Reads the characters of a text in groups of eight. The fuel bounds the groups. -/
def base32Groups : Nat → List Char → Option (List UInt8)
  | 0, _ => some []
  | fuel + 1, s =>
    if s.length < 8 then
      (partialBytes? s.length).bind fun count =>
        (base32Number? s).map fun n => bytesOf count (n / Nat.pow 2 (5 * s.length - 8 * count))
    else
      (base32Number? (s.take 8)).bind fun n =>
        (base32Groups fuel (s.drop 8)).map (bytesOf 5 n ++ ·)

/-- The bytes of a text without padding. -/
def base32Decode (s : List Char) : Except Base32Error (List UInt8) :=
  if s.any fun c => 0x80 ≤ c.toNat then .error .notAscii
  else
    match base32Groups (s.length + 1) s with
    | some bytes => .ok bytes
    | none => .error .malformed

end AccountSidecar.Codec
