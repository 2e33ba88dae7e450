/-!
# Encodings of a structured text body

A body of structured text names its encoding by a byte order mark or, since its first character is
ASCII, by where its zero bytes stand. `Encoding.detect` finds the encoding and drops the mark;
`decodeBody?` reads the text, or fails where the bytes are not well formed.
-/

namespace AccountSidecar.Text

/-- The encodings that a body may be in; the flag tells big-endian from little-endian. -/
inductive Encoding where
  | utf8
  | utf16 (bigEndian : Bool)
  | utf32 (bigEndian : Bool)
  deriving DecidableEq, Repr

/-- The encoding of a body without a byte order mark, from its zero bytes. -/
def Encoding.guess (bytes : List UInt8) : Encoding :=
  match bytes with
  | [a, b] => if a = 0 then .utf16 true else if b = 0 then .utf16 false else .utf8
  | a :: b :: c :: d :: _ =>
    if a = 0 then (if b = 0 then .utf32 true else .utf16 true)
    else if b = 0 then (if c = 0 && d = 0 then .utf32 false else .utf16 false)
    else .utf8
  | _ => .utf8

/-- The encoding of a body and the bytes after its byte order mark. -/
def Encoding.detect : List UInt8 → Encoding × List UInt8
  | 0x00 :: 0x00 :: 0xFE :: 0xFF :: rest => (.utf32 true, rest)
  | 0xFF :: 0xFE :: 0x00 :: 0x00 :: rest => (.utf32 false, rest)
  | 0xFE :: 0xFF :: rest => (.utf16 true, rest)
  | 0xFF :: 0xFE :: rest => (.utf16 false, rest)
  | 0xEF :: 0xBB :: 0xBF :: rest => (.utf8, rest)
  | bytes => (guess bytes, bytes)

/-- The 16-bit units of the bytes, if their number is even. -/
def units16? (bigEndian : Bool) : List UInt8 → Option (List Nat)
  | [] => some []
  | [_] => none
  | a :: b :: rest =>
    let unit := if bigEndian then a.toNat * 256 + b.toNat else b.toNat * 256 + a.toNat
    (units16? bigEndian rest).map (unit :: ·)

/-- The characters of 16-bit units; a surrogate without its partner is refused. -/
def charsOfUnits16? : List Nat → Option (List Char)
  | [] => some []
  | high :: low :: rest =>
    if 0xD800 ≤ high && high < 0xDC00 then
      if 0xDC00 ≤ low && low < 0xE000 then
        (charsOfUnits16? rest).map
          (Char.ofNat (0x10000 + (high - 0xD800) * 0x400 + (low - 0xDC00)) :: ·)
      else none
    else if 0xDC00 ≤ high && high < 0xE000 then none
    else (charsOfUnits16? (low :: rest)).map (Char.ofNat high :: ·)
  | [unit] => if 0xD800 ≤ unit && unit < 0xE000 then none else some [Char.ofNat unit]

/-- The characters of 32-bit units; surrogates and values past the last plane are refused. -/
def charsOfBytes32? (bigEndian : Bool) : List UInt8 → Option (List Char)
  | [] => some []
  | a :: b :: c :: d :: rest =>
    let value (w x y z : UInt8) := ((w.toNat * 256 + x.toNat) * 256 + y.toNat) * 256 + z.toNat
    let unit := if bigEndian then value a b c d else value d c b a
    if (0xD800 ≤ unit && unit < 0xE000) || 0x110000 ≤ unit then none
    else (charsOfBytes32? bigEndian rest).map (Char.ofNat unit :: ·)
  | _ => none

/-- The text of a body in the encoding that its first bytes show. -/
def decodeBody? (bytes : List UInt8) : Option String :=
  match Encoding.detect bytes with
  | (.utf8, rest) => String.fromUTF8? ⟨rest.toArray⟩
  | (.utf16 big, rest) => ((units16? big rest).bind charsOfUnits16?).map String.ofList
  | (.utf32 big, rest) => (charsOfBytes32? big rest).map String.ofList

end AccountSidecar.Text
