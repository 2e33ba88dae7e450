/-!
# SHA-1

The secure hash algorithm with 160-bit digests, over lists of bytes.
-/

namespace AccountSidecar.Crypto

/-- The chaining value of the hash. -/
structure Sha1State where
  a : UInt32 := 0x67452301
  b : UInt32 := 0xEFCDAB89
  c : UInt32 := 0x98BADCFE
  d : UInt32 := 0x10325476
  e : UInt32 := 0xC3D2E1F0

/-- Turns a word to the left; the amount is between 1 and 31. -/
def rotateLeft (x : UInt32) (n : UInt32) : UInt32 := (x <<< n) ||| (x >>> (32 - n))

/-- The word of four bytes, highest first. -/
def wordOf (a b c d : UInt8) : UInt32 :=
  (a.toUInt32 <<< 24) ||| (b.toUInt32 <<< 16) ||| (c.toUInt32 <<< 8) ||| d.toUInt32

/-- The four bytes of a word, highest first. -/
def bytesOfWord (w : UInt32) : List UInt8 :=
  [(w >>> 24).toUInt8, (w >>> 16).toUInt8, (w >>> 8).toUInt8, w.toUInt8]

/-- The words of a list of bytes; up to three bytes at the end are left out. -/
def wordsOf : List UInt8 → List UInt32
  | a :: b :: c :: d :: rest => wordOf a b c d :: wordsOf rest
  | _ => []

/-- The eight bytes of a length, highest first. -/
def lengthBytes (n : Nat) : List UInt8 :=
  (List.range 8).map fun i => UInt8.ofNat (n / Nat.pow 256 (7 - i))

/-- The message with its padding: a one bit, zeros, and the length in bits. -/
def sha1Padded (message : List UInt8) : List UInt8 :=
  let zeros := (119 - message.length % 64) % 64
  message ++ 0x80 :: List.replicate zeros 0 ++ lengthBytes (8 * message.length)

/-- One more word of the schedule, which is kept with the latest word first. -/
def scheduleStep (w : List UInt32) : List UInt32 :=
  rotateLeft (w.getD 2 0 ^^^ w.getD 7 0 ^^^ w.getD 13 0 ^^^ w.getD 15 0) 1 :: w

/-- The eighty words that a block of sixteen gives. -/
def schedule (block : List UInt32) : List UInt32 :=
  ((List.range 64).foldl (fun w _ => scheduleStep w) block.reverse).reverse

/-- The round function and the constant of a round. -/
def roundParts (t : Nat) (b c d : UInt32) : UInt32 × UInt32 :=
  if t < 20 then ((b &&& c) ||| (~~~b &&& d), 0x5A827999)
  else if t < 40 then (b ^^^ c ^^^ d, 0x6ED9EBA1)
  else if t < 60 then ((b &&& c) ||| (b &&& d) ||| (c &&& d), 0x8F1BBCDC)
  else (b ^^^ c ^^^ d, 0xCA62C1D6)

/-- One round with its word. -/
def sha1Round (s : Sha1State) (t : Nat) (w : UInt32) : Sha1State :=
  let (f, k) := roundParts t s.b s.c s.d
  { a := rotateLeft s.a 5 + f + s.e + k + w, b := s.a, c := rotateLeft s.b 30, d := s.c, e := s.d }

/-- Takes one block into the chaining value. -/
def sha1Block (s : Sha1State) (block : List UInt32) : Sha1State :=
  let r := ((schedule block).zipIdx).foldl (fun s wt => sha1Round s wt.2 wt.1) s
  { a := s.a + r.a, b := s.b + r.b, c := s.c + r.c, d := s.d + r.d, e := s.e + r.e }

/-- Takes blocks of sixteen words into the chaining value. The fuel bounds the blocks. -/
def sha1Blocks : Nat → Sha1State → List UInt32 → Sha1State
  | 0, s, _ => s
  | fuel + 1, s, words =>
    if words.isEmpty then s else sha1Blocks fuel (sha1Block s (words.take 16)) (words.drop 16)

/-- The digest of a message, twenty bytes. -/
def sha1 (message : List UInt8) : List UInt8 :=
  let words := wordsOf (sha1Padded message)
  let s := sha1Blocks words.length {} words
  [s.a, s.b, s.c, s.d, s.e].flatMap bytesOfWord

/-- The keyed digest of a message: the hash of the key and the hash of the key and the message,
with a different mask for each. -/
def hmacSha1 (key message : List UInt8) : List UInt8 :=
  let key := if 64 < key.length then sha1 key else key
  let block := key ++ List.replicate (64 - key.length) 0
  sha1 (block.map (· ^^^ 0x5C) ++ sha1 (block.map (· ^^^ 0x36) ++ message))

end AccountSidecar.Crypto
