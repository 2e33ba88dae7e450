import AccountSidecar.Crypto.Blowfish
import AccountSidecar.Text.Split

/-!
# Bcrypt password hashes

A hash is written as version, cost and salt, followed by the digest. Hashing runs the expensive key
setup of the cipher `2 ^ cost` times and encrypts a fixed text with the result. A stored hash is
checked by hashing again with its own salt and comparing the whole text.
-/

namespace AccountSidecar.Password

open Crypto Text

/-- The alphabet of the digest text, six bits a character. -/
def alphabet : List Char :=
  "./ABCDEFGHIJKLMNOPQRSTUVWXYZabcdefghijklmnopqrstuvwxyz0123456789".toList

/-- The six bits of a character. -/
def sixBits? (c : Char) : Option Nat := alphabet.idxOf? c

/-- The character of six bits. -/
def sixBitChar (n : Nat) : Char := alphabet.getD n '.'

/-- The text of bytes, three bytes in four characters; a last group of fewer bytes has one
character more than bytes. -/
def encode64 : List UInt8 → List Char
  | [] => []
  | [a] => [sixBitChar (a.toNat / 4), sixBitChar (a.toNat % 4 * 16)]
  | [a, b] =>
    [sixBitChar (a.toNat / 4), sixBitChar (a.toNat % 4 * 16 + b.toNat / 16),
      sixBitChar (b.toNat % 16 * 4)]
  | a :: b :: c :: rest =>
    sixBitChar (a.toNat / 4) :: sixBitChar (a.toNat % 4 * 16 + b.toNat / 16) ::
      sixBitChar (b.toNat % 16 * 4 + c.toNat / 64) :: sixBitChar (c.toNat % 64) :: encode64 rest

/-- The number that characters write, six bits each. -/
def decode64? (s : List Char) : Option Nat :=
  s.foldlM (fun n c => (sixBits? c).map (64 * n + ·)) 0

/-- A salt: version, cost and the 22 characters that write its sixteen bytes. -/
structure Salt where
  version : String
  cost : Nat
  text : String
  /-- The sixteen bytes as a number. -/
  value : Nat
  deriving DecidableEq, Repr

/-- The versions that all stand for the same algorithm. -/
def versions : List String := ["2y", "2b", "2a", "2x"]

/-- The number of decimal digits that may follow a plus sign, if it fits a machine word. -/
def costOf? (s : List Char) : Option Nat :=
  let digits := match s with
    | '+' :: rest => rest
    | s => s
  if digits.isEmpty || !digits.all Char.isDigit then none
  else
    let n := digits.foldl (fun n c => 10 * n + (c.toNat - 0x30)) 0
    if n < Nat.pow 2 32 then some n else none

/-- The number of characters of a salt text. -/
def saltLength : Nat := 22

/-- Reads the salt of a hash, or a salt alone. What follows the salt text is not looked at. -/
def Salt.parse? (s : String) : Option Salt := do
  match (pieces '$' s.toList).filter (!·.isEmpty) with
  | [version, cost, rest] =>
    let cost ← costOf? cost
    let text := rest.take saltLength
    let bits ← decode64? text
    if versions.contains (String.ofList version) && text.length = saltLength &&
        4 ≤ cost && cost ≤ 31 then
      some ⟨String.ofList version, cost, String.ofList text, bits / 16⟩
    else none
  | _ => none

/-- A cost in two digits. -/
def costText (cost : Nat) : String := (if cost < 10 then "0" else "") ++ toString cost

/-- The cost of new hashes. -/
def defaultCost : Nat := 10

/-- The salt for new hashes that sixteen bytes give. -/
def saltOf (cost : Nat) (bytes : List UInt8) : String :=
  "$2b$" ++ costText cost ++ "$" ++ String.ofList (encode64 bytes)

/-- The version, cost and salt in front of the digest. -/
def Salt.head (s : Salt) : String := "$" ++ s.version ++ "$" ++ costText s.cost ++ "$" ++ s.text

/-- The block of eight bytes of a text that starts at a byte. -/
def blockAt (bytes : List UInt8) (start : Nat) : UInt64 :=
  ((bytes.drop start).take 8).foldl (fun w b => (w <<< 8) ||| b.toUInt64) 0

/-- The eight bytes of a block. -/
def bytesOfBlock (block : UInt64) : List UInt8 :=
  (List.range 8).map fun i => (block >>> UInt64.ofNat (56 - 8 * i)).toUInt8

/-- The text whose encryption is the digest. -/
def magicText : List UInt8 := "OrpheanBeholderScryDoubt".toUTF8.toList

/-- The tables of the cipher for a key and a salt. -/
def keySetup (cost : Nat) (key : List UInt8) (salt : Nat) : Blowfish :=
  let high := UInt64.ofNat (salt / Nat.pow 2 64)
  let low := UInt64.ofNat salt
  let keyWords := Blowfish.keyWords key
  let saltWords := Blowfish.keyWords (bytesOfBlock high ++ bytesOfBlock low)
  Blowfish.expandRepeatedly keyWords saltWords (Nat.pow 2 cost)
    (Blowfish.initial.expandKey keyWords high low)

/-- The 23 bytes of the digest. -/
def digest (cost : Nat) (key : List UInt8) (salt : Nat) : List UInt8 :=
  let state := keySetup cost key salt
  let blocks := [0, 8, 16].map fun i => state.encryptRepeatedly 64 (blockAt magicText i)
  (blocks.flatMap bytesOfBlock).take 23

/-- The most bytes that a password may have. -/
def maxBytes : Nat := 72

/-- Whether a password has more bytes than hashing takes. -/
def isTooLong (password : String) : Bool := maxBytes < password.utf8ByteSize

/-- The hash of a password under a salt. -/
def hashWith (salt : Salt) (password : String) : String :=
  salt.head ++
    String.ofList (encode64 (digest salt.cost (password.toUTF8.toList ++ [0]) salt.value))

/-- The hash of a password under the salt that a text writes, or the salt of a hash. No password
that is too long has one, and no malformed salt gives one. -/
def hash? (saltText password : String) : Option String :=
  if isTooLong password then none else (Salt.parse? saltText).map fun s => hashWith s password

/-- Whether a password belongs to a stored hash. A malformed hash belongs to none. -/
def verify (password stored : String) : Bool := hash? stored password == some stored

end AccountSidecar.Password
