import AccountSidecar.Calendar
import AccountSidecar.Codec.Base32
import AccountSidecar.Crypto.Sha1
import AccountSidecar.Text.Case
import AccountSidecar.Text.Class
import AccountSidecar.Text.Digit
import AccountSidecar.Text.Split

/-!
# One-time codes

Codes of six digits that a secret and the time give. Time counts in steps of thirty seconds; the
code of a step is cut out of a keyed digest of its number. A code is accepted in a window of steps
around the time of use.
-/

namespace AccountSidecar.Totp

open Text

/-- Why no code can be computed. -/
inductive CodeError where
  /-- The secret is not base-32 text. -/
  | malformedSecret
  /-- The secret is not ASCII or too short, or the time is out of range. -/
  | outOfRange
  deriving DecidableEq, Repr

/-- A secret as apps show it, brought to its stored form: no blanks, no padding, upper case. -/
def normalizeSecret (secret : String) : String :=
  upper (String.ofList (secret.toList.filter fun c => c != ' ' && c != '='))

/-- The least number of bytes of a secret from which codes are computed, 112 bits. The bound is that
of pyotp, which computes the codes; the service itself only refuses an empty secret. -/
def minSecretBytes : Nat := 14

/-- The seconds of a step. -/
def stepSeconds : Int := 30

/-- A secret without the padding that completes its last group of eight characters; a whole group
of padding is refused. -/
def unpadded? (secret : List Char) : Option (List Char) :=
  let bare := trimEnd (· == '=') secret
  if (secret.length + 7) / 8 * 8 - bare.length < 8 then some bare else none

/-- The key of a secret. -/
def keyOf (secret : String) : Except CodeError (List UInt8) :=
  if secret.toList.any fun c => 0x80 ≤ c.toNat then .error .outOfRange
  else
    match unpadded? secret.toList with
    | none => .error .malformedSecret
    | some bare =>
      match Codec.base32Decode bare with
      | .error .notAscii => .error .outOfRange
      | .error .malformed => .error .malformedSecret
      | .ok key => if key.length < minSecretBytes then .error .outOfRange else .ok key

/-- The number of four bytes, with the sign bit cleared. -/
def truncated (digest : List UInt8) : Nat :=
  let start := (digest.getLast?.getD 0).toNat % 16
  let part := (digest.drop start).take 4
  part.foldl (fun n b => 256 * n + b.toNat) 0 % Nat.pow 2 31

/-- Six decimal digits of a number, with leading zeros. -/
def sixDigits (n : Nat) : String :=
  String.ofList ((List.range 6).map fun i => plainDigit (n / Nat.pow 10 (5 - i) % 10))

/-- The code of a step under a key. -/
def codeOfStep (key : List UInt8) (step : Nat) : String :=
  sixDigits (truncated (Crypto.hmacSha1 key (Crypto.lengthBytes step)))

/-- The code of a step that may lie before the first. -/
def codeOfStep? (key : List UInt8) (step : Int) : Option String :=
  if step < 0 then none else some (codeOfStep key step.toNat)

/-- The step that holds a second, if the calendar has that second, on a host in UTC. The time is
turned into a date of the host's zone and back: in another zone that gives another second in an hour
which its clocks run through twice, and the calendar begins and ends by the zone's offset earlier or
later. -/
def stepOf? (second : Int) : Option Int :=
  if second < 0 || endOfTime ≤ second then none else some (second / stepSeconds)

/-- The code of a secret at a time. -/
def codeAt (secret : String) (second : Int) : Except CodeError String :=
  match keyOf (normalizeSecret secret) with
  | .error e => .error e
  | .ok key =>
    match stepOf? second with
    | none => .error .outOfRange
    | some step => .ok (codeOfStep key step.toNat)

/-- Whether one of the `count` steps from a first one gives the code. Reaching a step before the
first of all ends the search without success. -/
def matchesFrom (key : List UInt8) (code : String) : Nat → Int → Bool
  | 0, _ => false
  | count + 1, step =>
    match codeOfStep? key step with
    | none => false
    | some c => c == code || matchesFrom key code count (step + 1)

/-- Whether a step in the window around the given one gives the code; a window below zero holds no
step. -/
def matchesWithin (key : List UInt8) (code : String) (window step : Int) : Bool :=
  matchesFrom key code (2 * window + 1).toNat (step - window)

/-- A code as a person types it, without blanks and hyphens. -/
def bareCode (code : String) : List Char := code.toList.filter fun c => c != ' ' && c != '-'

/-- Whether a code is good for a secret at a time. No code is good for a secret of which nothing is
left in its stored form. -/
def verify (secret code : String) (window second : Int) : Bool :=
  let typed := bareCode code
  if !typed.all isDigitChar || typed.length != 6 then false
  else if normalizeSecret secret = "" then false
  else
    match keyOf (normalizeSecret secret), stepOf? second with
    | .ok key, some step =>
      matchesWithin key (String.ofList (typed.flatMap compatibilityForm)) window step
    | _, _ => false

end AccountSidecar.Totp
