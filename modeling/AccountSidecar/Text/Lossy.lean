/-!
# Lossy UTF-8 decoding

Decoding that never fails: each longest byte run that begins no well-formed character gives one
replacement character. The decoder is a machine that keeps the bytes still owed and the bounds of
the next one.
-/

namespace AccountSidecar.Text

/-- Where the decoder stands: between characters, or inside one with `owed + 1` bytes to come, the
next of them between `low` and `high`, and the bits read so far in `code`. -/
inductive DecoderState where
  | between
  | inside (owed : Nat) (low high : Nat) (code : Nat)

/-- The mark that stands for undecodable bytes. -/
def replacementChar : Char := Char.ofNat 0xFFFD

/-- What a byte between characters emits and where it leads. -/
def DecoderState.start (b : Nat) : List Char × DecoderState :=
  if b < 0x80 then ([Char.ofNat b], .between)
  else if b < 0xC2 then ([replacementChar], .between)
  else if b < 0xE0 then ([], .inside 0 0x80 0xBF (b - 0xC0))
  else if b < 0xF0 then
    ([], .inside 1 (if b = 0xE0 then 0xA0 else 0x80) (if b = 0xED then 0x9F else 0xBF) (b - 0xE0))
  else if b < 0xF5 then
    ([], .inside 2 (if b = 0xF0 then 0x90 else 0x80) (if b = 0xF4 then 0x8F else 0xBF) (b - 0xF0))
  else ([replacementChar], .between)

/-- What the next byte emits and where it leads. -/
def DecoderState.step : DecoderState → Nat → List Char × DecoderState
  | .between, b => start b
  | .inside owed low high code, b =>
    if low ≤ b && b ≤ high then
      let code' := code * 64 + (b - 0x80)
      match owed with
      | 0 => ([Char.ofNat code'], .between)
      | owed' + 1 => ([], .inside owed' 0x80 0xBF code')
    else
      let (emitted, next) := start b
      (replacementChar :: emitted, next)

/-- Decodes the bytes from a given state on. -/
def decodeLossyFrom : DecoderState → List UInt8 → List Char
  | .between, [] => []
  | .inside .., [] => [replacementChar]
  | state, b :: rest =>
    let (emitted, next) := state.step b.toNat
    emitted ++ decodeLossyFrom next rest

/-- The text of the bytes, undecodable parts replaced. -/
def decodeLossy (bytes : List UInt8) : String := String.ofList (decodeLossyFrom .between bytes)

end AccountSidecar.Text
