/-!
# The Blowfish cipher

The block cipher with key-dependent tables, and the expensive key setup that mixes a salt into the
tables. The first tables hold the fraction of pi in binary, whose value comes from Machin's formula
`π = 16 arctan (1/5) - 4 arctan (1/239)` in fixed-point arithmetic.
-/

namespace AccountSidecar.Crypto

/-- Sums the arctangent series of `1 / x` in fixed point from a given term on; `power` is the scale
divided by the odd power of `x`, and `n` the exponent. -/
def arctanFrom (x : Nat) : Nat → Nat → Nat → Int
  | 0, _, _ => 0
  | fuel + 1, power, n =>
    if power = 0 then 0
    else (power / n : Int) - arctanFrom x fuel (power / (x * x)) (n + 2)

/-- The arctangent of `1 / x`, scaled by a power of two. -/
def arctanInverse (x bits : Nat) : Int := arctanFrom x bits (Nat.pow 2 bits / x) 1

/-- The first bits of the fraction of pi, as a number. -/
def piFraction (bits : Nat) : Nat :=
  let guard := 64
  let scaled := 16 * arctanInverse 5 (bits + guard) - 4 * arctanInverse 239 (bits + guard)
  (scaled - 3 * Nat.pow 2 (bits + guard)).toNat / Nat.pow 2 guard

/-- The first words of the fraction of pi. -/
def piWords (count : Nat) : Array UInt32 :=
  let fraction := piFraction (32 * count)
  ((List.range count).map fun i => UInt32.ofNat (fraction >>> (32 * (count - 1 - i)))).toArray

/-- The key-dependent tables: eighteen subkeys and four boxes of 256 words, one after another. -/
structure Blowfish where
  subkeys : Array UInt32
  boxes : Array UInt32

namespace Blowfish

/-- The words of the tables before any key. -/
def initialWords : Array UInt32 := piWords 1042

/-- The tables before any key. -/
def initial : Blowfish := ⟨initialWords.extract 0 18, initialWords.extract 18 1042⟩

/-- The word of a table; zero outside it. -/
@[inline] def word (table : Array UInt32) (i : Nat) : UInt32 := table.getD i 0

/-- The round function of the cipher. -/
@[inline] def mix (boxes : Array UInt32) (x : UInt32) : UInt32 :=
  let a := word boxes (x >>> 24).toNat
  let b := word boxes (256 + ((x >>> 16) &&& 0xFF).toNat)
  let c := word boxes (512 + ((x >>> 8) &&& 0xFF).toNat)
  let d := word boxes (768 + (x &&& 0xFF).toNat)
  ((a + b) ^^^ c) + d

/-- Two halves of a block as one word. -/
@[inline] def join (left right : UInt32) : UInt64 := (left.toUInt64 <<< 32) ||| right.toUInt64

/-- The left half of a block. -/
@[inline] def leftHalf (block : UInt64) : UInt32 := (block >>> 32).toUInt32

/-- The right half of a block. -/
@[inline] def rightHalf (block : UInt64) : UInt32 := block.toUInt32

/-- Pairs of rounds that are still to run, and the whitening at the end. -/
def rounds (subkeys boxes : Array UInt32) : Nat → Nat → UInt32 → UInt32 → UInt64
  | 0, i, left, right => join (right ^^^ word subkeys (i + 1)) (left ^^^ word subkeys i)
  | pairs + 1, i, left, right =>
    let left := left ^^^ word subkeys i
    let right := right ^^^ mix boxes left
    let right := right ^^^ word subkeys (i + 1)
    let left := left ^^^ mix boxes right
    rounds subkeys boxes pairs (i + 2) left right

/-- Encrypts one block. -/
def encrypt (subkeys boxes : Array UInt32) (block : UInt64) : UInt64 :=
  rounds subkeys boxes 8 0 (leftHalf block) (rightHalf block)

/-- The words that a key gives when it is read over and over, as many as there are subkeys. -/
def keyWords (key : List UInt8) : Array UInt32 :=
  let bytes := key.toArray
  let byte (i : Nat) : UInt32 := (bytes.getD (i % bytes.size) 0).toUInt32
  ((List.range 18).map fun i =>
    (byte (4 * i) <<< 24) ||| (byte (4 * i + 1) <<< 16) ||| (byte (4 * i + 2) <<< 8) |||
      byte (4 * i + 3)).toArray

/-- Mixes key words into the subkeys. -/
def mixKey (subkeys key : Array UInt32) : Array UInt32 :=
  (List.range 18).foldl (fun s i => s.set! i (word s i ^^^ word key i)) subkeys

/-- Fills the rest of the subkeys with encrypted blocks, two words a block. The salt gives a word
pair to mix into each block, alternating. -/
def fillSubkeys (boxes : Array UInt32) (saltA saltB : UInt64) :
    Nat → Nat → UInt64 → Array UInt32 → Array UInt32 × UInt64 × UInt64 × UInt64
  | 0, _, block, subkeys => (subkeys, block, saltA, saltB)
  | count + 1, i, block, subkeys =>
    let block := encrypt subkeys boxes (block ^^^ saltA)
    let subkeys := (subkeys.set! i (leftHalf block)).set! (i + 1) (rightHalf block)
    fillSubkeys boxes saltB saltA count (i + 2) block subkeys

/-- Fills the rest of the boxes with encrypted blocks, as for the subkeys. -/
def fillBoxes (subkeys : Array UInt32) (saltA saltB : UInt64) :
    Nat → Nat → UInt64 → Array UInt32 → Array UInt32
  | 0, _, _, boxes => boxes
  | count + 1, i, block, boxes =>
    let block := encrypt subkeys boxes (block ^^^ saltA)
    let boxes := (boxes.set! i (leftHalf block)).set! (i + 1) (rightHalf block)
    fillBoxes subkeys saltB saltA count (i + 2) block boxes

/-- Mixes a key and a salt of two blocks into the tables. -/
def expandKey (state : Blowfish) (key : Array UInt32) (saltA saltB : UInt64) : Blowfish :=
  let ⟨subkeys, boxes⟩ := state
  let subkeys := mixKey subkeys key
  let (subkeys, block, saltA, saltB) := fillSubkeys boxes saltA saltB 9 0 0 subkeys
  let boxes := fillBoxes subkeys saltA saltB 512 0 block boxes
  ⟨subkeys, boxes⟩

/-- Mixes two keys in turn into the tables, a number of times. -/
def expandRepeatedly (first second : Array UInt32) : Nat → Blowfish → Blowfish
  | 0, state => state
  | count + 1, state =>
    expandRepeatedly first second count ((state.expandKey first 0 0).expandKey second 0 0)

/-- Encrypts a block a number of times over. -/
def encryptRepeatedly (state : Blowfish) : Nat → UInt64 → UInt64
  | 0, block => block
  | count + 1, block =>
    encryptRepeatedly state count (encrypt state.subkeys state.boxes block)

end Blowfish

end AccountSidecar.Crypto
