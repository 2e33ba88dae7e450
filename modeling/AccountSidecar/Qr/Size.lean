/-!
# Sizes of QR codes

How large the symbol of a text becomes at the medium level of error correction. The bytes of the
text are cut into runs of digits, of the symbol alphabet and of other bytes, where only runs of
twenty or more count as such; the smallest version that holds all runs gives the number of modules.
-/

namespace AccountSidecar.Qr

/-- How the bytes of a run are written. -/
inductive Mode where
  | numeric
  | alphanumeric
  | byte
  deriving DecidableEq, Repr

/-- A run of bytes that are written alike. -/
structure Run where
  mode : Mode
  length : Nat
  deriving DecidableEq, Repr

/-- Whether the byte is a digit. -/
def isNumeric (b : UInt8) : Bool := 0x30 ≤ b && b ≤ 0x39

/-- The bytes of the symbol alphabet that are neither digits nor letters. -/
def symbolBytes : List UInt8 := [0x20, 0x24, 0x25, 0x2A, 0x2B, 0x2D, 0x2E, 0x2F, 0x3A]

/-- Whether the byte belongs to the symbol alphabet. -/
def isAlphanumeric (b : UInt8) : Bool :=
  isNumeric b || (0x41 ≤ b && b ≤ 0x5A) || symbolBytes.contains b

/-- A byte run that is either of a class or not. -/
abbrev Piece := Bool × List UInt8

/-- Puts a byte outside the class in front of the pieces. -/
def consOutside (b : UInt8) : List Piece → List Piece
  | (false, bytes) :: rest => (false, b :: bytes) :: rest
  | pieces => (false, [b]) :: pieces

/-- Cuts bytes into maximal runs of a class that have at least `least` bytes, and what stands
between them. The fuel bounds the bytes. -/
def splitRuns (inClass : UInt8 → Bool) (least : Nat) : Nat → List UInt8 → List Piece
  | 0, _ => []
  | _ + 1, [] => []
  | fuel + 1, b :: rest =>
    let run := (b :: rest).takeWhile inClass
    if least ≤ run.length && !run.isEmpty then
      (true, run) :: splitRuns inClass least fuel ((b :: rest).drop run.length)
    else if run.isEmpty then consOutside b (splitRuns inClass least fuel rest)
    else run.foldr consOutside (splitRuns inClass least fuel ((b :: rest).drop run.length))

/-- Cuts bytes into the part up to a last line feed, if it is nonempty and of the class
throughout, and the rest. -/
def splitWhole (inClass : UInt8 → Bool) (bytes : List UInt8) : List Piece :=
  let run := bytes.takeWhile inClass
  let rest := bytes.drop run.length
  if bytes.isEmpty then []
  else if run.isEmpty then [(false, bytes)]
  else if rest.isEmpty then [(true, run)]
  else if rest = [0x0A] then [(true, run), (false, rest)]
  else [(false, bytes)]

/-- The least length of a run that is written in a denser mode. -/
def leastRun : Nat := 20

/-- Cuts the bytes of a text that has `total` bytes by a class. -/
def split (total : Nat) (inClass : UInt8 → Bool) (bytes : List UInt8) : List Piece :=
  if total ≤ leastRun then splitWhole inClass bytes
  else splitRuns inClass leastRun (bytes.length + 1) bytes

/-- The runs of a text. -/
def runs (bytes : List UInt8) : List Run :=
  (split bytes.length isNumeric bytes).flatMap fun (numeric, piece) =>
    if numeric then [⟨.numeric, piece.length⟩]
    else
      (split bytes.length isAlphanumeric piece).map fun (alphanumeric, part) =>
        ⟨if alphanumeric then .alphanumeric else .byte, part.length⟩

/-- The bits that the length of a run takes; it depends on which of three bands the version is
in. -/
def lengthBits (mode : Mode) (version : Nat) : Nat :=
  match mode with
  | .numeric => if version < 10 then 10 else if version < 27 then 12 else 14
  | .alphanumeric => if version < 10 then 9 else if version < 27 then 11 else 13
  | .byte => if version < 10 then 8 else 16

/-- The bits that the content of a run takes. -/
def contentBits (r : Run) : Nat :=
  match r.mode with
  | .numeric =>
    r.length / 3 * 10 + (if r.length % 3 = 2 then 7 else if r.length % 3 = 1 then 4 else 0)
  | .alphanumeric => r.length / 2 * 11 + r.length % 2 * 6
  | .byte => r.length * 8

/-- The bits that the runs take in a version. -/
def neededBits (version : Nat) (runs : List Run) : Nat :=
  runs.foldl (fun n r => n + 4 + lengthBits r.mode version + contentBits r) 0

/-- The bytes of data that each version holds at the medium level. -/
def capacities : List Nat := [
  16, 28, 44, 64, 86, 108, 124, 154, 182, 216, 254, 290, 334, 365, 415, 453, 507, 563, 627, 669,
  714, 782, 860, 914, 1000, 1062, 1128, 1193, 1267, 1373, 1455, 1541, 1631, 1725, 1812, 1914, 1992,
  2102, 2216, 2334]

/-- The least version from a given one on that holds some bits. -/
def versionFor? (start bits : Nat) : Option Nat :=
  (((capacities.zipIdx 1).drop (start - 1)).find? fun c => bits ≤ 8 * c.1).map (·.2)

/-- The band of a version that fixes how lengths are written. -/
def band (version : Nat) : Nat := if version < 10 then 0 else if version < 27 then 1 else 2

/-- The least version that holds the runs: a version is guessed for the lengths of one band, and
again from there if it lies in another. -/
def fit? (runs : List Run) : Nat → Nat → Option Nat
  | 0, start => some start
  | rounds + 1, start =>
    (versionFor? start (neededBits start runs)).bind fun version =>
      if band version = band start then some version else fit? runs rounds version

/-- The measures of a drawn symbol: pixels a side, pixels a module, modules a side. -/
structure Size where
  pixels : Nat
  box : Nat
  modules : Nat
  deriving DecidableEq, Repr

/-- The modules of the quiet zone on both sides. -/
def quietModules : Nat := 8

/-- The side that drawings aim at, in pixels. -/
def targetPixels : Nat := 256

/-- The measures of the symbol of a text, unless no version holds it. -/
def size? (text : String) : Option Size :=
  (fit? (runs text.toUTF8.toList) 3 1).map fun version =>
    let modules := 17 + 4 * version
    let box := max 1 (targetPixels / (modules + quietModules))
    ⟨(modules + quietModules) * box, box, modules⟩

end AccountSidecar.Qr
