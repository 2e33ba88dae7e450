/-!
# Character classes and trimming

A character class is given by a list of ranges of code points, both ends included (`inRanges`);
other modules give the longer lists. The characters that count as white space wherever text is
trimmed are the Unicode separators and the information separators `U+001C` to `U+001F`.
-/

namespace AccountSidecar.Text

/-- Whether the code point of a character lies in one of the ranges. -/
def inRanges (ranges : Array (Nat × Nat)) (c : Char) : Bool :=
  ranges.any fun r => r.1 ≤ c.toNat && c.toNat ≤ r.2

/-- Whether trimming removes the character. -/
def isBlank (c : Char) : Bool :=
  let n := c.toNat
  (0x09 ≤ n && n ≤ 0x0D) || (0x1C ≤ n && n ≤ 0x20) || n == 0x85 || n == 0xA0 || n == 0x1680 ||
    (0x2000 ≤ n && n ≤ 0x200A) || n == 0x2028 || n == 0x2029 || n == 0x202F || n == 0x205F ||
    n == 0x3000

/-- Drops the leading characters of a class. -/
def trimStart (p : Char → Bool) (s : List Char) : List Char := s.dropWhile p

/-- Drops the trailing characters of a class. -/
def trimEnd (p : Char → Bool) : List Char → List Char
  | [] => []
  | c :: rest =>
    match trimEnd p rest with
    | [] => if p c then [] else [c]
    | kept => c :: kept

/-- Drops the leading and the trailing characters of a class. -/
def trimBoth (p : Char → Bool) (s : List Char) : List Char := trimEnd p (trimStart p s)

/-- Removes white space from both ends. -/
def strip (s : String) : String := String.ofList (trimBoth isBlank s.toList)

/-- Whether nothing but white space stands in the text. -/
def isBlankText (s : String) : Bool := s.toList.all isBlank

/-- Removes one given character from the end, as often as it stands there. -/
def stripEndChar (c : Char) (s : String) : String := String.ofList (trimEnd (· == c) s.toList)

end AccountSidecar.Text
