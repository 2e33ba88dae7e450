import AccountSidecar.Text.CaseTable
import AccountSidecar.Text.Class

/-!
# Upper, lower and title case

Full Unicode case mapping: one character may become several, and a capital sigma at the end of a
word becomes the final small sigma.
-/

namespace AccountSidecar.Text

/-- Moves a code point by the run that holds it, if one does. -/
def shiftByRun (runs : Array (Nat × Nat × Nat × Int)) (c : Char) : Char :=
  match runs.find? fun r =>
      r.1 ≤ c.toNat && c.toNat ≤ r.2.1 && (c.toNat - r.1) % r.2.2.1 == 0 with
  | some r => Char.ofNat (Int.toNat (Int.ofNat c.toNat + r.2.2.2))
  | none => c

/-- The characters that a code point expands to, if it does. -/
def expansion? (table : Array (Nat × List Nat)) (c : Char) : Option (List Char) :=
  (table.find? fun e => e.1 == c.toNat).map fun e => e.2.map Char.ofNat

/-- The upper case of a character. -/
def upperChar (c : Char) : List Char :=
  if c.toNat < 0x80 then [c.toUpper]
  else (expansion? upperExpansions c).getD [shiftByRun upperRuns c]

/-- The lower case of a character, away from the end of a word. -/
def lowerChar (c : Char) : List Char :=
  if c.toNat < 0x80 then [c.toLower]
  else (expansion? lowerExpansions c).getD [shiftByRun lowerRuns c]

/-- The title case of a character. -/
def titleChar (c : Char) : List Char :=
  if c.toNat < 0x80 then [c.toUpper] else (expansion? titleExceptions c).getD (upperChar c)

/-- Whether, ignorable characters aside, the next character is cased. -/
def meetsCased : List Char → Bool
  | [] => false
  | c :: rest =>
    if inRanges caseIgnorableRanges c then meetsCased rest else inRanges casedRanges c

/-- Lower case of a text whose reversed left context is `before`. -/
def lowerAfter (before : List Char) : List Char → List Char
  | [] => []
  | c :: rest =>
    let lowered :=
      if c = 'Σ' then [if meetsCased before && !meetsCased rest then 'ς' else 'σ'] else lowerChar c
    lowered ++ lowerAfter (c :: before) rest

/-- The text in upper case. -/
def upper (s : String) : String := String.ofList (s.toList.flatMap upperChar)

/-- The text in lower case. -/
def lower (s : String) : String := String.ofList (lowerAfter [] s.toList)

/-- The text in lower case but for its first character, which is in title case. -/
def capitalize (s : String) : String :=
  match s.toList with
  | [] => ""
  | c :: rest => String.ofList (titleChar c ++ lowerAfter [c] rest)

end AccountSidecar.Text
