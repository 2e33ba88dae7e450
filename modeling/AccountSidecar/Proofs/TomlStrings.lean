import AccountSidecar.Toml.Reader
import AccountSidecar.Toml.Writer
import Mathlib.Algebra.Group.Nat.Defs
import Mathlib.Data.List.TakeDrop

/-!
# Reading back strings and keys

A string is read back from its written form, whatever characters it has: quotes, backslashes and
controls are written as escapes, and each escape is read as its character (`string?_stringText`).
The same holds of a key, bare or in quotes (`key?_keyText`).
-/

namespace AccountSidecar.Toml

open Text

/-- A hexadecimal digit is read as its value. -/
theorem hexValue?_hexDigit : ∀ n < 16, hexValue? (hexDigit n) = some n := by decide

/-- A number has as many hexadecimal digits as are asked for. -/
theorem length_hexDigits (width n : Nat) : (hexDigits width n).length = width := by
  induction width generalizing n with
  | zero => rfl
  | succ width ih => rw [hexDigits, List.length_append, ih, List.length_singleton]

/-- One more digit is read behind those of a number. -/
theorem hexNumber?_snoc {count start n d : Nat} {digits rest : List Char} {c : Char}
    (length : digits.length = count)
    (front : hexNumber? count start (digits ++ c :: rest) = some (n, c :: rest))
    (digit : hexValue? c = some d) :
    hexNumber? (count + 1) start (digits ++ c :: rest) = some (16 * n + d, rest) := by
  induction digits generalizing count start with
  | nil =>
    obtain rfl : count = 0 := length.symm
    obtain ⟨rfl, -⟩ := Prod.mk.inj (Option.some.inj front)
    simp [hexNumber?, digit]
  | cons a digits ih =>
    obtain ⟨count, rfl⟩ : ∃ m, count = m + 1 := ⟨digits.length, length.symm⟩
    rw [List.cons_append, hexNumber?] at front ⊢
    obtain ⟨value, read, front⟩ := Option.bind_eq_some_iff.mp front
    rw [read, Option.bind_some]
    exact ih (Nat.succ.inj length) front

/-- The last hexadecimal digits of a number are read as what they write. -/
theorem hexNumber?_hexDigits (count start n : Nat) (rest : List Char) :
    hexNumber? count start (hexDigits count n ++ rest) =
      some (16 ^ count * start + n % 16 ^ count, rest) := by
  induction count generalizing n rest with
  | zero => simp [hexNumber?, hexDigits, Nat.mod_one]
  | succ count ih =>
    have digit := hexValue?_hexDigit (n % 16) (Nat.mod_lt n (by decide))
    rw [hexDigits, List.append_assoc, List.singleton_append,
      hexNumber?_snoc (length_hexDigits count (n / 16)) (ih _ _) digit]
    have value : n % 16 ^ (count + 1) = n % 16 + 16 * (n / 16 % 16 ^ count) := by
      rw [Nat.pow_succ', Nat.mod_mul]
    rw [value, Nat.pow_succ', Nat.mul_add, Nat.mul_assoc, Nat.add_assoc,
      Nat.add_comm (16 * _) (n % 16)]

/-- A control is one of the first code points. -/
theorem toNat_lt_of_isControl {c : Char} (control : isControl c = true) : c.toNat < 0x80 := by
  simp only [isControl, Bool.or_eq_true, Bool.and_eq_true, decide_eq_true_eq,
    beq_iff_eq] at control
  omega

/-- A control is read back from its hexadecimal escape. -/
theorem escape?_control {c : Char} (control : isControl c = true) (rest : List Char) :
    escape? ('u' :: hexDigits 4 c.toNat ++ rest) = some (c, rest) := by
  have small := toNat_lt_of_isControl control
  have whole : 16 ^ 4 * 0 + c.toNat % 16 ^ 4 = c.toNat := by omega
  rw [List.cons_append, escape?, if_pos rfl, hexChar?, hexNumber?_hexDigits, whole]
  simp [show c.toNat < 0xD800 by omega, Char.ofNat_toNat]

/-- A character is written as an escape of one letter, as one of four digits, or as itself. -/
theorem stringChar_cases (c : Char) :
    (∃ e, escaped? e = some c ∧ e ≠ 'u' ∧ e ≠ 'U' ∧ e ≠ '\r' ∧ stringChar c = ['\\', e]) ∨
      (isControl c = true ∧ stringChar c = '\\' :: 'u' :: hexDigits 4 c.toNat) ∨
      (c ≠ '"' ∧ c ≠ '\\' ∧ isControl c = false ∧ stringChar c = [c]) := by
  by_cases short : c ∈ ['"', '\\', '\x08', '\n', '\x0c', '\r']
  · refine .inl ?_
    simp only [List.mem_cons, List.not_mem_nil, or_false] at short
    rcases short with rfl | rfl | rfl | rfl | rfl | rfl <;>
      (refine ⟨_, ?_, ?_, ?_, ?_, rfl⟩ <;> decide)
  · refine .inr ?_
    simp only [List.mem_cons, List.not_mem_nil, or_false, not_or] at short
    obtain ⟨quote, backslash, backspace, feed, page, carriage⟩ := short
    unfold stringChar
    rw [if_neg quote, if_neg backslash, if_neg backspace, if_neg feed, if_neg page,
      if_neg carriage]
    split
    · rename_i control
      exact .inl ⟨control, rfl⟩
    · rename_i plain
      exact .inr ⟨quote, backslash, Bool.eq_false_iff.mpr plain, rfl⟩

/-- A character is read back from its form inside a string. -/
theorem basicFrom_stringChar (fuel : Nat) (c : Char) (rest : List Char) :
    basicFrom (fuel + 1) (stringChar c ++ rest) =
      (basicFrom fuel rest).map fun r => (c :: r.1, r.2) := by
  have opening : '\\' ≠ '"' := by decide
  rcases stringChar_cases c with ⟨e, read, four, eight, -, written⟩ | ⟨control, written⟩ |
    ⟨quote, backslash, plain, written⟩
  · rw [written, List.cons_append, List.singleton_append, basicFrom, if_neg opening, if_pos rfl,
      escape?, if_neg four, if_neg eight, read]
    rfl
  · rw [written, List.cons_append, basicFrom, if_neg opening, if_pos rfl,
      escape?_control control, Option.bind_some]
  · rw [written, List.singleton_append, basicFrom, if_neg quote, if_neg backslash, plain,
      if_neg Bool.false_ne_true]

/-- The characters of a string are read back up to its closing quote. -/
theorem basicFrom_stringChars {fuel : Nat} {s : List Char} (rest : List Char)
    (enough : s.length < fuel) :
    basicFrom fuel (s.flatMap stringChar ++ '"' :: rest) = some (s, rest) := by
  induction s generalizing fuel with
  | nil =>
    obtain ⟨fuel, rfl⟩ : ∃ m, fuel = m + 1 := ⟨fuel - 1, by omega⟩
    rw [List.flatMap_nil, List.nil_append, basicFrom, if_pos rfl]
  | cons c s ih =>
    obtain ⟨fuel, rfl⟩ : ∃ m, fuel = m + 1 := ⟨fuel - 1, by omega⟩
    rw [List.length_cons] at enough
    rw [List.flatMap_cons, List.append_assoc, basicFrom_stringChar, ih (by omega)]
    rfl

/-- A character inside a string is written with one character at least, and the first one is no
quote. -/
theorem stringChar_head (c : Char) : ∃ a more, stringChar c = a :: more ∧ a ≠ '"' := by
  rcases stringChar_cases c with ⟨e, -, -, -, -, written⟩ | ⟨-, written⟩ |
    ⟨quote, -, -, written⟩
  · exact ⟨_, _, written, by decide⟩
  · exact ⟨_, _, written, by decide⟩
  · exact ⟨_, _, written, quote⟩

/-- A string is not shorter in writing. -/
theorem length_le_stringChars (s : List Char) : s.length ≤ (s.flatMap stringChar).length := by
  induction s with
  | nil => exact Nat.le_refl 0
  | cons c s ih =>
    obtain ⟨a, more, written, -⟩ := stringChar_head c
    rw [List.flatMap_cons, written, List.length_append, List.length_cons, List.length_cons]
    omega

/-- The text of a string is read back behind its opening quote. -/
theorem basic?_stringChars (s rest : List Char) :
    basic? (s.flatMap stringChar ++ '"' :: rest) = some (s, rest) := by
  have longer := length_le_stringChars s
  refine basicFrom_stringChars rest ?_
  rw [List.length_append, List.length_cons]
  omega

/-- A string is written between quotes. -/
theorem stringText_append (s : String) (rest : List Char) :
    stringText s ++ rest = '"' :: (s.toList.flatMap stringChar ++ '"' :: rest) := by
  simp [stringText]

/-- Behind a quote that two more do not follow stands a string on one line. -/
theorem string?_quote {s : List Char} (single : ¬ ['"', '"'] <+: s) :
    string? ('"' :: s) = basic? s := by
  have other : '"' ≠ '\'' := by decide
  unfold string?
  split
  · rename_i more same
    exact absurd ⟨more, (List.cons.inj same).2.symm⟩ single
  · rename_i same
    rw [(List.cons.inj same).2]
  · rename_i same
    exact absurd (List.cons.inj same).1 other
  · rename_i same
    exact absurd (List.cons.inj same).1 other
  · rename_i none _ _
    exact absurd rfl (none s)

/-- A string is read back from its written form where no quote follows. -/
theorem string?_stringText (s : String) {rest : List Char} (apart : rest.head? ≠ some '"') :
    string? (stringText s ++ rest) = some (s.toList, rest) := by
  rw [stringText_append, string?_quote ?_, basic?_stringChars]
  rintro ⟨more, same⟩
  cases letters : s.toList with
  | nil =>
    -- The closing quote stands behind the opening one, and what follows would have to be a third.
    rw [letters] at same
    exact apart (by rw [← (List.cons.inj same).2]; rfl)
  | cons c t =>
    obtain ⟨a, others, written, other⟩ := stringChar_head c
    rw [letters, List.flatMap_cons, written] at same
    exact other (List.cons.inj same).1.symm

/-- No hexadecimal digit is a carriage return. -/
theorem carriage_not_mem_hexDigits (width n : Nat) : '\r' ∉ hexDigits width n := by
  have none : ∀ d < 16, hexDigit d ≠ '\r' := by decide
  induction width generalizing n with
  | zero => exact List.not_mem_nil
  | succ width ih =>
    rw [hexDigits, List.mem_append, List.mem_singleton, not_or]
    exact ⟨ih _, Ne.symm (none _ (Nat.mod_lt n (by decide)))⟩

/-- A written string holds no carriage return, whatever the string. -/
theorem carriage_not_mem_stringText (s : String) : '\r' ∉ stringText s := by
  have each (c : Char) : '\r' ∉ stringChar c := by
    rcases stringChar_cases c with ⟨e, -, -, -, other, written⟩ | ⟨-, written⟩ |
      ⟨-, -, plain, written⟩
    · simp [written, Ne.symm other]
    · simp [written, carriage_not_mem_hexDigits]
    · rw [written, List.mem_singleton]
      rintro rfl
      exact absurd plain (by decide)
  simp [stringText, each]

/-- The form of a key: bare, or a string where its characters do not allow that. -/
theorem keyText_cases (key : String) :
    (∃ c s, key.toList = c :: s ∧ keyText key = c :: s ∧ ∀ a ∈ c :: s, isBareKeyChar a = true) ∨
      keyText key = stringText key := by
  unfold keyText
  split
  · rename_i bare
    simp only [Bool.and_eq_true, Bool.not_eq_true', List.all_eq_true] at bare
    obtain ⟨given, bare⟩ := bare
    cases letters : key.toList with
    | nil =>
      rw [String.toList_eq_nil_iff.mp letters] at given
      cases given
    | cons c s =>
      rw [letters] at bare
      exact .inl ⟨c, s, rfl, rfl, bare⟩
  · exact .inr rfl

/-- Whether nothing that could belong to a bare key follows. -/
def EndsKey (rest : List Char) : Prop := ∀ c ∈ rest.head?, isBareKeyChar c = false

/-- A key is read back as one part. -/
theorem keyPart?_keyText (key : String) {rest : List Char} (ends : EndsKey rest) :
    keyPart? (keyText key ++ rest) = some (key, rest) := by
  rcases keyText_cases key with ⟨c, s, letters, written, bare⟩ | written
  · have first : isBareKeyChar c = true := bare c List.mem_cons_self
    have span : ((c :: s) ++ rest).span isBareKeyChar = (c :: s, rest) := by
      rw [List.span_eq_takeWhile_dropWhile, List.takeWhile_append_of_pos bare,
        List.dropWhile_append_of_pos bare]
      cases rest with
      | nil => simp
      | cons a rest =>
        have stop : isBareKeyChar a = false := ends a rfl
        simp [stop]
    rw [written, List.cons_append]
    unfold keyPart?
    split
    · rename_i same
      rw [(List.cons.inj same).1] at first
      exact absurd first (by decide)
    · rename_i same
      rw [(List.cons.inj same).1] at first
      exact absurd first (by decide)
    · rw [← List.cons_append, span]
      dsimp only
      rw [List.isEmpty_cons, if_neg Bool.false_ne_true, ← letters, String.ofList_toList]
  · rw [written, stringText_append, keyPart?, basic?_stringChars, Option.map_some,
      String.ofList_toList]

/-- A key is read back from its written form where a key ends there and no dot follows. -/
theorem key?_keyText (key : String) {rest more : List Char} {c : Char} (ends : EndsKey rest)
    (next : rest.dropWhile isSpace = c :: more) (single : c ≠ '.') :
    key? (keyText key ++ rest) = some ([], key, c :: more) := by
  have parts (fuel : Nat) :
      keyFrom? (fuel + 1) (keyText key ++ rest) = some ([key], c :: more) := by
    rw [keyFrom?, keyPart?_keyText key ends, Option.bind_some]
    dsimp only
    rw [next]
    split
    · rename_i dot
      exact absurd (List.cons.inj dot).1 single
    · rfl
  rw [key?, parts]
  rfl

end AccountSidecar.Toml
