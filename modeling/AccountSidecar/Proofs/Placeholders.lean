import AccountSidecar.Proofs.Fields
import AccountSidecar.Template.Rendering
import Mathlib.Data.List.Infix
import Mathlib.Data.List.TakeDrop

/-!
# Templates of literal text and placeholders

The simple templates: literal text in which no tag opens, and placeholders that stand for the value
of a name, with or without a dot before it and with blanks around it. What is done to the text of a
template before it is cut into segments turns such a template into one of the same kind that stands
for the same: dotted placeholders are brought into plain form (`undotted_written`) and newlines are
unified, which changes blanks only (`unifyNewlines_written`).
-/

namespace AccountSidecar.Template

open Text

/-- The characters that matter at the edges of a tag. -/
def tagSigns : List Char := ['\x7b', '\x7d', '%', '#', '-', '+', '.']

/-- The texts that open a tag. -/
def tagOpenings : List (List Char) := [['\x7b', '\x7b'], ['\x7b', '%'], ['\x7b', '#']]

/-- The names that mean something of their own in a template: the operator and the constants of
expressions, the template itself and the one that it extends, and the functions that every template
can call. -/
def specialNames : List String :=
  ["not", "true", "True", "false", "False", "none", "None", "self", "super",
    "range", "dict", "lipsum", "cycler", "joiner", "namespace"]

/-- Whether a character may start the name of a placeholder. -/
def startsName (c : Char) : Bool := c.isAlpha || c == '_'

/-- Whether a character may stand in the name of a placeholder. -/
def continuesName (c : Char) : Bool := c.isAlphanum || c == '_'

/-- Whether a text is an ASCII identifier. -/
def isPlainName : List Char → Bool
  | [] => false
  | c :: rest => startsName c && rest.all continuesName

/-- Literal text of a template: no tag opens in it or with its last character, and its newlines are
those of the output. -/
structure Literal where
  text : List Char
  noReturn : '\r' ∉ text
  noOpening : ∀ opening ∈ tagOpenings, ¬ opening <:+: text
  noBrace : text.getLast? ≠ some '\x7b'

/-- A placeholder for the value of a name, between blanks and perhaps with a dot before the name. -/
structure Placeholder where
  dotted : Bool
  before : List Char
  name : String
  after : List Char
  blankBefore : ∀ c ∈ before, isBlank c = true
  blankAfter : ∀ c ∈ after, isBlank c = true
  plainName : isPlainName name.toList = true
  ordinary : name ∉ specialNames

/-- A piece of a simple template. -/
inductive Piece where
  | literal (l : Literal)
  | placeholder (p : Placeholder)

/-- What stands between the blanks of a placeholder. -/
def Placeholder.core (p : Placeholder) : List Char :=
  if p.dotted then '.' :: p.name.toList else p.name.toList

/-- What stands between the braces of a placeholder. -/
def Placeholder.content (p : Placeholder) : List Char := p.before ++ p.core ++ p.after

/-- The text of a placeholder. -/
def Placeholder.written (p : Placeholder) : List Char :=
  '\x7b' :: '\x7b' :: p.content ++ ['\x7d', '\x7d']

/-- The text of a piece. -/
def Piece.written : Piece → List Char
  | .literal l => l.text
  | .placeholder p => p.written

/-- The text of a simple template. -/
def written (pieces : List Piece) : List Char := pieces.flatMap Piece.written

/-- The text of a simple template is that of its first piece and that of the others. -/
theorem written_cons (piece : Piece) (rest : List Piece) :
    written (piece :: rest) = piece.written ++ written rest := rfl

/-- What a piece stands for: itself, or the value of its name, which is empty where there is none.
-/
def Piece.expansion (data : Keyed String) : Piece → String
  | .literal l => String.ofList l.text
  | .placeholder p => (Keyed.find? p.name data).getD ""

/-- What the pieces of a simple template stand for, one after another. -/
def expansion (data : Keyed String) (pieces : List Piece) : String :=
  String.join (pieces.map (Piece.expansion data))

/-- What pieces stand for is what the first of them stands for and what the others do. -/
theorem expansion_cons (data : Keyed String) (piece : Piece) (rest : List Piece) :
    expansion data (piece :: rest) = piece.expansion data ++ expansion data rest :=
  String.join_cons

section Characters

variable {c : Char}

/-- A character that may start a name may also stand in it. -/
theorem continuesName_of_startsName (starts : startsName c = true) : continuesName c = true := by
  unfold startsName at starts
  unfold continuesName Char.isAlphanum
  rcases (Bool.or_eq_true _ _).mp starts with letter | line
  · rw [letter, Bool.true_or, Bool.true_or]
  · rw [line, Bool.or_true]

/-- The characters of a name are ASCII. -/
theorem toNat_lt_of_continuesName (continues : continuesName c = true) : c.toNat < 0x80 := by
  rcases (Bool.or_eq_true _ _).mp continues with alphanumeric | line
  · have ranges : ('A'.val ≤ c.val ∧ c.val ≤ 'Z'.val ∨ 'a'.val ≤ c.val ∧ c.val ≤ 'z'.val) ∨
        '0'.val ≤ c.val ∧ c.val ≤ '9'.val := by
      change ((decide ('A'.val ≤ c.val ∧ c.val ≤ 'Z'.val) ||
        (decide ('a'.val ≤ c.val) && decide (c.val ≤ 'z'.val))) ||
        (decide ('0'.val ≤ c.val) && decide (c.val ≤ '9'.val))) = true at alphanumeric
      simpa only [Bool.or_eq_true, Bool.and_eq_true, decide_eq_true_eq] using alphanumeric
    simp only [UInt32.le_iff_toNat_le] at ranges
    change (65 ≤ c.toNat ∧ c.toNat ≤ 90 ∨ 97 ≤ c.toNat ∧ c.toNat ≤ 122) ∨
      48 ≤ c.toNat ∧ c.toNat ≤ 57 at ranges
    omega
  · rw [eq_of_beq line]
    decide

/-- What holds of every character of a name. -/
structure IsNameLetter (c : Char) : Prop where
  word : isWord c = true
  continues : continuesIdentifier c = true
  notBlank : isBlank c = false
  noReturn : c ≠ '\r'
  noFeed : c ≠ '\n'
  noSign : c ∉ tagSigns

/-- The characters of a name are word characters, and neither blanks nor line ends nor signs of a
tag. -/
theorem isNameLetter_of_continuesName (continues : continuesName c = true) : IsNameLetter c := by
  have each : ∀ n < 0x80, continuesName (Char.ofNat n) = true →
      isWord (Char.ofNat n) = true ∧ continuesIdentifier (Char.ofNat n) = true ∧
        isBlank (Char.ofNat n) = false ∧ Char.ofNat n ≠ '\r' ∧ Char.ofNat n ≠ '\n' ∧
        Char.ofNat n ∉ tagSigns := by decide
  have own := each c.toNat (toNat_lt_of_continuesName continues)
  rw [Char.ofNat_toNat] at own
  obtain ⟨word, inner, notBlank, noReturn, noFeed, noSign⟩ := own continues
  exact ⟨word, inner, notBlank, noReturn, noFeed, noSign⟩

/-- The first character of a name may start an identifier but no number. -/
theorem letter_of_startsName (starts : startsName c = true) :
    startsIdentifier c = true ∧ isDecimal c = false ∧ c.isDigit = false := by
  have each : ∀ n < 0x80, startsName (Char.ofNat n) = true →
      startsIdentifier (Char.ofNat n) = true ∧ isDecimal (Char.ofNat n) = false ∧
        (Char.ofNat n).isDigit = false := by decide
  have own := each c.toNat (toNat_lt_of_continuesName (continuesName_of_startsName starts))
  rw [Char.ofNat_toNat] at own
  exact own starts

/-- The runs of code points of blanks. -/
def blankRuns : List (Nat × Nat) :=
  [(0x09, 0x0D), (0x1C, 0x20), (0x85, 0x85), (0xA0, 0xA0), (0x1680, 0x1680), (0x2000, 0x200A),
    (0x2028, 0x2029), (0x202F, 0x202F), (0x205F, 0x205F), (0x3000, 0x3000)]

/-- Every blank lies in one of the runs. -/
theorem exists_run_of_isBlank (blank : isBlank c = true) :
    ∃ run ∈ blankRuns, run.1 ≤ c.toNat ∧ c.toNat ≤ run.2 := by
  simp only [isBlank, Bool.or_eq_true, Bool.and_eq_true, decide_eq_true_eq, beq_iff_eq] at blank
  simp only [blankRuns, List.mem_cons, exists_eq_or_imp, List.not_mem_nil, or_false,
    exists_eq_left]
  omega

/-- Whether ranges of code points keep off those of blanks. -/
def keepsOffBlanks (ranges : Array (Nat × Nat)) : Bool :=
  ranges.toList.all fun r => blankRuns.all fun run => Nat.blt r.2 run.1 || Nat.blt run.2 r.1

/-- Ranges that keep off the blanks have none of them. -/
theorem inRanges_of_isBlank {ranges : Array (Nat × Nat)} (apart : keepsOffBlanks ranges = true)
    (blank : isBlank c = true) : inRanges ranges c = false := by
  obtain ⟨run, inside, low, high⟩ := exists_run_of_isBlank blank
  unfold inRanges
  rw [← Array.any_toList, List.any_eq_false]
  intro r among
  have off := List.all_eq_true.mp (List.all_eq_true.mp apart r among) run inside
  simp only [Bool.or_eq_true, Nat.blt_eq] at off
  simp only [Bool.and_eq_true, decide_eq_true_eq]
  omega

/-- A space is blank. -/
theorem isBlank_of_mem_space : ∀ c ∈ [' '], isBlank c = true := List.all_eq_true.mp rfl

/-- No blank is part of a name. -/
theorem isNameChar_of_isBlank (blank : isBlank c = true) : isNameChar c = false := by
  -- Beyond ASCII the parts of a name are told by tables; no range of them meets a run of blanks.
  have words : inRanges wordRanges c = false := inRanges_of_isBlank (by decide +kernel) blank
  have starts : inRanges identifierStartRanges c = false :=
    inRanges_of_isBlank (by decide +kernel) blank
  have follows : inRanges identifierFollowRanges c = false :=
    inRanges_of_isBlank (by decide +kernel) blank
  have ascii : ∀ n < 0x80, isBlank (Char.ofNat n) = true → isNameChar (Char.ofNat n) = false := by
    decide
  by_cases low : c.toNat < 0x80
  · have own := ascii c.toNat low
    rw [Char.ofNat_toNat] at own
    exact own blank
  · rw [isNameChar, isWord, continuesIdentifier, if_neg low, if_neg low, words, starts, follows]
    rfl

/-- No blank is a sign of a tag. -/
theorem not_mem_tagSigns_of_isBlank (blank : isBlank c = true) : c ∉ tagSigns := by
  have each : tagSigns.all (fun d => !isBlank d) = true := by decide
  intro inside
  have own := List.all_eq_true.mp each c inside
  rw [blank] at own
  cases own

end Characters

namespace Placeholder

variable (p : Placeholder)

/-- The name of a placeholder starts as a name must and has nothing but characters of a name. -/
theorem exists_name : ∃ c rest, p.name.toList = c :: rest ∧ startsName c = true ∧
    ∀ d ∈ c :: rest, continuesName d = true := by
  have plain := p.plainName
  cases letters : p.name.toList with
  | nil =>
    rw [letters] at plain
    cases plain
  | cons c rest =>
    rw [letters, isPlainName, Bool.and_eq_true, List.all_eq_true] at plain
    exact ⟨c, rest, rfl, plain.1,
      List.forall_mem_cons.mpr ⟨continuesName_of_startsName plain.1, plain.2⟩⟩

/-- Every character of the name is one of a name. -/
theorem isNameLetter_of_mem {c : Char} (inside : c ∈ p.name.toList) : IsNameLetter c := by
  obtain ⟨d, rest, letters, -, continues⟩ := p.exists_name
  exact isNameLetter_of_continuesName (continues c (letters ▸ inside))

/-- The text of a placeholder with more behind it. -/
theorem written_append (rest : List Char) :
    p.written ++ rest = '\x7b' :: '\x7b' :: (p.content ++ '\x7d' :: '\x7d' :: rest) := by
  simp only [written, List.cons_append, List.append_assoc, List.nil_append]

/-- What stands between the braces with more behind it. -/
theorem content_append (rest : List Char) :
    p.content ++ rest = p.before ++ (p.core ++ (p.after ++ rest)) := by
  rw [content, List.append_assoc, List.append_assoc]

/-- The name ends at the blanks behind it or at the braces. -/
theorem span_name (isPart : Char → Bool) (inName : ∀ c, IsNameLetter c → isPart c = true)
    (blank : ∀ c, isBlank c = true → isPart c = false) (brace : isPart '\x7d' = false)
    (rest : List Char) :
    (p.name.toList ++ (p.after ++ '\x7d' :: rest)).span isPart =
      (p.name.toList, p.after ++ '\x7d' :: rest) := by
  have own : ∀ c ∈ p.name.toList, isPart c = true :=
    fun c inside => inName c (p.isNameLetter_of_mem inside)
  rw [List.span_eq_takeWhile_dropWhile, List.takeWhile_append_of_pos own,
    List.dropWhile_append_of_pos own]
  cases letters : p.after with
  | nil => simp [brace]
  | cons c more =>
    have stop : isPart c = false := blank c (p.blankAfter c (letters ▸ List.mem_cons_self))
    simp [stop]

variable {p} in
/-- Nothing in a plain placeholder matters at the edge of a tag. -/
theorem not_mem_tagSigns_of_mem_content (undotted : p.dotted = false) {c : Char}
    (inside : c ∈ p.content) : c ∉ tagSigns := by
  rw [content, core, undotted, if_neg Bool.false_ne_true, List.mem_append,
    List.mem_append] at inside
  rcases inside with (before | own) | after
  · exact not_mem_tagSigns_of_isBlank (p.blankBefore c before)
  · exact (p.isNameLetter_of_mem own).noSign
  · exact not_mem_tagSigns_of_isBlank (p.blankAfter c after)

/-- Something stands between the blanks. -/
theorem core_ne_nil : p.core ≠ [] := by
  obtain ⟨c, rest, letters, -⟩ := p.exists_name
  unfold core
  split <;> simp [letters]

/-- Something stands between the braces. -/
theorem content_ne_nil : p.content ≠ [] := fun empty =>
  p.core_ne_nil (List.append_eq_nil_iff.mp (List.append_eq_nil_iff.mp empty).1).2

/-- No line ends between the blanks. -/
theorem solid_of_mem_core {c : Char} (inside : c ∈ p.core) : c ≠ '\r' ∧ c ≠ '\n' := by
  have own (named : c ∈ p.name.toList) : c ≠ '\r' ∧ c ≠ '\n' :=
    ⟨(p.isNameLetter_of_mem named).noReturn, (p.isNameLetter_of_mem named).noFeed⟩
  unfold core at inside
  split at inside
  · rcases List.mem_cons.mp inside with rfl | named
    · decide
    · exact own named
  · exact own inside

/-- The placeholder in plain form. -/
def plain : Placeholder :=
  if p.dotted then
    { dotted := false, before := [' '], name := p.name, after := [' '],
      blankBefore := isBlank_of_mem_space, blankAfter := isBlank_of_mem_space,
      plainName := p.plainName, ordinary := p.ordinary }
  else p

variable {p} in
/-- A dotted placeholder in plain form reads as it is put into the text. -/
theorem written_plain (dotted : p.dotted = true) : p.plain.written = placeholder p.name.toList := by
  unfold plain
  rw [if_pos dotted]
  simp only [written, content, core, Bool.false_eq_true, if_false, placeholder, List.cons_append,
    List.append_assoc, List.nil_append]

variable {p} in
/-- A placeholder without a dot is in plain form. -/
theorem plain_of_not_dotted (undotted : p.dotted = false) : p.plain = p := by
  rw [plain, undotted, if_neg Bool.false_ne_true]

/-- A plain form has no dot. -/
theorem dotted_plain : p.plain.dotted = false := by
  unfold plain
  split
  · rfl
  · exact eq_false_of_ne_true ‹_›

/-- A plain form has the name. -/
theorem name_plain : p.plain.name = p.name := by
  unfold plain
  split <;> rfl

/-- The placeholder with its newlines unified. -/
def unified : Placeholder :=
  { p with
    before := unifyNewlines p.before
    after := unifyNewlines p.after
    blankBefore := fun c inside => (mem_unifyNewlines inside).elim (· ▸ by decide) (p.blankBefore c)
    blankAfter := fun c inside => (mem_unifyNewlines inside).elim (· ▸ by decide) (p.blankAfter c) }

end Placeholder

/-- Whether no tag opens in a text, whatever follows it. -/
def IsInert : List Char → Prop
  | [] => True
  | c :: s => (∀ rest, startsTag (c :: s ++ rest) = false) ∧ IsInert s

section Inert

variable {s t : List Char}

/-- Tags open with a brace. -/
theorem startsTag_of_ne {c : Char} (other : c ≠ '\x7b') (s : List Char) :
    startsTag (c :: s) = false := by
  unfold startsTag
  split
  · rename_i same
    exact absurd (List.cons.inj same).1 other
  · rfl

/-- Inert texts make an inert text. -/
theorem IsInert.append (left : IsInert s) (right : IsInert t) : IsInert (s ++ t) := by
  induction s with
  | nil => exact right
  | cons c s ih =>
    refine ⟨fun rest => ?_, ih left.2⟩
    have inert : startsTag (c :: s ++ (t ++ rest)) = false := left.1 (t ++ rest)
    rwa [← List.append_assoc] at inert

/-- Text without braces is inert. -/
theorem isInert_of_not_mem (without : '\x7b' ∉ s) : IsInert s := by
  induction s with
  | nil => trivial
  | cons c s ih =>
    rw [List.mem_cons, not_or] at without
    exact ⟨fun rest => startsTag_of_ne (Ne.symm without.1) (s ++ rest), ih without.2⟩

/-- A brace before text in which nothing matters at the edge of a tag is inert. -/
theorem isInert_brace (given : s ≠ []) (apart : ∀ c ∈ s, c ∉ tagSigns) : IsInert ('\x7b' :: s) := by
  refine ⟨fun rest => ?_, isInert_of_not_mem fun inside => apart _ inside (by decide)⟩
  obtain ⟨c, more, rfl⟩ := List.exists_cons_of_ne_nil given
  have other := apart c List.mem_cons_self
  simp only [tagSigns, List.mem_cons, not_or] at other
  simp only [List.cons_append, startsTag, beq_false_of_ne other.1, beq_false_of_ne other.2.2.1,
    beq_false_of_ne other.2.2.2.1, Bool.or_self]

/-- Text in which no tag opens, not even with its last character, is inert. -/
theorem isInert_of_noOpening (noOpening : ∀ opening ∈ tagOpenings, ¬ opening <:+: s)
    (noBrace : s.getLast? ≠ some '\x7b') : IsInert s := by
  induction s with
  | nil => trivial
  | cons c s ih =>
    refine ⟨fun rest => ?_, ih (fun opening among inside => ?_) fun last => noBrace ?_⟩
    · by_cases brace : c = '\x7b'
      · subst brace
        cases s with
        | nil => exact absurd rfl noBrace
        | cons d s =>
          have closed (e : Char) (among : ['\x7b', e] ∈ tagOpenings) : d ≠ e := by
            rintro rfl
            exact noOpening _ among ⟨[], s, rfl⟩
          simp only [List.cons_append, startsTag, beq_false_of_ne (closed '\x7b' (by decide)),
            beq_false_of_ne (closed '%' (by decide)), beq_false_of_ne (closed '#' (by decide)),
            Bool.or_self]
      · exact startsTag_of_ne brace (s ++ rest)
    · exact noOpening opening among (inside.trans (List.suffix_cons c s).isInfix)
    · rw [List.getLast?_cons, last, Option.getD_some]

end Inert

section Undotted

variable {s : List Char}

/-- A dotted placeholder starts as a tag does. -/
theorem dottedPlaceholder?_of_not_startsTag (inert : startsTag s = false) :
    dottedPlaceholder? s = none := by
  unfold dottedPlaceholder?
  split
  · cases inert
  · rfl

/-- Inert text stays as it is. -/
theorem undottedFrom_append_of_inert (inert : IsInert s) (rest : List Char) :
    undottedFrom 0 (s ++ rest) = s ++ undottedFrom 0 rest := by
  induction s with
  | nil => rfl
  | cons c s ih =>
    rw [List.cons_append, undottedFrom, ← List.cons_append,
      dottedPlaceholder?_of_not_startsTag (inert.1 rest)]
    exact congrArg (c :: ·) (ih inert.2)

/-- Characters that are to be left out are dropped. -/
theorem undottedFrom_skip (s rest : List Char) :
    undottedFrom s.length (s ++ rest) = undottedFrom 0 rest := by
  induction s with
  | nil => rfl
  | cons c s ih => exact ih

variable {p : Placeholder}

/-- A dotted placeholder is found with its name. -/
theorem dottedPlaceholder?_written (dotted : p.dotted = true) (rest : List Char) :
    dottedPlaceholder? (p.written ++ rest) = some (p.name.toList, rest) := by
  have words := p.span_name isWord (fun c own => own.word)
    (fun c blank => (Bool.or_eq_false_iff.mp (isNameChar_of_isBlank blank)).1) (by decide)
    ('\x7d' :: rest)
  have given : p.name.toList.isEmpty = false := by
    obtain ⟨c, more, letters, -⟩ := p.exists_name
    rw [letters, List.isEmpty_cons]
  rw [p.written_append, p.content_append, Placeholder.core, if_pos dotted]
  unfold dottedPlaceholder?
  simp only [List.dropWhile_append_of_pos p.blankBefore, List.cons_append]
  rw [List.dropWhile_cons_of_neg (by decide)]
  simp only [words, List.dropWhile_append_of_pos p.blankAfter]
  rw [List.dropWhile_cons_of_neg (by decide)]
  simp only [given, Bool.false_eq_true, if_false]

/-- A plain placeholder is not taken for a dotted one. -/
theorem dottedPlaceholder?_plain (undotted : p.dotted = false) (rest : List Char) :
    dottedPlaceholder? (p.written ++ rest) = none := by
  obtain ⟨c, more, letters, -, continues⟩ := p.exists_name
  have own := isNameLetter_of_continuesName (continues c List.mem_cons_self)
  rw [p.written_append, p.content_append, Placeholder.core, undotted, if_neg Bool.false_ne_true,
    letters]
  unfold dottedPlaceholder?
  simp only [List.dropWhile_append_of_pos p.blankBefore, List.cons_append]
  rw [List.dropWhile_cons_of_neg (by rw [own.notBlank]; exact Bool.false_ne_true)]
  split
  · rename_i same
    have dot : c = '.' := (List.cons.inj same).1
    exact absurd (by rw [dot]; decide) own.noSign
  · rfl

/-- A dotted placeholder is brought into plain form, and a plain one stays as it is. -/
theorem undottedFrom_written (p : Placeholder) (rest : List Char) :
    undottedFrom 0 (p.written ++ rest) = p.plain.written ++ undottedFrom 0 rest := by
  let inner := '\x7b' :: p.content ++ ['\x7d', '\x7d']
  have braced : p.written ++ rest = '\x7b' :: (inner ++ rest) := rfl
  cases dotted : p.dotted with
  | true =>
    have found := dottedPlaceholder?_written dotted rest
    have skip : (inner ++ rest).length - rest.length = inner.length := by
      rw [List.length_append, Nat.add_sub_cancel]
    rw [braced] at found ⊢
    rw [undottedFrom, found]
    dsimp only
    rw [skip, undottedFrom_skip, Placeholder.written_plain dotted]
  | false =>
    have missed := dottedPlaceholder?_plain dotted rest
    -- The search goes on at the second brace, which opens nothing with what follows it.
    have opening : IsInert ('\x7b' :: p.content) :=
      isInert_brace p.content_ne_nil fun c => Placeholder.not_mem_tagSigns_of_mem_content dotted
    have inert : IsInert inner := opening.append (isInert_of_not_mem (by decide))
    rw [braced] at missed ⊢
    rw [undottedFrom, missed]
    dsimp only
    rw [undottedFrom_append_of_inert inert, Placeholder.plain_of_not_dotted dotted]
    rfl

end Undotted

/-- The piece with its placeholder in plain form. -/
def Piece.plain : Piece → Piece
  | .literal l => .literal l
  | .placeholder p => .placeholder p.plain

/-- The piece with the newlines of its placeholder unified. -/
def Piece.unified : Piece → Piece
  | .literal l => .literal l
  | .placeholder p => .placeholder p.unified

/-- Dotted placeholders are brought into plain form, and nothing else is changed. -/
theorem undotted_written (pieces : List Piece) :
    undotted (written pieces) = written (pieces.map Piece.plain) := by
  unfold undotted
  induction pieces with
  | nil => rfl
  | cons piece rest ih =>
    rw [List.map_cons, written_cons, written_cons, ← ih]
    cases piece with
    | literal l => exact undottedFrom_append_of_inert (isInert_of_noOpening l.noOpening l.noBrace) _
    | placeholder p => exact undottedFrom_written p _

/-- The newlines of a placeholder are unified one by one with those behind it. -/
theorem unifyNewlines_placeholder (p : Placeholder) (rest : List Char) :
    unifyNewlines (p.written ++ rest) = p.unified.written ++ unifyNewlines rest := by
  have solid : '\r' ∉ p.core := fun inside => (p.solid_of_mem_core inside).1 rfl
  have starts (s : List Char) : (p.core ++ s).head? ≠ some '\n' := by
    obtain ⟨c, more, core⟩ := List.exists_cons_of_ne_nil p.core_ne_nil
    rw [core, List.cons_append, List.head?_cons]
    exact fun same => (p.solid_of_mem_core (core ▸ List.mem_cons_self)).2 (Option.some.inj same)
  rw [p.written_append, p.content_append, p.unified.written_append, p.unified.content_append,
    unifyNewlines_cons (by decide), unifyNewlines_cons (by decide), unifyNewlines_append (starts _),
    unifyNewlines_append_of_not_mem solid, unifyNewlines_append (by simp),
    unifyNewlines_cons (by decide), unifyNewlines_cons (by decide)]
  rfl

/-- Unifying the newlines of a simple template changes blanks of its placeholders alone. -/
theorem unifyNewlines_written (pieces : List Piece) :
    unifyNewlines (written pieces) = written (pieces.map Piece.unified) := by
  induction pieces with
  | nil => rfl
  | cons piece rest ih =>
    rw [List.map_cons, written_cons, written_cons, ← ih]
    cases piece with
    | literal l => exact unifyNewlines_append_of_not_mem l.noReturn _
    | placeholder p => exact unifyNewlines_placeholder p _

end AccountSidecar.Template
