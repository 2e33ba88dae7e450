import AccountSidecar.Text.Class
import AccountSidecar.Text.Split

/-!
# Lines and fields

What cutting a text into lines, trimming a line and cutting it into fields give back. Lines without
a line boundary of their own come back from their text one by one; trimming reaches no further into
a line than its blanks; fields without the separator come back from the line that joins them.
-/

namespace AccountSidecar.Text

/-- Whether no character of the text is a line boundary. -/
def IsLine (s : List Char) : Prop := ∀ c ∈ s, isLineBreak c = false

/-- A line feed is a line boundary. -/
theorem isLineBreak_feed : isLineBreak '\n' = true := by decide

/-- A line that is ended by a line feed comes back, with the lines after it. -/
theorem splitLines_append_feed (line rest : List Char) (whole : IsLine line) :
    splitLines (line ++ '\n' :: rest) = line :: splitLines rest := by
  induction line with
  | nil =>
    rw [List.nil_append, splitLines, if_pos isLineBreak_feed]
    simp
  | cons c line ih =>
    have head : isLineBreak c = false := whole c List.mem_cons_self
    have tail := ih fun d inside => whole d (List.mem_cons_of_mem c inside)
    rw [List.cons_append, splitLines, head, tail]
    · rfl
    · intro more same
      rw [same] at head
      exact absurd head (by decide)

/-- Lines that are each ended by a line feed come back in order, with the lines after them. -/
theorem splitLines_flatMap_feed (lines : List (List Char)) (rest : List Char)
    (whole : ∀ line ∈ lines, IsLine line) :
    splitLines (lines.flatMap (· ++ ['\n']) ++ rest) = lines ++ splitLines rest := by
  induction lines with
  | nil => rfl
  | cons line lines ih =>
    have head := whole line List.mem_cons_self
    have tail := ih fun other inside => whole other (List.mem_cons_of_mem line inside)
    rw [List.flatMap_cons, List.append_assoc, List.append_assoc, List.singleton_append,
      splitLines_append_feed line _ head, tail, List.cons_append]

/-- Other characters than carriage returns stay as they are. -/
theorem unifyNewlines_cons {c : Char} (other : c ≠ '\r') (rest : List Char) :
    unifyNewlines (c :: rest) = c :: unifyNewlines rest := by
  rw [unifyNewlines, if_neg other]
  rintro - rfl
  exact absurd rfl other

/-- Text without carriage returns stays as it is. -/
theorem unifyNewlines_append_of_not_mem {s : List Char} (without : '\r' ∉ s) (rest : List Char) :
    unifyNewlines (s ++ rest) = s ++ unifyNewlines rest := by
  induction s with
  | nil => rfl
  | cons c s ih =>
    rw [List.mem_cons, not_or] at without
    rw [List.cons_append, unifyNewlines_cons (Ne.symm without.1), ih without.2, List.cons_append]

/-- Newlines are unified in two texts one by one, unless the second one starts with a line feed. -/
theorem unifyNewlines_append {rest : List Char} (starts : rest.head? ≠ some '\n') (s : List Char) :
    unifyNewlines (s ++ rest) = unifyNewlines s ++ unifyNewlines rest := by
  induction s using unifyNewlines.induct with
  | case1 => rfl
  | case2 s ih => simp only [List.cons_append, unifyNewlines, ih]
  | case3 d s single ih =>
    rw [List.cons_append, unifyNewlines, unifyNewlines, ih, List.cons_append]
    · exact single
    · rintro more rfl same
      cases s with
      | nil =>
        rw [List.nil_append] at same
        exact starts (same ▸ rfl)
      | cons e s => exact single s rfl (congrArg (· :: s) (List.cons.inj same).1)

/-- Unifying newlines brings in line feeds alone. -/
theorem mem_unifyNewlines {c : Char} {s : List Char} (inside : c ∈ unifyNewlines s) :
    c = '\n' ∨ c ∈ s := by
  induction s using unifyNewlines.induct with
  | case1 => exact .inr inside
  | case2 s ih =>
    rcases List.mem_cons.mp inside with feed | inside
    · exact .inl feed
    · exact (ih inside).imp_right fun among => List.mem_cons_of_mem _ (List.mem_cons_of_mem _ among)
  | case3 d s single ih =>
    rw [unifyNewlines] at inside
    · rcases List.mem_cons.mp inside with own | inside
      · split at own
        · exact .inl own
        · exact .inr (own ▸ List.mem_cons_self)
      · exact (ih inside).imp_right (List.mem_cons_of_mem d)
    · exact single

/-- A character in front of the first line leaves whole lines whole, unless it is a boundary. -/
theorem consFirst_whole {c : Char} {lines : List (List Char)} (inner : isLineBreak c = false)
    (whole : ∀ line ∈ lines, IsLine line) : ∀ line ∈ consFirst c lines, IsLine line := by
  cases lines with
  | nil => simpa [consFirst, IsLine] using inner
  | cons first rest =>
    intro line inside
    rcases List.mem_cons.mp inside with rfl | inside
    · intro d among
      rcases List.mem_cons.mp among with rfl | among
      · exact inner
      · exact whole first List.mem_cons_self d among
    · exact whole line (List.mem_cons_of_mem first inside)

/-- No line of a text holds a line boundary. -/
theorem splitLines_whole (s : List Char) : ∀ line ∈ splitLines s, IsLine line := by
  induction s using splitLines.induct with
  | case1 => simp [splitLines]
  | case2 rest ih => simpa [splitLines, IsLine] using ih
  | case3 c rest single boundary ih =>
    rw [splitLines, if_pos boundary]
    · simpa [IsLine] using ih
    · exact single
  | case4 c rest single inner ih =>
    rw [splitLines, if_neg inner]
    · exact consFirst_whole (by simpa using inner) ih
    · exact single

/-- A text that starts with a character outside the class keeps it at its start. -/
theorem trimStart_cons_of_not {p : Char → Bool} {c : Char} (rest : List Char) (kept : p c = false) :
    trimStart p (c :: rest) = c :: rest := by
  simp [trimStart, kept]

/-- Nothing is left at the end exactly where all characters are of the class. -/
theorem trimEnd_eq_nil_iff (p : Char → Bool) (s : List Char) :
    trimEnd p s = [] ↔ ∀ c ∈ s, p c = true := by
  induction s with
  | nil => simp [trimEnd]
  | cons c s ih =>
    rw [trimEnd, List.forall_mem_cons, ← ih]
    cases rest : trimEnd p s with
    | nil => cases p c <;> simp
    | cons d kept => simp

/-- Trimming the end reaches only the last part of a text that is not all of the class. -/
theorem trimEnd_append_of_ne_nil {p : Char → Bool} (front : List Char) {back : List Char}
    (kept : trimEnd p back ≠ []) : trimEnd p (front ++ back) = front ++ trimEnd p back := by
  induction front with
  | nil => rfl
  | cons c front ih =>
    rw [List.cons_append, trimEnd, ih, List.cons_append]
    cases whole : front ++ trimEnd p back with
    | nil => exact absurd (List.append_eq_nil_iff.mp whole).2 kept
    | cons d more => rfl

/-- Trimming the end reaches no further than a character outside the class. -/
theorem trimEnd_append_cons_of_not {p : Char → Bool} (front back : List Char) {c : Char}
    (kept : p c = false) : trimEnd p (front ++ c :: back) = front ++ c :: trimEnd p back := by
  have tail : trimEnd p (c :: back) = c :: trimEnd p back := by
    rw [trimEnd]
    cases rest : trimEnd p back with
    | nil => simp [kept]
    | cons d more => rfl
  rw [trimEnd_append_of_ne_nil front (by rw [tail]; exact List.cons_ne_nil c _), tail]

/-- A text without characters of the class is kept whole. -/
theorem trimEnd_of_none {p : Char → Bool} {s : List Char} (kept : ∀ c ∈ s, p c = false) :
    trimEnd p s = s := by
  induction s with
  | nil => rfl
  | cons c s ih =>
    have head : p c = false := kept c List.mem_cons_self
    rw [trimEnd, ih fun d inside => kept d (List.mem_cons_of_mem c inside)]
    cases s with
    | nil => simp [head]
    | cons d rest => rfl

/-- Trimming the end keeps the start of a text. -/
theorem trimEnd_initial (p : Char → Bool) (s : List Char) : trimEnd p s <+: s := by
  induction s with
  | nil => exact List.prefix_rfl
  | cons c s ih =>
    rw [trimEnd]
    cases rest : trimEnd p s with
    | nil =>
      cases p c with
      | true => exact List.nil_prefix
      | false => exact List.cons_prefix_cons.mpr ⟨rfl, List.nil_prefix⟩
    | cons d kept =>
      rw [rest] at ih
      exact List.cons_prefix_cons.mpr ⟨rfl, ih⟩

/-- A trimmed text starts with a character outside the class, if anything is left of it. -/
theorem trimBoth_head {p : Char → Bool} {s rest : List Char} {c : Char}
    (left : trimBoth p s = c :: rest) : p c = false := by
  obtain ⟨dropped, whole⟩ := trimEnd_initial p (trimStart p s)
  rw [show trimEnd p (trimStart p s) = c :: rest from left, List.cons_append] at whole
  have starts : s.dropWhile p = c :: (rest ++ dropped) := whole.symm
  have outside := List.head_dropWhile_not p (by rw [starts]; exact List.cons_ne_nil c _)
  simpa [starts] using outside

/-- Trimming brings no character into a text. -/
theorem mem_of_mem_trimBoth {p : Char → Bool} {s : List Char} {c : Char}
    (inside : c ∈ trimBoth p s) : c ∈ s :=
  (List.dropWhile_sublist p).subset ((trimEnd_initial p (trimStart p s)).subset inside)

/-- A text without the separator is one piece. -/
theorem pieces_of_not_mem {sep : Char} {s : List Char} (absent : sep ∉ s) : pieces sep s = [s] := by
  induction s with
  | nil => rfl
  | cons c s ih =>
    obtain ⟨head, tail⟩ := not_or.mp (mt List.mem_cons.mpr absent)
    rw [pieces, if_neg (Ne.symm head), ih tail]

/-- The piece in front of a separator comes back, with the pieces behind it. -/
theorem pieces_append_sep {sep : Char} {s : List Char} (rest : List Char) (absent : sep ∉ s) :
    pieces sep (s ++ sep :: rest) = s :: pieces sep rest := by
  induction s with
  | nil => rw [List.nil_append, pieces, if_pos rfl]
  | cons c s ih =>
    obtain ⟨head, tail⟩ := not_or.mp (mt List.mem_cons.mpr absent)
    rw [List.cons_append, pieces, if_neg (Ne.symm head), ih tail]

/-- A piece holds no separator and only characters of the text. -/
theorem mem_pieces {sep : Char} {s piece : List Char} (among : piece ∈ pieces sep s) :
    ∀ c ∈ piece, c ∈ s ∧ c ≠ sep := by
  induction s generalizing piece with
  | nil =>
    rw [pieces, List.mem_singleton] at among
    simp [among]
  | cons d s ih =>
    rw [pieces] at among
    by_cases cut : d = sep
    · rw [if_pos cut] at among
      rcases List.mem_cons.mp among with rfl | among
      · simp
      · exact fun c inside => ⟨List.mem_cons_of_mem d (ih among c inside).1, (ih among c inside).2⟩
    · rw [if_neg cut] at among
      cases split : pieces sep s with
      | nil =>
        rw [split, List.mem_singleton] at among
        simp [among, cut]
      | cons first more =>
        rw [split] at among ih
        rcases List.mem_cons.mp among with rfl | among
        · intro c inside
          rcases List.mem_cons.mp inside with rfl | inside
          · exact ⟨List.mem_cons_self, cut⟩
          · obtain ⟨within, other⟩ := ih List.mem_cons_self c inside
            exact ⟨List.mem_cons_of_mem d within, other⟩
        · intro c inside
          obtain ⟨within, other⟩ := ih (List.mem_cons_of_mem first among) c inside
          exact ⟨List.mem_cons_of_mem d within, other⟩

/-- The first piece starts as the text does. -/
theorem pieces_head {sep c d : Char} {s first : List Char} {more : List (List Char)}
    (split : pieces sep (c :: s) = (d :: first) :: more) : d = c := by
  rw [pieces] at split
  by_cases cut : c = sep
  · rw [if_pos cut] at split
    exact absurd (List.cons.inj split).1 (List.cons_ne_nil d first).symm
  · rw [if_neg cut] at split
    cases rest : pieces sep s with
    | nil =>
      rw [rest] at split
      exact (List.cons.inj (List.cons.inj split).1).1.symm
    | cons next others =>
      rw [rest] at split
      exact (List.cons.inj (List.cons.inj split).1).1.symm

end AccountSidecar.Text
