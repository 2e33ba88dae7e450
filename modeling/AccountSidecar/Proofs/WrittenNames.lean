import AccountSidecar.Proofs.Reprinting

/-!
# Names as they are read

A username is written into its line as it is, and the reader breaks lines at more characters than a
username must avoid, trims blanks and passes over comments. So the line of a new account is read as
that of `recordedName?`: what stands in the last line of its username behind leading blanks, or of
nobody (`parse_print_fresh`). This is the username itself exactly where the username is legible
(`recordedName?_eq_self_iff`).
-/

namespace AccountSidecar

namespace Text

/-- What stands behind the last line boundary of a text. -/
def lastLine : List Char → List Char
  | [] => []
  | c :: rest =>
    if rest.any isLineBreak then lastLine rest else if isLineBreak c then rest else c :: rest

/-- The last line has no line boundary. -/
theorem isLine_lastLine (s : List Char) : IsLine (lastLine s) := by
  induction s with
  | nil => simp [lastLine, IsLine]
  | cons c rest ih =>
    rw [lastLine]
    by_cases later : rest.any isLineBreak = true
    · rw [if_pos later]
      exact ih
    · have inner : IsLine rest := by simpa [IsLine] using later
      rw [if_neg later]
      by_cases boundary : isLineBreak c = true
      · rw [if_pos boundary]
        exact inner
      · rw [if_neg boundary]
        exact List.forall_mem_cons.mpr ⟨by simpa using boundary, inner⟩

/-- A text without line boundaries is its own last line. -/
theorem lastLine_of_isLine {s : List Char} (whole : IsLine s) : lastLine s = s := by
  cases s with
  | nil => rfl
  | cons c rest =>
    obtain ⟨first, inner⟩ := List.forall_mem_cons.mp whole
    have none : ¬ rest.any isLineBreak = true := by simpa [IsLine] using inner
    rw [lastLine, if_neg none, if_neg (by simp [first])]

/-- A boundary in front of a text is not of its last line. -/
theorem lastLine_cons_of_boundary {c : Char} (boundary : isLineBreak c = true) (s : List Char) :
    lastLine (c :: s) = lastLine s := by
  by_cases later : s.any isLineBreak = true
  · rw [lastLine, if_pos later]
  · have whole : IsLine s := by simpa [IsLine] using later
    rw [lastLine, if_neg later, if_pos boundary, lastLine_of_isLine whole]

/-- The last line holds only characters of the text. -/
theorem mem_of_mem_lastLine {c : Char} {s : List Char} (inside : c ∈ lastLine s) : c ∈ s := by
  induction s with
  | nil => exact inside
  | cons d rest ih =>
    rw [lastLine] at inside
    split at inside
    · exact List.mem_cons_of_mem d (ih inside)
    · split at inside
      · exact List.mem_cons_of_mem d inside
      · exact inside

/-- Lines that come before the last line of a text, which goes on: those that hold nothing but its
characters, and none where it has no line boundary. -/
structure LinesBefore (s : List Char) (lines : List (List Char)) : Prop where
  within : ∀ line ∈ lines, ∀ c ∈ line, c ∈ s
  none_iff : lines = [] ↔ IsLine s

/-- A boundary in front of a text ends a line before the last one. -/
theorem LinesBefore.cons_boundary {c : Char} {s : List Char} {lines : List (List Char)}
    (before : LinesBefore s lines) (boundary : isLineBreak c = true) :
    LinesBefore (c :: s) ([] :: lines) where
  within line among d inside := by
    rcases List.mem_cons.mp among with rfl | among
    · cases inside
    · exact List.mem_cons_of_mem c (before.within line among d inside)
  none_iff := by simp [IsLine, boundary]

/-- Another character in front of a text of several lines joins the first of them. -/
theorem LinesBefore.cons_inner {c : Char} {s first : List Char} {lines : List (List Char)}
    (before : LinesBefore s (first :: lines)) : LinesBefore (c :: s) ((c :: first) :: lines) where
  within line among d inside := by
    rcases List.mem_cons.mp among with rfl | among
    · rcases List.mem_cons.mp inside with rfl | inside
      · exact List.mem_cons_self
      · exact List.mem_cons_of_mem c (before.within first List.mem_cons_self d inside)
    · have deeper := before.within line (List.mem_cons_of_mem first among) d inside
      exact List.mem_cons_of_mem c deeper
  none_iff := by
    have broken : ¬ IsLine s := mt before.none_iff.mpr (List.cons_ne_nil _ _)
    have still : ¬ IsLine (c :: s) := fun all => broken (List.forall_mem_cons.mp all).2
    simp [still]

/-- A character that does not start a boundary of two is a boundary alone or joins the line behind
it. -/
theorem splitLines_cons {c : Char} {s : List Char}
    (single : ∀ more, c = '\r' → s = '\n' :: more → False) :
    splitLines (c :: s) =
      if isLineBreak c then [] :: splitLines s else consFirst c (splitLines s) := by
  rw [splitLines]
  exact single

/-- The lines of a text that goes on behind its last boundary: those before, and its last line with
what follows. -/
theorem splitLines_append_line (s : List Char) {next : Char} {rest : List Char}
    (whole : IsLine (next :: rest)) :
    ∃ before, splitLines (s ++ next :: rest ++ ['\n']) =
        before ++ [lastLine s ++ next :: rest] ∧ LinesBefore s before := by
  have carriage : isLineBreak '\r' = true := by decide
  have inner : next ≠ '\n' := by
    rintro rfl
    have boundary := (List.forall_mem_cons.mp whole).1
    exact absurd boundary (by decide)
  -- What follows the text completes no boundary that the text leaves open.
  have alone {c : Char} {s : List Char} (single : ∀ more, c = '\r' → s = '\n' :: more → False) :
      ∀ more, c = '\r' → s ++ next :: rest ++ ['\n'] = '\n' :: more → False := by
    intro more same starts
    cases s with
    | nil => exact inner (List.cons.inj starts).1
    | cons d s => exact single s same (by rw [(List.cons.inj starts).1])
  induction s using splitLines.induct with
  | case1 =>
    refine ⟨[], ?_, ⟨by simp, by simp [IsLine]⟩⟩
    exact splitLines_append_feed (next :: rest) [] whole
  | case2 s ih =>
    obtain ⟨before, lines, holds⟩ := ih
    have last : lastLine ('\r' :: '\n' :: s) = lastLine s :=
      (lastLine_cons_of_boundary carriage _).trans (lastLine_cons_of_boundary isLineBreak_feed s)
    refine ⟨[] :: before, ?_, ⟨?_, by simp [IsLine, isLineBreak_feed]⟩⟩
    · rw [last, List.cons_append, List.cons_append, List.cons_append, List.cons_append, splitLines,
        lines, List.cons_append]
    · intro line among c inside
      have deeper := (holds.cons_boundary isLineBreak_feed).within line among c inside
      exact List.mem_cons_of_mem '\r' deeper
  | case3 c s single boundary ih =>
    obtain ⟨before, lines, holds⟩ := ih
    refine ⟨[] :: before, ?_, holds.cons_boundary boundary⟩
    rw [lastLine_cons_of_boundary boundary, List.cons_append, List.cons_append,
      splitLines_cons (alone single), if_pos boundary, lines, List.cons_append]
  | case4 c s single boundary ih =>
    obtain ⟨before, lines, holds⟩ := ih
    rw [List.cons_append, List.cons_append, splitLines_cons (alone single), if_neg boundary, lines]
    cases before with
    | nil =>
      have inside : IsLine s := holds.none_iff.mp rfl
      have all : IsLine (c :: s) := List.forall_mem_cons.mpr ⟨by simpa using boundary, inside⟩
      refine ⟨[], ?_, ⟨by simp, by simp [all]⟩⟩
      rw [lastLine_of_isLine all, lastLine_of_isLine inside]
      rfl
    | cons first before =>
      have broken : ¬ IsLine s := mt holds.none_iff.mpr (List.cons_ne_nil _ _)
      have last : lastLine (c :: s) = lastLine s := by
        rw [lastLine, if_pos (by simpa [IsLine] using broken)]
      exact ⟨(c :: first) :: before, by rw [last]; rfl, holds.cons_inner⟩

/-- Trimming a start that is all of the class goes on behind it. -/
theorem trimStart_append_of_all {p : Char → Bool} {s : List Char} (rest : List Char)
    (all : trimStart p s = []) : trimStart p (s ++ rest) = trimStart p rest := by
  unfold trimStart at *
  rw [List.dropWhile_append, all, List.isEmpty_nil, if_pos rfl]

/-- Trimming a start that is not all of the class stops within it. -/
theorem trimStart_append_of_cons {p : Char → Bool} {s kept : List Char} {c : Char}
    (rest : List Char) (left : trimStart p s = c :: kept) :
    trimStart p (s ++ rest) = c :: kept ++ rest := by
  unfold trimStart at *
  rw [List.dropWhile_append, left, List.isEmpty_cons, if_neg Bool.false_ne_true]

/-- What is left of a trimmed text starts outside the class. -/
theorem trimStart_head {p : Char → Bool} {s kept : List Char} {c : Char}
    (left : trimStart p s = c :: kept) : p c = false := by
  have starts : s.dropWhile p = c :: kept := left
  have outside := List.head_dropWhile_not p (by rw [starts]; exact List.cons_ne_nil c kept)
  simpa [starts] using outside

end Text

namespace Users

open Text

/-- The name under which the line of a new account is found: what stands in the last line of its
username behind leading blanks; none where nothing stands there, or a comment. -/
def recordedName? (username : String) : Option String :=
  match trimStart isBlank (lastLine username.toList) with
  | [] => none
  | c :: rest => if c = '#' then none else some (String.ofList (c :: rest))

/-- A recorded name is legible. -/
theorem isLegibleName_of_recordedName? {username name : String}
    (undivided : ':' ∉ username.toList) (recorded : recordedName? username = some name) :
    IsLegibleName name := by
  unfold recordedName? at recorded
  split at recorded
  · cases recorded
  · rename_i c rest left
    obtain ⟨uncommented, same⟩ := Option.ite_none_left_eq_some.mp recorded
    obtain rfl := Option.some.inj same
    refine ⟨⟨c, rest, String.toList_ofList, trimStart_head left, uncommented⟩, ?_⟩
    intro d inside
    rw [String.toList_ofList, ← left] at inside
    have within : d ∈ lastLine username.toList := (List.dropWhile_sublist isBlank).subset inside
    refine ⟨?_, isLine_lastLine _ d within⟩
    rintro rfl
    exact undivided (mem_of_mem_lastLine within)

/-- A username without a separator is recorded as itself exactly where it is legible. -/
theorem recordedName?_eq_self_iff {username : String} (undivided : ':' ∉ username.toList) :
    recordedName? username = some username ↔ IsLegibleName username := by
  constructor
  · exact isLegibleName_of_recordedName? undivided
  · intro legible
    obtain ⟨c, rest, letters, solid, uncommented⟩ := legible.head
    have whole : IsLine username.toList := Credential.isLine_of_fits legible.fits
    have left : trimStart isBlank (lastLine username.toList) = c :: rest := by
      rw [lastLine_of_isLine whole, letters, trimStart_cons_of_not rest solid]
    unfold recordedName?
    rw [left]
    dsimp only
    rw [if_neg uncommented, ← letters, String.ofList_toList]

/-- The credentials that a line of a users file holds, if it is read at all. -/
def readLine? (line : List Char) : Option Credential :=
  if isPassedOver line then none else Credential.ofLine? line

/-- What a line holds depends on what stands behind its leading blanks. -/
theorem readLine?_congr {line other : List Char}
    (same : trimStart isBlank line = trimStart isBlank other) :
    readLine? line = readLine? other := by
  unfold readLine? isPassedOver Credential.ofLine? trimBoth
  rw [same]

/-- A line without a separator holds no credentials. -/
theorem readLine?_of_undivided {line : List Char} (undivided : ':' ∉ line) :
    readLine? line = none := by
  have single := pieces_of_not_mem (mt mem_of_mem_trimBoth undivided : ':' ∉ trimBoth isBlank line)
  unfold readLine? Credential.ofLine?
  rw [single]
  exact ite_self none

variable {username password : String}

/-- A line that starts with the separator names nobody. -/
theorem readLine?_of_unnamed (solid : IsSolid password) :
    readLine? (':' :: password.toList) = none := by
  have colon : isBlank ':' = false := by decide
  have trimmed : trimBoth isBlank (':' :: password.toList) = ':' :: password.toList := by
    rw [trimBoth, trimStart_cons_of_not _ colon]
    exact trimEnd_of_none (List.forall_mem_cons.mpr ⟨colon, fun c inside => (solid c inside).1⟩)
  have cut : pieces ':' (':' :: password.toList) = [] :: pieces ':' password.toList :=
    pieces_append_sep password.toList List.not_mem_nil
  unfold readLine? Credential.ofLine?
  rw [trimmed, cut, ite_eq_left_iff]
  intro _
  cases pieces ':' password.toList <;> rfl

/-- The line of a legible name and a solid password is read as theirs. -/
theorem readLine?_of_legible (name : IsLegibleName username) (given : password ≠ "")
    (solid : IsSolid password) :
    readLine? (username.toList ++ ':' :: password.toList) = some { username, password } := by
  have legible : Credential.Legible { username, password } :=
    ⟨name, ⟨solid.fitsField, given, by simp [FitsField]⟩⟩
  have disabled : Credential.totpEnabled { username, password } = false := rfl
  have line : (Credential.line { username, password }).toList =
      username.toList ++ ':' :: password.toList := by
    rw [Credential.line_toList, disabled, if_neg Bool.false_ne_true]
  unfold readLine?
  rw [← line, Credential.line_not_passedOver name, if_neg Bool.false_ne_true,
    Credential.ofLine?_line legible.separable,
    Credential.settled_of_disabled given (fun a inside => (solid a inside).1) disabled]

/-- The line of a new account in its last part: the credentials under the recorded name. -/
theorem readLine?_lastLine (undivided : ':' ∉ username.toList) (given : password ≠ "")
    (solid : IsSolid password) :
    readLine? (lastLine username.toList ++ ':' :: password.toList) =
      (recordedName? username).map fun name => { username := name, password } := by
  cases left : trimStart isBlank (lastLine username.toList) with
  | nil =>
    -- Nothing stands in front of the separator, so the line is malformed.
    have nobody : recordedName? username = none := by rw [recordedName?, left]
    rw [nobody, readLine?_congr (trimStart_append_of_all _ left)]
    exact readLine?_of_unnamed solid
  | cons c rest =>
    have shown := trimStart_append_of_cons (':' :: password.toList) left
    by_cases comment : c = '#'
    · have nobody : recordedName? username = none := by
        rw [recordedName?, left]
        exact if_pos comment
      rw [nobody, readLine?, isPassedOver, shown, comment]
      rfl
    · -- Behind its blanks the line is that of the credentials under the recorded name.
      have recorded : recordedName? username = some (String.ofList (c :: rest)) := by
        rw [recordedName?, left]
        exact if_neg comment
      have name := isLegibleName_of_recordedName? undivided recorded
      have same : trimStart isBlank (lastLine username.toList ++ ':' :: password.toList) =
          trimStart isBlank ((String.ofList (c :: rest)).toList ++ ':' :: password.toList) := by
        rw [shown, String.toList_ofList, List.cons_append,
          trimStart_cons_of_not _ (trimStart_head left)]
      rw [recorded, readLine?_congr same, readLine?_of_legible name given solid]
      rfl

/-- A text is read line by line. -/
theorem parse_eq_filterMap (text : String) :
    parse text = (splitLines text.toList).filterMap readLine? := rfl

/-- A new account alone is read as that of the recorded name. -/
theorem parse_print_fresh (undivided : ':' ∉ username.toList) (given : password ≠ "")
    (solid : IsSolid password) :
    parse (print [{ username, password }]) =
      (recordedName? username).toList.map fun name => { username := name, password } := by
  have colon : isLineBreak ':' = false := by decide
  have whole : IsLine (':' :: password.toList) :=
    List.forall_mem_cons.mpr ⟨colon, fun c inside => isLineBreak_of_not_blank (solid c inside).1⟩
  obtain ⟨before, lines, holds⟩ := splitLines_append_line username.toList whole
  have text : (print [{ username, password }]).toList =
      username.toList ++ ':' :: password.toList ++ ['\n'] := by
    have disabled : Credential.totpEnabled { username, password } = false := rfl
    rw [print, String.toList_ofList, List.flatMap_cons, List.flatMap_nil, List.append_nil,
      Credential.line_toList, disabled, if_neg Bool.false_ne_true]
  have none : before.filterMap readLine? = [] := by
    rw [List.filterMap_eq_nil_iff]
    intro line among
    exact readLine?_of_undivided fun inside => undivided (holds.within line among ':' inside)
  rw [parse_eq_filterMap, text, lines, List.filterMap_append, none, List.nil_append,
    List.filterMap_cons, readLine?_lastLine undivided given solid]
  cases recordedName? username <;> rfl

end Users

end AccountSidecar
