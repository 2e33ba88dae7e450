import AccountSidecar.Json.Reader

/-!
# Nested texts

The depth to which JSON is read decides only whether a text is read. A text that a reader gets
through is read alike by every reader that goes deeper (`readWithin_eq_of_le`), and `read` gets
through every text (`read_getsThrough`), so what a limit leaves is what `read` gives
(`readWithin_eq_read`). Brackets that stand inside one another deeper than the limit stop the reader
whatever comes after them (`value_brackets`).
-/

namespace AccountSidecar.Json

variable {depth depth' limit : Nat} {s : List Char} {text : String} {seen : Keyed Value}

/-- Whether a reader got through, be it to the end or to something malformed. -/
def GetsThrough {α : Type} (r : Except ReadError α) : Prop := r ≠ .error .tooDeep

/-- A reader in two parts gets through only where its first part does. -/
theorem GetsThrough.of_bind {α β : Type} {r : Except ReadError α} {f : α → Except ReadError β}
    (through : GetsThrough (r >>= f)) : GetsThrough r := by
  rintro rfl
  exact through rfl

/-- A reader in two parts is the same where the first part is, if it gets through, and the second
after it. -/
theorem bind_eq_of_getsThrough {α β : Type} {r r' : Except ReadError α}
    {f f' : α → Except ReadError β} (through : GetsThrough (r >>= f))
    (first : GetsThrough r → r' = r)
    (second : ∀ a, r = .ok a → GetsThrough (f a) → f' a = f a) : r' >>= f' = r >>= f := by
  rw [first through.of_bind]
  cases read : r with
  | error e => rfl
  | ok a =>
    rw [read] at through
    exact second a read through

/-- What a reader of values, of items and of entries gets through, readers that go deeper read
alike. -/
theorem readers_eq_of_le (fuel : Nat) :
    (∀ depth depth' s, depth ≤ depth' → GetsThrough (value fuel depth s) →
      value fuel depth' s = value fuel depth s) ∧
    (∀ depth depth' s, depth ≤ depth' → GetsThrough (items fuel depth s) →
      items fuel depth' s = items fuel depth s) ∧
    ∀ depth depth' seen s, depth ≤ depth' → GetsThrough (entries fuel depth seen s) →
      entries fuel depth' seen s = entries fuel depth seen s := by
  induction fuel with
  | zero => exact ⟨fun _ _ _ _ _ => rfl, fun _ _ _ _ _ => rfl, fun _ _ _ _ _ _ => rfl⟩
  | succ fuel ih =>
    obtain ⟨values, items', entries'⟩ := ih
    refine ⟨fun depth depth' s deeper through => ?_, fun depth depth' s deeper through => ?_,
      fun depth depth' seen s deeper through => ?_⟩
    · unfold value at through ⊢
      split at through
      · rfl
      · cases depth with
        | zero => exact absurd rfl through
        | succ depth =>
          obtain ⟨depth', rfl⟩ := Nat.exists_eq_add_one_of_ne_zero (Nat.ne_zero_of_lt deeper)
          dsimp only at through ⊢
          split at through
          · rfl
          · exact bind_eq_of_getsThrough through (items' _ _ _ (Nat.le_of_succ_le_succ deeper))
              fun _ _ _ => rfl
      · cases depth with
        | zero => exact absurd rfl through
        | succ depth =>
          obtain ⟨depth', rfl⟩ := Nat.exists_eq_add_one_of_ne_zero (Nat.ne_zero_of_lt deeper)
          dsimp only at through ⊢
          split at through
          · rfl
          · exact bind_eq_of_getsThrough through (entries' _ _ _ _ (Nat.le_of_succ_le_succ deeper))
              fun _ _ _ => rfl
      · rfl
    · rw [items] at through ⊢
      rw [items]
      refine bind_eq_of_getsThrough through (values _ _ _ deeper) fun r read through => ?_
      dsimp only at through ⊢
      split at through
      · rfl
      · exact bind_eq_of_getsThrough through (items' _ _ _ deeper) fun _ _ _ => rfl
      · rfl
    · rw [entries] at through ⊢
      rw [entries]
      refine bind_eq_of_getsThrough through (fun _ => rfl) fun k _ through => ?_
      refine bind_eq_of_getsThrough through (values _ _ _ deeper) fun r _ through => ?_
      dsimp only at through ⊢
      split at through
      · rfl
      · exact entries' _ _ _ _ deeper through
      · rfl

/-- A text that a reader gets through is read alike by a reader that goes deeper. -/
theorem readWithin_eq_of_le {limit' : Nat} (deeper : limit ≤ limit')
    (through : GetsThrough (readWithin limit text)) :
    readWithin limit' text = readWithin limit text :=
  bind_eq_of_getsThrough through ((readers_eq_of_le _).1 _ _ _ deeper) fun _ _ _ => rfl

/-- A reader in two parts gets through where both do. -/
theorem GetsThrough.bind {α β : Type} {r : Except ReadError α} {f : α → Except ReadError β}
    (first : GetsThrough r) (second : ∀ a, GetsThrough (f a)) : GetsThrough (r >>= f) := by
  cases r with
  | error e => exact fun stopped => first (by injection stopped with e; rw [e])
  | ok a => exact second a

/-- A reader that came to its end got through. -/
theorem getsThrough_ok {α : Type} (a : α) : GetsThrough (.ok a) := nofun

/-- So did one that met something malformed. -/
theorem getsThrough_malformed {α : Type} : GetsThrough (.error .malformed : Except ReadError α) :=
  nofun

/-- Numbers do not nest. -/
theorem numberAfter_getsThrough (negative : Bool) (s : List Char) :
    GetsThrough (numberAfter negative s) := by
  unfold numberAfter
  split
  · exact getsThrough_malformed
  · dsimp only
    repeat' split
    all_goals nofun

/-- Neither do the other values without parts. -/
theorem scalar_getsThrough (s : List Char) : GetsThrough (scalar s) := by
  unfold scalar
  split
  case h_7 => exact numberAfter_getsThrough true _
  case h_8 => exact numberAfter_getsThrough false _
  all_goals exact getsThrough_ok _

/-- Texts do not nest. -/
theorem string_getsThrough (s : List Char) : GetsThrough (string s) := by
  unfold string
  split <;> nofun

/-- The key of an entry is a text, with a colon after it. -/
theorem key_getsThrough (s : List Char) : GetsThrough (key s) := by
  unfold key
  split
  · refine (string_getsThrough _).bind fun _ => ?_
    dsimp only
    split <;> nofun
  · exact getsThrough_malformed

/-- Readers that may go as deep as their fuel lasts get through every text. -/
theorem readers_get_through (fuel : Nat) :
    (∀ depth s, fuel ≤ depth → GetsThrough (value fuel depth s)) ∧
    (∀ depth s, fuel ≤ depth → GetsThrough (items fuel depth s)) ∧
    ∀ depth seen s, fuel ≤ depth → GetsThrough (entries fuel depth seen s) := by
  induction fuel with
  | zero => exact ⟨nofun, nofun, nofun⟩
  | succ fuel ih =>
    obtain ⟨values, items', entries'⟩ := ih
    refine ⟨fun depth s enough => ?_, fun depth s enough => ?_, fun depth seen s enough => ?_⟩
    · obtain ⟨depth, rfl⟩ := Nat.exists_eq_add_one_of_ne_zero (Nat.ne_zero_of_lt enough)
      have enough := Nat.le_of_succ_le_succ enough
      unfold value
      split
      · exact (string_getsThrough _).bind fun _ => getsThrough_ok _
      · dsimp only
        split
        · exact getsThrough_ok _
        · exact (items' _ _ enough).bind fun _ => getsThrough_ok _
      · dsimp only
        split
        · exact getsThrough_ok _
        · exact (entries' _ _ _ enough).bind fun _ => getsThrough_ok _
      · exact scalar_getsThrough _
    · have enough := Nat.le_of_succ_le enough
      rw [items]
      refine (values _ _ enough).bind fun r => ?_
      dsimp only
      split
      · exact getsThrough_ok _
      · exact (items' _ _ enough).bind fun _ => getsThrough_ok _
      · exact getsThrough_malformed
    · have enough := Nat.le_of_succ_le enough
      rw [entries]
      refine (key_getsThrough _).bind fun k => (values _ _ enough).bind fun r => ?_
      dsimp only
      split
      · exact getsThrough_ok _
      · exact entries' _ _ _ enough
      · exact getsThrough_malformed

/-- No text is too deep for `read`. -/
theorem read_getsThrough (text : String) : GetsThrough (read text) := by
  refine ((readers_get_through _).1 _ _ (Nat.le_refl _)).bind fun r => ?_
  dsimp only
  split <;> nofun

/-- A text nests beyond a limit where the reader with that limit stops for it. -/
theorem nestsBeyond_eq_true_iff :
    nestsBeyond limit text = true ↔ readWithin limit text = .error .tooDeep := by
  unfold nestsBeyond
  split <;> simp_all

/-- What a reader with a limit gets through is what `read` gives. -/
theorem readWithin_eq_read (within : nestsBeyond limit text = false) :
    readWithin limit text = read text := by
  have through : GetsThrough (readWithin limit text) := fun stopped => by
    rw [nestsBeyond_eq_true_iff.mpr stopped] at within
    cases within
  rcases Nat.le_total limit (fuelFor text) with shallow | deep
  · exact (readWithin_eq_of_le shallow through).symm
  · exact readWithin_eq_of_le deep (read_getsThrough text)

/-- Opening brackets that stand inside one another deeper than the limit stop the reader, whatever
comes after them. -/
theorem value_brackets {fuel : Nat} (s : List Char) (lasts : 2 * depth < fuel) :
    value fuel depth (List.replicate (depth + 1) '[' ++ s) = .error .tooDeep := by
  induction depth generalizing fuel with
  | zero =>
    obtain ⟨fuel, rfl⟩ := Nat.exists_eq_add_one_of_ne_zero (Nat.ne_zero_of_lt lasts)
    rfl
  | succ depth ih =>
    obtain ⟨fuel, rfl⟩ : ∃ rest, fuel = rest + 2 := ⟨fuel - 2, by omega⟩
    have inner := @ih fuel (by omega)
    rw [List.replicate_succ, List.cons_append] at inner ⊢
    rw [List.replicate_succ, List.cons_append]
    change (items (fuel + 1) depth _ >>= _) = _
    rw [items, inner]
    rfl

end AccountSidecar.Json
