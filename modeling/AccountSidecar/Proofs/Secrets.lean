import AccountSidecar.Proofs.Base32

/-!
# Secrets in their stored form

Case mapping brings no ASCII character into a text but capital letters (`mem_upperChar_ascii`), so
the stored form of a secret has no padding and no small letters. Codes can be computed from it
exactly where it stands for fourteen bytes or more (`keyOf_normalizeSecret_iff`). Then it consists
of the 32 characters of the alphabet alone (`mem_alphabet32_of_keyOf`) and is its own stored form.
-/

namespace AccountSidecar

namespace Text

variable {c d : Char}

/-- Whether the character is a capital letter of ASCII. -/
def IsCapital (c : Char) : Prop := 0x41 ≤ c.toNat ∧ c.toNat ≤ 0x5A

/-- Whether the character is a small letter of ASCII. -/
def IsSmall (c : Char) : Prop := 0x61 ≤ c.toNat ∧ c.toNat ≤ 0x7A

instance (c : Char) : Decidable (IsCapital c) := inferInstanceAs (Decidable (_ ∧ _))

instance (c : Char) : Decidable (IsSmall c) := inferInstanceAs (Decidable (_ ∧ _))

/-- The characters that a code point expands to in upper case are capital letters or not ASCII. -/
theorem upperExpansions_capital : ∀ e ∈ upperExpansions.toList, ∀ n ∈ e.2,
    n < 0xD800 ∧ (n < 0x80 → 0x41 ≤ n ∧ n ≤ 0x5A) := by
  decide +kernel

/-- A run beyond ASCII moves its code points to others beyond ASCII, or one to a capital letter. -/
theorem upperRuns_capital : ∀ r ∈ upperRuns.toList, 0x80 ≤ r.2.1 →
    (0x80 ≤ r.1 + r.2.2.2 ∨ r.1 = r.2.1 ∧ 0x41 ≤ r.1 + r.2.2.2 ∧ r.1 + r.2.2.2 ≤ 0x5A) ∧
    (r.2.1 + r.2.2.2 < 0xD800 ∨ 0xE000 ≤ r.1 + r.2.2.2 ∧ r.2.1 + r.2.2.2 < 0x110000) := by
  decide +kernel

/-- The character of a code point has that code point. -/
theorem toNat_ofNat_of_scalar {n : Nat} (scalar : n < 0xD800 ∨ 0xE000 ≤ n ∧ n < 0x110000) :
    (Char.ofNat n).toNat = n := by
  have valid : n.isValidChar := scalar.imp_right fun ⟨low, high⟩ => ⟨by omega, high⟩
  rw [Char.ofNat, dif_pos valid]
  rfl

/-- What a character beyond ASCII is moved to is a capital letter or not ASCII. -/
theorem isCapital_shiftByRun (beyond : 0x80 ≤ c.toNat)
    (ascii : (shiftByRun upperRuns c).toNat < 0x80) : IsCapital (shiftByRun upperRuns c) := by
  unfold shiftByRun at ascii ⊢
  split at ascii
  · rename_i r found
    have holds := Array.find?_some found
    simp only [Bool.and_eq_true, decide_eq_true_eq] at holds
    obtain ⟨⟨low, high⟩, -⟩ := holds
    have inside : r ∈ upperRuns.toList :=
      Array.mem_toList_iff.mpr (Array.mem_of_find?_eq_some found)
    obtain ⟨moved, scalar⟩ := upperRuns_capital r inside (Nat.le_trans beyond high)
    have target : (Char.ofNat (Int.toNat (Int.ofNat c.toNat + r.2.2.2))).toNat =
        Int.toNat (Int.ofNat c.toNat + r.2.2.2) :=
      toNat_ofNat_of_scalar (by simp only [Int.ofNat_eq_natCast]; omega)
    unfold IsCapital
    rw [target] at ascii ⊢
    simp only [Int.ofNat_eq_natCast] at ascii ⊢
    omega
  · exact absurd beyond (Nat.not_le_of_lt ascii)

/-- An ASCII character in the upper case of a character is a capital letter, or that character
itself, which is no small letter. -/
theorem mem_upperChar_ascii (inside : d ∈ upperChar c) (ascii : d.toNat < 0x80) :
    IsCapital d ∨ d = c ∧ ¬ IsSmall c := by
  unfold upperChar at inside
  by_cases plain : c.toNat < 0x80
  · have each : ∀ n < 0x80, IsCapital (Char.ofNat n).toUpper ∨
        (Char.ofNat n).toUpper = Char.ofNat n ∧ ¬ IsSmall (Char.ofNat n) := by decide +kernel
    rw [if_pos plain, List.mem_singleton] at inside
    have own := each c.toNat plain
    rwa [Char.ofNat_toNat, ← inside] at own
  · rw [if_neg plain] at inside
    left
    cases expanded : expansion? upperExpansions c with
    | none =>
      rw [expanded, Option.getD_none, List.mem_singleton] at inside
      rw [inside] at ascii ⊢
      exact isCapital_shiftByRun (Nat.le_of_not_lt plain) ascii
    | some cs =>
      rw [expanded, Option.getD_some] at inside
      obtain ⟨e, found, rfl⟩ := Option.map_eq_some_iff.mp expanded
      obtain ⟨n, among, rfl⟩ := List.mem_map.mp inside
      obtain ⟨scalar, capital⟩ := upperExpansions_capital e
        (Array.mem_toList_iff.mpr (Array.mem_of_find?_eq_some found)) n among
      unfold IsCapital
      rw [toNat_ofNat_of_scalar (.inl scalar)] at ascii ⊢
      exact capital ascii

end Text

namespace Totp

open Text Codec

variable {secret : String} {key : List UInt8} {c : Char}

/-- An ASCII character of a stored form is a capital letter, or no small letter and no padding. -/
theorem mem_normalizeSecret_ascii (inside : c ∈ (normalizeSecret secret).toList)
    (ascii : c.toNat < 0x80) : c ≠ '=' ∧ ¬ IsSmall c := by
  rw [normalizeSecret, upper, String.toList_ofList, String.toList_ofList] at inside
  obtain ⟨b, kept, among⟩ := List.mem_flatMap.mp inside
  obtain ⟨-, bare⟩ := List.mem_filter.mp kept
  simp only [Bool.and_eq_true, bne_iff_ne] at bare
  rcases mem_upperChar_ascii among ascii with capital | ⟨rfl, notSmall⟩
  · constructor
    · rintro rfl
      exact absurd capital (by decide)
    · intro small
      exact absurd (Nat.le_trans small.1 capital.2) (by decide)
  · exact ⟨bare.2, notSmall⟩

/-- No padding stands in a stored form. -/
theorem padding_not_mem_normalizeSecret (secret : String) :
    '=' ∉ (normalizeSecret secret).toList := fun inside =>
  (mem_normalizeSecret_ascii inside (by decide)).1 rfl

/-- Where no padding stands, all of a secret is left without it. -/
theorem unpadded?_of_bare {s : List Char} (bare : '=' ∉ s) : unpadded? s = some s := by
  have whole : trimEnd (· == '=') s = s :=
    trimEnd_of_none fun c inside => beq_false_of_ne fun same => bare (same ▸ inside)
  unfold unpadded?
  dsimp only
  rw [whole, if_pos (by omega)]

/-- Codes can be computed from a stored form exactly where it is base-32 text for enough bytes;
these are the key. -/
theorem keyOf_normalizeSecret_iff : keyOf (normalizeSecret secret) = .ok key ↔
    Base32Reads (normalizeSecret secret).toList key ∧ minSecretBytes ≤ key.length := by
  unfold keyOf
  rw [unpadded?_of_bare (padding_not_mem_normalizeSecret secret)]
  dsimp only
  constructor
  · intro given
    split at given
    · cases given
    · split at given
      · cases given
      · cases given
      · rename_i bytes read
        split at given
        · cases given
        · rename_i enough
          obtain rfl := Except.ok.inj given
          exact ⟨base32Decode_eq_ok_iff.mp read, Nat.le_of_not_lt enough⟩
  · rintro ⟨reads, enough⟩
    obtain ⟨values, stand, -⟩ := reads.bits
    rw [if_neg (not_any_of_plain stand.isPlain), base32Decode_eq_ok_iff.mpr reads]
    exact if_neg (Nat.not_lt_of_le enough)

/-- A stored form from which codes can be computed is not empty. -/
theorem normalizeSecret_ne_empty (given : keyOf (normalizeSecret secret) = .ok key) :
    normalizeSecret secret ≠ "" := by
  obtain ⟨reads, enough⟩ := keyOf_normalizeSecret_iff.mp given
  intro empty
  have size := reads.size
  rw [empty] at size
  exact absurd enough (by rw [size]; decide)

/-- A stored form from which codes can be computed has characters of the alphabet alone. -/
theorem mem_alphabet32_of_keyOf (given : keyOf (normalizeSecret secret) = .ok key) :
    ∀ c ∈ (normalizeSecret secret).toList, c ∈ alphabet32 := by
  obtain ⟨reads, -⟩ := keyOf_normalizeSecret_iff.mp given
  obtain ⟨values, stand, -⟩ := reads.bits
  intro c inside
  have ascii : c.toNat < 0x80 := Nat.lt_trans (stand.isPlain c inside).2.1 (by decide)
  have same : c.toUpper = c := dif_neg (mem_normalizeSecret_ascii inside ascii).2
  rw [← same]
  exact stand.mem inside

/-- A text of characters of the alphabet is its own stored form. -/
theorem normalizeSecret_of_alphabet32 {s : String} (letters : ∀ c ∈ s.toList, c ∈ alphabet32) :
    normalizeSecret s = s := by
  have whole : alphabet32.all (fun c => upperChar c == [c] && (c != ' ' && c != '=')) = true := by
    decide
  have each (c : Char) (inside : c ∈ s.toList) :
      upperChar c = [c] ∧ (c != ' ' && c != '=') = true := by
    have holds := List.all_eq_true.mp whole c (letters c inside)
    rwa [Bool.and_eq_true, beq_iff_eq] at holds
  have kept : s.toList.filter (fun c => c != ' ' && c != '=') = s.toList :=
    List.filter_eq_self.mpr fun c inside => (each c inside).2
  have upper : s.toList.flatMap upperChar = s.toList := by
    rw [List.flatMap_congr fun c inside => (each c inside).1, List.flatMap_singleton']
  rw [normalizeSecret, Text.upper, kept, String.toList_ofList, upper, String.ofList_toList]

end Totp

end AccountSidecar
