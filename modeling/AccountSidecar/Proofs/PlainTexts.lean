import AccountSidecar.Password.Bcrypt
import AccountSidecar.Proofs.UsersText
import AccountSidecar.Totp.Code

/-!
# Plain texts

Hashes and the secrets whose codes verify hold visible ASCII characters other than the colon, so
they fit a field of a users file and come back from it unchanged.
-/

namespace AccountSidecar

namespace Text

/-- Whether the character is visible ASCII other than the colon. -/
def IsPlain (c : Char) : Prop := 0x20 < c.toNat ∧ c.toNat < 0x7F ∧ c ≠ ':'

instance (c : Char) : Decidable (IsPlain c) := inferInstanceAs (Decidable (_ ∧ _ ∧ _))

/-- A plain character is not blank. -/
theorem isBlank_of_plain {c : Char} (plain : IsPlain c) : isBlank c = false := by
  obtain ⟨low, high, -⟩ := plain
  simp only [isBlank, Bool.or_eq_false_iff, Bool.and_eq_false_iff, decide_eq_false_iff_not,
    beq_eq_false_iff_ne]
  omega

/-- A plain character is no line boundary. -/
theorem isLineBreak_of_plain {c : Char} (plain : IsPlain c) : isLineBreak c = false := by
  obtain ⟨low, high, -⟩ := plain
  simp only [isLineBreak, Bool.or_eq_false_iff, Bool.and_eq_false_iff, decide_eq_false_iff_not,
    beq_eq_false_iff_ne]
  omega

/-- A digit is plain. -/
theorem isPlain_of_isDigit {c : Char} (digit : c.isDigit = true) : IsPlain c := by
  simp only [Char.isDigit, Bool.and_eq_true, decide_eq_true_eq, UInt32.le_iff_toNat_le,
    ge_iff_le] at digit
  change 48 ≤ c.toNat ∧ c.toNat ≤ 57 at digit
  refine ⟨by omega, by omega, ?_⟩
  rintro rfl
  exact absurd digit (by decide)

/-- Where a fold over values of characters gives a value, each character has one. -/
theorem isSome_of_foldlM {value? : Char → Option Nat} {join : Nat → Nat → Nat} {s : List Char}
    {start n : Nat} (read : s.foldlM (fun n c => (value? c).map (join n)) start = some n) :
    ∀ c ∈ s, (value? c).isSome := by
  induction s generalizing start with
  | nil => simp
  | cons d s ih =>
    cases own : value? d with
    | none => simp [own] at read
    | some v =>
      simp only [List.foldlM_cons, own, Option.map_some, Option.bind_eq_bind,
        Option.bind_some] at read
      exact List.forall_mem_cons.mpr ⟨by simp [own], ih read⟩

/-- Trimming the end takes away characters of the class only. -/
theorem mem_trimEnd_of_not {p : Char → Bool} {s : List Char} {c : Char} (inside : c ∈ s)
    (kept : p c = false) : c ∈ trimEnd p s := by
  obtain ⟨front, back, rfl⟩ := List.append_of_mem inside
  rw [trimEnd_append_cons_of_not front back kept]
  simp

end Text

namespace Users

open Text

/-- Whether all characters of the text are plain. -/
def IsPlainText (s : String) : Prop := ∀ c ∈ s.toList, IsPlain c

instance (s : String) : Decidable (IsPlainText s) :=
  decidable_of_iff (s.toList.all fun c => decide (IsPlain c)) (by simp [IsPlainText])

/-- A plain text fits a field. -/
theorem fitsField_of_plain {s : String} (plain : IsPlainText s) : FitsField s :=
  fun c inside => ⟨(plain c inside).2.2, isLineBreak_of_plain (plain c inside)⟩

/-- Plain texts one after another make a plain text. -/
theorem IsPlainText.append {s t : String} (left : IsPlainText s) (right : IsPlainText t) :
    IsPlainText (s ++ t) := by
  intro c inside
  rw [String.toList_append, List.mem_append] at inside
  exact inside.elim (left c) (right c)

end Users

namespace Password

open Text Users

/-- The characters of the alphabet are plain. -/
theorem isPlain_of_mem_alphabet : ∀ c ∈ alphabet, IsPlain c := by
  have letters : alphabet.all (fun c => decide (IsPlain c)) = true := by decide
  simpa using letters

/-- Six bits are written with a character of the alphabet. -/
theorem sixBitChar_mem (n : Nat) : sixBitChar n ∈ alphabet := by
  unfold sixBitChar
  rw [List.getD_eq_getElem?_getD]
  cases found : alphabet[n]? with
  | none => decide
  | some c => exact List.mem_of_getElem? found

/-- Bytes are written with characters of the alphabet. -/
theorem encode64_mem (bytes : List UInt8) : ∀ c ∈ encode64 bytes, c ∈ alphabet := by
  induction bytes using encode64.induct with
  | case1 => simp [encode64]
  | case2 a => simp [encode64, sixBitChar_mem]
  | case3 a b => simp [encode64, sixBitChar_mem]
  | case4 a b c rest ih =>
    simp only [encode64, List.forall_mem_cons]
    exact ⟨sixBitChar_mem _, sixBitChar_mem _, sixBitChar_mem _, sixBitChar_mem _, ih⟩

/-- A character that stands for six bits is one of the alphabet. -/
theorem mem_alphabet_of_sixBits? {c : Char} (valued : (sixBits? c).isSome) : c ∈ alphabet := by
  unfold sixBits? at valued
  rw [List.isSome_idxOf?] at valued
  exact valued

/-- Whether a salt is as reading leaves one. -/
structure Salt.IsRead (salt : Salt) : Prop where
  version : salt.version ∈ versions
  least : 4 ≤ salt.cost
  most : salt.cost ≤ 31
  length : salt.text.toList.length = saltLength
  value : ∃ bits, decode64? salt.text.toList = some bits ∧ salt.value = bits / 16

/-- A salt that was read is as reading leaves one. -/
theorem Salt.isRead_of_parse? {s : String} {salt : Salt} (read : Salt.parse? s = some salt) :
    salt.IsRead := by
  unfold Salt.parse? at read
  split at read
  · rename_i version cost rest shape
    simp only [Option.bind_eq_bind, Option.bind_eq_some_iff] at read
    obtain ⟨n, -, bits, valued, checked⟩ := read
    split at checked
    · rename_i checks
      obtain rfl := Option.some.inj checked
      simp only [Bool.and_eq_true, List.contains_iff_mem, decide_eq_true_eq] at checks
      obtain ⟨⟨⟨known, whole⟩, least⟩, most⟩ := checks
      exact ⟨known, least, most, by rw [String.toList_ofList]; exact whole, bits,
        by rw [String.toList_ofList]; exact valued, rfl⟩
    · cases checked
  · cases read

/-- The text of a salt that was read has characters of the alphabet. -/
theorem Salt.IsRead.letters {salt : Salt} (read : salt.IsRead) :
    ∀ c ∈ salt.text.toList, c ∈ alphabet := by
  obtain ⟨bits, valued, -⟩ := read.value
  exact fun c inside => mem_alphabet_of_sixBits? (isSome_of_foldlM valued c inside)

/-- The versions are plain. -/
theorem isPlainText_of_mem_versions : ∀ v ∈ versions, IsPlainText v := by decide

/-- A cost is written with digits. -/
theorem isDigit_of_mem_costText {cost : Nat} {c : Char} (inside : c ∈ (costText cost).toList) :
    c.isDigit = true := by
  rw [costText, String.toList_append, List.mem_append] at inside
  rcases inside with zero | inside
  · split at zero
    · rw [List.mem_singleton.mp zero]
      decide
    · cases zero
  · have digits : (toString cost).toList = Nat.toDigits 10 cost := by
      simp [toString, Nat.repr]
    rw [digits] at inside
    exact Nat.isDigit_of_mem_toDigits (by decide) (by decide) inside

/-- The front of a hash is plain. -/
theorem Salt.IsRead.isPlainText_head {salt : Salt} (read : salt.IsRead) :
    IsPlainText salt.head := by
  have dollar : IsPlainText "$" := by decide
  have cost : IsPlainText (costText salt.cost) := fun c inside =>
    isPlain_of_isDigit (isDigit_of_mem_costText inside)
  have letters : IsPlainText salt.text := fun c inside =>
    isPlain_of_mem_alphabet c (read.letters c inside)
  exact ((((dollar.append (isPlainText_of_mem_versions _ read.version)).append dollar).append
    cost).append dollar).append letters

/-- A hash is its salt in front of characters of the alphabet. -/
theorem eq_of_hash? {saltText password h : String} (hashed : hash? saltText password = some h) :
    ∃ salt, Salt.parse? saltText = some salt ∧ h = hashWith salt password := by
  unfold hash? at hashed
  split at hashed
  · cases hashed
  · obtain ⟨salt, read, rfl⟩ := Option.map_eq_some_iff.mp hashed
    exact ⟨salt, read, rfl⟩

/-- A password that is not too long has a hash under every salt. -/
theorem exists_hash? {saltText password : String} (fits : isTooLong password = false)
    (salt : (Salt.parse? saltText).isSome) : ∃ hash, hash? saltText password = some hash := by
  obtain ⟨s, read⟩ := Option.isSome_iff_exists.mp salt
  exact ⟨hashWith s password, by simp [hash?, fits, read]⟩

/-- A hash is plain. -/
theorem isPlainText_of_hash? {saltText password h : String}
    (hashed : hash? saltText password = some h) : IsPlainText h := by
  obtain ⟨salt, read, rfl⟩ := eq_of_hash? hashed
  refine (Salt.isRead_of_parse? read).isPlainText_head.append fun c inside => ?_
  rw [String.toList_ofList] at inside
  exact isPlain_of_mem_alphabet c (encode64_mem _ c inside)

/-- A hash starts with the sign in front of its version. -/
theorem head?_of_hash? {saltText password h : String}
    (hashed : hash? saltText password = some h) : h.toList.head? = some '$' := by
  obtain ⟨salt, -, rfl⟩ := eq_of_hash? hashed
  simp [hashWith, Salt.head]

/-- No hash is empty. -/
theorem ne_empty_of_hash? {saltText password h : String}
    (hashed : hash? saltText password = some h) : h ≠ "" := by
  rintro rfl
  cases head?_of_hash? hashed

end Password

namespace Codec

open Text

/-- A character that carries five bits is plain. -/
theorem isPlain_of_base32Value? {c : Char} (valued : (base32Value? c).isSome) : IsPlain c := by
  by_cases lower : 'a'.val ≤ c.val ∧ c.val ≤ 'z'.val
  · obtain ⟨low, high⟩ := lower
    simp only [UInt32.le_iff_toNat_le] at low high
    change 97 ≤ c.toNat at low
    change c.toNat ≤ 122 at high
    refine ⟨by omega, by omega, ?_⟩
    rintro rfl
    exact absurd low (by decide)
  · have same : c.toUpper = c := dif_neg lower
    unfold base32Value? at valued
    rw [same] at valued
    by_cases letter : 'A' ≤ c ∧ c ≤ 'Z'
    · have low : 65 ≤ c.toNat := letter.1
      have high : c.toNat ≤ 90 := letter.2
      refine ⟨by omega, by omega, ?_⟩
      rintro rfl
      exact absurd low (by decide)
    · by_cases digit : '2' ≤ c ∧ c ≤ '7'
      · have low : 50 ≤ c.toNat := digit.1
        have high : c.toNat ≤ 55 := digit.2
        refine ⟨by omega, by omega, ?_⟩
        rintro rfl
        exact absurd high (by decide)
      · simp [letter, digit] at valued

/-- The characters of groups that were read are plain, if the fuel is enough for all of them. -/
theorem isPlain_of_base32Groups {fuel : Nat} {s : List Char} {bytes : List UInt8}
    (enough : s.length < fuel) (read : base32Groups fuel s = some bytes) : ∀ c ∈ s, IsPlain c := by
  have numbered {s : List Char} {n : Nat} (valued : base32Number? s = some n) :
      ∀ c ∈ s, IsPlain c :=
    fun c inside => isPlain_of_base32Value? (isSome_of_foldlM valued c inside)
  induction fuel generalizing s bytes with
  | zero => omega
  | succ fuel ih =>
    rw [base32Groups] at read
    split at read
    · obtain ⟨count, -, whole⟩ := Option.bind_eq_some_iff.mp read
      obtain ⟨n, valued, -⟩ := Option.map_eq_some_iff.mp whole
      exact numbered valued
    · rename_i long
      obtain ⟨n, valued, more⟩ := Option.bind_eq_some_iff.mp read
      obtain ⟨rest, below, -⟩ := Option.map_eq_some_iff.mp more
      have shorter : (s.drop 8).length < fuel := by
        rw [List.length_drop]
        omega
      intro c inside
      rw [← List.take_append_drop 8 s, List.mem_append] at inside
      exact inside.elim (numbered valued c) (ih shorter below c)

/-- The characters of a text that was read are plain. -/
theorem isPlain_of_base32Decode {s : List Char} {bytes : List UInt8}
    (read : base32Decode s = .ok bytes) : ∀ c ∈ s, IsPlain c := by
  unfold base32Decode at read
  split at read
  · cases read
  · cases groups : base32Groups (s.length + 1) s with
    | none => simp [groups] at read
    | some all => exact isPlain_of_base32Groups (Nat.lt_succ_self _) groups

end Codec

namespace Totp

open Text Users

/-- A secret that gives a key is plain. -/
theorem isPlainText_of_keyOf {secret : String} {key : List UInt8}
    (given : keyOf secret = .ok key) : IsPlainText secret := by
  unfold keyOf at given
  split at given
  · cases given
  · cases bared : unpadded? secret.toList with
    | none => simp [bared] at given
    | some bare =>
      have trimmed : bare = trimEnd (· == '=') secret.toList := by
        simp only [unpadded?, Option.ite_none_right_eq_some] at bared
        exact (Option.some.inj bared.2).symm
      have plain : ∀ c ∈ bare, IsPlain c := by
        cases read : Codec.base32Decode bare with
        | error e => cases e <;> simp [bared, read] at given
        | ok bytes => exact Codec.isPlain_of_base32Decode read
      intro c inside
      by_cases padding : c = '='
      · rw [padding]
        decide
      · refine plain c ?_
        rw [trimmed]
        exact mem_trimEnd_of_not inside (by simpa using padding)

/-- A secret one of whose codes was accepted is plain in its stored form. -/
theorem isPlainText_of_verify {secret code : String} {window second : Int}
    (accepted : verify secret code window second = true) :
    IsPlainText (normalizeSecret secret) := by
  cases given : keyOf (normalizeSecret secret) with
  | ok key => exact isPlainText_of_keyOf given
  | error e => simp [verify, given] at accepted

end Totp

end AccountSidecar
