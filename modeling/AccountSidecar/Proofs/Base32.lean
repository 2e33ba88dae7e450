import AccountSidecar.Proofs.PlainTexts
import Mathlib.Algebra.Order.Group.Nat
import Mathlib.Data.List.Forall2

/-!
# Base-32 text as bits

What base-32 text stands for, said without groups: each character gives five bits, the bits stand
one after another, and every eight of them are a byte (`Base32Reads`). The last bits that fill no
byte are dropped. Reading group by group comes to just that (`base32Decode_eq_ok_iff`).
-/

namespace AccountSidecar.Codec

open Text

/-- The characters of base-32 text, each at the place of the number that it stands for. -/
def alphabet32 : List Char := "ABCDEFGHIJKLMNOPQRSTUVWXYZ234567".toList

/-- The last `width` bits of a number, highest first. -/
def bitsOf : Nat → Nat → List Bool
  | 0, _ => []
  | width + 1, n => bitsOf width (n / 2) ++ [n % 2 == 1]

/-- The bits of bytes, one byte after another. -/
def bitsOfBytes (bytes : List UInt8) : List Bool := bytes.flatMap fun b => bitsOf 8 b.toNat

/-- The bits of numbers below 32, one number after another. -/
def bitsOfFives (values : List Nat) : List Bool := values.flatMap (bitsOf 5)

/-- Whether characters, of either case, stand for numbers. -/
def StandFor (s : List Char) (values : List Nat) : Prop :=
  List.Forall₂ (fun c v => alphabet32[v]? = some c.toUpper) s values

/-- Whether a text without padding is base-32 text for bytes. Padding completes the last group of
eight characters, so it may miss one, three, four or six of them. -/
structure Base32Reads (s : List Char) (bytes : List UInt8) : Prop where
  groups : s.length % 8 ∈ [0, 2, 4, 5, 7]
  size : bytes.length = 5 * s.length / 8
  bits : ∃ values, StandFor s values ∧
    bitsOfBytes bytes = (bitsOfFives values).take (8 * bytes.length)

section Bits

/-- There are as many bits as asked for. -/
@[simp] theorem length_bitsOf (width n : Nat) : (bitsOf width n).length = width := by
  induction width generalizing n with
  | zero => rfl
  | succ width ih => rw [bitsOf, List.length_append, ih, List.length_singleton]

/-- The last bits of a number, and in front of them those of what is left without them. -/
theorem bitsOf_add (front back n : Nat) :
    bitsOf (front + back) n = bitsOf front (n / 2 ^ back) ++ bitsOf back n := by
  induction back generalizing n with
  | zero => simp [bitsOf]
  | succ back ih =>
    rw [← Nat.add_assoc, bitsOf, ih, bitsOf, Nat.div_div_eq_div_mul, ← Nat.pow_succ',
      List.append_assoc]

/-- What stands above the last bits does not matter to them. -/
theorem bitsOf_mul_add (width high low : Nat) :
    bitsOf width (2 ^ width * high + low) = bitsOf width low := by
  induction width generalizing low with
  | zero => rfl
  | succ width ih =>
    have double : 2 ^ (width + 1) * high + low = 2 * (2 ^ width * high) + low := by
      rw [Nat.pow_succ', Nat.mul_assoc]
    have half : (2 * (2 ^ width * high) + low) / 2 = 2 ^ width * high + low / 2 := by omega
    have last : (2 * (2 ^ width * high) + low) % 2 = low % 2 := by omega
    rw [double, bitsOf, bitsOf, half, last, ih]

/-- The last bits of a number are those of its remainder. -/
theorem bitsOf_mod (width n : Nat) : bitsOf width (n % 2 ^ width) = bitsOf width n := by
  conv_rhs => rw [← Nat.div_add_mod n (2 ^ width), bitsOf_mul_add]

/-- Numbers with the same last bits have the same remainder. -/
theorem mod_eq_of_bitsOf {width m n : Nat} (same : bitsOf width m = bitsOf width n) :
    m % 2 ^ width = n % 2 ^ width := by
  induction width generalizing m n with
  | zero => rw [Nat.pow_zero, Nat.mod_one, Nat.mod_one]
  | succ width ih =>
    obtain ⟨front, last⟩ := List.append_inj same (by rw [length_bitsOf, length_bitsOf])
    have half := ih front
    have parity : m % 2 = n % 2 := by
      have bit := List.singleton_inj.mp last
      rw [Bool.eq_iff_iff, beq_iff_eq, beq_iff_eq] at bit
      omega
    rw [Nat.pow_succ', Nat.mod_mul, Nat.mod_mul, half, parity]

/-- Bytes with the same bits are the same. -/
theorem bitsOfBytes_injective {left right : List UInt8}
    (same : bitsOfBytes left = bitsOfBytes right) : left = right := by
  induction left generalizing right with
  | nil =>
    cases right with
    | nil => rfl
    | cons b rest => cases same
  | cons a left ih =>
    cases right with
    | nil => cases same
    | cons b right =>
      obtain ⟨first, others⟩ := List.append_inj same (by rw [length_bitsOf, length_bitsOf])
      have value : a.toNat = b.toNat := by
        have low := mod_eq_of_bitsOf first
        rwa [Nat.mod_eq_of_lt a.toNat_lt, Nat.mod_eq_of_lt b.toNat_lt] at low
      rw [UInt8.toNat_inj.mp value, ih others]

/-- The bits of the last bytes of a number are its last bits. -/
theorem bitsOfBytes_bytesOf (count n : Nat) :
    bitsOfBytes (bytesOf count n) = bitsOf (8 * count) n := by
  induction count generalizing n with
  | zero => rfl
  | succ count ih =>
    have last : bitsOf 8 (UInt8.ofNat n).toNat = bitsOf 8 n := by
      rw [UInt8.toNat_ofNat']
      exact bitsOf_mod 8 n
    rw [bytesOf, bitsOfBytes, List.flatMap_append, ← bitsOfBytes, ih, Nat.mul_succ, bitsOf_add,
      List.flatMap_singleton, last]
    rfl

/-- There are as many bytes as asked for. -/
theorem length_bytesOf (count n : Nat) : (bytesOf count n).length = count := by
  induction count generalizing n with
  | zero => rfl
  | succ count ih => rw [bytesOf, List.length_append, ih, List.length_singleton]

end Bits

/-- A character has the value at whose place it stands in the alphabet, whatever its case. -/
theorem base32Value?_eq_some_iff {c : Char} {v : Nat} :
    base32Value? c = some v ↔ alphabet32[v]? = some c.toUpper := by
  have letters : ∀ v < 26, alphabet32[v]? = some (Char.ofNat (v + 0x41)) := by decide
  have digits : ∀ v < 6, alphabet32[v + 26]? = some (Char.ofNat (v + 0x32)) := by decide
  have values : ∀ v < 32, (alphabet32[v]?.bind fun u =>
      if 'A' ≤ u && u ≤ 'Z' then some (u.toNat - 0x41)
      else if '2' ≤ u && u ≤ '7' then some (u.toNat - 0x32 + 26) else none) = some v := by decide
  unfold base32Value?
  dsimp only
  generalize c.toUpper = u
  constructor
  · intro valued
    split at valued
    · rename_i letter
      obtain rfl := Option.some.inj valued
      simp only [Bool.and_eq_true, decide_eq_true_eq] at letter
      have low : 0x41 ≤ u.toNat := letter.1
      have high : u.toNat ≤ 0x5A := letter.2
      rw [letters _ (by omega), Nat.sub_add_cancel low, Char.ofNat_toNat]
    · split at valued
      · rename_i digit
        obtain rfl := Option.some.inj valued
        simp only [Bool.and_eq_true, decide_eq_true_eq] at digit
        have low : 0x32 ≤ u.toNat := digit.1
        have high : u.toNat ≤ 0x37 := digit.2
        rw [digits _ (by omega), Nat.sub_add_cancel low, Char.ofNat_toNat]
      · cases valued
  · intro there
    have inside : v < 32 := (List.getElem?_eq_some_iff.mp there).1
    have valued := values v inside
    rwa [there] at valued

/-- A character stands for one number at most. -/
theorem StandFor.unique {s : List Char} {values others : List Nat} (stand : StandFor s values)
    (stand' : StandFor s others) : values = others := by
  induction stand generalizing others with
  | nil => cases stand'; rfl
  | cons first _ ih =>
    obtain _ | ⟨first', rest'⟩ := stand'
    have same :=
      (base32Value?_eq_some_iff.mpr first).symm.trans (base32Value?_eq_some_iff.mpr first')
    rw [Option.some.inj same, ih rest']

/-- The number of a text is that of the numbers that its characters stand for, in base 32. -/
theorem foldlM_eq_some_iff {s : List Char} {start n : Nat} :
    s.foldlM (fun n c => (base32Value? c).map (32 * n + ·)) start = some n ↔
      ∃ values, StandFor s values ∧ n = values.foldl (32 * · + ·) start := by
  induction s generalizing start with
  | nil => simp [StandFor, eq_comm]
  | cons c s ih =>
    rw [List.foldlM_cons]
    constructor
    · intro read
      obtain ⟨next, valued, rest⟩ := Option.bind_eq_some_iff.mp read
      obtain ⟨v, value, rfl⟩ := Option.map_eq_some_iff.mp valued
      obtain ⟨values, stand, rfl⟩ := ih.mp rest
      exact ⟨v :: values, .cons (base32Value?_eq_some_iff.mp value) stand, rfl⟩
    · rintro ⟨_, _ | ⟨first, stand⟩, rfl⟩
      rw [base32Value?_eq_some_iff.mpr first]
      exact ih.mpr ⟨_, stand, rfl⟩

/-- Five times as many bits as there are numbers show these numbers, and what stands above them is
the number at the start. -/
theorem bitsOf_foldl {values : List Nat} (small : ∀ v ∈ values, v < 32) (start : Nat) :
    values.foldl (32 * · + ·) start / 2 ^ (5 * values.length) = start ∧
      bitsOf (5 * values.length) (values.foldl (32 * · + ·) start) = bitsOfFives values := by
  induction values generalizing start with
  | nil => exact ⟨Nat.div_one start, rfl⟩
  | cons v values ih =>
    obtain ⟨below, small⟩ := List.forall_mem_cons.mp small
    obtain ⟨above, bits⟩ := ih small (32 * start + v)
    rw [List.foldl_cons, List.length_cons, Nat.mul_succ, Nat.add_comm (5 * values.length)]
    constructor
    · rw [Nat.pow_add', ← Nat.div_div_eq_div_mul, above]
      omega
    · rw [bitsOf_add, above, bits]
      exact congrArg (· ++ bitsOfFives values) (bitsOf_mul_add 5 start v)

/-- What characters stand for is below 32. -/
theorem StandFor.small {s : List Char} {values : List Nat} (stand : StandFor s values) :
    ∀ v ∈ values, v < 32 := by
  induction stand with
  | nil => simp
  | cons first _ ih => exact List.forall_mem_cons.mpr ⟨(List.getElem?_eq_some_iff.mp first).1, ih⟩

/-- The number of a text shows the bits of its characters. -/
theorem bitsOf_base32Number? {s : List Char} {n : Nat} (read : base32Number? s = some n) :
    ∃ values, StandFor s values ∧ bitsOf (5 * s.length) n = bitsOfFives values := by
  obtain ⟨values, stand, rfl⟩ := foldlM_eq_some_iff.mp read
  rw [stand.length_eq]
  exact ⟨values, stand, (bitsOf_foldl stand.small 0).2⟩

/-- There is no more than one reading of a text. -/
theorem Base32Reads.unique {s : List Char} {left right : List UInt8} (reads : Base32Reads s left)
    (reads' : Base32Reads s right) : left = right := by
  obtain ⟨values, stand, bits⟩ := reads.bits
  obtain ⟨others, stand', bits'⟩ := reads'.bits
  refine bitsOfBytes_injective ?_
  rw [bits, bits', stand.unique stand', reads.size, reads'.size]

/-- An incomplete last group carries as many bytes as its bits fill. -/
theorem partialBytes?_eq_some_iff {length count : Nat} (short : length < 8) :
    partialBytes? length = some count ↔ length % 8 ∈ [0, 2, 4, 5, 7] ∧ count = 5 * length / 8 := by
  have each : ∀ n < 8, partialBytes? n =
      if n % 8 ∈ [0, 2, 4, 5, 7] then some (5 * n / 8) else none := by decide
  rw [each length short]
  split
  · rename_i inside
    rw [Option.some.injEq, eq_comm]
    exact ⟨fun same => ⟨inside, same⟩, And.right⟩
  · rename_i outside
    exact iff_of_false (fun none => by cases none) fun both => outside both.1

/-- Groups that were read are what the text stands for. -/
theorem base32Reads_of_groups {fuel : Nat} {s : List Char} {bytes : List UInt8}
    (enough : s.length < fuel) (read : base32Groups fuel s = some bytes) : Base32Reads s bytes := by
  induction fuel generalizing s bytes with
  | zero => exact absurd enough (Nat.not_lt_zero _)
  | succ fuel ih =>
    rw [base32Groups] at read
    split at read
    · -- The last group: the bits that fill no byte are shifted out.
      rename_i short
      obtain ⟨count, counted, numbered⟩ := Option.bind_eq_some_iff.mp read
      obtain ⟨n, number, rfl⟩ := Option.map_eq_some_iff.mp numbered
      obtain ⟨groups, size⟩ := (partialBytes?_eq_some_iff short).mp counted
      obtain ⟨values, stand, bits⟩ := bitsOf_base32Number? number
      refine ⟨groups, (length_bytesOf _ _).trans size, values, stand, ?_⟩
      have parts : 5 * s.length = 8 * count + (5 * s.length - 8 * count) := by omega
      rw [bitsOfBytes_bytesOf, length_bytesOf, ← bits, parts, bitsOf_add, ← parts]
      exact (List.take_left' (length_bitsOf _ _)).symm
    · -- A whole group: five bytes, and the rest of the text.
      rename_i long
      obtain ⟨n, number, others⟩ := Option.bind_eq_some_iff.mp read
      obtain ⟨rest, below, rfl⟩ := Option.map_eq_some_iff.mp others
      have whole : (s.take 8).length = 8 := by rw [List.length_take]; omega
      have left : (s.drop 8).length = s.length - 8 := List.length_drop
      obtain ⟨groups, size, values', stand', bits'⟩ := ih (by omega) below
      obtain ⟨values, stand, bits⟩ := bitsOf_base32Number? number
      rw [whole] at bits
      rw [left] at groups size
      refine ⟨?_, ?_, values ++ values', ?_, ?_⟩
      · rwa [Nat.mod_eq_sub_mod (Nat.le_of_not_lt long)]
      · rw [List.length_append, length_bytesOf, size]
        omega
      · rw [← List.take_append_drop 8 s]
        exact List.rel_append stand stand'
      · have five : (bitsOfFives values).length = 8 * 5 := by rw [← bits, length_bitsOf]
        rw [bitsOfBytes, List.flatMap_append, ← bitsOfBytes, ← bitsOfBytes, bitsOfBytes_bytesOf,
          bits, bits', List.length_append, length_bytesOf, Nat.mul_add, ← five, bitsOfFives,
          bitsOfFives, bitsOfFives, List.flatMap_append, List.take_length_add_append]

/-- A text of characters that stand for numbers, in groups that may be, is read. -/
theorem exists_base32Groups {fuel : Nat} {s : List Char} {values : List Nat}
    (enough : s.length < fuel) (groups : s.length % 8 ∈ [0, 2, 4, 5, 7])
    (stand : StandFor s values) : ∃ bytes, base32Groups fuel s = some bytes := by
  have numbered {s : List Char} {values : List Nat} (stand : StandFor s values) :
      ∃ n, base32Number? s = some n := ⟨_, foldlM_eq_some_iff.mpr ⟨values, stand, rfl⟩⟩
  induction fuel generalizing s values with
  | zero => exact absurd enough (Nat.not_lt_zero _)
  | succ fuel ih =>
    rw [base32Groups]
    split
    · rename_i short
      obtain ⟨n, number⟩ := numbered stand
      rw [(partialBytes?_eq_some_iff short).mpr ⟨groups, rfl⟩, number]
      exact ⟨_, rfl⟩
    · rename_i long
      have left : (s.drop 8).length = s.length - 8 := List.length_drop
      have groups' : (s.drop 8).length % 8 ∈ [0, 2, 4, 5, 7] := by
        rwa [left, ← Nat.mod_eq_sub_mod (Nat.le_of_not_lt long)]
      obtain ⟨n, number⟩ := numbered (List.forall₂_take 8 stand)
      obtain ⟨rest, below⟩ := ih (by omega) groups' (List.forall₂_drop 8 stand)
      rw [number, below]
      exact ⟨_, rfl⟩

/-- The characters of a text that stands for bytes are plain. -/
theorem StandFor.isPlain {s : List Char} {values : List Nat} (stand : StandFor s values) :
    ∀ c ∈ s, IsPlain c := by
  induction stand with
  | nil => simp
  | cons first _ ih =>
    refine List.forall_mem_cons.mpr ⟨isPlain_of_base32Value? ?_, ih⟩
    rw [base32Value?_eq_some_iff.mpr first]
    rfl

/-- A character that stands for a number is one of the alphabet in upper case. -/
theorem StandFor.mem {s : List Char} {values : List Nat} (stand : StandFor s values) {c : Char}
    (inside : c ∈ s) : c.toUpper ∈ alphabet32 := by
  induction stand with
  | nil => cases inside
  | cons first _ ih =>
    rcases List.mem_cons.mp inside with rfl | inside
    · exact List.mem_of_getElem? first
    · exact ih inside

/-- No plain character is beyond ASCII. -/
theorem not_any_of_plain {s : List Char} (plain : ∀ c ∈ s, IsPlain c) :
    ¬ (s.any fun c => decide (0x80 ≤ c.toNat)) = true := by
  simp only [List.any_eq_true, decide_eq_true_eq, not_exists, not_and, not_le]
  exact fun c inside => Nat.lt_trans (plain c inside).2.1 (by decide)

/-- A text is read as the bytes that it stands for, and as nothing else. -/
theorem base32Decode_eq_ok_iff {s : List Char} {bytes : List UInt8} :
    base32Decode s = .ok bytes ↔ Base32Reads s bytes := by
  unfold base32Decode
  constructor
  · intro read
    split at read
    · cases read
    · split at read
      · rename_i groups
        rw [← Except.ok.inj read]
        exact base32Reads_of_groups (Nat.lt_succ_self _) groups
      · cases read
  · intro reads
    obtain ⟨values, stand, -⟩ := reads.bits
    obtain ⟨bytes', groups⟩ := exists_base32Groups (Nat.lt_succ_self _) reads.groups stand
    rw [if_neg (not_any_of_plain stand.isPlain), groups,
      reads.unique (base32Reads_of_groups (Nat.lt_succ_self _) groups)]

end AccountSidecar.Codec
