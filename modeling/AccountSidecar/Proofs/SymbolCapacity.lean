import AccountSidecar.Totp.Setup
import Mathlib.Algebra.GroupWithZero.Nat
import Mathlib.Data.String.Basic

/-!
# What a QR code holds

The runs of a text have all its bytes (`Qr.sum_length_runs`), and a byte takes ten thirds of a bit
at the least, so no symbol holds a text of more than 5601 bytes (`Qr.size?_of_long`). The address of
an enrolment is longer than the username in it, which nothing bounds, so an enrolment under a secret
that codes can be computed from fails for long names (`Totp.setupWith_of_long`), and in no other way
than for the length of its address (`Totp.setupWith_cases`).
-/

namespace AccountSidecar.Text

/-- The bytes of an array are those of its data. -/
theorem toList_eq_data (bytes : ByteArray) : bytes.toList = bytes.data.toList := by
  have collected (i : Nat) (seen : List UInt8) :
      ByteArray.toList.loop bytes i seen = seen.reverse ++ bytes.data.toList.drop i := by
    induction i, seen using ByteArray.toList.loop.induct bytes with
    | case1 i seen inside ih =>
      have next : bytes.data.toList.drop i =
          bytes.data[i] :: bytes.data.toList.drop (i + 1) :=
        List.drop_eq_getElem_cons (by simpa using inside)
      rw [ByteArray.toList.loop, if_pos inside, ih, next]
      simp [ByteArray.get!, inside]
    | case2 i seen outside =>
      rw [ByteArray.toList.loop, if_neg outside, List.drop_eq_nil_of_le, List.append_nil]
      exact Nat.le_of_not_lt outside
  exact collected 0 []

/-- A text has as many bytes as its size says. -/
theorem length_toList_toUTF8 (s : String) : s.toUTF8.toList.length = s.utf8ByteSize := by
  rw [toList_eq_data]
  rfl

/-- A character takes at least a byte. -/
theorem length_le_utf8ByteSize (s : String) : s.length ≤ s.utf8ByteSize := by
  have sized (cs : List Char) : cs.length ≤ String.utf8Len cs := by
    induction cs with
    | nil => exact Nat.le_refl _
    | cons c rest ih =>
      have positive := c.utf8Size_pos
      rw [String.utf8Len_cons, List.length_cons]
      omega
  have same := sized s.toList
  rwa [← String.utf8ByteSize_ofList, String.ofList_toList, String.length_toList] at same

end AccountSidecar.Text

namespace AccountSidecar.Qr

/-- The bytes of pieces, in order. -/
def bytesOf (pieces : List Piece) : List UInt8 := pieces.flatMap (·.2)

/-- A byte put in front of pieces is the first of their bytes. -/
theorem bytesOf_consOutside (b : UInt8) (pieces : List Piece) :
    bytesOf (consOutside b pieces) = b :: bytesOf pieces := by
  unfold consOutside
  split <;> rfl

/-- Bytes put in front of pieces are the first of their bytes. -/
theorem bytesOf_foldr_consOutside (bytes : List UInt8) (pieces : List Piece) :
    bytesOf (bytes.foldr consOutside pieces) = bytes ++ bytesOf pieces := by
  induction bytes with
  | nil => rfl
  | cons b rest ih => rw [List.foldr_cons, bytesOf_consOutside, ih, List.cons_append]

/-- Cutting bytes into runs of a class loses none of them. -/
theorem bytesOf_splitRuns (inClass : UInt8 → Bool) (least fuel : Nat) (bytes : List UInt8)
    (enough : bytes.length < fuel) : bytesOf (splitRuns inClass least fuel bytes) = bytes := by
  induction fuel generalizing bytes with
  | zero => exact absurd enough (Nat.not_lt_zero _)
  | succ fuel ih =>
    cases bytes with
    | nil => rfl
    | cons b rest =>
      unfold splitRuns
      dsimp only
      have whole : (b :: rest).takeWhile inClass ++
          (b :: rest).drop ((b :: rest).takeWhile inClass).length = b :: rest :=
        List.prefix_iff_eq_append.mp (List.takeWhile_prefix inClass)
      generalize (b :: rest).takeWhile inClass = run at whole ⊢
      cases run with
      | nil =>
        have shorter : rest.length < fuel := Nat.lt_of_succ_lt_succ enough
        simp [bytesOf_consOutside, ih rest shorter]
      | cons c more =>
        -- A run takes at least one byte away, so the fuel outlasts what follows it.
        have shorter : ((b :: rest).drop (c :: more).length).length < fuel := by
          simp only [List.length_drop, List.length_cons] at enough ⊢
          omega
        split
        · rw [bytesOf, List.flatMap_cons, ← bytesOf, ih _ shorter]
          exact whole
        · rw [if_neg (by simp), bytesOf_foldr_consOutside, ih _ shorter]
          exact whole

/-- Cutting bytes into a part of a class and the rest loses none of them. -/
theorem bytesOf_splitWhole (inClass : UInt8 → Bool) (bytes : List UInt8) :
    bytesOf (splitWhole inClass bytes) = bytes := by
  have whole : bytes.takeWhile inClass ++ bytes.drop (bytes.takeWhile inClass).length = bytes :=
    List.prefix_iff_eq_append.mp (List.takeWhile_prefix inClass)
  unfold splitWhole
  dsimp only
  generalize bytes.drop (bytes.takeWhile inClass).length = rest at whole ⊢
  generalize bytes.takeWhile inClass = run at whole ⊢
  split
  · rename_i none
    rw [List.isEmpty_iff.mp none]
    rfl
  · split
    · simp [bytesOf]
    · split
      · rename_i none
        rw [List.isEmpty_iff.mp none] at whole
        simpa [bytesOf] using whole
      · rename_i some
        split
        · simpa [bytesOf] using whole
        · exact List.append_nil bytes

/-- Cutting the bytes of a text by a class loses none of them. -/
theorem bytesOf_split (total : Nat) (inClass : UInt8 → Bool) (bytes : List UInt8) :
    bytesOf (split total inClass bytes) = bytes := by
  unfold split
  split
  · exact bytesOf_splitWhole inClass bytes
  · exact bytesOf_splitRuns inClass leastRun _ bytes (Nat.lt_succ_self _)

/-- The lengths of the pieces of a text add up to its length. -/
theorem sum_length_split (total : Nat) (inClass : UInt8 → Bool) (bytes : List UInt8) :
    ((split total inClass bytes).map fun piece => piece.2.length).sum = bytes.length := by
  rw [← List.length_flatMap]
  exact congrArg List.length (bytesOf_split total inClass bytes)

/-- The lengths of the runs of a text add up to its length. -/
theorem sum_length_runs (bytes : List UInt8) :
    ((runs bytes).map Run.length).sum = bytes.length := by
  have piecewise (piece : Piece) : ((if piece.1 then [⟨.numeric, piece.2.length⟩]
      else (split bytes.length isAlphanumeric piece.2).map fun part =>
        ⟨if part.1 then .alphanumeric else .byte, part.2.length⟩ : List Run).map
          Run.length).sum = piece.2.length := by
    split
    · exact Nat.add_zero _
    · rw [List.map_map]
      exact sum_length_split bytes.length isAlphanumeric piece.2
  unfold runs
  rw [List.map_flatMap, List.flatMap_def, List.sum_flatten, List.map_map]
  refine Eq.trans (congrArg List.sum (List.map_congr_left fun piece _ => ?_))
    (sum_length_split bytes.length isNumeric bytes)
  exact piecewise piece

/-- A byte takes ten thirds of a bit at the least. -/
theorem le_contentBits (r : Run) : 10 * r.length ≤ 3 * contentBits r := by
  unfold contentBits
  cases r.mode with
  | numeric =>
    dsimp only
    split
    · omega
    · split <;> omega
  | alphanumeric => dsimp only; omega
  | byte => dsimp only; omega

/-- Runs take ten thirds of a bit for each byte at the least. -/
theorem le_neededBits (version : Nat) (rs : List Run) :
    10 * (rs.map Run.length).sum ≤ 3 * neededBits version rs := by
  have grown (bits : Nat) : 10 * (rs.map Run.length).sum + 3 * bits ≤
      3 * rs.foldl (fun n r => n + 4 + lengthBits r.mode version + contentBits r) bits := by
    induction rs generalizing bits with
    | nil => simp
    | cons r rest ih =>
      have later := ih (bits + 4 + lengthBits r.mode version + contentBits r)
      have here := le_contentBits r
      rw [List.map_cons, List.sum_cons, List.foldl_cons]
      omega
  exact grown 0

/-- No version holds more bits than the largest one. -/
theorem versionFor?_of_large {bits : Nat} (large : 8 * 2334 < bits) (start : Nat) :
    versionFor? start bits = none := by
  have small : ∀ capacity ∈ capacities, capacity ≤ 2334 := by decide
  unfold versionFor?
  rw [Option.map_eq_none_iff, List.find?_eq_none]
  intro c among fits
  have capacity := small c.1 (List.fst_mem_of_mem_zipIdx (List.mem_of_mem_drop among))
  have fits : bits ≤ 8 * c.1 := of_decide_eq_true fits
  omega

/-- A text of more bytes than the largest symbol holds digits has no symbol. -/
theorem size?_of_long {text : String} (long : 5601 < text.utf8ByteSize) : size? text = none := by
  have needed := le_neededBits 1 (runs text.toUTF8.toList)
  rw [sum_length_runs, Text.length_toList_toUTF8] at needed
  unfold size? fit?
  rw [versionFor?_of_large (by omega)]
  rfl

end AccountSidecar.Qr

namespace AccountSidecar.Text

/-- No byte is encoded as nothing. -/
theorem one_le_length_percentByte (safe : List Char) (b : UInt8) :
    1 ≤ (percentByte safe b).length := by
  unfold percentByte
  split <;> simp

/-- Encoding makes no text shorter. -/
theorem le_utf8ByteSize_percentEncode (safe : List Char) (s : String) :
    s.utf8ByteSize ≤ (percentEncode safe s).utf8ByteSize := by
  unfold percentEncode
  rw [← length_toList_toUTF8 s]
  refine Nat.le_trans ?_ (length_le_utf8ByteSize _)
  rw [String.length_ofList]
  induction s.toUTF8.toList with
  | nil => exact Nat.le_refl _
  | cons b rest ih =>
    have here := one_le_length_percentByte safe b
    rw [List.flatMap_cons, List.length_append, List.length_cons]
    omega

end AccountSidecar.Text

namespace AccountSidecar.Totp

open Text

variable {secret username issuer : String} {key : List UInt8}

/-- An address is longer than the account in it. -/
theorem le_utf8ByteSize_uri {uri : String}
    (written : provisioningUri secret username issuer = .ok uri) :
    username.utf8ByteSize ≤ uri.utf8ByteSize := by
  have shown : username.utf8ByteSize ≤ (label username issuer).utf8ByteSize := by
    have encoded : username.utf8ByteSize ≤
        (percentEncode ['/']
          (if username = "" then defaultAccount else username)).utf8ByteSize := by
      split
      · rename_i none
        rw [none]
        exact Nat.zero_le _
      · exact le_utf8ByteSize_percentEncode _ _
    unfold label
    dsimp only
    split
    · exact encoded
    · rw [String.utf8ByteSize_append]
      omega
  unfold provisioningUri at written
  split at written
  · cases written
  · rw [← Except.ok.inj written]
    simp only [String.utf8ByteSize_append]
    omega

/-- An enrolment under a secret that codes can be computed from can be prepared unless its address
is too long. -/
theorem setupWith_cases (keyed : keyOf secret = .ok key) (username issuer : String) :
    (∃ s, setupWith secret username issuer = .ok s) ∨
      setupWith secret username issuer = .error .tooLong := by
  unfold setupWith provisioningUri
  rw [keyed]
  dsimp only
  split
  · exact .inr rfl
  · exact .inl ⟨_, rfl⟩

/-- No enrolment can be prepared for a long username. -/
theorem setupWith_of_long (keyed : keyOf secret = .ok key) (long : 5601 < username.utf8ByteSize)
    (issuer : String) : setupWith secret username issuer = .error .tooLong := by
  unfold setupWith
  cases written : provisioningUri secret username issuer with
  | error e =>
    unfold provisioningUri at written
    rw [keyed] at written
    cases written
  | ok uri =>
    dsimp only
    rw [Qr.size?_of_long (Nat.lt_of_lt_of_le long (le_utf8ByteSize_uri written))]

end AccountSidecar.Totp
