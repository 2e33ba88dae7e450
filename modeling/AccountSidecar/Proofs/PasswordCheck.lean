import AccountSidecar.Proofs.PlainTexts

/-!
# Checking a password against its own hash

A hash writes its salt in front, so the salt is read back from it (`Salt.parse?_hashWith`), and
hashing the same password again gives the same text (`verify_of_hash?`).
-/

namespace AccountSidecar.Password

open Text Users

/-- The text of a cost that salts may have is read as that cost. -/
theorem costOf?_costText {cost : Nat} (least : 4 ≤ cost) (most : cost ≤ 31) :
    costOf? (costText cost).toList = some cost := by
  have each : ∀ n < 32, 4 ≤ n → costOf? (costText n).toList = some n := by decide
  exact each cost (Nat.lt_succ_of_le most) least

/-- A cost is written with one digit at least. -/
theorem costText_ne_empty (cost : Nat) : costText cost ≠ "" := by
  simp [costText, toString, Nat.repr]

/-- The versions are not empty and do not hold the sign between the parts of a hash. -/
theorem version_whole : ∀ v ∈ versions, v ≠ "" ∧ '$' ∉ v.toList := by decide

/-- The salt is read back from a hash. -/
theorem Salt.parse?_hashWith {salt : Salt} (read : salt.IsRead) (password : String) :
    Salt.parse? (hashWith salt password) = some salt := by
  obtain ⟨named, whole⟩ := version_whole _ read.version
  let digest := encode64 (digest salt.cost (password.toUTF8.toList ++ [0]) salt.value)
  have undivided : '$' ∉ salt.text.toList ++ digest := by
    intro inside
    have among : '$' ∈ alphabet :=
      (List.mem_append.mp inside).elim (read.letters '$') (encode64_mem _ '$')
    revert among
    decide
  have given : salt.text ≠ "" := by
    intro none
    have length := read.length
    rw [none] at length
    cases length
  have cost : '$' ∉ (costText salt.cost).toList := fun inside =>
    absurd (isDigit_of_mem_costText inside) (by decide)
  have written : (hashWith salt password).toList = '$' :: (salt.version.toList ++ '$' ::
      ((costText salt.cost).toList ++ '$' :: (salt.text.toList ++ digest))) := by
    simp [hashWith, Salt.head, digest]
  have parts : (pieces '$' (hashWith salt password).toList).filter (!·.isEmpty) =
      [salt.version.toList, (costText salt.cost).toList, salt.text.toList ++ digest] := by
    rw [written, ← List.nil_append ('$' :: _), pieces_append_sep _ List.not_mem_nil,
      pieces_append_sep _ whole, pieces_append_sep _ cost, pieces_of_not_mem undivided]
    simp [named, costText_ne_empty, given]
  have front : (salt.text.toList ++ digest).take saltLength = salt.text.toList := by
    rw [← read.length, List.take_left]
  obtain ⟨bits, valued, value⟩ := read.value
  unfold Salt.parse?
  rw [parts]
  simp [costOf?_costText read.least read.most, front, valued, read.length, read.version,
    read.least, read.most, ← value]

/-- A password belongs to each of its hashes. -/
theorem verify_of_hash? {saltText password h : String}
    (hashed : hash? saltText password = some h) : verify password h = true := by
  obtain ⟨salt, read, rfl⟩ := eq_of_hash? hashed
  unfold hash? at hashed
  split at hashed
  · cases hashed
  · rename_i fits
    rw [verify, hash?, if_neg fits, Salt.parse?_hashWith (Salt.isRead_of_parse? read)]
    exact beq_self_eq_true _

end AccountSidecar.Password
