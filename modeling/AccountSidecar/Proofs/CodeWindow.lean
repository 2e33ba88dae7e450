import AccountSidecar.Proofs.Secrets

/-!
# The window of one-time codes

The code of a step is six decimal digits, filled up with zeros (`toList_codeOfStep`). A code is good
at a time exactly where it is that of a step at most a window away (`verify_iff_window`), and no
step before the first of all may lie in the window. Secrets for fewer than fourteen bytes have no
codes, so a code that the plain rule would give for one is refused (`short_secret_refused`).
-/

namespace AccountSidecar.Totp

open Text Codec

variable {secret code : String} {key : List UInt8} {window second first step : Int} {count : Nat}

/-- The value of a step under a key: the truncated keyed digest of its number, below a million. -/
def stepValue (key : List UInt8) (step : Nat) : Nat :=
  truncated (Crypto.hmacSha1 key (Crypto.lengthBytes step)) % 1000000

/-- The decimal digits of a number, filled up to six with zeros in front. -/
def paddedDigits (n : Nat) : List Char := List.leftpad 6 '0' (Nat.toDigits 10 n)

section Digits

/-- The last decimal digits of a number, as many as asked for, are those of its remainder with zeros
in front. -/
theorem lastDigits_eq_leftpad (width n : Nat) :
    (List.range (width + 1)).map (fun i => plainDigit (n / 10 ^ (width - i) % 10)) =
      List.leftpad (width + 1) '0' (Nat.toDigits 10 (n % 10 ^ (width + 1))) := by
  have digit : ∀ v < 10, plainDigit v = v.digitChar := by decide
  induction width generalizing n with
  | zero =>
    have small : n % 10 < 10 := Nat.mod_lt _ (by decide)
    simp [List.leftpad, Nat.toDigits_of_lt_base small, digit _ small]
  | succ width ih =>
    -- All digits but the last are those of a tenth of the number.
    have front :
        (List.range (width + 1)).map (fun i => plainDigit (n / 10 ^ (width + 1 - i) % 10)) =
        (List.range (width + 1)).map (fun i => plainDigit (n / 10 / 10 ^ (width - i) % 10)) := by
      refine List.map_congr_left fun i inside => ?_
      have below : i ≤ width := Nat.le_of_lt_succ (List.mem_range.mp inside)
      rw [Nat.succ_sub below, Nat.pow_succ', Nat.div_div_eq_div_mul]
    have tenth : n % 10 ^ (width + 1 + 1) / 10 = n / 10 % 10 ^ (width + 1) := by
      rw [Nat.pow_succ', Nat.mod_mul_right_div_self]
    have last : n % 10 ^ (width + 1 + 1) % 10 = n % 10 :=
      Nat.mod_mod_of_dvd n ⟨10 ^ (width + 1), Nat.pow_succ'⟩
    have small : n % 10 < 10 := Nat.mod_lt _ (by decide)
    rw [List.range_succ, List.map_append, front, ih, ← tenth, List.map_singleton, Nat.sub_self,
      Nat.pow_zero, Nat.div_one, digit _ small, ← last]
    generalize n % 10 ^ (width + 1 + 1) = m
    by_cases few : m < 10
    · simp [List.leftpad, Nat.div_eq_of_lt few, Nat.mod_eq_of_lt few, Nat.toDigits_of_lt_base few,
        List.replicate_succ']
    · rw [Nat.toDigits_of_base_le (by decide) (Nat.le_of_not_lt few)]
      simp [List.leftpad]

/-- The code of a step is its value in six digits. -/
theorem toList_codeOfStep (key : List UInt8) (step : Nat) :
    (codeOfStep key step).toList = paddedDigits (stepValue key step) := by
  rw [codeOfStep, sixDigits, String.toList_ofList]
  exact lastDigits_eq_leftpad 5 _

end Digits

section Window

/-- A search that starts before the first step of all finds nothing. -/
theorem matchesFrom_of_negative (before : first < 0) :
    matchesFrom key code count first = false := by
  cases count with
  | zero => rfl
  | succ count => rw [matchesFrom, codeOfStep?, if_pos before]

/-- A search that starts at a step or later finds the steps with the code that it passes. -/
theorem matchesFrom_iff (since : 0 ≤ first) : matchesFrom key code count first = true ↔
    ∃ step : Nat, first ≤ step ∧ step < first + count ∧ codeOfStep key step = code := by
  induction count generalizing first with
  | zero =>
    refine iff_of_false Bool.false_ne_true fun ⟨step, low, high, _⟩ => ?_
    omega
  | succ count ih =>
    obtain ⟨start, rfl⟩ := Int.eq_ofNat_of_zero_le since
    rw [matchesFrom, codeOfStep?, if_neg (Int.not_lt.mpr since)]
    dsimp only
    rw [Bool.or_eq_true, beq_iff_eq, ih (by omega), Int.toNat_natCast]
    constructor
    · rintro (here | ⟨step, low, high, later⟩)
      · exact ⟨start, le_refl _, by omega, here⟩
      · exact ⟨step, by omega, by omega, later⟩
    · rintro ⟨step, low, high, matched⟩
      by_cases here : step = start
      · exact .inl (here ▸ matched)
      · exact .inr ⟨step, by omega, by omega, matched⟩

/-- A step in a window has the code exactly where the window starts at a step or later and one of
its steps has it. -/
theorem matchesWithin_iff (wide : 0 ≤ window) : matchesWithin key code window step = true ↔
    window ≤ step ∧ ∃ k : Nat, step - window ≤ k ∧ k ≤ step + window ∧ codeOfStep key k = code := by
  unfold matchesWithin
  by_cases fits : window ≤ step
  · rw [matchesFrom_iff (by omega)]
    constructor
    · rintro ⟨k, low, high, matched⟩
      exact ⟨fits, k, low, by omega, matched⟩
    · rintro ⟨-, k, low, high, matched⟩
      exact ⟨k, low, by omega, matched⟩
  · rw [matchesFrom_of_negative (by omega)]
    exact iff_of_false Bool.false_ne_true fun both => fits both.1

/-- The step of a second that the calendar has. -/
theorem stepOf?_of_inRange (since : 0 ≤ second) (before : second < endOfTime) :
    stepOf? second = some (second / 30) := by
  have inRange : ¬ (second < 0 || endOfTime ≤ second) = true := by
    rw [Bool.or_eq_true, decide_eq_true_eq, decide_eq_true_eq]
    omega
  rw [stepOf?, if_neg inRange]
  rfl

end Window

section Typed

/-- The characters of a code of a step: plain digits, which nothing is done to. -/
theorem digits_codeOfStep (key : List UInt8) (step : Nat) : ∀ c ∈ (codeOfStep key step).toList,
    isDigitChar c = true ∧ (c != ' ' && c != '-') = true ∧ compatibilityForm c = [c] := by
  have each : ∀ v < 10, isDigitChar (plainDigit v) = true ∧
      (plainDigit v != ' ' && plainDigit v != '-') = true ∧
      compatibilityForm (plainDigit v) = [plainDigit v] := by decide +kernel
  intro c inside
  rw [codeOfStep, sixDigits, String.toList_ofList] at inside
  obtain ⟨i, -, rfl⟩ := List.mem_map.mp inside
  exact each _ (Nat.mod_lt _ (by decide))

/-- The code of a step has six characters. -/
theorem length_codeOfStep (key : List UInt8) (step : Nat) :
    (codeOfStep key step).toList.length = 6 := by
  rw [codeOfStep, sixDigits, String.toList_ofList, List.length_map, List.length_range]

/-- Typing the code of a step leaves it as it is. -/
theorem bareCode_codeOfStep (key : List UInt8) (step : Nat) :
    bareCode (codeOfStep key step) = (codeOfStep key step).toList :=
  List.filter_eq_self.mpr fun c inside => (digits_codeOfStep key step c inside).2.1

/-- The compatibility form of the code of a step is the code. -/
theorem compatibilityForm_codeOfStep (key : List UInt8) (step : Nat) :
    (codeOfStep key step).toList.flatMap compatibilityForm = (codeOfStep key step).toList := by
  rw [List.flatMap_congr fun c inside => (digits_codeOfStep key step c inside).2.2,
    List.flatMap_singleton']

end Typed

/-- A code is good at a second of the calendar exactly where six digits were typed, the secret gives
a key, and a step in the window, which starts at a step or later, has the typed code. -/
theorem verify_iff (wide : 0 ≤ window) (since : 0 ≤ second) (before : second < endOfTime) :
    verify secret code window second = true ↔
      (bareCode code).length = 6 ∧ (∀ c ∈ bareCode code, isDigitChar c = true) ∧
      window ≤ second / 30 ∧ ∃ key, keyOf (normalizeSecret secret) = .ok key ∧
        ∃ k : Nat, second / 30 - window ≤ k ∧ k ≤ second / 30 + window ∧
          (bareCode code).flatMap compatibilityForm = (codeOfStep key k).toList := by
  have text (key : List UInt8) (k : Nat) :
      codeOfStep key k = String.ofList ((bareCode code).flatMap compatibilityForm) ↔
        (bareCode code).flatMap compatibilityForm = (codeOfStep key k).toList := by
    rw [← String.toList_inj, String.toList_ofList, eq_comm]
  unfold verify
  dsimp only
  by_cases typed : (!(bareCode code).all isDigitChar || (bareCode code).length != 6) = true
  · rw [if_pos typed]
    refine iff_of_false Bool.false_ne_true fun ⟨six, digits, _⟩ => ?_
    rw [six, List.all_eq_true.mpr digits] at typed
    cases typed
  · rw [if_neg typed, stepOf?_of_inRange since before]
    by_cases empty : normalizeSecret secret = ""
    · rw [if_pos empty]
      exact iff_of_false Bool.false_ne_true fun ⟨_, _, _, key, given, _⟩ =>
        normalizeSecret_ne_empty given empty
    rw [if_neg empty]
    simp only [Bool.or_eq_true, Bool.not_eq_true', bne_iff_ne, not_or, Bool.not_eq_false, not_not,
      List.all_eq_true] at typed
    cases given : keyOf (normalizeSecret secret) with
    | error e =>
      refine iff_of_false Bool.false_ne_true fun ⟨_, _, _, key, other, _⟩ => ?_
      cases other
    | ok key =>
      dsimp only
      rw [matchesWithin_iff wide]
      constructor
      · rintro ⟨fits, k, low, high, matched⟩
        exact ⟨typed.2, typed.1, fits, key, rfl, k, low, high, (text key k).mp matched⟩
      · rintro ⟨-, -, fits, key', same, k, low, high, matched⟩
        obtain rfl := Except.ok.inj same
        exact ⟨fits, k, low, high, (text key k).mpr matched⟩

/-- The code of a step in the window is good. -/
theorem verify_codeOfStep (wide : 0 ≤ window) (since : 0 ≤ second) (before : second < endOfTime)
    (given : keyOf (normalizeSecret secret) = .ok key) (fits : window ≤ second / 30) {k : Nat}
    (low : second / 30 - window ≤ k) (high : k ≤ second / 30 + window) :
    verify secret (codeOfStep key k) window second = true := by
  rw [verify_iff wide since before, bareCode_codeOfStep]
  exact ⟨length_codeOfStep key k, fun c inside => (digits_codeOfStep key k c inside).1, fits, key,
    given, k, low, high, compatibilityForm_codeOfStep key k⟩

/-- The code of a secret at a second of the calendar is that of its step. -/
theorem codeAt_of_key (given : keyOf (normalizeSecret secret) = .ok key) (since : 0 ≤ second)
    (before : second < endOfTime) :
    codeAt secret second = .ok (codeOfStep key (second / 30).toNat) := by
  rw [codeAt, given, stepOf?_of_inRange since before]

/-- A code is good at a second of the calendar exactly where, without blanks and hyphens, it has six
characters, all of them digits, its compatibility form is the padded value of a step in the window
under the key of the secret, and the window starts at the first step of all or later. The secret has
a key where its stored form is base-32 text for fourteen bytes or more. So the code that such a
secret has at a time is good wherever the step of that time is in the window. -/
theorem verify_iff_window (secret code : String) {window second : Int} (wide : 0 ≤ window)
    (since : 0 ≤ second) (before : second < endOfTime) :
    (verify secret code window second = true ↔
      (bareCode code).length = 6 ∧ (∀ c ∈ bareCode code, isDigitChar c = true) ∧
      normalizeSecret secret ≠ "" ∧ window ≤ second / 30 ∧
      ∃ key, Base32Reads (normalizeSecret secret).toList key ∧ 14 ≤ key.length ∧
        ∃ k : Nat, second / 30 - window ≤ k ∧ k ≤ second / 30 + window ∧
          (bareCode code).flatMap compatibilityForm = paddedDigits (stepValue key k)) ∧
    ∀ key time, Base32Reads (normalizeSecret secret).toList key → 14 ≤ key.length →
      0 ≤ time → time < endOfTime → window ≤ second / 30 →
      second / 30 - window ≤ time / 30 → time / 30 ≤ second / 30 + window →
      ∃ current, codeAt secret time = .ok current ∧ verify secret current window second = true := by
  constructor
  · rw [verify_iff wide since before]
    simp only [toList_codeOfStep, keyOf_normalizeSecret_iff, minSecretBytes, and_assoc]
    refine and_congr_right fun _ => and_congr_right fun _ => ⟨?_, ?_⟩
    · rintro ⟨fits, key, reads, enough, matched⟩
      exact ⟨normalizeSecret_ne_empty (keyOf_normalizeSecret_iff.mpr ⟨reads, enough⟩), fits, key,
        reads, enough, matched⟩
    · exact And.right
  · intro key time reads enough since' before' fits low high
    have given := keyOf_normalizeSecret_iff.mpr ⟨reads, enough⟩
    exact ⟨_, codeAt_of_key given since' before',
      verify_codeOfStep wide since before given fits (by omega) (by omega)⟩

/-- A code that was typed with blanks, under a secret in groups, one step late. -/
theorem verify_iff_window_late :
    (0 : Int) ≤ 1 ∧ (0 : Int) ≤ 89 ∧ (89 : Int) < endOfTime ∧
      verify "gezd gnbv gy3t qojq gezd gnbv gy3t qojq" "287 082" 1 89 = true := by
  have reads : Base32Reads
      (normalizeSecret "gezd gnbv gy3t qojq gezd gnbv gy3t qojq").toList
      "12345678901234567890".toUTF8.toList :=
    base32Decode_eq_ok_iff.mp (by decide +kernel)
  refine ⟨by decide, by decide, by decide,
    (verify_iff_window _ _ (by decide) (by decide) (by decide)).1.mpr ?_⟩
  exact ⟨by decide, List.all_eq_true.mp (by decide +kernel), by decide +kernel, by decide, _, reads,
    by decide +kernel, 1, by decide, by decide, by decide +kernel⟩

/-- The secret stands for ten bytes, and six digits are the value of the step, but the code is
refused: what the rule without the least length says of it is false. -/
theorem short_secret_refused :
    ¬ (verify "GEZDGNBVGY3TQOJQ" "263420" 1 59 = true ↔
      (bareCode "263420").length = 6 ∧ (∀ c ∈ bareCode "263420", isDigitChar c = true) ∧
      normalizeSecret "GEZDGNBVGY3TQOJQ" ≠ "" ∧ (1 : Int) ≤ 59 / 30 ∧
      ∃ key, Base32Reads (normalizeSecret "GEZDGNBVGY3TQOJQ").toList key ∧
        ∃ k : Nat, (59 / 30 - 1 : Int) ≤ k ∧ (k : Int) ≤ 59 / 30 + 1 ∧
          (bareCode "263420").flatMap compatibilityForm = paddedDigits (stepValue key k)) := by
  have refused : verify "GEZDGNBVGY3TQOJQ" "263420" 1 59 = false := by decide +kernel
  have reads : Base32Reads (normalizeSecret "GEZDGNBVGY3TQOJQ").toList "1234567890".toUTF8.toList :=
    base32Decode_eq_ok_iff.mp (by decide +kernel)
  intro same
  have good := same.mpr ⟨by decide, List.all_eq_true.mp (by decide +kernel), by decide +kernel,
    by decide, _, reads, 1, by decide, by decide, by decide +kernel⟩
  rw [refused] at good
  cases good

end AccountSidecar.Totp
