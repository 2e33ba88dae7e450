import AccountSidecar.Proofs.Proposals
import AccountSidecar.Proofs.ThinnedTables
import Mathlib.Data.Prod.Lex

/-!
# Which code is used

Several codes of a user may read alike. The one that is used is the least of the unused ones under
one key, the latest expiry and then the smallest id (`choiceKey`). The expiry is looked at only
after that choice, which loses nothing: where the chosen code is expired the other unused ones are
expired too. So a code can be used exactly where some unused one that reads as given is within its
time, the use marks the chosen one and nothing else, and each way to be turned away has its own
reason (`code_selection_exact`).
-/

namespace AccountSidecar

namespace State.Tables

variable {t t' : Tables} {owner code : String} {now : Int} {e f : String × SmsCode}

/-- The key under which the least code is used: the latest expiry, and the smallest id by its code
points. -/
def choiceKey (e : String × SmsCode) : ℤ ×ₗ String := toLex (-e.2.expiresAt, e.1)

/-- A code is taken before another exactly where its key is smaller. -/
theorem takenBefore_iff_choiceKey_lt : takenBefore e f = true ↔ choiceKey e < choiceKey f := by
  simp only [takenBefore_iff, choiceKey, Prod.Lex.toLex_lt_toLex, Int.neg_lt_neg_iff, Int.neg_inj]

/-- Whether a code of the tables belongs to a user and reads as given. -/
def Matches (t : Tables) (owner code : String) (e : String × SmsCode) : Prop :=
  e ∈ t.smsCodes ∧ e.2.username = owner ∧ e.2.code = code

/-- The codes that match are the ones that are looked at. -/
theorem mem_matchingCodes_iff : e ∈ t.matchingCodes owner code ↔ t.Matches owner code e := by
  simp [matchingCodes, Matches]

/-- The unused codes are the unused ones among those that match. -/
theorem mem_unusedCodes_iff :
    e ∈ t.unusedCodes owner code ↔ t.Matches owner code e ∧ e.2.used = false := by
  simp [unusedCodes, mem_matchingCodes_iff]

/-- Whether a code is the one to use: unused, and before all other unused ones that match. -/
structure IsChosen (t : Tables) (owner code : String) (e : String × SmsCode) : Prop where
  fits : t.Matches owner code e
  unused : e.2.used = false
  first : ∀ f, t.Matches owner code f → f.2.used = false → f ≠ e → choiceKey e < choiceKey f

/-- Where ids are distinct, no two codes of the tables have the same key. -/
theorem eq_of_choiceKey (distinct : t.smsCodes.Distinct) (e_mem : e ∈ t.smsCodes)
    (f_mem : f ∈ t.smsCodes) (same : choiceKey e = choiceKey f) : e = f := by
  have id : e.1 = f.1 := congrArg Prod.snd (toLex.injective same)
  have found := Keyed.find?_of_mem distinct e_mem
  rw [id, Keyed.find?_of_mem distinct f_mem] at found
  exact Prod.ext id (Option.some.inj found).symm

/-- The code that is preferred is the one to use. -/
theorem isChosen_of_preferred? (distinct : t.smsCodes.Distinct)
    (taken : preferred? (t.unusedCodes owner code) = some e) : t.IsChosen owner code e := by
  obtain ⟨fits, unused⟩ := mem_unusedCodes_iff.mp (mem_of_preferred? taken)
  refine ⟨fits, unused, fun f f_fits f_unused other => ?_⟩
  have notBefore := not_takenBefore_preferred? taken f (mem_unusedCodes_iff.mpr ⟨f_fits, f_unused⟩)
  rw [Bool.eq_false_iff, ne_eq, takenBefore_iff_choiceKey_lt, not_lt] at notBefore
  refine lt_of_le_of_ne notBefore fun same => other ?_
  exact (eq_of_choiceKey distinct fits.1 f_fits.1 same).symm

/-- There is one code to use at most. -/
theorem IsChosen.unique (e_chosen : t.IsChosen owner code e) (f_chosen : t.IsChosen owner code f) :
    e = f := by
  by_contra other
  have before := e_chosen.first f f_chosen.fits f_chosen.unused (Ne.symm other)
  have after := f_chosen.first e e_chosen.fits e_chosen.unused other
  exact lt_asymm before after

/-- The code to use is the preferred one. -/
theorem preferred?_of_isChosen (distinct : t.smsCodes.Distinct) (chosen : t.IsChosen owner code e) :
    preferred? (t.unusedCodes owner code) = some e := by
  cases taken : preferred? (t.unusedCodes owner code) with
  | none =>
    have inside := mem_unusedCodes_iff.mpr ⟨chosen.fits, chosen.unused⟩
    rw [preferred?_eq_none_iff.mp taken] at inside
    cases inside
  | some f => rw [(isChosen_of_preferred? distinct taken).unique chosen]

/-- The code to use expires last, so where it is expired all unused ones that match are. -/
theorem IsChosen.latest (chosen : t.IsChosen owner code e) (fits : t.Matches owner code f)
    (unused : f.2.used = false) : f.2.expiresAt ≤ e.2.expiresAt := by
  by_cases other : f = e
  · rw [other]
  · have before := chosen.first f fits unused other
    rw [← takenBefore_iff_choiceKey_lt, takenBefore_iff] at before
    rcases before with earlier | ⟨same, -⟩
    · exact earlier.le
    · exact same.ge

/-- Whether tables are others in which one code was marked as used, at its place. -/
def MarksOnly (t : Tables) (e : String × SmsCode) (t' : Tables) : Prop :=
  ∃ front back, t.smsCodes = front ++ e :: back ∧
    t' = { t with smsCodes := front ++ (e.1, { e.2 with used := true }) :: back }

/-- Marking a code that stands in the tables marks that one only. -/
theorem marksOnly_put (distinct : t.smsCodes.Distinct) (inside : e ∈ t.smsCodes) :
    t.MarksOnly e
      { t with smsCodes := Keyed.put e.1 { e.2 with used := true } t.smsCodes } := by
  obtain ⟨front, back, split⟩ := List.append_of_mem inside
  refine ⟨front, back, split, ?_⟩
  rw [split] at distinct ⊢
  rw [Keyed.put_append_of_absent distinct.not_mem_of_append, Keyed.put, if_pos rfl]

/-- Why no code is used. The reasons exclude each other. -/
inductive RefusesCode (t : Tables) (owner code : String) (now : Int) : AccountErrorKind → Prop
  | noOwner (unowned : owner = "") : RefusesCode t owner code now .noSuchPhone
  | noneFits (owned : owner ≠ "") (none : ∀ e, ¬ t.Matches owner code e) :
      RefusesCode t owner code now .invalidCode
  | allUsed (owned : owner ≠ "") (some : ∃ e, t.Matches owner code e)
      (used : ∀ e, t.Matches owner code e → e.2.used = true) :
      RefusesCode t owner code now .codeUsed
  | allExpired (owned : owner ≠ "") (some : ∃ e, t.Matches owner code e ∧ e.2.used = false)
      (expired : ∀ e, t.Matches owner code e → e.2.used = false → e.2.expiresAt < now) :
      RefusesCode t owner code now .codeExpired

/-- No two reasons hold at once. -/
theorem RefusesCode.unique {kind other : AccountErrorKind}
    (refuses : t.RefusesCode owner code now kind) (refuses' : t.RefusesCode owner code now other) :
    kind = other := by
  cases refuses <;> cases refuses' <;> grind

/-- Where an unused code that matches is within its time there is no reason to use none. -/
theorem RefusesCode.excludes {kind : AccountErrorKind} (refuses : t.RefusesCode owner code now kind)
    (owned : owner ≠ "") (fits : t.Matches owner code e) (unused : e.2.used = false)
    (inTime : now ≤ e.2.expiresAt) : False := by
  cases refuses with
  | noOwner unowned => exact owned unowned
  | noneFits _ none => exact none e fits
  | allUsed _ _ used => exact Bool.false_ne_true (unused.symm.trans (used e fits))
  | allExpired _ _ expired => exact absurd (expired e fits unused) (not_lt.mpr inTime)

/-- Checking a code uses the chosen one, which is within its time, or gives the reason why none is
used. -/
theorem consumeSmsCode_cases (distinct : t.smsCodes.Distinct) (owner code : String) (now : Int) :
    (∃ e t', t.consumeSmsCode owner code now = .ok t' ∧ owner ≠ "" ∧ t.IsChosen owner code e ∧
      now ≤ e.2.expiresAt ∧ t.MarksOnly e t') ∨
    ∃ kind, t.consumeSmsCode owner code now = .error (.of kind) ∧
      t.RefusesCode owner code now kind := by
  unfold consumeSmsCode
  by_cases unowned : owner = ""
  · rw [if_pos unowned]
    exact .inr ⟨_, rfl, .noOwner unowned⟩
  rw [if_neg unowned]
  dsimp only
  rw [← unusedCodes]
  by_cases none : (t.matchingCodes owner code).isEmpty = true
  · rw [if_pos none]
    refine .inr ⟨_, rfl, .noneFits unowned fun e fits => ?_⟩
    have inside := mem_matchingCodes_iff.mpr fits
    rw [List.isEmpty_iff.mp none] at inside
    cases inside
  rw [if_neg none]
  cases taken : preferred? (t.unusedCodes owner code) with
  | none =>
    refine .inr ⟨_, rfl, .allUsed unowned ?_ fun e fits => ?_⟩
    · obtain ⟨e, inside⟩ := List.exists_mem_of_ne_nil _ (mt List.isEmpty_iff.mpr none)
      exact ⟨e, mem_matchingCodes_iff.mp inside⟩
    · rw [preferred?_eq_none_iff] at taken
      by_contra unused
      have inside := mem_unusedCodes_iff.mpr ⟨fits, Bool.eq_false_iff.mpr unused⟩
      rw [taken] at inside
      cases inside
  | some e =>
    have chosen := isChosen_of_preferred? distinct taken
    dsimp only
    split
    · rename_i expired
      refine .inr ⟨_, rfl, .allExpired unowned ⟨e, chosen.fits, chosen.unused⟩ ?_⟩
      intro f fits unused
      exact lt_of_le_of_lt (chosen.latest fits unused) (of_decide_eq_true expired)
    · rename_i inTime
      refine .inl ⟨e, _, rfl, unowned, chosen, ?_, marksOnly_put distinct chosen.fits.1⟩
      exact not_lt.mp fun expired => inTime (decide_eq_true expired)

/-- What a check of a code comes to, for every table in which each id stands once, every owner that
is looked up for the phone, every code and every time. The code is good exactly where the owner has
an unused one that reads like it and is within its time. Then the one code to use is marked as used
and nothing else changes; otherwise the reason is the one that holds. The action on the world
returns the owner that was looked up, and leaves the world as it was where the code is turned away.
-/
theorem code_selection_exact (distinct : t.smsCodes.Distinct) (lookup : String → String)
    (phone code : String) (now : Int) :
    ((∃ t', t.consumeSmsCode (lookup phone) code now = .ok t') ↔ lookup phone ≠ "" ∧
      ∃ e, t.Matches (lookup phone) code e ∧ e.2.used = false ∧ now ≤ e.2.expiresAt) ∧
    (∀ t', t.consumeSmsCode (lookup phone) code now = .ok t' →
      ∃ e, t.IsChosen (lookup phone) code e ∧ t.MarksOnly e t' ∧
        ∀ f, t.IsChosen (lookup phone) code f → f = e) ∧
    (∀ a, t.consumeSmsCode (lookup phone) code now = .error a ↔
      ∃ kind, a = .of kind ∧ t.RefusesCode (lookup phone) code now kind) ∧
    ∀ w : World, w.tables = t → w.clock = now →
      Metadata.ownerOfPhone phone w.metadata = lookup phone →
      (Account.consumeSmsCode phone code).runIn w =
        match t.consumeSmsCode (lookup phone) code now with
        | .ok t' => (.ok (lookup phone), { w with tables := t' })
        | .error a => (.error (.account a), w) := by
  generalize lookup phone = owner
  refine ⟨?_, ?_, ?_, ?_⟩
  · rcases consumeSmsCode_cases distinct owner code now with
      ⟨e, t', used, owned, chosen, inTime, -⟩ | ⟨kind, refused, reason⟩
    · exact iff_of_true ⟨t', used⟩ ⟨owned, e, chosen.fits, chosen.unused, inTime⟩
    · refine iff_of_false (fun ⟨t', used⟩ => ?_) (fun ⟨owned, e, fits, unused, inTime⟩ => ?_)
      · rw [refused] at used
        cases used
      · exact reason.excludes owned fits unused inTime
  · intro t' used
    rcases consumeSmsCode_cases distinct owner code now with
      ⟨e, t'', used', -, chosen, -, marks⟩ | ⟨kind, refused, -⟩
    · obtain rfl := Except.ok.inj (used.symm.trans used')
      exact ⟨e, chosen, marks, fun f f_chosen => f_chosen.unique chosen⟩
    · rw [refused] at used
      cases used
  · intro a
    rcases consumeSmsCode_cases distinct owner code now with
      ⟨e, t', used, owned, chosen, inTime, -⟩ | ⟨kind, refused, reason⟩
    · rw [used]
      refine iff_of_false (fun same => by cases same) fun ⟨kind, _, reason⟩ => ?_
      exact reason.excludes owned chosen.fits chosen.unused inTime
    · rw [refused]
      constructor
      · intro same
        exact ⟨kind, (Except.error.inj same).symm, reason⟩
      · rintro ⟨other, rfl, reason'⟩
        rw [reason.unique reason']
  · rintro w rfl rfl rfl
    exact Account.runIn_consumeSmsCode phone code w

/-- Codes of alice and bob that read alike: two of alice expire together, one of hers that expires
later is used, one expired, and one is of bob. -/
def sampleAlike : Tables where
  smsCodes := [("d", ⟨"alice", "000000", 300, false⟩), ("b", ⟨"alice", "000000", 600, false⟩),
    ("a", ⟨"alice", "000000", 600, false⟩), ("c", ⟨"alice", "000000", 900, true⟩),
    ("e", ⟨"bob", "000000", 900, false⟩)]

/-- Of the codes of alice the one with the smaller id is used. -/
theorem code_selection_exact_alike :
    let w : World := { World.sample [] with
      metadata := [("alice", { phone := "+1" })], tables := sampleAlike, clock := 600 }
    sampleAlike.smsCodes.Distinct ∧
      ∃ t', (Account.consumeSmsCode "+1" "000000").runIn w =
          (.ok "alice", { w with tables := t' }) ∧
        sampleAlike.MarksOnly ("a", ⟨"alice", "000000", 600, false⟩) t' := by
  intro w
  have distinct : sampleAlike.smsCodes.Distinct :=
    (by decide : sampleAlike.smsCodes.keys.Nodup)
  obtain ⟨good, used, -, acts⟩ :=
    code_selection_exact distinct (fun _ => "alice") "+1" "000000" 600
  obtain ⟨t', run⟩ := good.mpr ⟨by decide, ("a", ⟨"alice", "000000", 600, false⟩),
    ⟨by decide, rfl, rfl⟩, rfl, by decide⟩
  obtain ⟨e, chosen, marks, -⟩ := used t' run
  have first : e = ("a", ⟨"alice", "000000", 600, false⟩) :=
    Option.some.inj ((preferred?_of_isChosen distinct chosen).symm.trans (by decide))
  have acted := acts w rfl rfl (by decide)
  rw [run] at acted
  exact ⟨distinct, t', acted, first ▸ marks⟩

end State.Tables

end AccountSidecar
