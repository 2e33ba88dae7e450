import AccountSidecar.Proofs.Tables
import Mathlib.Data.String.Basic

/-!
# Thinned tables

What is left of the tables once some records that are dead by now were dropped. Under each key then
stands the same record, or nothing in place of a dead one (`Keyed.Thinned`), and whatever is put,
changed or dropped on both sides keeps it that way. A claim of a token and the use of a code come to
the same on both sides, except that a record which is turned away as used or expired on one side may
be missing on the other (`AccountError.Fades`). The code that is taken first is the same: nothing is
taken before it, and what is taken is never dead.
-/

namespace AccountSidecar

/-- The errors that may take the place of others where dead records are missing. -/
inductive AccountError.Fades : AccountError → AccountError → Prop
  | tokenMissing : Fades (.of .tokenExpired) (.of .invalidToken)
  | usedCodesMissing : Fades (.of .codeUsed) (.of .invalidCode)
  | expiredCodesMissing : Fades (.of .codeExpired) (.of .invalidCode)
  | unusedCodesMissing : Fades (.of .codeExpired) (.of .codeUsed)

namespace Keyed

variable {α : Type} {dead dead' : α → Bool} {table table' : Keyed α} {key : String}
  {value : α}

/-- Whether a table is another one without some of its dead records, in whatever order. -/
structure Thinned (dead : α → Bool) (table table' : Keyed α) : Prop where
  whole : table.Distinct
  thin : table'.Distinct
  /-- Under each key stands the same, or nothing in place of a dead record. -/
  found (key : String) : find? key table' = find? key table ∨
    find? key table' = none ∧ ∃ value, find? key table = some value ∧ dead value = true

namespace Thinned

/-- A table is thinned from itself. -/
theorem refl (distinct : table.Distinct) : Thinned dead table table :=
  ⟨distinct, distinct, fun _ => .inl rfl⟩

/-- A record that is not dead is found in the thinned table as well. -/
theorem find?_of_live (thinned : Thinned dead table table') (found : find? key table = some value)
    (live : dead value = false) : find? key table' = some value := by
  rcases thinned.found key with same | ⟨-, value', there, gone⟩
  · exact same.trans found
  · obtain rfl := Option.some.inj (there.symm.trans found)
    rw [live] at gone
    cases gone

/-- What stands in the thinned table stands in the whole one. -/
theorem mem_whole (thinned : Thinned dead table table') {e : String × α} (inside : e ∈ table') :
    e ∈ table := by
  have there : find? e.1 table' = some e.2 := find?_of_mem thinned.thin inside
  rcases thinned.found e.1 with same | ⟨missing, -⟩
  · exact mem_of_find? (same.symm.trans there)
  · rw [there] at missing
    cases missing

/-- What stands in the whole table and is not dead stands in the thinned one. -/
theorem mem_thin (thinned : Thinned dead table table') {e : String × α} (inside : e ∈ table)
    (live : dead e.2 = false) : e ∈ table' :=
  mem_of_find? (thinned.find?_of_live (find?_of_mem thinned.whole inside) live)

/-- As more records count as dead, the table stays thinned. -/
theorem mono (thinned : Thinned dead table table')
    (dies : ∀ value, dead value = true → dead' value = true) : Thinned dead' table table' := by
  refine ⟨thinned.whole, thinned.thin, fun key => ?_⟩
  rcases thinned.found key with same | ⟨missing, value, there, gone⟩
  · exact .inl same
  · exact .inr ⟨missing, value, there, dies value gone⟩

/-- Setting a value on both sides keeps a table thinned. -/
theorem put (thinned : Thinned dead table table') (key : String) (value : α) :
    Thinned dead (Keyed.put key value table) (Keyed.put key value table') := by
  refine ⟨thinned.whole.put key value, thinned.thin.put key value, fun other => ?_⟩
  by_cases own : other = key
  · left
    rw [own, find?_put_self, find?_put_self]
  · rw [find?_put_of_ne own, find?_put_of_ne own]
    exact thinned.found other

/-- Removing a key on both sides keeps a table thinned. -/
theorem erase (thinned : Thinned dead table table') (key : String) :
    Thinned dead (Keyed.erase key table) (Keyed.erase key table') := by
  refine ⟨thinned.whole.filter _, thinned.thin.filter _, fun other => ?_⟩
  rw [find?_erase, find?_erase]
  by_cases own : other = key
  · left
    rw [if_pos own, if_pos own]
  · rw [if_neg own, if_neg own]
    exact thinned.found other

/-- Dropping all dead records keeps a table thinned. -/
theorem drop (thinned : Thinned dead table table') :
    Thinned dead table (table'.filter fun e => !dead e.2) := by
  refine ⟨thinned.whole, thinned.thin.filter _, fun key => ?_⟩
  rw [find?_filter thinned.thin (fun value => !dead value)]
  cases here : find? key table' with
  | none =>
    rcases thinned.found key with same | ⟨-, there⟩
    · exact .inl (here.symm.trans same)
    · exact .inr ⟨rfl, there⟩
  | some value =>
    have there : find? key table = some value :=
      find?_of_mem thinned.whole (thinned.mem_whole (mem_of_find? here))
    by_cases gone : dead value = true
    · right
      exact ⟨by simp [gone], value, there, gone⟩
    · left
      rw [there]
      simp [gone]

end Thinned

end Keyed

namespace State

/-- Whether a session is not good any more. -/
abbrev Session.isDead (now : Int) (s : Session) : Bool := s.isExpired now

/-- Whether a token is not good any more. -/
abbrev ResetToken.isDead (now : Int) (r : ResetToken) : Bool := r.used || r.isExpired now

/-- Whether a code is not good any more. -/
abbrev SmsCode.isDead (now : Int) (c : SmsCode) : Bool := c.used || c.isExpired now

namespace Tables

variable {t t' : Tables} {now later : Int}

/-- One code is taken before another if it expires later, or at the same time with a smaller id. -/
theorem takenBefore_iff {a b : String × SmsCode} :
    takenBefore a b = true ↔
      b.2.expiresAt < a.2.expiresAt ∨ a.2.expiresAt = b.2.expiresAt ∧ a.1 < b.1 := by
  simp [takenBefore]

/-- A code is not taken before another exactly where it expires earlier, or at the same time with an
id that is not smaller. -/
theorem not_takenBefore_iff {a b : String × SmsCode} :
    takenBefore a b = false ↔
      a.2.expiresAt < b.2.expiresAt ∨ a.2.expiresAt = b.2.expiresAt ∧ b.1 ≤ a.1 := by
  rw [Bool.eq_false_iff, ne_eq, takenBefore_iff, not_or, not_and, not_lt, not_lt]
  constructor
  · rintro ⟨notLater, notSmaller⟩
    rcases lt_or_eq_of_le notLater with earlier | same
    · exact .inl earlier
    · exact .inr ⟨same, notSmaller same⟩
  · rintro (earlier | ⟨same, notSmaller⟩)
    · exact ⟨earlier.le, fun same => absurd same earlier.ne⟩
    · exact ⟨same.le, fun _ => notSmaller⟩

/-- Of two codes one at most is taken before the other. -/
theorem takenBefore_asymm {a b : String × SmsCode} (before : takenBefore a b = true) :
    takenBefore b a = false := by
  rw [not_takenBefore_iff]
  rcases takenBefore_iff.mp before with later | ⟨same, smaller⟩
  · exact .inl later
  · exact .inr ⟨same.symm, smaller.le⟩

/-- What is not taken before a code that is not taken before a third is not taken before that. -/
theorem not_takenBefore_trans {a b c : String × SmsCode} (first : takenBefore a b = false)
    (second : takenBefore b c = false) : takenBefore a c = false := by
  rw [not_takenBefore_iff] at first second ⊢
  rcases first with earlier | ⟨same, notSmaller⟩
  · rcases second with earlier' | ⟨same', -⟩
    · exact .inl (earlier.trans earlier')
    · exact .inl (earlier.trans_eq same')
  · rcases second with earlier' | ⟨same', notSmaller'⟩
    · exact .inl (same.trans_lt earlier')
    · exact .inr ⟨same.trans same', notSmaller'.trans notSmaller⟩

/-- A code is taken first unless there is none. -/
theorem preferred?_eq_none_iff {codes : Keyed SmsCode} : preferred? codes = none ↔ codes = [] := by
  cases codes with
  | nil => simp [preferred?]
  | cons c rest =>
    rw [preferred?]
    cases preferred? rest <;> simp

/-- Nothing is taken before the code that is taken first. -/
theorem not_takenBefore_preferred? {codes : Keyed SmsCode} {e : String × SmsCode}
    (taken : preferred? codes = some e) : ∀ c ∈ codes, takenBefore c e = false := by
  have irrefl (c : String × SmsCode) : takenBefore c c = false :=
    not_takenBefore_iff.mpr (.inr ⟨rfl, le_rfl⟩)
  induction codes generalizing e with
  | nil => cases taken
  | cons first rest ih =>
    intro c inside
    rw [preferred?] at taken
    cases best : preferred? rest with
    | none =>
      simp only [best] at taken
      obtain rfl := Option.some.inj taken
      rw [preferred?_eq_none_iff.mp best] at inside
      rw [List.mem_singleton.mp inside]
      exact irrefl first
    | some b =>
      simp only [best] at taken
      split at taken <;> obtain rfl := Option.some.inj taken
      · rename_i before
        rcases List.mem_cons.mp inside with rfl | inside
        · exact takenBefore_asymm before
        · exact ih best c inside
      · rename_i notBefore
        rcases List.mem_cons.mp inside with rfl | inside
        · exact irrefl c
        · exact not_takenBefore_trans (ih best c inside) (Bool.eq_false_iff.mpr notBefore)

/-- The codes of a user that read as given and are not used yet. -/
def unusedCodes (t : Tables) (username code : String) : Keyed SmsCode :=
  (t.matchingCodes username code).filter fun c => !c.2.used

/-- Whether tables are others without some records that are dead by now. -/
structure Thinned (now : Int) (t t' : Tables) : Prop where
  sessions : Keyed.Thinned (Session.isDead now) t.sessions t'.sessions
  resetTokens : Keyed.Thinned (ResetToken.isDead now) t.resetTokens t'.resetTokens
  smsCodes : Keyed.Thinned (SmsCode.isDead now) t.smsCodes t'.smsCodes
  signups : t'.signups = t.signups

namespace Thinned

/-- Empty tables are thinned from each other. -/
theorem empty (now : Int) : Thinned now {} {} := by
  refine ⟨?_, ?_, ?_, rfl⟩ <;> exact .refl List.nodup_nil

/-- As time goes by tables stay thinned. -/
theorem mono (thinned : Thinned now t t') (goes : now ≤ later) : Thinned later t t' := by
  refine ⟨thinned.sessions.mono fun s dead => ?_, thinned.resetTokens.mono fun r dead => ?_,
    thinned.smsCodes.mono fun c dead => ?_, thinned.signups⟩
  · simp only [Session.isExpired, decide_eq_true_eq] at dead ⊢
    omega
  · simp only [ResetToken.isExpired, Bool.or_eq_true, decide_eq_true_eq] at dead ⊢
    exact dead.imp_right fun past => by omega
  · simp only [SmsCode.isExpired, Bool.or_eq_true, decide_eq_true_eq] at dead ⊢
    exact dead.imp_right fun past => by omega

/-- Opening a session keeps tables thinned. -/
theorem createSession (thinned : Thinned now t t') (token username : String)
    (createdAt expiresAt : Int) : Thinned now (t.createSession token username createdAt expiresAt)
      (t'.createSession token username createdAt expiresAt) :=
  ⟨thinned.sessions.put token _, thinned.resetTokens, thinned.smsCodes, thinned.signups⟩

/-- Closing a session keeps tables thinned. -/
theorem deleteSession (thinned : Thinned now t t') (token : String) :
    Thinned now (t.deleteSession token) (t'.deleteSession token) :=
  ⟨thinned.sessions.erase token, thinned.resetTokens, thinned.smsCodes, thinned.signups⟩

/-- Issuing a token keeps tables thinned. -/
theorem createResetToken (thinned : Thinned now t t') (token username : String) (expiresAt : Int) :
    Thinned now (t.createResetToken token username expiresAt)
      (t'.createResetToken token username expiresAt) :=
  ⟨thinned.sessions, thinned.resetTokens.put token _, thinned.smsCodes, thinned.signups⟩

/-- Storing a code keeps tables thinned. -/
theorem storeSmsCode (thinned : Thinned now t t') (id username code : String) (expiresAt : Int) :
    Thinned now (t.storeSmsCode id username code expiresAt)
      (t'.storeSmsCode id username code expiresAt) :=
  ⟨thinned.sessions, thinned.resetTokens, thinned.smsCodes.put id _, thinned.signups⟩

/-- Queueing a signup keeps tables thinned. -/
theorem createPendingSignup (thinned : Thinned now t t') (id username email hash : String)
    (createdAt : Int) : Thinned now (t.createPendingSignup id username email hash createdAt)
      (t'.createPendingSignup id username email hash createdAt) := by
  refine ⟨thinned.sessions, thinned.resetTokens, thinned.smsCodes, ?_⟩
  exact congrArg (Keyed.put id _) thinned.signups

/-- Marking a signup approved keeps tables thinned. -/
theorem approvePendingSignup (thinned : Thinned now t t') (id : String) :
    Thinned now (t.approvePendingSignup id) (t'.approvePendingSignup id) := by
  refine ⟨thinned.sessions, thinned.resetTokens, thinned.smsCodes, ?_⟩
  exact congrArg (Keyed.update id _) thinned.signups

/-- Housekeeping thins tables further. -/
theorem purged (thinned : Thinned now t t') : Thinned now t (t'.purged now) :=
  ⟨thinned.sessions.drop, thinned.resetTokens.drop, thinned.smsCodes.drop, thinned.signups⟩

/-- A claim of a token comes to the same, or is turned away on both sides. -/
theorem claimResetToken (thinned : Thinned now t t') (token : String) :
    (∃ username u u', t.claimResetToken token now = .ok (username, u) ∧
      t'.claimResetToken token now = .ok (username, u') ∧ Thinned now u u') ∨
    ∃ e e', t.claimResetToken token now = .error e ∧ t'.claimResetToken token now = .error e' ∧
      (e' = e ∨ e.Fades e') := by
  unfold Tables.claimResetToken resetToken?
  rcases thinned.resetTokens.found token with same | ⟨missing, r, there, dead⟩
  · rw [same]
    cases Keyed.find? token t.resetTokens with
    | none => exact .inr ⟨_, _, rfl, rfl, .inl rfl⟩
    | some r =>
      dsimp only
      split
      · exact .inr ⟨_, _, rfl, rfl, .inl rfl⟩
      · refine .inl ⟨_, _, _, rfl, rfl, ?_⟩
        exact ⟨thinned.sessions, thinned.resetTokens.put token _, thinned.smsCodes,
          thinned.signups⟩
  · rw [missing, there]
    dsimp only
    rw [if_pos dead]
    exact .inr ⟨_, _, rfl, rfl, .inr .tokenMissing⟩

variable {username code : String}

/-- A code that matches in the thinned tables matches in the whole ones. -/
theorem mem_matchingCodes (thinned : Thinned now t t') {e : String × SmsCode}
    (inside : e ∈ t'.matchingCodes username code) : e ∈ t.matchingCodes username code := by
  obtain ⟨there, reads⟩ := List.mem_filter.mp inside
  exact List.mem_filter.mpr ⟨thinned.smsCodes.mem_whole there, reads⟩

/-- An unused code of the thinned tables is one of the whole ones. -/
theorem mem_unusedCodes (thinned : Thinned now t t') {e : String × SmsCode}
    (inside : e ∈ t'.unusedCodes username code) : e ∈ t.unusedCodes username code := by
  obtain ⟨there, unused⟩ := List.mem_filter.mp inside
  exact List.mem_filter.mpr ⟨thinned.mem_matchingCodes there, unused⟩

/-- An unused code within its time is an unused code of the thinned tables. -/
theorem mem_unusedCodes_of_live (thinned : Thinned now t t') {e : String × SmsCode}
    (inside : e ∈ t.unusedCodes username code) (inTime : e.2.isExpired now = false) :
    e ∈ t'.unusedCodes username code := by
  obtain ⟨among, unused⟩ := List.mem_filter.mp inside
  obtain ⟨there, reads⟩ := List.mem_filter.mp among
  have live : e.2.isDead now = false := by simpa [inTime] using unused
  have here := thinned.smsCodes.mem_thin there live
  exact List.mem_filter.mpr ⟨List.mem_filter.mpr ⟨here, reads⟩, unused⟩

/-- The code that is taken first is taken first in the thinned tables as well, if it is within its
time. -/
theorem preferred?_unusedCodes (thinned : Thinned now t t') {e : String × SmsCode}
    (taken : preferred? (t.unusedCodes username code) = some e)
    (inTime : e.2.isExpired now = false) :
    preferred? (t'.unusedCodes username code) = some e := by
  have inside := mem_of_preferred? taken
  have inside' := thinned.mem_unusedCodes_of_live inside inTime
  cases taken' : preferred? (t'.unusedCodes username code) with
  | none =>
    rw [preferred?_eq_none_iff.mp taken'] at inside'
    cases inside'
  | some e' =>
    have among := thinned.mem_unusedCodes (mem_of_preferred? taken')
    have notAfter := not_takenBefore_iff.mp (not_takenBefore_preferred? taken e' among)
    have notBefore := not_takenBefore_iff.mp (not_takenBefore_preferred? taken' e inside')
    have key : e'.1 = e.1 := by
      rcases notAfter with earlier | ⟨same, notSmaller⟩
      · rcases notBefore with later | ⟨same, -⟩ <;> omega
      · rcases notBefore with later | ⟨-, notSmaller'⟩
        · omega
        · exact le_antisymm notSmaller' notSmaller
    have stands {f : String × SmsCode} (f_mem : f ∈ t.unusedCodes username code) :
        Keyed.find? f.1 t.smsCodes = some f.2 :=
      Keyed.find?_of_mem thinned.smsCodes.whole
        (List.mem_filter.mp (List.mem_filter.mp f_mem).1).1
    have value : e'.2 = e.2 := by
      have found := stands among
      rw [key, stands inside] at found
      exact (Option.some.inj found).symm
    rw [Prod.ext key value]

/-- The use of a code comes to the same, or is turned away on both sides. -/
theorem consumeSmsCode (thinned : Thinned now t t') (username code : String) :
    (∃ u u', t.consumeSmsCode username code now = .ok u ∧
      t'.consumeSmsCode username code now = .ok u' ∧ Thinned now u u') ∨
    ∃ e e', t.consumeSmsCode username code now = .error e ∧
      t'.consumeSmsCode username code now = .error e' ∧ (e' = e ∨ e.Fades e') := by
  unfold Tables.consumeSmsCode
  by_cases named : username = ""
  · rw [if_pos named, if_pos named]
    exact .inr ⟨_, _, rfl, rfl, .inl rfl⟩
  rw [if_neg named, if_neg named]
  dsimp only
  rw [← unusedCodes, ← unusedCodes]
  by_cases none : (t.matchingCodes username code).isEmpty = true
  · -- Nothing matches, so nothing matches in the thinned tables.
    have none' : (t'.matchingCodes username code).isEmpty = true := by
      rw [List.isEmpty_iff, List.eq_nil_iff_forall_not_mem] at none ⊢
      exact fun e inside => none e (thinned.mem_matchingCodes inside)
    rw [if_pos none, if_pos none']
    exact .inr ⟨_, _, rfl, rfl, .inl rfl⟩
  rw [if_neg none]
  cases taken : preferred? (t.unusedCodes username code) with
  | none =>
    -- All that match are used, and so are those of them that are left.
    have unused' : t'.unusedCodes username code = [] := by
      have unused := preferred?_eq_none_iff.mp taken
      rw [List.eq_nil_iff_forall_not_mem] at unused ⊢
      exact fun e inside => unused e (thinned.mem_unusedCodes inside)
    rw [preferred?_eq_none_iff.mpr unused']
    dsimp only
    split
    · exact .inr ⟨_, _, rfl, rfl, .inr .usedCodesMissing⟩
    · exact .inr ⟨_, _, rfl, rfl, .inl rfl⟩
  | some e =>
    obtain ⟨id, c⟩ := e
    by_cases expired : c.isExpired now = true
    · -- The last of the unused codes is expired, and so are those of them that are left.
      dsimp only
      rw [if_pos expired]
      split
      · exact .inr ⟨_, _, rfl, rfl, .inr .expiredCodesMissing⟩
      · cases taken' : preferred? (t'.unusedCodes username code) with
        | none => exact .inr ⟨_, _, rfl, rfl, .inr .unusedCodesMissing⟩
        | some e' =>
          obtain ⟨id', c'⟩ := e'
          have among := thinned.mem_unusedCodes (mem_of_preferred? taken')
          have notAfter := not_takenBefore_iff.mp (not_takenBefore_preferred? taken _ among)
          have expired' : c'.isExpired now = true := by
            simp only [SmsCode.isExpired, decide_eq_true_eq] at expired notAfter ⊢
            omega
          dsimp only
          rw [if_pos expired']
          exact .inr ⟨_, _, rfl, rfl, .inl rfl⟩
    · -- The code is good, so it is the first one in the thinned tables too.
      have inTime : c.isExpired now = false := Bool.eq_false_iff.mpr expired
      have taken' := thinned.preferred?_unusedCodes taken inTime
      have some' : ¬ (t'.matchingCodes username code).isEmpty = true := by
        rw [List.isEmpty_iff]
        intro none'
        have inside := (List.mem_filter.mp (mem_of_preferred? taken')).1
        rw [none'] at inside
        cases inside
      rw [if_neg some', taken']
      dsimp only
      rw [if_neg expired, if_neg expired]
      refine .inl ⟨_, _, rfl, rfl, ?_⟩
      exact ⟨thinned.sessions, thinned.resetTokens, thinned.smsCodes.put id _, thinned.signups⟩

end Thinned

end Tables

end State

end AccountSidecar
