import AccountSidecar.State.Tables
import Mathlib.Data.List.Nodup

/-!
# Keyed tables and the tables of the state

What `put`, `update` and dropping records do to a table whose keys are distinct, and what a claim of
a token or the use of a code needs and leaves. A claim that is released leaves the very tables that
it found (`release_claim`).
-/

namespace AccountSidecar

namespace Keyed

variable {α : Type} {key other : String} {value : α} {table : Keyed α}

/-- The keys of a table in order. -/
def keys (table : Keyed α) : List String := table.map Prod.fst

/-- Whether each key stands once. -/
def Distinct (table : Keyed α) : Prop := table.keys.Nodup

/-- A value that was set is found. -/
theorem find?_put_self (key : String) (value : α) (table : Keyed α) :
    find? key (put key value table) = some value := by
  induction table with
  | nil => simp [put, find?]
  | cons e rest ih =>
    rw [put]
    by_cases own : e.1 = key
    · simp [own, find?]
    · rw [if_neg own, find?, if_neg own, ih]

/-- Setting a value keeps what is found under other keys. -/
theorem find?_put_of_ne (distinct : other ≠ key) (value : α) (table : Keyed α) :
    find? other (put key value table) = find? other table := by
  induction table with
  | nil => simp [put, find?, Ne.symm distinct]
  | cons e rest ih =>
    rw [put]
    by_cases own : e.1 = key
    · simp [own, find?, Ne.symm distinct]
    · rw [if_neg own, find?, find?, ih]

/-- A value that is found stands in the table. -/
theorem mem_of_find? (found : find? key table = some value) : (key, value) ∈ table := by
  induction table with
  | nil => cases found
  | cons e rest ih =>
    rw [find?] at found
    by_cases own : e.1 = key
    · rw [if_pos own] at found
      obtain rfl := Option.some.inj found
      rw [← own]
      exact List.mem_cons_self
    · rw [if_neg own] at found
      exact List.mem_cons_of_mem e (ih found)

/-- Where keys are distinct, a value that stands in the table is found. -/
theorem find?_of_mem (distinct : table.Distinct) (inside : (key, value) ∈ table) :
    find? key table = some value := by
  induction table with
  | nil => cases inside
  | cons e rest ih =>
    obtain ⟨absent, distinct⟩ := List.nodup_cons.mp distinct
    rw [find?]
    rcases List.mem_cons.mp inside with same | inside
    · rw [← same, if_pos rfl]
    · have apart : e.1 ≠ key := by
        rintro rfl
        exact absent (List.mem_map.mpr ⟨_, inside, rfl⟩)
      rw [if_neg apart, ih distinct inside]

/-- Setting the value that is found changes nothing. -/
theorem put_found (found : find? key table = some value) : put key value table = table := by
  induction table with
  | nil => cases found
  | cons e rest ih =>
    rw [find?] at found
    rw [put]
    by_cases own : e.1 = key
    · rw [if_pos own] at found
      obtain rfl := Option.some.inj found
      rw [if_pos own, ← own]
    · rw [if_neg own] at found
      rw [if_neg own, ih found]

/-- Of two values set under one key the later counts. -/
theorem put_put (key : String) (first second : α) (table : Keyed α) :
    put key second (put key first table) = put key second table := by
  induction table with
  | nil => simp [put]
  | cons e rest ih =>
    rw [put, put]
    by_cases own : e.1 = key
    · simp [own, put]
    · rw [if_neg own, if_neg own, put, if_neg own, ih]

/-- Setting a value adds its key, if that is new. -/
theorem keys_put (key : String) (value : α) (table : Keyed α) :
    (put key value table).keys = if key ∈ table.keys then table.keys else table.keys ++ [key] := by
  induction table with
  | nil => simp [put, keys]
  | cons e rest ih =>
    simp only [keys, List.map_cons, List.mem_cons] at ih ⊢
    rw [put]
    by_cases own : e.1 = key
    · simp [own]
    · rw [if_neg own, List.map_cons, ih]
      by_cases there : key ∈ rest.map Prod.fst <;> simp [there, Ne.symm own]

/-- Setting a value keeps keys distinct. -/
theorem Distinct.put (distinct : table.Distinct) (key : String) (value : α) :
    (Keyed.put key value table).Distinct := by
  unfold Distinct
  rw [keys_put]
  split
  · exact distinct
  · rename_i absent
    exact List.Nodup.append distinct (List.nodup_singleton key)
      (List.disjoint_singleton.mpr absent)

/-- Where keys are distinct no key stands in front of itself. -/
theorem Distinct.not_mem_of_append {e : String × α} {more : Keyed α}
    (distinct : Distinct (table ++ e :: more)) : e.1 ∉ table.keys := by
  intro there
  rw [Distinct, keys, List.map_append] at distinct
  exact List.disjoint_of_nodup_append distinct there List.mem_cons_self

/-- Dropping records keeps keys distinct. -/
theorem Distinct.filter (distinct : table.Distinct) (kept : String × α → Bool) :
    Distinct (List.filter kept table) :=
  List.Nodup.sublist (List.filter_sublist.map Prod.fst) distinct

/-- A record of a table after a value was set is the new one or an old one. -/
theorem mem_put {e : String × α} (inside : e ∈ put key value table) :
    e = (key, value) ∨ e ∈ table := by
  induction table with
  | nil => exact .inl (List.mem_singleton.mp inside)
  | cons f rest ih =>
    rw [put] at inside
    by_cases own : f.1 = key
    · rw [if_pos own] at inside
      exact (List.mem_cons.mp inside).imp id (List.mem_cons_of_mem f)
    · rw [if_neg own] at inside
      rcases List.mem_cons.mp inside with rfl | inside
      · exact .inr List.mem_cons_self
      · exact (ih inside).imp id (List.mem_cons_of_mem f)

/-- Nothing is found under a key exactly where the key does not stand. -/
theorem find?_eq_none_iff : find? key table = none ↔ key ∉ table.keys := by
  induction table with
  | nil => simp [find?, keys]
  | cons e rest ih =>
    rw [find?]
    by_cases own : e.1 = key
    · simp [own, keys]
    · rw [if_neg own, ih]
      simp [keys, Ne.symm own]

/-- A value is looked for in a table first, and then in what follows it. -/
theorem find?_append (key : String) (table more : Keyed α) :
    find? key (table ++ more) = (find? key table).or (find? key more) := by
  induction table with
  | nil => rfl
  | cons e rest ih =>
    rw [List.cons_append, find?, find?, ih]
    split <;> rfl

/-- Behind a table without a key the value is looked for in what follows. -/
theorem find?_append_of_absent (absent : key ∉ table.keys) (more : Keyed α) :
    find? key (table ++ more) = find? key more := by
  rw [find?_append, find?_eq_none_iff.mpr absent, Option.none_or]

/-- Behind a table without a key the value is set in what follows. -/
theorem put_append_of_absent (absent : key ∉ table.keys) (value : α) (more : Keyed α) :
    put key value (table ++ more) = table ++ put key value more := by
  induction table with
  | nil => rfl
  | cons e rest ih =>
    simp only [keys, List.map_cons, List.mem_cons, not_or] at absent ih
    rw [List.cons_append, put, if_neg (Ne.symm absent.1), ih absent.2, List.cons_append]

/-- A key that is not there may join the table. -/
theorem Distinct.snoc (distinct : table.Distinct) (absent : find? key table = none) (value : α) :
    Distinct (table ++ [(key, value)]) := by
  have joined := put_append_of_absent (find?_eq_none_iff.mp absent) value []
  rw [List.append_nil] at joined
  rw [show table ++ [(key, value)] = Keyed.put key value table from joined.symm]
  exact distinct.put key value

/-- Changing every value keeps the keys. -/
@[simp] theorem keys_mapValues {β : Type} (f : α → β) (table : Keyed α) :
    (mapValues f table).keys = table.keys := by
  simp [mapValues, keys, Function.comp_def]

/-- Where every value was changed the changed value is found. -/
theorem find?_mapValues {β : Type} (f : α → β) (key : String) (table : Keyed α) :
    find? key (mapValues f table) = (find? key table).map f := by
  induction table with
  | nil => rfl
  | cons e rest ih =>
    rw [mapValues, List.map_cons, find?, find?]
    by_cases own : e.1 = key
    · rw [if_pos own, if_pos own, Option.map_some]
    · rw [if_neg own, if_neg own]
      exact ih

/-- A value that is found is the one that was changed, or an old one under another key. -/
theorem find?_update (change : α → α) (table : Keyed α) :
    find? other (update key change table) =
      if other = key then (find? key table).map change else find? other table := by
  unfold update
  by_cases own : other = key
  · rw [if_pos own, own]
    cases found : find? key table with
    | none => exact found
    | some value => exact find?_put_self key (change value) table
  · rw [if_neg own]
    cases find? key table with
    | none => rfl
    | some value => exact find?_put_of_ne own (change value) table

/-- Changing a value keeps keys distinct. -/
theorem Distinct.update (distinct : table.Distinct) (key : String) (change : α → α) :
    (Keyed.update key change table).Distinct := by
  unfold Keyed.update
  split
  · exact distinct.put key _
  · exact distinct

/-- A record of a table after a value was changed is an old one, or the changed one. -/
theorem mem_update {change : α → α} {e : String × α} (inside : e ∈ update key change table) :
    e ∈ table ∨ ∃ old, (key, old) ∈ table ∧ e = (key, change old) := by
  unfold update at inside
  split at inside
  · rename_i old found
    rcases mem_put inside with rfl | inside
    · exact .inr ⟨old, mem_of_find? found, rfl⟩
    · exact .inl inside
  · exact .inl inside

/-- Where a key was removed nothing is found under it, and the same as before under others. -/
theorem find?_erase (key other : String) (table : Keyed α) :
    find? other (erase key table) = if other = key then none else find? other table := by
  unfold erase
  induction table with
  | nil => simp [find?]
  | cons e rest ih =>
    by_cases gone : e.1 = key
    · rw [List.filter_cons_of_neg (by simpa using gone), ih, find?]
      by_cases own : other = key
      · rw [if_pos own, if_pos own]
      · rw [if_neg own, if_neg own, if_neg fun same => own (same.symm.trans gone)]
    · rw [List.filter_cons_of_pos (by simpa using gone), find?, find?, ih]
      by_cases own : other = key
      · rw [if_pos own, if_pos own, if_neg fun same => gone (same.trans own)]
      · rw [if_neg own, if_neg own]

/-- Where keys are distinct a record that stays is found, and one that goes is not. -/
theorem find?_filter (distinct : table.Distinct) (kept : α → Bool) (key : String) :
    find? key (table.filter fun e => kept e.2) = (find? key table).filter kept := by
  induction table with
  | nil => rfl
  | cons e rest ih =>
    obtain ⟨absent, distinct⟩ := List.nodup_cons.mp distinct
    by_cases own : e.1 = key
    · have missing : find? key rest = none := find?_eq_none_iff.mpr (own ▸ absent)
      by_cases stays : kept e.2 = true
      · rw [List.filter_cons_of_pos (by exact stays)]
        simp [find?, own, Option.filter, stays]
      · rw [List.filter_cons_of_neg (by exact stays), ih distinct, missing]
        simp [find?, own, Option.filter, stays]
    · by_cases stays : kept e.2 = true
      · rw [List.filter_cons_of_pos (by exact stays), find?, find?, if_neg own, if_neg own,
          ih distinct]
      · rw [List.filter_cons_of_neg (by exact stays), find?, if_neg own, ih distinct]

/-- Removing a key that is not there changes nothing. -/
theorem erase_of_absent (absent : find? key table = none) : erase key table = table := by
  refine List.filter_eq_self.mpr fun e inside => ?_
  have other : e.1 ≠ key := by
    rintro rfl
    exact find?_eq_none_iff.mp absent (List.mem_map.mpr ⟨e, inside, rfl⟩)
  exact decide_eq_true other

/-- Changing a value keeps the keys. -/
theorem keys_update (key : String) (change : α → α) (table : Keyed α) :
    (update key change table).keys = table.keys := by
  unfold update
  cases found : find? key table with
  | none => rfl
  | some value =>
    have there : key ∈ table.keys := List.mem_map.mpr ⟨_, mem_of_find? found, rfl⟩
    rw [keys_put, if_pos there]

end Keyed

namespace State.Tables

variable {t t' : Tables} {token username code : String} {now : Int}

/-- Tables are the same if each of them is. -/
theorem eq_of_parts (sessions : t'.sessions = t.sessions)
    (resetTokens : t'.resetTokens = t.resetTokens) (signups : t'.signups = t.signups)
    (smsCodes : t'.smsCodes = t.smsCodes) : t' = t := by
  cases t
  cases t'
  simp_all

/-- A claim needs an unused token within its time, and marks it used. -/
theorem claimResetToken_eq_ok (claimed : t.claimResetToken token now = .ok (username, t')) :
    ∃ r, Keyed.find? token t.resetTokens = some r ∧ r.used = false ∧ r.isExpired now = false ∧
      username = r.username ∧
      t' = { t with resetTokens := Keyed.put token { r with used := true } t.resetTokens } := by
  unfold claimResetToken resetToken? at claimed
  split at claimed
  · cases claimed
  · rename_i r found
    split at claimed
    · cases claimed
    · rename_i good
      obtain ⟨rfl, rfl⟩ := Prod.mk.inj (Except.ok.inj claimed)
      obtain ⟨unused, inTime⟩ := not_or.mp (mt Bool.or_eq_true_iff.mpr good)
      exact ⟨r, found, Bool.eq_false_iff.mpr unused, Bool.eq_false_iff.mpr inTime, rfl, rfl⟩

/-- A token that is missing or used is not claimed. -/
theorem claimResetToken_of_used
    (used : ∀ r, Keyed.find? token t.resetTokens = some r → r.used = true) (now : Int) :
    ∃ e, t.claimResetToken token now = .error e := by
  cases claimed : t.claimResetToken token now with
  | error e => exact ⟨e, rfl⟩
  | ok claim =>
    obtain ⟨r, found, unused, -⟩ := claimResetToken_eq_ok claimed
    rw [used r found] at unused
    cases unused

/-- A claim that is released leaves the tables as it found them. -/
theorem release_claim (claimed : t.claimResetToken token now = .ok (username, t')) :
    t'.releaseResetToken token = t := by
  obtain ⟨r, found, unused, -, -, rfl⟩ := claimResetToken_eq_ok claimed
  have released : ({ r with used := false } : ResetToken) = r := by rw [← unused]
  unfold releaseResetToken setResetTokenUsed Keyed.update
  simp only [Keyed.find?_put_self, Keyed.put_put, released, Keyed.put_found found]

/-- The code that is taken first stands in the table. -/
theorem mem_of_preferred? {codes : Keyed SmsCode} {e : String × SmsCode}
    (taken : preferred? codes = some e) : e ∈ codes := by
  induction codes generalizing e with
  | nil => cases taken
  | cons c rest ih =>
    rw [preferred?] at taken
    cases best : preferred? rest with
    | none =>
      simp only [best] at taken
      obtain rfl := Option.some.inj taken
      exact List.mem_cons_self
    | some b =>
      simp only [best] at taken
      split at taken <;> obtain rfl := Option.some.inj taken
      · exact List.mem_cons_of_mem c (ih best)
      · exact List.mem_cons_self

/-- The use of a code needs an unused code of the user within its time, and marks it used. -/
theorem consumeSmsCode_eq_ok (consumed : t.consumeSmsCode username code now = .ok t') :
    ∃ id c, (id, c) ∈ t.smsCodes ∧ c.username = username ∧ c.code = code ∧ c.used = false ∧
      c.isExpired now = false ∧
      t' = { t with smsCodes := Keyed.put id { c with used := true } t.smsCodes } := by
  unfold consumeSmsCode at consumed
  split at consumed
  · cases consumed
  · dsimp only at consumed
    split at consumed
    · cases consumed
    · split at consumed
      · cases consumed
      · rename_i id c taken
        split at consumed
        · cases consumed
        · rename_i inTime
          obtain ⟨among, unused⟩ := List.mem_filter.mp (mem_of_preferred? taken)
          obtain ⟨inside, reads⟩ := List.mem_filter.mp among
          obtain ⟨own, same⟩ : c.username = username ∧ c.code = code := by simpa using reads
          exact ⟨id, c, inside, own, same, by simpa using unused, by simpa using inTime,
            (Except.ok.inj consumed).symm⟩

/-- A signup that is found stands in the table. -/
theorem pendingSignup_eq_ok {id : String} {s : PendingSignup} (found : t.pendingSignup id = .ok s) :
    Keyed.find? id t.signups = some s := by
  unfold pendingSignup at found
  split at found
  · rename_i s' there
    rw [there, Except.ok.inj found]
  · cases found

end State.Tables

end AccountSidecar
