import AccountSidecar.Proofs.Provenance

/-!
# Phones of approved accounts

The phone of a signup goes into the metadata when the signup is queued, under its username, while
the credentials wait for approval. Approvals leave phones alone. So an approved account has the
phone of whichever signup for its username was the last one to be queued with a phone, which is not
always the signup that was approved (`approved_phone_latest`).
-/

namespace AccountSidecar

open AccountSidecar.Action Account

namespace Metadata

/-- The phone of a user; empty where there is none. -/
def phoneOf (username : String) (entries : Keyed Entry) : String :=
  ((Keyed.find? username entries).getD {}).phone

/-- The phone of a user after an entry was set. -/
theorem phoneOf_put (username other : String) (e : Entry) (entries : Keyed Entry) :
    phoneOf username (Keyed.put other e entries) =
      if username = other then e.phone else phoneOf username entries := by
  unfold phoneOf
  by_cases own : username = other
  · rw [if_pos own, own, Keyed.find?_put_self]
    rfl
  · rw [if_neg own, Keyed.find?_put_of_ne own]

end Metadata

open Metadata

/-- The phone that a signup for a user was queued with, if it was and had one. -/
def Step.queuedPhone? (username : String) (s : Step) : Option String :=
  match s.operation, s.result with
  | .signup u _ _ phone, .ok (.signup (.pending _)) =>
    if u = username ∧ phone ≠ "" then some phone else none
  | _, _ => none

/-- The phone of the last signup for a user that was queued with one; empty where there is none. -/
def latestPhone (username : String) (steps : List Step) : String :=
  (steps.filterMap (Step.queuedPhone? username)).getLast?.getD ""

/-- Where all queued phones are the same, the last of them is that phone, or there is none. -/
theorem latestPhone_of_same {username phone : String} {steps : List Step}
    (same : ∀ s ∈ steps, ∀ p, s.queuedPhone? username = some p → p = phone)
    (some : phone ≠ "" → ∃ s ∈ steps, s.queuedPhone? username = some phone) :
    latestPhone username steps = phone := by
  unfold latestPhone
  cases last : (steps.filterMap (Step.queuedPhone? username)).getLast? with
  | none =>
    refine Classical.byContradiction fun given => ?_
    obtain ⟨s, among, queued⟩ := some (Ne.symm given)
    have inside := List.mem_filterMap.mpr ⟨s, among, queued⟩
    rw [List.getLast?_eq_none_iff.mp last] at inside
    cases inside
  | some p =>
    obtain ⟨s, among, queued⟩ := List.mem_filterMap.mp (List.mem_of_getLast? last)
    exact same s among p queued

/-- One more operation brings in the phone that it queued, if any. -/
theorem latestPhone_append (username : String) (steps : List Step) (s : Step) :
    latestPhone username (steps ++ [s]) =
      (s.queuedPhone? username).getD (latestPhone username steps) := by
  unfold latestPhone
  rw [List.filterMap_append]
  cases queued : s.queuedPhone? username <;> simp [queued]

variable {d : Deployment} {w : World} {username : String}

namespace Account

/-- An approval that is noted changes no phone. -/
theorem phoneOf_approvedEntries (other : String) (entries : Keyed Metadata.Entry) :
    phoneOf username (approvedEntries other entries) = phoneOf username entries := by
  unfold approvedEntries
  rw [phoneOf_put]
  split
  · rename_i own
    rw [own]
    rfl
  · rfl

/-- An approval changes no phone. -/
theorem phoneOf_approveSignup (d : Deployment) (id : String) (w : World) :
    phoneOf username ((approveSignup d id).runIn w).2.metadata = phoneOf username w.metadata := by
  cases queued : w.tables.pendingSignup id with
  | error e => rw [runIn_approveSignup_of_missing queued]
  | ok s =>
    rw [runIn_approveSignup queued]
    split
    · rfl
    · rename_i files _
      rcases noteApproval_cases d s.username
          { w with files, tables := w.tables.approvePendingSignup id } with
        ⟨files, run⟩ | ⟨e, files, metadata, run, ⟨-, rfl⟩ | ⟨-, rfl⟩⟩ <;> rw [run]
      · exact phoneOf_approvedEntries s.username w.metadata
      · exact phoneOf_approvedEntries s.username w.metadata

/-- Setting the phone of somebody else changes no phone of the user. -/
theorem phoneOf_setPhone_of_ne {other : String} (distinct : username ≠ other) (phone : String)
    (w : World) :
    phoneOf username ((setPhone d other phone).runIn w).2.metadata =
      phoneOf username w.metadata := by
  unfold setPhone
  rw [runIn_bind_ok (runIn_metadataOf other w), runIn_commitMetadata]
  split
  · exact (phoneOf_put username other _ _).trans (if_neg distinct)
  · rfl

/-- Queueing a signup gives its user the phone, or keeps all metadata where there is none to store
or it cannot be written. -/
theorem queueSignup_metadata (d : Deployment) (other email hash phone : String) (w : World) :
    (phone ≠ "" ∧ ∃ id w', (queueSignup d other email hash phone).runIn w =
      (.ok (.pending id), w') ∧ w'.metadata = phonedEntries other phone w.metadata) ∨
    ((queueSignup d other email hash phone).runIn w).2.metadata = w.metadata ∧
      (w.MetadataWritable d → phone = "") := by
  rw [runIn_queueSignup, runIn_stashPhone]
  by_cases none : phone = ""
  · rw [if_pos none]
    exact .inr ⟨rfl, fun _ => none⟩
  · rw [if_neg none]
    dsimp only
    rcases written : Metadata.commit w.files d.metadataFile
      (phonedEntries other phone w.metadata) with ⟨e | ⟨⟩, files⟩
    · dsimp only
      refine .inr ⟨by cases e.isReported <;> rfl, fun able => ?_⟩
      have done := able (phonedEntries other phone w.metadata)
      rw [written] at done
      cases done
    · exact .inl ⟨none, _, _, rfl, rfl⟩

/-- Where signups wait for approval, a signup that ends as queued with a phone gives its user the
phone if metadata can be written, and no other signup changes the phone of anybody. -/
theorem signup_metadata (approval : d.requireApproval = true) (other email password phone : String)
    (w : World) :
    (phone ≠ "" ∧ ∃ id w', (signup d other email password phone).runIn w =
      (.ok (.pending id), w') ∧ w'.metadata = phonedEntries other phone w.metadata) ∨
    ((signup d other email password phone).runIn w).2.metadata = w.metadata ∧
      (w.MetadataWritable d → phone = "" ∨
        ∃ e, ((signup d other email password phone).runIn w).1 = .error e) := by
  rcases signup_cases d other email password phone w with ⟨hash, accepts⟩ | ⟨e, n, run⟩
  · rw [accepts.runIn_signup, if_pos approval]
    rcases queueSignup_metadata d other email hash phone
        { w with drawn := { w.drawn with salts := w.drawn.salts + 1 } } with
      stored | ⟨kept, none⟩
    · exact .inl stored
    · exact .inr ⟨kept, fun able => .inl (none able)⟩
  · rw [run]
    exact .inr ⟨rfl, fun _ => .inr ⟨e, rfl⟩⟩

end Account

/-- A signup that queued a phone was given one and did not fail. -/
theorem Step.given_of_queuedPhone? {s : Step} {other email password given phone : String}
    (asked : s.operation = .signup other email password given)
    (queued : s.queuedPhone? username = some phone) :
    given ≠ "" ∧ ∃ reply, s.result = .ok reply := by
  unfold Step.queuedPhone? at queued
  rw [asked] at queued
  split at queued
  · rename_i asked' ended
    obtain ⟨rfl, rfl, rfl, rfl⟩ := Operation.signup.inj asked'
    split at queued
    · rename_i own
      exact ⟨own.2, _, ended⟩
    · cases queued
  · cases queued

/-- Where signups wait for approval, a signup gives the user the phone that it queued, if any. -/
theorem Operation.phoneOf_signup (approval : d.requireApproval = true)
    (other email password phone : String)
    (able : ∀ p, ((Operation.signup other email password phone).step d w).queuedPhone? username =
      some p → w.MetadataWritable d) :
    let s := (Operation.signup other email password phone).step d w
    phoneOf username s.after.metadata =
      (s.queuedPhone? username).getD (phoneOf username w.metadata) := by
  have cases := signup_metadata approval other email password phone w
  rcases run : (Account.signup d other email password phone).runIn w with ⟨result, w'⟩
  rw [run] at cases
  rw [Operation.step_of_map rfl run] at able ⊢
  dsimp only at able ⊢
  rcases cases with ⟨given, id, w'', ended, put⟩ | ⟨kept, none⟩
  · obtain ⟨rfl, rfl⟩ := Prod.mk.inj ended
    rw [put, phonedEntries, phoneOf_put]
    by_cases same : other = username
    · simp [Step.queuedPhone?, Except.map, same, given]
    · simp [Step.queuedPhone?, Except.map, same, Ne.symm same]
  · rw [show w'.metadata = w.metadata from kept]
    cases queued : Step.queuedPhone? username
      ⟨w, .signup other email password phone, result.map .signup, w'⟩ with
    | none => rfl
    | some p =>
      obtain ⟨given, reply, done⟩ := Step.given_of_queuedPhone? rfl queued
      rcases none (able p queued) with empty | ⟨e, failed⟩
      · exact absurd empty given
      · rw [show result = .error e from failed] at done
        cases done

/-- Where signups wait for approval, an operation other than setting the phone of the user gives the
user the phone that it queued, if any. -/
theorem Operation.phoneOf_step (apart : d.FilesApart) (approval : d.requireApproval = true)
    (op : Operation) (unset : ∀ phone, op ≠ .setPhone username phone)
    (able : ∀ phone, (op.step d w).queuedPhone? username = some phone → w.MetadataWritable d) :
    phoneOf username (op.step d w).after.metadata =
      ((op.step d w).queuedPhone? username).getD (phoneOf username w.metadata) := by
  cases op with
  | signup v e p ph => exact phoneOf_signup approval v e p ph able
  | approveSignup id =>
    rw [step_of_reply rfl (Prod.eta ((Account.approveSignup d id).runIn w)).symm]
    exact phoneOf_approveSignup d id w
  | setPhone v p =>
    rw [step_of_reply rfl (Prod.eta ((Action.setPhone d v p).runIn w)).symm]
    exact phoneOf_setPhone_of_ne (fun own => unset p (by rw [own])) p w
  | _ =>
    exact congrArg (phoneOf username)
      (same_of_not_mem apart (p := .metadata) (by simp [footprint]) w)

/-- Where signups wait for approval, a user without a phone at the start whose phone is never set
has the phone of the last signup that was queued with one. -/
theorem World.phoneOf_after (apart : d.FilesApart) (approval : d.requireApproval = true)
    {start : World} (fresh : phoneOf username start.metadata = "") (events : List Event)
    (unset : ∀ s ∈ start.steps d events, ∀ phone, s.operation ≠ .setPhone username phone)
    (able : ∀ s ∈ start.steps d events, ∀ phone, s.queuedPhone? username = some phone →
      s.before.MetadataWritable d) :
    phoneOf username (start.after d events).metadata =
      latestPhone username (start.steps d events) := by
  -- What is asked of the steps is asked of those so far, so the induction carries it along.
  refine run_induction (d := d)
    (motive := fun earlier w =>
      (∀ s ∈ earlier, ∀ phone, s.operation ≠ .setPhone username phone) →
      (∀ s ∈ earlier, ∀ phone, s.queuedPhone? username = some phone →
        s.before.MetadataWritable d) →
      phoneOf username w.metadata = latestPhone username earlier)
    (fun _ _ => fresh) (fun earlier w op ih unset able => ?_)
    (fun _ _ _ _ _ holds unset able => holds unset able) events unset able
  have last := List.mem_append_right earlier (List.mem_singleton_self (op.step d w))
  rw [latestPhone_append, op.phoneOf_step apart approval (unset _ last) (able _ last)]
  rw [ih (fun s among => unset s (List.mem_append_left _ among))
    fun s among => able s (List.mem_append_left _ among)]

/-- Where signups wait for approval, one that ends as queued stands under a fresh identifier. -/
theorem Account.signup_eq_pending (approval : d.requireApproval = true)
    {email password phone id : String}
    (ended : ((signup d username email password phone).runIn w).1 = .ok (.pending id)) :
    id = d.sources.identifier w.drawn.identifiers ∧ ∃ hash,
      let w' := ((signup d username email password phone).runIn w).2
      w'.drawn.identifiers = w.drawn.identifiers + 1 ∧
        w'.tables = w.tables.createPendingSignup id username email hash w.clock := by
  rcases signup_cases d username email password phone w with ⟨hash, accepts⟩ | ⟨e, n, run⟩
  · rw [accepts.runIn_signup, if_pos approval] at ended ⊢
    have queued := queueSignup_tables (d := d) username email hash phone
      { w with drawn := { w.drawn with salts := w.drawn.salts + 1 } }
    have own : id = d.sources.identifier w.drawn.identifiers := by
      rw [runIn_queueSignup] at ended
      split at ended <;> cases ended
      rfl
    exact ⟨own, hash, by rw [own]; exact queued⟩
  · rw [run] at ended
    cases ended

/-- Whether every signup that ended as queued still has its row. -/
def KeepsQueued (d : Deployment) (earlier : List Step) (w : World) : Prop :=
  ∀ s ∈ earlier, ∀ username email password phone id,
    s.operation = .signup username email password phone → s.result = .ok (.signup (.pending id)) →
    (∃ n < w.drawn.identifiers, id = d.sources.identifier n) ∧
      ∃ row, Keyed.find? id w.tables.signups = some row ∧ row.username = username

/-- A row that is there stays there with its username. -/
theorem SignupsStep.find? {w' : World} {op : Operation} (change : SignupsStep d w w' op)
    (distinct : Function.Injective d.sources.identifier) {n : Nat} (below : n < w.drawn.identifiers)
    {row : State.PendingSignup}
    (found : Keyed.find? (d.sources.identifier n) w.tables.signups = some row) :
    ∃ row', Keyed.find? (d.sources.identifier n) w'.tables.signups = some row' ∧
      row'.username = row.username := by
  cases change with
  | kept same => exact ⟨row, same ▸ found, rfl⟩
  | queued hashed drawn put =>
    have other : d.sources.identifier n ≠ d.sources.identifier w.drawn.identifiers :=
      fun same => Nat.ne_of_lt below (distinct same)
    exact ⟨row, by rw [put]; exact (Keyed.find?_put_of_ne other _ _).trans found, rfl⟩
  | approved marked =>
    rename_i id
    rw [marked]
    change ∃ row', Keyed.find? _ (Keyed.update id _ w.tables.signups) = some row' ∧ _
    rw [Keyed.find?_update]
    by_cases own : d.sources.identifier n = id
    · rw [if_pos own, ← own, found]
      exact ⟨_, rfl, rfl⟩
    · rw [if_neg own]
      exact ⟨row, found, rfl⟩

/-- An operation keeps the rows of earlier signups, and a signup that ends as queued gets one. -/
theorem KeepsQueued.step {earlier : List Step} (apart : d.FilesApart)
    (approval : d.requireApproval = true) (distinct : Function.Injective d.sources.identifier)
    (op : Operation) (holds : KeepsQueued d earlier w) :
    KeepsQueued d (earlier ++ [op.step d w]) (op.step d w).after := by
  intro s among username email password phone id asked ended
  rcases List.mem_append.mp among with among | among
  · obtain ⟨⟨n, below, rfl⟩, row, found, own⟩ :=
      holds s among username email password phone id asked ended
    have grows : w.drawn.identifiers ≤ (op.step d w).after.drawn.identifiers :=
      op.identifiers_le apart w
    obtain ⟨row', found', same⟩ :=
      SignupsStep.find? (op.perform_signups w) distinct below found
    exact ⟨⟨n, Nat.lt_of_lt_of_le below grows, rfl⟩, row', found', same.trans own⟩
  · obtain rfl := List.mem_singleton.mp among
    obtain rfl : op = .signup username email password phone := asked
    rcases run : (Account.signup d username email password phone).runIn w with ⟨result, w'⟩
    rw [Operation.step_of_map rfl run] at ended ⊢
    obtain ⟨r, rfl, same⟩ := exists_of_map_eq_ok ended
    obtain rfl := Reply.signup.inj same
    obtain ⟨rfl, hash, drawn, put⟩ := Account.signup_eq_pending approval (by rw [run])
    rw [run] at drawn put
    dsimp only at drawn put ⊢
    refine ⟨⟨w.drawn.identifiers, by rw [drawn]; exact Nat.lt_succ_self _, rfl⟩, ?_⟩
    rw [put]
    exact ⟨_, Keyed.find?_put_self _ _ _, rfl⟩

/-- Through every run the signups that ended as queued keep their rows. -/
theorem World.keepsQueued_after (apart : d.FilesApart) (approval : d.requireApproval = true)
    (distinct : Function.Injective d.sources.identifier) (start : World) (events : List Event) :
    KeepsQueued d (start.steps d events) (start.after d events) :=
  run_induction (fun _ among => absurd among List.not_mem_nil)
    (fun _ _ op holds => holds.step apart approval distinct op)
    (fun _ _ _ _ _ holds => holds) events

/-- An approval that comes to its end is noted for the user of the signup. -/
theorem Account.metadata_of_approveSignup {id : String}
    (done : ((approveSignup d id).runIn w).1 = .ok ()) :
    ∃ row, Keyed.find? id w.tables.signups = some row ∧
      ((approveSignup d id).runIn w).2.metadata = approvedEntries row.username w.metadata := by
  cases queued : w.tables.pendingSignup id with
  | error e =>
    rw [runIn_approveSignup_of_missing queued] at done
    cases done
  | ok row =>
    refine ⟨row, State.Tables.pendingSignup_eq_ok queued, ?_⟩
    rw [runIn_approveSignup queued] at done ⊢
    split at done
    · cases done
    · rename_i files _
      rcases noteApproval_cases d row.username
          { w with files, tables := w.tables.approvePendingSignup id } with
        ⟨files, run⟩ | ⟨e, files, metadata, run, -⟩
      · rw [run]
      · rw [run] at done
        cases done

/-- An approved account has the phone of the last signup for its username that was queued with one,
which is its own where they all gave the same. This holds in every run that starts without metadata
of the user and never sets the phone, where metadata can be written whenever such a signup comes. -/
theorem approved_phone_latest (apart : d.FilesApart) (approval : d.requireApproval = true)
    (distinct : Function.Injective d.sources.identifier) {start : World}
    (fresh : Keyed.find? username start.metadata = none) (events : List Event)
    (unset : ∀ s ∈ start.steps d events, ∀ phone, s.operation ≠ .setPhone username phone)
    (able : ∀ s ∈ start.steps d events, ∀ phone, s.queuedPhone? username = some phone →
      s.before.MetadataWritable d)
    {s : Step} (among : s ∈ start.steps d events) {email password phone id : String}
    (asked : s.operation = .signup username email password phone)
    (queued : s.result = .ok (.signup (.pending id)))
    (approved : ((Operation.approveSignup id).step d (start.after d events)).result = .ok .done) :
    ∃ e, Keyed.find? username
        ((Operation.approveSignup id).step d (start.after d events)).after.metadata = some e ∧
      e.approved = true ∧ e.phone = latestPhone username (start.steps d events) ∧
      ((∀ s' ∈ start.steps d events, ∀ p, s'.queuedPhone? username = some p → p = phone) →
        e.phone = phone) := by
  have latest := World.phoneOf_after apart approval (by rw [phoneOf, fresh]; rfl) events unset able
  obtain ⟨-, row, found, own⟩ := World.keepsQueued_after apart approval distinct start events s
    among username email password phone id asked queued
  generalize start.after d events = w at *
  generalize start.steps d events = earlier at *
  rcases run : (Account.approveSignup d id).runIn w with ⟨result, w'⟩
  rw [Operation.step_of_reply rfl run] at approved ⊢
  obtain ⟨done, rfl, -⟩ := exists_of_map_eq_ok approved
  obtain ⟨row', found', noted⟩ := Account.metadata_of_approveSignup (by rw [run])
  obtain rfl : row = row' := Option.some.inj (found.symm.trans found')
  rw [run, own] at noted
  dsimp only at noted ⊢
  rw [noted]
  refine ⟨_, Keyed.find?_put_self _ _ _, rfl, latest, fun same => latest.trans ?_⟩
  refine latestPhone_of_same same fun given => ⟨s, among, ?_⟩
  simp [Step.queuedPhone?, asked, queued, given]

/-- The only signup gives its own phone: the theorem at one signup and its approval. -/
theorem approved_phone_latest_single :
    let d := Deployment.sample true
    let start := World.sample []
    let events := [.operation (.signup "dave" "" "pw1" "1")]
    let approval := (Operation.approveSignup "").step d (start.after d events)
    approval.result = .ok .done ∧ ∃ e, Keyed.find? "dave" approval.after.metadata = some e ∧
      e.approved = true ∧ e.phone = latestPhone "dave" (start.steps d events) ∧
      ((∀ s ∈ start.steps d events, ∀ p, s.queuedPhone? "dave" = some p → p = "1") →
        e.phone = "1") := by
  intro d start events approval
  obtain ⟨hash, w₁, -, run, opened, -, tables, -, failing⟩ :=
    World.sample_isOpen.runIn_signup "dave" "pw1" "1" (by decide) (by decide) (by decide)
  have step : (Operation.signup "dave" "" "pw1" "1").step d start = _ :=
    Operation.step_of_map rfl run
  have found : w₁.tables.pendingSignup "" = .ok ⟨"dave", "", hash, 0, false⟩ := by
    rw [tables]
    rfl
  obtain ⟨w₂, approved, -⟩ := opened.runIn_approveSignup
    (by decide : Users.isValidUsername "dave" = true) found (by rw [failing]; decide)
  have reached : start.after d events = w₁ := by
    rw [World.after_operation, step]
    rfl
  have ended : approval.result = .ok .done := by
    rw [show approval = (Operation.approveSignup "").step d _ from rfl, reached,
      Operation.step_of_reply rfl approved]
    rfl
  have only : start.steps d events = [(Operation.signup "dave" "" "pw1" "1").step d start] := rfl
  refine ⟨ended, approved_phone_latest (Deployment.sample_filesApart true) rfl
    (Deployment.sample_identifiers true) rfl events ?_ ?_ (only ▸ List.mem_singleton_self _) rfl
    (by rw [step]; rfl) ended⟩
  · intro s among phone other
    obtain rfl := List.mem_singleton.mp (only ▸ among)
    cases other
  · intro s among phone queued entries
    obtain rfl := List.mem_singleton.mp (only ▸ among)
    exact congrArg Prod.fst
      (Metadata.commit_of_replaceable (by decide) World.sample_isOpen.metadata entries)

/-- Of two signups for one username the first is approved, and the account has the phone of the
second. -/
theorem approved_phone_of_other :
    let d := Deployment.sample true
    let start := World.sample []
    let first := Operation.signup "dave" "" "pw1" "1"
    let second := Operation.signup "dave" "" "pw2" "2"
    let approval := (Operation.approveSignup "").step d
      (start.after d [.operation first, .operation second])
    (first.step d start).result = .ok (.signup (.pending "")) ∧ approval.result = .ok .done ∧
      phoneOf "dave" approval.after.metadata = "2" := by
  intro d start first second approval
  obtain ⟨hash, w₁, -, run, opened, metadata, tables, drawn, failing⟩ :=
    World.sample_isOpen.runIn_signup "dave" "pw1" "1" (by decide) (by decide) (by decide)
  obtain ⟨hash', w₂, -, run', opened', metadata', tables', drawn', failing'⟩ :=
    opened.runIn_signup "dave" "pw2" "2" (by decide) (by decide) (by decide)
  have step : first.step d start = _ := Operation.step_of_map rfl run
  have step' : second.step d w₁ = _ := Operation.step_of_map rfl run'
  have reached : start.after d [.operation first, .operation second] = w₂ := by
    rw [World.after_operation, step, World.after_operation, step']
    rfl
  have found : w₂.tables.pendingSignup "" = .ok ⟨"dave", "", hash, 0, false⟩ := by
    rw [tables', tables, drawn]
    rfl
  have working : .restarter ∉ w₂.failing := by
    rw [failing', failing]
    decide
  obtain ⟨w₃, approved, noted⟩ := opened'.runIn_approveSignup
    (by decide : Users.isValidUsername "dave" = true) found working
  have last : approval = ⟨w₂, .approveSignup "", .ok .done, w₃⟩ := by
    rw [show approval = (Operation.approveSignup "").step d _ from rfl, reached]
    exact Operation.step_of_reply rfl approved
  refine ⟨by rw [step]; rfl, by rw [last], ?_⟩
  rw [last]
  dsimp only
  rw [noted, metadata', metadata, phoneOf_approvedEntries]
  decide

end AccountSidecar
