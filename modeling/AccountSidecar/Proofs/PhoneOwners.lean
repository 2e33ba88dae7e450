import AccountSidecar.Proofs.CodeRequests
import AccountSidecar.Proofs.MetadataMirror
import Mathlib.Data.List.TakeWhile

/-!
# Owners of phones

Setting a phone takes it from nobody, so several users may have the same phone, and it belongs to
the one among them who came into the metadata first. A user who is known already keeps that place
when a phone is set. So a phone that was just set belongs to its user unless a user from before has
it too (`phone_set_belongs_to_first`), and codes for the phone go to whomever it belongs to.
-/

namespace AccountSidecar

open Account

namespace Metadata

variable {username phone : String} {e : Entry}

/-- The users who came into the metadata before a user. -/
def earlierThan (username : String) (entries : Keyed Entry) : Keyed Entry :=
  entries.takeWhile (·.1 ≠ username)

/-- The users who have a phone, in the order in which they came. -/
def holders (phone : String) (entries : Keyed Entry) : List String :=
  (List.filter (·.2.phone = phone) entries).map (·.1)

/-- A phone belongs to the first user who has it. -/
theorem ownerOfPhone_eq_headD (given : phone ≠ "") (entries : Keyed Entry) :
    ownerOfPhone phone entries = (holders phone entries).headD "" := by
  rw [ownerOfPhone, if_neg given, holders, List.headD_eq_head?_getD, List.head?_map,
    List.head?_filter]
  cases List.find? (fun e => decide (e.2.phone = phone)) entries <;> rfl

variable (username) in
/-- Once a user has a phone, those who have it start with the ones from before and this one. -/
theorem holders_put (has : e.phone = phone) (entries : Keyed Entry) :
    ∃ others, holders phone (Keyed.put username e entries) =
      holders phone (earlierThan username entries) ++ username :: others := by
  induction entries with
  | nil => exact ⟨[], by simp [Keyed.put, earlierThan, holders, has]⟩
  | cons first rest ih =>
    rw [Keyed.put, earlierThan, List.takeWhile_cons]
    by_cases own : first.1 = username
    · exact ⟨holders phone rest, by simp [own, holders, has]⟩
    · obtain ⟨others, follow⟩ := ih
      refine ⟨others, ?_⟩
      rw [if_neg own, if_pos (decide_eq_true own)]
      simp only [holders, earlierThan, List.filter_cons] at follow ⊢
      split
      · simp only [List.map_cons, follow, List.cons_append]
      · exact follow

/-- Once a user has a phone, it belongs to the first user from before who has it, or to this one. -/
theorem ownerOfPhone_put (given : phone ≠ "") (has : e.phone = phone) (entries : Keyed Entry) :
    ownerOfPhone phone (Keyed.put username e entries) =
      (holders phone (earlierThan username entries)).headD username := by
  obtain ⟨others, follow⟩ := holders_put username has entries
  rw [ownerOfPhone_eq_headD given, follow]
  cases holders phone (earlierThan username entries) <;> rfl

/-- A user does not stand among those from before. -/
theorem not_mem_holders_earlierThan (username phone : String) (entries : Keyed Entry) :
    username ∉ holders phone (earlierThan username entries) := by
  intro among
  obtain ⟨e, has, rfl⟩ := List.mem_map.mp among
  have other := List.mem_takeWhile_imp (List.mem_of_mem_filter has)
  exact of_decide_eq_true other rfl

end Metadata

open Metadata

variable {d : Deployment} {w w' : World} {username phone : String}

/-- A request for a code stores one for the user whom the phone belongs to, where text messages can
be sent. -/
theorem Operation.issuesCode_of_known (enabled : d.smsEnabled = true)
    (known : ownerOfPhone phone w.metadata ≠ "") :
    ((Operation.requestSmsReset phone).step d w).IssuesCode d phone
      (ownerOfPhone phone w.metadata) (Action.nextCode d smsCodeLength w.drawn.codeDigits) where
  operation := rfl
  owner := rfl
  stored := by
    simp only [step, perform, runIn_reply]
    exact (requestSmsReset_of_known enabled known).2
  known := known
  drawn := rfl

/-- A phone that was just set belongs to the first of the users who have it, in the order in which
they came into the metadata: to its user exactly where nobody from before has it. That stays so when
the metadata file is opened anew, whatever it held before, and a code that is requested for the
phone is issued to whomever it belongs to. -/
theorem phone_set_belongs_to_first (given : phone ≠ "")
    (done : (Action.setPhone d username phone).runIn w = (.ok (), w')) :
    let others := holders phone (earlierThan username w.metadata)
    let owner := ownerOfPhone phone w'.metadata
    owner = others.headD username ∧
    (owner = username ↔ others = []) ∧
    (w.metadata.Distinct →
      w.files.makeDirectories? d.metadataFile.parent = some w.files →
      openAt d.calls w'.files d.metadataFile = (.ok w'.metadata, w'.files)) ∧
    ∀ later : World, later.metadata = w'.metadata →
      let s := (Operation.requestSmsReset phone).step d later
      (d.smsEnabled = true → owner ≠ "" →
        s.IssuesCode d phone owner (Action.nextCode d smsCodeLength later.drawn.codeDigits)) ∧
      (owner = "" → s.after = later) := by
  intro others owner
  have performed : ((Change.setPhone username phone).perform d).runIn w = (.ok (), w') := done
  have memory : w'.metadata = (Change.setPhone username phone).applied w.metadata := by
    rw [Change.runIn_perform] at performed
    split at performed
    · exact congrArg (·.2.metadata) performed.symm
    · cases (Prod.mk.inj performed).1
  have first : owner = others.headD username :=
    (congrArg _ memory).trans (ownerOfPhone_put given rfl w.metadata)
  have apart : username ∉ others := not_mem_holders_earlierThan username phone w.metadata
  refine ⟨first, ?_, fun distinct made => (World.Mirrored.of_change distinct made performed).opens,
    fun later same => ⟨fun enabled known => ?_, fun unknown => ?_⟩⟩
  · rw [first]
    cases found : others with
    | nil => exact iff_of_true rfl rfl
    | cons other rest =>
      refine iff_of_false (fun same => apart ?_) (List.cons_ne_nil other rest)
      rw [found, ← show other = username from same]
      exact List.mem_cons_self
  · have owned : ownerOfPhone phone later.metadata = owner := congrArg _ same
    exact owned ▸ Operation.issuesCode_of_known enabled (owned ▸ known)
  · exact Operation.step_of_unknown ((congrArg _ same).trans unknown) (.inl rfl)

/-- Bob moves to a phone that carol has, who came later: the theorem where it belongs to bob. -/
theorem phone_set_belongs_to_first_moved :
    let d := Deployment.sampleTexting
    let w : World := { files := .empty, metadata := [("alice", { phone := "+2" }),
      ("bob", { phone := "+3" }), ("carol", { phone := "+1" })] }
    ∃ w', "+1" ≠ "" ∧ (Action.setPhone d "bob" "+1").runIn w = (.ok (), w') ∧
      holders "+1" (earlierThan "bob" w.metadata) = [] ∧ ownerOfPhone "+1" w'.metadata = "bob" ∧
      ((Operation.requestSmsReset "+1").step d w').IssuesCode d "+1" "bob" "000000" := by
  intro d w
  have given : "+1" ≠ "" := by decide
  have nobody : holders "+1" (earlierThan "bob" w.metadata) = [] := by decide
  obtain ⟨w', done, drawn⟩ : ∃ w', (Action.setPhone d "bob" "+1").runIn w = (.ok (), w') ∧
      w'.drawn = {} := ⟨_, rfl, rfl⟩
  obtain ⟨-, own, -, codes⟩ := phone_set_belongs_to_first given done
  have belongs : ownerOfPhone "+1" w'.metadata = "bob" := own.mpr nobody
  have issued := (codes w' rfl).1 rfl (by rw [belongs]; decide)
  have code : Action.nextCode d smsCodeLength w'.drawn.codeDigits = "000000" := by
    rw [drawn]
    decide
  rw [belongs, code] at issued
  exact ⟨w', given, done, nobody, belongs, issued⟩

/-- Bob moves to a phone that alice has, who came before: it belongs to alice, and so does the code
that is requested for it. -/
theorem phone_set_stays_with_other :
    let d := Deployment.sampleTexting
    ∃ w w', (Action.setPhone d "alice" "+1").runIn { files := .empty } = (.ok (), w) ∧
      (Action.setPhone d "bob" "+1").runIn w = (.ok (), w') ∧
      ownerOfPhone "+1" w'.metadata = "alice" ∧
      ((Operation.requestSmsReset "+1").step d w').IssuesCode d "+1" "alice" "000000" :=
  ⟨_, _, rfl, rfl, rfl, Operation.issuesCode_of_known rfl (by decide)⟩

end AccountSidecar
