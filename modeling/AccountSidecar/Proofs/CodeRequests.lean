import AccountSidecar.Proofs.Provenance
import AccountSidecar.Proofs.SingleUse
import Mathlib.Data.Set.Function

/-!
# The requests behind resets with codes

Several codes may be open for one user, with equal digits and equally old, while phones move from
one user to another. Every code of the table goes back to the request that issued it, and as long as
it is unused no reset since that request has consumed it (`codesIssued_after`). So the resets that
get past the check of their code can be told apart by the requests that they use up
(`code_resets_issued`). Identifiers need not be distinct for this: where two codes come under one
identifier the later one takes the place of the earlier one.
-/

namespace AccountSidecar

open AccountSidecar.Action Account State

variable {d : Deployment}

/-- Whether a text is a code: six decimal digits. -/
def IsSixDigits (code : String) : Prop :=
  code.length = 6 ∧ ∀ a ∈ code.toList, a.isDigit = true

namespace Step

/-- Whether an operation issued a code to the owner of a phone: with the digits that were next, and
under the identifier that was next. -/
structure IssuesCode (d : Deployment) (s : Step) (phone username code : String) : Prop extends
    StoresCode s (d.sources.identifier s.before.drawn.identifiers) phone username code where
  known : username ≠ ""
  drawn : code = nextCode d smsCodeLength s.before.drawn.codeDigits

/-- Whether a reset got past the check of its code, which was one of a user. -/
def VerifiesCode (s : Step) (username code : String) : Prop :=
  ∃ phone password, s.operation = .resetPasswordSms phone code password ∧
    newPasswordFault? password = none ∧
    ((consumeSmsCode phone code).runIn s.before).1 = .ok username

end Step

/-- A code of decimal digits reads as those digits. -/
theorem toList_nextCode (digits : ∀ n, d.sources.codeDigit n < 10) (length drawn : Nat) :
    (nextCode d length drawn).toList =
      (List.range length).map fun i => (d.sources.codeDigit (drawn + i)).digitChar := by
  have single (i : Nat) : (toString (d.sources.codeDigit (drawn + i))).toList =
      [(d.sources.codeDigit (drawn + i)).digitChar] := by
    rw [show toString (d.sources.codeDigit (drawn + i)) = _ from Nat.repr_of_lt (digits _),
      String.toList_singleton]
  rw [nextCode, String.toList_join, List.flatMap_map, List.map_eq_flatMap]
  simp only [single]

/-- Decimal digits make up a code. -/
theorem isSixDigits_nextCode (digits : ∀ n, d.sources.codeDigit n < 10) (drawn : Nat) :
    IsSixDigits (nextCode d smsCodeLength drawn) := by
  have reads := toList_nextCode digits smsCodeLength drawn
  have digit : ∀ n < 10, n.digitChar.isDigit = true := by decide
  constructor
  · rw [← String.length_toList, reads, List.length_map, List.length_range]
    rfl
  · intro a inside
    rw [reads] at inside
    obtain ⟨i, -, rfl⟩ := List.mem_map.mp inside
    exact digit _ (digits _)

/-- Whether an operation issued a record of the table and none since then has consumed it, should it
be unused. -/
structure IssuedBy (d : Deployment) (request : Step) (since : List Step) (e : String × SmsCode) :
    Prop where
  issues : ∃ phone, request.IssuesCode d phone e.2.username e.2.code
  identified : e.1 = d.sources.identifier request.before.drawn.identifiers
  expires : e.2.expiresAt = request.before.clock + smsCodeTtl
  unconsumed : e.2.used = false → ∀ s ∈ since, ¬ s.ConsumesCode e.1

/-- A record stays issued by the same operation after one that does not consume it unused. -/
theorem IssuedBy.snoc {request : Step} {since : List Step} {e : String × SmsCode}
    (holds : IssuedBy d request since e) {s : Step}
    (unconsumed : e.2.used = false → ¬ s.ConsumesCode e.1) :
    IssuedBy d request (since ++ [s]) e where
  issues := holds.issues
  identified := holds.identified
  expires := holds.expires
  unconsumed unused s' among := by
    rcases List.mem_append.mp among with among | among
    · exact holds.unconsumed unused s' among
    · exact List.mem_singleton.mp among ▸ unconsumed unused

/-- A record that is marked was issued by the same operation. -/
theorem IssuedBy.marked {request : Step} {since : List Step} {id : String} {c : SmsCode}
    (holds : IssuedBy d request since (id, c)) (s : Step) :
    IssuedBy d request (since ++ [s]) (id, { c with used := true }) where
  issues := holds.issues
  identified := holds.identified
  expires := holds.expires
  unconsumed unused := by cases unused

/-- Whether every code of the tables was issued by an earlier operation. -/
structure CodesIssued (d : Deployment) (earlier : List Step) (w : World) : Prop where
  distinct : w.tables.smsCodes.Distinct
  issued : ∀ e ∈ w.tables.smsCodes, ∃ before request since,
    earlier = before ++ request :: since ∧ IssuedBy d request since e

namespace CodesIssued

variable {earlier : List Step} {w : World}

/-- Without codes there is nothing to account for. -/
theorem of_empty (d : Deployment) (empty : w.tables = {}) : CodesIssued d [] w := by
  constructor <;> rw [empty]
  · exact List.nodup_nil
  · intro e inside
    cases inside

/-- A code that is left unused was not consumed. -/
theorem not_consumesCode {s : Step} (distinct : s.after.tables.smsCodes.Distinct)
    {e : String × SmsCode} (inside : e ∈ s.after.tables.smsCodes) (unused : e.2.used = false) :
    ¬ s.ConsumesCode e.1 := by
  rintro ⟨_, _, _, c, -, -, -, marked⟩
  have found : Keyed.find? e.1 s.after.tables.smsCodes = some e.2 :=
    Keyed.find?_of_mem distinct inside
  rw [found] at marked
  rw [Option.some.inj marked] at unused
  cases unused

/-- An operation leaves codes that were issued. -/
theorem step (op : Operation) (holds : CodesIssued d earlier w) :
    CodesIssued d (earlier ++ [op.step d w]) (op.step d w).after := by
  have change : CodesStep d w (op.step d w).after op := op.perform_codes w
  have distinct : (op.step d w).after.tables.smsCodes.Distinct :=
    holds.distinct.move change.move
  refine ⟨distinct, fun e inside => ?_⟩
  -- A record from before keeps its request: had this operation consumed it, it would be used now.
  have old (there : e ∈ w.tables.smsCodes) : ∃ before request since,
      earlier ++ [op.step d w] = before ++ request :: since ∧ IssuedBy d request since e := by
    obtain ⟨before, request, since, rfl, issued⟩ := holds.issued e there
    exact ⟨before, request, since ++ [op.step d w], List.append_assoc ..,
      issued.snoc fun unused => not_consumesCode distinct inside unused⟩
  generalize reached : (op.step d w).after = w' at change inside
  cases change with
  | kept same => exact old (same ▸ inside)
  | stored known drawn put =>
    rw [put] at inside
    rcases Keyed.mem_put inside with rfl | there
    · exact ⟨earlier, _, [], rfl, ⟨_, ⟨rfl, rfl, reached ▸ put⟩, known, rfl⟩, rfl, rfl,
        fun _ s among => absurd among List.not_mem_nil⟩
    · exact old there
  | consumed used marked =>
    obtain ⟨id, c, found, -, -, -, -, rfl⟩ := State.Tables.consumeSmsCode_eq_ok used
    rw [marked] at inside
    rcases Keyed.mem_put inside with rfl | there
    · obtain ⟨before, request, since, rfl, issued⟩ := holds.issued _ found
      exact ⟨before, request, since ++ [_], List.append_assoc .., issued.marked _⟩
    · exact old there
  | purged dropped =>
    rw [dropped] at inside
    exact old (List.mem_of_mem_filter inside)

end CodesIssued

/-- In a run from empty tables every code was issued by an earlier operation. -/
theorem World.codesIssued_after {start : World} (empty : start.tables = {}) (events : List Event) :
    CodesIssued d (start.steps d events) (start.after d events) :=
  run_induction (.of_empty d empty) (fun _ _ op holds => holds.step op)
    (fun _ _ _ _ _ holds => ⟨holds.distinct, holds.issued⟩) events

/-- A reset that gets past the check of its code consumes one of the user that the phone belongs
to, within its time. -/
theorem Step.VerifiesCode.consumes {s : Step} {username code : String}
    (performed : s = s.operation.step d s.before) (verifies : s.VerifiesCode username code)
    (distinct : s.before.tables.smsCodes.Distinct) :
    ∃ id c, (id, c) ∈ s.before.tables.smsCodes ∧ c.username = username ∧ c.code = code ∧
      c.used = false ∧ s.before.clock ≤ c.expiresAt ∧ s.ConsumesCode id := by
  obtain ⟨phone, password, asked, taken, checked⟩ := verifies
  rw [runIn_consumeSmsCode] at checked
  cases used : s.before.tables.consumeSmsCode (Metadata.ownerOfPhone phone s.before.metadata) code
      s.before.clock with
  | error e =>
    rw [used] at checked
    cases checked
  | ok t =>
    rw [used] at checked
    obtain ⟨id, c, found, own, same, unused, inTime, marked⟩ :=
      State.Tables.consumeSmsCode_eq_ok used
    have after : s.after.tables = t := by
      rw [performed, asked]
      simp only [Operation.step, Operation.perform, Operation.runIn_reply, runIn_resetPasswordSms,
        taken, used, tables_of_setPasswordOf]
    refine ⟨id, c, found, own.trans (Except.ok.inj checked), same, unused,
      by simpa [SmsCode.isExpired] using inTime, phone, code, password, c, asked,
      Keyed.find?_of_mem distinct found, unused, ?_⟩
    rw [after, marked]
    exact Keyed.find?_put_self id _ _

/-- Whether a reset uses up the code of an earlier request: one for the same user with the same
digits, within its time, and as the first to consume it. -/
structure UsesRequest (d : Deployment) (steps : List Step) (username code : String)
    (request reset : Nat) (r s : Step) : Prop where
  sooner : request < reset
  requested : steps[request]? = some r
  there : steps[reset]? = some s
  issues : ∃ phone, r.IssuesCode d phone username code
  inTime : s.before.clock ≤ r.before.clock + smsCodeTtl
  consumes : s.ConsumesCode (d.sources.identifier r.before.drawn.identifiers)
  first : ∀ between s', request < between → between < reset → steps[between]? = some s' →
    ¬ s'.ConsumesCode (d.sources.identifier r.before.drawn.identifiers)

/-- A reset behind another one does not use up the same request. -/
theorem UsesRequest.not_lt {steps : List Step} {username username' code code' : String}
    {request reset reset' : Nat} {r r' s s' : Step}
    (uses : UsesRequest d steps username code request reset r s)
    (uses' : UsesRequest d steps username' code' request reset' r' s') : ¬ reset < reset' := by
  intro later
  obtain rfl := Option.some.inj (uses.requested.symm.trans uses'.requested)
  exact uses'.first reset s uses.sooner later uses.there uses.consumes

/-- A reset that gets past the check of its code uses up that of an earlier request. -/
theorem World.exists_usesRequest {start : World} (empty : start.tables = {}) {events : List Event}
    {reset : Nat} {s : Step} {username code : String}
    (there : (start.steps d events)[reset]? = some s) (verifies : s.VerifiesCode username code) :
    ∃ request r, UsesRequest d (start.steps d events) username code request reset r s := by
  obtain ⟨below, own⟩ := List.getElem?_eq_some_iff.mp there
  generalize taken : (start.steps d events).take reset = earlier
  have split : start.steps d events = earlier ++ s :: (start.steps d events).drop (reset + 1) := by
    rw [← taken, ← own, ← List.drop_eq_getElem_cons below, List.take_append_drop]
  have length : earlier.length = reset := by
    rw [← taken, List.length_take_of_le (Nat.le_of_lt below)]
  obtain ⟨before, steps, performed⟩ := exists_events_before split
  have world : s.before = start.after d before := congrArg Step.before performed
  have issued := codesIssued_after (d := d) empty before
  rw [steps, ← world] at issued
  obtain ⟨id, c, found, rfl, rfl, unused, inTime, consumes⟩ :=
    verifies.consumes (d := d) (world ▸ performed) issued.distinct
  obtain ⟨older, r, since, rfl, issuedBy⟩ := issued.issued _ found
  have shared (i : Nat) (sooner : i < reset) :
      (start.steps d events)[i]? = (older ++ r :: since)[i]? := by
    rw [split, List.getElem?_append_left (length ▸ sooner)]
  rw [List.length_append, List.length_cons] at length
  have identified : id = _ := issuedBy.identified
  refine ⟨older.length, r, by omega, ?_, there, issuedBy.issues, issuedBy.expires ▸ inTime,
    identified ▸ consumes, fun between s' later sooner among => ?_⟩
  · rw [shared _ (by omega), List.getElem?_append_right (Nat.le_refl _), Nat.sub_self]
    rfl
  · rw [shared between sooner, List.getElem?_append_right (Nat.le_of_lt later),
      List.getElem?_cons, if_neg (by omega)] at among
    exact identified ▸ issuedBy.unconsumed unused s' (List.mem_of_getElem? among)

/-- A reset checks one code of one user. -/
theorem Step.VerifiesCode.unique {s : Step} {username username' code code' : String}
    (verifies : s.VerifiesCode username code) (verifies' : s.VerifiesCode username' code') :
    username = username' ∧ code = code' := by
  obtain ⟨phone, password, asked, -, checked⟩ := verifies
  obtain ⟨phone', password', asked', -, checked'⟩ := verifies'
  obtain ⟨rfl, rfl, rfl⟩ := Operation.resetPasswordSms.inj (asked.symm.trans asked')
  exact ⟨Except.ok.inj (checked.symm.trans checked'), rfl⟩

/-- A request for a phone that belongs to nobody, and a reset with a code for one, changes
nothing. -/
theorem Operation.step_of_unknown {w : World} {op : Operation} {phone : String}
    (unknown : Metadata.ownerOfPhone phone w.metadata = "")
    (asked : op = .requestSmsReset phone ∨
      ∃ code password, op = .resetPasswordSms phone code password) :
    (op.step d w).after = w := by
  rcases asked with rfl | ⟨code, password, rfl⟩
  · simp only [step, perform, runIn_reply, requestSmsReset_of_unknown unknown]
  · have refused : w.tables.consumeSmsCode "" code w.clock = .error (.of .noSuchPhone) := rfl
    simp only [step, perform, runIn_reply, runIn_resetPasswordSms, unknown, refused]
    cases newPasswordFault? password <;> rfl

/-- The resets that get past the check of their code use up one request each: an earlier one that
issued the same digits to the same user, no longer ago than a code lasts. Requests and resets for a
phone that belongs to nobody change nothing. -/
theorem code_resets_issued (digits : ∀ n, d.sources.codeDigit n < 10) {start : World}
    (empty : start.tables = {}) (events : List Event) :
    let steps := start.steps d events
    (∃ request : Nat → Nat,
      Set.InjOn request
        {reset | ∃ s username code, steps[reset]? = some s ∧ s.VerifiesCode username code} ∧
      ∀ reset s username code, steps[reset]? = some s → s.VerifiesCode username code →
        request reset < reset ∧ IsSixDigits code ∧ ∃ r phone, steps[request reset]? = some r ∧
          r.IssuesCode d phone username code ∧
          s.before.clock ≤ r.before.clock + smsCodeTtl) ∧
    ∀ s ∈ steps, ∀ phone, Metadata.ownerOfPhone phone s.before.metadata = "" →
      (s.operation = .requestSmsReset phone ∨
        ∃ code password, s.operation = .resetPasswordSms phone code password) →
      s.after = s.before := by
  intro steps
  refine ⟨?_, fun s among phone unknown asked => ?_⟩
  · have uses (reset : Nat) : ∃ request, ∀ s username code, steps[reset]? = some s →
        s.VerifiesCode username code →
          ∃ r, UsesRequest d steps username code request reset r s := by
      by_cases verifying : ∃ s username code, steps[reset]? = some s ∧ s.VerifiesCode username code
      · obtain ⟨s, username, code, there, verifies⟩ := verifying
        obtain ⟨request, r, uses⟩ := World.exists_usesRequest empty there verifies
        refine ⟨request, fun s' username' code' there' verifies' => ?_⟩
        obtain rfl := Option.some.inj (there.symm.trans there')
        obtain ⟨rfl, rfl⟩ := verifies.unique verifies'
        exact ⟨r, uses⟩
      · exact ⟨0, fun s username code there verifies =>
          absurd ⟨s, username, code, there, verifies⟩ verifying⟩
    choose request uses using uses
    refine ⟨request, ?_, fun reset s username code there verifies => ?_⟩
    · rintro i ⟨s, username, code, there, verifies⟩ j ⟨s', username', code', there', verifies'⟩ same
      obtain ⟨r, first⟩ := uses i s username code there verifies
      obtain ⟨r', second⟩ := uses j s' username' code' there' verifies'
      rw [← same] at second
      exact Nat.le_antisymm (Nat.le_of_not_lt (second.not_lt first))
        (Nat.le_of_not_lt (first.not_lt second))
    · obtain ⟨r, uses⟩ := uses reset s username code there verifies
      obtain ⟨phone, issues⟩ := uses.issues
      exact ⟨uses.sooner, issues.drawn ▸ isSixDigits_nextCode digits _, r, phone, uses.requested,
        issues, uses.inTime⟩
  · rw [World.eq_step_of_mem among]
    exact Operation.step_of_unknown unknown asked

/-- The sample deployment with text messages. -/
def Deployment.sampleTexting : Deployment := { Deployment.sample false with smsEnabled := true }

/-- A world in which alice has a phone, but no credentials. -/
def World.sampleTexting : World where
  files := .empty
  metadata := [("alice", { phone := "+1" })]

/-- Two codes with the same digits were sent at the same time to one user: two resets with them use
up two requests. -/
theorem code_resets_issued_twins :
    let reset := Event.operation (.resetPasswordSms "+1" "000000" "pw")
    let steps := World.sampleTexting.steps .sampleTexting
      [.operation (.requestSmsReset "+1"), .operation (.requestSmsReset "+1"), reset, reset]
    ∃ s s' : Step, steps[2]? = some s ∧ s.VerifiesCode "alice" "000000" ∧
      steps[3]? = some s' ∧ s'.VerifiesCode "alice" "000000" ∧
      ∃ request request' : Nat, request ≠ request' ∧ ∃ r r' : Step,
        steps[request]? = some r ∧ (∃ phone, r.IssuesCode .sampleTexting phone "alice" "000000") ∧
        steps[request']? = some r' ∧
          ∃ phone, r'.IssuesCode .sampleTexting phone "alice" "000000" := by
  intro reset steps
  obtain ⟨s, there, verifies⟩ : ∃ s, steps[2]? = some s ∧ s.VerifiesCode "alice" "000000" :=
    ⟨_, rfl, "+1", "pw", rfl, by decide, rfl⟩
  obtain ⟨s', there', verifies'⟩ : ∃ s, steps[3]? = some s ∧ s.VerifiesCode "alice" "000000" :=
    ⟨_, rfl, "+1", "pw", rfl, by decide, rfl⟩
  obtain ⟨⟨request, distinct, issued⟩, -⟩ :=
    code_resets_issued (d := .sampleTexting) (fun _ => (by decide : 0 < 10))
      (rfl : World.sampleTexting.tables = {})
      [.operation (.requestSmsReset "+1"), .operation (.requestSmsReset "+1"), reset, reset]
  obtain ⟨-, -, r, phone, requested, issues, -⟩ := issued 2 s "alice" "000000" there verifies
  obtain ⟨-, -, r', phone', requested', issues', -⟩ := issued 3 s' "alice" "000000" there' verifies'
  refine ⟨s, s', there, verifies, there', verifies', request 2, request 3, fun same => ?_, r, r',
    requested, ⟨phone, issues⟩, requested', phone', issues'⟩
  have equal : 2 = 3 := distinct ⟨s, _, _, there, verifies⟩ ⟨s', _, _, there', verifies'⟩ same
  cases equal

end AccountSidecar
