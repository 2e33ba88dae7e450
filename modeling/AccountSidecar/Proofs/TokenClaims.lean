import AccountSidecar.Proofs.Tables

/-!
# Claims of reset tokens

Any number of clients share the tables. Each step on the reset tokens is carried out under the lock
of their table, so a run is an order of such steps, in which a client decides by the answers that it
got so far (`play`). A claim is meant to be exclusive until it is released. What carries this
through every order is a count (`Accounted`): since a token was created its granted claims are at
most one more than its releases, and no more than these while an unused row stands under it. Marking
and purging may come between a claim and its release; they only take a row away from claims
(`claims_exclusive`).
-/

namespace AccountSidecar.State

/-- A step of a client on the reset tokens. -/
inductive TokenCall where
  | create (token username : String) (expiresAt : Int)
  | get (token : String)
  | markUsed (token : String)
  | claim (token : String) (now : Int)
  | release (token : String)
  | purge (now : Int)
  deriving DecidableEq, Repr

/-- What a step answers. -/
inductive TokenAnswer where
  | done
  | row (found : Option ResetToken)
  | claimed (username : String)
  | refused (reason : AccountError)
  | dropped (count : Nat)
  deriving DecidableEq, Repr

namespace TokenCall

/-- Carries out a step: its answer and the tables afterwards. -/
def perform (t : Tables) : TokenCall → TokenAnswer × Tables
  | create token username expiresAt => (.done, t.createResetToken token username expiresAt)
  | get token => (.row (t.resetToken? token), t)
  | markUsed token => (.done, t.setResetTokenUsed token true)
  | claim token now =>
    match t.claimResetToken token now with
    | .ok (username, t') => (.claimed username, t')
    | .error reason => (.refused reason, t)
  | release token => (.done, t.releaseResetToken token)
  | purge now =>
    let (t', count) := t.purgeExpired now
    (.dropped count, t')

/-- The username and the expiry that a step creates a token with, if it does. -/
def created? (token : String) : TokenCall → Option (String × Int)
  | create other username expiresAt => if other = token then some (username, expiresAt) else none
  | _ => none

/-- A claim goes through where an unused row within its time stands under the token, and marks it
used; anywhere else it is refused and leaves the tables as they are. -/
theorem perform_claim_cases (t : Tables) (token : String) (now : Int) :
    (∃ r, Keyed.find? token t.resetTokens = some r ∧ r.used = false ∧ now ≤ r.expiresAt ∧
      (claim token now).perform t = (.claimed r.username,
        { t with resetTokens := Keyed.put token { r with used := true } t.resetTokens })) ∨
    ((∀ r, Keyed.find? token t.resetTokens = some r → r.used = true ∨ r.expiresAt < now) ∧
      ∃ reason, (claim token now).perform t = (.refused reason, t)) := by
  cases claimed : t.claimResetToken token now with
  | ok claim =>
    obtain ⟨username, t'⟩ := claim
    obtain ⟨r, found, unused, inTime, rfl, rfl⟩ := Tables.claimResetToken_eq_ok claimed
    exact .inl ⟨r, found, unused, by simpa [ResetToken.isExpired] using inTime,
      by rw [perform, claimed]⟩
  | error reason =>
    refine .inr ⟨fun r found => ?_, reason, by rw [perform, claimed]⟩
    unfold Tables.claimResetToken Tables.resetToken? at claimed
    rw [found] at claimed
    by_contra fit
    obtain ⟨unused, inTime⟩ := not_or.mp fit
    simp [unused, ResetToken.isExpired, inTime] at claimed

end TokenCall

/-- A step that was carried out: whose it was, and what it came to. -/
structure Turn (ι : Type) where
  client : ι
  before : Tables
  call : TokenCall
  answer : TokenAnswer
  after : Tables

variable {ι : Type}

/-- A client carries out a step. -/
def TokenCall.turn (i : ι) (t : Tables) (call : TokenCall) : Turn ι :=
  ⟨i, t, call, (call.perform t).1, (call.perform t).2⟩

/-- The next step of a client by the answers that it got so far, or none once it is done. -/
abbrev Client := List TokenAnswer → Option TokenCall

/-- The answers that a client got. -/
def answersTo [DecidableEq ι] (i : ι) (past : List (Turn ι)) : List TokenAnswer :=
  (past.filter fun s => s.client = i).map Turn.answer

/-- Goes on from earlier turns with clients that have their turn in the order of a schedule. -/
def playFrom [DecidableEq ι] (clients : ι → Client) (past : List (Turn ι)) (t : Tables) :
    List ι → List (Turn ι)
  | [] => past
  | i :: rest =>
    match clients i (answersTo i past) with
    | none => playFrom clients past t rest
    | some call => playFrom clients (past ++ [call.turn i t]) (call.perform t).2 rest

/-- The turns of clients on fresh tables, oldest first. -/
def play [DecidableEq ι] (clients : ι → Client) (schedule : List ι) : List (Turn ι) :=
  playFrom clients [] {} schedule

namespace Turn

/-- Whether the turn is a claim of the token that went through. -/
def grants (token : String) (s : Turn ι) : Bool :=
  match s.call, s.answer with
  | .claim other _, .claimed _ => other = token
  | _, _ => false

/-- Whether the turn releases the token. -/
def releases (token : String) (s : Turn ι) : Bool := s.call = .release token

/-- Whether the turn takes a token away from later claims: a claim that went through, a marking, or
a purge after its expiry. -/
def UsesUp (token : String) (expiresAt : Int) (s : Turn ι) : Prop :=
  s.grants token = true ∨ s.call = .markUsed token ∨ ∃ now, s.call = .purge now ∧ expiresAt < now

end Turn

/-- The username and the expiry that a token was last created with. -/
def creation? (token : String) (past : List (Turn ι)) : Option (String × Int) :=
  past.reverse.findSome? fun s => s.call.created? token

/-- The turns since a token was last created, newest first; all of them where it never was. -/
def sinceCreation (token : String) (past : List (Turn ι)) : List (Turn ι) :=
  past.reverse.takeWhile fun s => (s.call.created? token).isNone

/-- How many claims of a token went through since it was last created. -/
def granted (token : String) (past : List (Turn ι)) : Nat :=
  (sinceCreation token past).countP (·.grants token)

/-- How often a token was released since it was last created. -/
def released (token : String) (past : List (Turn ι)) : Nat :=
  (sinceCreation token past).countP (·.releases token)

/-- Turns that start from fresh tables and end in the given ones, each where the one before it
ended. -/
inductive LeadsTo : List (Turn ι) → Tables → Prop
  | start : LeadsTo [] {}
  | next {past : List (Turn ι)} {t : Tables} (earlier : LeadsTo past t) (i : ι)
      (call : TokenCall) : LeadsTo (past ++ [call.turn i t]) (call.perform t).2

section Runs

variable {past rest : List (Turn ι)} {s : Turn ι} {t : Tables}

/-- What clients play leads from fresh tables to some. -/
theorem LeadsTo.playFrom [DecidableEq ι] (clients : ι → Client) (schedule : List ι)
    (earlier : LeadsTo past t) : ∃ t', LeadsTo (playFrom clients past t schedule) t' := by
  induction schedule generalizing past t with
  | nil => exact ⟨t, earlier⟩
  | cons i rest ih =>
    rw [State.playFrom]
    cases clients i (answersTo i past) with
    | none => exact ih earlier
    | some call => exact ih (earlier.next i call)

/-- Each turn was carried out on the tables that the turns before it lead to. -/
theorem LeadsTo.exists_before {turns : List (Turn ι)} (run : LeadsTo turns t)
    (split : turns = past ++ s :: rest) : ∃ t', LeadsTo past t' ∧ s = s.call.turn s.client t' := by
  induction run generalizing rest with
  | start => cases past <;> cases split
  | @next earlier t' before i call ih =>
    rcases List.eq_nil_or_concat rest with rfl | ⟨others, last, rfl⟩
    · obtain ⟨rfl, same⟩ := List.append_inj' split rfl
      obtain rfl := (List.cons.inj same).1
      exact ⟨t', before, rfl⟩
    · rw [List.concat_eq_append, ← List.cons_append, ← List.append_assoc] at split
      exact ih (List.append_inj' split rfl).1

/-- Turns lead to tables at every point of a run. -/
theorem LeadsTo.exists_of_prefix {turns : List (Turn ι)} (run : LeadsTo turns t)
    (split : turns = past ++ rest) : ∃ t', LeadsTo past t' := by
  cases rest with
  | nil =>
    rw [List.append_nil] at split
    exact ⟨t, split ▸ run⟩
  | cons s rest =>
    obtain ⟨t', before, -⟩ := run.exists_before split
    exact ⟨t', before⟩

/-- A token that was just created has this creation, and any other turn leaves the one before. -/
theorem creation?_snoc (token : String) (past : List (Turn ι)) (s : Turn ι) :
    creation? token (past ++ [s]) = (s.call.created? token).or (creation? token past) := by
  unfold creation?
  rw [List.reverse_append, List.reverse_singleton, List.singleton_append, List.findSome?_cons]
  cases s.call.created? token <;> rfl

/-- The turns since a creation start anew with it, and any other turn joins them. -/
theorem sinceCreation_snoc (token : String) (past : List (Turn ι)) (s : Turn ι) :
    sinceCreation token (past ++ [s]) =
      if (s.call.created? token).isNone then s :: sinceCreation token past else [] := by
  unfold sinceCreation
  rw [List.reverse_append, List.reverse_singleton, List.singleton_append, List.takeWhile_cons]

/-- The tables of a run have each token once. -/
theorem LeadsTo.distinct (run : LeadsTo past t) : t.resetTokens.Distinct := by
  induction run with
  | start => exact List.nodup_nil
  | @next past t earlier i call ih =>
    cases call with
    | create token username expiresAt => exact ih.put token _
    | get token => exact ih
    | markUsed token => exact ih.update token _
    | claim token now =>
      rcases TokenCall.perform_claim_cases t token now with
        ⟨r, -, -, -, answered⟩ | ⟨-, reason, answered⟩ <;> rw [answered]
      · exact ih.put token _
      · exact ih
    | release token => exact ih.update token _
    | purge now => exact ih.filter _

end Runs

/-- What a turn does to the row under a token. -/
inductive RowStep (token : String) (s : Turn ι) (row : Option ResetToken) :
    Option ResetToken → Prop
  | created {username : String} {expiresAt : Int}
      (asked : s.call = .create token username expiresAt) :
      RowStep token s row (some { username, expiresAt })
  | marked (asked : s.call = .markUsed token) :
      RowStep token s row (row.map ({ · with used := true }))
  | claimed {now : Int} {r : ResetToken} (asked : s.call = .claim token now)
      (answered : s.answer = .claimed r.username) (stands : row = some r)
      (unused : r.used = false) (inTime : now ≤ r.expiresAt) :
      RowStep token s row (some { r with used := true })
  | released (asked : s.call = .release token) :
      RowStep token s row (row.map ({ · with used := false }))
  | purged {now : Int} (asked : s.call = .purge now) :
      RowStep token s row (row.filter fun r => !(r.used || r.isExpired now))
  | kept (uncreated : s.call.created? token = none) (ungranted : s.grants token = false)
      (unreleased : s.releases token = false) : RowStep token s row row

/-- Every turn is a step of the row under each token. -/
theorem rowStep_turn {t : Tables} (distinct : t.resetTokens.Distinct) (token : String) (i : ι)
    (call : TokenCall) :
    RowStep token (call.turn i t) (Keyed.find? token t.resetTokens)
      (Keyed.find? token (call.perform t).2.resetTokens) := by
  cases call with
  | create other username expiresAt =>
    by_cases own : other = token
    · rw [own]
      change RowStep _ _ _ (Keyed.find? token (Keyed.put token _ _))
      rw [Keyed.find?_put_self]
      exact .created rfl
    · change RowStep _ _ _ (Keyed.find? token (Keyed.put other _ _))
      rw [Keyed.find?_put_of_ne (Ne.symm own)]
      exact .kept (if_neg own) rfl rfl
  | get other => exact .kept rfl rfl rfl
  | markUsed other =>
    change RowStep _ _ _ (Keyed.find? token (Keyed.update other _ _))
    rw [Keyed.find?_update]
    by_cases own : token = other
    · rw [if_pos own, ← own]
      exact .marked rfl
    · rw [if_neg own]
      exact .kept rfl rfl rfl
  | claim other now =>
    rcases TokenCall.perform_claim_cases t other now with
      ⟨r, found, unused, inTime, answered⟩ | ⟨-, reason, answered⟩
    · rw [answered]
      by_cases own : other = token
      · subst own
        rw [Keyed.find?_put_self]
        exact .claimed rfl (congrArg Prod.fst answered) found unused inTime
      · rw [Keyed.find?_put_of_ne (Ne.symm own)]
        exact .kept rfl (by simp [TokenCall.turn, Turn.grants, answered, own]) rfl
    · rw [answered]
      exact .kept rfl (by simp [TokenCall.turn, Turn.grants, answered]) rfl
  | release other =>
    change RowStep _ _ _ (Keyed.find? token (Keyed.update other _ _))
    rw [Keyed.find?_update]
    by_cases own : token = other
    · rw [if_pos own, ← own]
      exact .released rfl
    · rw [if_neg own]
      exact .kept rfl rfl (by simp [TokenCall.turn, Turn.releases, Ne.symm own])
  | purge now =>
    change RowStep _ _ _ (Keyed.find? token (t.resetTokens.filter _))
    rw [Keyed.find?_filter distinct fun r => !(r.used || r.isExpired now)]
    exact .purged rfl

/-- The account of a token over earlier turns, with the row that stands under it: its granted claims
are at most one more than its releases, and no more than these while the row is unused; the row is
that of its last creation, and stands unused until a turn uses it up. -/
structure Accounted (token : String) (past : List (Turn ι)) (row : Option ResetToken) : Prop where
  balance : granted token past ≤ released token past + 1
  created : ∀ r, row = some r → creation? token past = some (r.username, r.expiresAt)
  unused : ∀ r, row = some r → r.used = false → granted token past ≤ released token past
  fresh : ∀ username expiresAt, creation? token past = some (username, expiresAt) →
    (∀ s ∈ sinceCreation token past, ¬ s.UsesUp token expiresAt) →
    row = some { username, expiresAt }

namespace Accounted

variable {token : String} {past : List (Turn ι)} {s : Turn ι} {row row' : Option ResetToken}

/-- At the start nothing was created and no row stands. -/
theorem start (token : String) : Accounted token ([] : List (Turn ι)) none where
  balance := Nat.zero_le _
  created _ stands := nomatch stands
  unused _ stands := nomatch stands
  fresh _ _ created := nomatch created

/-- A creation opens a new account. -/
theorem of_created {username : String} {expiresAt : Int}
    (created : s.call.created? token = some (username, expiresAt)) (past : List (Turn ι)) :
    Accounted token (past ++ [s]) (some { username, expiresAt }) := by
  have none : sinceCreation token (past ++ [s]) = [] := by
    rw [sinceCreation_snoc, created]
    rfl
  have last : creation? token (past ++ [s]) = some (username, expiresAt) := by
    rw [creation?_snoc, created]
    rfl
  have ungranted : granted token (past ++ [s]) = 0 := by
    rw [granted, none]
    rfl
  refine ⟨by omega, fun r stands => ?_, fun r _ _ => by omega, fun username' expiresAt' own _ => ?_⟩
  · obtain rfl := Option.some.inj stands
    exact last
  · obtain ⟨rfl, rfl⟩ := Prod.mk.inj (Option.some.inj (last.symm.trans own))
    rfl

/-- A turn that does not create the token goes on with its account: where it grants a claim the row
was unused, a row keeps its username and its expiry, and one that was not used up stays. -/
theorem go_on (account : Accounted token past row) (uncreated : s.call.created? token = none)
    (spare : s.grants token = true → granted token past ≤ released token past)
    (origin : ∀ r', row' = some r' →
      ∃ r, row = some r ∧ r'.username = r.username ∧ r'.expiresAt = r.expiresAt ∧
        (r'.used = false → s.grants token = false ∧
          (r.used = false ∨ s.releases token = true)))
    (kept : ∀ r : ResetToken, r.used = false → ¬ s.UsesUp token r.expiresAt → row = some r →
      row' = some r) :
    Accounted token (past ++ [s]) row' := by
  have last : creation? token (past ++ [s]) = creation? token past := by
    rw [creation?_snoc, uncreated, Option.none_or]
  have since : sinceCreation token (past ++ [s]) = s :: sinceCreation token past := by
    rw [sinceCreation_snoc, uncreated]
    rfl
  have grants : granted token (past ++ [s]) =
      granted token past + if s.grants token then 1 else 0 := by
    rw [granted, since]
    exact List.countP_cons
  have releases : released token (past ++ [s]) =
      released token past + if s.releases token then 1 else 0 := by
    rw [released, since]
    exact List.countP_cons
  have balance := account.balance
  refine ⟨?_, fun r' stands => ?_, fun r' stands unused => ?_,
    fun username expiresAt own left => ?_⟩
  · rw [grants, releases]
    split
    · -- A granted claim found an unused row, and so there was room for it.
      rename_i granting
      have room := spare granting
      omega
    · omega
  · obtain ⟨r, stood, username, expiresAt, -⟩ := origin r' stands
    rw [last, account.created r stood, username, expiresAt]
  · obtain ⟨r, stood, -, -, opened⟩ := origin r' stands
    obtain ⟨ungranted, cause⟩ := opened unused
    rw [grants, releases, ungranted, if_neg Bool.false_ne_true]
    rcases cause with unused | releasing
    · have room := account.unused r stood unused
      omega
    · rw [releasing, if_pos rfl]
      exact balance
  · rw [last] at own
    rw [since] at left
    obtain ⟨spared, earlier⟩ := List.forall_mem_cons.mp left
    exact kept _ rfl spared (account.fresh username expiresAt own earlier)

/-- Every step of the row keeps the account. -/
theorem step (account : Accounted token past row) (step : RowStep token s row row') :
    Accounted token (past ++ [s]) row' := by
  cases step with
  | created asked => exact of_created (by rw [asked]; exact if_pos rfl) past
  | marked asked =>
    have ungranted : s.grants token = false := by simp [Turn.grants, asked]
    refine account.go_on (by rw [asked]; rfl) (by simp [ungranted]) (fun r' stands => ?_)
      fun r _ spared _ => absurd (.inr (.inl asked)) spared
    obtain ⟨r, stood, rfl⟩ := Option.map_eq_some_iff.mp stands
    exact ⟨r, stood, rfl, rfl, fun unused => nomatch unused⟩
  | @claimed now r asked answered stood unused inTime =>
    have granting : s.grants token = true := by simp [Turn.grants, asked, answered]
    refine account.go_on (by rw [asked]; rfl) (fun _ => account.unused r stood unused)
      (fun r' stands => ?_) fun r _ spared _ => absurd (.inl granting) spared
    obtain rfl := Option.some.inj stands
    exact ⟨r, stood, rfl, rfl, fun unused => nomatch unused⟩
  | released asked =>
    have ungranted : s.grants token = false := by simp [Turn.grants, asked]
    have releasing : s.releases token = true := by simp [Turn.releases, asked]
    refine account.go_on (by rw [asked]; rfl) (by simp [ungranted]) (fun r' stands => ?_)
      fun r unused _ stood => ?_
    · obtain ⟨r, stood, rfl⟩ := Option.map_eq_some_iff.mp stands
      exact ⟨r, stood, rfl, rfl, fun _ => ⟨ungranted, .inr releasing⟩⟩
    · rw [stood, Option.map_some, ← unused]
  | @purged now asked =>
    have ungranted : s.grants token = false := by simp [Turn.grants, asked]
    refine account.go_on (by rw [asked]; rfl) (by simp [ungranted]) (fun r stands => ?_)
      fun r unused spared stood => ?_
    · obtain ⟨stood, -⟩ := Option.filter_eq_some_iff.mp stands
      exact ⟨r, stood, rfl, rfl, fun unused => ⟨ungranted, .inl unused⟩⟩
    · have inTime : ¬ r.expiresAt < now := fun late => spared (.inr (.inr ⟨now, asked, late⟩))
      rw [stood]
      simp [Option.filter, unused, ResetToken.isExpired, inTime]
  | kept uncreated ungranted unreleased =>
    exact account.go_on uncreated (by simp [ungranted])
      (fun r stood => ⟨r, stood, rfl, rfl, fun unused => ⟨ungranted, .inl unused⟩⟩)
      fun r _ _ stood => stood

end Accounted

/-- Through every run the account of each token is kept. -/
theorem LeadsTo.accounted {past : List (Turn ι)} {t : Tables} (run : LeadsTo past t)
    (token : String) : Accounted token past (Keyed.find? token t.resetTokens) := by
  induction run with
  | start => exact .start token
  | next earlier i call ih => exact ih.step (rowStep_turn earlier.distinct token i call)

/-- Claims of a reset token are exclusive, for any clients and any order of their steps. At every
point of a run, since a token was last created, the claims of it that went through are at most one
more than its releases. Each claim that goes through gives the username of the last creation, at a
time not past the expiry that was given there, and a claim that fails leaves the tables as they
were. And claims are not refused for nothing: in time one goes through where no turn since the last
creation took the token away. -/
theorem claims_exclusive [DecidableEq ι] (clients : ι → Client) (schedule : List ι)
    (token : String) :
    let turns := play clients schedule
    (∀ past rest, turns = past ++ rest → granted token past ≤ released token past + 1) ∧
    ∀ past s rest now, turns = past ++ s :: rest → s.call = .claim token now →
      (∀ username, s.answer = .claimed username →
        ∃ expiresAt, creation? token past = some (username, expiresAt) ∧ now ≤ expiresAt) ∧
      ((∀ username, s.answer ≠ .claimed username) → s.after = s.before) ∧
      ∀ username expiresAt, creation? token past = some (username, expiresAt) →
        now ≤ expiresAt → (∀ s' ∈ sinceCreation token past, ¬ s'.UsesUp token expiresAt) →
        s.answer = .claimed username := by
  intro turns
  obtain ⟨t, run⟩ := LeadsTo.playFrom clients schedule .start
  refine ⟨fun past rest split => ?_, fun past s rest now split asked => ?_⟩
  · obtain ⟨t', before⟩ := run.exists_of_prefix split
    exact (before.accounted token).balance
  · obtain ⟨t', before, own⟩ := run.exists_before split
    have account := before.accounted token
    rw [asked] at own
    rw [own]
    rcases TokenCall.perform_claim_cases t' token now with
      ⟨r, stands, unused, inTime, answered⟩ | ⟨unfit, reason, answered⟩ <;>
      simp only [TokenCall.turn, answered]
    · refine ⟨?_, fun failed => absurd rfl (failed r.username),
        fun username expiresAt last _ _ => ?_⟩
      · rintro username same
        obtain rfl := TokenAnswer.claimed.inj same
        exact ⟨r.expiresAt, account.created r stands, inTime⟩
      · have same := Option.some.inj ((account.created r stands).symm.trans last)
        exact congrArg TokenAnswer.claimed (congrArg Prod.fst same)
    · refine ⟨nofun, fun _ => trivial, fun username expiresAt last inTime left => ?_⟩
      -- A row that no turn took away is fit for the claim, which was not refused then.
      rcases unfit _ (account.fresh username expiresAt last left) with used | late
      · exact absurd used Bool.false_ne_true
      · exact absurd inTime (Int.not_le.mpr late)

/-- Of two clients that claim one token the one that comes first gets it. -/
example :
    (play (fun i answers =>
      if !answers.isEmpty then none
      else if i = 0 then some (.create "t" "alice" 9) else some (.claim "t" 5))
      [0, 2, 1, 2]).map Turn.answer =
      [.done, .claimed "alice", .refused (.of .tokenExpired)] := by
  decide

end AccountSidecar.State
