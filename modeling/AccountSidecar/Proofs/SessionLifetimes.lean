import AccountSidecar.Proofs.FirstLogin
import AccountSidecar.Proofs.TableSteps
import Mathlib.Data.List.Induction

/-!
# The lifetime of a session

A session opens with a login and is good for its time from then on. It ends with a logout, and also
with the first query or housekeeping past its time: the clock may go back after that, but the
session does not come back. So what a query of a token comes to follows from the steps before it and
the time of the query alone (`session_lifetime`), and a token that was turned away once is turned
away forever.
-/

namespace AccountSidecar

open AccountSidecar.Action Account

variable {d : Deployment}

namespace Step

/-- The token that a login returned. -/
def issued? (s : Step) : Option String :=
  match s.operation, s.result with
  | .login _ _, .ok (.text token) => some token
  | _, _ => none

/-- Whether a step is a login of a user that returned a token. -/
structure Opens (s : Step) (token username : String) : Prop where
  login : ∃ password, s.operation = .login username password
  returned : s.result = .ok (.text token)

/-- Whether a step ends the session of a token that is good until a deadline: a logout, or a query
or housekeeping past the deadline. -/
def Ends (s : Step) (token : String) (deadline : Int) : Prop :=
  s.operation = .logout token ∨
    (s.operation = .sessionUsername (some token) ∨ s.operation = .purgeExpired) ∧
      deadline < s.before.clock

/-- A login that opened a session issued its token. -/
theorem Opens.issued {s : Step} {token username : String} (opens : s.Opens token username) :
    s.issued? = some token := by
  obtain ⟨password, login⟩ := opens.login
  unfold issued?
  rw [login, opens.returned]

/-- Whoever issued a token is a login that opened a session. -/
theorem exists_opens_of_issued {s : Step} {token : String} (issued : s.issued? = some token) :
    ∃ username, s.Opens token username := by
  unfold issued? at issued
  split at issued
  · rename_i username password returned login result
    obtain rfl := Option.some.inj issued
    exact ⟨username, ⟨password, login⟩, result⟩
  · cases issued

/-- A token is opened for one user only. -/
theorem Opens.unique {s : Step} {token token' username username' : String}
    (opens : s.Opens token username) (opens' : s.Opens token' username') :
    token' = token ∧ username' = username := by
  obtain ⟨password, login⟩ := opens.login
  obtain ⟨password', login'⟩ := opens'.login
  have returned := Except.ok.inj (opens'.returned.symm.trans opens.returned)
  exact ⟨Reply.text.inj returned, (Operation.login.inj (login'.symm.trans login)).1⟩

/-- How a step may change the sessions. -/
inductive ChangesSessions (d : Deployment) (s : Step) : Prop
  | kept (unissued : s.issued? = none) (lasting : ∀ token deadline, ¬ s.Ends token deadline)
      (same : s.after.tables.sessions = s.before.tables.sessions)
  | opened {token username : String} (opens : s.Opens token username)
      (put : s.after.tables = s.before.tables.createSession token username s.before.clock
        (s.before.clock + d.sessionTtl))
  | closed {token : String} (logout : s.operation = .logout token)
      (deleted : s.after.tables = s.before.tables.deleteSession token)
  /-- A query found a session within its time, or none. -/
  | resolved {token : Option String} (query : s.operation = .sessionUsername token)
      (standing : ∀ key session, key ≠ "" → token = some key →
        s.before.tables.session? key = some session →
          session.isExpired s.before.clock = false)
      (same : s.after.tables = s.before.tables)
  /-- A query found a session past its time. -/
  | expired {key : String} {session : State.Session}
      (query : s.operation = .sessionUsername (some key))
      (found : s.before.tables.session? key = some session)
      (past : session.isExpired s.before.clock = true)
      (deleted : s.after.tables = s.before.tables.deleteSession key)
  | purged (housekeeping : s.operation = .purgeExpired)
      (dropped : s.after.tables = s.before.tables.purged s.before.clock)

namespace ChangesSessions

variable {s : Step} {token username : String}

/-- No step makes a token stand twice. -/
theorem distinct (change : ChangesSessions d s) (before : s.before.tables.sessions.Distinct) :
    s.after.tables.sessions.Distinct := by
  cases change with
  | kept _ _ same =>
    rw [same]
    exact before
  | opened _ put =>
    rw [put]
    exact before.put _ _
  | closed _ deleted =>
    rw [deleted]
    exact before.filter _
  | resolved _ _ same =>
    rw [same]
    exact before
  | expired _ _ _ deleted =>
    rw [deleted]
    exact before.filter _
  | purged _ dropped =>
    rw [dropped]
    exact before.filter _

/-- Only a login issues a token. -/
theorem opened_of_opens (change : ChangesSessions d s) (opens : s.Opens token username) :
    s.after.tables.session? token =
      some ⟨username, s.before.clock, s.before.clock + d.sessionTtl⟩ := by
  obtain ⟨password, login⟩ := opens.login
  cases change with
  | kept unissued => cases unissued.symm.trans opens.issued
  | opened opens' put =>
    obtain ⟨rfl, rfl⟩ := opens.unique opens'
    rw [put]
    exact State.Tables.session?_createSession _ _ _ _ _
  | closed logout => cases logout.symm.trans login
  | resolved query => cases query.symm.trans login
  | expired query => cases query.symm.trans login
  | purged housekeeping => cases housekeeping.symm.trans login

/-- A step that does not issue a token leaves its session as it is, or ends it. -/
theorem session?_iff (change : ChangesSessions d s) (given : token ≠ "")
    (distinct : s.before.tables.sessions.Distinct) (unissued : s.issued? ≠ some token)
    (session : State.Session) : s.after.tables.session? token = some session ↔
      s.before.tables.session? token = some session ∧ ¬ s.Ends token session.expiresAt := by
  cases change with
  | kept _ lasting same =>
    unfold State.Tables.session?
    rw [same]
    exact ⟨fun found => ⟨found, lasting _ _⟩, fun found => found.1⟩
  | @opened token' username' opens put =>
    have other : token ≠ token' := fun same => unissued (same ▸ opens.issued)
    obtain ⟨password, login⟩ := opens.login
    rw [put, State.Tables.session?_createSession_of_ne other]
    refine ⟨fun found => ⟨found, ?_⟩, fun found => found.1⟩
    simp [Ends, login]
  | @closed token' logout deleted =>
    rw [deleted, State.Tables.session?_deleteSession]
    by_cases own : token = token'
    · simp [Ends, logout, own]
    · have other : ¬ token' = token := Ne.symm own
      simp [Ends, logout, own, other]
  | @resolved token' query standing same =>
    rw [same]
    refine ⟨fun found => ⟨found, ?_⟩, fun found => found.1⟩
    by_cases own : token' = some token
    · have current := standing token session given own found
      simpa [Ends, query, own, State.Session.isExpired] using current
    · simp [Ends, query, own]
  | @expired key session' query found past deleted =>
    rw [deleted, State.Tables.session?_deleteSession]
    by_cases own : token = key
    · rw [if_pos own, own, found]
      constructor
      · intro none
        cases none
      · rintro ⟨same, lasting⟩
        obtain rfl := Option.some.inj same
        exact absurd (.inr ⟨.inl query, of_decide_eq_true past⟩) lasting
    · have other : ¬ key = token := Ne.symm own
      simp [Ends, query, own, other]
  | purged housekeeping dropped =>
    rw [dropped, State.Tables.session?_purged distinct]
    cases found : s.before.tables.session? token with
    | none => simp
    | some session' =>
      have ends (deadline : Int) : s.Ends token deadline ↔ deadline < s.before.clock := by
        simp [Ends, housekeeping]
      rw [ends]
      constructor
      · intro kept
        obtain ⟨same, lasting⟩ := Option.filter_eq_some_iff.mp kept
        obtain rfl := Option.some.inj same
        exact ⟨rfl, by simpa [State.Session.isExpired] using lasting⟩
      · rintro ⟨same, lasting⟩
        obtain rfl := Option.some.inj same
        exact Option.filter_eq_some_iff.mpr
          ⟨rfl, by simpa [State.Session.isExpired] using lasting⟩

end ChangesSessions

end Step

namespace Operation

/-- Whether an operation works on the sessions. -/
def worksOnSessions : Operation → Bool
  | .login .. | .logout .. | .sessionUsername .. | .purgeExpired => true
  | _ => false

/-- An operation that does not work on the sessions keeps them. -/
theorem sessions_of_other {op : Operation} (other : op.worksOnSessions = false) (w : World) :
    (op.step d w).after.tables.sessions = w.tables.sessions := by
  have outside : Part.sessions ∉ op.footprint := by
    cases op <;> simp_all [footprint, worksOnSessions]
  exact same_of_not_mem_of_ne (d := d) outside (by decide) w

/-- A login opens a session for its user, or changes nothing. -/
theorem changesSessions_login (username password : String) (w : World) :
    ((login username password).step d w).ChangesSessions d := by
  have run := Session.runIn_login d username password w
  have refused {e : Failure} (run : (Session.login d username password).runIn w = (.error e, w)) :
      ((login username password).step d w).ChangesSessions d := by
    rw [step_of_map rfl run]
    refine .kept rfl (fun token deadline => ?_) rfl
    simp [Step.Ends]
  cases found : w.find d username with
  | error e =>
    rw [found] at run
    exact refused run
  | ok c =>
    cases c with
    | none =>
      rw [found] at run
      exact refused run
    | some c =>
      rw [found] at run
      dsimp only at run
      by_cases verified : Password.verify password c.password = true
      · rw [if_pos verified] at run
        rw [step_of_map rfl run]
        have own : c.username = username := (World.legible_of_find found).1
        exact .opened ⟨⟨password, rfl⟩, rfl⟩ (by rw [own])
      · rw [if_neg verified] at run
        exact refused run

/-- A query closes the session that it finds past its time, or changes nothing. -/
theorem changesSessions_sessionUsername (token : Option String) (w : World) :
    ((sessionUsername token).step d w).ChangesSessions d := by
  rcases Session.missing_or_given token with missing | ⟨key, rfl, given⟩
  · rw [step_of_map rfl (Session.runIn_username_of_missing missing w)]
    refine .resolved rfl (fun key session given own => ?_) rfl
    rcases missing with none | blank
    · cases none.symm.trans own
    · exact absurd (Option.some.inj (own.symm.trans blank)) given
  · have run := Session.runIn_username given w
    cases found : w.tables.session? key with
    | none =>
      rw [found] at run
      rw [step_of_map rfl run]
      refine .resolved rfl (fun other session _ own there => ?_) rfl
      obtain rfl := Option.some.inj own
      cases found.symm.trans there
    | some session =>
      rw [found] at run
      dsimp only at run
      by_cases past : session.isExpired w.clock = true
      · rw [if_pos past] at run
        rw [step_of_map rfl run]
        exact .expired rfl found past rfl
      · rw [if_neg past] at run
        rw [step_of_map rfl run]
        refine .resolved rfl (fun other session' _ own there => ?_) rfl
        obtain rfl := Option.some.inj own
        obtain rfl := Option.some.inj (found.symm.trans there)
        exact Bool.eq_false_iff.mpr past

/-- What an operation may do to the sessions. -/
theorem step_changesSessions (op : Operation) (w : World) :
    (op.step d w).ChangesSessions d := by
  by_cases works : op.worksOnSessions = true
  · cases op with
    | login u p => exact changesSessions_login u p w
    | logout t => exact .closed rfl rfl
    | sessionUsername t => exact changesSessions_sessionUsername t w
    | purgeExpired => exact .purged rfl rfl
    | _ => cases works
  · have other : op.worksOnSessions = false := Bool.eq_false_iff.mpr works
    refine .kept ?_ (fun token deadline ends => ?_) (sessions_of_other other w)
    · cases op with
      | login => cases other
      | _ => rfl
    · rcases ends with logout | ⟨query | housekeeping, -⟩
      · rw [show op = .logout token from logout] at other
        cases other
      · rw [show op = .sessionUsername (some token) from query] at other
        cases other
      · rw [show op = .purgeExpired from housekeeping] at other
        cases other

end Operation

/-- The tokens that logins returned, in order. -/
def issuedTokens (steps : List Step) : List String := steps.filterMap Step.issued?

/-- Later steps issue their tokens after those of earlier ones. -/
theorem issuedTokens_append (earlier later : List Step) :
    issuedTokens (earlier ++ later) = issuedTokens earlier ++ issuedTokens later :=
  List.filterMap_append

/-- Whether the session of a token stands open after some steps, for a user and until a deadline: a
login opened it, and no step since then ended it. -/
def SessionOpen (d : Deployment) (earlier : List Step) (token username : String)
    (deadline : Int) : Prop :=
  ∃ before s since, earlier = before ++ s :: since ∧ s.Opens token username ∧
    deadline = s.before.clock + d.sessionTtl ∧ ∀ s' ∈ since, ¬ s'.Ends token deadline

/-- After another step those sessions stand open that it opened or did not end. -/
theorem sessionOpen_snoc {earlier : List Step} {s : Step} {token username : String}
    {deadline : Int} : SessionOpen d (earlier ++ [s]) token username deadline ↔
      (s.Opens token username ∧ deadline = s.before.clock + d.sessionTtl) ∨
        (SessionOpen d earlier token username deadline ∧ ¬ s.Ends token deadline) := by
  constructor
  · rintro ⟨before, first, since, split, opens, good, lasting⟩
    rcases List.eq_nil_or_concat since with rfl | ⟨rest, last, rfl⟩
    · obtain ⟨-, same⟩ := List.append_inj' split rfl
      obtain rfl := (List.cons.inj same).1
      exact .inl ⟨opens, good⟩
    · rw [List.concat_eq_append] at split lasting
      rw [← List.cons_append, ← List.append_assoc] at split
      obtain ⟨own, same⟩ := List.append_inj' split rfl
      obtain rfl := (List.cons.inj same).1
      refine .inr ⟨⟨before, first, rest, own, opens, good, fun s' among => ?_⟩, ?_⟩
      · exact lasting s' (List.mem_append_left _ among)
      · exact lasting s (List.mem_append_right _ (List.mem_singleton_self s))
  · rintro (⟨opens, good⟩ | ⟨⟨before, first, since, rfl, opens, good, lasting⟩, last⟩)
    · exact ⟨earlier, s, [], rfl, opens, good, by simp⟩
    · refine ⟨before, first, since ++ [s], by simp, opens, good, fun s' among => ?_⟩
      rcases List.mem_append.mp among with among | among
      · exact lasting s' among
      · rw [List.mem_singleton.mp among]
        exact last

/-- A token whose session stands open was issued. -/
theorem SessionOpen.issued {earlier : List Step} {token username : String} {deadline : Int}
    (stands : SessionOpen d earlier token username deadline) :
    token ∈ issuedTokens earlier := by
  obtain ⟨before, s, since, rfl, opens, -⟩ := stands
  exact List.mem_filterMap.mpr ⟨s, by simp, opens.issued⟩

/-- Whether the sessions of a world are those that stand open after the steps so far. -/
structure SessionsFollow (d : Deployment) (earlier : List Step) (w : World) : Prop where
  distinct : w.tables.sessions.Distinct
  stands {token : String} (given : token ≠ "") (username : String) (deadline : Int) :
    (∃ session, w.tables.session? token = some session ∧ session.username = username ∧
      session.expiresAt = deadline) ↔ SessionOpen d earlier token username deadline

/-- Sessions keep following the steps as long as no token repeats. -/
theorem SessionsFollow.step {earlier : List Step} {w : World} (follow : SessionsFollow d earlier w)
    (op : Operation) (unrepeated : (issuedTokens (earlier ++ [op.step d w])).Nodup) :
    SessionsFollow d (earlier ++ [op.step d w]) (op.step d w).after := by
  have change : (op.step d w).ChangesSessions d := op.step_changesSessions w
  refine ⟨change.distinct follow.distinct, fun {token} given username deadline => ?_⟩
  rw [sessionOpen_snoc]
  by_cases issued : (op.step d w).issued? = some token
  · obtain ⟨user, opens⟩ := Step.exists_opens_of_issued issued
    have fresh : token ∉ issuedTokens earlier := by
      rw [issuedTokens_append] at unrepeated
      intro before
      apply List.disjoint_of_nodup_append unrepeated before
      exact List.mem_filterMap.mpr ⟨_, List.mem_singleton_self _, issued⟩
    have unopened : ¬ SessionOpen d earlier token username deadline :=
      fun stands => fresh stands.issued
    rw [change.opened_of_opens opens]
    constructor
    · rintro ⟨session, found, rfl, rfl⟩
      obtain rfl := Option.some.inj found
      exact .inl ⟨opens, rfl⟩
    · rintro (⟨opens', good⟩ | ⟨stands, -⟩)
      · exact ⟨_, rfl, (opens'.unique opens).2, good.symm⟩
      · exact absurd stands unopened
  · have unopened : ¬ (op.step d w).Opens token username := fun opens => issued opens.issued
    have kept := change.session?_iff given follow.distinct issued
    simp only [unopened, false_and, false_or, kept, ← follow.stands given]
    constructor
    · rintro ⟨session, ⟨found, lasting⟩, own, good⟩
      exact ⟨⟨session, found, own, good⟩, good ▸ lasting⟩
    · rintro ⟨⟨session, found, own, good⟩, lasting⟩
      exact ⟨session, ⟨found, good ▸ lasting⟩, own, good⟩

/-- In a run from empty tables whose tokens do not repeat the sessions follow the steps. -/
theorem World.sessionsFollow_after {start : World} (empty : start.tables = {})
    (events : List Event) (unrepeated : (issuedTokens (start.steps d events)).Nodup) :
    SessionsFollow d (start.steps d events) (start.after d events) := by
  have initial : SessionsFollow d [] start := by
    refine ⟨?_, fun given username deadline => ?_⟩
    · rw [empty]
      exact List.nodup_nil
    · constructor
      · rintro ⟨session, found, -⟩
        rw [empty] at found
        cases found
      · rintro ⟨before, s, since, split, -⟩
        cases before <;> cases split
  refine World.run_induction
    (motive := fun earlier w => (issuedTokens earlier).Nodup → SessionsFollow d earlier w)
    (fun _ => initial) (fun earlier w op follow unrepeated => ?_)
    (fun earlier w files clock failing follow unrepeated => ?_) events unrepeated
  · have before : (issuedTokens earlier).Nodup := by
      rw [issuedTokens_append] at unrepeated
      exact unrepeated.of_append_left
    exact (follow before).step op unrepeated
  · exact ⟨(follow unrepeated).distinct, (follow unrepeated).stands⟩

/-- Whether a query of a token after some steps, at a time, is answered with a user. -/
def SessionStands (d : Deployment) (earlier : List Step) (token : Option String) (now : Int)
    (username : String) : Prop :=
  ∃ key deadline, token = some key ∧ SessionOpen d earlier key username deadline ∧ now ≤ deadline

/-- Whether a query of a token comes to what some steps let stand: the user whose session stands at
the time of the query, or a refusal. -/
structure Step.AnswersFrom (d : Deployment) (earlier : List Step) (token : Option String)
    (s : Step) : Prop where
  answered (username : String) : s.result = .ok (.text username) ↔
    SessionStands d earlier token s.before.clock username
  turnedAway (none : ∀ username, ¬ SessionStands d earlier token s.before.clock username) :
    s.result = .error (.account (.of .unauthorized))

/-- A query may be turned away where no session stands. -/
theorem Step.answersFrom_of_refused {earlier : List Step} {token : Option String} {s : Step}
    (refused : s.result = .error (.account (.of .unauthorized)))
    (none : ∀ username, ¬ SessionStands d earlier token s.before.clock username) :
    s.AnswersFrom d earlier token := by
  refine ⟨fun username => ⟨fun answered => ?_, fun stands => absurd stands (none username)⟩,
    fun _ => refused⟩
  rw [refused] at answered
  cases answered

namespace SessionsFollow

variable {earlier : List Step} {w : World} {key : String}

/-- The session that is found under a token is the one that stands open. -/
theorem eq_of_found (follow : SessionsFollow d earlier w) (given : key ≠ "")
    {session : State.Session} (found : w.tables.session? key = some session) {username : String}
    {deadline : Int} (stands : SessionOpen d earlier key username deadline) :
    session.username = username ∧ session.expiresAt = deadline := by
  obtain ⟨session', there, own⟩ := (follow.stands given username deadline).mpr stands
  obtain rfl := Option.some.inj (found.symm.trans there)
  exact own

/-- A query of a token that is not blank comes to what the steps let stand. -/
theorem query_of_given (follow : SessionsFollow d earlier w) (given : key ≠ "") :
    ((Operation.sessionUsername (some key)).step d w).AnswersFrom d earlier (some key) := by
  have run := Session.runIn_username given w
  cases found : w.tables.session? key with
  | none =>
    rw [found] at run
    rw [Operation.step_of_map rfl run]
    apply Step.answersFrom_of_refused rfl
    rintro username ⟨other, deadline, own, stands, -⟩
    obtain rfl := Option.some.inj own
    obtain ⟨session, there, -⟩ := (follow.stands given username deadline).mpr stands
    cases found.symm.trans there
  | some session =>
    rw [found] at run
    dsimp only at run
    by_cases past : session.isExpired w.clock = true
    · rw [if_pos past] at run
      rw [Operation.step_of_map rfl run]
      apply Step.answersFrom_of_refused rfl
      rintro username ⟨other, deadline, own, stands, lasting⟩
      obtain rfl := Option.some.inj own
      obtain ⟨-, rfl⟩ := follow.eq_of_found given found stands
      exact absurd lasting (Int.not_le.mpr (of_decide_eq_true past))
    · rw [if_neg past] at run
      rw [Operation.step_of_map rfl run]
      have lasting : w.clock ≤ session.expiresAt := by
        simpa [State.Session.isExpired] using past
      have opened : SessionOpen d earlier key session.username session.expiresAt :=
        (follow.stands given _ _).mp ⟨session, found, rfl, rfl⟩
      have stands : SessionStands d earlier (some key) w.clock session.username :=
        ⟨key, session.expiresAt, rfl, opened, lasting⟩
      refine ⟨fun username => ⟨fun same => ?_, ?_⟩, fun none => absurd stands (none _)⟩
      · obtain rfl := Reply.text.inj (Except.ok.inj same)
        exact stands
      · rintro ⟨other, deadline, own, stands', -⟩
        obtain rfl := Option.some.inj own
        obtain ⟨rfl, -⟩ := follow.eq_of_found given found stands'
        rfl

/-- A query of any token comes to what the steps let stand, as long as no blank token was issued. -/
theorem query (follow : SessionsFollow d earlier w) (given : "" ∉ issuedTokens earlier)
    (token : Option String) :
    ((Operation.sessionUsername token).step d w).AnswersFrom d earlier token := by
  rcases Session.missing_or_given token with missing | ⟨key, rfl, named⟩
  · rw [Operation.step_of_map rfl (Session.runIn_username_of_missing missing w)]
    apply Step.answersFrom_of_refused rfl
    rintro username ⟨key, deadline, rfl, stands, -⟩
    rcases missing with none | blank
    · cases none
    · exact given (Option.some.inj blank ▸ stands.issued)
  · exact follow.query_of_given named

end SessionsFollow

/-- A query in a run comes to what the steps before it let stand. -/
theorem World.answersFrom_of_split {start : World} (empty : start.tables = {})
    {events : List Event} (unrepeated : (issuedTokens (start.steps d events)).Nodup)
    (given : "" ∉ issuedTokens (start.steps d events)) {earlier later : List Step} {s : Step}
    (split : start.steps d events = earlier ++ s :: later) {token : Option String}
    (query : s.operation = .sessionUsername token) : s.AnswersFrom d earlier token := by
  rw [split, issuedTokens_append] at unrepeated given
  obtain ⟨before, rfl, reached⟩ := World.exists_events_before split
  have follow := World.sessionsFollow_after empty before unrepeated.of_append_left
  rw [query] at reached
  rw [reached]
  exact follow.query (fun blank => given (List.mem_append_left _ blank)) token

/-- A session that stands open was open before a query that did not end it. -/
theorem SessionOpen.of_later {earlier between : List Step} {s : Step} {key username : String}
    {deadline : Int} (stands : SessionOpen d (earlier ++ s :: between) key username deadline)
    (issued : key ∈ issuedTokens earlier) (unissued : s.issued? = none)
    (unrepeated : (issuedTokens (earlier ++ s :: between)).Nodup) :
    SessionOpen d earlier key username deadline ∧ ¬ s.Ends key deadline := by
  induction between using List.reverseRecOn with
  | nil =>
    rcases sessionOpen_snoc.mp stands with ⟨opens, -⟩ | kept
    · cases unissued.symm.trans opens.issued
    · exact kept
  | append_singleton between last ih =>
    rw [← List.cons_append, ← List.append_assoc] at stands unrepeated
    rw [issuedTokens_append] at unrepeated
    rcases sessionOpen_snoc.mp stands with ⟨opens, -⟩ | ⟨kept, -⟩
    · have again : key ∈ issuedTokens [last] :=
        List.mem_filterMap.mpr ⟨last, List.mem_singleton_self last, opens.issued⟩
      have before : key ∈ issuedTokens (earlier ++ s :: between) := by
        rw [issuedTokens_append]
        exact List.mem_append_left _ issued
      exact absurd again (List.disjoint_of_nodup_append unrepeated before)
    · exact ih kept unrepeated.of_append_left

/-- Alice signs up and logs in; her session is asked for past its time, and again when the clock has
gone back. -/
def lateQueries : List Event :=
  [.operation (.signup "alice" "" "pw" ""), .operation (.login "alice" "pw"), .clock 90000,
    .operation (.sessionUsername (some "t")), .clock 0,
    .operation (.sessionUsername (some "t"))]

/-- In the sample the login of alice returns the token and opens its session for a day. -/
theorem World.login_sample : ∃ w₁ w₂,
    let d := Deployment.sampleTokens
    ((Operation.signup "alice" "" "pw" "").step d (World.sample [])).after = w₁ ∧
      (Operation.login "alice" "pw").step d w₁ =
        ⟨w₁, .login "alice" "pw", .ok (.text "t"), w₂⟩ ∧
      w₂.tables = ({} : State.Tables).createSession "t" "alice" 0 86400 := by
  have apart : Deployment.sampleTokens.FilesApart :=
    ⟨(Deployment.sample_filesApart false).1, (Deployment.sample_filesApart false).2⟩
  have legible : Users.IsLegibleName "alice" :=
    (Users.recordedName?_eq_self_iff (by decide)).mp (by decide)
  obtain ⟨hash₀, files, -, -, signedUp⟩ := World.runIn_signup_sample (d := .sampleTokens) [] "alice"
    "pw" rfl rfl (Deployment.sample_salt false 0) (by decide) (by decide) (by decide)
  obtain ⟨saltText, hash, hashed, found, -⟩ := Account.find_of_signup apart signedUp
  generalize reached : ({ World.sample [] with files, drawn := _, effects := _ } : World) = w₁ at *
  have tables : w₁.tables = {} := by
    rw [← reached]
    rfl
  have clock : w₁.clock = 0 := by
    rw [← reached]
    rfl
  have unused : w₁.drawn.sessionTokens = 0 := by rw [← reached]
  have run := Session.runIn_login .sampleTokens "alice" "pw" w₁
  rw [found legible] at run
  dsimp only at run
  rw [if_pos (Password.verify_of_hash? hashed), tables, clock, unused] at run
  refine ⟨w₁, _, ?_, Operation.step_of_map rfl run, rfl⟩
  rw [Operation.step_of_map rfl signedUp]

/-- The lifetime of a session. In a run from empty tables whose session tokens are not empty and do
not repeat, whatever the clock does, a query of a token is answered with a user exactly where a
login of the user returned the token, the session is within its time, and since then nobody logged
out with the token and no query of it or housekeeping came past that time. Otherwise the query is
turned away, and once it was turned away a token that was issued is turned away forever. -/
theorem session_lifetime {start : World} (empty : start.tables = {}) {events : List Event}
    (unrepeated : (issuedTokens (start.steps d events)).Nodup)
    (given : "" ∉ issuedTokens (start.steps d events)) {earlier later : List Step} {s : Step}
    (split : start.steps d events = earlier ++ s :: later) {token : Option String}
    (query : s.operation = .sessionUsername token) :
    s.AnswersFrom d earlier token ∧
    (s.result = .error (.account (.of .unauthorized)) →
      ∀ key ∈ issuedTokens earlier, token = some key →
        ∀ s' ∈ later, s'.operation = .sessionUsername token →
          s'.result = .error (.account (.of .unauthorized))) := by
  have answers := World.answersFrom_of_split empty unrepeated given split query
  refine ⟨answers, ?_⟩
  rintro refused key issued rfl s' among query'
  obtain ⟨between, rest, rfl⟩ := List.append_of_mem among
  rw [← List.cons_append, ← List.append_assoc] at split
  apply (World.answersFrom_of_split empty unrepeated given split query').turnedAway
  rintro username ⟨other, deadline, own, stands, -⟩
  obtain rfl := Option.some.inj own
  have unissued : s.issued? = none := by
    unfold Step.issued?
    rw [query]
  rw [split, issuedTokens_append] at unrepeated
  obtain ⟨before, lasting⟩ := stands.of_later issued unissued unrepeated.of_append_left
  have inTime : s.before.clock ≤ deadline := by
    by_contra past
    exact lasting (.inr ⟨.inl query, Int.not_le.mp past⟩)
  have again := (answers.answered username).mpr ⟨key, deadline, rfl, before, inTime⟩
  rw [refused] at again
  cases again

/-- The session of alice is asked for past its time, and again when the clock has gone back: the
theorem at these events, where both queries are turned away. -/
theorem session_lifetime_late :
    let d := Deployment.sampleTokens
    ∃ earlier late again, (World.sample []).steps d lateQueries = earlier ++ late :: [again] ∧
      "t" ∈ issuedTokens earlier ∧ late.before.clock = 90000 ∧
      late.result = .error (.account (.of .unauthorized)) ∧
      late.AnswersFrom d earlier (some "t") ∧
      again.before.clock = 0 ∧ again.result = .error (.account (.of .unauthorized)) := by
  intro d
  obtain ⟨w₁, w₂, first, second, tables⟩ := World.login_sample
  let query : Operation := .sessionUsername (some "t")
  let late := query.step d { w₂ with clock := 90000 }
  let again := query.step d { late.after with clock := 0 }
  let earlier := [(Operation.signup "alice" "" "pw" "").step d (World.sample []),
    ⟨w₁, .login "alice" "pw", .ok (.text "t"), w₂⟩]
  have split : (World.sample []).steps d lateQueries = earlier ++ late :: [again] := by
    change (Operation.signup "alice" "" "pw" "").step d (World.sample []) :: World.steps d
      ((Operation.signup "alice" "" "pw" "").step d (World.sample [])).after _ = _
    rw [first]
    change _ :: (Operation.login "alice" "pw").step d w₁ :: World.steps d
      ((Operation.login "alice" "pw").step d w₁).after _ = _
    rw [second]
    rfl
  have issued : issuedTokens earlier = ["t"] := rfl
  have all : issuedTokens ((World.sample []).steps d lateQueries) = ["t"] := by
    rw [split, issuedTokens_append, issued]
    rfl
  have refused : late.result = .error (.account (.of .unauthorized)) := by
    have run := Session.runIn_username (by decide : "t" ≠ "") { w₂ with clock := 90000 }
    have opened : w₂.tables.session? "t" = some ⟨"alice", 0, 86400⟩ := by
      rw [tables]
      rfl
    dsimp only at run
    rw [opened] at run
    dsimp only at run
    rw [if_pos (by decide)] at run
    rw [show late = _ from Operation.step_of_map rfl run]
    rfl
  obtain ⟨answers, forever⟩ := session_lifetime rfl (by rw [all]; decide)
    (by rw [all]; decide) split rfl
  have there : "t" ∈ issuedTokens earlier := by
    rw [issued]
    exact List.mem_singleton_self _
  exact ⟨earlier, late, again, split, there, rfl, refused, answers, rfl,
    forever refused "t" there rfl again (List.mem_singleton_self _) rfl⟩

end AccountSidecar
