import AccountSidecar.Webhook.FanOut
import Mathlib.Algebra.GroupWithZero.Nat
import Mathlib.Data.List.Basic
import Mathlib.Logic.Relation

/-!
# Isolation of the targets of a fan-out

Whatever order the threads of a fan-out move in, what one of them does is the delivery to its own
target: what it has done and what is left to it make up that delivery after every step
(`Worker.Faithful`). So the fan-out returns one error for each failed delivery and nothing else
(`fan_out_isolated`), and on one network the errors are those of the deliveries one after another
(`syncErrors_syncPassword`). Whoever has a fan-out started in the background gets an answer with the
next step, and nothing that happens in the background changes it (`Notice.Lawful`).
-/

namespace AccountSidecar.Webhook

variable {event : PasswordChanged} {timeout : Int}

/-- A delivery over plain texts makes the call of its target, if there is one. -/
theorem deliver_eq (network : Network) (target : Target) (vars : Keyed String) :
    deliver network target vars timeout =
      match target.request vars timeout with
      | .error e => ⟨[], .error e⟩
      | .ok request => ⟨[request], (network request).result⟩ := by
  unfold deliver deliverWith Target.request
  cases target.callWith .standard vars timeout <;> rfl

namespace Worker

variable {worker next : Worker} {recorded : List TargetError}

/-- The calls that the thread of a target has still to make. -/
def unsent (event : PasswordChanged) (timeout : Int) (worker : Worker) : List Request :=
  match worker.stage with
  | .started => (worker.job.outcome event timeout).delivery.requests
  | _ => []

/-- The errors that the thread of a target has still to put into the list. -/
def owed (event : PasswordChanged) (timeout : Int) (worker : Worker) : List TargetError :=
  match worker.stage with
  | .started => (worker.job.outcome event timeout).error?.toList
  | .called request =>
    (TargetOutcome.error?
      ⟨worker.job.target.name, ⟨[], (worker.job.network request).result⟩⟩).toList
  | .failed failure => [⟨worker.job.target.name, failure⟩]
  | .ended => []

/-- How many steps the thread of a target has left at most. -/
def left (worker : Worker) : Nat :=
  match worker.stage with
  | .started => 3
  | .called _ => 2
  | .failed _ => 1
  | .ended => 0

/-- The thread of a target can go on until it has ended. -/
theorem advance?_eq_none_iff : worker.advance? event timeout = none ↔ worker.stage = .ended := by
  unfold advance?
  cases worker.stage with
  | started => cases worker.job.target.request event.variables timeout <;> simp
  | called request => cases answered : (worker.job.network request).result <;> simp [answered]
  | failed failure => simp
  | ended => simp

/-- A step takes what it does off what was left, for the same target. -/
theorem advance?_spec (moved : worker.advance? event timeout = some (next, recorded)) :
    next.job = worker.job ∧
      next.requests ++ next.unsent event timeout =
        worker.requests ++ worker.unsent event timeout ∧
      next.recorded = worker.recorded ++ recorded ∧
      recorded ++ next.owed event timeout = worker.owed event timeout ∧
      next.left < worker.left := by
  obtain ⟨job, stage, requests, earlier⟩ := worker
  cases stage with
  | started =>
    simp only [advance?] at moved
    cases rendered : job.target.request event.variables timeout with
    | error failure =>
      rw [rendered] at moved
      obtain ⟨rfl, rfl⟩ := moved
      simp [unsent, owed, left, Job.outcome, deliver_eq, rendered, TargetOutcome.error?]
    | ok request =>
      rw [rendered] at moved
      obtain ⟨rfl, rfl⟩ := moved
      simp [unsent, owed, left, Job.outcome, deliver_eq, rendered, TargetOutcome.error?]
  | called request =>
    simp only [advance?] at moved
    cases answered : (job.network request).result with
    | error failure =>
      rw [answered] at moved
      obtain ⟨rfl, rfl⟩ := moved
      simp [unsent, owed, left, answered, TargetOutcome.error?]
    | ok status =>
      rw [answered] at moved
      obtain ⟨rfl, rfl⟩ := moved
      simp [unsent, owed, left, answered, TargetOutcome.error?]
  | failed failure =>
    obtain ⟨rfl, rfl⟩ := moved
    simp [unsent, owed, left]
  | ended => cases moved

/-- Whether what the thread of a target has done and what is left to it make up the delivery to
that target alone. -/
structure Faithful (event : PasswordChanged) (timeout : Int) (worker : Worker) : Prop where
  requests : worker.requests ++ worker.unsent event timeout =
    (worker.job.outcome event timeout).delivery.requests
  recorded : worker.recorded ++ worker.owed event timeout =
    (worker.job.outcome event timeout).error?.toList

/-- A thread that has just been started owes all of the delivery. -/
theorem Faithful.of_start (job : Job) : Faithful event timeout { job := job } := ⟨rfl, rfl⟩

/-- A thread stays faithful when it moves on: what it does is no longer left to it. -/
theorem Faithful.advance (faithful : worker.Faithful event timeout)
    (moved : worker.advance? event timeout = some (next, recorded)) :
    next.Faithful event timeout := by
  obtain ⟨job, requests, put, owed, -⟩ := advance?_spec moved
  constructor
  · rw [job, requests, faithful.requests]
  · rw [job, put, List.append_assoc, owed, faithful.recorded]

/-- A thread that has ended did just what the delivery to its target does. -/
theorem Faithful.of_ended (faithful : worker.Faithful event timeout)
    (ended : worker.stage = .ended) :
    worker.requests = (worker.job.outcome event timeout).delivery.requests ∧
      worker.recorded = (worker.job.outcome event timeout).error?.toList := by
  have requests := faithful.requests
  have recorded := faithful.recorded
  simp only [unsent, owed, ended, List.append_nil] at requests recorded
  exact ⟨requests, recorded⟩

end Worker

namespace Pool

variable {jobs : List Job} {pool next : Pool}

/-- The jobs whose threads are still to be started. -/
def unstarted (pool : Pool) : List Job :=
  match pool.phase with
  | .starting left => left
  | _ => []

/-- Whether the threads that have been waited for have ended, and what was returned is what the
list holds. -/
def Waited (pool : Pool) : Prop :=
  match pool.phase with
  | .starting _ => True
  | .joining joined =>
    joined ≤ pool.workers.length ∧ ∀ worker ∈ pool.workers.take joined, worker.stage = .ended
  | .returned errors =>
    errors = pool.errors ∧ ∀ worker ∈ pool.workers, worker.stage = .ended

/-- What holds of a fan-out of jobs all the time. -/
structure Lawful (event : PasswordChanged) (timeout : Int) (jobs : List Job) (pool : Pool) :
    Prop where
  jobs : pool.workers.map Worker.job ++ pool.unstarted = jobs
  faithful : ∀ worker ∈ pool.workers, worker.Faithful event timeout
  errors : pool.errors.Perm (pool.workers.flatMap Worker.recorded)
  waited : pool.Waited

/-- A fan-out begins with all threads still to be started and nothing recorded. -/
theorem Lawful.of_start (jobs : List Job) : Lawful event timeout jobs ⟨.starting jobs, [], []⟩ where
  jobs := rfl
  faithful _ among := absurd among List.not_mem_nil
  errors := .refl _
  waited := trivial

/-- The threads that have been waited for are not those that move. -/
theorem Waited.work {phase : Phase} {before after : List Worker} {worker moved : Worker}
    {errors errors' : List TargetError}
    (waited : Waited ⟨phase, before ++ worker :: after, errors⟩) (busy : worker.stage ≠ .ended) :
    Waited ⟨phase, before ++ moved :: after, errors'⟩ := by
  cases phase with
  | starting left => trivial
  | joining joined =>
    obtain ⟨within, ended⟩ := waited
    refine ⟨by simpa using within, fun w among => ended w ?_⟩
    have early : joined ≤ before.length := by
      refine Nat.le_of_not_lt fun late => busy (ended worker ?_)
      rw [List.take_append, List.take_cons (by omega)]
      exact List.mem_append_right _ List.mem_cons_self
    rw [List.take_append_of_le_length early] at among ⊢
    exact among
  | returned result =>
    exact absurd (waited.2 worker (List.mem_append_right _ List.mem_cons_self)) busy

/-- Every step keeps what holds of a fan-out. -/
theorem Lawful.step (lawful : Lawful event timeout jobs pool)
    (step : Step event timeout pool next) : Lawful event timeout jobs next := by
  obtain ⟨each, faithful, errors, waited⟩ := lawful
  cases step with
  | start job left workers list =>
    refine ⟨by simpa [unstarted] using each, fun worker among => ?_, ?_, trivial⟩
    · rcases List.mem_append.mp among with old | new
      · exact faithful worker old
      · rw [List.mem_singleton.mp new]
        exact .of_start job
    · simpa using errors
  | wait workers list =>
    exact ⟨each, faithful, errors, Nat.zero_le _, fun _ among => absurd among List.not_mem_nil⟩
  | @join before after worker list ended =>
    refine ⟨each, faithful, errors, by simp, fun w among => ?_⟩
    rw [List.take_length_add_append, List.take_succ_cons, List.take_zero] at among
    rcases List.mem_append.mp among with old | new
    · exact waited.2 w (by rwa [List.take_left])
    · rw [List.mem_singleton.mp new]
      exact ended
  | finish workers list =>
    refine ⟨each, faithful, errors, rfl, fun w among => waited.2 w ?_⟩
    rwa [List.take_length]
  | @work phase before after worker moved list recorded advanced =>
    obtain ⟨same, -, put, -⟩ := Worker.advance?_spec advanced
    have busy : worker.stage ≠ .ended := fun ended => by
      rw [Worker.advance?_eq_none_iff.mpr ended] at advanced
      cases advanced
    refine ⟨?_, fun w among => ?_, ?_, waited.work busy⟩
    · rw [← each]
      simp only [List.map_append, List.map_cons, same]
      rfl
    · rcases List.mem_append.mp among with left | right
      · exact faithful w (List.mem_append_left _ left)
      rcases List.mem_cons.mp right with rfl | right
      · exact (faithful worker (List.mem_append_right _ List.mem_cons_self)).advance advanced
      · exact faithful w (List.mem_append_right _ (List.mem_cons_of_mem _ right))
    · refine (errors.append_right recorded).trans ?_
      simp only [List.flatMap_append, List.flatMap_cons, put, List.append_assoc]
      exact ((List.perm_append_comm).append_left _).append_left _

/-- Whether a fan-out of jobs can come to stand like this. -/
def Reaches (event : PasswordChanged) (timeout : Int) (jobs : List Job) (pool : Pool) : Prop :=
  Relation.ReflTransGen (Step event timeout) ⟨.starting jobs, [], []⟩ pool

/-- A fan-out keeps its laws for as long as it runs. -/
theorem Reaches.lawful (reached : Reaches event timeout jobs pool) :
    Lawful event timeout jobs pool := by
  induction reached with
  | refl => exact .of_start jobs
  | tail _ last ih => exact ih.step last

/-- How many steps a fan-out has left at most. -/
def left (pool : Pool) : Nat :=
  (pool.workers.map Worker.left).sum +
    match pool.phase with
    | .starting unstarted => 5 * unstarted.length + pool.workers.length + 2
    | .joining joined => pool.workers.length - joined + 1
    | .returned _ => 0

/-- Every step brings a fan-out nearer to its end. -/
theorem Step.left_lt (step : Step event timeout pool next) : next.left < pool.left := by
  cases step with
  | start job unstarted workers errors =>
    simp only [left, List.map_append, List.sum_append, List.length_append, List.length_cons,
      List.map_cons, List.map_nil, List.sum_cons, List.sum_nil, List.length_nil, Worker.left]
    omega
  | wait workers errors => simp [left]
  | join before after errors ended =>
    simp only [left, List.length_append, List.length_cons]
    omega
  | finish workers errors => simp [left]
  | @work phase before after worker moved list recorded advanced =>
    have less := (Worker.advance?_spec advanced).2.2.2.2
    simp only [left, List.map_append, List.map_cons, List.sum_append, List.sum_cons,
      List.length_append, List.length_cons]
    omega

/-- No fan-out runs for ever. -/
theorem wellFounded_step : WellFounded fun next pool => Step event timeout pool next :=
  Subrelation.wf (fun step => step.left_lt) (measure left).wf

/-- A fan-out goes on until it has returned. -/
theorem Lawful.exists_step_iff (lawful : Lawful event timeout jobs pool) :
    (∃ next, Step event timeout pool next) ↔ ∀ errors, pool.phase ≠ .returned errors := by
  obtain ⟨-, -, -, waited⟩ := lawful
  obtain ⟨phase, workers, list⟩ := pool
  constructor
  · rintro ⟨next, step⟩ errors rfl
    cases step with
    | @work _ before after worker moved _ recorded advanced =>
      have ended := waited.2 worker (List.mem_append_right _ List.mem_cons_self)
      rw [Worker.advance?_eq_none_iff.mpr ended] at advanced
      cases advanced
  · intro running
    cases phase with
    | starting unstarted =>
      cases unstarted with
      | nil => exact ⟨_, .wait workers list⟩
      | cons job rest => exact ⟨_, .start job rest workers list⟩
    | joining joined =>
      rcases Nat.lt_or_eq_of_le waited.1 with more | all
      · obtain ⟨before, worker, after, rfl, rfl⟩ :
            ∃ before worker after, workers = before ++ worker :: after ∧
              before.length = joined :=
          ⟨workers.take joined, workers[joined], workers.drop (joined + 1),
            by simp, by simp [Nat.le_of_lt more]⟩
        cases advanced : worker.advance? event timeout with
        | none => exact ⟨_, .join before after list (Worker.advance?_eq_none_iff.mp advanced)⟩
        | some moved => exact ⟨_, .work _ before after list advanced⟩
      · simp only at all
        subst all
        exact ⟨_, .finish workers list⟩
    | returned errors => exact absurd rfl (running errors)

/-- A fan-out that has returned has ended every thread. -/
theorem Lawful.all_ended (lawful : Lawful event timeout jobs pool) {errors : List TargetError}
    (returned : pool.phase = .returned errors) :
    ∀ worker ∈ pool.workers, worker.stage = .ended := by
  have waited := lawful.waited
  simp only [Waited, returned] at waited
  exact waited.2

/-- The threads of a fan-out that has returned did, target by target, what the deliveries do. -/
theorem Lawful.workers_eq (lawful : Lawful event timeout jobs pool) {errors : List TargetError}
    (returned : pool.phase = .returned errors) :
    pool.workers = jobs.map fun job =>
      ⟨job, .ended, (job.outcome event timeout).delivery.requests,
        (job.outcome event timeout).error?.toList⟩ := by
  have started : pool.workers.map Worker.job = jobs := by
    have each := lawful.jobs
    simpa only [unstarted, returned, List.append_nil] using each
  rw [← started, List.map_map]
  refine (List.map_id _).symm.trans (List.map_congr_left fun worker among => ?_)
  have ended := lawful.all_ended returned worker among
  obtain ⟨requests, recorded⟩ := (lawful.faithful worker among).of_ended ended
  obtain ⟨job, stage, sent, put⟩ := worker
  simp only at ended requests recorded
  subst ended requests recorded
  rfl

/-- A fan-out returns the errors of the failed deliveries, one for each, in some order. -/
theorem Lawful.returned_perm (lawful : Lawful event timeout jobs pool)
    {errors : List TargetError} (returned : pool.phase = .returned errors) :
    errors.Perm (jobs.filterMap fun job => (job.outcome event timeout).error?) := by
  have result := lawful.waited
  simp only [Waited, returned] at result
  have all := lawful.errors
  rw [← result.1, lawful.workers_eq returned, List.flatMap_map] at all
  refine all.trans (.of_eq ?_)
  rw [List.filterMap_eq_flatMap_toList]

/-- From wherever a fan-out stands it can come to return. -/
theorem Lawful.exists_returned (lawful : Lawful event timeout jobs pool) :
    ∃ last errors, Relation.ReflTransGen (Step event timeout) pool last ∧
      last.phase = .returned errors := by
  have founded : WellFounded fun next pool => Step event timeout pool next := wellFounded_step
  induction pool using founded.induction with
  | _ pool ih =>
    by_cases unreturned : ∀ errors, pool.phase ≠ .returned errors
    · obtain ⟨next, step⟩ := lawful.exists_step_iff.mpr unreturned
      obtain ⟨last, errors, rest, returned⟩ := ih next step (lawful.step step)
      exact ⟨last, errors, .head step rest, returned⟩
    · obtain ⟨errors, returned⟩ := not_forall_not.mp unreturned
      exact ⟨pool, errors, .refl, returned⟩

end Pool

/-- On one network the failures of the jobs are the errors of the deliveries one after another. -/
theorem syncErrors_syncPassword {network : Network} {jobs : List Job}
    (shared : ∀ job ∈ jobs, job.network = network) :
    syncErrors (syncPassword network (jobs.map Job.target) event timeout) =
      jobs.filterMap fun job => (job.outcome event timeout).error? := by
  rw [syncErrors, syncPassword, List.map_map, List.filterMap_map]
  refine List.filterMap_congr fun job among => ?_
  rw [← shared job among]
  rfl

/-- The thread that a notification starts is settled before any target is called. -/
theorem notify_thread (network : Network) (targets : List Target) :
    (notify network targets event timeout).thread =
      if targets = [] then none else some ("password-sync-" ++ event.username) := by
  cases targets <;> rfl

namespace Notice

variable {jobs : List Job} {notice next : Notice}

/-- What holds of a notification all the time: the caller has its answer as soon as anything has
happened, the background is a fan-out of the jobs, and it logs the errors which that returned. -/
structure Lawful (event : PasswordChanged) (timeout : Int) (jobs : List Job) (notice : Notice) :
    Prop where
  caller : notice = {} ∨
    notice.caller =
        .answered (if jobs = [] then none else some ("password-sync-" ++ event.username)) ∧
      (notice.fanOut = none ↔ jobs = [])
  fanOut : ∀ pool, notice.fanOut = some pool → Pool.Reaches event timeout jobs pool
  logged : notice.logged = [] ∨ ∃ pool errors, notice.fanOut = some pool ∧
    pool.phase = .returned errors ∧ notice.logged <+: errors.map TargetError.logLine

/-- Every step keeps what holds of a notification. -/
theorem Lawful.step (lawful : Lawful event timeout jobs notice)
    (step : Step event timeout jobs notice next) : Lawful event timeout jobs next := by
  cases step with
  | skip nothing =>
    refine ⟨.inr ⟨?_, iff_of_true rfl nothing⟩, nofun, .inl rfl⟩
    rw [if_pos nothing]
  | start something =>
    refine ⟨.inr ⟨?_, iff_of_false nofun something⟩, fun pool same => ?_, .inl rfl⟩
    · rw [if_neg something]
    · obtain rfl := Option.some.inj same
      exact .refl
  | @work caller pool moved logged advanced =>
    have reached := lawful.fanOut pool rfl
    refine ⟨.inr (lawful.caller.resolve_left nofun |>.imp_right fun started => ?_),
      fun later same => ?_, lawful.logged.imp_right ?_⟩
    · exact iff_of_false nofun fun nothing => nomatch started.mpr nothing
    · obtain rfl := Option.some.inj same
      exact reached.tail advanced
    · -- A fan-out that has returned does not move.
      rintro ⟨pool', errors, same, returned, -⟩
      obtain rfl := Option.some.inj same
      exact absurd returned (reached.lawful.exists_step_iff.mp ⟨_, advanced⟩ errors)
  | @log caller pool before after error returned =>
    refine ⟨.inr (lawful.caller.resolve_left nofun), lawful.fanOut,
      .inr ⟨pool, _, rfl, returned, ?_⟩⟩
    exact List.IsPrefix.map _ ⟨after, by simp⟩

/-- Whether a notification about the targets of jobs can come to stand like this. -/
def Reaches (event : PasswordChanged) (timeout : Int) (jobs : List Job) (notice : Notice) : Prop :=
  Relation.ReflTransGen (Step event timeout jobs) {} notice

/-- A notification keeps its laws for as long as it runs. -/
theorem Reaches.lawful (reached : Reaches event timeout jobs notice) :
    Lawful event timeout jobs notice := by
  induction reached with
  | refl => exact ⟨.inl rfl, nofun, .inl rfl⟩
  | tail _ last ih => exact ih.step last

/-- A notification that was not answered yet is with its next step. -/
theorem exists_answering_step (event : PasswordChanged) (timeout : Int) (jobs : List Job) :
    ∃ next, Step event timeout jobs {} next ∧ ∃ thread, next.caller = .answered thread := by
  by_cases nothing : jobs = []
  · exact ⟨_, .skip nothing, _, rfl⟩
  · exact ⟨_, .start nothing, _, rfl⟩

end Notice

open Pool in
/-- Whichever of its threads moves next, a fan-out comes to an end and stops only where it has
returned. Until then the thread of a target makes none but the calls of the delivery to that target
and puts none but its error into the list; what it does is settled by its job alone. The fan-out
returns exactly one error for each delivery that failed, under the name of its target, as making the
deliveries one after another does. Whoever has the fan-out started in the background gets the name
of its thread with the first step and never an error, whatever comes of the calls and in whatever
order things happen; the fan-out goes its way in the background, which logs the errors that it
returns. -/
theorem fan_out_isolated {jobs : List Job} {pool : Pool}
    (reached : Reaches event timeout jobs pool) :
    Acc (fun next pool => Step event timeout pool next) pool ∧
      ((∃ next, Step event timeout pool next) ↔ ∀ errors, pool.phase ≠ .returned errors) ∧
      (∀ worker ∈ pool.workers, worker.job ∈ jobs ∧
        worker.requests <+: (worker.job.outcome event timeout).delivery.requests ∧
        worker.recorded <+: (worker.job.outcome event timeout).error?.toList) ∧
      (∀ errors, pool.phase = .returned errors →
        errors.Perm (jobs.filterMap fun job => (job.outcome event timeout).error?) ∧
          (∀ network, (∀ job ∈ jobs, job.network = network) →
            errors.Perm (syncErrors (syncPassword network (jobs.map Job.target) event timeout))) ∧
          pool.workers = jobs.map fun job =>
            ⟨job, .ended, (job.outcome event timeout).delivery.requests,
              (job.outcome event timeout).error?.toList⟩) ∧
      (∀ network, (notify network (jobs.map Job.target) event timeout).thread =
        if jobs = [] then none else some ("password-sync-" ++ event.username)) ∧
      ∀ notice, Notice.Reaches event timeout jobs notice →
        (∀ error, notice.caller ≠ .raised error) ∧
        (notice.caller = .asking →
          ∃ next, Notice.Step event timeout jobs notice next ∧ next.caller ≠ .asking) ∧
        (notice.caller ≠ .asking →
          (∀ network, notice.caller =
            .answered (notify network (jobs.map Job.target) event timeout).thread) ∧
          (notice.fanOut = none ↔ jobs = [])) ∧
        (∀ pool, notice.fanOut = some pool → Reaches event timeout jobs pool) ∧
        (notice.logged = [] ∨ ∃ pool errors, notice.fanOut = some pool ∧
          pool.phase = .returned errors ∧ notice.logged <+: errors.map TargetError.logLine) := by
  have lawful := reached.lawful
  have named (network : Network) : (notify network (jobs.map Job.target) event timeout).thread =
      if jobs = [] then none else some ("password-sync-" ++ event.username) := by
    rw [notify_thread]
    simp only [List.map_eq_nil_iff]
  refine ⟨wellFounded_step.apply pool, lawful.exists_step_iff, fun worker among => ?_,
    fun errors returned => ⟨lawful.returned_perm returned, fun network shared => ?_,
      lawful.workers_eq returned⟩, named, fun notice run => ?_⟩
  · have faithful := lawful.faithful worker among
    refine ⟨?_, ⟨_, faithful.requests⟩, ⟨_, faithful.recorded⟩⟩
    rw [← lawful.jobs]
    exact List.mem_append_left _ (List.mem_map_of_mem among)
  · rw [syncErrors_syncPassword shared]
    exact lawful.returned_perm returned
  · have sound := run.lawful
    refine ⟨fun error raised => ?_, fun asking => ?_, fun answered => ?_, sound.fanOut,
      sound.logged⟩
    · rcases sound.caller with rfl | ⟨answered, -⟩
      · cases raised
      · cases answered.symm.trans raised
    · rcases sound.caller with rfl | ⟨answered, -⟩
      · obtain ⟨next, step, thread, same⟩ := Notice.exists_answering_step event timeout jobs
        exact ⟨next, step, by rw [same]; nofun⟩
      · cases answered.symm.trans asking
    · rcases sound.caller with rfl | ⟨thread, started⟩
      · exact absurd rfl answered
      · exact ⟨fun network => by rw [named, thread], started⟩

/-- A job for a target at an address where every call gets the same reply. -/
def Job.sample (url : String) (reply : Reply) : Job := ⟨{ name := "copy", url }, fun _ => reply⟩

/-- Of three targets of one name the first has a template that divides by zero and the last refuses
its call: the fan-out returns, with the errors of these two. -/
theorem fan_out_isolated_copies :
    ∃ pool errors,
      Pool.Reaches ⟨"alice", "pw", "hash"⟩ 15
        [.sample "\x7b\x7b 1 / 0 \x7d\x7d" (.response 200 []),
          .sample "http://a/" (.response 204 []), .sample "http://b/" (.response 500 [])] pool ∧
      pool.phase = .returned errors ∧
      errors.Perm
        [⟨"copy", .operation .zeroDivision "division by zero"⟩, ⟨"copy", .refused 500 ""⟩] := by
  obtain ⟨pool, errors, run, returned⟩ := (Pool.Lawful.of_start _).exists_returned
  refine ⟨pool, errors, run, returned, ?_⟩
  refine ((fan_out_isolated run).2.2.2.1 errors returned).1.trans (.of_eq ?_)
  decide +kernel

end AccountSidecar.Webhook
