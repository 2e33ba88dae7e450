import AccountSidecar.Webhook.PasswordSync

/-!
# Threads of a fan-out

A changed password goes out on one thread for each target. The thread that asked for it starts them
one after another, waits for each of them in turn and returns the list into which they put their
errors. Which thread moves next is left open, so a step is a relation. Whoever changed the password
does not wait for that: a notification starts the fan-out in the background (`Notice`).
-/

namespace AccountSidecar.Webhook

/-- A target and the network that its call meets. -/
structure Job where
  target : Target
  network : Network

/-- What becomes of a changed password at the target of a job alone. -/
def Job.outcome (job : Job) (event : PasswordChanged) (timeout : Int) : TargetOutcome :=
  ⟨job.target.name, deliver job.network job.target event.variables timeout⟩

/-- Where the thread of a target stands. -/
inductive Stage where
  /-- Nothing is rendered yet. -/
  | started
  /-- The call is out. -/
  | called (request : Request)
  /-- The delivery failed; its error is still to be put into the list. -/
  | failed (failure : DeliveryFailure)
  | ended
  deriving DecidableEq, Repr

/-- The thread of a target. -/
structure Worker where
  job : Job
  stage : Stage := .started
  /-- The calls that it made. -/
  requests : List Request := []
  /-- The errors that it put into the list. -/
  recorded : List TargetError := []

/-- One step of the thread of a target, with the errors that the step puts into the list. A thread
that has ended takes none. -/
def Worker.advance? (event : PasswordChanged) (timeout : Int) (worker : Worker) :
    Option (Worker × List TargetError) :=
  match worker.stage with
  | .started =>
    match worker.job.target.request event.variables timeout with
    | .error failure => some ({ worker with stage := .failed failure }, [])
    | .ok request =>
      some ({ worker with stage := .called request, requests := worker.requests ++ [request] }, [])
  | .called request =>
    match (worker.job.network request).result with
    | .error failure => some ({ worker with stage := .failed failure }, [])
    | .ok _ => some ({ worker with stage := .ended }, [])
  | .failed failure =>
    let error : TargetError := ⟨worker.job.target.name, failure⟩
    some ({ worker with stage := .ended, recorded := worker.recorded ++ [error] }, [error])
  | .ended => none

/-- Where the thread that asked for the fan-out stands. -/
inductive Phase where
  /-- The threads of these jobs are still to be started. -/
  | starting (left : List Job)
  /-- It has waited for so many threads. -/
  | joining (joined : Nat)
  | returned (errors : List TargetError)

/-- A fan-out under way. -/
structure Pool where
  phase : Phase
  /-- The threads started so far, in the order of their targets. -/
  workers : List Worker := []
  /-- The list that the threads share. -/
  errors : List TargetError := []

namespace Pool

/-- A step of a fan-out: one of its threads moves. -/
inductive Step (event : PasswordChanged) (timeout : Int) : Pool → Pool → Prop
  | start (job : Job) (left : List Job) (workers : List Worker) (errors : List TargetError) :
      Step event timeout ⟨.starting (job :: left), workers, errors⟩
        ⟨.starting left, workers ++ [{ job := job }], errors⟩
  | wait (workers : List Worker) (errors : List TargetError) :
      Step event timeout ⟨.starting [], workers, errors⟩ ⟨.joining 0, workers, errors⟩
  | join (before after : List Worker) {worker : Worker} (errors : List TargetError)
      (ended : worker.stage = .ended) :
      Step event timeout ⟨.joining before.length, before ++ worker :: after, errors⟩
        ⟨.joining (before.length + 1), before ++ worker :: after, errors⟩
  | finish (workers : List Worker) (errors : List TargetError) :
      Step event timeout ⟨.joining workers.length, workers, errors⟩
        ⟨.returned errors, workers, errors⟩
  | work (phase : Phase) (before after : List Worker) {worker next : Worker}
      (errors : List TargetError) {recorded : List TargetError}
      (moved : worker.advance? event timeout = some (next, recorded)) :
      Step event timeout ⟨phase, before ++ worker :: after, errors⟩
        ⟨phase, before ++ next :: after, errors ++ recorded⟩

end Pool

/-- Where whoever notifies about a changed password stands. -/
inductive Caller where
  | asking
  /-- It got the name of the thread in the background, if there is one. -/
  | answered (thread : Option String)
  /-- An error of a target came out of the notification. -/
  | raised (error : TargetError)

/-- A notification under way. -/
structure Notice where
  caller : Caller := .asking
  /-- The fan-out in the background, once it is started. -/
  fanOut : Option Pool := none
  /-- The lines logged in the background. -/
  logged : List String := []

namespace Notice

/-- A step of a notification about the targets of jobs: the caller moves, or the background does. -/
inductive Step (event : PasswordChanged) (timeout : Int) (jobs : List Job) : Notice → Notice → Prop
  | skip (nothing : jobs = []) : Step event timeout jobs {} { caller := .answered none }
  | start (something : jobs ≠ []) :
      Step event timeout jobs {}
        { caller := .answered (some ("password-sync-" ++ event.username)),
          fanOut := some ⟨.starting jobs, [], []⟩ }
  | work (caller : Caller) {pool next : Pool} (logged : List String)
      (moved : Pool.Step event timeout pool next) :
      Step event timeout jobs ⟨caller, some pool, logged⟩ ⟨caller, some next, logged⟩
  | log (caller : Caller) {pool : Pool} {before after : List TargetError} {error : TargetError}
      (returned : pool.phase = .returned (before ++ error :: after)) :
      Step event timeout jobs ⟨caller, some pool, before.map TargetError.logLine⟩
        ⟨caller, some pool, (before ++ [error]).map TargetError.logLine⟩

end Notice

end AccountSidecar.Webhook
