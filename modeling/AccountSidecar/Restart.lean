import AccountSidecar.Text.Class

/-!
# Restarting the auth proxy

The auth proxy reads its users when it starts, so a change of credentials restarts its container.
Nobody waits for the restart; how it ends is only logged.
-/

namespace AccountSidecar.Restart

/-- The container of the auth proxy and the program that restarts it. -/
structure Container where
  name : String := "tinyauth"
  program : String := "docker"
  deriving DecidableEq, Repr

/-- Seconds that a restart may take. -/
def timeout : Int := 60

/-- The command that restarts a container. -/
def Container.command (c : Container) : List String := [c.program, "restart", c.name]

/-- How a command ends. -/
inductive Ending where
  | exited (code : Int) (errors : String)
  | failed (reason : String)
  deriving DecidableEq, Repr

/-- A line of the log, good news or bad. -/
inductive LogLine where
  | info (text : String)
  | error (text : String)
  deriving DecidableEq, Repr

/-- What is logged about a restart. -/
def Container.report (c : Container) : Ending → LogLine
  | .exited code errors =>
    if code = 0 then .info ("Restarted " ++ c.name)
    else
      .error ("Restart of " ++ c.name ++ " failed (exit " ++ toString code ++ "): " ++
        Text.strip errors)
  | .failed reason => .error ("Restart of " ++ c.name ++ " failed: " ++ reason)

end AccountSidecar.Restart
