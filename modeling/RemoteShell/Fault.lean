/-!
# Failures

A session joins a client link to a shell. Either side can fail, the shell can
leave with a status of its own, and a shell that no longer answers is given up.
-/

namespace RemoteShell

/-- A failure of the link to the client. -/
inductive ClientFault where
  /-- Reading or writing failed. -/
  | transport (message : String)
  /-- This side has closed the link. -/
  | closed
  deriving DecidableEq, Repr

/-- A failure of the shell or of the terminal it runs on. -/
inductive ShellFault where
  /-- No terminal could be set up. -/
  | terminal (message : String)
  /-- The shell could not be started. -/
  | start (message : String)
  /-- Data could not be passed on. -/
  | transfer (message : String)
  /-- The shell does not run yet. -/
  | notStarted
  /-- The input of the shell belongs to somebody else already. -/
  | inputTaken
  /-- The shell has been shut down. -/
  | closed
  /-- The shell could not be probed. -/
  | probe (message : String)
  deriving DecidableEq, Repr

/-- Why a session did not end well. -/
inductive SessionFault where
  | client (error : ClientFault)
  | backend (error : ShellFault)
  /-- The shell left with a status other than zero. -/
  | shellExited (code : Int)
  /-- Too many probes in a row have failed; the last one in this way. -/
  | unresponsive (error : ShellFault)
  /-- A session runs only once. -/
  | alreadyRun
  deriving DecidableEq, Repr

/-- The wording of a client failure. -/
def ClientFault.message : ClientFault → String
  | .transport message => s!"client transport error: {message}"
  | .closed => "client connection is closed"

/-- The wording of a shell failure. -/
def ShellFault.message : ShellFault → String
  | .terminal message => s!"pty request failed: {message}"
  | .start message => s!"failed to start shell: {message}"
  | .transfer message => s!"backend I/O error: {message}"
  | .notStarted => "shell has not been started"
  | .inputTaken => "stdin has already been taken"
  | .closed => "backend is closed"
  | .probe message => s!"liveness probe failed: {message}"

/-- The wording of a session failure. -/
def SessionFault.message : SessionFault → String
  | .client error => error.message
  | .backend error => error.message
  | .shellExited code => s!"shell exited with status {code}"
  | .unresponsive error => s!"session appears dead: {error.message}"
  | .alreadyRun => "bridge has already been run"

/-- Tells whether a shell that leaves with this status has ended well. -/
def isCleanExit (code : Int) : Bool := code = 0

end RemoteShell
