import RemoteShell.Session.Clock
import RemoteShell.Session.Timers

/-!
# What happens to a session from outside

A session is run, stopped and closed by its caller; frames come from its client;
its shell writes output, takes input and leaves. None of this waits: the session
takes it up when it settles. Chance decides what a task looks at first.
-/

namespace RemoteShell

namespace Session

/-! ## The caller -/

/-- Runs the session. All tasks start, the pump with a tick at once and the watchdog
with one after its period. A session runs only once. There is no answer if a timer
cannot be started, for then the program breaks off. -/
def run (s : Session) : Option (Except SessionFault Session) :=
  match s.startedAt with
  | some _ => some (.error .alreadyRun)
  | none =>
    (s.options.startTimers? s.now).map fun timers =>
      .ok { s with
        startedAt := some s.now
        lifecycle := .running
        relay := .reading
        pump := .waiting timers.flush
        watchdog := .waiting timers.probe 0
        exitWatch := .waiting
        closer := .waiting
        runner := .running }

/-- Asks the session to stop. -/
def stop (s : Session) : Session := { s with stopRequested := true }

/-- Closes the session: its tasks have to end, and the shell is torn down unless
somebody else sees to that already. -/
def close (s : Session) : Session :=
  let s := s.cancel
  match s.startTeardown? (.caller s.closeCalls.length) with
  | some s => { s with closeCalls := s.closeCalls ++ [none] }
  | none => { s with closeCalls := s.closeCalls ++ [some (.ok ())] }

/-! ## The client -/

/-- Something arrives from the client. -/
def arrive (s : Session) (frame : Arrival) : Session := { s with inbox := s.inbox ++ [frame] }

/-- Changes how the client takes writes. -/
def setWriting (s : Session) (writing : Behaviour ClientFault) : Session :=
  { s with outlet := { s.outlet with writing } }

/-- Changes how closing the link goes. -/
def setClosing (s : Session) (closing : Behaviour ClientFault) : Session := { s with closing }

/-! ## The shell -/

/-- The shell writes output. -/
def emit (s : Session) (bytes : List UInt8) : Session := { s with outlet := s.outlet.emit bytes }

/-- Changes something about the shell. -/
def withShell (s : Session) (f : Shell → Shell) : Session := { s with shell := f s.shell }

/-! ## Chance -/

/-- Settles what the tasks look at first from now on. -/
def setEndFirst (s : Session) (endFirst : Bool) : Session := { s with endFirst }

end Session

namespace Shell

/-- The shell leaves, or it becomes clear that its status cannot be known. -/
def leave (shell : Shell) (exit : Except ShellFault Int) : Shell :=
  { shell with exit := some exit }

/-- Settles how further probes go. -/
def expectProbes (shell : Shell) (probes : List Probe) : Shell :=
  { shell with probes := shell.probes ++ probes }

/-- Changes how the shell takes a new size. -/
def setResizing (shell : Shell) (resizing : Behaviour ShellFault) : Shell :=
  { shell with resizing }

/-- Changes how closing the shell goes. -/
def setClosing (shell : Shell) (closing : Behaviour ShellFault) : Shell := { shell with closing }

/-- Changes whether writes of input fail. -/
def setFailure (shell : Shell) (failure : Option String) : Shell :=
  { shell with stdin := { shell.stdin with failure } }

/-- Changes how much input the shell takes. -/
def setRoom (shell : Shell) (room : Option Nat) : Shell :=
  { shell with stdin := { shell.stdin with room } }

/-- Changes how the shell takes up what has been written. -/
def setFlushing (shell : Shell) (flushing : Behaviour String) : Shell :=
  { shell with stdin := { shell.stdin with flushing } }

/-- Changes how shutting down the input goes. -/
def setShutdown (shell : Shell) (shutdown : Behaviour String) : Shell :=
  { shell with stdin := { shell.stdin with shutdown } }

end Shell

end RemoteShell
