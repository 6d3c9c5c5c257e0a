import RemoteShell.Output.Pump
import RemoteShell.Session.Options
import RemoteShell.Session.Scope
import RemoteShell.Session.Shell

/-!
# Sessions

A session joins one client to one shell. Its tasks run in one scope:

* the relay passes frames of the client on to the shell,
* the pump sends output of the shell to the client,
* the watchdog probes the shell,
* the exit watch waits for the shell to leave,
* the closer closes the link once the pump has ended.

The runner waits for all of them and makes sure that the shell is torn down,
which happens once, whoever asks for it first.
-/

namespace RemoteShell

/-- What arrives from a client. -/
inductive Arrival where
  | text (text : String)
  | binary (bytes : List UInt8)
  /-- The client has left. -/
  | hangUp
  /-- Reading fails. -/
  | failure (error : ClientFault)
  deriving DecidableEq, Repr

/-- The stages of a session. -/
inductive Lifecycle where
  | created
  | running
  | draining
  | closed
  deriving DecidableEq, Repr

/-- The name of a stage. -/
def Lifecycle.name : Lifecycle → String
  | .created => "created"
  | .running => "running"
  | .draining => "draining"
  | .closed => "closed"

/-- The task that passes frames on. It deals with one frame after the other. -/
inductive Relay where
  | idle
  | reading
  /-- The shell has been told a new size and has not returned. -/
  | resizing
  /-- The shell has not taken this input yet. -/
  | writing (rest : List UInt8)
  /-- All input of the frame has been written, and the shell has to take it up. -/
  | flushing
  | finished
  deriving DecidableEq, Repr

/-- Tells whether the relay holds the input of the shell. -/
def Relay.holdsInput : Relay → Bool
  | .writing _ | .flushing => true
  | .idle | .reading | .resizing | .finished => false

/-- The task that probes the shell, with the failures in a row so far. -/
inductive Watchdog where
  | idle
  | waiting (due failures : Nat)
  /-- A probe is under way; its outcome shows when it returns. -/
  | probing (outcome : Probe) (due failures : Nat)
  | finished
  deriving DecidableEq, Repr

/-- The task that waits for the shell to leave. -/
inductive ExitWatch where
  | idle
  | waiting
  /-- It tears the shell down. -/
  | closing
  | finished
  deriving DecidableEq, Repr

/-- The task that closes the link to the client. -/
inductive Closer where
  | idle
  | waiting
  /-- It waits for the pump to end. -/
  | draining
  /-- The link is being closed, and given up at the deadline. -/
  | closing (deadline : Nat)
  | finished
  deriving DecidableEq, Repr

/-- Who tears the shell down. -/
inductive Owner where
  | exitWatch
  | runner
  /-- The call of `close` with this number. -/
  | caller (index : Nat)
  deriving DecidableEq, Repr

/-- The teardown: the input of the shell is taken away and shut down first, then the
shell is closed. -/
inductive Teardown where
  | idle
  /-- The input may be held by the relay. -/
  | takingStdin (owner : Owner)
  | shuttingStdin (owner : Owner)
  | closingShell (owner : Owner)
  | finished (owner : Owner) (result : Except ShellFault Unit)
  deriving Repr

/-- Tells whether the teardown has taken the input of the shell, for good. -/
def Teardown.hasTakenInput : Teardown → Bool
  | .idle | .takingStdin _ => false
  | .shuttingStdin _ | .closingShell _ | .finished .. => true

/-- The call that runs the session. -/
inductive Runner where
  | idle
  | running
  /-- It tears the shell down. -/
  | closing
  | returned (result : Except SessionFault Unit)
  deriving Repr

/-- A session, with what its client and its shell do. -/
structure Session where
  options : Options
  now : Nat
  startedAt : Option Nat
  /-- Whether the caller has asked the session to stop. -/
  stopRequested : Bool
  /-- What has arrived from the client and has not been read. -/
  inbox : List Arrival
  outlet : Outlet
  /-- How closing the link goes. -/
  closing : Behaviour ClientFault
  shell : Shell
  scope : Scope
  lifecycle : Lifecycle
  relay : Relay
  pump : Pump
  watchdog : Watchdog
  exitWatch : ExitWatch
  closer : Closer
  runner : Runner
  teardown : Teardown
  /-- Which of two things a task looks at first when it waits for either: the one that
  ends it, or the other one. Each time this is left to chance, so it changes freely. -/
  endFirst : Bool
  /-- What each call of `close` has returned, in the order of the calls. -/
  closeCalls : List (Option (Except ShellFault Unit))
  deriving Repr

namespace Session

/-- The session of a shell that has been set up. -/
def ofShell (options : Options) (shell : Shell) : Session where
  options := options.clamped
  now := 0
  startedAt := none
  stopRequested := false
  inbox := []
  outlet := .fresh
  closing := .prompt
  shell := shell
  scope := .fresh
  lifecycle := .created
  relay := .idle
  pump := .idle
  watchdog := .idle
  exitWatch := .idle
  closer := .idle
  runner := .idle
  teardown := .idle
  endFirst := true
  closeCalls := []

/-- Sets a shell up and makes its session. -/
def prepare (options : Options) (size : TerminalSize) (setup : Setup) :
    Except ShellFault Session × Shell :=
  match setup.perform size with
  | (.ok (), shell) => (.ok (ofShell options shell), shell)
  | (.error e, shell) => (.error e, shell)

/-- Tells whether the tasks have to end. -/
def isCancelled (s : Session) : Bool := s.scope.isCancelled

/-- Tells the tasks to end. -/
def cancel (s : Session) : Session := { s with scope := s.scope.cancel s.now }

/-- Ends the session on behalf of a task. -/
def endWith (s : Session) (reason : StopReason) : Session :=
  { s with scope := s.scope.endWith s.now reason }

/-- How many bytes the shell has written, as far as they are counted. -/
def bytesOut (s : Session) : UInt64 := s.outlet.buffer.total

/-- What running the session has returned. -/
def result (s : Session) : Option (Except SessionFault Unit) :=
  match s.runner with
  | .returned result => some result
  | _ => none

end Session

end RemoteShell
