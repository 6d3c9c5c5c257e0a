import RemoteShell.Fault
import RemoteShell.Time

/-!
# Login shells

A login shell runs on a terminal of the host. It is set up, used and closed by calls
that may come in any order, and each of them asks the host for something that may
be refused; what the host says is a part of the call. Terminals and programs are
known by number.
-/

namespace RemoteShell.Host

/-- What has become of a program that a shell has started. -/
inductive Fate where
  | running
  /-- It has been sent the signal that nothing survives. -/
  | killed
  /-- Its end has been waited for. -/
  | awaited
  deriving DecidableEq, Repr

/-- What the host says to a kill. -/
inductive KillResult where
  | sent
  /-- There is nothing left to kill. -/
  | gone
  | refused (message : String)
  deriving DecidableEq, Repr

/-- A login shell. -/
structure LoginShell where
  /-- The path of the shell, as it stands in messages. -/
  path : String
  /-- A terminal of which both ends are held. -/
  pair : Option Nat
  /-- The terminal whose one end is held while the shell runs on the other. -/
  terminal : Option Nat
  /-- The terminal whose input has not been given away. -/
  stdin : Option Nat
  /-- Whether the output goes anywhere. -/
  hasSink : Bool
  /-- The program that can be waited for. -/
  child : Option Nat
  /-- The program that was started last. -/
  pid : Option Nat
  isClosed : Bool
  /-- All programs that were ever started, and what has become of them. -/
  started : List (Nat × Fate)
  deriving Repr

namespace LoginShell

/-- A shell that has not been set up. -/
def ofPath (path : String) : LoginShell :=
  ⟨path, none, none, none, false, none, none, false, []⟩

/-- Notes the fate of a program whose end has not been waited for. -/
def settleFate (shell : LoginShell) (pid : Nat) (fate : Fate) : LoginShell :=
  { shell with started := shell.started.map fun (p, f) =>
      if p = pid ∧ f ≠ .awaited then (p, fate) else (p, f) }

/-- Lets go of the program that could be waited for. Nobody can wait for it any more, so
it is killed. -/
def dropChild (shell : LoginShell) : LoginShell :=
  match shell.child with
  | none => shell
  | some pid => { shell.settleFate pid .killed with child := none }

/-- Sets up a terminal. The host makes one and then gives out its input. -/
def openTerminal (shell : LoginShell) (opened : Except String Nat) (copied : Except String Unit) :
    Except ShellFault Unit × LoginShell :=
  match opened with
  | .error message => (.error (.terminal message), shell)
  | .ok terminal =>
    match copied with
    | .error message => (.error (.transfer message), shell)
    | .ok () => (.ok (), { shell with stdin := some terminal, pair := some terminal })

/-- Gives the input of the terminal away. -/
def giveInput (shell : LoginShell) : Except ShellFault Nat × LoginShell :=
  match shell.stdin with
  | none => (.error .inputTaken, shell)
  | some terminal => (.ok terminal, { shell with stdin := none })

/-- Sends the output somewhere. -/
def listen (shell : LoginShell) : LoginShell := { shell with hasSink := true }

/-- Starts the shell on the terminal. The host starts a program and then gives out the
output of the terminal. A shell that was started before is let go. -/
def start (shell : LoginShell) (spawned : Except String Nat) (copied : Except String Unit) :
    Except ShellFault Unit × LoginShell :=
  match shell.pair with
  | none => (.error .notStarted, shell)
  | some terminal =>
    let shell := { shell with pair := none }
    match spawned with
    | .error message => (.error (.start s!"{shell.path}: {message}"), shell)
    | .ok pid =>
      match copied with
      | .error message =>
        (.error (.transfer message),
          { shell with pid := some pid, started := shell.started ++ [(pid, .killed)] })
      | .ok () =>
        (.ok (), { shell.dropChild with
          pid := some pid
          child := some pid
          terminal := some terminal
          started := shell.dropChild.started ++ [(pid, .running)] })

/-- Tells the terminal another size. -/
def resize (shell : LoginShell) (resized : Except String Unit) : Except ShellFault Unit :=
  match shell.terminal with
  | none => .error .notStarted
  | some _ => resized.mapError .terminal

/-- Checks that the shell is there. -/
def probe (shell : LoginShell) (found : Except String Unit) : Except ShellFault Unit :=
  match shell.pid with
  | none => .error .notStarted
  | some _ => found.mapError .probe

/-- Begins to wait for the shell. Nobody else can wait for it then. -/
def takeChild (shell : LoginShell) : Except ShellFault Nat × LoginShell :=
  match shell.child with
  | none => (.error .notStarted, shell)
  | some pid => (.ok pid, { shell with child := none })

/-- How long the output of a shell that has left is still taken. -/
def drainTimeout : Nat := seconds 2

/-- When the waiting for a shell that has left is over: once its output has ended, which
programs in the background can hold up, but only for so long. -/
def waitOver (leftAt : Nat) (outputEndsAt : Option Nat) : Nat :=
  match outputEndsAt with
  | none => leftAt + drainTimeout
  | some endsAt => min (max leftAt endsAt) (leftAt + drainTimeout)

/-- Takes up how the waiting for a program has gone. -/
def reap (shell : LoginShell) (pid : Nat) (awaited : Except String Int) :
    Except ShellFault Int × LoginShell :=
  match awaited with
  | .error message => (.error (.transfer message), shell.settleFate pid .killed)
  | .ok code => (.ok code, shell.settleFate pid .awaited)

/-- Waits for the shell to leave. -/
def wait (shell : LoginShell) (awaited : Except String Int) :
    Except ShellFault Int × LoginShell :=
  match shell.takeChild with
  | (.error e, shell) => (.error e, shell)
  | (.ok pid, shell) => shell.reap pid awaited

/-- Closes the shell. Only the first call does anything: it lets go of the input, kills the
program that was started last and lets go of the terminal. -/
def close (shell : LoginShell) (killed : KillResult) : Except ShellFault Unit × LoginShell :=
  if shell.isClosed then (.ok (), shell)
  else
    let shell := { shell with isClosed := true, stdin := none }
    match shell.pid with
    | none => (.ok (), { shell with terminal := none })
    | some pid =>
      match killed with
      | .refused message => (.error (.transfer message), shell)
      | .sent | .gone => (.ok (), { shell.settleFate pid .killed with terminal := none })

/-- Waiting for a shell that has left takes no longer than its output may. -/
theorem waitOver_le (leftAt : Nat) (outputEndsAt : Option Nat) :
    waitOver leftAt outputEndsAt ≤ leftAt + drainTimeout := by
  unfold waitOver
  split <;> omega

end LoginShell

end RemoteShell.Host
