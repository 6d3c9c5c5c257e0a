import RemoteShell.Output.Outlet
import RemoteShell.Terminal

/-!
# The shell of a session

The side of a session where the shell runs: how it treats the calls of the
session, how much input it still takes, and what it has seen so far.
-/

namespace RemoteShell

/-- What a shell has seen of its session. -/
inductive ShellEvent where
  | openedTerminal (size : TerminalSize)
  | gaveInput
  | listened
  | started
  | resized (size : TerminalSize)
  /-- Input that one write has passed on. -/
  | stdinWrote (bytes : List UInt8)
  /-- The part of some input that could not be passed on. -/
  | stdinFailed (bytes : List UInt8)
  | stdinShutDown
  | closed
  deriving DecidableEq, Repr

/-- How a probe goes. -/
inductive Probe where
  | answered
  | failed (error : ShellFault)
  /-- The probe never returns. -/
  | hanging
  deriving DecidableEq, Repr

/-- The input of a shell. -/
structure Stdin where
  /-- The failure that every write meets, if there is one. -/
  failure : Option String
  /-- How many bytes are still taken; no bound if there is none. -/
  room : Option Nat
  /-- How the shell takes up what has been written. -/
  flushing : Behaviour String
  /-- How shutting the input down goes. -/
  shutdown : Behaviour String
  deriving DecidableEq, Repr

/-- A shell as its session sees it. -/
structure Shell where
  resizing : Behaviour ShellFault
  closing : Behaviour ShellFault
  stdin : Stdin
  /-- The status that the shell has left with, or why it cannot be known. -/
  exit : Option (Except ShellFault Int)
  /-- How the next probes go; all later ones are answered. -/
  probes : List Probe
  probeCount : Nat
  log : List ShellEvent
  deriving Repr

namespace Shell

/-- A shell that does all it is asked. -/
def fresh : Shell := ⟨.prompt, .prompt, ⟨none, none, .prompt, .prompt⟩, none, [], 0, []⟩

/-- Records an event. -/
def record (shell : Shell) (event : ShellEvent) : Shell :=
  { shell with log := shell.log ++ [event] }

/-- Sends a probe. -/
def probe (shell : Shell) : Probe × Shell :=
  let shell := { shell with probeCount := shell.probeCount + 1 }
  match shell.probes with
  | [] => (.answered, shell)
  | next :: later => (next, { shell with probes := later })

end Shell

/-- How setting a shell up goes, step by step. -/
structure Setup where
  openTerminal : Except ShellFault Unit
  giveInput : Except ShellFault Unit
  start : Except ShellFault Unit
  deriving Repr

/-- A setup in which nothing fails. -/
def Setup.smooth : Setup := ⟨.ok (), .ok (), .ok ()⟩

/-- Sets a shell up: its terminal, its input, its output, and then the shell itself.
A shell that cannot be started is closed again. -/
def Setup.perform (setup : Setup) (size : TerminalSize) : Except ShellFault Unit × Shell :=
  let shell := Shell.fresh.record (.openedTerminal size)
  match setup.openTerminal with
  | .error e => (.error e, shell)
  | .ok () =>
    let shell := shell.record .gaveInput
    match setup.giveInput with
    | .error e => (.error e, shell)
    | .ok () =>
      let shell := (shell.record .listened).record .started
      match setup.start with
      | .error e => (.error e, shell.record .closed)
      | .ok () => (.ok (), shell)

end RemoteShell
