import RemoteShell.FileTree
import RemoteShell.Hub.Roster
import RemoteShell.Settings.Basic

/-!
# The hub

A hub serves sessions on one host. It has its settings, the files of the host,
where shells are looked for, and the roster of its sessions.
-/

namespace RemoteShell

/-- A hub. Times are in whole seconds. -/
structure Hub where
  settings : Settings
  files : FileTree
  roster : Hub.Roster
  /-- The time of the calendar. -/
  now : Nat
  /-- What the clock of the host shows, which nobody sets. -/
  clock : Nat
  /-- What the clock showed when the hub was started. -/
  startedAt : Nat
  deriving Repr

namespace Hub

/-- A hub that has just been started. The host has been up for a while by then. -/
def start (settings : Settings) (files : FileTree) (now : Nat) (clock : Nat := 1) : Hub :=
  ⟨settings, files, .ofLimit settings.server.maxSessions, now, clock, clock⟩

/-- How long the hub has been up. -/
def uptime (hub : Hub) : Nat := hub.clock - hub.startedAt

/-- Changes something about the roster. -/
def withRoster (hub : Hub) (f : Roster → Roster) : Hub := { hub with roster := f hub.roster }

end Hub

end RemoteShell
