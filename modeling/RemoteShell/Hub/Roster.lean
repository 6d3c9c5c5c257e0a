import RemoteShell.Session.State

/-!
# The roster of sessions

A hub knows its live sessions by name. A session is entered before it is started
and stays until its handler lets go of it; there are never more than a limit. A
session may be told to stop, and all are told to stop when the hub shuts down.
-/

namespace RemoteShell.Hub

/-- What a session runs, as it was asked for when it was entered. -/
structure Spec where
  shell : String
  workingDir : String
  size : TerminalSize
  deriving DecidableEq, Repr

/-- A live session. -/
structure Entry where
  id : String
  spec : Spec
  /-- When the session was entered, in whole seconds. -/
  createdAt : Nat
  /-- What is known of the session; nothing until it has been set up. -/
  stage : Option Lifecycle
  deriving DecidableEq, Repr

/-- The stage as it is listed. -/
def Entry.state (entry : Entry) : String :=
  match entry.stage with
  | none => "starting"
  | some stage => stage.name

/-- The live sessions, in the order in which they were entered. -/
structure Roster where
  limit : Nat
  entries : List Entry
  /-- The sessions that were told to stop while they were live. -/
  stopped : List String
  isShutDown : Bool
  deriving DecidableEq, Repr

/-- Tells that there is no room for another session. -/
structure LimitReached where
  limit : Nat
  deriving DecidableEq, Repr

/-- The wording of the refusal. -/
def LimitReached.message (refusal : LimitReached) : String :=
  s!"session limit reached (max {refusal.limit})"

namespace Roster

/-- The roster of a hub that has just been started. -/
def ofLimit (limit : Nat) : Roster := ⟨limit, [], [], false⟩

/-- The names of the live sessions. -/
def ids (roster : Roster) : List String := roster.entries.map (·.id)

/-- How many sessions are live. -/
def count (roster : Roster) : Nat := roster.entries.length

/-- Tells whether a session is live. -/
def contains (roster : Roster) (id : String) : Bool := roster.ids.contains id

/-- Enters a session, unless there is no room for it. -/
def reserve (roster : Roster) (id : String) (spec : Spec) (now : Nat) :
    Except LimitReached Roster :=
  if roster.limit ≤ roster.count then .error ⟨roster.limit⟩
  else .ok { roster with entries := roster.entries ++ [⟨id, spec, now, none⟩] }

/-- Takes a session off. -/
def release (roster : Roster) (id : String) : Roster :=
  { roster with entries := roster.entries.filter (·.id ≠ id) }

/-- Notes the stage of a session. -/
def setStage (roster : Roster) (id : String) (stage : Lifecycle) : Roster :=
  { roster with entries := roster.entries.map fun entry =>
      if entry.id = id then { entry with stage := some stage } else entry }

/-- Tells a session to stop, if it is live. It stays on the roster. -/
def kill (roster : Roster) (id : String) : Roster :=
  if roster.contains id then { roster with stopped := id :: roster.stopped } else roster

/-- Tells all sessions to stop, those to come included. -/
def shutDown (roster : Roster) : Roster := { roster with isShutDown := true }

/-- Tells whether a session has to stop. -/
def isStopped (roster : Roster) (id : String) : Bool :=
  roster.isShutDown || roster.stopped.contains id

/-- Entries with the oldest first; those of the same second stay in their order. -/
def oldestFirst (entries : List Entry) : List Entry :=
  entries.mergeSort fun a b => a.createdAt ≤ b.createdAt

/-- The live sessions as they are listed. -/
def listing (roster : Roster) : List Entry := oldestFirst roster.entries

/-- What can be told of entries without their stages stays when a stage is noted. -/
theorem map_entries_setStage {α : Type} {f : Entry → α} (roster : Roster) (id : String)
    (stage : Lifecycle) (hf : ∀ entry : Entry, f { entry with stage := some stage } = f entry) :
    (roster.setStage id stage).entries.map f = roster.entries.map f := by
  rw [setStage, List.map_map]
  refine List.map_congr_left fun entry _ => ?_
  rw [Function.comp]
  split
  · exact hf entry
  · rfl

@[simp] theorem ids_setStage (roster : Roster) (id : String) (stage : Lifecycle) :
    (roster.setStage id stage).ids = roster.ids :=
  map_entries_setStage roster id stage fun _ => rfl

end Roster

end RemoteShell.Hub
