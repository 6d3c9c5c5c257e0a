import RemoteShell.Fault

/-!
# The scope of a session

The tasks of a session run in one scope. The first task to end the session
decides how it ends, and that cancels the scope for all the others. The scope
can also be cancelled from outside, which decides nothing.
-/

namespace RemoteShell

/-- Why a task ends the session. -/
inductive StopReason where
  /-- The client or the shell has left in good order. -/
  | ended
  | failed (error : SessionFault)
  deriving DecidableEq, Repr

/-- What a session has come to, for its caller. -/
def StopReason.result : StopReason → Except SessionFault Unit
  | .ended => .ok ()
  | .failed error => .error error

/-- When the scope was cancelled, and the first reason to end the session. -/
structure Scope where
  cancelledAt : Option Nat
  first : Option StopReason
  deriving DecidableEq, Repr

namespace Scope

/-- A scope in which all tasks may go on. -/
def fresh : Scope := ⟨none, none⟩

/-- Tells whether the tasks have to end. -/
def isCancelled (scope : Scope) : Bool := scope.cancelledAt.isSome

/-- Cancels the scope; only the first time counts. -/
def cancel (scope : Scope) (now : Nat) : Scope :=
  { scope with cancelledAt := scope.cancelledAt.or (some now) }

/-- Records why a task ends the session, of which only the first reason counts, and
cancels the scope. -/
def endWith (scope : Scope) (now : Nat) (reason : StopReason) : Scope :=
  { scope.cancel now with first := scope.first.or (some reason) }

/-- Takes up how a task has ended. -/
def join (scope : Scope) (now : Nat) : Except StopReason Unit → Scope
  | .ok () => scope
  | .error reason => scope.endWith now reason

/-- How the session ends. -/
def result (scope : Scope) : Except SessionFault Unit :=
  match scope.first with
  | none => .ok ()
  | some reason => reason.result

@[simp] theorem isCancelled_cancel (scope : Scope) (now : Nat) :
    (scope.cancel now).isCancelled = true := by
  cases h : scope.cancelledAt <;> simp [cancel, isCancelled, h]

@[simp] theorem isCancelled_endWith (scope : Scope) (now : Nat) (h : StopReason) :
    (scope.endWith now h).isCancelled = true := isCancelled_cancel scope now

end Scope

end RemoteShell
