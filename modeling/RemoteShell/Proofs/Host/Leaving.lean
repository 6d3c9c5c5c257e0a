import RemoteShell.Host.Seat
import RemoteShell.Session.Scope
import RemoteShell.Session.Shell

/-!
# A login shell that leaves

A login shell leaves by itself, and its end is awaited at once. From then on there is no
program any more that a probe could find (`probe_left`), but the waiting goes on: the output
of the shell is taken until it ends, for two seconds at most. Programs in the background
that keep the terminal open make use of that time.
-/

namespace RemoteShell

instance decidableEqExcept {ε α : Type} [DecidableEq ε] [DecidableEq α] :
    DecidableEq (Except ε α)
  | .ok a, .ok b => decidable_of_iff (a = b) ⟨congrArg _, Except.ok.inj⟩
  | .error a, .error b => decidable_of_iff (a = b) ⟨congrArg _, Except.error.inj⟩
  | .ok _, .error _ | .error _, .ok _ => isFalse nofun

/-- How a probe with the given answer goes. -/
def Probe.ofAnswer : Except ShellFault Unit → Probe
  | .ok () => answered
  | .error e => failed e

namespace Host

/-- A login shell that has been started, and how it leaves. -/
structure Leaving where
  seat : Seat
  pid : Nat
  /-- The status of the shell, and when its end is awaited. -/
  code : Int
  leftAt : Nat
  /-- When the output of the shell ends; never if there is no such instant. -/
  outputEndsAt : Option Nat
  isLast : seat.shell.pid = some pid
  isChild : seat.shell.child = some pid
  isRunning : (pid, .running) ∈ seat.shell.started
  isThere : (pid, .awaited) ∉ seat.shell.started

namespace Leaving

/-- How a shell leaves that has just been started. -/
def ofPath (path : String) (code : Int) (leftAt : Nat) (outputEndsAt : Option Nat) : Leaving where
  seat :=
    let shell := ((LoginShell.ofPath path).openTerminal (.ok 0) (.ok ())).2
    { Seat.make ⟨[]⟩ path "/" [] [] with shell := (shell.start (.ok 0) (.ok ())).2 }
  pid := 0
  code := code
  leftAt := leftAt
  outputEndsAt := outputEndsAt
  isLast := rfl
  isChild := rfl
  isRunning := List.mem_singleton.mpr rfl
  isThere := (by decide : (0, .awaited) ∉ [(0, Fate.running)])

variable (leaving : Leaving)

/-- The seat once the end of the shell has been awaited. -/
def left : Seat :=
  { leaving.seat with shell := (leaving.seat.shell.wait (.ok leaving.code)).2 }

/-- What the waiting for the shell gives. -/
def exit : Except ShellFault Int := (leaving.seat.shell.wait (.ok leaving.code)).1

/-- When the waiting for the shell is over. -/
def endsAt : Nat := LoginShell.waitOver leaving.leftAt leaving.outputEndsAt

/-- What a session comes to that the shell ends. -/
def result : Except SessionFault Unit :=
  if leaving.code = 0 then .ok () else .error (.shellExited leaving.code)

/-- How a probe can go at an instant. At the one at which the shell leaves it may come
before that or after it. -/
def Answers (now : Nat) (probe : Probe) : Prop :=
  now ≤ leaving.leftAt ∧ probe = .ofAnswer leaving.seat.probe ∨
    leaving.leftAt ≤ now ∧ probe = .ofAnswer leaving.left.probe

instance (now : Nat) (probe : Probe) : Decidable (leaving.Answers now probe) :=
  inferInstanceAs (Decidable (_ ∨ _))

/-- The fault of a probe that finds nothing. -/
def notFound : ShellFault := .probe "ESRCH: No such process"

theorem wait_eq : leaving.seat.shell.wait (.ok leaving.code) =
    (.ok leaving.code,
      ({ leaving.seat.shell with child := none } : LoginShell).settleFate leaving.pid
        .awaited) := by
  simp only [LoginShell.wait, LoginShell.takeChild, leaving.isChild, LoginShell.reap]

@[simp] theorem exit_eq : leaving.exit = .ok leaving.code := by
  rw [exit, wait_eq]

/-- A shell that is there is found. -/
@[simp] theorem probe_seat : leaving.seat.probe = .ok () := by
  have hfound : leaving.seat.found = .ok () := by
    simp [Seat.found, leaving.isLast, leaving.isThere]
  simp only [Seat.probe, LoginShell.probe, leaving.isLast, hfound]
  rfl

theorem awaited_mem_left : (leaving.pid, .awaited) ∈ leaving.left.shell.started := by
  rw [left, wait_eq]
  exact List.mem_map.mpr ⟨_, leaving.isRunning, by simp⟩

/-- A shell whose end has been awaited is not found. -/
@[simp] theorem probe_left : leaving.left.probe = .error notFound := by
  have hlast : leaving.left.shell.pid = some leaving.pid := by
    rw [left, wait_eq]
    exact leaving.isLast
  have hfound : leaving.left.found = .error "ESRCH: No such process" := by
    simp [Seat.found, hlast, leaving.awaited_mem_left]
  simp only [Seat.probe, LoginShell.probe, hlast, hfound]
  rfl

theorem answers_iff {now : Nat} {probe : Probe} :
    leaving.Answers now probe ↔ now ≤ leaving.leftAt ∧ probe = .answered ∨
      leaving.leftAt ≤ now ∧ probe = .failed notFound := by
  simp [Answers, Probe.ofAnswer]

theorem leftAt_le_endsAt : leaving.leftAt ≤ leaving.endsAt := by
  unfold endsAt LoginShell.waitOver
  split <;> omega

theorem endsAt_le : leaving.endsAt ≤ leaving.leftAt + LoginShell.drainTimeout :=
  LoginShell.waitOver_le _ _

end Leaving

end Host

end RemoteShell
